import NetLatencyLab.Common.SpscQueue
import NetLatencyLab.Receiver.Accounting

/-! # `receiver_threaded`

An ingress thread that receives, accounts and pushes, and a worker that drains
the queue. Their shared variables are the queue, the stop flag and
`producer_done`; one action moves one thread past one access to them. -/

namespace NetLatencyLab.Receiver

def queueCapacity : SpscQueue.Capacity := ⟨4096, 12, by decide, by decide⟩

/-- Where the ingress thread stands. A batch is the part of the received
messages that is still to be handled. -/
inductive Ingress where
  | receiving
  | handling (batch : List Datagram) (receiveTs receiveMonoTs : UInt64)
  | pushing (packet : ReceivedPacket) (batch : List Datagram) (receiveTs receiveMonoTs : UInt64)
  | leaving
  | measuring
  | announcing (drainStart : UInt64)
  | joining (drainStart : UInt64)
  | finished

/-- The two loops of the worker; `batch` carries its loop variable. -/
inductive Round where
  | batch (index : Nat)
  | drain
deriving DecidableEq

inductive Worker where
  | checking
  | front (round : Round)
  | pop (round : Round)
  | exited
deriving DecidableEq

structure IngressThread where
  position : Ingress
  socket : List Datagram
  stats : Stats
  sequences : SequenceTracker

structure WorkerThread where
  position : Worker
  processing : ProcessingStats

structure ThreadedState where
  queue : SpscQueue.State ReceivedPacket
  stop : Bool
  producerDone : Bool
  ingress : IngressThread
  worker : WorkerThread
  logger : BinaryLogger

inductive ThreadedAction where
  | signal
  | ingress (environment : Environment)
  | worker (readings : ProcessReadings)

section Steps

variable (fwrite : List UInt8 → Nat) (host : Endianness) (config : Config)

def ingressReceive (stop : Bool) (thread : IngressThread) (environment : Environment) :
    IngressThread :=
  if stop || !wantsMore config thread.stats then { thread with position := .leaving }
  else
    let stats := thread.stats.countSyscall
    match environment.reply with
    | .failed errno =>
        if isTransient errno then { thread with stats := stats }
        else { thread with position := .leaving, stats := stats.countSocketError }
    | .delivered count =>
        let received := min count (requested config thread.stats)
        { thread with
          position := .handling (thread.socket.take received)
            (receiveTimestamp config environment) environment.monoNs
          socket := thread.socket.drop received
          stats := stats }

/-- One received message, up to its `push`. -/
def ingressHandle (thread : IngressThread) (datagram : Datagram) (batch : List Datagram)
    (receiveTs receiveMonoTs : UInt64) : IngressThread :=
  let received :=
    receiveMessage host config thread.stats thread.sequences receiveTs receiveMonoTs datagram
  { thread with
    position :=
      match received.2.2 with
      | none => .handling batch receiveTs receiveMonoTs
      | some packet => .pushing packet batch receiveTs receiveMonoTs
    stats := received.1
    sequences := received.2.1 }

/-- `if (!queue.push(...)) ++stats.spsc_overflow`, once `push` has returned. -/
def ingressPushed (thread : IngressThread) (batch : List Datagram)
    (receiveTs receiveMonoTs : UInt64) (result : Bool) : IngressThread :=
  { thread with
    position := .handling batch receiveTs receiveMonoTs
    stats := if result then thread.stats else thread.stats.countOverflow }

def interruptedStats (stats : Stats) (stop : Bool) (pendingBytes : Nat) : Stats :=
  { stats with interrupted := stop, socketPendingBytesAtShutdown := pendingBytes }

def measuredStats (stats : Stats) (queue : SpscQueue.State ReceivedPacket) : Stats :=
  { stats with queueDepthAtShutdown := SpscQueue.size queueCapacity queue.head queue.tail }

/-- After `worker.join()`. -/
def joinedStats (thread : IngressThread) (processing : ProcessingStats) (drainNs : UInt64) :
    Stats :=
  let stats := { thread.stats with drainDurationNs := drainNs }
  mergeProcessing (finalizeReceiveSequences stats thread.sequences) processing

def ingressStep (state : ThreadedState) (environment : Environment) :
    ThreadedState × List (SpscQueue.Event ReceivedPacket) :=
  let thread := state.ingress
  match thread.position with
  | .receiving =>
      ({ state with ingress := ingressReceive config state.stop thread environment }, [])
  | .handling [] _ _ => ({ state with ingress := { thread with position := .receiving } }, [])
  | .handling (datagram :: batch) receiveTs receiveMonoTs =>
      ({ state with
          ingress := ingressHandle host config thread datagram batch receiveTs receiveMonoTs }, [])
  | .pushing packet batch receiveTs receiveMonoTs =>
      let pushed := SpscQueue.producerStep queueCapacity state.queue packet
      let thread :=
        match pushed.2.pushAnswer? with
        | none => thread
        | some answer => ingressPushed thread batch receiveTs receiveMonoTs answer.2
      ({ state with queue := pushed.1, ingress := thread }, [pushed.2])
  | .leaving =>
      let stats := interruptedStats thread.stats state.stop environment.pendingBytes
      ({ state with ingress := { thread with position := .measuring, stats := stats } }, [])
  | .measuring =>
      ({ state with
          ingress :=
            { thread with
              position := .announcing environment.monoNs
              stats := measuredStats thread.stats state.queue } }, [])
  | .announcing drainStart =>
      ({ state with
          producerDone := true
          ingress := { thread with position := .joining drainStart } }, [])
  | .joining drainStart =>
      if state.worker.position = .exited then
        ({ state with
            ingress :=
              { thread with
                position := .finished
                stats := joinedStats thread state.worker.processing
                  (environment.monoNs - drainStart) }
            logger := state.logger.flush fwrite }, [])
      else (state, [])
  | .finished => (state, [])

/-- Where the worker goes when `front` finds nothing. -/
def Round.afterEmpty : Round → Worker
  | .batch _ => .checking
  | .drain => .exited

/-- Where the worker goes after a `pop`. -/
def Round.afterPop : Round → Worker
  | .batch index =>
      if index + 1 < config.batchSize then .front (.batch (index + 1)) else .checking
  | .drain => .front .drain

/-- The worker's `found` flag only decides about `cpu_relax` and is left out. -/
def workerStep (state : ThreadedState) (readings : ProcessReadings) :
    ThreadedState × List (SpscQueue.Event ReceivedPacket) :=
  let thread := state.worker
  match thread.position with
  | .checking =>
      let round := if state.producerDone then .drain else .batch 0
      ({ state with worker := { thread with position := .front round } }, [])
  | .front round =>
      let fronted := SpscQueue.consumerStep queueCapacity true state.queue .front
      match fronted.2.frontAnswer? with
      | none => ({ state with queue := fronted.1 }, [fronted.2])
      | some none =>
          ({ state with
              queue := fronted.1
              worker := { thread with position := round.afterEmpty } }, [fronted.2])
      | some (some packet) =>
          let processed :=
            processPacket fwrite state.logger thread.processing packet config.workNs readings
          ({ state with
              queue := fronted.1
              worker := { position := .pop round, processing := processed.2 }
              logger := processed.1 }, [fronted.2])
  | .pop round =>
      let popped := SpscQueue.consumerStep queueCapacity true state.queue .pop
      match popped.2.popped? with
      | none => ({ state with queue := popped.1 }, [popped.2])
      | some _ =>
          ({ state with
              queue := popped.1
              worker := { thread with position := round.afterPop config } }, [popped.2])
  | .exited => (state, [])

def threadedStep (state : ThreadedState) :
    ThreadedAction → ThreadedState × List (SpscQueue.Event ReceivedPacket)
  | .signal => ({ state with stop := true }, [])
  | .ingress environment => ingressStep fwrite host config state environment
  | .worker readings => workerStep fwrite config state readings

def threadedMachine :
    Machine ThreadedState ThreadedAction (SpscQueue.Event ReceivedPacket) where
  step := threadedStep fwrite host config

def threadedStart (datagrams : List Datagram) : ThreadedState where
  queue := SpscQueue.initial fun _ => default
  stop := false
  producerDone := false
  ingress := { position := .receiving, socket := datagrams, stats := {}, sequences := .fresh }
  worker := { position := .checking, processing := {} }
  logger := BinaryLogger.create true fwrite

end Steps

end NetLatencyLab.Receiver
