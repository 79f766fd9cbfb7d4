import NetLatencyLab.Foundation.Machine
import NetLatencyLab.Sender.Common
import Mathlib.Data.List.OfFn
import Mathlib.Logic.Function.Basic

/-! # The sender

`run_worker` for every worker, around the shared sequence counter and the stop
flag, and the aggregation that `main` does after the joins. One action moves one
worker past one access to them or past one call of `sendmmsg`. `pace_until` only
waits and is left out. -/

namespace NetLatencyLab.Sender

inductive Mode where
  | steady
  | burst
  | flood
deriving DecidableEq

/-- The options of the sender with the ranges its parser enforces. -/
structure Config where
  ratePps : Nat
  durationNs : Nat
  mode : Mode
  burstSize : Nat
  payloadSize : Nat
  timestampEvery : Nat
  sendBatchMax : Nat
  batchWindowUs : Nat
  threads : Nat
  /-- `--pacing-trace` is given. -/
  tracing : Bool
  rateRange : 1 ≤ ratePps ∧ ratePps < 2 ^ 64
  durationRange : 1 ≤ durationNs ∧ durationNs < 2 ^ 64
  burstRange : 1 ≤ burstSize ∧ burstSize < 2 ^ 32
  payloadRange : MessageHeader.size ≤ payloadSize ∧ payloadSize ≤ 65507
  batchRange : 1 ≤ sendBatchMax ∧ sendBatchMax ≤ 1024
  windowRange : 1 ≤ batchWindowUs ∧ batchWindowUs ≤ 1000000
  threadRange : 1 ≤ threads ∧ threads ≤ 128
  steadyBurst : mode = .steady → burstSize = 1
  burstThreads : mode = .burst → threads = 1

structure TraceRecord where
  actualMonoNs : Nat
  scheduledMonoNs : Nat
  firstSequence : Nat
  packetCount : Nat
  threadIndex : Nat
deriving DecidableEq

structure WorkerStats where
  attemptedSends : Nat := 0
  successfulSends : Nat := 0
  failedSends : Nat := 0
  successfulBytes : Nat := 0
  syscallCount : Nat := 0
  partialReturns : Nat := 0
  errorReturns : Nat := 0
  latenessSamples : Nat := 0
  latenessSumNs : Nat := 0
  latenessMaxNs : Nat := 0
  lastError : Nat := 0
  batchHistogram : List Nat
  latenessNs : List Nat := []
  trace : List TraceRecord := []
deriving DecidableEq

/-- A payload and the 64-bit sequence number of which its header carries the
lower half. -/
structure Transmission where
  sequence : Nat
  payload : List UInt8
deriving DecidableEq

/-- A batch with its messages, between the allocation of its sequence range and
its last `sendmmsg`. -/
structure Batch where
  count : Nat
  scheduled : Nat
  firstSequence : Nat
  messages : List Transmission

inductive Position where
  | checking
  | allocating (count scheduled : Nat)
  | sending (batch : Batch) (offset : Nat)
  | leaving
  | finished

structure Worker where
  position : Position
  /-- `socket_fd >= 0`. -/
  socketOpen : Bool
  packetIndex : Nat
  stats : WorkerStats

/-- The variables that every worker derives from the start time. -/
structure Window where
  start : Nat
  finish : Nat
  packetLimit : Nat

def Config.window (config : Config) (start : Nat) : Window where
  start := start
  finish := (start + config.durationNs) % 2 ^ 64
  packetLimit := scheduledPacketCount config.durationNs config.ratePps

structure State (config : Config) where
  stop : Bool
  nextSequence : Nat
  workers : Fin config.threads → Worker

/-- What one step of a worker learns from its surroundings: clock readings and
the answer of `sendmmsg`. -/
structure Environment where
  now : Nat
  invocation : Nat
  completion : Nat
  /-- The readings for the messages of a batch, by their index in it. -/
  realNs : Nat → UInt64
  result : Int
  errno : Nat

inductive Action (config : Config) where
  | signal
  | worker (index : Fin config.threads) (environment : Environment)

/-- A choice of a batch, an allocation of a sequence range, a message that the
kernel has taken. -/
inductive Event where
  | chosen (packetIndex count : Nat)
  | allocated (firstSequence count : Nat)
  | sent (transmission : Transmission)
deriving DecidableEq

/-! ## The steps of one worker -/

section Steps

variable (host : Endianness) (config : Config) (window : Window)

def wantsBatch (worker : Worker) (stop : Bool) (now : Nat) : Bool :=
  worker.socketOpen && !stop && now < window.finish &&
    (config.mode == .flood || worker.packetIndex < window.packetLimit)

def chooseBatch (packetIndex : Nat) : Nat × Nat :=
  match config.mode with
  | .flood => (config.sendBatchMax, 0)
  | .burst =>
      let count := min config.sendBatchMax (min (config.burstSize - packetIndex % config.burstSize)
        (window.packetLimit - packetIndex))
      let burstStart := packetIndex - packetIndex % config.burstSize
      (count, deadlineNs window.start burstStart config.ratePps)
  | .steady =>
      (adaptiveBatchCount packetIndex window.packetLimit config.threads config.ratePps
          (config.batchWindowUs * 1000) config.sendBatchMax,
        deadlineNs window.start packetIndex config.ratePps)

def encodeMessage (sequence : Nat) (realNs : UInt64) : Transmission :=
  let timestamped : Bool :=
    config.timestampEvery != 0 && sequence % config.timestampEvery == 0
  let message : MessageHeader :=
    { magic := 0x6584
      version := 1
      msgType := 0
      seqIdx := UInt32.ofNat sequence
      sendUnixNs := if timestamped then realNs else 0 }
  { sequence := sequence
    payload := (message.toNetwork host).toMemory host ++
      List.replicate (config.payloadSize - MessageHeader.size) 0 }

def encodeBatch (firstSequence count : Nat) (realNs : Nat → UInt64) : List Transmission :=
  (List.range count).map fun index => encodeMessage host config (firstSequence + index) (realNs index)

def Worker.advance (worker : Worker) (count : Nat) : Worker :=
  { worker with
    position := .checking
    packetIndex := (worker.packetIndex + count * config.threads) % 2 ^ 64 }

def offsetDeadline (packetIndex : Nat) (batch : Batch) (offset invocation : Nat) : Nat :=
  let offsetIndex := (packetIndex + offset * config.threads) % 2 ^ 64
  match config.mode with
  | .flood => invocation
  | .steady =>
      if offset = 0 then batch.scheduled else deadlineNs window.start offsetIndex config.ratePps
  | .burst => deadlineNs window.start offsetIndex config.ratePps

def recordSuccess (index packetIndex : Nat) (stats : WorkerStats) (batch : Batch) (offset : Nat)
    (outcome : SendResult) (environment : Environment) : WorkerStats :=
  let deadline := offsetDeadline config window packetIndex batch offset environment.invocation
  let lateness := environment.invocation - deadline
  { stats with
    partialReturns := stats.partialReturns + if outcome.isPartial then 1 else 0
    successfulSends := stats.successfulSends + outcome.successful
    successfulBytes := stats.successfulBytes + outcome.successful * config.payloadSize
    batchHistogram := stats.batchHistogram.modify outcome.successful (· + 1)
    latenessSamples := stats.latenessSamples + 1
    latenessSumNs := stats.latenessSumNs + lateness
    latenessMaxNs := max stats.latenessMaxNs lateness
    latenessNs := stats.latenessNs ++ [lateness]
    trace :=
      if config.tracing then
        stats.trace ++
          [{ actualMonoNs := environment.completion
             scheduledMonoNs := deadline
             firstSequence := batch.firstSequence + offset
             packetCount := outcome.successful
             threadIndex := index }]
      else stats.trace }

/-- One pass of the loop around `sendmmsg`, without the messages sent. -/
def sendStep (index : Nat) (stop : Bool) (worker : Worker) (batch : Batch) (offset : Nat)
    (environment : Environment) : Worker :=
  let outcome :=
    classifySendmmsgResult environment.result environment.errno (batch.count - offset)
  let stats := { worker.stats with syscallCount := worker.stats.syscallCount + 1 }
  if outcome.retry then
    let stats :=
      { stats with errorReturns := stats.errorReturns + 1, lastError := environment.errno }
    if stop then { worker with stats := stats }.advance config batch.count
    else { worker with stats := stats }
  else if outcome.failed ≠ 0 then
    let stats :=
      { stats with
        errorReturns := stats.errorReturns + 1
        lastError := outcome.error
        failedSends := stats.failedSends + outcome.failed }
    { worker with stats := stats }.advance config batch.count
  else
    let stats :=
      recordSuccess config window index worker.packetIndex stats batch offset outcome environment
    let offset := offset + outcome.successful
    if offset < batch.count then
      { worker with position := .sending batch offset, stats := stats }
    else { worker with stats := stats }.advance config batch.count

/-- The kernel sends the first messages of the slice it is given. -/
def transmitted (batch : Batch) (offset : Nat) (result : Int) : List Transmission :=
  (batch.messages.drop offset).take result.toNat

def leaveStats (socketOpen : Bool) (stats : WorkerStats) : WorkerStats :=
  if socketOpen then stats
  else
    { stats with attemptedSends := 1, failedSends := 1, errorReturns := stats.errorReturns + 1 }

def workerStep (state : State config) (index : Fin config.threads) (environment : Environment) :
    State config × List Event :=
  let worker := state.workers index
  let move (next : Worker) (events : List Event) : State config × List Event :=
    ({ state with workers := Function.update state.workers index next }, events)
  match worker.position with
  | .checking =>
      if wantsBatch config window worker state.stop environment.now then
        let chosen := chooseBatch config window worker.packetIndex
        let position :=
          if chosen.1 = 0 then .leaving else .allocating chosen.1 chosen.2
        move { worker with position := position } [.chosen worker.packetIndex chosen.1]
      else move { worker with position := .leaving } []
  | .allocating count scheduled =>
      let allocated := allocateSequenceRange state.nextSequence count
      let batch : Batch :=
        { count := count
          scheduled := scheduled
          firstSequence := allocated.1
          messages := encodeBatch host config allocated.1 count environment.realNs }
      let stats :=
        { worker.stats with attemptedSends := worker.stats.attemptedSends + count }
      let moved := move { worker with position := .sending batch 0, stats := stats }
        [.allocated allocated.1 count]
      ({ moved.1 with nextSequence := allocated.2 }, moved.2)
  | .sending batch offset =>
      move (sendStep config window index state.stop worker batch offset environment)
        ((transmitted batch offset environment.result).map .sent)
  | .leaving =>
      move { worker with
        position := .finished, stats := leaveStats worker.socketOpen worker.stats } []
  | .finished => (state, [])

def step (state : State config) : Action config → State config × List Event
  | .signal => ({ state with stop := true }, [])
  | .worker index environment => workerStep host config window state index environment

def machine : Machine (State config) (Action config) Event where
  step := step host config window

end Steps

/-- `connect` says for each worker which error its socket met, if any. -/
def start (config : Config) (connect : Fin config.threads → Option Nat) : State config where
  stop := false
  nextSequence := 0
  workers := fun index =>
    { position := .checking
      socketOpen := (connect index).isNone
      packetIndex := index
      stats :=
        { lastError := (connect index).getD 0
          batchHistogram := List.replicate (config.sendBatchMax + 1) 0 } }

/-! ## Aggregation -/

def addHistogram : (total worker : List Nat) → List Nat
  | first :: total, _ :: worker => first :: List.zipWith (· + ·) total worker
  | total, _ => total

def WorkerStats.add (stats worker : WorkerStats) : WorkerStats where
  attemptedSends := stats.attemptedSends + worker.attemptedSends
  successfulSends := stats.successfulSends + worker.successfulSends
  failedSends := stats.failedSends + worker.failedSends
  successfulBytes := stats.successfulBytes + worker.successfulBytes
  syscallCount := stats.syscallCount + worker.syscallCount
  partialReturns := stats.partialReturns + worker.partialReturns
  errorReturns := stats.errorReturns + worker.errorReturns
  latenessSamples := stats.latenessSamples + worker.latenessSamples
  latenessSumNs := stats.latenessSumNs + worker.latenessSumNs
  latenessMaxNs := max stats.latenessMaxNs worker.latenessMaxNs
  lastError := if worker.lastError ≠ 0 then worker.lastError else stats.lastError
  batchHistogram := addHistogram stats.batchHistogram worker.batchHistogram
  latenessNs := stats.latenessNs ++ worker.latenessNs
  trace := stats.trace ++ worker.trace

def aggregate (config : Config) (workers : List WorkerStats) : WorkerStats :=
  workers.foldl WorkerStats.add
    { batchHistogram := List.replicate (config.sendBatchMax + 1) 0 }

def State.stats {config : Config} (state : State config) : WorkerStats :=
  aggregate config (List.ofFn fun index => (state.workers index).stats)

/-! ## What a step changes -/

section

variable {config : Config}

section SendSteps

variable (window : Window) (index : Nat) (stop : Bool) (worker : Worker) (batch : Batch)
variable (offset : Nat) {environment : Environment}

theorem sendStep_of_pos (positive : 0 < environment.result) :
    sendStep config window index stop worker batch offset environment =
      let sent := min environment.result.toNat (batch.count - offset)
      let stats := recordSuccess config window index worker.packetIndex
        { worker.stats with syscallCount := worker.stats.syscallCount + 1 } batch offset
        { successful := sent, isPartial := sent < batch.count - offset } environment
      if offset + sent < batch.count then
        { worker with position := .sending batch (offset + sent), stats := stats }
      else { worker with stats := stats }.advance config batch.count := by
  rw [sendStep, classifySendmmsgResult_of_pos positive]
  rfl

theorem sendStep_of_interrupted
    (interrupted : environment.result < 0 ∧ environment.errno = interruptedCall) :
    sendStep config window index stop worker batch offset environment =
      let stats :=
        { worker.stats with
          syscallCount := worker.stats.syscallCount + 1
          errorReturns := worker.stats.errorReturns + 1
          lastError := environment.errno }
      if stop then { worker with stats := stats }.advance config batch.count
      else { worker with stats := stats } := by
  have nonpositive : ¬0 < environment.result := by omega
  rw [sendStep, classifySendmmsgResult, if_neg nonpositive, if_pos interrupted]
  rfl

theorem sendStep_of_failed (nonpositive : ¬0 < environment.result)
    (uninterrupted : ¬(environment.result < 0 ∧ environment.errno = interruptedCall))
    (within : offset < batch.count) :
    ∃ reported, sendStep config window index stop worker batch offset environment =
      { worker with
        stats :=
          { worker.stats with
            syscallCount := worker.stats.syscallCount + 1
            errorReturns := worker.stats.errorReturns + 1
            lastError := reported
            failedSends := worker.stats.failedSends + (batch.count - offset) } }.advance config
              batch.count := by
  have remaining : batch.count - offset ≠ 0 := by omega
  rw [sendStep, classifySendmmsgResult, if_neg nonpositive, if_neg uninterrupted]
  simp only [Bool.false_eq_true, if_false, if_pos remaining]
  exact ⟨_, rfl⟩

end SendSteps

theorem sendStep_cases (window : Window) (index : Nat) (stop : Bool) {worker : Worker}
    {batch : Batch} {offset : Nat} (position : worker.position = .sending batch offset)
    (environment : Environment) :
    let next := sendStep config window index stop worker batch offset environment
    (next.packetIndex = worker.packetIndex ∧ ∃ reached, next.position = .sending batch reached ∧
        (reached = offset ∨ reached < batch.count)) ∨
      (next.packetIndex = (worker.packetIndex + batch.count * config.threads) % 2 ^ 64 ∧
        next.position = .checking) := by
  simp only [sendStep]
  split
  · split
    · exact .inr ⟨rfl, rfl⟩
    · exact .inl ⟨rfl, offset, position, .inl rfl⟩
  · split
    · exact .inr ⟨rfl, rfl⟩
    · split
      next more => exact .inl ⟨rfl, _, rfl, .inr more⟩
      · exact .inr ⟨rfl, rfl⟩

theorem workerStep_frame (host : Endianness) (window : Window) (state : State config)
    (index : Fin config.threads) (environment : Environment) :
    let next := (workerStep host config window state index environment).1
    next.stop = state.stop ∧
      ∀ other, other ≠ index → next.workers other = state.workers other := by
  simp only [workerStep]
  split
  · split
    · exact ⟨rfl, fun other different => Function.update_of_ne different _ _⟩
    · exact ⟨rfl, fun other different => Function.update_of_ne different _ _⟩
  · exact ⟨rfl, fun other different => Function.update_of_ne different _ _⟩
  · exact ⟨rfl, fun other different => Function.update_of_ne different _ _⟩
  · exact ⟨rfl, fun other different => Function.update_of_ne different _ _⟩
  · exact ⟨rfl, fun _ _ => rfl⟩

end

/-! ## Histories -/

def Event.sent? : Event → Option Transmission
  | sent transmission => some transmission
  | _ => none

def Event.allocated? : Event → Option (Nat × Nat)
  | allocated firstSequence count => some (firstSequence, count)
  | _ => none

def Event.chosen? : Event → Option (Nat × Nat)
  | chosen packetIndex count => some (packetIndex, count)
  | _ => none

/-- What is on the wire, in the order of the system calls. -/
def wire (events : List Event) : List Transmission := events.filterMap Event.sent?

def allocations (events : List Event) : List (Nat × Nat) := events.filterMap Event.allocated?

def batches (events : List Event) : List (Nat × Nat) := events.filterMap Event.chosen?

end NetLatencyLab.Sender
