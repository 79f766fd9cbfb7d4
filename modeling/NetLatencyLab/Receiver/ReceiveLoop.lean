import NetLatencyLab.Foundation.Machine
import NetLatencyLab.Receiver.Accounting

/-! # The receive loop of the single-threaded receivers

`receiver_baseline` and `receiver_batched` share everything but the handling of
one successful call. The loop is a machine whose events are the packets it has
processed. -/

namespace NetLatencyLab.Receiver

/-- The variables of `main` that the loop updates. -/
structure Locals where
  stats : Stats := {}
  sequences : SequenceTracker := .fresh
  processing : ProcessingStats := {}
  logger : BinaryLogger

inductive Position where
  | receiving
  | leaving
  | finished
deriving DecidableEq

structure LoopState where
  position : Position
  stop : Bool
  socket : List Datagram
  locals : Locals

inductive LoopAction where
  | signal
  | proceed (environment : Environment)

/-- What is done with the datagrams of one successful call: the new variables,
the datagrams left in the kernel and the packets processed. -/
abbrev Handler :=
  Locals → List Datagram → Environment → (count : Nat) →
    Locals × List Datagram × List ReceivedPacket

section Loop

variable (fwrite : List UInt8 → Nat) (config : Config)

def usePacket (readings : ProcessReadings) (locals : Locals)
    (received : Stats × SequenceTracker × Option ReceivedPacket) :
    Locals × List ReceivedPacket :=
  let locals := { locals with stats := received.1, sequences := received.2.1 }
  match received.2.2 with
  | none => (locals, [])
  | some packet =>
      let processed :=
        processPacket fwrite locals.logger locals.processing packet config.workNs readings
      ({ locals with logger := processed.1, processing := processed.2 }, [packet])

/-- The end of `main`. -/
def finish (stop : Bool) (pendingBytes : Nat) (locals : Locals) : Locals :=
  let stats :=
    { locals.stats with interrupted := stop, socketPendingBytesAtShutdown := pendingBytes }
  { locals with
    stats := mergeProcessing (finalizeReceiveSequences stats locals.sequences) locals.processing
    logger := locals.logger.flush fwrite }

def loopStep (handle : Handler) (state : LoopState) :
    LoopAction → LoopState × List ReceivedPacket
  | .signal => ({ state with stop := true }, [])
  | .proceed environment =>
      match state.position with
      | .receiving =>
          if state.stop || !wantsMore config state.locals.stats then
            ({ state with position := .leaving }, [])
          else
            let stats := state.locals.stats.countSyscall
            match environment.reply with
            | .failed errno =>
                if isTransient errno then
                  ({ state with locals := { state.locals with stats := stats } }, [])
                else
                  ({ state with
                      position := .leaving
                      locals := { state.locals with stats := stats.countSocketError } }, [])
            | .delivered count =>
                let handled :=
                  handle { state.locals with stats := stats } state.socket environment count
                ({ state with socket := handled.2.1, locals := handled.1 }, handled.2.2)
      | .leaving =>
          ({ state with
              position := .finished
              locals := finish fwrite state.stop environment.pendingBytes state.locals }, [])
      | .finished => (state, [])

def loopMachine (handle : Handler) : Machine LoopState LoopAction ReceivedPacket where
  step := loopStep fwrite config handle

def loopStart (datagrams : List Datagram) : LoopState where
  position := .receiving
  stop := false
  socket := datagrams
  locals := { logger := BinaryLogger.create true fwrite }

end Loop

/-! ## What the loop keeps -/

open BinaryLogger (completeFwrite)

/-- The variables after `datagrams` have been received and `packets` processed. -/
structure Consistent (host : Endianness) (config : Config) (truncates : Datagram → Bool)
    (locals : Locals) (datagrams : List Datagram) (packets : List ReceivedPacket) : Prop where
  received : Received host config truncates locals.stats locals.sequences datagrams
  processed : Processed locals.processing locals.logger packets
  messagesEqual : packets.map (·.message) = messages host datagrams
  sampled : ∀ packet ∈ packets, packet.sampled = isSampled config.sampleEvery packet.message

variable {host : Endianness} {config : Config} {truncates : Datagram → Bool} {locals : Locals}
  {datagrams : List Datagram} {packets : List ReceivedPacket}

theorem Consistent.start :
    Consistent host config truncates { logger := BinaryLogger.create true completeFwrite }
      [] [] where
  received := .start
  processed := .start
  messagesEqual := rfl
  sampled := by simp

theorem Consistent.countSyscall
    (consistent : Consistent host config truncates locals datagrams packets) :
    Consistent host config truncates { locals with stats := locals.stats.countSyscall }
      datagrams packets :=
  { consistent with received := consistent.received.of_stats rfl rfl rfl rfl rfl rfl rfl }

theorem Consistent.countSocketError
    (consistent : Consistent host config truncates locals datagrams packets) :
    Consistent host config truncates { locals with stats := locals.stats.countSocketError }
      datagrams packets :=
  { consistent with received := consistent.received.of_stats rfl rfl rfl rfl rfl rfl rfl }

theorem Consistent.finish
    (consistent : Consistent host config truncates locals datagrams packets) (stop : Bool)
    (pendingBytes : Nat) :
    Consistent host config truncates (finish completeFwrite stop pendingBytes locals)
      datagrams packets :=
  { consistent with
    received := consistent.received.of_stats rfl rfl rfl rfl rfl rfl rfl
    processed := consistent.processed.flushed }

theorem Consistent.usePacket (consistent : Consistent host config truncates locals datagrams packets)
    {outcome : Stats × SequenceTracker × Option ReceivedPacket} {datagram : Datagram}
    (received : Received host config truncates outcome.1 outcome.2.1 (datagrams ++ [datagram]))
    (message : outcome.2.2.map (·.message) = (arrival host datagram).message?)
    (sampled : ∀ packet ∈ outcome.2.2,
      packet.sampled = isSampled config.sampleEvery packet.message)
    (readings : ProcessReadings) :
    let used := usePacket completeFwrite config readings locals outcome
    Consistent host config truncates used.1 (datagrams ++ [datagram]) (packets ++ used.2) := by
  rcases outcome with ⟨stats, sequences, packet?⟩
  cases packet? with
  | none =>
      exact {
        received := received
        processed := by
          rw [Receiver.usePacket, List.append_nil]
          exact consistent.processed
        messagesEqual := by simpa [Receiver.usePacket, ← message] using consistent.messagesEqual
        sampled := by simpa [Receiver.usePacket] using consistent.sampled }
  | some packet =>
      exact {
        received := received
        processed := consistent.processed.processPacket packet config.workNs readings
        messagesEqual := by simp [Receiver.usePacket, ← message, consistent.messagesEqual]
        sampled := by
          intro other member
          rcases List.mem_append.mp member with old | new
          · exact consistent.sampled other old
          · rcases List.mem_singleton.mp new with rfl
            exact sampled other rfl }

theorem Consistent.record (consistent : Consistent host config truncates locals datagrams packets)
    (datagram : Datagram) (receiveTs receiveMonoTs : UInt64) (readings : ProcessReadings) :
    let used := Receiver.usePacket completeFwrite config readings locals
      (Receiver.record config (truncates datagram) locals.stats locals.sequences receiveTs
        receiveMonoTs (arrival host datagram))
    Consistent host config truncates used.1 (datagrams ++ [datagram]) (packets ++ used.2) := by
  have packet := record_packet config (truncates datagram) locals.stats locals.sequences receiveTs
    receiveMonoTs (arrival host datagram)
  apply consistent.usePacket (consistent.received.record datagram receiveTs receiveMonoTs)
  · rw [packet, Option.map_map]
    exact Option.map_id'
  · rw [packet]
    intro given member
    rcases Option.mem_map.mp member with ⟨header, _, rfl⟩
    rfl

structure Handles (host : Endianness) (config : Config) (truncates : Datagram → Bool)
    (handle : Handler) : Prop where
  step : ∀ locals socket environment count, wantsMore config locals.stats →
    ∃ batch, socket = batch ++ (handle locals socket environment count).2.1 ∧
      (config.maxPackets ≠ 0 →
        locals.stats.datagramsReceived + batch.length ≤ config.maxPackets) ∧
      ∀ datagrams packets, Consistent host config truncates locals datagrams packets →
        Consistent host config truncates (handle locals socket environment count).1
          (datagrams ++ batch) (packets ++ (handle locals socket environment count).2.2)

structure LoopInvariant (host : Endianness) (config : Config) (truncates : Datagram → Bool)
    (datagrams : List Datagram) (history : List ReceivedPacket) (state : LoopState) : Prop where
  consistent : ∃ received, datagrams = received ++ state.socket ∧
    Consistent host config truncates state.locals received history
  limited : config.maxPackets ≠ 0 →
    state.locals.stats.datagramsReceived ≤ config.maxPackets
  leaving : state.position = .leaving → HasReason config state.locals.stats state.stop
  finished : state.position = .finished →
    HasReason config state.locals.stats state.locals.stats.interrupted ∧
      Reported state.locals.stats state.locals.sequences state.locals.processing ∧
      ∃ entries, state.locals.logger.contents = LatencyUtils.logFile entries ∧
        entries.map entryKey = (history.filter (·.sampled)).map packetKey

private theorem reported_finish (stop : Bool) (pendingBytes : Nat) (locals : Locals) :
    let finished := finish completeFwrite stop pendingBytes locals
    Reported finished.stats finished.sequences finished.processing := rfl

private theorem loopStep_invariant {handle : Handler}
    (handles : Handles host config truncates handle)
    {history : List ReceivedPacket} {state : LoopState}
    (invariant : LoopInvariant host config truncates datagrams history state)
    (action : LoopAction) :
    LoopInvariant host config truncates datagrams
      (history ++ (loopStep completeFwrite config handle state action).2)
      (loopStep completeFwrite config handle state action).1 := by
  rcases invariant with ⟨⟨received, split, consistent⟩, limited, leaving, finished⟩
  cases action with
  | signal =>
      rw [loopStep, List.append_nil]
      exact {
        consistent := ⟨received, split, consistent⟩
        limited := limited
        leaving := fun _ => .inr (.inl rfl)
        finished := finished }
  | proceed environment =>
      cases position : state.position with
      | receiving =>
          simp only [loopStep, position]
          by_cases leave : (state.stop || !wantsMore config state.locals.stats) = true
          · rw [if_pos leave, List.append_nil]
            exact {
              consistent := ⟨received, split, consistent⟩
              limited := limited
              leaving := fun _ => .of_leave leave
              finished := nofun }
          · rw [if_neg leave]
            have wants : wantsMore config state.locals.stats.countSyscall = true :=
              wantsMore_of_stay leave
            cases environment.reply with
            | failed errno =>
                by_cases transient : isTransient errno = true
                · simp only [transient, if_true, List.append_nil]
                  exact {
                    consistent := ⟨received, split, consistent.countSyscall⟩
                    limited := limited
                    leaving := nofun
                    finished := nofun }
                · simp only [transient, if_false, List.append_nil, Bool.false_eq_true]
                  exact {
                    consistent := ⟨received, split, consistent.countSyscall.countSocketError⟩
                    limited := limited
                    leaving := fun _ => .inr (.inr (Nat.succ_ne_zero _))
                    finished := nofun }
            | delivered count =>
                rcases handles.step
                  { state.locals with stats := state.locals.stats.countSyscall } state.socket
                  environment count wants with ⟨batch, taken, bound, handled⟩
                exact {
                  consistent := ⟨received ++ batch,
                    by rw [split, List.append_assoc, ← taken], handled _ _ consistent.countSyscall⟩
                  limited := by
                    intro nonzero
                    have after := (handled _ _ consistent.countSyscall).received.datagramsReceived
                    rw [List.length_append, ← consistent.received.datagramsReceived] at after
                    exact after.trans_le (bound nonzero)
                  leaving := nofun
                  finished := nofun }
      | leaving =>
          simp only [loopStep, position, List.append_nil]
          exact {
            consistent := ⟨received, split, consistent.finish state.stop environment.pendingBytes⟩
            limited := limited
            leaving := nofun
            finished := fun _ => ⟨leaving position,
              reported_finish state.stop environment.pendingBytes state.locals,
              consistent.processed.flush⟩ }
      | finished =>
          simp only [loopStep, position, List.append_nil]
          exact ⟨⟨received, split, consistent⟩, limited, leaving, finished⟩

private theorem loopStart_invariant :
    LoopInvariant host config truncates datagrams [] (loopStart completeFwrite datagrams) where
  consistent := ⟨[], rfl, .start⟩
  limited := fun _ => Nat.zero_le _
  leaving := nofun
  finished := nofun

theorem loop_run_invariant {handle : Handler} (handles : Handles host config truncates handle)
    (datagrams : List Datagram) (schedule : List LoopAction) :
    let outcome :=
      (loopMachine completeFwrite config handle).run (loopStart completeFwrite datagrams) schedule
    LoopInvariant host config truncates datagrams outcome.2 outcome.1 :=
  (loopMachine completeFwrite config handle).run_invariant
    (LoopInvariant host config truncates datagrams) loopStart_invariant
    (fun _ _ action invariant => loopStep_invariant handles invariant action) schedule

end NetLatencyLab.Receiver
