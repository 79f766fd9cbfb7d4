import NetLatencyLab.Receiver.Baseline
import NetLatencyLab.Receiver.Batched
import NetLatencyLab.Receiver.ThreadedContract

/-! # The three receivers agree

A receiver that is neither stopped early nor interrupted by an error nor short
of queue space computes one function of the stream, whichever program it is. -/

namespace NetLatencyLab.Receiver

open BinaryLogger (completeFwrite)
open LatencyUtils (loadBinaryFile loadBinaryFile_logFile logFile versionedRow)
open SpscQueue (pushes reads)

inductive Variant where
  | baseline
  | batched
  | threaded
deriving DecidableEq

/-- What a receiver leaves behind: its statistics, the datagrams it did not
receive and its log. -/
structure Outcome where
  stats : Stats
  socket : List Datagram
  file : List UInt8

def LoopState.outcome (state : LoopState) : Outcome where
  stats := state.locals.stats
  socket := state.socket
  file := state.locals.logger.contents

def ThreadedState.outcome (state : ThreadedState) : Outcome where
  stats := state.ingress.stats
  socket := state.ingress.socket
  file := state.logger.contents

/-- The outcomes of the schedules that reach the end of `main`. -/
def Ends (host : Endianness) (config : Config) (datagrams : List Datagram) (outcome : Outcome) :
    Variant → Prop
  | .baseline => ∃ schedule, ∃ final, ((baselineMachine completeFwrite host config).run
      (loopStart completeFwrite datagrams) schedule).1 = final ∧
        final.position = .finished ∧ final.outcome = outcome
  | .batched => ∃ schedule, ∃ final, ((batchedMachine completeFwrite host config).run
      (loopStart completeFwrite datagrams) schedule).1 = final ∧
        final.position = .finished ∧ final.outcome = outcome
  | .threaded => ∃ schedule, ∃ final, ((threadedMachine completeFwrite host config).run
      (threadedStart completeFwrite datagrams) schedule).1 = final ∧
        final.ingress.position = .finished ∧ final.outcome = outcome

/-- No socket error, no failed push, and no stop signal unless everything had
been received before. -/
structure Undisturbed (variant : Variant) (outcome : Outcome) : Prop where
  noError : outcome.stats.socketErrors = 0
  noOverflow : variant = .threaded → outcome.stats.spscOverflow = 0
  complete : outcome.stats.interrupted = true → outcome.socket = []

/-- The sequence number and transmit timestamp of a header, as a loaded log
shows them. -/
def loggedPair (message : MessageHeader) : Nat × Nat :=
  (message.seqIdx.toNat, message.sendUnixNs.toNat)

structure Settled (host : Endianness) (config : Config) (datagrams : List Datagram)
    (outcome : Outcome) : Prop where
  counters : outcome.stats.counters = expectedCounters host (wanted config.maxPackets datagrams)
  limited : config.maxPackets ≠ 0 → outcome.stats.datagramsReceived ≤ config.maxPackets
  sampled : outcome.stats.sampledPackets =
    (messages host (wanted config.maxPackets datagrams)).countP (isSampled config.sampleEvery)
  logged : ∀ path, ∃ rows, loadBinaryFile path (some outcome.file) = .ok rows ∧
    rows.map (fun row => (row.seq, row.txNs)) =
      ((messages host (wanted config.maxPackets datagrams)).filter
        (isSampled config.sampleEvery)).map loggedPair

variable {host : Endianness} {config : Config} {truncates : Datagram → Bool}
  {datagrams received : List Datagram} {packets : List ReceivedPacket} {outcome : Outcome}

private theorem logged_pairs {entries : List LogEntry}
    (keys : entries.map entryKey = (packets.filter (·.sampled)).map packetKey)
    (messagesEqual : packets.map (·.message) = messages host received)
    (sampled : ∀ packet ∈ packets,
      packet.sampled = isSampled config.sampleEvery packet.message) :
    (entries.map versionedRow).map (fun row => (row.seq, row.txNs)) =
      ((messages host received).filter (isSampled config.sampleEvery)).map loggedPair := by
  calc (entries.map versionedRow).map (fun row => (row.seq, row.txNs))
      = (entries.map entryKey).map (fun key => (key.1.toNat, key.2.1.toNat)) := by
        rw [List.map_map, List.map_map]
        rfl
    _ = (packets.filter (·.sampled)).map (fun packet => loggedPair packet.message) := by
        rw [keys, List.map_map]
        rfl
    _ = (packets.filter fun packet => isSampled config.sampleEvery packet.message).map
          (fun packet => loggedPair packet.message) := by
        rw [List.filter_congr sampled]
    _ = ((messages host received).filter (isSampled config.sampleEvery)).map loggedPair := by
        rw [← messagesEqual, List.filter_map, List.map_map]
        rfl

/-- Enough for a receiver to be settled: it has received what it wanted and
processed every valid packet. -/
theorem Settled.of_received {sequences : SequenceTracker} {processing : ProcessingStats}
    {logger : BinaryLogger} (enough : received = wanted config.maxPackets datagrams)
    (counted : Received host config truncates outcome.stats sequences received)
    (processed : Processed processing logger packets)
    (messagesEqual : packets.map (·.message) = messages host received)
    (sampled : ∀ packet ∈ packets,
      packet.sampled = isSampled config.sampleEvery packet.message)
    (reported : Reported outcome.stats sequences processing)
    (limited : config.maxPackets ≠ 0 → outcome.stats.datagramsReceived ≤ config.maxPackets)
    {entries : List LogEntry} (contents : outcome.file = logFile entries)
    (keys : entries.map entryKey = (packets.filter (·.sampled)).map packetKey) :
    Settled host config datagrams outcome := by
  subst enough
  exact {
    counters := counters_eq_expected counted processed messagesEqual reported
    limited := limited
    sampled := counted.sampledPackets
    logged := by
      intro path
      refine ⟨entries.map versionedRow, ?_, logged_pairs keys messagesEqual sampled⟩
      rw [contents, loadBinaryFile_logFile] }

theorem loop_settled {variant : Variant} {handle : Handler}
    (handles : Handles host config truncates handle) {schedule : List LoopAction} {final : LoopState}
    (reaches : ((loopMachine completeFwrite config handle).run
      (loopStart completeFwrite datagrams) schedule).1 = final)
    (finished : final.position = .finished) (undisturbed : Undisturbed variant final.outcome) :
    Settled host config datagrams final.outcome := by
  have invariant := loop_run_invariant handles datagrams schedule
  simp only [reaches] at invariant
  rcases invariant.consistent with ⟨received, split, consistent⟩
  rcases invariant.finished finished with ⟨reason, reported, entries, contents, keys⟩
  have enough : received = wanted config.maxPackets datagrams :=
    consistent.received.eq_wanted split invariant.limited reason undisturbed.noError
      undisturbed.complete
  exact .of_received enough consistent.received consistent.processed consistent.messagesEqual
    consistent.sampled reported invariant.limited contents keys

theorem Drained.reads_eq_pushes {history : List (SpscQueue.Event ReceivedPacket)}
    {state : ThreadedState} (drained : Drained host config received history state)
    (noOverflow : state.ingress.stats.spscOverflow = 0) :
    reads history = (pushes history).map Prod.fst := by
  rw [drained.readsEqual, List.filter_eq_self.mpr]
  intro push member
  rw [drained.overflow, List.countP_eq_zero] at noOverflow
  simpa using noOverflow push member

private theorem threaded_settled {schedule : List ThreadedAction} {final : ThreadedState}
    (reaches : ((threadedMachine completeFwrite host config).run
      (threadedStart completeFwrite datagrams) schedule).1 = final)
    (finished : final.ingress.position = .finished)
    (undisturbed : Undisturbed .threaded final.outcome) :
    Settled host config datagrams final.outcome := by
  have drains := threaded_run_drained host config datagrams schedule
  simp only [reaches] at drains
  rcases drains finished with ⟨received, split, drained⟩
  rcases drained.logged with ⟨entries, contents, keys⟩
  have readsEqual := drained.reads_eq_pushes (undisturbed.noOverflow rfl)
  have processed := drained.processed
  rw [readsEqual] at processed keys
  have enough : received = wanted config.maxPackets datagrams :=
    drained.counted.eq_wanted split drained.limited drained.reason undisturbed.noError
      undisturbed.complete
  exact .of_received enough drained.counted processed drained.pushedEqual drained.sampled
    drained.reported drained.limited contents keys

theorem Ends.settled {variant : Variant} (ends : Ends host config datagrams outcome variant)
    (undisturbed : Undisturbed variant outcome) : Settled host config datagrams outcome := by
  cases variant with
  | baseline =>
      rcases ends with ⟨schedule, final, reaches, finished, rfl⟩
      exact loop_settled (baselineHandler_handles host config) reaches finished undisturbed
  | batched =>
      rcases ends with ⟨schedule, final, reaches, finished, rfl⟩
      exact loop_settled (batchedHandler_handles host config) reaches finished undisturbed
  | threaded =>
      rcases ends with ⟨schedule, final, reaches, finished, rfl⟩
      exact threaded_settled reaches finished undisturbed

/-- Two receivers of one stream with one limit end with the same counters,
whatever their variants, batch sizes, work and schedules are; when they also
sample alike, they log the same packets. -/
theorem receivers_agree (host : Endianness) (first second : Config)
    (sameLimit : first.maxPackets = second.maxPackets) (datagrams : List Datagram)
    (variant other : Variant) (outcome otherOutcome : Outcome)
    (ends : Ends host first datagrams outcome variant)
    (otherEnds : Ends host second datagrams otherOutcome other)
    (undisturbed : Undisturbed variant outcome)
    (otherUndisturbed : Undisturbed other otherOutcome) :
    outcome.stats.counters = otherOutcome.stats.counters ∧
      (first.maxPackets ≠ 0 → outcome.stats.datagramsReceived ≤ first.maxPackets) ∧
      (first.sampleEvery = second.sampleEvery →
        outcome.stats.sampledPackets = otherOutcome.stats.sampledPackets ∧
        ∀ path otherPath, ∃ rows otherRows,
          loadBinaryFile path (some outcome.file) = .ok rows ∧
          loadBinaryFile otherPath (some otherOutcome.file) = .ok otherRows ∧
          rows.map (fun row => (row.seq, row.txNs)) =
            otherRows.map fun row => (row.seq, row.txNs)) := by
  have settled := ends.settled undisturbed
  have otherSettled := otherEnds.settled otherUndisturbed
  refine ⟨?_, settled.limited, ?_⟩
  · rw [settled.counters, otherSettled.counters, sameLimit]
  · intro sameSampling
    refine ⟨by rw [settled.sampled, otherSettled.sampled, sameLimit, sameSampling], ?_⟩
    intro path otherPath
    rcases settled.logged path with ⟨rows, loaded, pairs⟩
    rcases otherSettled.logged otherPath with ⟨otherRows, otherLoaded, otherPairs⟩
    refine ⟨rows, otherRows, loaded, otherLoaded, ?_⟩
    rw [pairs, otherPairs, sameLimit, sameSampling]

/-- One datagram for each call that is not interrupted. -/
def shortLoopSchedule : List LoopAction :=
  [.proceed (shortPass (.failed 4)), .proceed (shortPass (.delivered 1)),
    .proceed (shortPass (.delivered 1)), .proceed (shortPass (.failed 4)),
    .proceed (shortPass (.failed 4))]

theorem baseline_and_threaded_agree_on_short_stream :
    ((baselineMachine completeFwrite .little shortConfig).run
        (loopStart completeFwrite shortStream) shortLoopSchedule).1.outcome.stats.counters =
      ((threadedMachine completeFwrite .little shortConfig).run
        (threadedStart completeFwrite shortStream) shortSchedule).1.outcome.stats.counters :=
  (receivers_agree .little shortConfig shortConfig rfl shortStream .baseline .threaded _ _
    ⟨shortLoopSchedule, _, rfl, rfl, rfl⟩ ⟨shortSchedule, _, rfl, rfl, rfl⟩
    ⟨rfl, nofun, fun _ => rfl⟩ ⟨rfl, fun _ => rfl, fun _ => rfl⟩).1

end NetLatencyLab.Receiver
