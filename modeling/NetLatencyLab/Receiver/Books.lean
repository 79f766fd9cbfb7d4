import NetLatencyLab.Receiver.Agreement
import NetLatencyLab.Receiver.LossAccounting

/-! # The books of a receiver that has ended

Its counters are those of the datagrams it has received and of the packets it has
processed, disturbed or not, and what was not processed has overflowed. -/

namespace NetLatencyLab.Receiver

open BinaryLogger (completeFwrite)
open SpscQueue (reads)

def trackerAfter (packets : List MessageHeader) : SequenceTracker :=
  SequenceTracker.fresh.observeAll (packets.map (·.seqIdx))

/-- What a receiver reports when it has received `received` and processed `used`. -/
structure Books (host : Endianness) (received : List Datagram) (used : List MessageHeader)
    (stats : Stats) : Prop where
  processedFrom : used.Sublist (messages host received)
  datagrams : stats.datagramsReceived = received.length
  valid : stats.validPackets = (messages host received).length
  short : stats.shortPackets = received.countP fun datagram => arrival host datagram = .short
  magic : stats.invalidMagic = received.countP fun datagram => arrival host datagram = .invalidMagic
  version : stats.unsupportedVersion =
    received.countP fun datagram => arrival host datagram = .unsupportedVersion
  processed : stats.processedPackets = used.length
  overflow : stats.processedPackets + stats.spscOverflow = stats.validPackets
  receiveSide : stats.uniqueValidPackets = (trackerAfter (messages host received)).unique ∧
    stats.receiveSequenceGaps = (trackerAfter (messages host received)).gaps ∧
    stats.receiveDuplicates = (trackerAfter (messages host received)).duplicates ∧
    stats.receiveReordered = (trackerAfter (messages host received)).reordered ∧
    stats.receiveOutOfWindow = (trackerAfter (messages host received)).outOfWindow
  processingSide : stats.uniqueProcessedPackets = (trackerAfter used).unique ∧
    stats.processedSequenceGaps = (trackerAfter used).gaps ∧
    stats.processedDuplicates = (trackerAfter used).duplicates ∧
    stats.processedReordered = (trackerAfter used).reordered ∧
    stats.processedOutOfWindow = (trackerAfter used).outOfWindow

variable {host : Endianness} {config : Config} {truncates : Datagram → Bool}
  {datagrams received : List Datagram} {outcome : Outcome}

theorem Books.of_sides {stats : Stats} {sequences : SequenceTracker} {processing : ProcessingStats}
    {logger : BinaryLogger} {packets : List ReceivedPacket}
    (counted : Received host config truncates stats sequences received)
    (done : Processed processing logger packets) (reported : Reported stats sequences processing)
    (processedFrom : (packets.map (·.message)).Sublist (messages host received))
    (overflow : stats.processedPackets + stats.spscOverflow = stats.validPackets) :
    Books host received (packets.map (·.message)) stats := by
  have receiving : sequences = trackerAfter (messages host received) := counted.sequences
  have used : processing.sequences = trackerAfter (packets.map (·.message)) := by
    rw [trackerAfter, List.map_map]
    exact done.sequences
  rw [Reported, receiving] at reported
  have read : ∀ {Field : Type} (field : Stats → Field), field stats = field (mergeProcessing
      (finalizeReceiveSequences stats (trackerAfter (messages host received))) processing) :=
    fun field => congrArg field reported.symm
  exact {
    processedFrom := processedFrom
    datagrams := counted.datagramsReceived
    valid := counted.validPackets
    short := counted.shortPackets
    magic := counted.invalidMagic
    version := counted.unsupportedVersion
    processed := (read Stats.processedPackets).trans
      (done.processedPackets.trans (List.length_map _).symm)
    overflow := overflow
    receiveSide := ⟨read Stats.uniqueValidPackets, read Stats.receiveSequenceGaps,
      read Stats.receiveDuplicates, read Stats.receiveReordered, read Stats.receiveOutOfWindow⟩
    processingSide := by
      rw [← used]
      exact ⟨read Stats.uniqueProcessedPackets, read Stats.processedSequenceGaps,
        read Stats.processedDuplicates, read Stats.processedReordered,
        read Stats.processedOutOfWindow⟩ }

/-! ## The single-threaded receivers -/

def NeverOverflows (handle : Handler) : Prop :=
  ∀ locals socket environment count,
    (handle locals socket environment count).1.stats.spscOverflow = locals.stats.spscOverflow

theorem usePacket_spscOverflow (readings : ProcessReadings) (locals : Locals)
    (outcome : Stats × SequenceTracker × Option ReceivedPacket) :
    (usePacket completeFwrite config readings locals outcome).1.stats.spscOverflow =
      outcome.1.spscOverflow := by
  simp only [usePacket]
  split
  · rfl
  · rfl

private theorem baselineHandler_neverOverflows (host : Endianness) (config : Config) :
    NeverOverflows (baselineHandler completeFwrite host config) := by
  intro locals socket environment count
  cases socket with
  | nil => rfl
  | cons datagram rest =>
      simp only [baselineHandler, receiveDatagram_eq, usePacket_spscOverflow]
      exact record_spscOverflow ..

private theorem batchedHandler_neverOverflows (host : Endianness) (config : Config) :
    NeverOverflows (batchedHandler completeFwrite host config) := by
  intro locals socket environment count
  simp only [batchedHandler]
  generalize socket.take _ = batch
  generalize 0 = first
  have general : ∀ accumulated : Locals × List ReceivedPacket,
      ((batch.zipIdx first).foldl (batchedPass completeFwrite host config environment)
        accumulated).1.stats.spscOverflow = accumulated.1.stats.spscOverflow := by
    induction batch generalizing first with
    | nil => exact fun _ => rfl
    | cons datagram batch induction =>
        intro accumulated
        rw [List.zipIdx_cons, List.foldl_cons, induction, batchedPass, receiveMessage_eq,
          usePacket_spscOverflow]
        exact record_spscOverflow ..
  exact general _

private theorem loop_spscOverflow {handle : Handler} (never : NeverOverflows handle)
    (datagrams : List Datagram) (schedule : List LoopAction) :
    ((loopMachine completeFwrite config handle).run (loopStart completeFwrite datagrams)
      schedule).1.locals.stats.spscOverflow = 0 := by
  apply (loopMachine completeFwrite config handle).run_invariant
    fun _ state => state.locals.stats.spscOverflow = 0
  · rfl
  · intro history state action none
    cases action with
    | signal => exact none
    | proceed environment =>
        cases position : state.position with
        | receiving =>
            simp only [loopMachine, loopStep, position]
            split
            · exact none
            · cases environment.reply with
              | failed errno =>
                  dsimp only
                  split
                  · exact none
                  · exact none
              | delivered count => exact (never _ _ _ _).trans none
        | leaving =>
            simp only [loopMachine, loopStep, position]
            exact none
        | finished =>
            simp only [loopMachine, loopStep, position]
            exact none

theorem loop_books {handle : Handler} (handles : Handles host config truncates handle)
    (never : NeverOverflows handle) {schedule : List LoopAction} {final : LoopState}
    (reaches : ((loopMachine completeFwrite config handle).run
      (loopStart completeFwrite datagrams) schedule).1 = final)
    (finished : final.position = .finished) :
    ∃ received used, datagrams = received ++ final.outcome.socket ∧
      Books host received used final.outcome.stats ∧
      (final.outcome.stats.spscOverflow = 0 → used = messages host received) := by
  have invariant := loop_run_invariant handles datagrams schedule
  have none := @loop_spscOverflow config handle never datagrams schedule
  simp only [reaches] at invariant none
  rcases invariant.consistent with ⟨received, split, consistent⟩
  rcases invariant.finished finished with ⟨_, reported, _⟩
  have counted := consistent.received
  have done := consistent.processed
  have processed : final.locals.stats.processedPackets =
      (((loopMachine completeFwrite config handle).run
        (loopStart completeFwrite datagrams) schedule).2).length :=
    (congrArg Stats.processedPackets reported).symm.trans done.processedPackets
  refine ⟨received, _, split,
    Books.of_sides counted done reported (by rw [consistent.messagesEqual]) ?_,
    fun _ => consistent.messagesEqual⟩
  change final.locals.stats.processedPackets + final.locals.stats.spscOverflow =
    final.locals.stats.validPackets
  rw [none, processed, counted.validPackets, ← consistent.messagesEqual, List.length_map,
    Nat.add_zero]

/-! ## The threaded receiver -/

theorem Drained.books {history : List (SpscQueue.Event ReceivedPacket)} {state : ThreadedState}
    (drained : Drained host config received history state) :
    Books host received ((reads history).map (·.message)) state.ingress.stats :=
  .of_sides drained.counted drained.processed drained.reported drained.processed_sublist
    drained.processed_add_overflow

/-- Every receiver that has ended keeps its books, and without overflow it has
processed every valid packet. -/
theorem Ends.books {variant : Variant} (ends : Ends host config datagrams outcome variant) :
    ∃ received used, datagrams = received ++ outcome.socket ∧
      Books host received used outcome.stats ∧
      (outcome.stats.spscOverflow = 0 → used = messages host received) := by
  cases variant with
  | baseline =>
      rcases ends with ⟨schedule, final, reaches, finished, rfl⟩
      exact loop_books (baselineHandler_handles host config)
        (baselineHandler_neverOverflows host config) reaches finished
  | batched =>
      rcases ends with ⟨schedule, final, reaches, finished, rfl⟩
      exact loop_books (batchedHandler_handles host config)
        (batchedHandler_neverOverflows host config) reaches finished
  | threaded =>
      rcases ends with ⟨schedule, final, reaches, finished, rfl⟩
      have drains := threaded_run_drained host config datagrams schedule
      simp only [reaches] at drains
      rcases drains finished with ⟨received, split, drained⟩
      refine ⟨received, _, split, drained.books, ?_⟩
      intro noOverflow
      rw [drained.reads_eq_pushes noOverflow, drained.pushedEqual]

end NetLatencyLab.Receiver
