import NetLatencyLab.Analysis.PacketAccounting
import NetLatencyLab.Common.SequenceAccounting
import NetLatencyLab.Receiver.ThreadedContract

/-! # Losses

What the losses reported for a run say about the packets themselves. -/

namespace NetLatencyLab.Receiver

open BinaryLogger (completeFwrite)
open SequenceTracker (ArrivesWithin)
open SpscQueue (reads)

/-- The counters that `write_stats` writes, in its order. -/
def Stats.fields (stats : Stats) : Fields :=
  [("datagrams_received", stats.datagramsReceived),
    ("valid_packets", stats.validPackets),
    ("unique_valid_packets", stats.uniqueValidPackets),
    ("receive_sequence_gaps", stats.receiveSequenceGaps),
    ("receive_duplicates", stats.receiveDuplicates),
    ("receive_reordered", stats.receiveReordered),
    ("receive_out_of_window", stats.receiveOutOfWindow),
    ("processed_packets", stats.processedPackets),
    ("unique_processed_packets", stats.uniqueProcessedPackets),
    ("processed_sequence_gaps", stats.processedSequenceGaps),
    ("processed_duplicates", stats.processedDuplicates),
    ("processed_reordered", stats.processedReordered),
    ("processed_out_of_window", stats.processedOutOfWindow),
    ("short_packets", stats.shortPackets),
    ("truncated_packets", stats.truncatedPackets),
    ("invalid_magic", stats.invalidMagic),
    ("unsupported_version", stats.unsupportedVersion),
    ("spsc_overflow", stats.spscOverflow),
    ("socket_errors", stats.socketErrors),
    ("receive_syscalls", stats.receiveSyscalls),
    ("sampled_packets", stats.sampledPackets),
    ("first_receive_mono_ns", stats.firstReceiveMonoNs.toNat),
    ("last_receive_mono_ns", stats.lastReceiveMonoNs.toNat),
    ("first_processing_mono_ns", stats.firstProcessingMonoNs.toNat),
    ("last_processing_mono_ns", stats.lastProcessingMonoNs.toNat),
    ("drain_duration_ns", stats.drainDurationNs.toNat),
    ("queue_depth_at_shutdown", stats.queueDepthAtShutdown),
    ("socket_pending_bytes_at_shutdown", stats.socketPendingBytesAtShutdown)]

private theorem executeRunLosses_fields {sender : Fields} {successful : Int}
    (sent : sender.item "successful_sends" = .ok successful) (stats : Stats) :
    executeRunLosses sender stats.fields =
      .ok { ingressLoss := successful - stats.uniqueValidPackets
            applicationLoss := successful - stats.uniqueProcessedPackets } := by
  rw [executeRunLosses, sent]
  rfl

private theorem summarizeRunLosses_fields {sender : Fields} {successful : Int}
    (sent : sender.item "successful_sends" = .ok successful) (stats : Stats) :
    summarizeRunLosses sender stats.fields =
      .ok { ingressLoss := successful - stats.uniqueValidPackets
            applicationLoss := successful - stats.uniqueProcessedPackets } := by
  rw [summarizeRunLosses, sent]
  rfl

/-! ## Receiving and processing as folds -/

/-- A valid packet with its two receive timestamps. -/
structure ArrivedMessage where
  message : MessageHeader
  receiveRealNs : UInt64
  receiveMonoNs : UInt64

/-- `account_receive` for each valid packet in turn. -/
def accountAll (sampleEvery : Nat) (arrivals : List ArrivedMessage) :
    Stats × SequenceTracker × List ReceivedPacket :=
  arrivals.foldl
    (fun accounted arrived =>
      let next := accountReceive accounted.1 accounted.2.1 arrived.message arrived.receiveRealNs
        arrived.receiveMonoNs sampleEvery
      (next.1, next.2.1, accounted.2.2 ++ [next.2.2]))
    ({}, .fresh, [])

/-- `process_packet` for each packet in turn. -/
def processAll (fwrite : List UInt8 → Nat) (workNs : Nat)
    (inputs : List (ReceivedPacket × ProcessReadings)) : BinaryLogger × ProcessingStats :=
  inputs.foldl (fun state input => processPacket fwrite state.1 state.2 input.1 workNs input.2)
    (BinaryLogger.create true fwrite, {})

/-- The counters at the end of a run that received `arrivals` and processed
`inputs`. -/
def finalStats (fwrite : List UInt8 → Nat) (sampleEvery workNs : Nat)
    (arrivals : List ArrivedMessage) (inputs : List (ReceivedPacket × ProcessReadings)) : Stats :=
  let accounted := accountAll sampleEvery arrivals
  mergeProcessing (finalizeReceiveSequences accounted.1 accounted.2.1)
    (processAll fwrite workNs inputs).2

private theorem accountAll_sequences (sampleEvery : Nat) (arrivals : List ArrivedMessage) :
    (accountAll sampleEvery arrivals).2.1 =
      SequenceTracker.fresh.observeAll (arrivals.map (·.message.seqIdx)) := by
  induction arrivals using List.reverseRecOn with
  | nil => rfl
  | append_singleton arrivals arrived induction =>
      rw [accountAll] at induction ⊢
      rw [List.foldl_concat, List.map_append, List.map_singleton,
        SequenceTracker.observeAll_concat, ← induction]
      rfl

private theorem accountAll_packets (sampleEvery : Nat) (arrivals : List ArrivedMessage) :
    (accountAll sampleEvery arrivals).2.2.map (·.message) = arrivals.map (·.message) := by
  induction arrivals using List.reverseRecOn with
  | nil => rfl
  | append_singleton arrivals arrived induction =>
      rw [accountAll] at induction ⊢
      rw [List.foldl_concat, List.map_append, List.map_append, induction]
      rfl

private theorem processAll_sequences (fwrite : List UInt8 → Nat) (workNs : Nat)
    (inputs : List (ReceivedPacket × ProcessReadings)) :
    (processAll fwrite workNs inputs).2.sequences =
      SequenceTracker.fresh.observeAll (inputs.map (·.1.message.seqIdx)) := by
  induction inputs using List.reverseRecOn with
  | nil => rfl
  | append_singleton inputs input induction =>
      rw [processAll] at induction ⊢
      rw [List.foldl_concat, List.map_append, List.map_singleton,
        SequenceTracker.observeAll_concat, ← induction]
      rfl

/-! ## Losses in terms of packets -/

theorem card_sdiff_toFinset {transmitted : Finset UInt32} {numbers : List UInt32}
    (sent : ∀ number ∈ numbers, number ∈ transmitted) :
    ((transmitted \ numbers.toFinset).card : Int) = transmitted.card - numbers.toFinset.card := by
  have inside : numbers.toFinset ⊆ transmitted :=
    fun number member => sent number (List.mem_toFinset.mp member)
  have bound := Finset.card_le_card inside
  rw [Finset.card_sdiff_of_subset inside]
  omega

/-- Losses of statistics whose unique counts are those of two trackers, one of
which missed some of the numbers the other has seen. -/
theorem losses_eq {transmitted : Finset UInt32} {sender : Fields}
    (successful : sender.item "successful_sends" = .ok (transmitted.card : Int))
    {arrived used : List UInt32} (sublist : used.Sublist arrived)
    (sent : ∀ number ∈ arrived, number ∈ transmitted) (near : ArrivesWithin 61440 arrived)
    {stats : Stats}
    (received : stats.uniqueValidPackets = (SequenceTracker.fresh.observeAll arrived).unique)
    (processed : stats.uniqueProcessedPackets = (SequenceTracker.fresh.observeAll used).unique) :
    ∃ losses, executeRunLosses sender stats.fields = .ok losses ∧
      losses.ingressLoss = (transmitted \ arrived.toFinset).card ∧
      losses.applicationLoss = (transmitted \ used.toFinset).card ∧
      losses.applicationLoss - losses.ingressLoss = (arrived.toFinset \ used.toFinset).card := by
  rw [SequenceTracker.unique_eq_card (SequenceTracker.outOfWindow_eq_zero near)] at received
  rw [SequenceTracker.unique_eq_card
    (SequenceTracker.outOfWindow_eq_zero (near.sublist sublist))] at processed
  have neverArrived := card_sdiff_toFinset sent
  have neverProcessed := card_sdiff_toFinset fun number member =>
    sent number (sublist.subset member)
  have lostBetween := card_sdiff_toFinset fun number member =>
    List.mem_toFinset.mpr (sublist.subset member)
  refine ⟨_, executeRunLosses_fields successful stats, ?_, ?_, ?_⟩
  · rw [received, neverArrived]
  · rw [processed, neverProcessed]
  · rw [received, processed, lostBetween]
    exact sub_sub_sub_cancel_left _ _ _

/-- Losses of a run whose arrivals stay within the lookback of the trackers: the
ingress loss counts the transmitted numbers that never arrived, the application
loss those that were never processed, and their difference the distinct numbers
that arrived without being processed. -/
theorem loss_accounting (fwrite : List UInt8 → Nat) (sampleEvery workNs : Nat)
    (transmitted : Finset UInt32) (sender : Fields)
    (successful : sender.item "successful_sends" = .ok (transmitted.card : Int))
    (arrivals : List ArrivedMessage)
    (sent : ∀ arrived ∈ arrivals, arrived.message.seqIdx ∈ transmitted)
    (near : ArrivesWithin 61440 (arrivals.map (·.message.seqIdx)))
    (inputs : List (ReceivedPacket × ProcessReadings))
    (processed : (inputs.map Prod.fst).Sublist (accountAll sampleEvery arrivals).2.2) :
    let stats := finalStats fwrite sampleEvery workNs arrivals inputs
    let arrived := (arrivals.map (·.message.seqIdx)).toFinset
    let used := (inputs.map (·.1.message.seqIdx)).toFinset
    stats.receiveOutOfWindow = 0 ∧ stats.processedOutOfWindow = 0 ∧
      ∃ losses, executeRunLosses sender stats.fields = .ok losses ∧
        losses.ingressLoss = (transmitted \ arrived).card ∧
        losses.applicationLoss = (transmitted \ used).card ∧
        losses.applicationLoss - losses.ingressLoss = (arrived \ used).card := by
  intro stats arrived used
  have sublist : (inputs.map (·.1.message.seqIdx)).Sublist
      (arrivals.map (·.message.seqIdx)) := by
    have numbers := (processed.map (·.message)).map (·.seqIdx)
    rw [accountAll_packets, List.map_map, List.map_map, List.map_map] at numbers
    exact numbers
  have receive := accountAll_sequences sampleEvery arrivals
  have process := processAll_sequences fwrite workNs inputs
  refine ⟨?_, ?_, losses_eq successful sublist (by simpa using sent) near ?_ ?_⟩
  · exact (congrArg SequenceTracker.outOfWindow receive).trans
      (SequenceTracker.outOfWindow_eq_zero near)
  · exact (congrArg SequenceTracker.outOfWindow process).trans
      (SequenceTracker.outOfWindow_eq_zero (near.sublist sublist))
  · exact congrArg SequenceTracker.unique receive
  · exact congrArg SequenceTracker.unique process

/-- Of the numbers 5 to 8 the last is lost on the way, 7 arrives twice, and the
first packet is lost in the queue. -/
theorem loss_accounting_of_four_packets :
    let arrivals : List ArrivedMessage :=
      [5, 7, 6, 7].map fun number => ⟨⟨0x6584, 1, 0, number, 0⟩, 1, 1⟩
    let inputs := (accountAll 0 arrivals).2.2.tail.map fun packet => (packet, default)
    ∃ losses, executeRunLosses [("successful_sends", 4)]
        (finalStats completeFwrite 0 0 arrivals inputs).fields = .ok losses ∧
      losses.ingressLoss = 1 ∧ losses.applicationLoss = 2 := by
  intro arrivals inputs
  obtain ⟨_, _, losses, computed, ingress, application, _⟩ :=
    loss_accounting completeFwrite 0 0 {5, 6, 7, 8} [("successful_sends", 4)] rfl arrivals
      (by decide) (by unfold ArrivesWithin; decide) inputs (by decide)
  exact ⟨losses, computed, ingress.trans (by decide), application.trans (by decide)⟩

/-! ## Losses of the threaded receiver -/

variable {host : Endianness} {config : Config} {received : List Datagram}
  {history : List (SpscQueue.Event ReceivedPacket)} {state : ThreadedState}

theorem Drained.processed_sublist (drained : Drained host config received history state) :
    ((reads history).map (·.message)).Sublist (messages host received) := by
  rw [drained.readsEqual, ← drained.pushedEqual]
  exact (List.filter_sublist.map Prod.fst).map _

theorem Drained.unique_eq (drained : Drained host config received history state) :
    state.ingress.stats.uniqueValidPackets =
        (SequenceTracker.fresh.observeAll ((messages host received).map (·.seqIdx))).unique ∧
      state.ingress.stats.uniqueProcessedPackets =
        (SequenceTracker.fresh.observeAll
          ((reads history).map fun packet => packet.message.seqIdx)).unique := by
  have reported := drained.reported
  rw [Reported] at reported
  constructor
  · rw [← drained.counted.sequences]
    exact (congrArg Stats.uniqueValidPackets reported).symm
  · rw [← drained.processed.sequences]
    exact (congrArg Stats.uniqueProcessedPackets reported).symm

theorem Drained.losses (drained : Drained host config received history state)
    {transmitted : Finset UInt32} {sender : Fields}
    (successful : sender.item "successful_sends" = .ok (transmitted.card : Int))
    (sent : ∀ message ∈ messages host received, message.seqIdx ∈ transmitted)
    (near : ArrivesWithin 61440 ((messages host received).map (·.seqIdx))) :
    let arrived := ((messages host received).map (·.seqIdx)).toFinset
    let used := ((reads history).map fun packet => packet.message.seqIdx).toFinset
    ∃ losses, executeRunLosses sender state.ingress.stats.fields = .ok losses ∧
      losses.ingressLoss = (transmitted \ arrived).card ∧
      losses.applicationLoss = (transmitted \ used).card ∧
      losses.applicationLoss - losses.ingressLoss = (arrived \ used).card := by
  have sublist := drained.processed_sublist.map (·.seqIdx)
  rw [List.map_map] at sublist
  exact losses_eq successful sublist (by simpa using sent) near drained.unique_eq.1
    drained.unique_eq.2

/-- A tracker that misses arrivals never counts more unique ones, however badly
they are reordered; so no threaded run processes more unique packets than it
receives, and its application loss is at least its ingress loss. -/
theorem processing_loses_no_less :
    (∀ few many : List UInt32, few.Sublist many →
      (SequenceTracker.fresh.observeAll few).unique ≤
        (SequenceTracker.fresh.observeAll many).unique) ∧
    ∀ host config datagrams schedule,
      let final := ((threadedMachine completeFwrite host config).run
        (threadedStart completeFwrite datagrams) schedule).1
      let stats := final.ingress.stats
      final.ingress.position = .finished →
        stats.uniqueProcessedPackets ≤ stats.uniqueValidPackets ∧
        ∀ (sender : Fields) successful, sender.item "successful_sends" = .ok successful →
          ∃ losses, summarizeRunLosses sender stats.fields = .ok losses ∧
            losses.ingressLoss ≤ losses.applicationLoss := by
  refine ⟨fun few many => SequenceTracker.unique_le_of_sublist, ?_⟩
  intro host config datagrams schedule final stats finished
  rcases threaded_run_drained host config datagrams schedule finished with ⟨received, _, drained⟩
  have fewer : stats.uniqueProcessedPackets ≤ stats.uniqueValidPackets := by
    have sublist := drained.processed_sublist.map (·.seqIdx)
    rw [List.map_map] at sublist
    rw [drained.unique_eq.1, drained.unique_eq.2]
    exact SequenceTracker.unique_le_of_sublist sublist
  refine ⟨fewer, fun sender successful sent => ⟨_, summarizeRunLosses_fields sent stats, ?_⟩⟩
  simp only
  omega

theorem processing_loses_no_less_on_short_stream :
    let stats := ((threadedMachine completeFwrite .little shortConfig).run
      (threadedStart completeFwrite shortStream) shortSchedule).1.ingress.stats
    stats.validPackets = 1 ∧ stats.uniqueProcessedPackets ≤ stats.uniqueValidPackets :=
  ⟨rfl, (processing_loses_no_less.2 .little shortConfig shortStream shortSchedule rfl).1⟩

end NetLatencyLab.Receiver
