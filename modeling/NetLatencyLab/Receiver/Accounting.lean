import NetLatencyLab.Receiver.Common
import NetLatencyLab.Analysis.LogRoundTrip

/-! # What the counters of a receiver mean

Each datagram is one of four arrivals. The counters of a receiver are determined
by the datagrams it has received, and those of the processing side by the
packets it has processed. -/

namespace NetLatencyLab.Receiver

/-! ## Arrivals -/

inductive Arrival where
  | short
  | invalidMagic
  | unsupportedVersion
  | valid (message : MessageHeader)
deriving DecidableEq

def Arrival.message? : Arrival → Option MessageHeader
  | valid message => some message
  | _ => none

def arrival (host : Endianness) (datagram : Datagram) : Arrival :=
  if (copied datagram).length < MessageHeader.size then .short
  else
    let message := readHeader host (copied datagram)
    if message.magic ≠ 0x6584 then .invalidMagic
    else if message.version ≠ 1 then .unsupportedVersion
    else .valid message

/-- The headers of the valid packets, in order. -/
def messages (host : Endianness) (datagrams : List Datagram) : List MessageHeader :=
  datagrams.filterMap fun datagram => (arrival host datagram).message?

@[simp] theorem messages_concat (host : Endianness) (datagrams : List Datagram)
    (datagram : Datagram) :
    messages host (datagrams ++ [datagram]) =
      messages host datagrams ++ (arrival host datagram).message?.toList := by
  cases arrived : (arrival host datagram).message? <;> simp [messages, arrived]

/-- The effect of one arrival on the receive side. -/
def record (config : Config) (truncated : Bool) (stats : Stats) (sequences : SequenceTracker)
    (receiveTs receiveMonoTs : UInt64) (arrived : Arrival) :
    Stats × SequenceTracker × Option ReceivedPacket :=
  let counted := stats.countDatagram
  let stats := if truncated then counted.countTruncated else counted
  match arrived with
  | .short => (stats.countShort, sequences, none)
  | .invalidMagic => (stats.countInvalidMagic, sequences, none)
  | .unsupportedVersion => (stats.countUnsupportedVersion, sequences, none)
  | .valid message =>
      let accounted :=
        accountReceive stats sequences message receiveTs receiveMonoTs config.sampleEvery
      (accounted.1, accounted.2.1, some accounted.2.2)

theorem receiveMessage_eq (host : Endianness) (config : Config) (stats : Stats)
    (sequences : SequenceTracker) (receiveTs receiveMonoTs : UInt64) (datagram : Datagram) :
    receiveMessage host config stats sequences receiveTs receiveMonoTs datagram =
      record config (isTruncated datagram) stats sequences receiveTs receiveMonoTs
        (arrival host datagram) := by
  simp only [receiveMessage, arrival, acceptMessage]
  split
  · rfl
  · split
    · rfl
    · split <;> rfl

/-! ## The receive side -/

/-- The counters of a receiver that has received exactly `datagrams`. -/
structure Received (host : Endianness) (config : Config) (truncates : Datagram → Bool)
    (stats : Stats) (sequences : SequenceTracker) (datagrams : List Datagram) : Prop where
  datagramsReceived : stats.datagramsReceived = datagrams.length
  validPackets : stats.validPackets = (messages host datagrams).length
  shortPackets :
    stats.shortPackets = datagrams.countP fun datagram => arrival host datagram = .short
  invalidMagic :
    stats.invalidMagic = datagrams.countP fun datagram => arrival host datagram = .invalidMagic
  unsupportedVersion :
    stats.unsupportedVersion =
      datagrams.countP fun datagram => arrival host datagram = .unsupportedVersion
  truncatedPackets : stats.truncatedPackets = datagrams.countP truncates
  sampledPackets :
    stats.sampledPackets = (messages host datagrams).countP (isSampled config.sampleEvery)
  sequences :
    sequences = SequenceTracker.fresh.observeAll ((messages host datagrams).map (·.seqIdx))

variable {host : Endianness} {config : Config} {truncates : Datagram → Bool} {stats : Stats}
  {sequences : SequenceTracker} {datagrams : List Datagram}

theorem Received.start : Received host config truncates {} .fresh [] where
  datagramsReceived := rfl
  validPackets := rfl
  shortPackets := rfl
  invalidMagic := rfl
  unsupportedVersion := rfl
  truncatedPackets := rfl
  sampledPackets := rfl
  sequences := rfl

theorem Received.of_stats (received : Received host config truncates stats sequences datagrams)
    {next : Stats} (datagramsReceived : next.datagramsReceived = stats.datagramsReceived)
    (validPackets : next.validPackets = stats.validPackets)
    (shortPackets : next.shortPackets = stats.shortPackets)
    (invalidMagic : next.invalidMagic = stats.invalidMagic)
    (unsupportedVersion : next.unsupportedVersion = stats.unsupportedVersion)
    (truncatedPackets : next.truncatedPackets = stats.truncatedPackets)
    (sampledPackets : next.sampledPackets = stats.sampledPackets) :
    Received host config truncates next sequences datagrams where
  datagramsReceived := datagramsReceived.trans received.datagramsReceived
  validPackets := validPackets.trans received.validPackets
  shortPackets := shortPackets.trans received.shortPackets
  invalidMagic := invalidMagic.trans received.invalidMagic
  unsupportedVersion := unsupportedVersion.trans received.unsupportedVersion
  truncatedPackets := truncatedPackets.trans received.truncatedPackets
  sampledPackets := sampledPackets.trans received.sampledPackets
  sequences := received.sequences

theorem Received.partition (received : Received host config truncates stats sequences datagrams) :
    stats.datagramsReceived = stats.validPackets + stats.shortPackets + stats.invalidMagic +
      stats.unsupportedVersion := by
  rw [received.datagramsReceived, received.validPackets, received.shortPackets,
    received.invalidMagic, received.unsupportedVersion]
  clear received
  induction datagrams with
  | nil => rfl
  | cons datagram datagrams induction =>
      cases arrived : arrival host datagram <;>
        simp [messages, arrived, Arrival.message?] at induction ⊢ <;> omega

theorem Received.record (received : Received host config truncates stats sequences datagrams)
    (datagram : Datagram) (receiveTs receiveMonoTs : UInt64) :
    Received host config truncates
      (record config (truncates datagram) stats sequences receiveTs receiveMonoTs
        (arrival host datagram)).1
      (record config (truncates datagram) stats sequences receiveTs receiveMonoTs
        (arrival host datagram)).2.1
      (datagrams ++ [datagram]) := by
  rcases received with ⟨count, valid, short, magic, version, truncated, sampled, observed⟩
  cases arrived : arrival host datagram <;> cases cut : truncates datagram <;> constructor <;>
    simp [Receiver.record, accountReceive, Stats.countDatagram, Stats.countTruncated,
      Stats.countShort, Stats.countInvalidMagic, Stats.countUnsupportedVersion, arrived, cut,
      Arrival.message?, count, valid, short, magic, version, truncated, sampled, observed]

theorem record_packet (config : Config) (truncated : Bool) (stats : Stats)
    (sequences : SequenceTracker) (receiveTs receiveMonoTs : UInt64) (arrived : Arrival) :
    (record config truncated stats sequences receiveTs receiveMonoTs arrived).2.2 =
      arrived.message?.map fun message =>
        { message := message
          receiveRealNs := receiveTs
          receiveMonoNs := receiveMonoTs
          sampled := isSampled config.sampleEvery message } := by
  cases arrived <;> rfl

theorem record_spscOverflow (config : Config) (truncated : Bool) (stats : Stats)
    (sequences : SequenceTracker) (receiveTs receiveMonoTs : UInt64) (arrived : Arrival) :
    (record config truncated stats sequences receiveTs receiveMonoTs arrived).1.spscOverflow =
      stats.spscOverflow := by
  cases arrived <;> cases truncated <;> rfl

/-! ## The processing side -/

def packetKey (packet : ReceivedPacket) : UInt32 × UInt64 × UInt64 :=
  (packet.message.seqIdx, packet.message.sendUnixNs, packet.receiveRealNs)

def entryKey (entry : LogEntry) : UInt32 × UInt64 × UInt64 :=
  (entry.seqIdx, entry.txTs, entry.rxTs)

/-- A processing side that has processed exactly `packets`, in order. -/
structure Processed (processing : ProcessingStats) (logger : BinaryLogger)
    (packets : List ReceivedPacket) : Prop where
  processedPackets : processing.processedPackets = packets.length
  sequences :
    processing.sequences =
      SequenceTracker.fresh.observeAll (packets.map fun packet => packet.message.seqIdx)
  logged : ∃ groups pending, logger.Holds groups pending ∧
    (groups.flatten ++ pending).map entryKey =
      (packets.filter fun packet => packet.sampled).map packetKey

open BinaryLogger (completeFwrite)

theorem Processed.start : Processed {} (BinaryLogger.create true completeFwrite) [] where
  processedPackets := rfl
  sequences := rfl
  logged := ⟨[], [], .create, rfl⟩

variable {processing : ProcessingStats} {logger : BinaryLogger} {packets : List ReceivedPacket}

theorem Processed.processPacket (processed : Processed processing logger packets)
    (packet : ReceivedPacket) (workNs : Nat) (readings : ProcessReadings) :
    Processed (processPacket completeFwrite logger processing packet workNs readings).2
      (processPacket completeFwrite logger processing packet workNs readings).1
      (packets ++ [packet]) where
  processedPackets := by simp [Receiver.processPacket, processed.processedPackets]
  sequences := by simp [Receiver.processPacket, processed.sequences]
  logged := by
    rcases processed.logged with ⟨groups, pending, holds, keys⟩
    by_cases sampled : packet.sampled
    · simp only [Receiver.processPacket, sampled, if_true]
      rcases holds.log _ with ⟨groups', pending', logged, flattened⟩
      refine ⟨groups', pending', logged, ?_⟩
      rw [flattened, List.map_append, keys, List.filter_append, List.map_append]
      simp [sampled, entryKey, packetKey]
    · refine ⟨groups, pending, ?_, ?_⟩
      · simpa [Receiver.processPacket, sampled] using holds
      · simpa [sampled] using keys

theorem Processed.flushed (processed : Processed processing logger packets) :
    Processed processing (logger.flush completeFwrite) packets := by
  rcases processed.logged with ⟨groups, pending, holds, keys⟩
  rcases holds.flush with ⟨written, flushed, flattened⟩
  exact { processed with logged := ⟨written, [], flushed, by rw [List.append_nil, flattened, keys]⟩ }

theorem Processed.flush (processed : Processed processing logger packets) :
    ∃ entries, (logger.flush completeFwrite).contents = LatencyUtils.logFile entries ∧
      entries.map entryKey = (packets.filter fun packet => packet.sampled).map packetKey := by
  rcases processed.logged with ⟨groups, pending, holds, keys⟩
  rcases holds.flush with ⟨written, flushed, flattened⟩
  exact ⟨written.flatten, flushed.contents, by rw [flattened, keys]⟩

/-! ## The end of a run -/

def HasReason (config : Config) (stats : Stats) (stop : Bool) : Prop :=
  wantsMore config stats = false ∨ stop = true ∨ stats.socketErrors ≠ 0

theorem HasReason.of_leave {stop : Bool} (leave : (stop || !wantsMore config stats) = true) :
    HasReason config stats stop := by
  rcases Bool.or_eq_true_iff.mp leave with stopped | satisfied
  · exact .inr (.inl stopped)
  · exact .inl (by simpa using satisfied)

theorem wantsMore_of_stay {stop : Bool} (stay : ¬(stop || !wantsMore config stats) = true) :
    wantsMore config stats = true := by
  simp only [Bool.or_eq_true, not_or, Bool.not_eq_true, Bool.not_eq_false'] at stay
  exact stay.2

def Reported (stats : Stats) (sequences : SequenceTracker) (processing : ProcessingStats) : Prop :=
  mergeProcessing (finalizeReceiveSequences stats sequences) processing = stats

def wanted (maxPackets : Nat) (datagrams : List Datagram) : List Datagram :=
  if maxPackets = 0 then datagrams else datagrams.take maxPackets

/-- A receiver that was not stopped while datagrams were pending has received
exactly the wanted part of the stream. -/
theorem Received.eq_wanted (received : Received host config truncates stats sequences datagrams)
    {stream rest : List Datagram} (split : stream = datagrams ++ rest)
    (limited : config.maxPackets ≠ 0 → stats.datagramsReceived ≤ config.maxPackets)
    {stop : Bool} (reason : HasReason config stats stop) (noError : stats.socketErrors = 0)
    (complete : stop = true → rest = []) :
    datagrams = wanted config.maxPackets stream := by
  have count := received.datagramsReceived
  rcases reason with satisfied | stopped | failed
  · have limit : config.maxPackets ≠ 0 ∧ config.maxPackets ≤ stats.datagramsReceived := by
      simpa [wantsMore] using satisfied
    have length : datagrams.length = config.maxPackets := by
      have upper := limited limit.1
      omega
    rw [wanted, if_neg limit.1, split, ← length, List.take_left]
  · rw [split, complete stopped, List.append_nil, wanted]
    split
    · rfl
    · rename_i nonzero
      rw [List.take_of_length_le (count ▸ limited nonzero)]
  · exact absurd noError failed

theorem add_requested_le (wants : wantsMore config stats) (nonzero : config.maxPackets ≠ 0) :
    stats.datagramsReceived + requested config stats ≤ config.maxPackets := by
  have below : stats.datagramsReceived < config.maxPackets := by
    simpa [wantsMore, nonzero] using wants
  rw [requested, if_pos nonzero]
  omega

/-- The counters that do not depend on clocks, batches or samples. -/
structure Counters where
  datagramsReceived : Nat
  validPackets : Nat
  shortPackets : Nat
  invalidMagic : Nat
  unsupportedVersion : Nat
  processedPackets : Nat
  uniqueValidPackets : Nat
  receiveSequenceGaps : Nat
  receiveDuplicates : Nat
  receiveReordered : Nat
  receiveOutOfWindow : Nat
  uniqueProcessedPackets : Nat
  processedSequenceGaps : Nat
  processedDuplicates : Nat
  processedReordered : Nat
  processedOutOfWindow : Nat
deriving DecidableEq

def Stats.counters (stats : Stats) : Counters where
  datagramsReceived := stats.datagramsReceived
  validPackets := stats.validPackets
  shortPackets := stats.shortPackets
  invalidMagic := stats.invalidMagic
  unsupportedVersion := stats.unsupportedVersion
  processedPackets := stats.processedPackets
  uniqueValidPackets := stats.uniqueValidPackets
  receiveSequenceGaps := stats.receiveSequenceGaps
  receiveDuplicates := stats.receiveDuplicates
  receiveReordered := stats.receiveReordered
  receiveOutOfWindow := stats.receiveOutOfWindow
  uniqueProcessedPackets := stats.uniqueProcessedPackets
  processedSequenceGaps := stats.processedSequenceGaps
  processedDuplicates := stats.processedDuplicates
  processedReordered := stats.processedReordered
  processedOutOfWindow := stats.processedOutOfWindow

def expectedCounters (host : Endianness) (datagrams : List Datagram) : Counters :=
  let headers := messages host datagrams
  let tracker := SequenceTracker.fresh.observeAll (headers.map (·.seqIdx))
  { datagramsReceived := datagrams.length
    validPackets := headers.length
    shortPackets := datagrams.countP fun datagram => arrival host datagram = .short
    invalidMagic := datagrams.countP fun datagram => arrival host datagram = .invalidMagic
    unsupportedVersion :=
      datagrams.countP fun datagram => arrival host datagram = .unsupportedVersion
    processedPackets := headers.length
    uniqueValidPackets := tracker.unique
    receiveSequenceGaps := tracker.gaps
    receiveDuplicates := tracker.duplicates
    receiveReordered := tracker.reordered
    receiveOutOfWindow := tracker.outOfWindow
    uniqueProcessedPackets := tracker.unique
    processedSequenceGaps := tracker.gaps
    processedDuplicates := tracker.duplicates
    processedReordered := tracker.reordered
    processedOutOfWindow := tracker.outOfWindow }

theorem counters_eq_expected
    (received : Received host config truncates stats sequences datagrams)
    (processed : Processed processing logger packets)
    (messagesEqual : packets.map (·.message) = messages host datagrams)
    (reported : Reported stats sequences processing) :
    stats.counters = expectedCounters host datagrams := by
  have numbers : packets.map (fun packet => packet.message.seqIdx) =
      (messages host datagrams).map (·.seqIdx) := by
    rw [← messagesEqual, List.map_map]
    rfl
  have length : packets.length = (messages host datagrams).length := by
    rw [← messagesEqual, List.length_map]
  calc stats.counters
      = (mergeProcessing (finalizeReceiveSequences stats sequences) processing).counters :=
        (congrArg Stats.counters reported).symm
    _ = expectedCounters host datagrams := by
        simp only [Stats.counters, mergeProcessing, finalizeReceiveSequences, expectedCounters,
          received.datagramsReceived, received.validPackets, received.shortPackets,
          received.invalidMagic, received.unsupportedVersion, received.sequences,
          processed.processedPackets, processed.sequences, numbers, length]

end NetLatencyLab.Receiver
