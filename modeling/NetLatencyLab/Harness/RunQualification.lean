import NetLatencyLab.Harness.Qualification
import NetLatencyLab.Harness.RunValidity

/-! # Runs that qualify a sender

What is known of the packets of a run when `qualification_reasons` finds nothing. -/

namespace NetLatencyLab.Harness

open CommandLine (Double)
open PythonText (Text)
open Receiver (Books Datagram ReadBack arrival messages)
open Sender (FloatText wire)
open Statistics (Field safeReadJson)

/-! ## Nothing but packets -/

theorem messages_length_add (host : Endianness) (received : List Datagram) :
    (messages host received).length +
      (received.countP fun datagram => arrival host datagram = .short) +
      (received.countP fun datagram => arrival host datagram = .invalidMagic) +
      (received.countP fun datagram => arrival host datagram = .unsupportedVersion) =
        received.length := by
  induction received with
  | nil => rfl
  | cons datagram received induction =>
      have rest : (messages host (datagram :: received)).length =
          (arrival host datagram).message?.toList.length + (messages host received).length := by
        cases carried : (arrival host datagram).message? with
        | none => simp [messages, carried]
        | some message => simp [messages, carried, Nat.add_comm]
      rw [rest, List.length_cons, ← induction]
      cases arrived : arrival host datagram with
      | valid message => simp [Receiver.Arrival.message?, arrived]; omega
      | short => simp [Receiver.Arrival.message?, arrived]; omega
      | invalidMagic => simp [Receiver.Arrival.message?, arrived]; omega
      | unsupportedVersion => simp [Receiver.Arrival.message?, arrived]; omega

/-! ## The delivery -/

structure Reconciled (run : SenderRun) {datagrams : List Datagram}
    (receiver : ReceiverRun datagrams) : Prop where
  drawn : (wire run.outcome.2).length = run.outcome.1.nextSequence
  unique : receiver.outcome.stats.uniqueValidPackets = (wire run.outcome.2).length
  duplicates : receiver.outcome.stats.receiveDuplicates = 0
  short : receiver.outcome.stats.shortPackets = 0
  magic : receiver.outcome.stats.invalidMagic = 0
  version : receiver.outcome.stats.unsupportedVersion = 0
  overflow : receiver.outcome.stats.spscOverflow = 0
  reordered : 10000 * receiver.outcome.stats.receiveReordered <
    max 1 receiver.outcome.stats.uniqueValidPackets

section

variable {floats : FloatText} {run : SenderRun} {datagrams : List Datagram}
  {receiver : ReceiverRun datagrams} {float : Text → Option Double} {metadata : Metadata}

theorem Qualified.reconciled (qualified : Qualified float metadata)
    (sent : Holds metadata.senderStats (Sender.statsFields floats run.report))
    (told : ReadBack receiver.options receiver.outcome.stats receiver.buffer receiver.outcomes
      metadata.receiverStats) : Reconciled run receiver := by
  rcases qualified.packets with ⟨successful, readSuccessful, readAttempted, readUnique, _⟩
  rcases qualified.reordered with ⟨reordered, unique, readReordered, readValid, below⟩
  have printed := (sent.count float "successful_sends" run.report.stats.successfulSends
    (by simp [Sender.scalarFields])).1
  have attempted := (sent.count float "attempted_sends" run.report.stats.attemptedSends
    (by simp [Sender.scalarFields])).1
  have counted := receiver_count float told
  have valid := (counted "unique_valid_packets" receiver.outcome.stats.uniqueValidPackets
    (by simp [Receiver.Stats.fields])).1
  have late := (counted "receive_reordered" receiver.outcome.stats.receiveReordered
    (by simp [Receiver.Stats.fields])).2 0
  rw [run.successful, readSuccessful, Option.some.injEq] at printed
  rw [run.attempted, readAttempted, Option.some.injEq] at attempted
  rw [valid, Option.some.injEq] at readUnique readValid
  rw [late, Option.some.injEq] at readReordered
  -- The fields that have to be 0, by their names.
  have zero : ∀ name, name ∈ sequenceFields ++ packetFields → ∀ value : Nat,
      (name, (value : Int)) ∈ receiver.outcome.stats.fields → value = 0 := by
    intro name checked value listed
    have read := (counted name value listed).2 0
    rw [qualified.zero name checked, Option.some.injEq] at read
    omega
  exact {
    drawn := by omega
    unique := by omega
    duplicates := zero "receive_duplicates" (by decide) _ (by simp [Receiver.Stats.fields])
    short := zero "short_packets" (by decide) _ (by simp [Receiver.Stats.fields])
    magic := zero "invalid_magic" (by decide) _ (by simp [Receiver.Stats.fields])
    version := zero "unsupported_version" (by decide) _ (by simp [Receiver.Stats.fields])
    overflow := zero "spsc_overflow" (by decide) _ (by simp [Receiver.Stats.fields])
    reordered := by omega }

end

/-- A qualified run has transmitted every number that it has drawn exactly once,
and the receiver has received and processed as many packets and nothing else.
Fewer than one in ten thousand of them is a repetition in place of a lost
packet, and none is unless a packet arrived outside the receiver's window. -/
theorem qualified_run_delivers {floats : FloatText} (fixed : floats.Fixed) (run : SenderRun)
    {datagrams : List Datagram} (receiver : ReceiverRun datagrams)
    (carries : Carries receiver.host run.outcome.2 datagrams) (float : Text → Option Double)
    (metadata : Metadata)
    (readSender : safeReadJson floats.toFloat (run.file floats) = some metadata.senderStats)
    (readReceiver : safeReadJson floats.toFloat receiver.file = some metadata.receiverStats)
    (passed : qualificationReasons float metadata = some []) :
    ((wire run.outcome.2).map (·.sequence)).Perm (List.range run.outcome.1.nextSequence) ∧
    ∃ received, datagrams = received ++ receiver.outcome.socket ∧
      received.length = (wire run.outcome.2).length ∧
      (messages receiver.host received).length = (wire run.outcome.2).length ∧
      Books receiver.host received (messages receiver.host received) receiver.outcome.stats ∧
      10000 * lost receiver.host run.outcome.2 received < max 1 (wire run.outcome.2).length ∧
      (receiver.outcome.stats.receiveOutOfWindow = 0 →
        lost receiver.host run.outcome.2 received = 0) := by
  rcases run.file_read_back fixed with ⟨sender, read, sent⟩
  rcases receiver.file_read_back floats.toFloat with ⟨heard, readHeard, told⟩
  rw [readSender, Option.some.injEq] at read
  rw [readReceiver, Option.some.injEq] at readHeard
  subst read
  subst readHeard
  have holds : Holds metadata.senderStats (Sender.statsFields floats run.report) := sent
  have reconciled : Reconciled run receiver :=
    (qualified_of_no_reasons passed).reconciled holds told
  rcases receiver.ends.books with ⟨received, used, split, books, whole⟩
  have same := whole reconciled.overflow
  subst same
  have accounts := SequenceTracker.observeAll_accounts (arrivedNumbers receiver.host received)
  have arrivals := Deduplication.uniqueCount_add_duplicateCount SequenceTracker.Retires ∅
    (arrivedNumbers receiver.host received)
  rw [← accounts.unique, ← accounts.duplicates] at arrivals
  have late := SequenceTracker.outOfWindow_le_reordered (arrivedNumbers receiver.host received)
  have counted := lost_add_unique_le run.encoded carries split books
  have nothing := messages_length_add receiver.host received
  rw [← books.short, ← books.magic, ← books.version, reconciled.short, reconciled.magic,
    reconciled.version] at nothing
  have unique : _ = (SequenceTracker.fresh.observeAll
    (arrivedNumbers receiver.host received)).unique := books.receiveSide.1
  have duplicates : _ = (SequenceTracker.fresh.observeAll
    (arrivedNumbers receiver.host received)).duplicates := books.receiveSide.2.2.1
  have reordered : _ = (SequenceTracker.fresh.observeAll
    (arrivedNumbers receiver.host received)).reordered := books.receiveSide.2.2.2.1
  have outside : _ = (SequenceTracker.fresh.observeAll
    (arrivedNumbers receiver.host received)).outOfWindow := books.receiveSide.2.2.2.2
  have length : (arrivedNumbers receiver.host received).length =
      (messages receiver.host received).length := List.length_map _
  rcases reconciled with ⟨drawn, uniqueSent, noDuplicates, _, _, _, _, below⟩
  refine ⟨sequences_perm run.conserved drawn, received, split, ?_, ?_, books, ?_, ?_⟩
  · omega
  · omega
  · omega
  · omega

/-- `float` of a text with a point between two numbers. -/
def pointFloat (text : Text) : Option Double := do
  let parts ← PythonText.partition '.' text
  let whole ← PythonText.natural parts.1
  let rest ← PythonText.natural parts.2
  pure (.finite (whole + (rest : ℚ) / 10 ^ parts.2.length))

def calmNode : List String → Except Text Text
  | ["sh", "-c", "vcgencmd get_throttled 2>/dev/null || echo unavailable"] =>
      .ok "throttled=0x0".toList
  | ["ethtool", _] => .ok "Speed: 1000Mb/s, Duplex: Full".toList
  | ["ethtool", _, _] => .ok []
  | _ => .error "Command failed".toList

def calmState : NodeState := runState calmNode "eth0"

def twoPacketMetadata (receiver : ReceiverRun twoPackets) : Metadata where
  requestedRatePps := 2
  payloadSize := 16
  senderStats := (Sender.statsFields Sender.exactText twoPacketRun.report).map Field.entry
  receiverStats := (Receiver.statsFields receiver.options receiver.outcome.stats receiver.buffer
    receiver.outcomes).map Field.entry
  counters := []
  senderCounters := []
  states := ⟨calmState, calmState, calmState, calmState⟩
  pacing := some []
  validity := []

theorem two_packets_are_delivered :
    ∃ ended, let receiver := baselineRun twoPackets ended
      qualificationReasons pointFloat (twoPacketMetadata receiver) = some [] ∧
      ∃ received, twoPackets = received ++ receiver.outcome.socket ∧
        (messages receiver.host received).length = 2 ∧
        lost receiver.host twoPacketRun.outcome.2 received = 0 := by
  have ended : (baselineEnd twoPackets).position = .finished := by decide +kernel
  have passed : qualificationReasons pointFloat (twoPacketMetadata (baselineRun twoPackets ended)) =
      some [] := by
    revert ended
    decide +kernel
  have sent : (wire twoPacketRun.outcome.2).length = 2 := by decide +kernel
  have inside : (baselineEnd twoPackets).outcome.stats.receiveOutOfWindow = 0 := by decide +kernel
  have carries : Carries .big twoPacketRun.outcome.2 twoPackets := by
    intro datagram member _ _
    rcases List.mem_map.mp member with ⟨transmission, onWire, payload⟩
    exact ⟨transmission, onWire, payload⟩
  rcases qualified_run_delivers Sender.exactText_fixed twoPacketRun (baselineRun twoPackets ended)
    carries pointFloat (twoPacketMetadata (baselineRun twoPackets ended))
    (Sender.read_writeStats Sender.exactText_fixed twoPacketRun.prints)
    (Receiver.read_writeStats _ _ (baselineRun twoPackets ended).variant_plain
      ((baselineRun twoPackets ended).prints _)) passed
    with ⟨_, received, split, _, packets, _, _, whole⟩
  exact ⟨ended, passed, received, split, packets.trans sent, whole inside⟩

end NetLatencyLab.Harness
