import NetLatencyLab.Receiver.Agreement
import NetLatencyLab.Sender.Worker

/-! # The wire codec

The header that the sender copies into a payload, byte by byte, and what the
receivers make of any bytes at all. -/

namespace NetLatencyLab

namespace Endianness

private theorem fromBigEndian_load_eq (host : Endianness) {width : Nat} {bytes : List UInt8}
    (length : bytes.length = width) :
    host.fromBigEndian width (host.load bytes) = LittleEndian.value bytes.reverse := by
  cases host with
  | little => rw [load, fromBigEndian, LittleEndian.bytes_value_of_length length]
  | big => rfl

private theorem load_singleton (host : Endianness) (byte : UInt8) :
    host.load [byte] = byte.toNat := by
  cases host <;> simp [load]

end Endianness

def bigEndian (width number : Nat) : List UInt8 := (LittleEndian.bytes width number).reverse

namespace MessageHeader

def probe (seqIdx : UInt32) (sendUnixNs : UInt64) : MessageHeader where
  magic := 0x6584
  version := 1
  msgType := 0
  seqIdx := seqIdx
  sendUnixNs := sendUnixNs

theorem toMemory_length (host : Endianness) (message : MessageHeader) :
    (message.toMemory host).length = size := by
  simp [toMemory, size]

private theorem toMemory_toNetwork_probe (host : Endianness) (seqIdx : UInt32)
    (sendUnixNs : UInt64) :
    ((probe seqIdx sendUnixNs).toNetwork host).toMemory host =
      [0x65, 0x84, 0x01, 0x00] ++ bigEndian 4 seqIdx.toNat ++ bigEndian 8 sendUnixNs.toNat := by
  have magic : ((probe seqIdx sendUnixNs).toNetwork host).magic.toNat =
      host.toBigEndian 2 0x6584 :=
    Nat.mod_eq_of_lt (host.toBigEndian_lt (show 0x6584 < 256 ^ 2 by decide))
  have seqIdxStored : ((probe seqIdx sendUnixNs).toNetwork host).seqIdx.toNat =
      host.toBigEndian 4 seqIdx.toNat :=
    Nat.mod_eq_of_lt (host.toBigEndian_lt seqIdx.toNat_lt)
  have sendUnixNsStored : ((probe seqIdx sendUnixNs).toNetwork host).sendUnixNs.toNat =
      host.toBigEndian 8 sendUnixNs.toNat :=
    Nat.mod_eq_of_lt (host.toBigEndian_lt sendUnixNs.toNat_lt)
  have front : (LittleEndian.bytes 2 0x6584).reverse ++ host.store 1 1 ++ host.store 1 0 =
      [0x65, 0x84, 0x01, 0x00] := by
    cases host <;> rfl
  rw [toMemory, magic, seqIdxStored, sendUnixNsStored, Endianness.store_toBigEndian,
    Endianness.store_toBigEndian, Endianness.store_toBigEndian, ← front]
  rfl

end MessageHeader

namespace Receiver

open MessageHeader (probe)

/-! ## Sent datagrams -/

/-- The `memcpy` of a header over the first bytes of a payload. -/
def encodeDatagram (host : Endianness) (message : MessageHeader) (payload : List UInt8) :
    Datagram :=
  Records.place 0 ((message.toNetwork host).toMemory host) payload

theorem encodeDatagram_eq (host : Endianness) (message : MessageHeader) (payload : List UInt8) :
    encodeDatagram host message payload =
      (message.toNetwork host).toMemory host ++ payload.drop MessageHeader.size := by
  rw [encodeDatagram, Records.place, MessageHeader.toMemory_length]
  simp

theorem encodeMessage_payload (host : Endianness) (config : Sender.Config) (sequence : Nat)
    (realNs : UInt64) :
    (Sender.encodeMessage host config sequence realNs).payload =
      encodeDatagram host
        (probe (UInt32.ofNat sequence)
          (if sequence % config.timestampEvery = 0 ∧ config.timestampEvery ≠ 0 then realNs else 0))
        (List.replicate config.payloadSize 0) := by
  rw [encodeDatagram_eq, List.drop_replicate, Sender.encodeMessage]
  simp [probe, and_comm]

/-! ## Arrivals -/

theorem arrival_header (sender receiver : Endianness) {message : MessageHeader}
    (magic : message.magic = 0x6584) (version : message.version = 1) (rest : List UInt8) :
    arrival receiver ((message.toNetwork sender).toMemory sender ++ rest) = .valid message := by
  have length := MessageHeader.toMemory_length sender (message.toNetwork sender)
  have slot : MessageHeader.size ≤ receiveSlotBytes := by decide
  have received : copied ((message.toNetwork sender).toMemory sender ++ rest) =
      (message.toNetwork sender).toMemory sender ++
        rest.take (receiveSlotBytes - MessageHeader.size) := by
    rw [copied, List.take_append, length, List.take_of_length_le (by rw [length]; exact slot)]
  have complete : ¬ (copied ((message.toNetwork sender).toMemory sender ++ rest)).length <
      MessageHeader.size := by
    rw [received, List.length_append, length]
    omega
  have header : readHeader receiver (copied ((message.toNetwork sender).toMemory sender ++ rest)) =
      message := by
    rw [received]
    exact MessageHeader.toHost_ofMemory_toMemory sender receiver message _
  rw [arrival, if_neg complete]
  simp only [header]
  rw [if_neg (not_not.mpr magic), if_neg (not_not.mpr version)]

private theorem readHeader_front (host : Endianness) (first second third : UInt8)
    (rest : List UInt8) :
    ((readHeader host (first :: second :: third :: rest)).magic = 0x6584 ↔
      first = 0x65 ∧ second = 0x84) ∧
    (readHeader host (first :: second :: third :: rest)).version = third := by
  constructor
  · have small : host.load [first, second] < 2 ^ 16 := by simpa using host.load_lt [first, second]
    have decoded : host.fromBigEndian 2 (host.load [first, second]) =
        LittleEndian.value [second, first] := host.fromBigEndian_load_eq rfl
    have magic : (readHeader host (first :: second :: third :: rest)).magic =
        UInt16.ofNat (LittleEndian.value [second, first]) := by
      change UInt16.ofNat (host.fromBigEndian 2
        (UInt16.ofNat (host.load [first, second])).toNat) = _
      rw [UInt16.toNat_ofNat', Nat.mod_eq_of_lt small, decoded]
    rw [magic, ← UInt16.toNat_inj, ← UInt8.toNat_inj, ← UInt8.toNat_inj]
    have firstSmall := first.toNat_lt
    have secondSmall := second.toNat_lt
    simp
    omega
  · change UInt8.ofNat (host.load [third]) = third
    rw [Endianness.load_singleton, UInt8.ofNat_toNat]

/-! ## Classes -/

inductive PacketClass where
  | short
  | invalidMagic
  | unsupportedVersion
  | valid
deriving DecidableEq

/-- The counter that a receiver keeps for a class. -/
def Stats.count (stats : Stats) : PacketClass → Nat
  | .short => stats.shortPackets
  | .invalidMagic => stats.invalidMagic
  | .unsupportedVersion => stats.unsupportedVersion
  | .valid => stats.validPackets

def Arrival.packetClass : Arrival → PacketClass
  | short => .short
  | invalidMagic => .invalidMagic
  | unsupportedVersion => .unsupportedVersion
  | valid _ => .valid

theorem record_count (config : Config) (truncated : Bool) (stats : Stats)
    (sequences : SequenceTracker) (receiveTs receiveMonoTs : UInt64) (arrived : Arrival)
    (other : PacketClass) :
    (record config truncated stats sequences receiveTs receiveMonoTs arrived).1.count other =
      stats.count other + if other = arrived.packetClass then 1 else 0 := by
  cases arrived <;> cases truncated <;> cases other <;> rfl

private theorem record_packet_isSome (config : Config) (truncated : Bool) (stats : Stats)
    (sequences : SequenceTracker) (receiveTs receiveMonoTs : UInt64) (arrived : Arrival) :
    (record config truncated stats sequences receiveTs receiveMonoTs arrived).2.2.isSome = true ↔
      arrived.packetClass = .valid := by
  cases arrived <;> simp [record, Arrival.packetClass]

private theorem packetClass_eq_valid_iff (host : Endianness) (datagram : Datagram) :
    (arrival host datagram).packetClass = .valid ↔
      MessageHeader.size ≤ datagram.length ∧ [0x65, 0x84, 0x01] <+: datagram := by
  have copiedLength : (copied datagram).length = min receiveSlotBytes datagram.length :=
    List.length_take
  have slot : receiveSlotBytes = 2048 := rfl
  have size : MessageHeader.size = 16 := rfl
  by_cases long : MessageHeader.size ≤ datagram.length
  · have complete : ¬ (copied datagram).length < MessageHeader.size := by omega
    rw [arrival, if_neg complete]
    have bytes : ∃ first second third rest, datagram = first :: second :: third :: rest := by
      rcases datagram with _ | ⟨first, _ | ⟨second, _ | ⟨third, rest⟩⟩⟩
      · simp [size] at long
      · simp [size] at long
      · simp [size] at long
      · exact ⟨first, second, third, rest, rfl⟩
    rcases bytes with ⟨first, second, third, rest, same⟩
    subst same
    have front := readHeader_front host first second third (rest.take 2045)
    have kept : copied (first :: second :: third :: rest) =
        first :: second :: third :: rest.take 2045 := rfl
    simp only [kept, front.2, long, true_and, List.cons_prefix_cons, List.nil_prefix,
      and_true]
    by_cases magic : first = 0x65 ∧ second = 0x84
    · rw [if_neg (not_not.mpr (front.1.mpr magic))]
      by_cases version : third = 1
      · rw [if_neg (not_not.mpr version)]
        simp [Arrival.packetClass, magic, version]
      · rw [if_pos version]
        simp [Arrival.packetClass, Ne.symm version]
    · rw [if_pos (mt front.1.mp magic)]
      have different : ¬ (0x65 = first ∧ 0x84 = second ∧ 0x01 = third) :=
        fun same => magic ⟨same.1.symm, same.2.1.symm⟩
      simp only [Arrival.packetClass, different, reduceCtorEq]
  · have incomplete : (copied datagram).length < MessageHeader.size := by omega
    rw [arrival, if_pos incomplete]
    simp [Arrival.packetClass, long]

/-! ## Every receiver -/

def Variant.receive : Variant → Endianness → Config → Stats → SequenceTracker → UInt64 → UInt64 →
    Datagram → Stats × SequenceTracker × Option ReceivedPacket
  | .baseline => receiveDatagram
  | .batched => receiveMessage
  | .threaded => receiveMessage

section

variable (sender receiver : Endianness) (variant : Variant) (config : Config) (stats : Stats)
  (sequences : SequenceTracker) (receiveTs receiveMonoTs : UInt64)

theorem Variant.receive_eq (datagram : Datagram) :
    ∃ truncated, variant.receive receiver config stats sequences receiveTs receiveMonoTs datagram =
      record config truncated stats sequences receiveTs receiveMonoTs
        (arrival receiver datagram) := by
  cases variant with
  | baseline => exact ⟨_, receiveDatagram_eq receiver config stats sequences _ _ datagram⟩
  | batched => exact ⟨_, receiveMessage_eq receiver config stats sequences _ _ datagram⟩
  | threaded => exact ⟨_, receiveMessage_eq receiver config stats sequences _ _ datagram⟩

/-- What the sender encodes has one form on every host, and every receiver on
every host counts it as valid and reads its number and timestamp, also when the
slot cuts it off. Of any bytes at all a receiver counts exactly one class, and
hands a packet on exactly when it is the valid one. -/
theorem wire_codec :
    (∀ (seqIdx : UInt32) (sendUnixNs : UInt64) (payload : List UInt8), 16 ≤ payload.length →
      let datagram := encodeDatagram sender (probe seqIdx sendUnixNs) payload
      datagram.length = payload.length ∧
      datagram = [0x65, 0x84, 0x01, 0x00] ++ bigEndian 4 seqIdx.toNat ++
        bigEndian 8 sendUnixNs.toNat ++ payload.drop 16 ∧
      let outcome :=
        variant.receive receiver config stats sequences receiveTs receiveMonoTs datagram
      (∀ other, outcome.1.count other = stats.count other + if other = .valid then 1 else 0) ∧
      ∃ packet, outcome.2.2 = some packet ∧ packet.message.seqIdx = seqIdx ∧
        packet.message.sendUnixNs = sendUnixNs) ∧
    (∀ (senderConfig : Sender.Config) (sequence : Nat) (realNs : UInt64),
      let sampled := sequence % senderConfig.timestampEvery = 0 ∧ senderConfig.timestampEvery ≠ 0
      (Sender.encodeMessage sender senderConfig sequence realNs).payload =
        encodeDatagram sender (probe (UInt32.ofNat sequence) (if sampled then realNs else 0))
          (List.replicate senderConfig.payloadSize 0)) ∧
    ∀ datagram : Datagram,
      let outcome :=
        variant.receive receiver config stats sequences receiveTs receiveMonoTs datagram
      ∃! kind : PacketClass,
        (∀ other, outcome.1.count other = stats.count other + if other = kind then 1 else 0) ∧
        (outcome.2.2.isSome = true ↔ kind = .valid) ∧
        (kind = .valid ↔ 16 ≤ datagram.length ∧ [0x65, 0x84, 0x01] <+: datagram) := by
  refine ⟨?_, ?_, ?_⟩
  · intro seqIdx sendUnixNs payload long datagram
    have encoded : datagram = _ := encodeDatagram_eq sender (probe seqIdx sendUnixNs) payload
    have arrived : arrival receiver datagram = .valid (probe seqIdx sendUnixNs) := by
      rw [encoded]
      exact arrival_header sender receiver rfl rfl _
    refine ⟨?_, ?_, ?_⟩
    · rw [encoded, List.length_append, MessageHeader.toMemory_length, List.length_drop]
      exact Nat.add_sub_cancel' long
    · rw [encoded, MessageHeader.toMemory_toNetwork_probe]
      rfl
    · rcases variant.receive_eq receiver config stats sequences receiveTs receiveMonoTs datagram
        with ⟨truncated, received⟩
      intro outcome
      rw [show outcome = _ from received, arrived]
      exact ⟨record_count config truncated stats sequences _ _ _, _, rfl, rfl, rfl⟩
  · intro senderConfig sequence realNs
    exact encodeMessage_payload sender senderConfig sequence realNs
  · intro datagram outcome
    rcases variant.receive_eq receiver config stats sequences receiveTs receiveMonoTs datagram
      with ⟨truncated, received⟩
    have counted := record_count config truncated stats sequences receiveTs receiveMonoTs
      (arrival receiver datagram)
    rw [← received] at counted
    refine ⟨(arrival receiver datagram).packetClass, ⟨counted, ?_, ?_⟩, ?_⟩
    · rw [show outcome = _ from received]
      exact record_packet_isSome config truncated stats sequences _ _ _
    · exact packetClass_eq_valid_iff receiver datagram
    · intro other described
      have same := described.1 other
      rw [counted other, if_pos rfl] at same
      by_contra different
      rw [if_neg different] at same
      omega

end

end Receiver

end NetLatencyLab
