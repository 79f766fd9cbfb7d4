import NetLatencyLab.Foundation.LittleEndian
import NetLatencyLab.Foundation.Records

/-! # The packet header

`message_header` as it is copied into a payload and out of a receive slot:
sixteen packed bytes whose integers are stored and read in the order of the
host, and converted to network order around that. -/

namespace NetLatencyLab

open Records (slice)

inductive Endianness where
  | little
  | big
deriving DecidableEq

namespace Endianness

def load : Endianness → List UInt8 → Nat
  | little, bytes => LittleEndian.value bytes
  | big, bytes => LittleEndian.value bytes.reverse

/-- `be16toh`, `be32toh` and `be64toh`, with the width in bytes. -/
def fromBigEndian : Endianness → (width number : Nat) → Nat
  | little, width, number => LittleEndian.value (LittleEndian.bytes width number).reverse
  | big, _, number => number

/-- `htobe16`, `htobe32` and `htobe64` permute the same bytes. -/
def toBigEndian : Endianness → (width number : Nat) → Nat := fromBigEndian

def store : Endianness → (width number : Nat) → List UInt8
  | little, width, number => LittleEndian.bytes width number
  | big, width, number => (LittleEndian.bytes width number).reverse

theorem store_toBigEndian (host : Endianness) (width number : Nat) :
    host.store width (host.toBigEndian width number) =
      (LittleEndian.bytes width number).reverse := by
  cases host with
  | little => exact LittleEndian.bytes_value_of_length (by simp)
  | big => rfl

theorem load_lt (host : Endianness) (bytes : List UInt8) : host.load bytes < 256 ^ bytes.length := by
  cases host with
  | little => exact LittleEndian.value_lt bytes
  | big =>
      have bound := LittleEndian.value_lt bytes.reverse
      rwa [List.length_reverse] at bound

theorem fromBigEndian_load (host : Endianness) {width number : Nat} (fits : number < 256 ^ width) :
    host.fromBigEndian width
      (host.load (LittleEndian.bytes width number).reverse % 256 ^ width) = number := by
  have bound := host.load_lt (LittleEndian.bytes width number).reverse
  rw [List.length_reverse, LittleEndian.bytes_length] at bound
  rw [Nat.mod_eq_of_lt bound]
  cases host with
  | little =>
      rw [load, fromBigEndian, LittleEndian.bytes_value_of_length (by simp), List.reverse_reverse,
        LittleEndian.value_bytes_of_lt fits]
  | big =>
      rw [load, fromBigEndian, List.reverse_reverse, LittleEndian.value_bytes_of_lt fits]

theorem toBigEndian_lt (host : Endianness) {width number : Nat} (fits : number < 256 ^ width) :
    host.toBigEndian width number < 256 ^ width := by
  cases host with
  | little =>
      have bound := LittleEndian.value_lt (LittleEndian.bytes width number).reverse
      rwa [List.length_reverse, LittleEndian.bytes_length] at bound
  | big => exact fits

@[simp] theorem store_length (host : Endianness) (width number : Nat) :
    (host.store width number).length = width := by
  cases host with
  | little => exact LittleEndian.bytes_length width number
  | big => rw [store, List.length_reverse, LittleEndian.bytes_length]

private theorem load_store_byte (host other : Endianness) (byte : UInt8) :
    UInt8.ofNat (host.load (other.store 1 byte.toNat)) = byte := by
  cases host <;> cases other <;> simp [load, store, LittleEndian.bytes]

end Endianness

structure MessageHeader where
  magic : UInt16
  version : UInt8
  msgType : UInt8
  seqIdx : UInt32
  sendUnixNs : UInt64
deriving DecidableEq, Inhabited

namespace MessageHeader

/-- `sizeof(message_header)`. -/
def size : Nat := 2 + 1 + 1 + 4 + 8

/-- The `memcpy` of a slot into the packed structure. -/
def ofMemory (host : Endianness) (bytes : List UInt8) : MessageHeader where
  magic := UInt16.ofNat (host.load (slice 0 2 bytes))
  version := UInt8.ofNat (host.load (slice 2 1 bytes))
  msgType := UInt8.ofNat (host.load (slice 3 1 bytes))
  seqIdx := UInt32.ofNat (host.load (slice 4 4 bytes))
  sendUnixNs := UInt64.ofNat (host.load (slice 8 8 bytes))

def toHost (host : Endianness) (message : MessageHeader) : MessageHeader :=
  { message with
    magic := UInt16.ofNat (host.fromBigEndian 2 message.magic.toNat)
    seqIdx := UInt32.ofNat (host.fromBigEndian 4 message.seqIdx.toNat)
    sendUnixNs := UInt64.ofNat (host.fromBigEndian 8 message.sendUnixNs.toNat) }

def toNetwork (host : Endianness) (message : MessageHeader) : MessageHeader :=
  { message with
    magic := UInt16.ofNat (host.toBigEndian 2 message.magic.toNat)
    seqIdx := UInt32.ofNat (host.toBigEndian 4 message.seqIdx.toNat)
    sendUnixNs := UInt64.ofNat (host.toBigEndian 8 message.sendUnixNs.toNat) }

/-- The `memcpy` of the packed structure into a payload. -/
def toMemory (host : Endianness) (message : MessageHeader) : List UInt8 :=
  host.store 2 message.magic.toNat ++ host.store 1 message.version.toNat ++
    host.store 1 message.msgType.toNat ++ host.store 4 message.seqIdx.toNat ++
    host.store 8 message.sendUnixNs.toNat

private theorem ofMemory_toMemory (sender receiver : Endianness) (message : MessageHeader)
    (rest : List UInt8) :
    ofMemory receiver (message.toMemory sender ++ rest) =
      { magic := UInt16.ofNat (receiver.load (sender.store 2 message.magic.toNat))
        version := UInt8.ofNat (receiver.load (sender.store 1 message.version.toNat))
        msgType := UInt8.ofNat (receiver.load (sender.store 1 message.msgType.toNat))
        seqIdx := UInt32.ofNat (receiver.load (sender.store 4 message.seqIdx.toNat))
        sendUnixNs := UInt64.ofNat (receiver.load (sender.store 8 message.sendUnixNs.toNat)) } := by
  have magic := sender.store_length 2 message.magic.toNat
  have version := sender.store_length 1 message.version.toNat
  have msgType := sender.store_length 1 message.msgType.toNat
  have seqIdx := sender.store_length 4 message.seqIdx.toNat
  have sendUnixNs := sender.store_length 8 message.sendUnixNs.toNat
  rw [ofMemory, toMemory]
  generalize sender.store 2 message.magic.toNat = first at *
  generalize sender.store 1 message.version.toNat = second at *
  generalize sender.store 1 message.msgType.toNat = third at *
  generalize sender.store 4 message.seqIdx.toNat = fourth at *
  generalize sender.store 8 message.sendUnixNs.toNat = fifth at *
  simp only [List.append_assoc]
  have second' := Records.slice_append first second (third ++ (fourth ++ (fifth ++ rest)))
  have third' := Records.slice_append (first ++ second) third (fourth ++ (fifth ++ rest))
  have fourth' := Records.slice_append (first ++ second ++ third) fourth (fifth ++ rest)
  have fifth' := Records.slice_append (first ++ second ++ third ++ fourth) fifth rest
  simp only [List.append_assoc, List.length_append, magic, version, msgType, seqIdx,
    sendUnixNs] at second' third' fourth' fifth'
  have first' : slice 0 2 (first ++ (second ++ (third ++ (fourth ++ (fifth ++ rest))))) = first := by
    rw [← magic]
    exact Records.slice_append [] first _
  rw [first', second', third', fourth', fifth']

theorem toHost_ofMemory_toMemory (sender receiver : Endianness) (message : MessageHeader)
    (rest : List UInt8) :
    (ofMemory receiver ((message.toNetwork sender).toMemory sender ++ rest)).toHost receiver =
      message := by
  have magic : (message.toNetwork sender).magic.toNat =
      sender.toBigEndian 2 message.magic.toNat :=
    Nat.mod_eq_of_lt (sender.toBigEndian_lt message.magic.toNat_lt)
  have seqIdx : (message.toNetwork sender).seqIdx.toNat =
      sender.toBigEndian 4 message.seqIdx.toNat :=
    Nat.mod_eq_of_lt (sender.toBigEndian_lt message.seqIdx.toNat_lt)
  have sendUnixNs : (message.toNetwork sender).sendUnixNs.toNat =
      sender.toBigEndian 8 message.sendUnixNs.toNat :=
    Nat.mod_eq_of_lt (sender.toBigEndian_lt message.sendUnixNs.toNat_lt)
  have magicRead : receiver.fromBigEndian 2
      (receiver.load (LittleEndian.bytes 2 message.magic.toNat).reverse % 2 ^ 16) =
        message.magic.toNat := receiver.fromBigEndian_load message.magic.toNat_lt
  have seqIdxRead : receiver.fromBigEndian 4
      (receiver.load (LittleEndian.bytes 4 message.seqIdx.toNat).reverse % 2 ^ 32) =
        message.seqIdx.toNat := receiver.fromBigEndian_load message.seqIdx.toNat_lt
  have sendUnixNsRead : receiver.fromBigEndian 8
      (receiver.load (LittleEndian.bytes 8 message.sendUnixNs.toNat).reverse % 2 ^ 64) =
        message.sendUnixNs.toNat := receiver.fromBigEndian_load message.sendUnixNs.toNat_lt
  have version : (message.toNetwork sender).version = message.version := rfl
  have msgType : (message.toNetwork sender).msgType = message.msgType := rfl
  rw [ofMemory_toMemory, magic, seqIdx, sendUnixNs, version, msgType]
  simp only [toHost, Endianness.store_toBigEndian, Endianness.load_store_byte,
    UInt16.toNat_ofNat', UInt32.toNat_ofNat', UInt64.toNat_ofNat', magicRead, seqIdxRead,
    sendUnixNsRead, UInt16.ofNat_toNat, UInt32.ofNat_toNat, UInt64.ofNat_toNat]

end MessageHeader

end NetLatencyLab
