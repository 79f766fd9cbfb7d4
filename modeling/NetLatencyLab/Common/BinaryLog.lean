import NetLatencyLab.Foundation.LittleEndian
import NetLatencyLab.Foundation.Records

/-! # The version 1 log format

Encoders and decoders of the log header and of one log record. -/

namespace NetLatencyLab

open Records (place slice)

def binaryLogMagic : List UInt8 := [0x4e, 0x4c, 0x4c, 0x4f, 0x47, 0x00, 0x0d, 0x0a]

def binaryLogVersion : Nat := 1

def binaryLogHeaderSize : Nat := 16

def binaryLogEntrySize : Nat := 36

structure LogEntry where
  seqIdx : UInt32
  txTs : UInt64
  rxTs : UInt64
  processingStartTs : UInt64
  processingFinishTs : UInt64
deriving DecidableEq

def encodeLe (width value : Nat) : List UInt8 :=
  (List.range width).map fun index => UInt8.ofNat ((value >>> (index * 8)) &&& 0xff)

def decodeLe (input : List UInt8) : Nat :=
  input.zipIdx.foldl (fun value byte => value ||| byte.1.toNat <<< (byte.2 * 8)) 0

def encodeLogHeader : List UInt8 :=
  List.replicate binaryLogHeaderSize 0
    |> place 0 binaryLogMagic
    |> place 8 (encodeLe 2 binaryLogVersion)
    |> place 10 (encodeLe 2 binaryLogHeaderSize)
    |> place 12 (encodeLe 4 binaryLogEntrySize)

def encodeLogEntry (entry : LogEntry) : List UInt8 :=
  List.replicate binaryLogEntrySize 0
    |> place 0 (encodeLe 4 entry.seqIdx.toNat)
    |> place 4 (encodeLe 8 entry.txTs.toNat)
    |> place 12 (encodeLe 8 entry.rxTs.toNat)
    |> place 20 (encodeLe 8 entry.processingStartTs.toNat)
    |> place 28 (encodeLe 8 entry.processingFinishTs.toNat)

/-- The error is the text of the `std::invalid_argument`. -/
def decodeLogEntry (bytes : List UInt8) : Except String LogEntry :=
  if bytes.length ≠ binaryLogEntrySize then .error "truncated log entry"
  else .ok
    { seqIdx := UInt32.ofNat (decodeLe (slice 0 4 bytes))
      txTs := UInt64.ofNat (decodeLe (slice 4 8 bytes))
      rxTs := UInt64.ofNat (decodeLe (slice 12 8 bytes))
      processingStartTs := UInt64.ofNat (decodeLe (slice 20 8 bytes))
      processingFinishTs := UInt64.ofNat (decodeLe (slice 28 8 bytes)) }

/-- The errors are the texts of the `std::invalid_argument`. -/
def validateLogHeader (bytes : List UInt8) : Except String Unit :=
  if bytes.length < binaryLogHeaderSize then .error "truncated log header"
  else if slice 0 8 bytes ≠ binaryLogMagic then .error "invalid log magic"
  else
    let version := decodeLe (slice 8 2 bytes)
    let headerSize := decodeLe (slice 10 2 bytes)
    let entrySize := decodeLe (slice 12 4 bytes)
    if version ≠ binaryLogVersion then .error "unsupported log version"
    else if headerSize ≠ binaryLogHeaderSize ∨ entrySize ≠ binaryLogEntrySize then
      .error "unsupported log layout"
    else .ok ()

/-! ## The codec of one integer -/

theorem encodeLe_eq (width value : Nat) : encodeLe width value = LittleEndian.bytes width value :=
  (LittleEndian.bytes_eq_map width value).symm

theorem decodeLe_eq (input : List UInt8) : decodeLe input = LittleEndian.value input := by
  have joined := LittleEndian.foldl_zipIdx input 0 0 (by decide)
  rw [Nat.zero_mul, pow_zero, one_mul, Nat.zero_add] at joined
  exact joined

@[simp] theorem encodeLe_length (width value : Nat) : (encodeLe width value).length = width := by
  simp [encodeLe]

theorem decodeLe_encodeLe (width : Nat) {value : Nat} (fits : value < 256 ^ width) :
    decodeLe (encodeLe width value) = value := by
  rw [decodeLe_eq, encodeLe_eq, LittleEndian.value_bytes_of_lt fits]

theorem encodeLe_decodeLe {width : Nat} {input : List UInt8} (length : input.length = width) :
    encodeLe width (decodeLe input) = input := by
  rw [decodeLe_eq, encodeLe_eq, LittleEndian.bytes_value_of_length length]

theorem decodeLe_lt {width : Nat} {input : List UInt8} (length : input.length = width) :
    decodeLe input < 256 ^ width := by
  rw [decodeLe_eq, ← length]
  exact LittleEndian.value_lt input

@[simp] theorem encodeLogHeader_length : encodeLogHeader.length = binaryLogHeaderSize := by decide

/-! ## The codec of one record -/

theorem encodeLogEntry_eq (entry : LogEntry) :
    encodeLogEntry entry =
      encodeLe 4 entry.seqIdx.toNat ++ encodeLe 8 entry.txTs.toNat ++
        encodeLe 8 entry.rxTs.toNat ++ encodeLe 8 entry.processingStartTs.toNat ++
        encodeLe 8 entry.processingFinishTs.toNat := by
  have fill (offset : Nat) (written piece : List UInt8) (room : Nat)
      (length : written.length = offset) :
      place offset piece (written ++ List.replicate room 0) =
        (written ++ piece) ++ List.replicate (room - piece.length) 0 := by
    rw [← length]
    exact Records.place_replicate written piece 0 room
  have start := fill 0 [] (encodeLe 4 entry.seqIdx.toNat) binaryLogEntrySize rfl
  rw [List.nil_append] at start
  rw [encodeLogEntry, start, fill 4, fill 12, fill 20, fill 28] <;>
    simp [binaryLogEntrySize]

@[simp] theorem encodeLogEntry_length (entry : LogEntry) :
    (encodeLogEntry entry).length = binaryLogEntrySize := by
  simp [encodeLogEntry_eq, binaryLogEntrySize]

private theorem slices_append {bytes : List UInt8} (length : bytes.length = binaryLogEntrySize) :
    slice 0 4 bytes ++ slice 4 8 bytes ++ slice 12 8 bytes ++ slice 20 8 bytes ++
      slice 28 8 bytes = bytes := by
  have fifth : slice 28 8 bytes = bytes.drop 28 := by
    apply List.take_of_length_le
    simp [length, binaryLogEntrySize]
  have fourth : slice 20 8 bytes ++ bytes.drop 28 = bytes.drop 20 :=
    Records.slice_append_drop 20 8 bytes
  have third : slice 12 8 bytes ++ bytes.drop 20 = bytes.drop 12 :=
    Records.slice_append_drop 12 8 bytes
  have second : slice 4 8 bytes ++ bytes.drop 12 = bytes.drop 4 :=
    Records.slice_append_drop 4 8 bytes
  have first : slice 0 4 bytes ++ bytes.drop 4 = bytes := Records.slice_append_drop 0 4 bytes
  rw [fifth, List.append_assoc, fourth, List.append_assoc, third, List.append_assoc, second, first]

theorem slice_encodeLogEntry (entry : LogEntry) :
    slice 0 4 (encodeLogEntry entry) = encodeLe 4 entry.seqIdx.toNat ∧
      slice 4 8 (encodeLogEntry entry) = encodeLe 8 entry.txTs.toNat ∧
      slice 12 8 (encodeLogEntry entry) = encodeLe 8 entry.rxTs.toNat ∧
      slice 20 8 (encodeLogEntry entry) = encodeLe 8 entry.processingStartTs.toNat ∧
      slice 28 8 (encodeLogEntry entry) = encodeLe 8 entry.processingFinishTs.toNat := by
  rw [encodeLogEntry_eq]
  simp [slice, List.drop_append, List.drop_of_length_le, List.take_of_length_le]

theorem decodeLogEntry_encodeLogEntry (entry : LogEntry) :
    decodeLogEntry (encodeLogEntry entry) = .ok entry := by
  have sequence := decodeLe_encodeLe 4 entry.seqIdx.toNat_lt
  have transmit := decodeLe_encodeLe 8 entry.txTs.toNat_lt
  have receive := decodeLe_encodeLe 8 entry.rxTs.toNat_lt
  have start := decodeLe_encodeLe 8 entry.processingStartTs.toNat_lt
  have finish := decodeLe_encodeLe 8 entry.processingFinishTs.toNat_lt
  simp [decodeLogEntry, slice_encodeLogEntry, sequence, transmit, receive, start, finish]

theorem encodeLogEntry_decodeLogEntry {bytes : List UInt8}
    (length : bytes.length = binaryLogEntrySize) :
    ∃ entry, decodeLogEntry bytes = .ok entry ∧ encodeLogEntry entry = bytes := by
  have width (offset count : Nat) (inside : offset + count ≤ binaryLogEntrySize) :
      (slice offset count bytes).length = count := by
    rw [slice, List.length_take, List.length_drop, length]
    omega
  have narrow (offset : Nat) (inside : offset + 4 ≤ binaryLogEntrySize) :
      encodeLe 4 (UInt32.ofNat (decodeLe (slice offset 4 bytes))).toNat = slice offset 4 bytes := by
    rw [UInt32.toNat_ofNat_of_lt' (decodeLe_lt (width offset 4 inside)),
      encodeLe_decodeLe (width offset 4 inside)]
  have wide (offset : Nat) (inside : offset + 8 ≤ binaryLogEntrySize) :
      encodeLe 8 (UInt64.ofNat (decodeLe (slice offset 8 bytes))).toNat = slice offset 8 bytes := by
    rw [UInt64.toNat_ofNat_of_lt' (decodeLe_lt (width offset 8 inside)),
      encodeLe_decodeLe (width offset 8 inside)]
  refine ⟨_, if_neg (not_not_intro length), ?_⟩
  rw [encodeLogEntry_eq, narrow 0 (by decide), wide 4 (by decide), wide 12 (by decide),
    wide 20 (by decide), wide 28 (by decide), slices_append length]

end NetLatencyLab
