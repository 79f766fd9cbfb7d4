import NetLatencyLab.Foundation.LittleEndian
import NetLatencyLab.Foundation.Records
import Mathlib.Data.List.Infix

/-! # The log reader of the analysis scripts

`load_binary_file` on the bytes of a file. The reader shares no code with the
writer: formats and offsets are those of the Python module. -/

namespace NetLatencyLab.LatencyUtils

open Records (slice split)

/-- `b"NLLOG\x00\r\n"`. -/
def logMagic : List UInt8 := [78, 76, 76, 79, 71, 0, 13, 10]

def logVersion : Nat := 1

/-- `struct.calcsize("<8sHHI")`. -/
def headerSize : Nat := 8 + 2 + 2 + 4

/-- `struct.calcsize("<IQQQQ")`. -/
def versionedSize : Nat := 4 + 8 + 8 + 8 + 8

/-- `struct.calcsize("<IQQq")`. -/
def legacySize : Nat := 4 + 8 + 8 + 8

inductive LoadError where
  | fileNotFoundError (message : String)
  | valueError (message : String)
deriving DecidableEq

/-- One row of the loaded frame. -/
structure Row where
  seq : Nat
  txNs : Nat
  rxNs : Nat
  processingStartNs : Nat
  processingFinishNs : Nat
  legacyRecordedLatencyNs : Option Int
  logFormatVersion : Nat
deriving DecidableEq

def unpackUnsigned (bytes : List UInt8) : Nat := LittleEndian.value bytes

def unpackSigned (bytes : List UInt8) : Int :=
  let unsigned := unpackUnsigned bytes
  if 2 * unsigned < 256 ^ bytes.length then unsigned else unsigned - 256 ^ bytes.length

def unpackVersioned (version : Nat) (record : List UInt8) : Row where
  seq := unpackUnsigned (slice 0 4 record)
  txNs := unpackUnsigned (slice 4 8 record)
  rxNs := unpackUnsigned (slice 12 8 record)
  processingStartNs := unpackUnsigned (slice 20 8 record)
  processingFinishNs := unpackUnsigned (slice 28 8 record)
  legacyRecordedLatencyNs := none
  logFormatVersion := version

def unpackLegacy (record : List UInt8) : Row where
  seq := unpackUnsigned (slice 0 4 record)
  txNs := unpackUnsigned (slice 4 8 record)
  rxNs := unpackUnsigned (slice 12 8 record)
  processingStartNs := unpackUnsigned (slice 12 8 record)
  processingFinishNs := unpackUnsigned (slice 12 8 record)
  legacyRecordedLatencyNs := some (unpackSigned (slice 20 8 record))
  logFormatVersion := 0

def loadVersioned (path : String) (raw : List UInt8) : Except LoadError (List Row) :=
  if raw.length < headerSize then
    .error (.valueError s!"Truncated binary log header: {path}")
  else
    let magic := slice 0 8 raw
    let version := unpackUnsigned (slice 8 2 raw)
    let size := unpackUnsigned (slice 10 2 raw)
    let entrySize := unpackUnsigned (slice 12 4 raw)
    if magic ≠ logMagic then
      .error (.valueError s!"Invalid binary log magic: {path}")
    else if version ≠ logVersion then
      .error (.valueError s!"Unsupported binary log version {version}: {path}")
    else if size < headerSize ∨ size > raw.length then
      .error (.valueError s!"Invalid binary log header size {size}: {path}")
    else if entrySize ≠ versionedSize then
      .error (.valueError s!"Unsupported binary log entry size {entrySize}: {path}")
    else
      let payload := raw.drop size
      if payload.length % entrySize ≠ 0 then
        .error (.valueError s!"Truncated versioned binary log record: {path}")
      else .ok ((split versionedSize payload).map (unpackVersioned version))

def loadLegacy (path : String) (raw : List UInt8) : Except LoadError (List Row) :=
  if raw.length % legacySize ≠ 0 then
    .error (.valueError s!"Unrecognized or truncated legacy binary log: {path}")
  else .ok ((split legacySize raw).map unpackLegacy)

/-- `contents` is `none` when the file does not exist. -/
def loadBinaryFile (path : String) (contents : Option (List UInt8)) :
    Except LoadError (List Row) :=
  match contents with
  | none => .error (.fileNotFoundError s!"File not found: {path}")
  | some raw =>
      if raw = [] then .ok []
      else if logMagic.isPrefixOf raw then loadVersioned path raw
      else loadLegacy path raw

/-! ## Files that start with the version 1 header -/

def versionOneHeader : List UInt8 := logMagic ++ [1, 0, 16, 0, 36, 0, 0, 0]

theorem loadBinaryFile_header (path : String) (payload : List UInt8) :
    loadBinaryFile path (some (versionOneHeader ++ payload)) =
      if payload.length % versionedSize ≠ 0 then
        .error (.valueError s!"Truncated versioned binary log record: {path}")
      else .ok ((split versionedSize payload).map (unpackVersioned logVersion)) := by
  have nonempty : versionOneHeader ++ payload ≠ [] := by simp [versionOneHeader]
  have recognized : logMagic.isPrefixOf (versionOneHeader ++ payload) = true := by
    simp [versionOneHeader]
  have length : (versionOneHeader ++ payload).length = headerSize + payload.length := by
    rw [List.length_append]
    rfl
  have fields : slice 0 8 (versionOneHeader ++ payload) = logMagic ∧
      unpackUnsigned (slice 8 2 (versionOneHeader ++ payload)) = logVersion ∧
      unpackUnsigned (slice 10 2 (versionOneHeader ++ payload)) = headerSize ∧
      unpackUnsigned (slice 12 4 (versionOneHeader ++ payload)) = versionedSize := by
    simp [slice, versionOneHeader, logMagic, unpackUnsigned, logVersion, headerSize,
      versionedSize]
  have rest : (versionOneHeader ++ payload).drop versionOneHeader.length = payload := List.drop_left
  have sizes : versionOneHeader.length = headerSize := rfl
  rw [sizes] at rest
  simp only [loadBinaryFile, nonempty, recognized, loadVersioned, length, fields, rest, if_true,
    if_false, ne_eq, not_true_eq_false]
  simp

theorem loadBinaryFile_partial_header (path : String) (count : Nat) (positive : 0 < count)
    (short : count < headerSize) :
    ∃ message, loadBinaryFile path (some (versionOneHeader.take count)) =
      .error (.valueError message) := by
  have length : (versionOneHeader.take count).length = count :=
    List.length_take_of_le (Nat.le_of_lt short)
  have nonempty : versionOneHeader.take count ≠ [] := by
    rw [← List.length_pos_iff, length]
    exact positive
  by_cases recognized : logMagic.isPrefixOf (versionOneHeader.take count) = true
  · refine ⟨s!"Truncated binary log header: {path}", ?_⟩
    simp only [loadBinaryFile, nonempty, recognized, loadVersioned, length, short, if_true,
      if_false]
  · -- Fewer bytes than the magic are no whole number of legacy records either.
    have legacy : count % legacySize ≠ 0 := by
      rw [Nat.mod_eq_of_lt (Nat.lt_trans short (by decide))]
      omega
    refine ⟨s!"Unrecognized or truncated legacy binary log: {path}", ?_⟩
    simp only [loadBinaryFile, nonempty, recognized, loadLegacy, length, legacy, ne_eq,
      not_false_eq_true, if_true, if_false, Bool.false_eq_true]

end NetLatencyLab.LatencyUtils
