import NetLatencyLab.Common.BinaryLogger
import NetLatencyLab.Analysis.BinaryLogLoader

/-! # What is logged is what is loaded

The writer and the reader of the version 1 format meet here: whole files are
read back, and every cut that leaves a partial record is noticed. -/

namespace NetLatencyLab.LatencyUtils

open BinaryLogger (Call completeFwrite)
open Records (flatMap_length split_flatMap take_flatMap)

def logFile (entries : List LogEntry) : List UInt8 :=
  encodeLogHeader ++ entries.flatMap encodeLogEntry

def versionedRow (entry : LogEntry) : Row where
  seq := entry.seqIdx.toNat
  txNs := entry.txTs.toNat
  rxNs := entry.rxTs.toNat
  processingStartNs := entry.processingStartTs.toNat
  processingFinishNs := entry.processingFinishTs.toNat
  legacyRecordedLatencyNs := none
  logFormatVersion := logVersion

theorem encodeLogHeader_eq_versionOneHeader : encodeLogHeader = versionOneHeader := by decide

theorem unpackUnsigned_encodeLe (width : Nat) {value : Nat} (fits : value < 256 ^ width) :
    unpackUnsigned (encodeLe width value) = value := by
  rw [unpackUnsigned, ← decodeLe_eq, decodeLe_encodeLe width fits]

theorem unpackVersioned_encodeLogEntry (entry : LogEntry) :
    unpackVersioned logVersion (encodeLogEntry entry) = versionedRow entry := by
  have sequence := unpackUnsigned_encodeLe 4 entry.seqIdx.toNat_lt
  have transmit := unpackUnsigned_encodeLe 8 entry.txTs.toNat_lt
  have receive := unpackUnsigned_encodeLe 8 entry.rxTs.toNat_lt
  have start := unpackUnsigned_encodeLe 8 entry.processingStartTs.toNat_lt
  have finish := unpackUnsigned_encodeLe 8 entry.processingFinishTs.toNat_lt
  simp [unpackVersioned, versionedRow, slice_encodeLogEntry, sequence, transmit, receive, start,
    finish]

theorem loadBinaryFile_logFile (path : String) (entries : List LogEntry) :
    loadBinaryFile path (some (logFile entries)) = .ok (entries.map versionedRow) := by
  have whole : (entries.flatMap encodeLogEntry).length % versionedSize = 0 := by
    rw [flatMap_length encodeLogEntry binaryLogEntrySize encodeLogEntry_length]
    exact Nat.mul_mod_left entries.length versionedSize
  have records : Records.split versionedSize (entries.flatMap encodeLogEntry) =
      entries.map encodeLogEntry :=
    split_flatMap encodeLogEntry binaryLogEntrySize encodeLogEntry_length (by decide) entries
  rw [logFile, encodeLogHeader_eq_versionOneHeader, loadBinaryFile_header,
    if_neg (not_not_intro whole), records, List.map_map]
  exact congrArg Except.ok (List.map_congr_left fun entry _ => unpackVersioned_encodeLogEntry entry)

private theorem take_logFile (entries : List LogEntry) (count : Nat) :
    (logFile entries).take (binaryLogHeaderSize + count * binaryLogEntrySize) =
      logFile (entries.take count) := by
  rw [logFile, ← encodeLogHeader_length, List.take_length_add_append,
    take_flatMap encodeLogEntry binaryLogEntrySize encodeLogEntry_length, logFile]

private theorem loadBinaryFile_take_of_partial_record (path : String) (entries : List LogEntry)
    {count : Nat} (inside : count ≤ (logFile entries).length) (header : binaryLogHeaderSize ≤ count)
    (cut : ¬binaryLogEntrySize ∣ count - binaryLogHeaderSize) :
    ∃ message, loadBinaryFile path (some ((logFile entries).take count)) =
      .error (.valueError message) := by
  rcases Nat.exists_eq_add_of_le header with ⟨extra, rfl⟩
  rw [Nat.add_sub_cancel_left] at cut
  rw [logFile, List.length_append, encodeLogHeader_length] at inside
  have length : ((entries.flatMap encodeLogEntry).take extra).length = extra :=
    List.length_take_of_le (by omega)
  have partialRecord :
      ((entries.flatMap encodeLogEntry).take extra).length % versionedSize ≠ 0 := by
    rw [length]
    exact mt Nat.dvd_of_mod_eq_zero cut
  refine ⟨s!"Truncated versioned binary log record: {path}", ?_⟩
  rw [logFile, ← encodeLogHeader_length, List.take_length_add_append,
    encodeLogHeader_eq_versionOneHeader, loadBinaryFile_header, if_pos partialRecord]

private theorem loadBinaryFile_take_of_partial_header (path : String) (entries : List LogEntry)
    {count : Nat} (positive : 0 < count) (short : count < binaryLogHeaderSize) :
    ∃ message, loadBinaryFile path (some ((logFile entries).take count)) =
      .error (.valueError message) := by
  have prefixOnly : (logFile entries).take count = versionOneHeader.take count := by
    rw [logFile, encodeLogHeader_eq_versionOneHeader]
    exact List.take_append_of_le_length (Nat.le_of_lt short)
  rw [prefixOnly]
  exact loadBinaryFile_partial_header path count positive short

/-! ## The log of a run of the writer -/

/-- Round trip and truncation detection. `logger` is the writer before its
destructor, `closed` the file it leaves. -/
theorem binary_log_round_trip (calls : List Call) (path : String) :
    let start := BinaryLogger.create true completeFwrite
    let logger := start.callAll completeFwrite calls
    let closed := logger.flush completeFwrite
    let entries := BinaryLogger.logged calls
    (closed.contents = encodeLogHeader ++ entries.flatMap encodeLogEntry ∧
      encodeLogHeader.length = 16 ∧ ∀ entry, (encodeLogEntry entry).length = 36) ∧
    (∀ before after, calls = before ++ after →
      (start.callAll completeFwrite before).buffer.length ≤ 64 * 1024) ∧
    (∀ earlier later, closed.file = some (earlier ++ later) → earlier ≠ [] →
      ∃ count, earlier.flatten =
        encodeLogHeader ++ (entries.take count).flatMap encodeLogEntry) ∧
    loadBinaryFile path (some closed.contents) = .ok (entries.map versionedRow) ∧
    (∀ count ≤ closed.contents.length,
      (count = 0 → loadBinaryFile path (some (closed.contents.take count)) = .ok []) ∧
      (16 ≤ count ∧ 36 ∣ count - 16 →
        loadBinaryFile path (some (closed.contents.take count)) =
          .ok ((entries.take ((count - 16) / 36)).map versionedRow)) ∧
      (count ≠ 0 ∧ ¬(16 ≤ count ∧ 36 ∣ count - 16) →
        ∃ message, loadBinaryFile path (some (closed.contents.take count)) =
          .error (.valueError message))) ∧
    (∀ entry, decodeLogEntry (encodeLogEntry entry) = .ok entry) ∧
    (∀ bytes : List UInt8, bytes.length = 36 →
      ∃ entry, decodeLogEntry bytes = .ok entry ∧ encodeLogEntry entry = bytes) := by
  intro start logger closed entries
  rcases BinaryLogger.callAll_holds calls with ⟨groups, pending, holds, flattened⟩
  rcases holds.flush with ⟨written, flushed, saved⟩
  rw [flattened] at saved
  have contents : closed.contents = logFile entries := flushed.contents.trans (by rw [saved]; rfl)
  refine ⟨⟨contents, rfl, encodeLogEntry_length⟩, ?_, ?_, ?_, ?_, decodeLogEntry_encodeLogEntry,
    fun bytes length => encodeLogEntry_decodeLogEntry length⟩
  · intro before after _
    rcases BinaryLogger.callAll_holds before with ⟨_, _, earlier, _⟩
    exact earlier.bounded
  · intro earlier later split nonempty
    rcases flushed.written_prefix split nonempty with ⟨count, bytes⟩
    exact ⟨count, by rw [bytes, saved]⟩
  · rw [contents, loadBinaryFile_logFile]
  · intro count inside
    rw [contents] at inside ⊢
    refine ⟨?_, ?_, ?_⟩
    · rintro rfl
      rfl
    · rintro ⟨header, quotient, exact⟩
      have cut : count = binaryLogHeaderSize + quotient * binaryLogEntrySize := by
        simp only [binaryLogHeaderSize, binaryLogEntrySize]
        omega
      rw [cut, take_logFile, loadBinaryFile_logFile]
      simp [binaryLogHeaderSize, binaryLogEntrySize]
    · rintro ⟨nonzero, bad⟩
      by_cases header : binaryLogHeaderSize ≤ count
      · exact loadBinaryFile_take_of_partial_record path entries inside header
          fun divides => bad ⟨header, divides⟩
      · exact loadBinaryFile_take_of_partial_header path entries (Nat.pos_of_ne_zero nonzero)
          (Nat.lt_of_not_le header)

end NetLatencyLab.LatencyUtils
