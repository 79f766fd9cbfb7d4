import NetLatencyLab.Analysis.LogRoundTrip

/-! # Two readers of one format

The C++ side accepts only the header that it writes. The analysis scripts accept
a longer one too and look for the records behind it. -/

namespace NetLatencyLab.LatencyUtils

open Records (slice split)

variable {raw : List UInt8}

/-- The header size that a file states. -/
def statedSize (raw : List UInt8) : Nat := decodeLe (slice 10 2 raw)

structure VersionOne (raw : List UInt8) : Prop where
  complete : binaryLogHeaderSize ≤ raw.length
  version : decodeLe (slice 8 2 raw) = binaryLogVersion
  entrySize : decodeLe (slice 12 4 raw) = binaryLogEntrySize

/-- A version 1 header that states to be longer than the one that is written. -/
structure ExtendedHeader (raw : List UInt8) : Prop extends VersionOne raw where
  longer : binaryLogHeaderSize < statedSize raw
  fits : statedSize raw ≤ raw.length

theorem slice_magic (magic : binaryLogMagic <+: raw) : slice 0 8 raw = binaryLogMagic :=
  (List.prefix_iff_eq_take.mp magic).symm

theorem validateLogHeader_eq_ok_iff (magic : binaryLogMagic <+: raw) :
    validateLogHeader raw = .ok () ↔ VersionOne raw ∧ statedSize raw = binaryLogHeaderSize := by
  rw [validateLogHeader, slice_magic magic]
  constructor
  · intro accepted
    split at accepted
    · cases accepted
    · rename_i complete
      simp only [ne_eq, not_true_eq_false, if_false] at accepted
      split at accepted
      · cases accepted
      · rename_i version
        split at accepted
        · cases accepted
        · rename_i layout
          rw [not_or, not_not, not_not] at layout
          exact ⟨⟨not_lt.mp complete, not_not.mp version, layout.2⟩, layout.1⟩
  · intro both
    have stated := both.2
    rw [statedSize] at stated
    rw [if_neg (not_lt.mpr both.1.complete)]
    simp [both.1.version, both.1.entrySize, stated]

theorem loadBinaryFile_of_magic (path : String) (magic : binaryLogMagic <+: raw) :
    loadBinaryFile path (some raw) = loadVersioned path raw := by
  have nonempty : raw ≠ [] := by
    intro empty
    rw [empty, List.prefix_nil] at magic
    cases magic
  have recognized : logMagic.isPrefixOf raw = true := List.isPrefixOf_iff_prefix.mpr magic
  simp only [loadBinaryFile, nonempty, recognized, if_true, if_false]

theorem loadVersioned_eq_ok_iff (path : String) (magic : binaryLogMagic <+: raw)
    (rows : List Row) :
    loadVersioned path raw = .ok rows ↔
      VersionOne raw ∧ (binaryLogHeaderSize ≤ statedSize raw ∧ statedSize raw ≤ raw.length) ∧
        (raw.length - statedSize raw) % binaryLogEntrySize = 0 ∧
        (split versionedSize (raw.drop (statedSize raw))).map (unpackVersioned logVersion) =
          rows := by
  have version : unpackUnsigned (slice 8 2 raw) = decodeLe (slice 8 2 raw) := (decodeLe_eq _).symm
  have stated : unpackUnsigned (slice 10 2 raw) = statedSize raw := (decodeLe_eq _).symm
  have entrySize : unpackUnsigned (slice 12 4 raw) = decodeLe (slice 12 4 raw) :=
    (decodeLe_eq _).symm
  have same : binaryLogMagic = logMagic := rfl
  simp only [loadVersioned, version, stated, entrySize, slice_magic magic, same, ne_eq,
    not_true_eq_false, if_false, List.length_drop]
  constructor
  · intro accepted
    split at accepted
    · cases accepted
    · rename_i complete
      split at accepted
      · cases accepted
      · rename_i current
        split at accepted
        · cases accepted
        · rename_i inside
          split at accepted
          · cases accepted
          · rename_i entries
            split at accepted
            · cases accepted
            · rename_i whole
              rw [not_not] at current entries whole
              rw [not_or, not_lt, not_lt] at inside
              rw [entries] at whole
              rw [current] at accepted
              exact ⟨⟨not_lt.mp complete, current, entries⟩, inside, whole,
                Except.ok.inj accepted⟩
  · intro accepted
    rcases accepted with ⟨one, inside, whole, records⟩
    have complete : ¬ raw.length < headerSize := not_lt.mpr one.complete
    have outside : ¬ (statedSize raw < headerSize ∨ statedSize raw > raw.length) :=
      not_or.mpr ⟨not_lt.mpr inside.1, not_lt.mpr inside.2⟩
    have current : decodeLe (slice 8 2 raw) = logVersion := one.version
    have entries : decodeLe (slice 12 4 raw) = versionedSize := one.entrySize
    have counted : (raw.length - statedSize raw) % versionedSize = 0 := whole
    rw [if_neg complete, if_neg outside]
    simp only [current, entries, counted, not_true_eq_false, if_false, records]

/-! ## Records -/

theorem decodeLogEntry_map_versionedRow {record : List UInt8}
    (length : record.length = binaryLogEntrySize) :
    (decodeLogEntry record).map versionedRow = .ok (unpackVersioned logVersion record) := by
  rcases encodeLogEntry_decodeLogEntry length with ⟨entry, decoded, encoded⟩
  rw [decoded, ← encoded, unpackVersioned_encodeLogEntry]
  rfl

/-- The rows of a frame are the decoded records of a byte string, in order. -/
def DecodedFrom (records : List UInt8) (rows : List Row) : Prop :=
  (split binaryLogEntrySize records).map (fun record => (decodeLogEntry record).map versionedRow) =
    rows.map .ok

private theorem decodedFrom_unpackVersioned (records : List UInt8) :
    DecodedFrom records
      ((split versionedSize records).map (unpackVersioned logVersion)) := by
  rw [DecodedFrom, List.map_map]
  apply List.map_congr_left
  intro record member
  exact decodeLogEntry_map_versionedRow (Records.length_of_mem_split member)

/-! ## Agreement -/

/-- On a file that begins with the magic number, the reader of the scripts
accepts the headers that `validate_log_header` accepts, and those that differ
from them only by stating a larger size, provided that whole records follow the
stated size. Its rows are the decoded records from there on. -/
theorem loadBinaryFile_accepts_iff (path : String) (raw : List UInt8)
    (magic : binaryLogMagic <+: raw) :
    ((∃ rows, loadBinaryFile path (some raw) = .ok rows) ↔
      (validateLogHeader raw = .ok () ∨ ExtendedHeader raw) ∧
        (raw.length - statedSize raw) % binaryLogEntrySize = 0) ∧
    (validateLogHeader raw = .ok () → statedSize raw = binaryLogHeaderSize) ∧
    ∀ rows, loadBinaryFile path (some raw) = .ok rows →
      DecodedFrom (raw.drop (statedSize raw)) rows := by
  refine ⟨?_, ?_, ?_⟩
  · simp only [loadBinaryFile_of_magic path magic, loadVersioned_eq_ok_iff path magic,
      validateLogHeader_eq_ok_iff magic]
    constructor
    · intro accepted
      rcases accepted with ⟨rows, one, inside, whole, _⟩
      refine ⟨?_, whole⟩
      rcases Nat.eq_or_lt_of_le inside.1 with exact | longer
      · exact .inl ⟨one, exact.symm⟩
      · exact .inr { one with longer := longer, fits := inside.2 }
    · intro accepted
      rcases accepted with ⟨⟨one, exact⟩ | extended, whole⟩
      · exact ⟨_, one, ⟨exact.ge, exact.trans_le one.complete⟩, whole, rfl⟩
      · exact ⟨_, extended.toVersionOne, ⟨extended.longer.le, extended.fits⟩, whole, rfl⟩
  · intro accepted
    exact ((validateLogHeader_eq_ok_iff magic).mp accepted).2
  · intro rows loaded
    rw [loadBinaryFile_of_magic path magic, loadVersioned_eq_ok_iff path magic] at loaded
    rw [← loaded.2.2.2]
    exact decodedFrom_unpackVersioned _

/-- A header that claims the one record behind it. -/
def extendedLog : List UInt8 :=
  binaryLogMagic ++ [1, 0, 52, 0, 36, 0, 0, 0] ++ List.replicate 36 0

/-- The scripts read an empty trace where `validate_log_header` throws. -/
theorem extendedLog_is_accepted :
    ¬ ((∃ rows, loadBinaryFile "trace.bin" (some extendedLog) = .ok rows) ↔
      validateLogHeader extendedLog = .ok () ∧
        (extendedLog.length - binaryLogHeaderSize) % binaryLogEntrySize = 0) := by
  intro same
  have empty : loadBinaryFile "trace.bin" (some extendedLog) = .ok [] := by decide
  have refused : validateLogHeader extendedLog = .error "unsupported log layout" := by decide
  have accepted := (same.mp ⟨[], empty⟩).1
  rw [refused] at accepted
  cases accepted

theorem written_log_is_accepted :
    ∃ rows, loadBinaryFile "trace.bin"
      (some (encodeLogHeader ++ encodeLogEntry ⟨9, 1000, 1300, 1500, 1900⟩)) = .ok rows := by
  apply (loadBinaryFile_accepts_iff "trace.bin"
    (encodeLogHeader ++ encodeLogEntry ⟨9, 1000, 1300, 1500, 1900⟩) (by decide)).1.mpr
  exact ⟨.inl (by decide), by decide⟩

end NetLatencyLab.LatencyUtils
