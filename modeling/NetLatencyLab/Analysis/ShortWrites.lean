import NetLatencyLab.Analysis.LogRoundTrip
import Mathlib.Algebra.Order.Ring.Nat

/-! # Logs after short writes

After a short `fwrite` the writer discards the rest of its buffer and continues.
The reader checks only that the records fill the file, so what it accepts after
several short writes need not have been logged. -/

namespace NetLatencyLab.LatencyUtils

open BinaryLogger (Call bufferCapacity completeFwrite logged)
open Records (slice split take_flatMap)

/-! ## What the writer hands to the file -/

/-- A call, with the reply of the `fwrite` it may make. -/
abbrev RepliedCall := Call × Nat

def callReplied (logger : BinaryLogger) (step : RepliedCall) : BinaryLogger :=
  logger.call (fun _ => step.2) step.1

/-- The bytes in the file after the calls and the destructor, whose `fwrite` is
answered by `last`. The header was written completely. -/
def closedLog (steps : List RepliedCall) (last : Nat) : List UInt8 :=
  ((steps.foldl callReplied (BinaryLogger.create true completeFwrite)).flush fun _ => last).contents

/-- One `fwrite`, unless the buffer is empty. -/
def drain (buffer : List UInt8) (reply : Nat) : List (List UInt8) :=
  if buffer ≠ [] then [buffer.take reply] else []

def chunks (last : Nat) : List UInt8 → List RepliedCall → List (List UInt8)
  | buffer, [] => drain buffer last
  | buffer, (.flush, reply) :: steps => drain buffer reply ++ chunks last [] steps
  | buffer, (.log entry, reply) :: steps =>
      if buffer.length + binaryLogEntrySize > bufferCapacity then
        drain buffer reply ++ chunks last (encodeLogEntry entry) steps
      else chunks last (buffer ++ encodeLogEntry entry) steps

theorem contents_flush {logger : BinaryLogger} {written : List (List UInt8)}
    (opened : logger.file = some written) (reply : Nat) :
    (logger.flush fun _ => reply).file = some (written ++ drain logger.buffer reply) ∧
      (logger.flush fun _ => reply).buffer = [] := by
  by_cases empty : logger.buffer = []
  · simp [BinaryLogger.flush, opened, drain, empty]
  · simp [BinaryLogger.flush, opened, drain, empty]

private theorem contents_callReplied (last : Nat) (steps : List RepliedCall) {logger : BinaryLogger}
    {written : List (List UInt8)} (opened : logger.file = some written) :
    ((steps.foldl callReplied logger).flush fun _ => last).contents =
      written.flatten ++ (chunks last logger.buffer steps).flatten := by
  induction steps generalizing logger written with
  | nil =>
      rw [List.foldl_nil, BinaryLogger.contents, (contents_flush opened last).1, chunks,
        Option.getD_some, List.flatten_append]
  | cons step steps induction =>
      rcases step with ⟨call, reply⟩
      have flushed := contents_flush opened reply
      rw [List.foldl_cons]
      cases call with
      | flush =>
          rw [chunks, List.flatten_append, ← List.append_assoc, ← List.flatten_append]
          have rest := induction flushed.1
          rw [flushed.2] at rest
          exact rest
      | log entry =>
          simp only [callReplied, BinaryLogger.call, BinaryLogger.log, encodeLogEntry_length, chunks]
          by_cases full : logger.buffer.length + binaryLogEntrySize > bufferCapacity
          · rw [if_pos full, if_pos full, List.flatten_append, ← List.append_assoc,
              ← List.flatten_append, flushed.2, List.nil_append]
            exact induction flushed.1
          · rw [if_neg full, if_neg full]
            exact induction opened

theorem closedLog_eq (steps : List RepliedCall) (last : Nat) :
    closedLog steps last = versionOneHeader ++ (chunks last [] steps).flatten := by
  rw [closedLog, contents_callReplied last steps BinaryLogger.Holds.create.file]
  simp [BinaryLogger.create, encodeLogHeader_eq_versionOneHeader]

/-! ## How much of each buffer is accepted -/

/-- The calls without the entries they log. -/
def shape (steps : List RepliedCall) : List (Bool × Nat) :=
  steps.map fun step => (step.1 matches .log _, step.2)

/-- The bytes that each `fwrite` accepts, by the length of the buffer. -/
def acceptedOf (length reply : Nat) : List Nat := if length ≠ 0 then [min reply length] else []

def accepted (last : Nat) : Nat → List (Bool × Nat) → List Nat
  | length, [] => acceptedOf length last
  | length, (false, reply) :: steps => acceptedOf length reply ++ accepted last 0 steps
  | length, (true, reply) :: steps =>
      if length + binaryLogEntrySize > bufferCapacity then
        acceptedOf length reply ++ accepted last binaryLogEntrySize steps
      else accepted last (length + binaryLogEntrySize) steps

theorem drain_map_length (buffer : List UInt8) (reply : Nat) :
    (drain buffer reply).map List.length = acceptedOf buffer.length reply := by
  by_cases empty : buffer = []
  · simp [drain, acceptedOf, empty]
  · simp [drain, acceptedOf, empty]

private theorem chunks_map_length (last : Nat) (buffer : List UInt8) (steps : List RepliedCall) :
    (chunks last buffer steps).map List.length = accepted last buffer.length (shape steps) := by
  induction steps generalizing buffer with
  | nil => exact drain_map_length buffer last
  | cons step steps induction =>
      rcases step with ⟨call, reply⟩
      cases call with
      | flush =>
          rw [chunks, List.map_append, drain_map_length, induction]
          rfl
      | log entry =>
          rw [chunks, show shape ((Call.log entry, reply) :: steps) = (true, reply) :: shape steps
            from rfl, accepted]
          split
          · rw [List.map_append, drain_map_length, induction, encodeLogEntry_length]
          · rw [induction, List.length_append, encodeLogEntry_length]

theorem chunks_flatten_length (last : Nat) (steps : List RepliedCall) :
    (chunks last [] steps).flatten.length = (accepted last 0 (shape steps)).sum := by
  rw [List.length_flatten, chunks_map_length]
  rfl

/-- Every record that the reader accepts was logged, in the order of logging. -/
def Faithful (steps : List RepliedCall) (last : Nat) : Prop :=
  ∀ path rows, loadBinaryFile path (some (closedLog steps last)) = .ok rows →
    rows.Sublist ((logged (steps.map Prod.fst)).map versionedRow)

theorem loadBinaryFile_closedLog (path : String) (steps : List RepliedCall) (last : Nat) :
    loadBinaryFile path (some (closedLog steps last)) =
      if (accepted last 0 (shape steps)).sum % versionedSize ≠ 0 then
        .error (.valueError s!"Truncated versioned binary log record: {path}")
      else .ok ((split versionedSize (chunks last [] steps).flatten).map
        (unpackVersioned logVersion)) := by
  rw [closedLog_eq, loadBinaryFile_header, chunks_flatten_length]

/-! ## Short writes that keep whole records -/

theorem drain_whole (pending : List LogEntry) (reply : Nat)
    (whole : ∀ bytes ∈ acceptedOf (pending.flatMap encodeLogEntry).length reply,
      binaryLogEntrySize ∣ bytes) :
    ∃ kept : List LogEntry,
      (drain (pending.flatMap encodeLogEntry) reply).flatten = kept.flatMap encodeLogEntry ∧
      kept.Sublist pending := by
  rw [drain]
  split
  · rename_i nonempty
    have length := mt List.length_eq_zero_iff.mp nonempty
    rcases whole _ (by rw [acceptedOf, if_pos length]; exact List.mem_singleton_self _) with
      ⟨count, exact⟩
    refine ⟨pending.take count, ?_, List.take_sublist count pending⟩
    rw [List.flatten_singleton, List.take_eq_take_min, exact, Nat.mul_comm,
      take_flatMap encodeLogEntry binaryLogEntrySize encodeLogEntry_length]
  · exact ⟨[], rfl, List.nil_sublist pending⟩

private theorem chunks_whole (last : Nat) (pending : List LogEntry) (steps : List RepliedCall)
    (whole : ∀ bytes ∈ accepted last (pending.flatMap encodeLogEntry).length (shape steps),
      binaryLogEntrySize ∣ bytes) :
    ∃ kept : List LogEntry, (chunks last (pending.flatMap encodeLogEntry) steps).flatten =
        kept.flatMap encodeLogEntry ∧
      kept.Sublist (pending ++ logged (steps.map Prod.fst)) := by
  induction steps generalizing pending with
  | nil =>
      rcases drain_whole pending last whole with ⟨kept, bytes, sublist⟩
      exact ⟨kept, bytes, by simpa [logged] using sublist⟩
  | cons step steps induction =>
      rcases step with ⟨call, reply⟩
      cases call with
      | flush =>
          have parts := List.forall_mem_append.mp whole
          rcases drain_whole pending reply parts.1 with ⟨kept, bytes, sublist⟩
          rcases induction [] parts.2 with ⟨rest, restBytes, restSublist⟩
          refine ⟨kept ++ rest, ?_, sublist.append restSublist⟩
          rw [chunks, List.flatten_append, bytes, List.flatMap_append, ← restBytes]
          rfl
      | log entry =>
          have single : encodeLogEntry entry = [entry].flatMap encodeLogEntry :=
            (List.flatMap_singleton encodeLogEntry entry).symm
          rw [show shape ((Call.log entry, reply) :: steps) = (true, reply) :: shape steps from rfl,
            accepted] at whole
          rw [chunks]
          by_cases full :
            (pending.flatMap encodeLogEntry).length + binaryLogEntrySize > bufferCapacity
          · rw [if_pos full] at whole ⊢
            have parts := List.forall_mem_append.mp whole
            rcases drain_whole pending reply parts.1 with ⟨kept, bytes, sublist⟩
            rcases induction [entry] (by rw [← single, encodeLogEntry_length]; exact parts.2) with
              ⟨rest, restBytes, restSublist⟩
            refine ⟨kept ++ rest, ?_, sublist.append restSublist⟩
            rw [List.flatten_append, bytes, List.flatMap_append, ← restBytes, single]
          · rw [if_neg full] at whole ⊢
            have extended : pending.flatMap encodeLogEntry ++ encodeLogEntry entry =
                (pending ++ [entry]).flatMap encodeLogEntry := by
              rw [List.flatMap_append, ← single]
            rw [extended]
            rcases induction (pending ++ [entry])
              (by rw [← extended, List.length_append, encodeLogEntry_length]; exact whole) with
              ⟨kept, bytes, sublist⟩
            exact ⟨kept, bytes, by simpa [logged] using sublist⟩

private theorem faithful_of_whole {steps : List RepliedCall} {last : Nat}
    (whole : ∀ bytes ∈ accepted last 0 (shape steps), binaryLogEntrySize ∣ bytes) :
    Faithful steps last := by
  intro path rows loaded
  rcases chunks_whole last [] steps whole with ⟨kept, bytes, sublist⟩
  rw [closedLog_eq, show chunks last [] steps = chunks last ([].flatMap encodeLogEntry) steps from rfl,
    bytes, ← encodeLogHeader_eq_versionOneHeader, ← logFile, loadBinaryFile_logFile,
    Except.ok.injEq] at loaded
  rw [← loaded]
  exact sublist.map versionedRow

private theorem faithful_of_partial {steps : List RepliedCall} {last : Nat}
    (cut : ¬binaryLogEntrySize ∣ (accepted last 0 (shape steps)).sum) : Faithful steps last := by
  intro path rows loaded
  have remainder : (accepted last 0 (shape steps)).sum % versionedSize ≠ 0 :=
    mt Nat.dvd_of_mod_eq_zero cut
  rw [loadBinaryFile_closedLog, if_pos remainder] at loaded
  cases loaded

/-! ## Torn records -/

def zeroEntry : LogEntry := ⟨0, 0, 0, 0, 0⟩

def onesEntry : LogEntry :=
  ⟨0xFFFFFFFF, 0xFFFFFFFFFFFFFFFF, 0xFFFFFFFFFFFFFFFF, 0xFFFFFFFFFFFFFFFF, 0xFFFFFFFFFFFFFFFF⟩

theorem encodeLogEntry_zeroEntry :
    encodeLogEntry zeroEntry = List.replicate binaryLogEntrySize 0 := by decide

theorem encodeLogEntry_onesEntry :
    encodeLogEntry onesEntry = List.replicate binaryLogEntrySize 255 := by decide

private theorem torn_record_ne {zeros : Nat} (some : 0 < zeros) (few : zeros < binaryLogEntrySize) :
    let record := List.replicate zeros (0 : UInt8) ++
      List.replicate (binaryLogEntrySize - zeros) 255
    unpackVersioned logVersion record ≠ versionedRow zeroEntry ∧
      unpackVersioned logVersion record ≠ versionedRow onesEntry := by
  have all : ∀ zeros : Fin binaryLogEntrySize, 0 < zeros.val →
      let record := List.replicate zeros.val (0 : UInt8) ++
        List.replicate (binaryLogEntrySize - zeros.val) 255
      unpackVersioned logVersion record ≠ versionedRow zeroEntry ∧
        unpackVersioned logVersion record ≠ versionedRow onesEntry := by decide
  exact all ⟨zeros, few⟩ some

def fill (entry : LogEntry) (steps : List RepliedCall) : List RepliedCall :=
  steps.map fun step =>
    match step with
    | (.log _, reply) => (.log entry, reply)
    | (.flush, reply) => (.flush, reply)

private theorem shape_fill (entry : LogEntry) (steps : List RepliedCall) :
    shape (fill entry steps) = shape steps := by
  rw [shape, fill, List.map_map]
  apply List.map_congr_left
  rintro ⟨call, reply⟩ -
  cases call <;> rfl

private theorem mem_logged_fill {entry other : LogEntry} {steps : List RepliedCall}
    (member : other ∈ logged ((fill entry steps).map Prod.fst)) : other = entry := by
  simp only [logged, fill, List.map_map, List.mem_filterMap, List.mem_map] at member
  rcases member with ⟨_, ⟨⟨call, reply⟩, -, rfl⟩, equal⟩
  cases call with
  | log _ => exact (Option.some.inj equal).symm
  | flush => cases equal

theorem drain_replicate (byte : UInt8) (length reply : Nat) :
    (drain (List.replicate length byte) reply).flatten =
      List.replicate (min reply length) byte := by
  by_cases empty : length = 0
  · simp [drain, empty]
  · simp [drain, empty, List.take_replicate]

private theorem chunks_replicate (last : Nat) (steps : List RepliedCall) (length : Nat) :
    ∃ total, (chunks last (List.replicate length 255) (fill onesEntry steps)).flatten =
      List.replicate total 255 := by
  induction steps generalizing length with
  | nil => exact ⟨_, drain_replicate 255 length last⟩
  | cons step steps induction =>
      rcases step with ⟨call, reply⟩
      cases call with
      | flush =>
          rcases induction 0 with ⟨total, bytes⟩
          refine ⟨min reply length + total, ?_⟩
          rw [← List.replicate_append_replicate, ← bytes, ← drain_replicate, ← List.flatten_append]
          rfl
      | log entry =>
          rw [show fill onesEntry ((Call.log entry, reply) :: steps) =
            (Call.log onesEntry, reply) :: fill onesEntry steps from rfl, chunks,
            encodeLogEntry_onesEntry]
          split
          · rcases induction binaryLogEntrySize with ⟨total, bytes⟩
            refine ⟨min reply length + total, ?_⟩
            rw [List.flatten_append, bytes, drain_replicate, List.replicate_append_replicate]
          · rw [List.replicate_append_replicate]
            exact induction _

private theorem torn_later {length reply : Nat} {rest : List Nat}
    (whole : binaryLogEntrySize ∣ min reply length)
    (torn : ∃ bytes ∈ acceptedOf length reply ++ rest, ¬binaryLogEntrySize ∣ bytes) :
    ∃ bytes ∈ rest, ¬binaryLogEntrySize ∣ bytes := by
  rcases torn with ⟨bytes, member, cut⟩
  refine ⟨bytes, ?_, cut⟩
  rcases List.mem_append.mp member with first | later
  · rw [acceptedOf] at first
    split at first
    · rw [List.mem_singleton.mp first] at cut
      exact absurd whole cut
    · cases first
  · exact later

/-- Calls of the same shape that log zeros up to the first write that ends inside
a record and ones after it, and the bytes that reach the file. -/
structure Tears (steps other : List RepliedCall) (bytes : List UInt8) (zeros ones : Nat) :
    Prop where
  same : shape other = shape steps
  entries : ∀ entry ∈ logged (other.map Prod.fst), entry = zeroEntry ∨ entry = onesEntry
  cut : ¬binaryLogEntrySize ∣ zeros
  bytes : bytes = List.replicate zeros 0 ++ List.replicate ones 255

theorem exists_tears_after_write {last length reply next : Nat} {steps : List RepliedCall}
    (torn : ∃ bytes ∈ acceptedOf length reply ++ accepted last next (shape steps),
      ¬binaryLogEntrySize ∣ bytes)
    (later : (∃ bytes ∈ accepted last next (shape steps), ¬binaryLogEntrySize ∣ bytes) →
      ∃ other zeros ones,
        Tears steps other (chunks last (List.replicate next 0) other).flatten zeros ones) :
    ∃ first byte other zeros ones, (first = zeroEntry ∨ first = onesEntry) ∧
      encodeLogEntry first = List.replicate binaryLogEntrySize byte ∧
      Tears steps other
        (drain (List.replicate length 0) reply ++
          chunks last (List.replicate next byte) other).flatten zeros ones := by
  by_cases whole : binaryLogEntrySize ∣ min reply length
  · rcases later (torn_later whole torn) with ⟨other, zeros, ones, tears⟩
    refine ⟨zeroEntry, 0, other, min reply length + zeros, ones, .inl rfl,
      encodeLogEntry_zeroEntry, tears.same, tears.entries, ?_, ?_⟩
    · exact mt (Nat.dvd_add_right whole).mp tears.cut
    · rw [List.flatten_append, drain_replicate, tears.bytes, ← List.append_assoc,
        List.replicate_append_replicate]
  · rcases chunks_replicate last steps next with ⟨ones, bytes⟩
    refine ⟨onesEntry, 255, fill onesEntry steps, min reply length, ones, .inr rfl,
      encodeLogEntry_onesEntry, shape_fill onesEntry steps, ?_, whole, ?_⟩
    · exact fun entry member => .inr (mem_logged_fill member)
    · rw [List.flatten_append, drain_replicate, bytes]

private theorem exists_tears (last : Nat) (steps : List RepliedCall) (length : Nat)
    (torn : ∃ bytes ∈ accepted last length (shape steps), ¬binaryLogEntrySize ∣ bytes) :
    ∃ other zeros ones,
      Tears steps other (chunks last (List.replicate length 0) other).flatten zeros ones := by
  induction steps generalizing length with
  | nil =>
      rcases torn with ⟨bytes, member, cut⟩
      refine ⟨[], min last length, 0, rfl, nofun, ?_, ?_⟩
      · rw [show accepted last length (shape []) = acceptedOf length last from rfl,
          acceptedOf] at member
        split at member
        · rw [← List.mem_singleton.mp member]
          exact cut
        · cases member
      · rw [chunks, drain_replicate, List.replicate_zero, List.append_nil]
  | cons step steps induction =>
      rcases step with ⟨call, reply⟩
      cases call with
      | flush =>
          rcases exists_tears_after_write torn (induction 0) with
            ⟨_, _, other, zeros, ones, _, _, tears⟩
          exact ⟨(.flush, reply) :: other, zeros, ones, congrArg ((false, reply) :: ·) tears.same,
            tears.entries, tears.cut, tears.bytes⟩
      | log entry =>
          rw [show shape ((Call.log entry, reply) :: steps) = (true, reply) :: shape steps from rfl,
            accepted] at torn
          by_cases full : length + binaryLogEntrySize > bufferCapacity
          · rw [if_pos full] at torn
            have filled : (List.replicate length (0 : UInt8)).length + binaryLogEntrySize >
              bufferCapacity := by rw [List.length_replicate]; exact full
            rcases exists_tears_after_write torn (induction binaryLogEntrySize) with
              ⟨first, byte, other, zeros, ones, either, encoded, tears⟩
            refine ⟨(.log first, reply) :: other, zeros, ones,
              congrArg ((true, reply) :: ·) tears.same,
              List.forall_mem_cons.mpr ⟨either, tears.entries⟩, tears.cut, ?_⟩
            rw [chunks, if_pos filled, encoded]
            exact tears.bytes
          · rw [if_neg full] at torn
            have room : ¬(List.replicate length (0 : UInt8)).length + binaryLogEntrySize >
              bufferCapacity := by rw [List.length_replicate]; exact full
            rcases induction (length + binaryLogEntrySize) torn with ⟨other, zeros, ones, tears⟩
            refine ⟨(.log zeroEntry, reply) :: other, zeros, ones,
              congrArg ((true, reply) :: ·) tears.same,
              List.forall_mem_cons.mpr ⟨.inl rfl, tears.entries⟩, tears.cut, ?_⟩
            rw [chunks, if_neg room, encodeLogEntry_zeroEntry, List.replicate_append_replicate]
            exact tears.bytes

private theorem mem_split_torn {zeros ones : Nat} (cut : ¬binaryLogEntrySize ∣ zeros)
    (whole : binaryLogEntrySize ∣ zeros + ones) :
    List.replicate (zeros % binaryLogEntrySize) (0 : UInt8) ++
        List.replicate (binaryLogEntrySize - zeros % binaryLogEntrySize) 255 ∈
      split binaryLogEntrySize (List.replicate zeros 0 ++ List.replicate ones 255) := by
  have inside : 0 < zeros % binaryLogEntrySize := Nat.pos_of_ne_zero (mt Nat.dvd_of_mod_eq_zero cut)
  have below := Nat.mod_lt zeros (show 0 < binaryLogEntrySize by decide)
  have divided := Nat.div_add_mod zeros binaryLogEntrySize
  rcases whole with ⟨count, total⟩
  rw [split, List.mem_map]
  refine ⟨zeros / binaryLogEntrySize, ?_, ?_⟩
  · rw [List.mem_range, List.length_append, List.length_replicate, List.length_replicate, total]
    simp only [binaryLogEntrySize] at *
    omega
  · rw [slice, List.drop_append, List.take_append]
    simp only [List.drop_replicate, List.take_replicate, List.length_replicate]
    congr 2 <;> simp only [binaryLogEntrySize] at * <;> omega

/-- The log is faithful, whatever entries are logged, exactly when every `fwrite`
accepts whole records or the file does not end on a record boundary. -/
theorem short_writes_faithful_iff (steps : List RepliedCall) (last : Nat) :
    (∀ other, shape other = shape steps → Faithful other last) ↔
      (∀ bytes ∈ accepted last 0 (shape steps), 36 ∣ bytes) ∨
        ¬36 ∣ (accepted last 0 (shape steps)).sum := by
  constructor
  · intro faithful
    by_contra torn
    rcases not_or.mp torn with ⟨torn, whole⟩
    push Not at torn whole
    rcases exists_tears last steps 0 torn with ⟨other, zeros, ones, same, entries, cut, bytes⟩
    have total : zeros + ones = (accepted last 0 (shape other)).sum := by
      rw [← chunks_flatten_length, show chunks last [] other =
        chunks last (List.replicate 0 0) other from rfl, bytes]
      simp
    have ends : binaryLogEntrySize ∣ zeros + ones := by
      rw [total, same]
      exact whole
    have loaded := loadBinaryFile_closedLog "" other last
    have exact : (zeros + ones) % versionedSize = 0 := Nat.mod_eq_zero_of_dvd ends
    rw [← total, if_neg (not_not_intro exact)] at loaded
    have sublist := faithful other same _ _ loaded
    have record := mem_split_torn cut ends
    rw [← bytes] at record
    rcases List.mem_map.mp (sublist.subset (List.mem_map_of_mem record)) with ⟨entry, member, equal⟩
    have distinct := torn_record_ne (Nat.pos_of_ne_zero (mt Nat.dvd_of_mod_eq_zero cut))
      (Nat.mod_lt zeros (by decide))
    rcases entries entry member with rfl | rfl
    · exact distinct.1 equal.symm
    · exact distinct.2 equal.symm
  · rintro (whole | cut) other same
    · exact faithful_of_whole (by rw [same]; exact whole)
    · exact faithful_of_partial (by rw [same]; exact cut)

/-- Two writes of half a record each: the reader accepts a record with the
sequence number of one entry and the finish time of the other. -/
theorem torn_record_is_accepted :
    let steps : List RepliedCall := [(.log zeroEntry, 0), (.flush, 18), (.log onesEntry, 0)]
    let torn : Row :=
      ⟨0, 0, 0xFFFF000000000000, 0xFFFFFFFFFFFFFFFF, 0xFFFFFFFFFFFFFFFF, none, 1⟩
    loadBinaryFile "" (some (closedLog steps 18)) = .ok [torn] ∧
      torn ∉ (logged (steps.map Prod.fst)).map versionedRow := by
  decide

end NetLatencyLab.LatencyUtils
