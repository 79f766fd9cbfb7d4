import NetLatencyLab.Common.BinaryLog
import Mathlib.Data.List.Induction

/-! # The buffered log writer

`BinaryLogger` collects encoded records and hands them to `fwrite` one buffer at
a time. A reply of `fwrite` is the number of bytes it accepts. -/

namespace NetLatencyLab

open Records (flatMap_length)

structure BinaryLogger where
  /-- The strings written so far, or `none` once `file_` is null. -/
  file : Option (List (List UInt8))
  buffer : List UInt8

namespace BinaryLogger

def bufferCapacity : Nat := 64 * 1024

/-- Every byte is accepted. -/
def completeFwrite (bytes : List UInt8) : Nat := bytes.length

/-- The constructor; `opened` is the success of `fopen`. -/
def create (opened : Bool) (fwrite : List UInt8 → Nat) : BinaryLogger :=
  let file := if opened then some [encodeLogHeader.take (fwrite encodeLogHeader)] else none
  { file := if fwrite encodeLogHeader ≠ encodeLogHeader.length then none else file
    buffer := [] }

def isOpen (logger : BinaryLogger) : Bool := logger.file.isSome

def flush (fwrite : List UInt8 → Nat) (logger : BinaryLogger) : BinaryLogger :=
  match logger.file with
  | none => logger
  | some written =>
      if logger.buffer ≠ [] then
        { file := some (written ++ [logger.buffer.take (fwrite logger.buffer)])
          buffer := [] }
      else logger

def log (fwrite : List UInt8 → Nat) (logger : BinaryLogger) (entry : LogEntry) : BinaryLogger :=
  let bytes := encodeLogEntry entry
  let logger :=
    if logger.buffer.length + bytes.length > bufferCapacity then logger.flush fwrite else logger
  { logger with buffer := logger.buffer ++ bytes }

inductive Call where
  | log (entry : LogEntry)
  | flush
deriving DecidableEq

def call (fwrite : List UInt8 → Nat) (logger : BinaryLogger) : Call → BinaryLogger
  | .log entry => logger.log fwrite entry
  | .flush => logger.flush fwrite

def callAll (fwrite : List UInt8 → Nat) (logger : BinaryLogger) (calls : List Call) :
    BinaryLogger :=
  calls.foldl (call fwrite) logger

def logged (calls : List Call) : List LogEntry :=
  calls.filterMap fun
    | .log entry => some entry
    | .flush => none

def contents (logger : BinaryLogger) : List UInt8 := (logger.file.getD []).flatten

/-! ## Groups of whole records

With complete writes the file is the header followed by groups of records, and
the buffer is the group still to be written. -/

structure Holds (logger : BinaryLogger) (groups : List (List LogEntry))
    (pending : List LogEntry) : Prop where
  file : logger.file =
    some (encodeLogHeader :: groups.map fun group => group.flatMap encodeLogEntry)
  buffer : logger.buffer = pending.flatMap encodeLogEntry
  bounded : logger.buffer.length ≤ bufferCapacity

namespace Holds

variable {logger : BinaryLogger} {groups : List (List LogEntry)} {pending : List LogEntry}

theorem create : (create true completeFwrite).Holds [] [] where
  file := by simp only [BinaryLogger.create, completeFwrite, List.take_length]; rfl
  buffer := rfl
  bounded := Nat.zero_le _

theorem flush (holds : logger.Holds groups pending) :
    ∃ groups', (logger.flush completeFwrite).Holds groups' [] ∧
      groups'.flatten = groups.flatten ++ pending := by
  by_cases empty : logger.buffer = []
  · have nothing : pending = [] := by
      have length := flatMap_length encodeLogEntry binaryLogEntrySize encodeLogEntry_length pending
      rw [← holds.buffer, empty, List.length_nil, binaryLogEntrySize] at length
      exact List.length_eq_zero_iff.mp (by omega)
    refine ⟨groups, ?_, by simp [nothing]⟩
    have unchanged : logger.flush completeFwrite = logger := by
      simp [BinaryLogger.flush, holds.file, empty]
    rw [unchanged, ← nothing]
    exact holds
  · refine ⟨groups ++ [pending], ?_, by simp⟩
    exact {
      file := by simp [BinaryLogger.flush, holds.file, empty, completeFwrite, ← holds.buffer]
      buffer := by simp [BinaryLogger.flush, holds.file, empty]
      bounded := by simp [BinaryLogger.flush, holds.file, empty] }

theorem append (holds : logger.Holds groups pending) (entry : LogEntry)
    (room : logger.buffer.length + binaryLogEntrySize ≤ bufferCapacity) :
    Holds { logger with buffer := logger.buffer ++ encodeLogEntry entry } groups
      (pending ++ [entry]) where
  file := holds.file
  buffer := by simp [holds.buffer]
  bounded := by simpa using room

theorem log (holds : logger.Holds groups pending) (entry : LogEntry) :
    ∃ groups' pending', (logger.log completeFwrite entry).Holds groups' pending' ∧
      groups'.flatten ++ pending' = groups.flatten ++ pending ++ [entry] := by
  rw [BinaryLogger.log]
  by_cases full : logger.buffer.length + (encodeLogEntry entry).length > bufferCapacity
  · rcases holds.flush with ⟨groups', flushed, flattened⟩
    rw [if_pos full]
    refine ⟨groups', [] ++ [entry], flushed.append entry ?_, by simp [flattened]⟩
    simp [flushed.buffer, binaryLogEntrySize, bufferCapacity]
  · rw [if_neg full]
    rw [encodeLogEntry_length] at full
    exact ⟨groups, pending ++ [entry], holds.append entry (Nat.le_of_not_lt full), by simp⟩

theorem call (holds : logger.Holds groups pending) (call : Call) :
    ∃ groups' pending', (logger.call completeFwrite call).Holds groups' pending' ∧
      groups'.flatten ++ pending' = groups.flatten ++ pending ++ logged [call] := by
  cases call with
  | log entry => exact holds.log entry
  | flush =>
      rcases holds.flush with ⟨groups', flushed, flattened⟩
      exact ⟨groups', [], flushed, by simp [flattened, logged]⟩

end Holds

theorem callAll_holds (calls : List Call) :
    ∃ groups pending,
      ((create true completeFwrite).callAll completeFwrite calls).Holds groups pending ∧
        groups.flatten ++ pending = logged calls := by
  induction calls using List.reverseRecOn with
  | nil => exact ⟨[], [], Holds.create, rfl⟩
  | append_singleton calls call induction =>
      rcases induction with ⟨groups, pending, holds, flattened⟩
      rcases holds.call call with ⟨groups', pending', next, flattened'⟩
      refine ⟨groups', pending', ?_, ?_⟩
      · simpa [callAll] using next
      · rw [flattened', flattened, logged, logged, logged, List.filterMap_append]

theorem Holds.contents {logger : BinaryLogger} {groups : List (List LogEntry)}
    {pending : List LogEntry} (holds : logger.Holds groups pending) :
    logger.contents = encodeLogHeader ++ groups.flatten.flatMap encodeLogEntry := by
  simp [BinaryLogger.contents, holds.file, List.flatMap_def, List.map_flatten,
    List.flatten_flatten, Function.comp_def]

theorem Holds.written_prefix {logger : BinaryLogger} {groups : List (List LogEntry)}
    {pending : List LogEntry} (holds : logger.Holds groups pending)
    {earlier later : List (List UInt8)} (written : logger.file = some (earlier ++ later))
    (nonempty : earlier ≠ []) :
    ∃ count, earlier.flatten =
      encodeLogHeader ++ (groups.flatten.take count).flatMap encodeLogEntry := by
  cases earlier with
  | nil => exact absurd rfl nonempty
  | cons header chunks =>
      rw [holds.file, List.cons_append, Option.some.injEq, List.cons.injEq] at written
      rcases written with ⟨rfl, split⟩
      rcases List.map_eq_append_iff.mp split with ⟨first, rest, rfl, firstEqual, _⟩
      refine ⟨first.flatten.length, ?_⟩
      rw [List.flatten_append, List.take_left, List.flatten_cons, ← firstEqual]
      simp [List.flatMap_def, List.map_flatten, List.flatten_flatten, Function.comp_def]

end BinaryLogger

end NetLatencyLab
