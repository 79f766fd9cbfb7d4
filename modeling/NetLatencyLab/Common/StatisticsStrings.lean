import NetLatencyLab.Foundation.JsonString
import NetLatencyLab.Foundation.Utf8

/-! # Strings in the statistics files

`json_escape` of the receivers and `escape` of the sender go over the bytes of a
string; `safe_read_json` decodes the file and then its literals. -/

namespace NetLatencyLab.Statistics

open JsonString (Denotes Refused isControl read scan)
open PythonText (Text)
open Utf8 (ascii)

/-- What the loop of `json_escape` appends for one byte. -/
def jsonEscapeByte (c : UInt8) : List UInt8 :=
  if c = ascii '\\' then [ascii '\\', ascii '\\']
  else if c = ascii '"' then [ascii '\\', ascii '"']
  else if c = ascii '\n' then [ascii '\\', ascii 'n']
  else if c = ascii '\r' then [ascii '\\', ascii 'r']
  else if c = ascii '\t' then [ascii '\\', ascii 't']
  else [c]

def jsonEscape (value : List UInt8) : List UInt8 := value.flatMap jsonEscapeByte

/-- What the loop of the sender's `escape` appends for one byte. -/
def escapeByte (c : UInt8) : List UInt8 :=
  if c = ascii '\\' then [ascii '\\', ascii '\\']
  else if c = ascii '"' then [ascii '\\', ascii '"']
  else [c]

def escape (value : List UInt8) : List UInt8 := value.flatMap escapeByte

inductive Program where
  | receiver
  | sender
deriving DecidableEq

def Program.escape : Program → List UInt8 → List UInt8
  | receiver => jsonEscape
  | sender => Statistics.escape

/-- A string field as it is written, between its quotes. -/
def Program.literal (program : Program) (text : Text) : List UInt8 :=
  [ascii '"'] ++ program.escape (Utf8.encode text) ++ [ascii '"']

/-- A literal at the start of some bytes, as `json.load` reads it. -/
def readLiteral (bytes : List UInt8) : Option (Text × Text) := (Utf8.decode bytes).bind read

/-! ## Escaped characters -/

def Program.write : Program → Char → Text
  | receiver, char =>
      if char = '\\' then ['\\', '\\']
      else if char = '"' then ['\\', '"']
      else if char = '\n' then ['\\', 'n']
      else if char = '\r' then ['\\', 'r']
      else if char = '\t' then ['\\', 't']
      else [char]
  | sender, char =>
      if char = '\\' then ['\\', '\\']
      else if char = '"' then ['\\', '"']
      else [char]

def Program.writeByte : Program → UInt8 → List UInt8
  | receiver => jsonEscapeByte
  | sender => escapeByte

theorem Program.writeByte_of_high (program : Program) {byte : UInt8} (high : 128 ≤ byte.toNat) :
    program.writeByte byte = [byte] := by
  have different : ∀ char : Char, char.toNat < 128 → byte ≠ ascii char := by
    intro char small same
    rw [same, ascii, UInt8.toNat_ofNat'] at high
    omega
  have backslash := different '\\' (by decide)
  have quote := different '"' (by decide)
  have newline := different '\n' (by decide)
  have carriage := different '\r' (by decide)
  have tab := different '\t' (by decide)
  cases program with
  | receiver =>
      rw [writeByte, jsonEscapeByte, if_neg backslash, if_neg quote, if_neg newline,
        if_neg carriage, if_neg tab]
  | sender => rw [writeByte, escapeByte, if_neg backslash, if_neg quote]

theorem Program.write_of_wide (program : Program) {char : Char} (wide : 128 ≤ char.toNat) :
    program.write char = [char] := by
  have different : ∀ other : Char, other.toNat < 128 → char ≠ other := by
    intro other small same
    rw [same] at wide
    omega
  have backslash := different '\\' (by decide)
  have quote := different '"' (by decide)
  have newline := different '\n' (by decide)
  have carriage := different '\r' (by decide)
  have tab := different '\t' (by decide)
  cases program with
  | receiver =>
      simp only [write, backslash, quote, newline, carriage, tab, if_false]
  | sender => simp only [write, backslash, quote, if_false]

theorem Program.writeByte_ascii (program : Program) {char : Char} (small : char.toNat < 128) :
    program.writeByte (ascii char) = Utf8.encode (program.write char) := by
  have table : ∀ code : Fin 128, program.writeByte (ascii (Char.ofNat code)) =
      Utf8.encode (program.write (Char.ofNat code)) := by
    cases program <;> decide +kernel
  have entry := table ⟨char.toNat, small⟩
  rw [Char.ofNat_toNat] at entry
  exact entry

theorem Program.escape_encode (program : Program) (text : Text) :
    program.escape (Utf8.encode text) = Utf8.encode (text.flatMap program.write) := by
  have whole := Utf8.flatMap_encode (fun _ => program.writeByte_of_high)
    (fun _ => program.write_of_wide) (fun _ => program.writeByte_ascii) text
  cases program with
  | receiver => exact whole
  | sender => exact whole

/-! ## What the decoder makes of them -/

/-- The control characters that a program escapes. -/
def Program.escapes : Program → List Char
  | receiver => ['\n', '\r', '\t']
  | sender => []

/-- A program reads back or spoils each character, and the control characters
that it does not escape are the ones it spoils. -/
def Program.Treats (program : Program) (char : Char) : Prop :=
  (Denotes (program.write char) char ∧ (isControl char = true → char ∈ program.escapes)) ∨
    (Refused (program.write char) ∧ isControl char = true ∧ char ∉ program.escapes)

theorem Program.treats_of_escape {program : Program} {code char : Char}
    (written : program.write char = ['\\', code])
    (known : JsonString.simpleEscape code = some char)
    (escaped : isControl char = true → char ∈ program.escapes) : program.Treats char := by
  left
  refine ⟨?_, escaped⟩
  rw [written]
  exact JsonString.scan_escape known

theorem Program.treats_of_plain {program : Program} {char : Char}
    (written : program.write char = [char]) (unquoted : char ≠ '"') (unescaped : char ≠ '\\')
    (outside : char ∉ program.escapes) : program.Treats char := by
  rw [Treats, written]
  by_cases control : isControl char = true
  · exact .inr ⟨JsonString.scan_control control, control, outside⟩
  · left
    exact ⟨JsonString.scan_plain unquoted unescaped (Bool.eq_false_iff.mpr control),
      fun other => absurd other control⟩

theorem Program.treats (program : Program) (char : Char) : program.Treats char := by
  by_cases backslash : char = '\\'
  · subst backslash
    apply treats_of_escape (by cases program <;> rfl) rfl
    exact fun control => absurd control (by decide)
  by_cases quote : char = '"'
  · subst quote
    apply treats_of_escape (by cases program <;> rfl) rfl
    exact fun control => absurd control (by decide)
  cases program with
  | sender =>
      apply treats_of_plain _ quote backslash List.not_mem_nil
      simp only [write, backslash, quote, if_false]
  | receiver =>
      by_cases newline : char = '\n'
      · subst newline
        exact treats_of_escape rfl rfl fun _ => by decide
      by_cases carriage : char = '\r'
      · subst carriage
        exact treats_of_escape rfl rfl fun _ => by decide
      by_cases tab : char = '\t'
      · subst tab
        exact treats_of_escape rfl rfl fun _ => by decide
      apply treats_of_plain _ quote backslash
      · simp only [escapes, List.mem_cons, List.not_mem_nil, newline, carriage, tab, or_self,
          not_false_eq_true]
      · simp only [write, backslash, quote, newline, carriage, tab, if_false]

theorem Program.refused_iff (program : Program) (char : Char) :
    Refused (program.write char) ↔ isControl char = true ∧ char ∉ program.escapes := by
  rcases program.treats char with read | spoilt
  · constructor
    · exact fun refused => absurd refused read.1.not_refused
    · exact fun bad => absurd (read.2 bad.1) bad.2
  · exact ⟨fun _ => spoilt.2, fun _ => spoilt.1⟩

/-- A literal is read back exactly when its program escapes every control
character in it, whatever follows in the file. For both programs that is when
there are none. -/
theorem readLiteral_iff (text rest : Text) :
    (∀ program : Program,
      readLiteral (program.literal text ++ Utf8.encode rest) = some (text, rest) ↔
        ∀ char ∈ text, isControl char = true → char ∈ program.escapes) ∧
    ((∀ program : Program,
      readLiteral (program.literal text ++ Utf8.encode rest) = some (text, rest)) ↔
        ∀ char ∈ text, isControl char = false) := by
  have each : ∀ program : Program,
      readLiteral (program.literal text ++ Utf8.encode rest) = some (text, rest) ↔
        ∀ char ∈ text, isControl char = true → char ∈ program.escapes := by
    intro program
    have quote : Utf8.encode ['"'] = [ascii '"'] := Utf8.encode_singleton_of_ascii (by decide)
    have encoded : program.literal text ++ Utf8.encode rest =
        Utf8.encode ('"' :: (text.flatMap program.write ++ '"' :: rest)) := by
      rw [Program.literal, program.escape_encode, ← quote, ← Utf8.encode_append,
        ← Utf8.encode_append, ← Utf8.encode_append]
      simp
    rw [encoded, readLiteral, Utf8.decode_encode]
    change scan (text.flatMap program.write ++ '"' :: rest) = some (text, rest) ↔ _
    rw [JsonString.scan_flatMap_iff fun char => (program.treats char).imp And.left And.left]
    simp only [program.refused_iff, not_and, not_not]
  refine ⟨each, ?_⟩
  constructor
  · intro both char member
    by_contra control
    have escaped := (each .sender).mp (both .sender) char member (by simpa using control)
    cases escaped
  · intro none program
    apply (each program).mpr
    intro char member control
    rw [none char member] at control
    cases control

/-- A bell in a path is not read back from any program, a line feed from the
receivers only. -/
theorem control_characters_are_not_read :
    (∀ program : Program, readLiteral (program.literal "trace\x07.csv".toList) = none) ∧
      readLiteral (Program.sender.literal "trace\n.csv".toList) = none ∧
      readLiteral (Program.receiver.literal "trace\n.csv".toList) =
        some ("trace\n.csv".toList, []) := by
  refine ⟨?_, by decide +kernel, by decide +kernel⟩
  intro program
  cases program <;> decide +kernel

end NetLatencyLab.Statistics
