import NetLatencyLab.Foundation.PythonText

/-! # String literals of JSON

A strict decoder of string literals, and when a way to write characters is
undone by it. -/

namespace NetLatencyLab.JsonString

open PythonText (Text)

/-- What may not stand in a literal as it is. -/
def isControl (char : Char) : Bool := char.toNat < 32

/-- The character after a backslash, except for `u`. -/
def simpleEscape : Char → Option Char
  | '"' => some '"'
  | '\\' => some '\\'
  | '/' => some '/'
  | 'b' => some (Char.ofNat 8)
  | 'f' => some (Char.ofNat 12)
  | 'n' => some '\n'
  | 'r' => some '\r'
  | 't' => some '\t'
  | _ => none

def hexDigit? (char : Char) : Option Nat :=
  if char.isDigit then some (char.toNat - '0'.toNat)
  else if 'a' ≤ char ∧ char ≤ 'f' then some (char.toNat - 'a'.toNat + 10)
  else if 'A' ≤ char ∧ char ≤ 'F' then some (char.toNat - 'A'.toNat + 10)
  else none

def codeUnit? (first second third fourth : Char) : Option Nat := do
  let first ← hexDigit? first
  let second ← hexDigit? second
  let third ← hexDigit? third
  let fourth ← hexDigit? fourth
  return ((first * 16 + second) * 16 + third) * 16 + fourth

def isHigh (unit : Nat) : Bool := 0xd800 ≤ unit && unit ≤ 0xdbff

def isLow (unit : Nat) : Bool := 0xdc00 ≤ unit && unit ≤ 0xdfff

def joinUnits (high low : Nat) : Char :=
  Char.ofNat (0x10000 + (high - 0xd800) * 0x400 + (low - 0xdc00))

def prepend (char : Char) (scanned : Text × Text) : Text × Text := (char :: scanned.1, scanned.2)

/-- What follows the opening quote: the text of the literal and what is left
after its closing quote. A surrogate without its other half is no character and
is refused here. -/
def scan : Text → Option (Text × Text)
  | [] => none
  | char :: rest =>
      if char = '"' then some ([], rest)
      else if char = '\\' then
        match rest with
        | 'u' :: first :: second :: third :: fourth :: rest =>
            match codeUnit? first second third fourth with
            | none => none
            | some unit =>
                if isHigh unit then
                  match rest with
                  | '\\' :: 'u' :: fifth :: sixth :: seventh :: eighth :: rest =>
                      match codeUnit? fifth sixth seventh eighth with
                      | none => none
                      | some low =>
                          if isLow low then (scan rest).map (prepend (joinUnits unit low)) else none
                  | _ => none
                else if isLow unit then none
                else (scan rest).map (prepend (Char.ofNat unit))
        | code :: rest =>
            match simpleEscape code with
            | none => none
            | some char => (scan rest).map (prepend char)
        | [] => none
      else if isControl char then none
      else (scan rest).map (prepend char)

/-- A literal at the start of a text. -/
def read : Text → Option (Text × Text)
  | '"' :: rest => scan rest
  | _ => none

example : read "\"a\\n\\u00e9\\ud83d\\ude00\" : 1".toList =
    some ("a\né😀".toList, " : 1".toList) := by decide +kernel

/-! ## One character -/

theorem scan_quote (rest : Text) : scan ('"' :: rest) = some ([], rest) := by
  rw [scan.eq_def]
  rfl

theorem scan_plain {char : Char} (unquoted : char ≠ '"') (unescaped : char ≠ '\\')
    (uncontrolled : isControl char = false) (rest : Text) :
    scan (char :: rest) = (scan rest).map (prepend char) := by
  rw [scan.eq_def]
  simp only [unquoted, unescaped, uncontrolled, if_false, Bool.false_eq_true]

theorem scan_control {char : Char} (control : isControl char = true) (rest : Text) :
    scan (char :: rest) = none := by
  have unquoted : char ≠ '"' := by
    intro same
    rw [same] at control
    cases control
  have unescaped : char ≠ '\\' := by
    intro same
    rw [same] at control
    cases control
  rw [scan.eq_def]
  simp only [unquoted, unescaped, control, if_false, if_true]

theorem scan_escape {code char : Char} (known : simpleEscape code = some char) (rest : Text) :
    scan ('\\' :: code :: rest) = (scan rest).map (prepend char) := by
  have different : code ≠ 'u' := by
    intro same
    rw [same] at known
    cases known
  rw [scan.eq_def]
  simp [different, known]

/-! ## Writers -/

/-- Whatever follows, `written` is read as one character. -/
def Denotes (written : Text) (char : Char) : Prop :=
  ∀ rest, scan (written ++ rest) = (scan rest).map (prepend char)

/-- Whatever follows, `written` cannot be read. -/
def Refused (written : Text) : Prop := ∀ rest, scan (written ++ rest) = none

theorem Denotes.not_refused {written : Text} {char : Char} (denotes : Denotes written char) :
    ¬ Refused written := by
  intro refused
  have scanned := denotes ['"']
  rw [refused, scan_quote] at scanned
  cases scanned

theorem scan_flatMap {write : Char → Text} {text : Text}
    (denotes : ∀ char ∈ text, Denotes (write char) char) (rest : Text) :
    scan (text.flatMap write ++ '"' :: rest) = some (text, rest) := by
  induction text with
  | nil => exact scan_quote rest
  | cons char text induction =>
      rcases List.forall_mem_cons.mp denotes with ⟨first, others⟩
      rw [List.flatMap_cons, List.append_assoc, first, induction others]
      rfl

private theorem scan_flatMap_of_refused {write : Char → Text} {text : Text}
    (each : ∀ char, Denotes (write char) char ∨ Refused (write char)) {char : Char}
    (member : char ∈ text) (refused : Refused (write char)) (rest : Text) :
    scan (text.flatMap write ++ rest) = none := by
  induction text with
  | nil => cases member
  | cons first text induction =>
      rw [List.flatMap_cons, List.append_assoc]
      rcases each first with denotes | never
      · have later : char ∈ text := by
          rcases List.mem_cons.mp member with same | inside
          · subst same
            exact absurd refused denotes.not_refused
          · exact inside
        rw [denotes, induction later]
        rfl
      · exact never _

theorem scan_flatMap_iff {write : Char → Text}
    (each : ∀ char, Denotes (write char) char ∨ Refused (write char)) (text rest : Text) :
    scan (text.flatMap write ++ '"' :: rest) = some (text, rest) ↔
      ∀ char ∈ text, ¬ Refused (write char) := by
  constructor
  · intro read char member refused
    rw [scan_flatMap_of_refused each member refused] at read
    cases read
  · intro accepted
    apply scan_flatMap
    intro char member
    exact (each char).resolve_right (accepted char member)

end NetLatencyLab.JsonString
