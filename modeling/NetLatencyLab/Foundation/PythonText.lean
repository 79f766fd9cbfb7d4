import Mathlib.Data.List.DropRight

/-! # Python text

String methods of Python on lists of characters. -/

namespace NetLatencyLab.PythonText

abbrev Text := List Char

instance : LawfulBEq Text := inferInstance

/-- `str.isspace` of one character. -/
def isSpace (char : Char) : Bool :=
  let code := char.toNat
  (9 ≤ code && code ≤ 13) || (28 ≤ code && code ≤ 32) || code == 0x85 || code == 0xa0 ||
    code == 0x1680 || (0x2000 ≤ code && code ≤ 0x200a) || code == 0x2028 || code == 0x2029 ||
    code == 0x202f || code == 0x205f || code == 0x3000

/-- The line boundaries of `str.splitlines`. -/
def isBoundary (char : Char) : Bool :=
  let code := char.toNat
  (10 ≤ code && code ≤ 13) || (28 ≤ code && code ≤ 30) || code == 0x85 || code == 0x2028 ||
    code == 0x2029

def strip (text : Text) : Text := (text.dropWhile isSpace).rdropWhile isSpace

/-- `current` holds what was read of the line, `returned` whether a carriage
return ended the line before: a line feed then belongs to it. -/
def splitlinesFrom (returned : Bool) (current : Text) : Text → List Text
  | [] => if current = [] then [] else [current]
  | char :: rest =>
      if returned && char == '\n' then splitlinesFrom false current rest
      else if isBoundary char then current :: splitlinesFrom (char == '\r') [] rest
      else splitlinesFrom false (current ++ [char]) rest

def splitlines (text : Text) : List Text := splitlinesFrom false [] text

example : splitlines "ab\ncd\r\n\ne".toList = ["ab".toList, "cd".toList, [], "e".toList] := by
  decide

/-- `str.split()`; `current` is the word being read. -/
def wordsFrom (current : Text) : Text → List Text
  | [] => if current = [] then [] else [current]
  | char :: rest =>
      if isSpace char then
        if current = [] then wordsFrom [] rest else current :: wordsFrom [] rest
      else wordsFrom (current ++ [char]) rest

def words (text : Text) : List Text := wordsFrom [] text

/-- `"\n".join(lines)`. -/
def joinLines (lines : List Text) : Text := ['\n'].intercalate lines

/-- `str.partition(separator)`, for one character; `none` if it does not occur. -/
def partition (separator : Char) : Text → Option (Text × Text)
  | [] => none
  | char :: rest =>
      if char = separator then some ([], rest)
      else (partition separator rest).map fun parts => (char :: parts.1, parts.2)

def digitsFrom (value : Nat) : Text → Option Nat
  | [] => some value
  | '_' :: char :: rest =>
      if char.isDigit then digitsFrom (10 * value + (char.toNat - '0'.toNat)) rest else none
  | char :: rest =>
      if char.isDigit then digitsFrom (10 * value + (char.toNat - '0'.toNat)) rest else none

def natural : Text → Option Nat
  | [] => none
  | char :: rest => if char.isDigit then digitsFrom (char.toNat - '0'.toNat) rest else none

/-- `int(text)`. -/
def toInt? (text : Text) : Option Int :=
  match strip text with
  | '-' :: digits => (natural digits).map fun value => -(value : Int)
  | '+' :: digits => (natural digits).map Int.ofNat
  | digits => (natural digits).map Int.ofNat

example : toInt? " -12\n".toList = some (-12) ∧ toInt? [] = none := by decide

/-! ## Lines of a text put together -/

theorem splitlinesFrom_append (returned : Bool) (current text rest : Text)
    (fresh : returned → current = []) :
    splitlinesFrom returned current (text ++ '\n' :: rest) =
      splitlinesFrom returned current (text ++ ['\n']) ++ splitlines rest := by
  induction text generalizing returned current with
  | nil =>
      cases returned with
      | false => simp [splitlinesFrom, isBoundary, splitlines]
      | true => simp [splitlinesFrom, splitlines, fresh]
  | cons char text induction =>
      simp only [List.cons_append, splitlinesFrom]
      split
      · exact induction false current (by simp)
      split
      · rw [induction (char == '\r') [] (fun _ => rfl), List.cons_append]
      · exact induction false (current ++ [char]) (by simp)

private theorem splitlines_append (text rest : Text) :
    splitlines (text ++ '\n' :: rest) = splitlines (text ++ ['\n']) ++ splitlines rest :=
  splitlinesFrom_append false [] text rest (by simp)

def Terminated (text : Text) : Prop := text = [] ∨ ∃ shorter, text = shorter ++ ['\n']

theorem Terminated.append {text rest : Text} (first : Terminated text) (second : Terminated rest) :
    Terminated (text ++ rest) := by
  rcases second with rfl | ⟨shorter, rfl⟩
  · rw [List.append_nil]
    exact first
  · exact Or.inr ⟨text ++ shorter, (List.append_assoc ..).symm⟩

theorem splitlines_append_terminated {text : Text} (terminated : Terminated text) (rest : Text) :
    splitlines (text ++ rest) = splitlines text ++ splitlines rest := by
  rcases terminated with rfl | ⟨shorter, rfl⟩
  · rfl
  · rw [List.append_assoc, List.singleton_append, splitlines_append]

private theorem exists_line_of_current {current : Text} (occupied : current ≠ []) (rest : Text) :
    ∃ line ∈ splitlinesFrom false current rest, current <+: line := by
  induction rest generalizing current with
  | nil => exact ⟨current, by simp [splitlinesFrom, occupied], List.prefix_rfl⟩
  | cons char rest induction =>
      rw [splitlinesFrom, if_neg (by simp)]
      split
      · exact ⟨current, List.mem_cons_self, List.prefix_rfl⟩
      · rcases induction (show current ++ [char] ≠ [] by simp) with ⟨line, member, starts⟩
        exact ⟨line, member, (List.prefix_append ..).trans starts⟩

private theorem splitlinesFrom_prefix {returned : Bool} {current : Text}
    (fresh : returned → current = [])
    (text rest : Text) {line : Text} (member : line ∈ splitlinesFrom returned current text) :
    ∃ whole ∈ splitlinesFrom returned current (text ++ rest), line <+: whole := by
  induction text generalizing returned current with
  | nil =>
      rw [splitlinesFrom] at member
      split at member
      · cases member
      next occupied =>
        have same : line = current := List.mem_singleton.mp member
        have unreturned : returned = false := by
          cases returned with
          | false => rfl
          | true => exact absurd (fresh rfl) occupied
        rw [same, unreturned]
        exact exists_line_of_current occupied rest
  | cons char text induction =>
      simp only [List.cons_append, splitlinesFrom] at member ⊢
      split at member
      next skips =>
        rw [if_pos skips]
        exact induction (by simp) member
      next skips =>
        rw [if_neg skips]
        split at member
        next boundary =>
          rw [if_pos boundary]
          rcases List.mem_cons.mp member with rfl | later
          · exact ⟨line, List.mem_cons_self, List.prefix_rfl⟩
          · rcases induction (fun _ => rfl) later with ⟨whole, inside, starts⟩
            exact ⟨whole, List.mem_cons_of_mem _ inside, starts⟩
        next plain =>
          rw [if_neg plain]
          exact induction (by simp) member

theorem splitlines_prefix {text longer line : Text} (cut : text <+: longer)
    (member : line ∈ splitlines text) : ∃ whole ∈ splitlines longer, line <+: whole := by
  rcases cut with ⟨rest, rfl⟩
  exact splitlinesFrom_prefix (by simp) text rest member

theorem splitlinesFrom_line (current line rest : Text) (plain : ∀ char ∈ line, ¬ isBoundary char) :
    splitlinesFrom false current (line ++ rest) = splitlinesFrom false (current ++ line) rest := by
  induction line generalizing current with
  | nil => rw [List.nil_append, List.append_nil]
  | cons char line induction =>
      rw [List.cons_append, splitlinesFrom, if_neg (by simp),
        if_neg (plain char List.mem_cons_self),
        induction _ fun other member => plain other (List.mem_cons_of_mem _ member),
        List.append_assoc, List.singleton_append]

theorem splitlines_line {line : Text} (plain : ∀ char ∈ line, ¬ isBoundary char) (rest : Text) :
    splitlines (line ++ '\n' :: rest) = line :: splitlines rest := by
  rw [splitlines, splitlinesFrom_line [] line _ plain, List.nil_append]
  simp [splitlinesFrom, isBoundary, splitlines]

theorem splitlines_last_line {line : Text} (plain : ∀ char ∈ line, ¬ isBoundary char)
    (occupied : line ≠ []) : splitlines line = [line] := by
  have whole := splitlinesFrom_line [] line [] plain
  rw [List.append_nil, List.nil_append] at whole
  rw [splitlines, whole, splitlinesFrom, if_neg occupied]

def unlines (lines : List Text) : Text := lines.flatMap fun line => line ++ ['\n']

private theorem unlines_cons (line : Text) (lines : List Text) :
    unlines (line :: lines) = line ++ '\n' :: unlines lines := by
  simp [unlines]

theorem splitlines_unlines {lines : List Text}
    (plain : ∀ line ∈ lines, ∀ char ∈ line, ¬ isBoundary char) :
    splitlines (unlines lines) = lines := by
  induction lines with
  | nil => rfl
  | cons line lines induction =>
      rw [unlines_cons, splitlines_line (plain line List.mem_cons_self),
        induction fun other member => plain other (List.mem_cons_of_mem _ member)]

theorem mem_intercalate {separator char : Char} {parts : List Text}
    (member : char ∈ [separator].intercalate parts) :
    char = separator ∨ ∃ part ∈ parts, char ∈ part := by
  induction parts with
  | nil => cases member
  | cons part parts induction =>
      cases parts with
      | nil =>
          rw [List.intercalate_singleton] at member
          exact .inr ⟨part, List.mem_cons_self, member⟩
      | cons next parts =>
          rw [List.intercalate_cons_cons, List.append_assoc, List.mem_append, List.mem_append,
            List.mem_singleton] at member
          rcases member with first | same | later
          · exact .inr ⟨part, List.mem_cons_self, first⟩
          · exact .inl same
          · rcases induction later with same | ⟨other, listed, inside⟩
            · exact .inl same
            · exact .inr ⟨other, List.mem_cons_of_mem _ listed, inside⟩

theorem mem_of_mem_splitlines_joinLines {lines : List Text}
    (plain : ∀ line ∈ lines, ∀ char ∈ line, ¬ isBoundary char) {line : Text}
    (member : line ∈ splitlines (joinLines lines)) : line ∈ lines := by
  induction lines with
  | nil => cases member
  | cons first others induction =>
      have firstPlain := plain first List.mem_cons_self
      cases others with
      | nil =>
          rw [joinLines, List.intercalate_singleton] at member
          by_cases empty : first = []
          · rw [empty] at member
            cases member
          · rw [splitlines_last_line firstPlain empty] at member
            exact member
      | cons second others =>
          have joined : joinLines (first :: second :: others) =
              first ++ '\n' :: joinLines (second :: others) := by
            simp [joinLines, List.intercalate_cons_cons]
          rw [joined, splitlines_line firstPlain] at member
          cases List.mem_cons.mp member with
          | inl same => exact List.mem_cons.mpr (Or.inl same)
          | inr later =>
              apply List.mem_cons_of_mem
              exact induction (fun other inside => plain other (List.mem_cons_of_mem _ inside)) later

theorem rdropWhile_append_cons (text rest : Text) {char : Char} (visible : ¬ isSpace char) :
    (text ++ char :: rest).rdropWhile isSpace = text ++ char :: rest.rdropWhile isSpace := by
  induction rest using List.reverseRecOn with
  | nil => rw [List.rdropWhile_nil, List.rdropWhile_concat_neg _ _ _ visible]
  | append_singleton rest last induction =>
      rw [← List.cons_append, ← List.append_assoc]
      by_cases space : isSpace last
      · rw [List.rdropWhile_concat_pos _ _ _ space, List.rdropWhile_concat_pos _ _ _ space, induction]
      · rw [List.rdropWhile_concat_neg _ _ _ space, List.rdropWhile_concat_neg _ _ _ space]
        simp

/-! ## Separators -/

theorem eq_of_last_separator {separator : Char} {first second rest other : Text}
    (same : first ++ separator :: rest = second ++ separator :: other)
    (last : separator ∉ rest) (otherLast : separator ∉ other) : first = second ∧ rest = other := by
  rcases List.append_eq_append_iff.mp same with ⟨between, longer, tail⟩ | ⟨between, longer, tail⟩
  · cases between with
    | nil =>
        rw [List.append_nil] at longer
        exact ⟨longer.symm, (List.cons.inj tail).2⟩
    | cons char between =>
        rw [List.cons_append] at tail
        have member : separator ∈ between ++ separator :: other :=
          List.mem_append_right between List.mem_cons_self
        exact absurd ((List.cons.inj tail).2 ▸ member) last
  · cases between with
    | nil =>
        rw [List.append_nil] at longer
        exact ⟨longer, (List.cons.inj tail).2.symm⟩
    | cons char between =>
        rw [List.cons_append] at tail
        have member : separator ∈ between ++ separator :: rest :=
          List.mem_append_right between List.mem_cons_self
        exact absurd ((List.cons.inj tail).2 ▸ member) otherLast

theorem rdropWhile_append {drop : Char → Bool} (text : Text) {suffix : Text}
    (dropped : ∀ char ∈ suffix, drop char) :
    (text ++ suffix).rdropWhile drop = text.rdropWhile drop := by
  induction suffix using List.reverseRecOn with
  | nil => rw [List.append_nil]
  | append_singleton suffix last induction =>
      rw [← List.append_assoc, List.rdropWhile_concat_pos]
      · exact induction fun char member => dropped char (List.mem_append_left _ member)
      · exact dropped last (List.mem_append_right _ (List.mem_singleton_self last))

end NetLatencyLab.PythonText
