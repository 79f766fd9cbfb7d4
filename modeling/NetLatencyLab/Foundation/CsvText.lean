import NetLatencyLab.Foundation.PythonText

/-! # Comma-separated values

`csv.reader` with the default dialect over a file that is opened with
`newline=""`, and the plain rows that it reads back. -/

namespace NetLatencyLab.CsvText

open PythonText (Text mem_intercalate)

def isLineEnd (char : Char) : Bool := char == '\n' || char == '\r'

/-- The lines of a file with their ends; `current` is what was read of the line. -/
def linesFrom (current : Text) : Text → List Text
  | [] => if current = [] then [] else [current]
  | '\r' :: '\n' :: rest => (current ++ ['\r', '\n']) :: linesFrom [] rest
  | char :: rest =>
      if isLineEnd char then (current ++ [char]) :: linesFrom [] rest
      else linesFrom (current ++ [char]) rest

inductive Position
  | startRecord
  | startField
  | inField
  | inQuotedField
  | quoteInQuotedField
  | eatLineEnd
deriving DecidableEq

structure Reader where
  position : Position := .startRecord
  field : Text := []
  fields : List Text := []

namespace Reader

def saveField (reader : Reader) (position : Position) : Reader where
  position := position
  fields := reader.fields ++ [reader.field]

section

variable (limit : Nat)

/-- Up to `csv.field_size_limit()`. -/
def addChar (reader : Reader) (char : Char) (position : Position) : Option Reader :=
  if limit ≤ reader.field.length then none
  else some { reader with position := position, field := reader.field ++ [char] }

def startField (reader : Reader) (char : Char) : Option Reader :=
  if char = '"' then some { reader with position := .inQuotedField }
  else if char = ',' then some (reader.saveField .startField)
  else reader.addChar limit char .inField

/-- `parse_process_char`; nothing stands for `csv.Error`. -/
def step (reader : Reader) (char : Char) : Option Reader :=
  match reader.position with
  | .startRecord =>
      if isLineEnd char then some { reader with position := .eatLineEnd }
      else reader.startField limit char
  | .startField =>
      if isLineEnd char then some (reader.saveField .eatLineEnd)
      else reader.startField limit char
  | .inField =>
      if isLineEnd char then some (reader.saveField .eatLineEnd)
      else if char = ',' then some (reader.saveField .startField)
      else reader.addChar limit char .inField
  | .inQuotedField =>
      if char = '"' then some { reader with position := .quoteInQuotedField }
      else reader.addChar limit char .inQuotedField
  | .quoteInQuotedField =>
      if char = '"' then reader.addChar limit char .inQuotedField
      else if char = ',' then some (reader.saveField .startField)
      else if isLineEnd char then some (reader.saveField .eatLineEnd)
      else reader.addChar limit char .inField
  | .eatLineEnd => if isLineEnd char then some reader else none

end

def endLine (reader : Reader) : Reader :=
  match reader.position with
  | .startRecord | .eatLineEnd => { reader with position := .startRecord }
  | .startField | .inField | .quoteInQuotedField => reader.saveField .startRecord
  | .inQuotedField => reader

end Reader

def recordsFrom (limit : Nat) (reader : Reader) : List Text → Option (List (List Text))
  | [] =>
      if reader.position = .startRecord then some []
      else some [reader.fields ++ [reader.field]]
  | line :: rest => do
      let reader ← line.foldlM (Reader.step limit) reader
      let reader := reader.endLine
      if reader.position = .startRecord then do
        let later ← recordsFrom limit {} rest
        pure (reader.fields :: later)
      else recordsFrom limit reader rest

/-- `list(csv.reader(handle))`. -/
def read (limit : Nat) (text : Text) : Option (List (List Text)) :=
  recordsFrom limit {} (linesFrom [] text)

example : read 9 "a,b\r\n\n\"c,\"\"\n\",\n".toList =
    some [["a".toList, "b".toList], [], ["c,\"\n".toList, []]] := by decide +kernel

/-! ## Plain rows -/

structure PlainCell (limit : Nat) (cell : Text) : Prop where
  chars : ∀ char ∈ cell, isLineEnd char = false ∧ char ≠ ',' ∧ char ≠ '"'
  short : cell.length ≤ limit

structure PlainRow (limit : Nat) (cells : List Text) : Prop where
  plain : ∀ cell ∈ cells, PlainCell limit cell
  visible : [','].intercalate cells ≠ []

def writeRow (cells : List Text) : Text := [','].intercalate cells ++ ['\n']

private theorem linesFrom_line {line : Text} (plain : ∀ char ∈ line, isLineEnd char = false)
    (current rest : Text) :
    linesFrom current (line ++ '\n' :: rest) =
      (current ++ line ++ ['\n']) :: linesFrom [] rest := by
  induction line generalizing current with
  | nil =>
      rw [List.nil_append, List.append_nil, linesFrom]
      · rfl
      · intro other same
        cases same
  | cons char line induction =>
      have first := plain char List.mem_cons_self
      have later := induction fun other member => plain other (List.mem_cons_of_mem _ member)
      rw [List.cons_append, linesFrom, if_neg (by rw [first]; exact Bool.false_ne_true), later]
      · simp
      · intro rest same
        subst same
        cases first

section

variable {limit : Nat}

private theorem foldlM_inField {cell : Text}
    (plain : ∀ char ∈ cell, isLineEnd char = false ∧ char ≠ ',')
    {field : Text} (short : (field ++ cell).length ≤ limit) (fields : List Text) :
    cell.foldlM (Reader.step limit) ⟨.inField, field, fields⟩ =
      some ⟨.inField, field ++ cell, fields⟩ := by
  induction cell generalizing field with
  | nil => simp
  | cons char cell induction =>
      rcases plain char List.mem_cons_self with ⟨visible, inside⟩
      have room : ¬ limit ≤ field.length := by
        simp only [List.length_append, List.length_cons] at short
        omega
      have added : Reader.step limit ⟨.inField, field, fields⟩ char =
          some ⟨.inField, field ++ [char], fields⟩ := by
        simp [Reader.step, visible, inside, Reader.addChar, room]
      rw [List.foldlM_cons, added]
      have longer : (field ++ [char] ++ cell).length ≤ limit := by simpa using short
      have later := induction (fun other member => plain other (List.mem_cons_of_mem _ member))
        longer
      rw [List.append_assoc, List.singleton_append] at later
      exact later

private theorem foldlM_cell {cell : Text} (plain : PlainCell limit cell) {position : Position}
    (start : position = .startRecord ∨ position = .startField) (fields : List Text) :
    cell.foldlM (Reader.step limit) ⟨position, [], fields⟩ =
      some ⟨if cell = [] then position else .inField, cell, fields⟩ := by
  cases cell with
  | nil => rfl
  | cons char cell =>
      rcases plain.chars char List.mem_cons_self with ⟨visible, inside, unquoted⟩
      have room : limit ≠ 0 := by
        have short := plain.short
        rw [List.length_cons] at short
        omega
      have added : Reader.step limit ⟨position, [], fields⟩ char =
          some ⟨.inField, [char], fields⟩ := by
        cases start with
        | inl same =>
            subst same
            simp [Reader.step, Reader.startField, visible, inside, unquoted, Reader.addChar, room]
        | inr same =>
            subst same
            simp [Reader.step, Reader.startField, visible, inside, unquoted, Reader.addChar, room]
      rw [List.foldlM_cons, added, if_neg (List.cons_ne_nil _ _)]
      exact foldlM_inField (fun other member =>
        ⟨(plain.chars other (List.mem_cons_of_mem _ member)).1,
          (plain.chars other (List.mem_cons_of_mem _ member)).2.1⟩) plain.short fields

private theorem foldlM_row {cells : List Text} (plain : ∀ cell ∈ cells, PlainCell limit cell)
    (occupied : cells ≠ []) {position : Position}
    (start : position = .startRecord ∧ [','].intercalate cells ≠ [] ∨ position = .startField)
    (fields : List Text) :
    (writeRow cells).foldlM (Reader.step limit) ⟨position, [], fields⟩ =
      some ⟨.eatLineEnd, [], fields ++ cells⟩ := by
  induction cells generalizing position fields with
  | nil => exact absurd rfl occupied
  | cons cell cells induction =>
      have first := plain cell List.mem_cons_self
      have read := foldlM_cell first (start.imp_left And.left) fields
      cases cells with
      | nil =>
          rw [writeRow, List.intercalate_singleton, List.foldlM_append, read]
          rw [List.intercalate_singleton] at start
          by_cases empty : cell = []
          · cases start with
            | inl record => exact absurd empty record.2
            | inr field =>
                rw [if_pos empty, field]
                rfl
          · rw [if_neg empty]
            rfl
      | cons next cells =>
          have later := induction (fun other member => plain other (List.mem_cons_of_mem _ member))
            (List.cons_ne_nil _ _) (.inr rfl) (fields ++ [cell])
          have comma : ∀ position, position = .startRecord ∨ position = .startField ∨
              position = .inField → Reader.step limit ⟨position, cell, fields⟩ ',' =
                some ⟨.startField, [], fields ++ [cell]⟩ := by
            intro position among
            rcases among with rfl | rfl | rfl
            · rfl
            · rfl
            · rfl
          have split : writeRow (cell :: next :: cells) =
              cell ++ ',' :: writeRow (next :: cells) := by
            simp [writeRow, List.intercalate_cons_cons]
          rw [split, List.foldlM_append, read]
          rw [Option.bind_eq_bind, Option.bind_some, List.foldlM_cons, comma]
          · rw [List.append_assoc, List.singleton_append] at later
            exact later
          · split
            · exact (start.imp_left And.left).elim .inl (.inr ∘ .inl)
            · exact .inr (.inr rfl)

theorem read_rows {rows : List (List Text)} (plain : ∀ cells ∈ rows, PlainRow limit cells) :
    read limit (rows.flatMap writeRow) = some rows := by
  rw [read]
  induction rows with
  | nil => rfl
  | cons cells rows induction =>
      have first := plain cells List.mem_cons_self
      have later := induction fun other member => plain other (List.mem_cons_of_mem _ member)
      have occupied : cells ≠ [] := by
        intro none
        exact first.visible (none ▸ rfl)
      have solid : ∀ char ∈ [','].intercalate cells, isLineEnd char = false := by
        intro char member
        rcases mem_intercalate member with same | ⟨cell, listed, inside⟩
        · subst same
          rfl
        · exact ((first.plain cell listed).chars char inside).1
      have lines : linesFrom [] ((cells :: rows).flatMap writeRow) =
          writeRow cells :: linesFrom [] (rows.flatMap writeRow) := by
        rw [List.flatMap_cons, writeRow, List.append_assoc, List.singleton_append,
          linesFrom_line solid, List.nil_append]
      have row := foldlM_row first.plain occupied (.inl ⟨rfl, first.visible⟩) []
      rw [lines, recordsFrom, row, Option.bind_eq_bind, Option.bind_some]
      change (recordsFrom limit {} _ >>= _) = _
      rw [later]
      rfl

end

end NetLatencyLab.CsvText
