import NetLatencyLab.Common.StatisticsStrings
import NetLatencyLab.Foundation.Dictionary
import NetLatencyLab.Foundation.JsonDocument

/-! # Statistics files

What the two `write_stats` have in common, and `safe_read_json` of `main.py`,
which reads both files. -/

namespace NetLatencyLab.Statistics

open JsonDocument (Blank Denotes Element Member Plain Quotes denotes_object denotes_string
  joinMembers load_of_denotes)
open JsonFiles (Json JsonObject)
open JsonString (isControl)
open PythonText (Text decimal)

/-! ## Printing -/

/-- `json_escape` or `escape`, by characters. -/
def Program.escaped (program : Program) (text : Text) : Text := text.flatMap program.write

/-- `\"%s\"` of an escaped string. -/
def Program.quoted (program : Program) (text : Text) : Text := '"' :: program.escaped text ++ ['"']

/-- `%s` of `value ? "true" : "false"`. -/
def printBool (value : Bool) : Text := if value then "true".toList else "false".toList

structure Field where
  name : Text
  printed : Text
  item : Json

namespace Field

def natural (name : String) (value : Nat) : Field :=
  ⟨name.toList, decimal value, .integer value⟩

/-- `%d`. -/
def integer (name : String) (value : Int) : Field :=
  ⟨name.toList, CommandLine.integer value, .integer value⟩

def boolean (name : String) (value : Bool) : Field := ⟨name.toList, printBool value, .bool value⟩

def string (program : Program) (name : String) (text : Text) : Field :=
  ⟨name.toList, program.quoted text, .string text⟩

/-- `"name": `. -/
def label (name : Text) : Text := '"' :: name ++ ['"', ':', ' ']

def write (field : Field) : Text := label field.name ++ field.printed

def entry (field : Field) : Text × Json := (field.name, field.item)

/-- `  "name": value` on a line of its own. -/
def line (field : Field) (comma : Bool) : Text :=
  [' ', ' '] ++ field.write ++ (if comma then [','] else []) ++ ['\n']

end Field

theorem Field.line_comma (field : Field) :
    field.line true = [' ', ' '] ++ label field.name ++ field.printed ++ [',', '\n'] := by
  simp only [line, write, if_true, List.append_assoc, List.singleton_append]

def inlineObject (fields : List Field) : Text :=
  '{' :: ", ".toList.intercalate (fields.map Field.write) ++ ['}']

def writeLines : List Field → Text
  | [] => []
  | [field] => field.line false
  | field :: next :: later => field.line true ++ writeLines (next :: later)

theorem writeLines_concat (fields : List Field) (last : Field) :
    writeLines (fields ++ [last]) = fields.flatMap (·.line true) ++ last.line false := by
  induction fields with
  | nil => rfl
  | cons field later induction =>
      cases later with
      | nil => simp [writeLines]
      | cons next later =>
          rw [List.cons_append, List.cons_append, writeLines, List.flatMap_cons, List.append_assoc]
          exact congrArg _ induction

/-! ## Reading -/

/-- `safe_read_json`, on the bytes of the file. -/
def safeReadJson (toFloat : Text → Text) (bytes : List UInt8) : Option JsonObject :=
  ((Utf8.decode bytes).bind (JsonDocument.load toFloat)).bind Json.object?

variable {toFloat : Text → Text}

structure Field.Readable (toFloat : Text → Text) (field : Field) : Prop where
  name : Plain field.name
  printed : Denotes toFloat field.printed field.item

/-- The control characters of a text are among those that a program escapes. -/
def Program.Prints (program : Program) (text : Text) : Prop :=
  ∀ char ∈ text, isControl char = true → char ∈ program.escapes

theorem Program.quotes_escaped {program : Program} {text : Text} (prints : program.Prints text) :
    Quotes (program.escaped text) text := by
  intro rest
  apply JsonString.scan_flatMap
  intro char member
  rcases program.treats char with read | spoilt
  · exact read.1
  · exact absurd (prints char member spoilt.2.1) spoilt.2.2

section

variable {name : String} (plain : Plain name.toList)
include plain

theorem Field.readable_natural (value : Nat) : (natural name value).Readable toFloat :=
  ⟨plain, JsonDocument.denotes_decimal toFloat value⟩

theorem Field.readable_integer (value : Int) : (integer name value).Readable toFloat :=
  ⟨plain, JsonDocument.denotes_integer toFloat value⟩

theorem Field.readable_boolean (value : Bool) : (boolean name value).Readable toFloat where
  name := plain
  printed := by
    cases value with
    | false => exact JsonDocument.denotes_false toFloat
    | true => exact JsonDocument.denotes_true toFloat

theorem Field.readable_string {program : Program} {text : Text} (prints : program.Prints text) :
    (string program name text).Readable toFloat :=
  ⟨plain, denotes_string toFloat (Program.quotes_escaped prints)⟩

end

def Field.member (field : Field) (before after : Text) : Member where
  before := before
  key := field.name
  element := { before := [' '], text := field.printed, item := field.item, after := after }

theorem Field.Readable.member {field : Field} (readable : field.Readable toFloat)
    {before after : Text} (first : Blank before) (last : Blank after) :
    (field.member before after).WellFormed toFloat where
  before := first
  key := readable.name
  element :=
    { before := show Blank [' '] by decide
      text := readable.printed
      after := last }

theorem Field.member_write (field : Field) (before after : Text) :
    (field.member before after).write = before ++ field.write ++ after := by
  simp [Field.member, Member.write, Element.write, Field.write, Field.label]

/-! ## Objects on one line -/

def inlineMembers : List Field → List Member
  | [] => []
  | field :: later => field.member [] [] :: later.map fun field => field.member [' '] []

private theorem inlineMembers_write (fields : List Field) :
    '{' :: joinMembers (inlineMembers fields) ++ ['}'] = inlineObject fields := by
  have rest : ∀ (written : Text) (later : List Field),
      [','].intercalate (written :: later.map fun field => (field.member [' '] []).write) =
        ", ".toList.intercalate (written :: later.map Field.write) := by
    intro written later
    induction later generalizing written with
    | nil => simp
    | cons field later induction =>
        have next := induction (' ' :: field.write)
        rw [List.map_cons, List.map_cons, List.intercalate_cons_cons, List.intercalate_cons_cons,
          Field.member_write, List.append_nil, List.singleton_append, next]
        cases later <;> simp [List.intercalate_cons_cons]
  cases fields with
  | nil => rfl
  | cons field later =>
      have whole := rest field.write later
      rw [inlineObject, inlineMembers, joinMembers, List.map_cons, List.map_map,
        Field.member_write, List.append_nil, List.nil_append, List.map_cons]
      exact congrArg (fun text => '{' :: text ++ ['}']) whole

theorem denotes_inlineObject {fields : List Field}
    (readable : ∀ field ∈ fields, field.Readable toFloat)
    (distinct : (fields.map Field.name).Nodup) :
    Denotes toFloat (inlineObject fields) (.object (fields.map Field.entry)) := by
  cases fields with
  | nil => exact @JsonDocument.denotes_empty_object toFloat [] nofun
  | cons field later =>
      rw [← inlineMembers_write]
      have names : (inlineMembers (field :: later)).map Member.key =
          (field :: later).map Field.name := by
        simp [inlineMembers, Field.member, Function.comp_def]
      have entries : (inlineMembers (field :: later)).map Member.entry =
          (field :: later).map Field.entry := by
        simp [inlineMembers, Field.member, Field.entry, Member.entry, Function.comp_def]
      rw [← entries]
      apply denotes_object
      · intro member inside
        rw [inlineMembers] at inside
        cases List.mem_cons.mp inside with
        | inl same =>
            subst same
            exact (readable field List.mem_cons_self).member nofun nofun
        | inr other =>
            rcases List.mem_map.mp other with ⟨field, present, rfl⟩
            exact (readable field (List.mem_cons_of_mem _ present)).member (by decide) nofun
      · exact List.cons_ne_nil _ _
      · rw [names]
        exact distinct

/-! ## Objects on several lines -/

def lineMembers : List Field → List Member
  | [] => []
  | [field] => [field.member ['\n', ' ', ' '] ['\n']]
  | field :: next :: later => field.member ['\n', ' ', ' '] [] :: lineMembers (next :: later)

private theorem joinMembers_lineMembers {fields : List Field} (occupied : fields ≠ []) :
    joinMembers (lineMembers fields) = '\n' :: writeLines fields := by
  induction fields with
  | nil => exact absurd rfl occupied
  | cons field later induction =>
      cases later with
      | nil => simp [joinMembers, lineMembers, writeLines, Field.line, Field.member_write]
      | cons next later =>
          have rest := induction (List.cons_ne_nil _ _)
          have shape : ∃ second third, lineMembers (next :: later) = second :: third := by
            cases later with
            | nil => exact ⟨_, _, rfl⟩
            | cons third later => exact ⟨_, _, rfl⟩
          rcases shape with ⟨second, third, shape⟩
          rw [lineMembers, shape, JsonDocument.joinMembers_cons, ← shape, rest, writeLines,
            Field.member_write]
          simp [Field.line]

theorem lineMembers_key (fields : List Field) :
    (lineMembers fields).map Member.key = fields.map Field.name := by
  induction fields with
  | nil => rfl
  | cons field later induction =>
      cases later with
      | nil => rfl
      | cons next later => exact congrArg (field.name :: ·) induction

private theorem lineMembers_entry (fields : List Field) :
    (lineMembers fields).map Member.entry = fields.map Field.entry := by
  induction fields with
  | nil => rfl
  | cons field later induction =>
      cases later with
      | nil => rfl
      | cons next later => exact congrArg (field.entry :: ·) induction

private theorem lineMembers_wellFormed {fields : List Field}
    (readable : ∀ field ∈ fields, field.Readable toFloat) :
    ∀ member ∈ lineMembers fields, member.WellFormed toFloat := by
  induction fields with
  | nil =>
      intro member inside
      cases inside
  | cons field later induction =>
      have first := readable field List.mem_cons_self
      cases later with
      | nil =>
          intro member inside
          rw [lineMembers, List.mem_singleton] at inside
          subst inside
          exact first.member (by decide) (by decide)
      | cons next later =>
          intro member inside
          rw [lineMembers] at inside
          cases List.mem_cons.mp inside with
          | inl same =>
              subst same
              exact first.member (by decide) nofun
          | inr other =>
              exact induction (fun field present => readable field (List.mem_cons_of_mem _ present))
                member other

theorem safeReadJson_lines {fields : List Field}
    (readable : ∀ field ∈ fields, field.Readable toFloat) (occupied : fields ≠ [])
    (distinct : (fields.map Field.name).Nodup) :
    safeReadJson toFloat (Utf8.encode (['{', '\n'] ++ writeLines fields ++ ['}', '\n'])) =
      some (fields.map Field.entry) := by
  have some : lineMembers fields ≠ [] := by
    intro none
    have keys := lineMembers_key fields
    rw [none] at keys
    exact occupied (List.map_eq_nil_iff.mp keys.symm)
  have denotes := denotes_object (lineMembers_wellFormed readable) some
    (by rw [lineMembers_key]; exact distinct)
  rw [joinMembers_lineMembers occupied, lineMembers_entry] at denotes
  have blank : Blank ['\n'] := by decide
  have loaded := load_of_denotes denotes blank
  have text : ['{', '\n'] ++ writeLines fields ++ ['}', '\n'] =
      '{' :: ('\n' :: writeLines fields) ++ ['}'] ++ ['\n'] := by
    simp
  rw [safeReadJson, text, Utf8.decode_encode, Option.bind_some, loaded]
  rfl

theorem lookup_entry {fields : List Field} (distinct : (fields.map Field.name).Nodup) {field : Field}
    (member : field ∈ fields) : (fields.map Field.entry).lookup field.name = some field.item :=
  Dictionary.lookup_map distinct member

end NetLatencyLab.Statistics
