import NetLatencyLab.Foundation.PythonText

/-! # Files of JSON

Paths as `pathlib` joins them, JSON values as `json.loads` returns them, and the
files of a directory tree as far as a reader of such files sees them. -/

namespace NetLatencyLab.JsonFiles

open PythonText (Text)

/-! ## Paths -/

/-- A `PurePosixPath`: the slashes it starts with and the names between the others. -/
structure Path where
  root : Text
  parts : List Text
deriving DecidableEq

def rootOf : Text → Text
  | ['/', '/'] => ['/', '/']
  | '/' :: '/' :: char :: _ => if char = '/' then ['/'] else ['/', '/']
  | '/' :: _ => ['/']
  | _ => []

def Path.ofText (text : Text) : Path where
  root := rootOf text
  parts := (text.splitOn '/').filter fun part => part ≠ [] ∧ part ≠ ['.']

/-- `path / name`. -/
def Path.join (path : Path) (name : Text) : Path :=
  let other := Path.ofText name
  if other.root ≠ [] then other else { path with parts := path.parts ++ other.parts }

def Path.name (path : Path) : Text := path.parts.getLast?.getD []

def Path.parent (path : Path) : Path := { path with parts := path.parts.dropLast }

def Path.withName (path : Path) (name : Text) : Path :=
  { path with parts := path.parts.dropLast ++ [name] }

/-- `str(path)`. -/
def Path.text (path : Path) : Text :=
  match path.root ++ ['/'].intercalate path.parts with
  | [] => ['.']
  | text => text

example : ((Path.ofText "a//b/./c".toList).join "d_meta.json".toList).parent.text =
    "a/b/c".toList := by decide +kernel

/-! ## Paths of names -/

structure IsName (name : Text) : Prop where
  some : name ≠ []
  named : name ≠ ['.']
  simple : '/' ∉ name

private theorem rootOf_eq_nil {text : Text} (relative : text.head? ≠ some '/') :
    rootOf text = [] := by
  cases text with
  | nil => rfl
  | cons char rest =>
      have other : char ≠ '/' := fun same => relative (congrArg some same)
      rw [rootOf.eq_def]
      split
      · simp_all
      · simp_all
      · simp_all
      · rfl

theorem ofText_intercalate {names : List Text} (occupied : names ≠ [])
    (all : ∀ name ∈ names, IsName name) :
    Path.ofText (['/'].intercalate names) = ⟨[], names⟩ := by
  have parts : (['/'].intercalate names).splitOn '/' = names :=
    List.splitOn_intercalate '/' (fun name member => (all name member).simple) occupied
  have kept : (names.filter fun part => part ≠ [] ∧ part ≠ ['.']) = names := by
    rw [List.filter_eq_self]
    intro name member
    simp [(all name member).some, (all name member).named]
  have relative : (['/'].intercalate names).head? ≠ some '/' := by
    rcases List.exists_cons_of_ne_nil occupied with ⟨first, others, split⟩
    have isName := all first (split ▸ List.mem_cons_self)
    rcases List.exists_cons_of_ne_nil isName.some with ⟨char, rest, spelled⟩
    have leads : (['/'].intercalate names).head? = some char := by
      rw [split, spelled]
      cases others with
      | nil => simp
      | cons second others => simp [List.intercalate]
    rw [leads]
    intro slash
    apply isName.simple
    rw [spelled, ← Option.some.inj slash]
    exact List.mem_cons_self
  rw [Path.ofText, parts, kept, rootOf_eq_nil relative]

section

variable (path : Path) {directory name other : Text}

theorem join_name (isName : IsName name) :
    path.join name = { path with parts := path.parts ++ [name] } := by
  have whole : Path.ofText name = ⟨[], [name]⟩ := by
    have all : ∀ part ∈ [name], IsName part := by simpa using isName
    simpa using ofText_intercalate (List.cons_ne_nil _ _) all
  rw [Path.join, whole]
  simp

theorem join_file (isDirectory : IsName directory) (isName : IsName name) :
    path.join (directory ++ '/' :: name) =
      { path with parts := path.parts ++ [directory, name] } := by
  have whole : Path.ofText (directory ++ '/' :: name) = ⟨[], [directory, name]⟩ := by
    have all : ∀ part ∈ [directory, name], IsName part := by simpa using ⟨isDirectory, isName⟩
    simpa [List.intercalate] using ofText_intercalate (List.cons_ne_nil _ _) all
  rw [Path.join, whole]
  simp

theorem name_join_file (isDirectory : IsName directory) (isName : IsName name) :
    (path.join (directory ++ '/' :: name)).name = name := by
  rw [join_file path isDirectory isName, Path.name]
  simp

theorem withName_join_file (isDirectory : IsName directory) (isName : IsName name)
    (isOther : IsName other) : (path.join (directory ++ '/' :: name)).withName other =
      path.join (directory ++ '/' :: other) := by
  rw [join_file path isDirectory isName, join_file path isDirectory isOther, Path.withName]
  simp

theorem parent_join_file (isDirectory : IsName directory) (isName : IsName name)
    (isOther : IsName other) : (path.join (directory ++ '/' :: name)).parent.join other =
      path.join (directory ++ '/' :: other) := by
  rw [join_name _ isOther, join_file path isDirectory isName,
    join_file path isDirectory isOther, Path.parent]
  simp

end

/-! ## Values -/

/-- A value that `json.loads` returns. -/
inductive Json
  | null
  | bool (value : Bool)
  | integer (value : Int)
  /-- A `float`, by its `repr`. -/
  | float (text : Text)
  | string (text : Text)
  | array (values : List Json)
  | object (fields : List (Text × Json))

abbrev JsonObject := List (Text × Json)

/-- `fields.get(key)`; what is missing is `None`. -/
def get (fields : JsonObject) (key : String) : Json := (fields.lookup key.toList).getD .null

/-- The value when it is a `str`. -/
def Json.string? : Json → Option Text
  | .string text => some text
  | _ => none

/-- The value when it is a `dict`. -/
def Json.object? : Json → Option JsonObject
  | .object fields => some fields
  | _ => none

/-- The value when it is a `list`. -/
def Json.array? : Json → Option (List Json)
  | .array values => some values
  | _ => none

/-- The value when it is an `int`, and not a `bool`. -/
def Json.integer? : Json → Option Int
  | .integer value => some value
  | _ => none

/-- `value is True`. -/
def Json.isTrue : Json → Bool
  | .bool value => value
  | _ => false

/-! ## Files -/

structure File where
  /-- The file itself: what different paths to it have in common. -/
  inode : Nat
  size : Nat
  /-- `json.loads` of its text, or the exception that reading or decoding it raises. -/
  json : Except Text Json

def File.object? (file : File) : Option JsonObject := file.json.toOption.bind Json.object?

structure FileSystem where
  isDirectory : Path → Bool
  file : Path → Option File
  resolve : Path → Path

end NetLatencyLab.JsonFiles
