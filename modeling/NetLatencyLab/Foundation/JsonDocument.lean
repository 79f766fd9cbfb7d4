import NetLatencyLab.Foundation.CommandLine
import NetLatencyLab.Foundation.JsonFiles
import NetLatencyLab.Foundation.JsonString

/-! # JSON documents

A reader of documents as `json.load` has it, and how a text is put together that
it reads as a given value. How a number with a fraction or an exponent becomes a
`float` is a parameter. -/

namespace NetLatencyLab.JsonDocument

open CommandLine (integer)
open JsonFiles (Json JsonObject)
open JsonString (scan)
open PythonText (Text decimal natural)

def isBlank (char : Char) : Bool := char == ' ' || char == '\t' || char == '\n' || char == '\r'

def skipBlanks (text : Text) : Text := text.dropWhile isBlank

/-! ## Numbers -/

/-- `0`, or digits that do not start with it. -/
def integerPart : Text → Option (Text × Text)
  | [] => none
  | char :: rest =>
      if char = '0' then some (['0'], rest)
      else if char.isDigit then
        some (char :: rest.takeWhile Char.isDigit, rest.dropWhile Char.isDigit)
      else none

/-- `(\.\d+)?`. -/
def fractionPart : Text → Text × Text
  | '.' :: rest =>
      match rest.takeWhile Char.isDigit with
      | [] => ([], '.' :: rest)
      | digits => ('.' :: digits, rest.dropWhile Char.isDigit)
  | text => ([], text)

def exponentSign : Text → Text × Text
  | '+' :: rest => (['+'], rest)
  | '-' :: rest => (['-'], rest)
  | text => ([], text)

/-- `([eE][-+]?\d+)?`. -/
def exponentPart : Text → Text × Text
  | [] => ([], [])
  | char :: rest =>
      if char = 'e' ∨ char = 'E' then
        let signed := exponentSign rest
        match signed.2.takeWhile Char.isDigit with
        | [] => ([], char :: rest)
        | digits => (char :: signed.1 ++ digits, signed.2.dropWhile Char.isDigit)
      else ([], char :: rest)

def applySign (sign : Text) (value : Nat) : Int := if sign = [] then value else -(value : Int)

section

variable (toFloat : Text → Text)

def unsigned (sign text : Text) : Option (Json × Text) := do
  let integer ← integerPart text
  let fraction := fractionPart integer.2
  let exponent := exponentPart fraction.2
  if fraction.1 = [] ∧ exponent.1 = [] then
    let value ← natural integer.1
    some (.integer (applySign sign value), exponent.2)
  else some (.float (toFloat (sign ++ integer.1 ++ fraction.1 ++ exponent.1)), exponent.2)

/-! ## Values -/

def behind (word : String) (text : Text) : Option Text :=
  if word.toList.isPrefixOf text then some (text.drop word.toList.length) else none

def constants : List (String × Json) :=
  [("null", .null), ("true", .bool true), ("false", .bool false), ("NaN", .float "nan".toList),
    ("Infinity", .float "inf".toList), ("-Infinity", .float "-inf".toList)]

def scalar (text : Text) : Option (Json × Text) :=
  match constants.findSome? fun constant =>
    (behind constant.1 text).map fun rest => (constant.2, rest) with
  | some read => some read
  | none =>
      match text with
      | '-' :: rest => unsigned toFloat ['-'] rest
      | text => unsigned toFloat [] text

/-- `fields[key] = value`. -/
def setItem (fields : JsonObject) (key : Text) (value : Json) : JsonObject :=
  if fields.any fun field => field.1 == key then
    fields.map fun field => if field.1 = key then (key, value) else field
  else fields ++ [(key, value)]

mutual

/-- A value at the start of a text, and what follows it. Every call reads a
character, so that the length of the text bounds their number. -/
def value : Nat → Text → Option (Json × Text)
  | 0, _ => none
  | fuel + 1, text =>
      match text with
      | '"' :: rest => (scan rest).map fun scanned => (.string scanned.1, scanned.2)
      | '{' :: rest =>
          match skipBlanks rest with
          | '}' :: rest => some (.object [], rest)
          | rest => members fuel [] rest
      | '[' :: rest =>
          match skipBlanks rest with
          | ']' :: rest => some (.array [], rest)
          | rest => elements fuel [] rest
      | text => scalar toFloat text

/-- The members from a key on; `fields` are those before it. -/
def members : Nat → JsonObject → Text → Option (Json × Text)
  | fuel + 1, fields, '"' :: text =>
      match scan text with
      | none => none
      | some (key, rest) =>
          match skipBlanks rest with
          | ':' :: rest =>
              match value fuel (skipBlanks rest) with
              | none => none
              | some (item, rest) =>
                  match skipBlanks rest with
                  | '}' :: rest => some (.object (setItem fields key item), rest)
                  | ',' :: rest => members fuel (setItem fields key item) (skipBlanks rest)
                  | _ => none
          | _ => none
  | _, _, _ => none

/-- The elements from one on; `items` are those before it. -/
def elements : Nat → List Json → Text → Option (Json × Text)
  | 0, _, _ => none
  | fuel + 1, items, text =>
      match value fuel text with
      | none => none
      | some (item, rest) =>
          match skipBlanks rest with
          | ']' :: rest => some (.array (items ++ [item]), rest)
          | ',' :: rest => elements fuel (items ++ [item]) (skipBlanks rest)
          | _ => none

end

/-- `json.load`: one value with nothing but blanks around it. -/
def load (text : Text) : Option Json :=
  match value toFloat (text.length + 1) (skipBlanks text) with
  | some (read, rest) => if skipBlanks rest = [] then some read else none
  | none => none

end

/-! ## Digits -/

def Stops (rest : Text) : Prop :=
  ∀ char ∈ rest.head?, char.isDigit = false ∧ char ≠ '.' ∧ char ≠ 'e' ∧ char ≠ 'E'

private theorem stops_cons {char : Char} (plain : char ∈ [',', '}', ']', ' ', '\n']) (rest : Text) :
    Stops (char :: rest) := by
  intro other member
  rw [List.head?_cons, Option.mem_some_iff] at member
  subst member
  simp only [List.mem_cons, List.not_mem_nil, or_false] at plain
  rcases plain with same | same | same | same | same
  all_goals
    subst same
    decide

theorem takeWhile_digits {digits rest : Text} (all : ∀ char ∈ digits, char.isDigit)
    (stops : ∀ char ∈ rest.head?, char.isDigit = false) :
    (digits ++ rest).takeWhile Char.isDigit = digits ∧
      (digits ++ rest).dropWhile Char.isDigit = rest := by
  rw [List.takeWhile_append_of_pos all, List.dropWhile_append_of_pos all]
  cases rest with
  | nil => exact ⟨List.append_nil _, rfl⟩
  | cons char rest =>
      have other : ¬ char.isDigit = true := by
        rw [stops char rfl]
        exact Bool.false_ne_true
      rw [List.takeWhile_cons_of_neg other, List.dropWhile_cons_of_neg other]
      exact ⟨List.append_nil _, rfl⟩

private theorem decimal_head (value : Nat) :
    decimal value = ['0'] ∨ ∃ char rest, decimal value = char :: rest ∧ char ≠ '0' := by
  induction value using Nat.strongRecOn with
  | ind value induction =>
      by_cases small : value < 10
      · rw [decimal, Nat.toDigits_of_lt_base small]
        have table : ∀ digit : Fin 10, digit.val = 0 ∨ Nat.digitChar digit ≠ '0' := by decide
        cases table ⟨value, small⟩ with
        | inl zero =>
            left
            dsimp only at zero
            rw [zero]
            rfl
        | inr other => exact .inr ⟨_, [], rfl, other⟩
      · right
        have large : 10 ≤ value := Nat.le_of_not_lt small
        rw [decimal, Nat.toDigits_of_base_le (by decide) large]
        cases induction (value / 10) (by omega) with
        | inl zero =>
            have read := PythonText.natural_decimal (value / 10)
            rw [zero] at read
            have none : 0 = value / 10 := Option.some.inj read
            omega
        | inr first =>
            rcases first with ⟨char, rest, digits, nonzero⟩
            rw [decimal] at digits
            rw [digits]
            exact ⟨char, _, rfl, nonzero⟩

theorem integerPart_decimal (value : Nat) {rest : Text}
    (stops : ∀ char ∈ rest.head?, char.isDigit = false) :
    integerPart (decimal value ++ rest) = some (decimal value, rest) := by
  cases decimal_head value with
  | inl zero =>
      rw [zero]
      rfl
  | inr first =>
      rcases first with ⟨char, digits, printed, nonzero⟩
      have all : ∀ other ∈ char :: digits, other.isDigit := by
        rw [← printed]
        exact fun other member => PythonText.isDigit_of_mem_decimal member
      have digit := all char List.mem_cons_self
      have split := @takeWhile_digits digits rest
        (fun other member => all other (List.mem_cons_of_mem _ member)) stops
      rw [printed, List.cons_append, integerPart, if_neg nonzero, if_pos digit, split.1, split.2]

private theorem fractionPart_of_stops {rest : Text} (stops : Stops rest) :
    fractionPart rest = ([], rest) := by
  cases rest with
  | nil => rfl
  | cons char rest =>
      have other := (stops char rfl).2.1
      rw [fractionPart.eq_2]
      intro tail same
      exact other (List.cons.inj same).1

theorem exponentPart_of_stops {rest : Text} (stops : Stops rest) :
    exponentPart rest = ([], rest) := by
  cases rest with
  | nil => rfl
  | cons char rest =>
      rcases stops char rfl with ⟨-, -, small, large⟩
      rw [exponentPart, if_neg (not_or.mpr ⟨small, large⟩)]

private theorem fractionPart_digits {digits rest : Text} (all : ∀ char ∈ digits, char.isDigit)
    (occupied : digits ≠ []) (stops : Stops rest) :
    fractionPart ('.' :: (digits ++ rest)) = ('.' :: digits, rest) := by
  have split := takeWhile_digits all fun char member => (stops char member).1
  rw [fractionPart, split.1, split.2]
  cases digits with
  | nil => exact absurd rfl occupied
  | cons char digits => rfl

section

variable (toFloat : Text → Text)

theorem unsigned_decimal (sign : Text) (number : Nat) {rest : Text} (stops : Stops rest) :
    unsigned toFloat sign (decimal number ++ rest) =
      some (.integer (applySign sign number), rest) := by
  have integer := integerPart_decimal number fun char member => (stops char member).1
  simp only [unsigned, integer, Option.bind_eq_bind, Option.bind_some, fractionPart_of_stops stops,
    exponentPart_of_stops stops, and_self, if_true, PythonText.natural_decimal]

private theorem unsigned_fixed (sign : Text) (number : Nat) {digits rest : Text}
    (all : ∀ char ∈ digits, char.isDigit) (occupied : digits ≠ []) (stops : Stops rest) :
    unsigned toFloat sign (decimal number ++ '.' :: digits ++ rest) =
      some (.float (toFloat (sign ++ decimal number ++ '.' :: digits)), rest) := by
  have integer : integerPart (decimal number ++ '.' :: (digits ++ rest)) =
      some (decimal number, '.' :: (digits ++ rest)) := by
    apply integerPart_decimal
    intro char member
    rw [List.head?_cons, Option.mem_some_iff] at member
    subst member
    rfl
  rw [List.append_assoc, List.cons_append]
  simp only [unsigned, integer, Option.bind_eq_bind, Option.bind_some,
    fractionPart_digits all occupied stops, exponentPart_of_stops stops, List.cons_ne_nil,
    false_and, if_false, List.append_nil]

/-! ## Texts of values -/

/-- Whatever follows that cannot belong to it, `text` is read as `read`. -/
def Denotes (text : Text) (read : Json) : Prop :=
  ∀ fuel rest, text.length ≤ fuel → Stops rest → value toFloat fuel (text ++ rest) = some (read, rest)

private theorem value_scalar {char : Char}
    (plain : char ≠ '"' ∧ char ≠ '{' ∧ char ≠ '[') (fuel : Nat)
    (rest : Text) : value toFloat (fuel + 1) (char :: rest) = scalar toFloat (char :: rest) := by
  rw [value.eq_def]
  simp only
  split
  next same => exact absurd (List.cons.inj same).1 plain.1
  next same => exact absurd (List.cons.inj same).1 plain.2.1
  next same => exact absurd (List.cons.inj same).1 plain.2.2
  · rfl

theorem denotes_of_scalar {char : Char} {text : Text} {read : Json}
    (plain : char ≠ '"' ∧ char ≠ '{' ∧ char ≠ '[')
    (scans : ∀ rest, Stops rest → scalar toFloat (char :: text ++ rest) = some (read, rest)) :
    Denotes toFloat (char :: text) read := by
  intro fuel rest enough stops
  cases fuel with
  | zero => cases enough
  | succ fuel =>
      rw [List.cons_append, value_scalar toFloat plain]
      exact scans rest stops

theorem denotes_true : Denotes toFloat "true".toList (.bool true) :=
  denotes_of_scalar toFloat (by decide) fun _ _ => rfl

theorem denotes_false : Denotes toFloat "false".toList (.bool false) :=
  denotes_of_scalar toFloat (by decide) fun _ _ => rfl

theorem ne_of_isDigit {char other : Char} (digit : char.isDigit) (letter : other.isDigit = false) :
    char ≠ other := by
  intro same
  rw [same, letter] at digit
  cases digit

private theorem scalar_digit {char : Char} (digit : char.isDigit) (rest : Text) :
    scalar toFloat (char :: rest) = unsigned toFloat [] (char :: rest) := by
  have first : char ≠ 'n' := ne_of_isDigit digit rfl
  have second : char ≠ 't' := ne_of_isDigit digit rfl
  have third : char ≠ 'f' := ne_of_isDigit digit rfl
  have fourth : char ≠ 'N' := ne_of_isDigit digit rfl
  have fifth : char ≠ 'I' := ne_of_isDigit digit rfl
  have sixth : char ≠ '-' := ne_of_isDigit digit rfl
  simp [scalar, constants, behind, first.symm, second.symm, third.symm, fourth.symm, fifth.symm,
    sixth.symm, sixth]

private theorem scalar_minus {char : Char} (digit : char.isDigit) (rest : Text) :
    scalar toFloat ('-' :: char :: rest) = unsigned toFloat ['-'] (char :: rest) := by
  have first : char ≠ 'I' := ne_of_isDigit digit rfl
  simp [scalar, constants, behind, first.symm]

theorem decimal_cons (number : Nat) :
    ∃ char digits, decimal number = char :: digits ∧ char.isDigit := by
  cases printed : decimal number with
  | nil => exact absurd printed (PythonText.decimal_ne_nil number)
  | cons char digits =>
      refine ⟨char, digits, rfl, ?_⟩
      have member : char ∈ decimal number := by
        rw [printed]
        exact List.mem_cons_self
      exact PythonText.isDigit_of_mem_decimal member

theorem denotes_of_unsigned {number : Nat} {tail : Text} {read : Json}
    (scans : ∀ rest, Stops rest →
      unsigned toFloat [] (decimal number ++ (tail ++ rest)) = some (read, rest)) :
    Denotes toFloat (decimal number ++ tail) read := by
  rcases decimal_cons number with ⟨char, digits, printed, digit⟩
  rw [printed] at scans ⊢
  apply denotes_of_scalar toFloat
  · exact ⟨ne_of_isDigit digit rfl, ne_of_isDigit digit rfl, ne_of_isDigit digit rfl⟩
  · intro rest stops
    rw [List.cons_append, scalar_digit toFloat digit]
    simpa using scans rest stops

theorem denotes_decimal (number : Nat) : Denotes toFloat (decimal number) (.integer number) := by
  rw [← List.append_nil (decimal number)]
  apply denotes_of_unsigned
  intro rest stops
  exact unsigned_decimal toFloat [] number stops

theorem denotes_fixed (number : Nat) {digits : Text} (all : ∀ char ∈ digits, char.isDigit)
    (occupied : digits ≠ []) :
    Denotes toFloat (decimal number ++ '.' :: digits)
      (.float (toFloat (decimal number ++ '.' :: digits))) := by
  apply denotes_of_unsigned
  intro rest stops
  rw [← List.append_assoc]
  exact unsigned_fixed toFloat [] number all occupied stops

theorem denotes_integer (number : Int) : Denotes toFloat (integer number) (.integer number) := by
  cases number with
  | ofNat number => exact denotes_decimal toFloat number
  | negSucc number =>
      rcases decimal_cons (number + 1) with ⟨char, digits, printed, digit⟩
      rw [integer, printed]
      apply denotes_of_scalar toFloat (by decide)
      intro rest stops
      have scans := unsigned_decimal toFloat ['-'] (number + 1) stops
      rw [printed] at scans
      rw [List.cons_append, List.cons_append, scalar_minus toFloat digit]
      exact scans

/-! ## Strings -/

/-- Before a closing quote `body` is read as `text`. -/
def Quotes (body text : Text) : Prop := ∀ rest, scan (body ++ '"' :: rest) = some (text, rest)

def Plain (text : Text) : Prop :=
  ∀ char ∈ text, char ≠ '"' ∧ char ≠ '\\' ∧ JsonString.isControl char = false

instance (text : Text) : Decidable (Plain text) := List.decidableBAll _ text

theorem quotes_plain {text : Text} (plain : Plain text) : Quotes text text := by
  intro rest
  have denotes : ∀ char ∈ text, JsonString.Denotes [char] char := fun char member =>
    JsonString.scan_plain (plain char member).1 (plain char member).2.1 (plain char member).2.2
  have scans := @JsonString.scan_flatMap (fun char => [char]) text denotes rest
  rw [List.flatMap_singleton'] at scans
  exact scans

theorem denotes_string {body text : Text} (quotes : Quotes body text) :
    Denotes toFloat ('"' :: body ++ ['"']) (.string text) := by
  intro fuel rest enough _
  cases fuel with
  | zero => cases enough
  | succ fuel =>
      have scans := quotes rest
      rw [List.cons_append, List.cons_append, List.append_assoc, List.singleton_append, value,
        scans]
      rfl

/-! ## Blanks -/

def Blank (text : Text) : Prop := ∀ char ∈ text, isBlank char

instance (text : Text) : Decidable (Blank text) := List.decidableBAll _ text

theorem skipBlanks_append {blanks : Text} (blank : Blank blanks) (rest : Text) :
    skipBlanks (blanks ++ rest) = skipBlanks rest :=
  List.dropWhile_append_of_pos blank

theorem skipBlanks_cons {char : Char} (visible : isBlank char = false) (rest : Text) :
    skipBlanks (char :: rest) = char :: rest := by
  apply List.dropWhile_cons_of_neg
  rw [visible]
  exact Bool.false_ne_true

private theorem not_isDigit_of_isBlank {char : Char} (blank : isBlank char) :
    char.isDigit = false ∧ char ≠ '.' ∧ char ≠ 'e' ∧ char ≠ 'E' := by
  simp only [isBlank, Bool.or_eq_true, beq_iff_eq] at blank
  rcases blank with ((same | same) | same) | same
  all_goals
    subst same
    decide

theorem stops_blanks {blanks rest : Text} (blank : Blank blanks) (stops : Stops rest) :
    Stops (blanks ++ rest) := by
  cases blanks with
  | nil => exact stops
  | cons char blanks =>
      intro other member
      rw [List.cons_append, List.head?_cons, Option.mem_some_iff] at member
      subst member
      exact not_isDigit_of_isBlank (blank char List.mem_cons_self)

theorem Denotes.head {text : Text} {read : Json} (denotes : Denotes toFloat text read) :
    ∃ char rest, text = char :: rest ∧ isBlank char = false := by
  have stops : Stops [] := nofun
  cases text with
  | nil =>
      have none := denotes 0 [] (Nat.le_refl _) stops
      cases none
  | cons char rest =>
      refine ⟨char, rest, rfl, ?_⟩
      by_contra blank
      have blank : isBlank char := by simpa using blank
      have whole := denotes (rest.length + 1) [] (Nat.le_refl _) stops
      simp only [isBlank, Bool.or_eq_true, beq_iff_eq] at blank
      have refused : value toFloat (rest.length + 1) (char :: rest ++ []) = none := by
        rcases blank with ((same | same) | same) | same
        all_goals
          subst same
          rfl
      rw [refused] at whole
      cases whole

theorem Denotes.skipBlanks {text : Text} {read : Json} (denotes : Denotes toFloat text read)
    (rest : Text) : skipBlanks (text ++ rest) = text ++ rest := by
  rcases denotes.head with ⟨char, tail, rfl, visible⟩
  exact skipBlanks_cons visible _

/-! ## Objects and arrays -/

structure Element where
  before : Text := []
  text : Text
  item : Json
  after : Text := []

def Element.write (element : Element) : Text := element.before ++ element.text ++ element.after

structure Element.WellFormed (element : Element) : Prop where
  before : Blank element.before
  text : Denotes toFloat element.text element.item
  after : Blank element.after

structure Member where
  before : Text := []
  key : Text
  element : Element

def Member.write (member : Member) : Text :=
  member.before ++ '"' :: member.key ++ '"' :: ':' :: member.element.write

def Member.entry (member : Member) : Text × Json := (member.key, member.element.item)

structure Member.WellFormed (member : Member) : Prop where
  before : Blank member.before
  key : Plain member.key
  element : member.element.WellFormed toFloat

def isCloser (char : Char) : Bool := char == ',' || char == '}' || char == ']'

private theorem isCloser_visible {char : Char} (closer : isCloser char) : isBlank char = false := by
  simp only [isCloser, Bool.or_eq_true, beq_iff_eq] at closer
  rcases closer with (same | same) | same
  all_goals
    subst same
    rfl

private theorem stops_closer {char : Char} (closer : isCloser char) (rest : Text) :
    Stops (char :: rest) := by
  simp only [isCloser, Bool.or_eq_true, beq_iff_eq] at closer
  rcases closer with (same | same) | same
  all_goals
    subst same
    exact stops_cons (by decide) rest

variable {toFloat}

theorem Element.WellFormed.read {element : Element} (wellFormed : element.WellFormed toFloat)
    {char : Char} (closer : isCloser char) {fuel : Nat} (enough : element.write.length ≤ fuel)
    (rest : Text) :
    value toFloat fuel (JsonDocument.skipBlanks (element.write ++ char :: rest)) =
        some (element.item, element.after ++ char :: rest) ∧
      JsonDocument.skipBlanks (element.after ++ char :: rest) = char :: rest := by
  have stops : Stops (element.after ++ char :: rest) :=
    stops_blanks wellFormed.after (stops_closer closer rest)
  constructor
  · rw [Element.write, List.length_append, List.length_append] at enough
    rw [Element.write, List.append_assoc, List.append_assoc, skipBlanks_append wellFormed.before,
      wellFormed.text.skipBlanks]
    exact wellFormed.text fuel _ (by omega) stops
  · rw [skipBlanks_append wellFormed.after, skipBlanks_cons (isCloser_visible closer)]

theorem setItem_of_fresh {fields : JsonObject} {key : Text} (fresh : key ∉ fields.map Prod.fst)
    (item : Json) : setItem fields key item = fields ++ [(key, item)] := by
  rw [setItem, if_neg]
  intro present
  rcases List.any_eq_true.mp present with ⟨field, member, same⟩
  apply fresh
  rw [← beq_iff_eq.mp same]
  exact List.mem_map_of_mem member

theorem Member.WellFormed.read {member : Member} (wellFormed : member.WellFormed toFloat)
    {char : Char} (closer : isCloser char) {fuel : Nat} (enough : member.write.length ≤ fuel + 1)
    (fields : JsonObject) (rest : Text) :
    members toFloat (fuel + 1) fields
        (JsonDocument.skipBlanks (member.write ++ char :: rest)) =
      match char :: rest with
      | '}' :: rest => some (.object (setItem fields member.key member.element.item), rest)
      | ',' :: rest =>
          members toFloat fuel (setItem fields member.key member.element.item)
            (JsonDocument.skipBlanks rest)
      | _ => none := by
  have long : member.element.write.length ≤ fuel := by
    simp only [Member.write, List.length_append, List.length_cons] at enough
    omega
  have split : member.write ++ char :: rest = member.before ++
      '"' :: (member.key ++ '"' :: ':' :: (member.element.write ++ char :: rest)) := by
    simp [Member.write]
  have colon : ∀ text, JsonDocument.skipBlanks (':' :: text) = ':' :: text :=
    skipBlanks_cons rfl
  rcases wellFormed.element.read closer long rest with ⟨item, behind⟩
  rw [split, skipBlanks_append wellFormed.before, skipBlanks_cons rfl, members]
  simp only [quotes_plain wellFormed.key _, colon, item, behind]
  rfl

def joinMembers (written : List Member) : Text := [','].intercalate (written.map Member.write)

theorem joinMembers_cons (first second : Member) (later : List Member) :
    joinMembers (first :: second :: later) = first.write ++ ',' :: joinMembers (second :: later) := by
  simp [joinMembers, List.intercalate_cons_cons]

private theorem joinMembers_singleton (member : Member) : joinMembers [member] = member.write := by
  simp [joinMembers]

private theorem members_read {written : List Member} (wellFormed : ∀ member ∈ written,
    member.WellFormed toFloat) (occupied : written ≠ []) {fields : JsonObject}
    (distinct : (fields.map Prod.fst ++ written.map Member.key).Nodup) {fuel : Nat}
    (enough : (joinMembers written).length ≤ fuel) (rest : Text) :
    members toFloat fuel fields
        (JsonDocument.skipBlanks (joinMembers written ++ '}' :: rest)) =
      some (.object (fields ++ written.map Member.entry), rest) := by
  induction written generalizing fields fuel with
  | nil => exact absurd rfl occupied
  | cons first later induction =>
      have fresh : first.key ∉ fields.map Prod.fst := by
        intro member
        rw [List.map_cons, List.nodup_append] at distinct
        exact distinct.2.2 _ member _ List.mem_cons_self rfl
      have positive : 0 < first.write.length := by
        simp only [Member.write, List.length_append, List.length_cons]
        omega
      cases later with
      | nil =>
          rw [joinMembers_singleton] at enough ⊢
          cases fuel with
          | zero => omega
          | succ fuel =>
              rw [(wellFormed first List.mem_cons_self).read rfl enough]
              simp only [setItem_of_fresh fresh]
              rfl
      | cons second later =>
          rw [joinMembers_cons, List.length_append, List.length_cons] at enough
          have apart : ((fields ++ [first.entry]).map Prod.fst ++
              (second :: later).map Member.key).Nodup := by
            simpa [Member.entry] using distinct
          rw [joinMembers_cons, List.append_assoc, List.cons_append]
          cases fuel with
          | zero => omega
          | succ fuel =>
              have short : (joinMembers (second :: later)).length ≤ fuel := by omega
              have read := induction
                (fun member inside => wellFormed member (List.mem_cons_of_mem _ inside))
                (List.cons_ne_nil _ _) apart short
              rw [(wellFormed first List.mem_cons_self).read rfl (by omega)]
              simp only [setItem_of_fresh fresh]
              rw [Member.entry] at read
              rw [read]
              simp [Member.entry]

theorem denotes_object {written : List Member}
    (wellFormed : ∀ member ∈ written, member.WellFormed toFloat) (occupied : written ≠ [])
    (distinct : (written.map Member.key).Nodup) :
    Denotes toFloat ('{' :: joinMembers written ++ ['}']) (.object (written.map Member.entry)) := by
  intro fuel rest enough _
  cases fuel with
  | zero => cases enough
  | succ fuel =>
      have short : (joinMembers written).length ≤ fuel := by
        simp only [List.cons_append, List.length_cons, List.length_append, List.length_nil] at enough
        omega
      have apart : (([] : JsonObject).map Prod.fst ++ written.map Member.key).Nodup := distinct
      have read := members_read wellFormed occupied apart short rest
      rw [List.nil_append] at read
      rw [List.cons_append, List.cons_append, List.append_assoc, List.singleton_append, value]
      split
      next closed =>
        rw [closed] at read
        cases fuel with
        | zero => cases read
        | succ fuel => cases read
      · exact read

theorem denotes_empty_object {blanks : Text} (blank : Blank blanks) :
    Denotes toFloat ('{' :: blanks ++ ['}']) (.object []) := by
  intro fuel rest enough _
  cases fuel with
  | zero => cases enough
  | succ fuel =>
      rw [List.cons_append, List.cons_append, List.append_assoc, List.singleton_append, value,
        skipBlanks_append blank, skipBlanks_cons rfl]
      rfl

def joinElements (written : List Element) : Text := [','].intercalate (written.map Element.write)

theorem joinElements_cons (first second : Element) (later : List Element) :
    joinElements (first :: second :: later) =
      first.write ++ ',' :: joinElements (second :: later) := by
  simp [joinElements, List.intercalate_cons_cons]

private theorem elements_read {written : List Element}
    (wellFormed : ∀ element ∈ written, element.WellFormed toFloat) (occupied : written ≠ [])
    {items : List Json} {fuel : Nat} (enough : (joinElements written).length < fuel) (rest : Text) :
    elements toFloat fuel items (JsonDocument.skipBlanks (joinElements written ++ ']' :: rest)) =
      some (.array (items ++ written.map Element.item), rest) := by
  induction written generalizing items fuel with
  | nil => exact absurd rfl occupied
  | cons first later induction =>
      have here := wellFormed first List.mem_cons_self
      cases later with
      | nil =>
          have single : joinElements [first] = first.write := by simp [joinElements]
          rw [single] at enough ⊢
          cases fuel with
          | zero => omega
          | succ fuel =>
              have closer : isCloser ']' := rfl
              rcases here.read closer (Nat.le_of_lt_succ enough) rest with ⟨item, behind⟩
              rw [elements, item]
              simp only [behind]
              rfl
      | cons second later =>
          rw [joinElements_cons, List.length_append, List.length_cons] at enough
          rw [joinElements_cons, List.append_assoc, List.cons_append]
          cases fuel with
          | zero => omega
          | succ fuel =>
              have closer : isCloser ',' := rfl
              have long : first.write.length ≤ fuel := by omega
              have short : (joinElements (second :: later)).length < fuel := by omega
              rcases here.read closer long (joinElements (second :: later) ++ ']' :: rest) with
                ⟨item, behind⟩
              have read := @induction
                (fun element inside => wellFormed element (List.mem_cons_of_mem _ inside))
                (List.cons_ne_nil _ _) (items ++ [first.item]) fuel short
              rw [elements, item]
              simp only [behind, read]
              simp

private theorem elements_closed (fuel : Nat) (items : List Json) (rest : Text) :
    elements toFloat fuel items (']' :: rest) = none := by
  cases fuel with
  | zero => rfl
  | succ fuel =>
      cases fuel with
      | zero => rfl
      | succ fuel => rfl

theorem denotes_array {written : List Element}
    (wellFormed : ∀ element ∈ written, element.WellFormed toFloat) (occupied : written ≠ []) :
    Denotes toFloat ('[' :: joinElements written ++ [']']) (.array (written.map Element.item)) := by
  intro fuel rest enough _
  cases fuel with
  | zero => cases enough
  | succ fuel =>
      have short : (joinElements written).length < fuel := by
        simp only [List.cons_append, List.length_cons, List.length_append, List.length_nil] at enough
        omega
      have read := @elements_read toFloat written wellFormed occupied [] fuel short rest
      rw [List.nil_append] at read
      rw [List.cons_append, List.cons_append, List.append_assoc, List.singleton_append, value]
      split
      next closed =>
        rw [closed, elements_closed] at read
        cases read
      · exact read

theorem load_of_denotes {text : Text} {read : Json} (denotes : Denotes toFloat text read)
    {blanks : Text} (blank : Blank blanks) : load toFloat (text ++ blanks) = some read := by
  have stops : Stops blanks := by
    have trailing := @stops_blanks blanks [] blank nofun
    rwa [List.append_nil] at trailing
  have whole := denotes ((text ++ blanks).length + 1) blanks (by rw [List.length_append]; omega)
    stops
  have behind := skipBlanks_append blank []
  rw [List.append_nil] at behind
  rw [load, denotes.skipBlanks, whole]
  simp only [behind]
  rfl

end

end NetLatencyLab.JsonDocument
