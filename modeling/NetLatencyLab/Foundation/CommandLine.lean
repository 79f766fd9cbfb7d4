import NetLatencyLab.Foundation.DecimalText
import NetLatencyLab.Foundation.Fallible
import Mathlib.Algebra.Order.Ring.Int
import Mathlib.Data.Rat.Defs

/-! # Command lines

Long options and numbers as a C++ program reads them, and integers as Python
prints them. -/

namespace NetLatencyLab.CommandLine

open PythonText (Text decimal)

/-! ## Numbers -/

/-- A `double`; the finite ones are exact. -/
inductive Double
  | finite (value : ℚ)
  | infinite (negative : Bool)
  | nan
deriving DecidableEq

/-- `str` of an integer. -/
def integer : Int → Text
  | .ofNat value => decimal value
  | .negSucc value => '-' :: decimal (value + 1)

/-- `std::from_chars` to an unsigned type with this largest value, if it reads the
whole text. -/
def fromChars (largest : Nat) (text : Text) : Option Nat :=
  if text ≠ [] ∧ text.all Char.isDigit then
    if Nat.ofDigitChars 10 text 0 ≤ largest then some (Nat.ofDigitChars 10 text 0) else none
  else none

def largestInt : Nat := 2 ^ 31 - 1

def largestU32 : Nat := 2 ^ 32 - 1

def largestU64 : Nat := 2 ^ 64 - 1

/-- `std::from_chars` to `int`, if it reads the whole text. -/
def fromCharsInt : Text → Option Int
  | '-' :: digits => (fromChars (largestInt + 1) digits).map fun value => -(value : Int)
  | digits => (fromChars largestInt digits).map Int.ofNat

theorem fromChars_decimal (largest value : Nat) :
    fromChars largest (decimal value) = if value ≤ largest then some value else none := by
  have digits : (decimal value).all Char.isDigit := by
    rw [List.all_eq_true]
    exact fun char member => PythonText.isDigit_of_mem_decimal member
  have read : Nat.ofDigitChars 10 (decimal value) 0 = value := Nat.ofDigitChars_ten_toDigits
  rw [fromChars, if_pos ⟨PythonText.decimal_ne_nil value, digits⟩, read]

private theorem fromChars_negative (largest : Nat) (text : Text) :
    fromChars largest ('-' :: text) = none :=
  if_neg fun digits => by cases digits.2

private theorem fromChars_integer (largest : Nat) (value : Int) :
    fromChars largest (integer value) =
      if 0 ≤ value ∧ value ≤ largest then some value.toNat else none := by
  cases value with
  | ofNat value =>
      rw [integer, fromChars_decimal]
      by_cases fits : value ≤ largest
      · rw [if_pos fits, if_pos ⟨Int.natCast_nonneg value, Int.ofNat_le.mpr fits⟩]
        rfl
      · rw [if_neg fits, if_neg fun range => fits (Int.ofNat_le.mp range.2)]
  | negSucc value =>
      rw [integer, fromChars_negative, if_neg]
      intro range
      exact absurd range.1 (Int.not_le.mpr (Int.negSucc_lt_zero value))

theorem fromChars_range {Result : Type} {widest smallest largest : Nat} (fits : largest ≤ widest)
    (value : Int) (accept : Nat → Result) (refuse : Result) :
    (match fromChars widest (integer value) with
      | some parsed => if smallest ≤ parsed ∧ parsed ≤ largest then accept parsed else refuse
      | none => refuse) =
      if smallest ≤ value ∧ value ≤ largest then accept value.toNat else refuse := by
  rw [fromChars_integer]
  by_cases range : 0 ≤ value ∧ value ≤ widest
  · rw [if_pos range]
    dsimp only
    have same : (smallest ≤ value.toNat ∧ value.toNat ≤ largest) ↔
        ((smallest : Int) ≤ value ∧ value ≤ largest) := by omega
    simp only [same]
  · rw [if_neg range, if_neg (by omega)]

theorem fromCharsInt_integer (value : Int) :
    fromCharsInt (integer value) =
      if -(2 ^ 31) ≤ value ∧ value ≤ 2 ^ 31 - 1 then some value else none := by
  cases value with
  | ofNat value =>
      have unsigned : fromCharsInt (integer (.ofNat value)) =
          (fromChars largestInt (decimal value)).map Int.ofNat := by
        rw [integer]
        unfold fromCharsInt
        split
        next digits same =>
          have member : '-' ∈ decimal value := same ▸ List.mem_cons_self
          cases PythonText.isDigit_of_mem_decimal member
        next => rfl
      rw [unsigned, fromChars_decimal]
      by_cases fits : value ≤ largestInt
      · have range : -(2 ^ 31) ≤ Int.ofNat value ∧ Int.ofNat value ≤ 2 ^ 31 - 1 := by
          simp only [largestInt] at fits
          simp only [Int.ofNat_eq_natCast]
          omega
        rw [if_pos fits, if_pos range]
        rfl
      · have outside : ¬ (-(2 ^ 31) ≤ Int.ofNat value ∧ Int.ofNat value ≤ 2 ^ 31 - 1) := by
          simp only [largestInt] at fits
          simp only [Int.ofNat_eq_natCast]
          omega
        rw [if_neg fits, if_neg outside]
        rfl
  | negSucc value =>
      rw [integer, fromCharsInt, fromChars_decimal]
      by_cases fits : value + 1 ≤ largestInt + 1
      · have range : -(2 ^ 31) ≤ Int.negSucc value ∧ Int.negSucc value ≤ 2 ^ 31 - 1 := by
          simp only [largestInt] at fits
          omega
        rw [if_pos fits, if_pos range]
        rfl
      · have outside : ¬ (-(2 ^ 31) ≤ Int.negSucc value ∧ Int.negSucc value ≤ 2 ^ 31 - 1) := by
          simp only [largestInt] at fits
          omega
        rw [if_neg fits, if_neg outside]
        rfl

theorem integer_injective : Function.Injective integer := by
  have digits : ∀ value : Nat, ∀ digits, decimal value ≠ '-' :: digits := by
    intro value digits same
    have member : '-' ∈ decimal value := same ▸ List.mem_cons_self
    cases PythonText.isDigit_of_mem_decimal member
  intro first second same
  cases first with
  | ofNat first =>
      cases second with
      | ofNat second =>
          have read := congrArg PythonText.toInt? same
          rw [integer, integer, PythonText.toInt?_decimal, PythonText.toInt?_decimal] at read
          exact Option.some.inj read
      | negSucc second => exact absurd same (digits first _)
  | negSucc first =>
      cases second with
      | ofNat second => exact absurd same.symm (digits second _)
      | negSucc second =>
          have read := congrArg PythonText.toInt? (List.cons.inj same).2
          rw [PythonText.toInt?_decimal, PythonText.toInt?_decimal] at read
          have equal : first + 1 = second + 1 := Int.ofNat.inj (Option.some.inj read)
          rw [Nat.succ.inj equal]

/-! ## Options -/

inductive Handler (Config Refusal : Type)
  | argument (set : Text → Config → Except Refusal Config)
  | stop (refusal : Refusal)

/-- What a program tells `getopt_long`, and what it answers. -/
structure Interface (Config Refusal : Type) where
  /-- The short options, each with the name of its long option. -/
  letters : List (Char × Text)
  options : List (Text × Handler Config Refusal)
  /-- The answer to an option that is unknown, ambiguous or lacks its argument. -/
  unknown : Refusal
  /-- The answer to an argument of no option. -/
  operand : Refusal

/-- What `getopt_long` takes a word for. -/
inductive Reading (Config Refusal : Type)
  | operand
  | terminator
  | unknown
  | stop (refusal : Refusal)
  /-- An option, with its argument if that is in the same word. -/
  | setting (set : Text → Config → Except Refusal Config) (given : Option Text)

variable {Config Refusal : Type}

def flag (name : Text) : Text := '-' :: '-' :: name

namespace Interface

def named (interface : Interface Config Refusal) (name : Text) : Option (Handler Config Refusal) :=
  match interface.options.find? fun entry => entry.1 = name with
  | some entry => some entry.2
  | none =>
      match interface.options.filter fun entry => name <+: entry.1 with
      | [entry] => some entry.2
      | _ => none

def lettered (interface : Interface Config Refusal) (letter : Char) :
    Option (Handler Config Refusal) :=
  (interface.letters.lookup letter).bind interface.named

def read (interface : Interface Config Refusal) : Text → Reading Config Refusal
  | ['-', '-'] => .terminator
  | '-' :: '-' :: text =>
      match interface.named (text.takeWhile (· ≠ '=')), text.dropWhile (· ≠ '=') with
      | some (.argument set), [] => .setting set none
      | some (.argument set), _ :: given => .setting set (some given)
      | some (.stop refusal), [] => .stop refusal
      | _, _ => .unknown
  | '-' :: letter :: text =>
      match interface.lettered letter with
      | some (.argument set) => .setting set (if text = [] then none else some text)
      | some (.stop refusal) => .stop refusal
      | none => .unknown
  | _ => .operand

end Interface

/-- The loop over `getopt_long` and the check that no word is left. Arguments of no
option are put off until all options are read, as they are without
`POSIXLY_CORRECT`. -/
def getoptLong (interface : Interface Config Refusal) :
    List Text → Config → Except Refusal Config
  | [], config => .ok config
  | word :: rest, config =>
      match interface.read word with
      | .operand => do
          let _ ← getoptLong interface rest config
          .error interface.operand
      | .terminator => if rest = [] then .ok config else .error interface.operand
      | .unknown => .error interface.unknown
      | .stop refusal => .error refusal
      | .setting set (some value) => do
          let config ← set value config
          getoptLong interface rest config
      | .setting set none =>
          match rest with
          | [] => .error interface.unknown
          | value :: rest => do
              let config ← set value config
              getoptLong interface rest config

def Interface.Calls (interface : Interface Config Refusal) (word : Text)
    (handler : Handler Config Refusal) : Prop :=
  ∀ set, handler = .argument set → interface.read word = .setting set none

/-- Names that can be written out in full. -/
structure Interface.Distinct (interface : Interface Config Refusal) : Prop where
  names : (interface.options.map Prod.fst).Nodup
  plain : ∀ name ∈ interface.options.map Prod.fst, name ≠ [] ∧ '=' ∉ name

variable {interface : Interface Config Refusal}

theorem Interface.Distinct.named_of_mem (distinct : interface.Distinct) {name : Text}
    {handler : Handler Config Refusal} (member : (name, handler) ∈ interface.options) :
    interface.named name = some handler := by
  have found : interface.options.find? (fun entry => entry.1 = name) = some (name, handler) := by
    have names := distinct.names
    generalize interface.options = options at names member
    induction options with
    | nil => cases member
    | cons entry options induction =>
        rw [List.map_cons, List.nodup_cons] at names
        cases List.mem_cons.mp member with
        | inl first =>
            rw [← first]
            exact List.find?_cons_of_pos (by simp)
        | inr later =>
            rw [List.find?_cons_of_neg]
            · exact induction names.2 later
            · simp only [decide_eq_true_eq]
              intro same
              exact names.1 (same ▸ List.mem_map_of_mem later)
  rw [named, found]

theorem Interface.Distinct.calls (distinct : interface.Distinct) {name : Text}
    {handler : Handler Config Refusal} (member : (name, handler) ∈ interface.options) :
    interface.Calls (flag name) handler := by
  intro set same
  subst same
  rcases distinct.plain name (List.mem_map_of_mem member) with ⟨occupied, plain⟩
  have before : name.takeWhile (· ≠ '=') = name := by
    rw [List.takeWhile_eq_self_iff]
    intro char inside
    exact decide_eq_true fun equals => plain (equals ▸ inside)
  have after : name.dropWhile (· ≠ '=') = [] := by
    rw [List.dropWhile_eq_nil_iff]
    intro char inside
    exact decide_eq_true fun equals => plain (equals ▸ inside)
  cases name with
  | nil => exact absurd rfl occupied
  | cons char rest =>
      rw [flag, read, before, after, distinct.named_of_mem member]
      exact nofun

theorem getoptLong_iff {refusal : Refusal} {word value : Text} {rest : List Text}
    {config next : Config} {set : Text → Config → Except Refusal Config} {condition : Prop}
    [Decidable condition] (calls : interface.Calls word (.argument set))
    (sets : set value config = if condition then .ok next else .error refusal)
    (Post : Config → Prop) :
    (∃ final, getoptLong interface (word :: value :: rest) config = .ok final ∧ Post final) ↔
      condition ∧ ∃ final, getoptLong interface rest next = .ok final ∧ Post final := by
  rw [getoptLong, calls set rfl]
  dsimp only
  rw [sets]
  by_cases holds : condition
  · rw [if_pos holds]
    exact ⟨fun accepted => ⟨holds, accepted⟩, fun accepted => accepted.2⟩
  · rw [if_neg holds]
    constructor
    · intro accepted
      rcases accepted with ⟨final, impossible, _⟩
      cases impossible
    · exact fun accepted => absurd accepted.1 holds

theorem getoptLong_nil_iff {config : Config} {Post : Config → Prop} :
    (∃ final, getoptLong interface [] config = .ok final ∧ Post final) ↔ Post config := by
  constructor
  · intro accepted
    rcases accepted with ⟨final, same, post⟩
    cases same
    exact post
  · exact fun post => ⟨config, rfl, post⟩

theorem getoptLong_ok {word value : Text} {rest : List Text} {config next : Config}
    {set : Text → Config → Except Refusal Config} (calls : interface.Calls word (.argument set))
    (sets : set value config = .ok next) :
    getoptLong interface (word :: value :: rest) config = getoptLong interface rest next := by
  rw [getoptLong, calls set rfl]
  dsimp only
  rw [sets]
  rfl

private theorem exists_entry_of_named {name : Text} {handler : Handler Config Refusal}
    (found : interface.named name = some handler) :
    ∃ entry ∈ interface.options, entry.2 = handler := by
  rw [Interface.named] at found
  split at found
  next entry exact =>
    cases found
    exact ⟨entry, List.mem_of_find?_eq_some exact, rfl⟩
  next =>
    split at found
    next entry single =>
      cases found
      have member : entry ∈ interface.options.filter fun entry => name <+: entry.1 := by
        rw [single]
        exact List.mem_cons_self
      exact ⟨entry, (List.mem_filter.mp member).1, rfl⟩
    next => cases found

private theorem exists_entry_of_read {word : Text} {set : Text → Config → Except Refusal Config}
    {given : Option Text} (reads : interface.read word = .setting set given) :
    ∃ entry ∈ interface.options, entry.2 = .argument set := by
  unfold Interface.read at reads
  split at reads
  · cases reads
  · split at reads
    next found _ =>
      cases reads
      exact exists_entry_of_named found
    next found _ =>
      cases reads
      exact exists_entry_of_named found
    · cases reads
    · cases reads
  · split at reads
    next found =>
      cases reads
      rcases Option.bind_eq_some_iff.mp found with ⟨name, _, found⟩
      exact exists_entry_of_named found
    · cases reads
    · cases reads
  · cases reads

theorem getoptLong_keeps {Keeps : Config → Prop}
    (kept : ∀ entry ∈ interface.options, ∀ set, entry.2 = .argument set →
      ∀ value config next, Keeps config → set value config = .ok next → Keeps next)
    {words : List Text} {config final : Config} (start : Keeps config)
    (ended : getoptLong interface words config = .ok final) : Keeps final := by
  have keeps : ∀ {word : Text} {set : Text → Config → Except Refusal Config}
      {given : Option Text}, interface.read word = .setting set given →
      ∀ value config next, Keeps config → set value config = .ok next → Keeps next := by
    intro word set given reads
    rcases exists_entry_of_read reads with ⟨entry, listed, handler⟩
    exact kept entry listed set handler
  induction words, config using getoptLong.induct interface with
  | case1 config =>
      cases ended
      exact start
  | case2 word rest config reads induction =>
      rw [getoptLong, reads] at ended
      rcases Fallible.bind_eq_ok.mp ended with ⟨_, _, refused⟩
      cases refused
  | case3 word config reads =>
      rw [getoptLong, reads] at ended
      cases ended
      exact start
  | case4 word rest config reads more =>
      rw [getoptLong, reads] at ended
      dsimp only at ended
      rw [if_neg more] at ended
      cases ended
  | case5 word rest config reads =>
      rw [getoptLong, reads] at ended
      cases ended
  | case6 word rest config refusal reads =>
      rw [getoptLong, reads] at ended
      cases ended
  | case7 word rest config set value reads induction =>
      rw [getoptLong, reads] at ended
      rcases Fallible.bind_eq_ok.mp ended with ⟨next, stored, later⟩
      exact induction next (keeps reads value config next start stored) later
  | case8 word config set reads =>
      rw [getoptLong, reads] at ended
      cases ended
  | case9 word config set reads value rest induction =>
      rw [getoptLong, reads] at ended
      rcases Fallible.bind_eq_ok.mp ended with ⟨next, stored, later⟩
      exact induction next (keeps reads value config next start stored) later

end NetLatencyLab.CommandLine
