import NetLatencyLab.Foundation.PythonText

/-! # Numbers in text

A program prints numbers between blanks; `split` and `int` read them back. -/

namespace NetLatencyLab.PythonText

/-! ## Words of a text put together -/

theorem wordsFrom_append (current text rest : Text) {blank : Char} (space : isSpace blank) :
    wordsFrom current (text ++ blank :: rest) = wordsFrom current text ++ words rest := by
  induction text generalizing current with
  | nil =>
      rw [List.nil_append]
      simp only [wordsFrom, if_pos space]
      split
      · rfl
      · rfl
  | cons char text induction =>
      rw [List.cons_append, wordsFrom, wordsFrom]
      split
      · split
        · exact induction []
        · rw [induction [], List.cons_append]
      · exact induction (current ++ [char])

theorem words_append (text rest : Text) {blank : Char} (space : isSpace blank) :
    words (text ++ blank :: rest) = words text ++ words rest :=
  wordsFrom_append [] text rest space

theorem words_concat (text : Text) {blank : Char} (space : isSpace blank) :
    words (text ++ [blank]) = words text := by
  rw [words_append text [] space]
  exact List.append_nil _

private theorem words_dropWhile (text : Text) : words (text.dropWhile isSpace) = words text := by
  induction text with
  | nil => rfl
  | cons char text induction =>
      by_cases space : isSpace char
      · rw [List.dropWhile_cons_of_pos space, induction]
        exact (words_append [] text space).symm
      · rw [List.dropWhile_cons_of_neg space]

theorem words_rdropWhile (text : Text) {drop : Char → Bool}
    (spaces : ∀ char, drop char → isSpace char) : words (text.rdropWhile drop) = words text := by
  induction text using List.reverseRecOn with
  | nil => rfl
  | append_singleton text last induction =>
      by_cases dropped : drop last
      · rw [List.rdropWhile_concat_pos _ _ _ dropped, induction,
          words_concat text (spaces last dropped)]
      · rw [List.rdropWhile_concat_neg _ _ _ dropped]

theorem words_strip (text : Text) : words (strip text) = words text := by
  rw [strip, words_rdropWhile _ fun _ space => space, words_dropWhile]

private theorem wordsFrom_word (current word : Text) (solid : ∀ char ∈ word, ¬ isSpace char)
    (occupied : current ++ word ≠ []) : wordsFrom current word = [current ++ word] := by
  induction word generalizing current with
  | nil =>
      rw [List.append_nil] at occupied ⊢
      rw [wordsFrom, if_neg occupied]
  | cons char word induction =>
      have split : current ++ char :: word = current ++ [char] ++ word := by simp
      rw [split] at occupied ⊢
      rw [wordsFrom, if_neg (solid char List.mem_cons_self)]
      exact induction _ (fun other member => solid other (List.mem_cons_of_mem _ member)) occupied

private theorem words_word {word : Text} (solid : ∀ char ∈ word, ¬ isSpace char)
    (occupied : word ≠ []) :
    words word = [word] :=
  wordsFrom_word [] word solid occupied

private theorem strip_word {word : Text} (solid : ∀ char ∈ word, ¬ isSpace char) :
    strip word = word := by
  have front : word.dropWhile isSpace = word := by
    cases word with
    | nil => rfl
    | cons char word => rw [List.dropWhile_cons_of_neg (solid char List.mem_cons_self)]
  rw [strip, front]
  induction word using List.reverseRecOn with
  | nil => rfl
  | append_singleton word last =>
      exact List.rdropWhile_concat_neg _ _ _ (solid last (by simp))

/-! ## Decimal numbers -/

/-- `printf '%s'` of a number. -/
def decimal (value : Nat) : Text := Nat.toDigits 10 value

theorem isDigit_of_mem_decimal {value : Nat} {char : Char} (member : char ∈ decimal value) :
    char.isDigit :=
  Nat.isDigit_of_mem_toDigits (by omega) (by omega) member

private theorem not_isSpace_of_isDigit {char : Char} (digit : char.isDigit) : ¬ isSpace char := by
  have bounds : 48 ≤ char.toNat ∧ char.toNat ≤ 57 := by
    simpa [Char.isDigit, UInt32.le_iff_toNat_le] using digit
  simp only [isSpace, Bool.or_eq_true, Bool.and_eq_true, decide_eq_true_eq, beq_iff_eq]
  omega

theorem decimal_solid (value : Nat) : ∀ char ∈ decimal value, ¬ isSpace char :=
  fun _ member => not_isSpace_of_isDigit (isDigit_of_mem_decimal member)

theorem decimal_ne_nil (value : Nat) : decimal value ≠ [] := Nat.toDigits_ne_nil

@[simp] theorem words_decimal (value : Nat) : words (decimal value) = [decimal value] :=
  words_word (decimal_solid value) (decimal_ne_nil value)

@[simp] theorem strip_decimal (value : Nat) : strip (decimal value) = decimal value :=
  strip_word (decimal_solid value)

private theorem digitsFrom_eq_ofDigitChars {digits : Text} (all : ∀ char ∈ digits, char.isDigit)
    (value : Nat) : digitsFrom value digits = some (Nat.ofDigitChars 10 digits value) := by
  induction digits generalizing value with
  | nil => rfl
  | cons char digits induction =>
      have digit := all char List.mem_cons_self
      have plain : char ≠ '_' := by
        rintro rfl
        cases digit
      rw [digitsFrom.eq_3 _ _ _ (by simp [plain]), if_pos digit, Nat.ofDigitChars_cons]
      exact induction (fun other member => all other (List.mem_cons_of_mem _ member)) _

theorem natural_decimal (value : Nat) : natural (decimal value) = some value := by
  have all : ∀ char ∈ decimal value, char.isDigit := fun _ member => isDigit_of_mem_decimal member
  have read : Nat.ofDigitChars 10 (decimal value) 0 = value := Nat.ofDigitChars_ten_toDigits
  cases digits : decimal value with
  | nil => exact absurd digits (decimal_ne_nil value)
  | cons char rest =>
      rw [digits] at all read
      rw [Nat.ofDigitChars_cons, Nat.mul_zero, Nat.zero_add] at read
      rw [natural, if_pos (all char List.mem_cons_self),
        digitsFrom_eq_ofDigitChars fun other member => all other (List.mem_cons_of_mem _ member),
        read]

@[simp] theorem toInt?_decimal (value : Nat) : toInt? (decimal value) = some (value : Int) := by
  rw [toInt?, strip_decimal]
  split
  next digits same =>
    have member : '-' ∈ decimal value := same ▸ List.mem_cons_self
    cases isDigit_of_mem_decimal member
  next digits same =>
    have member : '+' ∈ decimal value := same ▸ List.mem_cons_self
    cases isDigit_of_mem_decimal member
  · rw [natural_decimal]
    rfl

/-- The integers of a text: `map(int, text.split())`, unless one of the words is
none. -/
def numbers (text : Text) : Option (List Int) := (words text).mapM toInt?

theorem numbers_append (text rest : Text) {blank : Char} (space : isSpace blank) :
    numbers (text ++ blank :: rest) =
      (do let first ← numbers text; let second ← numbers rest; some (first ++ second)) := by
  rw [numbers, words_append text rest space, List.mapM_append]
  rfl

@[simp] theorem numbers_decimal (value : Nat) : numbers (decimal value) = some [(value : Int)] := by
  rw [numbers, words_decimal]
  simp

@[simp] theorem numbers_nil : numbers [] = some [] := rfl

theorem numbers_rdropWhile (text : Text) {drop : Char → Bool}
    (spaces : ∀ char, drop char → isSpace char) : numbers (text.rdropWhile drop) = numbers text := by
  rw [numbers, words_rdropWhile text spaces, numbers]

end NetLatencyLab.PythonText
