import Mathlib.Data.Finset.Card
import Mathlib.Data.Finset.Insert
import Mathlib.Data.List.Dedup

/-! # Duplicate detection with a bounded memory

A filter watches a stream of keys and tells duplicates from new keys, but later
keys may retire what it knew about earlier ones. Which key retires the record of
which is an arbitrary relation: `retires other key` says that after `other` the
filter can no longer tell whether `key` has been seen. -/

namespace NetLatencyLab.Deduplication

inductive Verdict
  | fresh
  | duplicate
  | retired
deriving DecidableEq

variable {Key : Type*} [DecidableEq Key] (retires : Key → Key → Prop) [DecidableRel retires]

abbrev Retired (seen : Finset Key) (key : Key) : Prop := ∃ other ∈ seen, retires other key

def verdict (seen : Finset Key) (key : Key) : Verdict :=
  if Retired retires seen key then .retired
  else if key ∈ seen then .duplicate
  else .fresh

def verdicts : Finset Key → List Key → List Verdict
  | _, [] => []
  | seen, key :: keys => verdict retires seen key :: verdicts (insert key seen) keys

def uniqueCount (seen : Finset Key) (keys : List Key) : Nat :=
  (verdicts retires seen keys).countP (· ≠ .duplicate)

def duplicateCount (seen : Finset Key) (keys : List Key) : Nat :=
  (verdicts retires seen keys).count .duplicate

def retiredCount (seen : Finset Key) (keys : List Key) : Nat :=
  (verdicts retires seen keys).count .retired

variable {retires}

/-! ## Single verdicts -/

theorem verdict_eq_duplicate_iff {seen : Finset Key} {key : Key} :
    verdict retires seen key = .duplicate ↔ ¬Retired retires seen key ∧ key ∈ seen := by
  unfold verdict
  split <;> rename_i isRetired
  · simp [isRetired]
  · by_cases member : key ∈ seen <;> simp [isRetired, member]

theorem verdict_eq_fresh_iff {seen : Finset Key} {key : Key} :
    verdict retires seen key = .fresh ↔ ¬Retired retires seen key ∧ key ∉ seen := by
  unfold verdict
  split <;> rename_i isRetired
  · simp [isRetired]
  · by_cases member : key ∈ seen <;> simp [isRetired, member]

theorem verdict_eq_retired_iff {seen : Finset Key} {key : Key} :
    verdict retires seen key = .retired ↔ Retired retires seen key := by
  unfold verdict
  split <;> rename_i isRetired
  · simp [isRetired]
  · by_cases member : key ∈ seen <;> simp [isRetired, member]

omit [DecidableEq Key] [DecidableRel retires] in
theorem Retired.mono {small large : Finset Key} (subset : small ⊆ large) {key : Key}
    (isRetired : Retired retires small key) : Retired retires large key := by
  rcases isRetired with ⟨other, member, retiring⟩
  exact ⟨other, subset member, retiring⟩

/-! ## Streams -/

theorem verdicts_append (seen : Finset Key) (first second : List Key) :
    verdicts retires seen (first ++ second) =
      verdicts retires seen first ++ verdicts retires (seen ∪ first.toFinset) second := by
  induction first generalizing seen with
  | nil => simp [verdicts]
  | cons key keys induction => simp [verdicts, induction, Finset.insert_union]

@[simp] theorem verdicts_length (seen : Finset Key) (keys : List Key) :
    (verdicts retires seen keys).length = keys.length := by
  induction keys generalizing seen with
  | nil => rfl
  | cons key keys induction => simp [verdicts, induction]

variable (retires) in
theorem uniqueCount_add_duplicateCount (seen : Finset Key) (keys : List Key) :
    uniqueCount retires seen keys + duplicateCount retires seen keys = keys.length := by
  have split : (verdicts retires seen keys).length = _ :=
    List.length_eq_countP_add_countP fun given => given == .duplicate
  rw [verdicts_length] at split
  rw [uniqueCount, duplicateCount, List.count, split, Nat.add_comm]
  congr 1
  apply List.countP_congr
  simp

@[simp] theorem uniqueCount_nil (seen : Finset Key) : uniqueCount retires seen [] = 0 := rfl

@[simp] theorem retiredCount_nil (seen : Finset Key) : retiredCount retires seen [] = 0 := rfl

theorem uniqueCount_cons (seen : Finset Key) (key : Key) (keys : List Key) :
    uniqueCount retires seen (key :: keys) =
      uniqueCount retires (insert key seen) keys +
        if verdict retires seen key = .duplicate then 0 else 1 := by
  by_cases duplicate : verdict retires seen key = .duplicate <;>
    simp [uniqueCount, verdicts, duplicate]

theorem retiredCount_cons (seen : Finset Key) (key : Key) (keys : List Key) :
    retiredCount retires seen (key :: keys) =
      retiredCount retires (insert key seen) keys +
        if verdict retires seen key = .retired then 1 else 0 := by
  by_cases isRetired : verdict retires seen key = .retired <;>
    simp [retiredCount, verdicts, isRetired]

theorem uniqueCount_concat (seen : Finset Key) (keys : List Key) (key : Key) :
    uniqueCount retires seen (keys ++ [key]) = uniqueCount retires seen keys +
      if verdict retires (seen ∪ keys.toFinset) key = .duplicate then 0 else 1 := by
  by_cases duplicate : verdict retires (seen ∪ keys.toFinset) key = .duplicate <;>
    simp [uniqueCount, verdicts_append, verdicts, duplicate]

theorem duplicateCount_concat (seen : Finset Key) (keys : List Key) (key : Key) :
    duplicateCount retires seen (keys ++ [key]) = duplicateCount retires seen keys +
      if verdict retires (seen ∪ keys.toFinset) key = .duplicate then 1 else 0 := by
  by_cases duplicate : verdict retires (seen ∪ keys.toFinset) key = .duplicate <;>
    simp [duplicateCount, verdicts_append, verdicts, duplicate]

theorem retiredCount_concat (seen : Finset Key) (keys : List Key) (key : Key) :
    retiredCount retires seen (keys ++ [key]) = retiredCount retires seen keys +
      if verdict retires (seen ∪ keys.toFinset) key = .retired then 1 else 0 := by
  by_cases isRetired : verdict retires (seen ∪ keys.toFinset) key = .retired <;>
    simp [retiredCount, verdicts_append, verdicts, isRetired]

def newCount (seen : Finset Key) (keys : List Key) : Nat := (keys.toFinset \ seen).card

@[simp] theorem newCount_nil (seen : Finset Key) : newCount seen [] = 0 := by simp [newCount]

theorem newCount_cons (seen : Finset Key) (key : Key) (keys : List Key) :
    newCount seen (key :: keys) =
      newCount (insert key seen) keys + if key ∈ seen then 0 else 1 := by
  unfold newCount
  by_cases member : key ∈ seen
  · rw [List.toFinset_cons, Finset.insert_sdiff_of_mem _ member, Finset.insert_eq_of_mem member,
      if_pos member, Nat.add_zero]
  · have split : (key :: keys).toFinset \ seen = insert key (keys.toFinset \ insert key seen) := by
      ext other
      simp only [List.toFinset_cons, Finset.mem_sdiff, Finset.mem_insert]
      grind
    rw [split, Finset.card_insert_of_notMem (by simp)]
    simp [member]

variable (retires) in
theorem newCount_le_uniqueCount (seen : Finset Key) (keys : List Key) :
    newCount seen keys ≤ uniqueCount retires seen keys := by
  induction keys generalizing seen with
  | nil => simp
  | cons key keys induction =>
      rw [newCount_cons, uniqueCount_cons]
      have rest := induction (insert key seen)
      by_cases member : key ∈ seen
      · simp only [member, if_true]
        omega
      · have notDuplicate : verdict retires seen key ≠ .duplicate := by
          simp [verdict_eq_duplicate_iff, member]
        simp only [member, notDuplicate, if_false]
        omega

variable (retires) in
theorem uniqueCount_le_newCount_add_retiredCount (seen : Finset Key) (keys : List Key) :
    uniqueCount retires seen keys ≤ newCount seen keys + retiredCount retires seen keys := by
  induction keys generalizing seen with
  | nil => simp
  | cons key keys induction =>
      rw [newCount_cons, uniqueCount_cons, retiredCount_cons]
      have rest := induction (insert key seen)
      by_cases isRetired : Retired retires seen key
      · rw [if_pos (verdict_eq_retired_iff.mpr isRetired)]
        split <;> omega
      · by_cases member : key ∈ seen
        · rw [if_pos (verdict_eq_duplicate_iff.mpr ⟨isRetired, member⟩)]
          omega
        · rw [if_neg member]
          split <;> omega

theorem retiredCount_eq_zero {seen : Finset Key} {keys : List Key}
    (retained : ∀ before key after, keys = before ++ key :: after →
      ¬Retired retires (seen ∪ before.toFinset) key) :
    retiredCount retires seen keys = 0 := by
  induction keys generalizing seen with
  | nil => rfl
  | cons key keys induction =>
      have first : ¬Retired retires seen key := by simpa using retained [] key keys rfl
      rw [retiredCount_cons, if_neg (mt verdict_eq_retired_iff.mp first), Nat.add_zero]
      apply induction
      intro before later after equal
      have := retained (key :: before) later after (by simp [equal])
      simpa [Finset.insert_union] using this

variable (retires) in
/-- Losing arrivals never raises the unique count. The two filters may disagree
on which arrivals are duplicates, but every key only the longer stream has seen
pays for one later disagreement. -/
theorem uniqueCount_le_of_sublist_aux {few many : List Key} (sublist : few.Sublist many) :
    ∀ {small large : Finset Key}, small ⊆ large →
      uniqueCount retires small few ≤
        uniqueCount retires large many + (large \ small).card := by
  induction sublist with
  | slnil => simp
  | @cons few many key sublist induction =>
      intro small large subset
      have rest := induction (subset.trans (Finset.subset_insert key large))
      rw [uniqueCount_cons]
      by_cases member : key ∈ large
      · rw [Finset.insert_eq_of_mem member] at rest ⊢
        omega
      · have notDuplicate : verdict retires large key ≠ .duplicate := by
          simp [verdict_eq_duplicate_iff, member]
        have grown : (insert key large \ small).card ≤ (large \ small).card + 1 := by
          refine (Finset.card_le_card ?_).trans (Finset.card_insert_le key _)
          intro other
          simp only [Finset.mem_sdiff, Finset.mem_insert]
          grind
        rw [if_neg notDuplicate]
        omega
  | @cons_cons few many key sublist induction =>
      intro small large subset
      have rest := induction (Finset.insert_subset_insert key subset)
      have outside : insert key large \ insert key small = (large \ small).erase key := by
        ext other
        simp only [Finset.mem_sdiff, Finset.mem_insert, Finset.mem_erase]
        grind
      rw [outside] at rest
      rw [uniqueCount_cons, uniqueCount_cons]
      by_cases isRetired : Retired retires large key
      · -- the longer stream counts the arrival, whatever the shorter one does
        have notDuplicate : verdict retires large key ≠ .duplicate := by
          simp [verdict_eq_duplicate_iff, isRetired]
        have shrunk := Finset.card_erase_le (s := large \ small) (a := key)
        rw [if_neg notDuplicate]
        split <;> omega
      · by_cases inSmall : key ∈ small
        · -- both recognise the duplicate
          have smallKept : ¬Retired retires small key := fun smallRetired =>
            isRetired (smallRetired.mono subset)
          rw [if_pos (verdict_eq_duplicate_iff.mpr ⟨smallKept, inSmall⟩)]
          have shrunk := Finset.card_erase_le (s := large \ small) (a := key)
          omega
        · by_cases inLarge : key ∈ large
          · -- the key pays with its own place in the difference
            have place : key ∈ large \ small := Finset.mem_sdiff.mpr ⟨inLarge, inSmall⟩
            have paid := Finset.card_erase_add_one place
            split <;> omega
          · have notDuplicate : verdict retires large key ≠ .duplicate := by
              simp [verdict_eq_duplicate_iff, inLarge]
            have shrunk := Finset.card_erase_le (s := large \ small) (a := key)
            rw [if_neg notDuplicate]
            split <;> omega

theorem uniqueCount_le_of_sublist {few many : List Key} (sublist : few.Sublist many)
    (seen : Finset Key) : uniqueCount retires seen few ≤ uniqueCount retires seen many := by
  simpa using uniqueCount_le_of_sublist_aux retires sublist (Finset.Subset.refl seen)

theorem retiredCount_le_of_sublist {few many : List Key} (sublist : few.Sublist many) :
    ∀ {small large : Finset Key}, small ⊆ large →
      retiredCount retires small few ≤ retiredCount retires large many := by
  induction sublist with
  | slnil => simp
  | @cons few many key sublist induction =>
      intro small large subset
      rw [retiredCount_cons]
      exact (induction (subset.trans (Finset.subset_insert key large))).trans (Nat.le_add_right _ _)
  | @cons_cons few many key sublist induction =>
      intro small large subset
      rw [retiredCount_cons, retiredCount_cons]
      have later := induction (Finset.insert_subset_insert key subset)
      by_cases isRetired : verdict retires small key = .retired
      · have retired := (verdict_eq_retired_iff.mp isRetired).mono subset
        rw [if_pos isRetired, if_pos (verdict_eq_retired_iff.mpr retired)]
        omega
      · rw [if_neg isRetired]
        omega

/-! ## Keys that never arrive -/

theorem countP_missing_add_card_le {sent arrived : List Key} (known : arrived ⊆ sent) :
    sent.countP (· ∉ arrived) + arrived.toFinset.card ≤ sent.length := by
  have split := List.length_eq_countP_add_countP (fun key => decide (key ∈ arrived)) (l := sent)
  have covered : arrived.toFinset ⊆ (sent.filter fun key => key ∈ arrived).toFinset := by
    intro key member
    have inside := List.mem_toFinset.mp member
    exact List.mem_toFinset.mpr (List.mem_filter.mpr ⟨known inside, decide_eq_true inside⟩)
  have below := (Finset.card_le_card covered).trans (List.toFinset_card_le _)
  rw [← List.countP_eq_length_filter] at below
  simp only [decide_not, decide_eq_true_eq] at split ⊢
  omega

end NetLatencyLab.Deduplication
