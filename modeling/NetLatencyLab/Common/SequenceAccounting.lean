import NetLatencyLab.Common.Internal.SequenceTrackerRing
import Mathlib.Order.Interval.Finset.Nat

/-! # What the tracker's counters mean

The counters are related to the whole list of observed numbers. The ring enters
only through `Remembers`; everything here is about the counters. -/

namespace NetLatencyLab.SequenceTracker

open Deduplication

/-! ## The tail of `observe` -/

theorem countUnique_minimum (tracker : SequenceTracker) (sequence : UInt32) :
    (tracker.countUnique sequence).minimum.toNat =
      if tracker.unique = 0 then sequence.toNat
      else min tracker.minimum.toNat sequence.toNat := by
  simp only [countUnique, UInt32.lt_iff_toNat_lt]
  split <;> split <;> omega

theorem countUnique_highWatermark (tracker : SequenceTracker) (sequence : UInt32) :
    (tracker.countUnique sequence).highWatermark.toNat =
      max tracker.highWatermark.toNat sequence.toNat := by
  simp only [countUnique, gt_iff_lt, UInt32.lt_iff_toNat_lt]
  split <;> omega

/-! ## The history behind the counters -/

/-- The counters of a tracker that has observed exactly `sequences`, in order. -/
structure Accounts (tracker : SequenceTracker) (sequences : List UInt32) : Prop where
  remembers : tracker.Remembers sequences.toFinset
  unique : tracker.unique = uniqueCount Retires ∅ sequences
  duplicates : tracker.duplicates = duplicateCount Retires ∅ sequences
  outOfWindow : tracker.outOfWindow = retiredCount Retires ∅ sequences
  minimum_mem : sequences ≠ [] → tracker.minimum ∈ sequences
  minimum_le : ∀ sequence ∈ sequences, tracker.minimum.toNat ≤ sequence.toNat
  highWatermark_mem : sequences ≠ [] → tracker.highWatermark ∈ sequences
  le_highWatermark : ∀ sequence ∈ sequences, sequence.toNat ≤ tracker.highWatermark.toNat
  highWatermark_nil : sequences = [] → tracker.highWatermark = 0

private theorem fresh_accounts : fresh.Accounts [] where
  remembers := fresh_remembers
  unique := rfl
  duplicates := rfl
  outOfWindow := rfl
  minimum_mem := absurd rfl
  minimum_le := by simp
  highWatermark_mem := absurd rfl
  le_highWatermark := by simp
  highWatermark_nil := fun _ => rfl

namespace Accounts

variable {tracker : SequenceTracker} {sequences : List UInt32}

theorem unique_eq_zero_iff (accounts : tracker.Accounts sequences) :
    tracker.unique = 0 ↔ sequences = [] := by
  rw [accounts.unique]
  constructor
  · intro zero
    have lower := newCount_le_uniqueCount Retires ∅ sequences
    rw [zero, newCount, Finset.sdiff_empty] at lower
    simpa using lower
  · rintro rfl
    rfl

theorem step_unique (accounts : tracker.Accounts sequences) {next : SequenceTracker}
    {sequence : UInt32} (notDuplicate : verdict Retires sequences.toFinset sequence ≠ .duplicate)
    (remembers : next.Remembers (insert sequence sequences.toFinset))
    (unique : next.unique = tracker.unique)
    (duplicates : next.duplicates = tracker.duplicates)
    (outOfWindow : next.outOfWindow = tracker.outOfWindow +
      if verdict Retires sequences.toFinset sequence = .retired then 1 else 0)
    (minimum : next.minimum = tracker.minimum)
    (highWatermark : next.highWatermark = tracker.highWatermark) :
    (next.countUnique sequence).Accounts (sequences ++ [sequence]) where
  remembers := by
    rw [List.toFinset_append, List.toFinset_cons, List.toFinset_nil, Finset.union_comm,
      insert_empty_eq, ← Finset.insert_eq]
    exact remembers.of_ring rfl rfl
  unique := by
    rw [uniqueCount_concat, Finset.empty_union, if_neg notDuplicate, ← accounts.unique, ← unique]
    rfl
  duplicates := by
    rw [duplicateCount_concat, Finset.empty_union, if_neg notDuplicate, ← accounts.duplicates,
      ← duplicates]
    rfl
  outOfWindow := by
    rw [retiredCount_concat, Finset.empty_union, ← accounts.outOfWindow, ← outOfWindow]
    rfl
  minimum_mem := by
    intro _
    simp only [countUnique, unique, minimum, List.mem_append, List.mem_singleton]
    by_cases first : tracker.unique = 0
    · simp [first]
    · have member := accounts.minimum_mem (mt accounts.unique_eq_zero_iff.mpr first)
      simp only [first, if_false]
      split <;> simp [member]
  minimum_le := by
    intro other member
    rw [countUnique_minimum, unique, minimum]
    by_cases first : tracker.unique = 0
    · have nothing := accounts.unique_eq_zero_iff.mp first
      simp_all
    · rw [if_neg first]
      rcases List.mem_append.mp member with old | new
      · have := accounts.minimum_le other old
        omega
      · have same := List.mem_singleton.mp new
        subst same
        omega
  highWatermark_mem := by
    intro _
    simp only [countUnique, highWatermark, List.mem_append, List.mem_singleton]
    split
    · exact .inr rfl
    · rename_i notAbove
      by_cases nothing : sequences = []
      · refine .inr ?_
        rw [accounts.highWatermark_nil nothing] at notAbove ⊢
        have zero : sequence.toNat = 0 := by
          simpa [UInt32.lt_iff_toNat_lt] using notAbove
        exact (UInt32.toNat_inj.mp zero).symm
      · exact .inl (accounts.highWatermark_mem nothing)
  le_highWatermark := by
    intro other member
    rw [countUnique_highWatermark, highWatermark]
    rcases List.mem_append.mp member with old | new
    · have := accounts.le_highWatermark other old
      omega
    · have same := List.mem_singleton.mp new
      subst same
      omega
  highWatermark_nil := by simp

theorem observe (accounts : tracker.Accounts sequences) (sequence : UInt32) :
    (tracker.observe sequence).1.Accounts (sequences ++ [sequence]) := by
  rcases observe_cases accounts.remembers sequence with
    ⟨given, result⟩ | ⟨given, result⟩ | ⟨given, blocks, epochs, result, remembers⟩
  · rw [result]
    have isRetired := verdict_eq_retired_iff.mp given
    refine accounts.step_unique (by simp [given]) ?_ rfl rfl (by simp [given]) rfl rfl
    have older := (accounts.remembers.resident_gt_iff sequence).mpr isRetired
    exact (accounts.remembers.insert_retired older).of_ring rfl rfl
  · rw [result]
    have member : sequence ∈ sequences :=
      List.mem_toFinset.mp (verdict_eq_duplicate_iff.mp given).2
    have nonempty : sequences ≠ [] := List.ne_nil_of_mem member
    exact {
      remembers := by
        rw [List.toFinset_append, Finset.union_eq_left.mpr (by simpa using member)]
        exact accounts.remembers.of_ring rfl rfl
      unique := by
        rw [uniqueCount_concat, Finset.empty_union, if_pos given, ← accounts.unique]
        rfl
      duplicates := by
        rw [duplicateCount_concat, Finset.empty_union, if_pos given, ← accounts.duplicates]
      outOfWindow := by
        rw [retiredCount_concat, Finset.empty_union, given, ← accounts.outOfWindow]
        rfl
      minimum_mem := fun _ => List.mem_append_left _ (accounts.minimum_mem nonempty)
      minimum_le := by
        simpa [or_imp, forall_and] using
          ⟨accounts.minimum_le, accounts.minimum_le sequence member⟩
      highWatermark_mem := fun _ => List.mem_append_left _ (accounts.highWatermark_mem nonempty)
      le_highWatermark := by
        simpa [or_imp, forall_and] using
          ⟨accounts.le_highWatermark, accounts.le_highWatermark sequence member⟩
      highWatermark_nil := by simp }
  · rw [result]
    exact accounts.step_unique (by simp [given]) remembers rfl rfl (by simp [given]) rfl rfl

end Accounts

theorem observeAll_accounts (sequences : List UInt32) :
    (fresh.observeAll sequences).Accounts sequences := by
  induction sequences using List.reverseRecOn with
  | nil => exact fresh_accounts
  | append_singleton sequences sequence induction =>
      rw [observeAll_concat]
      exact induction.observe sequence

private theorem observe_false_imp_mem {sequences : List UInt32} {sequence : UInt32}
    (rejected : ((fresh.observeAll sequences).observe sequence).2 = false) :
    sequence ∈ sequences := by
  rcases observe_cases (observeAll_accounts sequences).remembers sequence with
    ⟨given, result⟩ | ⟨given, result⟩ | ⟨given, blocks, epochs, result, remembers⟩
  · simp [result] at rejected
  · exact List.mem_toFinset.mp (verdict_eq_duplicate_iff.mp given).2
  · simp [result] at rejected

/-! ## Gaps -/

/-- `max(xs) - min(xs) + 1 - |set(xs)|`, and 0 for the empty list. -/
def missing (sequences : List UInt32) : Int :=
  match (sequences.map UInt32.toNat).max?, (sequences.map UInt32.toNat).min? with
  | some highest, some lowest => highest - lowest + 1 - sequences.toFinset.card
  | _, _ => 0

namespace Accounts

variable {tracker : SequenceTracker} {sequences : List UInt32}

theorem max?_eq (accounts : tracker.Accounts sequences) (nonempty : sequences ≠ []) :
    (sequences.map UInt32.toNat).max? = some tracker.highWatermark.toNat := by
  rw [List.max?_eq_some_iff]
  refine ⟨List.mem_map_of_mem (accounts.highWatermark_mem nonempty), ?_⟩
  simpa using accounts.le_highWatermark

theorem min?_eq (accounts : tracker.Accounts sequences) (nonempty : sequences ≠ []) :
    (sequences.map UInt32.toNat).min? = some tracker.minimum.toNat := by
  rw [List.min?_eq_some_iff]
  refine ⟨List.mem_map_of_mem (accounts.minimum_mem nonempty), ?_⟩
  simpa using accounts.minimum_le

theorem minimum_le_highWatermark (accounts : tracker.Accounts sequences)
    (nonempty : sequences ≠ []) :
    tracker.minimum.toNat ≤ tracker.highWatermark.toNat :=
  accounts.minimum_le _ (accounts.highWatermark_mem nonempty)

theorem missing_eq (accounts : tracker.Accounts sequences) (nonempty : sequences ≠ []) :
    missing sequences =
      (tracker.highWatermark.toNat : Int) - tracker.minimum.toNat + 1 -
        sequences.toFinset.card := by
  rw [missing, accounts.max?_eq nonempty, accounts.min?_eq nonempty]

private theorem card_le_span (accounts : tracker.Accounts sequences) :
    sequences.toFinset.card ≤ tracker.highWatermark.toNat - tracker.minimum.toNat + 1 := by
  have inside : sequences.toFinset.image UInt32.toNat ⊆
      Finset.Icc tracker.minimum.toNat tracker.highWatermark.toNat := by
    intro value member
    rcases Finset.mem_image.mp member with ⟨sequence, present, rfl⟩
    rw [List.mem_toFinset] at present
    exact Finset.mem_Icc.mpr
      ⟨accounts.minimum_le sequence present, accounts.le_highWatermark sequence present⟩
  have bound := Finset.card_le_card inside
  rw [Finset.card_image_of_injective _ fun _ _ => UInt32.toNat_inj.mp, Nat.card_Icc] at bound
  omega

theorem gaps_exact (accounts : tracker.Accounts sequences) :
    (tracker.gaps : Int) = if tracker.unique = 0 then 0 else
      max 0 ((tracker.highWatermark.toNat : Int) - tracker.minimum.toNat + 1 - tracker.unique) := by
  unfold gaps
  by_cases nothing : tracker.unique = 0
  · simp [nothing]
  · have ordered := accounts.minimum_le_highWatermark
      (mt accounts.unique_eq_zero_iff.mpr nothing)
    have highBound := tracker.highWatermark.toNat_lt
    have span : (wrappingSub tracker.highWatermark.toNat tracker.minimum.toNat + 1) % 2 ^ 64 =
        tracker.highWatermark.toNat - tracker.minimum.toNat + 1 := by
      rw [wrappingSub]
      omega
    simp only [nothing, if_false, span]
    by_cases covered :
        tracker.unique ≥ tracker.highWatermark.toNat - tracker.minimum.toNat + 1
    · rw [if_pos covered]
      omega
    · rw [if_neg covered, wrappingSub]
      omega

theorem card_le_unique (accounts : tracker.Accounts sequences) :
    sequences.toFinset.card ≤ tracker.unique := by
  simpa [accounts.unique, newCount] using
    newCount_le_uniqueCount Retires ∅ sequences

theorem unique_le_card_add (accounts : tracker.Accounts sequences) :
    tracker.unique ≤ sequences.toFinset.card + tracker.outOfWindow := by
  simpa [accounts.unique, accounts.outOfWindow, newCount] using
    uniqueCount_le_newCount_add_retiredCount Retires ∅ sequences

theorem gaps_bounds (accounts : tracker.Accounts sequences) :
    missing sequences - tracker.outOfWindow ≤ tracker.gaps ∧
      tracker.gaps ≤ missing sequences := by
  rw [accounts.gaps_exact]
  by_cases nonempty : sequences = []
  · simp [accounts.unique_eq_zero_iff.mpr nonempty, nonempty, missing]
  · have lower := accounts.card_le_unique
    have upper := accounts.unique_le_card_add
    have span := accounts.card_le_span
    have ordered := accounts.minimum_le_highWatermark nonempty
    rw [accounts.missing_eq nonempty, if_neg (mt accounts.unique_eq_zero_iff.mp nonempty)]
    omega

end Accounts

/-- The counters against the observed list: every arrival is counted once, the
unique count is off by at most the out-of-window arrivals, rejected numbers have
been seen, and the gap count is exact up to the out-of-window arrivals. -/
theorem tracker_counts (sequences : List UInt32) :
    ((fresh.observeAll sequences).unique + (fresh.observeAll sequences).duplicates =
      sequences.length) ∧
    (∀ before sequence after, sequences = before ++ sequence :: after →
      ((fresh.observeAll before).observe sequence).2 = false → sequence ∈ before) ∧
    let tracker := fresh.observeAll sequences
    let distinct := sequences.toFinset.card
    distinct ≤ tracker.unique ∧
      tracker.unique ≤ distinct + tracker.outOfWindow ∧
      missing sequences - tracker.outOfWindow ≤ tracker.gaps ∧
      tracker.gaps ≤ missing sequences ∧
      (tracker.gaps : Int) = (if tracker.unique = 0 then 0 else
        max 0 ((tracker.highWatermark.toNat : Int) - tracker.minimum.toNat + 1 -
          tracker.unique)) := by
  have accounts := observeAll_accounts sequences
  refine ⟨?_, ?_, accounts.card_le_unique, accounts.unique_le_card_add,
    accounts.gaps_bounds.1, accounts.gaps_bounds.2, accounts.gaps_exact⟩
  · rw [accounts.unique, accounts.duplicates, uniqueCount_add_duplicateCount]
  · intro before sequence after _ rejected
    exact observe_false_imp_mem rejected

/-! ## Lost arrivals and short memories -/

theorem unique_le_of_sublist {few many : List UInt32} (sublist : few.Sublist many) :
    (fresh.observeAll few).unique ≤ (fresh.observeAll many).unique := by
  rw [(observeAll_accounts few).unique, (observeAll_accounts many).unique]
  exact uniqueCount_le_of_sublist sublist ∅

theorem outOfWindow_le_of_sublist {few many : List UInt32} (sublist : few.Sublist many) :
    (fresh.observeAll few).outOfWindow ≤ (fresh.observeAll many).outOfWindow := by
  rw [(observeAll_accounts few).outOfWindow, (observeAll_accounts many).outOfWindow]
  exact retiredCount_le_of_sublist sublist (Finset.Subset.refl ∅)

/-- Every arrival is at most `lookback` below the largest earlier one. -/
def ArrivesWithin (lookback : Nat) (sequences : List UInt32) : Prop :=
  sequences.Pairwise fun earlier sequence => earlier.toNat ≤ sequence.toNat + lookback

/-- A slot is taken over only by a number at least one block short of the full
ring ahead. -/
theorem not_retired_of_lookback {seen : Finset UInt32} {sequence : UInt32}
    (near : ∀ earlier ∈ seen,
      earlier.toNat ≤ sequence.toNat + (blockCount - 1) * blockSize) :
    ¬Retired Retires seen sequence := by
  rintro ⟨other, member, slot, epoch⟩
  have distance := near other member
  have slots := congrArg Fin.val slot
  rw [slotOf_val, slotOf_val] at slots
  rw [epochOf_eq, epochOf_eq] at epoch
  simp only [blockCount, blockSize, blockShift] at distance
  omega

theorem outOfWindow_eq_zero {sequences : List UInt32}
    (near : ArrivesWithin ((blockCount - 1) * blockSize) sequences) :
    (fresh.observeAll sequences).outOfWindow = 0 := by
  rw [(observeAll_accounts sequences).outOfWindow]
  apply retiredCount_eq_zero
  rintro before sequence after rfl
  apply not_retired_of_lookback
  have later := (List.pairwise_append.mp near).2.2
  simpa using fun earlier member => later earlier member sequence List.mem_cons_self

theorem unique_eq_card {sequences : List UInt32}
    (exact : (fresh.observeAll sequences).outOfWindow = 0) :
    (fresh.observeAll sequences).unique = sequences.toFinset.card := by
  have accounts := observeAll_accounts sequences
  have lower := accounts.card_le_unique
  have upper := accounts.unique_le_card_add
  omega

private theorem lt_of_epochOf_lt {sequence other : UInt32}
    (older : epochOf sequence < epochOf other) :
    sequence < other := by
  rw [UInt32.lt_iff_toNat_lt]
  by_contra notBelow
  simp only [epochOf, blockShift, Nat.shiftRight_eq_div_pow] at older
  omega

theorem outOfWindow_le_reordered (sequences : List UInt32) :
    (fresh.observeAll sequences).outOfWindow ≤ (fresh.observeAll sequences).reordered := by
  induction sequences using List.reverseRecOn with
  | nil => exact Nat.le_refl _
  | append_singleton sequences sequence induction =>
      have accounts := observeAll_accounts sequences
      rw [observeAll_concat]
      rcases observe_cases accounts.remembers sequence with
        ⟨given, result⟩ | ⟨_, result⟩ | ⟨_, blocks, epochs, result, _⟩
      · rcases verdict_eq_retired_iff.mp given with ⟨other, member, _, epoch⟩
        have seen := List.mem_toFinset.mp member
        have behind : sequence < (fresh.observeAll sequences).highWatermark :=
          UInt32.lt_of_lt_of_le (lt_of_epochOf_lt epoch)
            (UInt32.le_iff_toNat_le.mpr (accounts.le_highWatermark other seen))
        have some : (fresh.observeAll sequences).unique ≠ 0 :=
          mt accounts.unique_eq_zero_iff.mp (List.ne_nil_of_mem seen)
        rw [result]
        simp only [countUnique, some, behind, ne_eq, not_false_eq_true, and_self, if_true]
        omega
      · rw [result]
        exact induction
      · rw [result]
        exact induction.trans (Nat.le_add_right _ _)
/-! ## Increasing streams -/

/-- Every arrival is new and in order. -/
structure CountsExactly (tracker : SequenceTracker) (arrivals : Nat) : Prop where
  unique : tracker.unique = arrivals
  duplicates : tracker.duplicates = 0
  reordered : tracker.reordered = 0
  outOfWindow : tracker.outOfWindow = 0

theorem countUnique_reordered_eq_zero_iff {tracker : SequenceTracker} {sequence : UInt32} :
    (tracker.countUnique sequence).reordered = 0 ↔
      tracker.reordered = 0 ∧
        (tracker.unique ≠ 0 → tracker.highWatermark.toNat ≤ sequence.toNat) := by
  simp only [countUnique, Nat.add_eq_zero_iff, UInt32.lt_iff_toNat_lt]
  split
  next reordered =>
    constructor
    · intro impossible
      cases impossible.2
    · intro ordered
      exact absurd (ordered.2 reordered.1) (Nat.not_le.mpr reordered.2)
  next ordered =>
    rw [not_and, Nat.not_lt] at ordered
    exact and_congr_right fun _ => iff_of_true rfl ordered

theorem Accounts.highWatermark_le_iff {tracker : SequenceTracker} {sequences : List UInt32}
    (accounts : tracker.Accounts sequences) {sequence : UInt32} (unseen : sequence ∉ sequences) :
    (tracker.unique ≠ 0 → tracker.highWatermark.toNat ≤ sequence.toNat) ↔
      ∀ other ∈ sequences, other.toNat < sequence.toNat := by
  constructor
  · intro ordered other member
    have nonempty : sequences ≠ [] := List.ne_nil_of_mem member
    have highest := ordered (mt accounts.unique_eq_zero_iff.mp nonempty)
    have below := accounts.le_highWatermark other member
    have different : other.toNat ≠ sequence.toNat := by
      intro equal
      exact unseen (UInt32.toNat_inj.mp equal ▸ member)
    omega
  · intro above occupied
    have nonempty := mt accounts.unique_eq_zero_iff.mpr occupied
    exact (above _ (accounts.highWatermark_mem nonempty)).le

/-- What the tracker reports on a stream without repetitions and reordering, and
on no other one. -/
theorem countsExactly_iff (sequences : List UInt32) :
    (fresh.observeAll sequences).CountsExactly sequences.length ↔
      sequences.Pairwise fun earlier later => earlier.toNat < later.toNat := by
  induction sequences using List.reverseRecOn with
  | nil => exact iff_of_true ⟨rfl, rfl, rfl, rfl⟩ List.Pairwise.nil
  | append_singleton sequences sequence induction =>
      have accounts := observeAll_accounts sequences
      rw [observeAll_concat, List.length_append, List.length_singleton, List.pairwise_append]
      rcases observe_cases accounts.remembers sequence with
        ⟨given, result⟩ | ⟨given, result⟩ | ⟨given, blocks, epochs, result, -⟩
      · -- A retired number is below one that was observed.
        rw [result]
        apply iff_of_false
        · intro exact
          exact absurd exact.outOfWindow (Nat.succ_ne_zero _)
        · rintro ⟨-, -, above⟩
          rcases verdict_eq_retired_iff.mp given with ⟨other, member, slot, newer⟩
          have below := above other (List.mem_toFinset.mp member) sequence List.mem_cons_self
          rw [epochOf_eq, epochOf_eq] at newer
          omega
      · rw [result]
        apply iff_of_false
        · intro exact
          exact absurd exact.duplicates (Nat.succ_ne_zero _)
        · rintro ⟨-, -, above⟩
          have member := List.mem_toFinset.mp (verdict_eq_duplicate_iff.mp given).2
          exact lt_irrefl _ (above sequence member sequence List.mem_cons_self)
      · have unseen : sequence ∉ sequences := fun member =>
          (verdict_eq_fresh_iff.mp given).2 (List.mem_toFinset.mpr member)
        rw [result]
        constructor
        · intro exact
          rcases countUnique_reordered_eq_zero_iff.mp exact.reordered with ⟨reordered, ordered⟩
          have earlier : (fresh.observeAll sequences).CountsExactly sequences.length :=
            ⟨Nat.succ.inj exact.unique, exact.duplicates, reordered, exact.outOfWindow⟩
          refine ⟨induction.mp earlier, List.pairwise_singleton _ _, ?_⟩
          intro other member _ same
          rw [List.mem_singleton.mp same]
          exact (accounts.highWatermark_le_iff unseen).mp ordered other member
        · rintro ⟨increasing, -, above⟩
          have earlier := induction.mpr increasing
          refine ⟨congrArg Nat.succ earlier.unique, earlier.duplicates, ?_, earlier.outOfWindow⟩
          apply countUnique_reordered_eq_zero_iff.mpr
          refine ⟨earlier.reordered, (accounts.highWatermark_le_iff unseen).mpr ?_⟩
          exact fun other member => above other member sequence List.mem_cons_self

end NetLatencyLab.SequenceTracker
