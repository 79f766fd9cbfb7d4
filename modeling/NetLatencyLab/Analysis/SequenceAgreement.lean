import NetLatencyLab.Analysis.LatencyUtils
import NetLatencyLab.Common.SequenceAccounting

/-! # The online tracker agrees with the offline statistics

As long as nothing has left its window, the bounded tracker computes what the
analysis computes from the complete list. -/

namespace NetLatencyLab.LatencyUtils

open SequenceTracker Deduplication

def asIntegers (sequences : List UInt32) : List Int :=
  sequences.map fun sequence => (sequence.toNat : Int)

theorem natCast_toNat_injective : Function.Injective fun sequence : UInt32 =>
    (sequence.toNat : Int) := by
  intro left right equal
  exact UInt32.toNat_inj.mp (Int.ofNat.inj equal)

theorem mem_asIntegers {sequences : List UInt32} {sequence : UInt32} :
    (sequence.toNat : Int) ∈ asIntegers sequences ↔ sequence ∈ sequences :=
  List.mem_map_of_injective natCast_toNat_injective

theorem dedup_asIntegers_length (sequences : List UInt32) :
    (asIntegers sequences).dedup.length = sequences.toFinset.card := by
  rw [asIntegers, List.dedup_map_of_injective natCast_toNat_injective, List.length_map,
    List.card_toFinset]

/-! ## Reordering -/

/-- The arrival scan and a tracker that has retired nothing agree on the
watermark, the reordered count and the numbers seen. -/
structure Mirrors (scan : ArrivalScan) (tracker : SequenceTracker)
    (sequences : List UInt32) : Prop where
  highWatermark : scan.highWatermark = tracker.highWatermark.toNat
  reordered : scan.reordered = tracker.reordered
  seen : ∀ sequence : UInt32, (sequence.toNat : Int) ∈ scan.seen ↔ sequence ∈ sequences

theorem Mirrors.step {scan : ArrivalScan} {tracker : SequenceTracker}
    {sequences : List UInt32} (mirrors : Mirrors scan tracker sequences)
    (accounts : tracker.Accounts sequences) (nonempty : sequences ≠ []) {sequence : UInt32}
    (kept : verdict Retires sequences.toFinset sequence ≠ .retired) :
    Mirrors (scan.step sequence.toNat) (tracker.observe sequence).1
      (sequences ++ [sequence]) := by
  have occupied := mt accounts.unique_eq_zero_iff.mp nonempty
  have seen : ∀ other : UInt32, (other.toNat : Int) ∈ (scan.step sequence.toNat).seen ↔
      other ∈ sequences ++ [sequence] := by
    intro other
    have same : (other.toNat : Int) = sequence.toNat ↔ other = sequence :=
      natCast_toNat_injective.eq_iff
    rw [ArrivalScan.step, Finset.mem_insert, same, mirrors.seen, List.mem_append,
      List.mem_singleton, or_comm]
  rcases observe_cases accounts.remembers sequence with
    ⟨given, _⟩ | ⟨given, result⟩ | ⟨given, blocks, epochs, result, _⟩
  · exact absurd given kept
  · have member : sequence ∈ sequences :=
      List.mem_toFinset.mp (verdict_eq_duplicate_iff.mp given).2
    have below := accounts.le_highWatermark sequence member
    refine ⟨?_, ?_, seen⟩
    · simp only [ArrivalScan.step, mirrors.highWatermark, result]
      omega
    · simp [ArrivalScan.step, (mirrors.seen sequence).mpr member, mirrors.reordered, result]
  · have unseen : sequence ∉ sequences := fun member =>
      (verdict_eq_fresh_iff.mp given).2 (List.mem_toFinset.mpr member)
    refine ⟨?_, ?_, seen⟩
    · simp only [ArrivalScan.step, mirrors.highWatermark, result, countUnique_highWatermark]
      omega
    · have unseenScan := mt (mirrors.seen sequence).mp unseen
      simp only [ArrivalScan.step, result, countUnique, mirrors.highWatermark, mirrors.reordered,
        UInt32.lt_iff_toNat_lt, Int.ofNat_lt, unseenScan, not_false_eq_true, true_and, occupied,
        ne_eq]
      split <;> simp

private theorem observe_fresh_reordered (first : UInt32) :
    (fresh.observe first).1.reordered = 0 := by
  rcases observe_cases fresh_remembers first with
    ⟨given, _⟩ | ⟨given, _⟩ | ⟨_, blocks, epochs, result, _⟩
  · rcases verdict_eq_retired_iff.mp given with ⟨other, member, _⟩
    simp at member
  · have member := (verdict_eq_duplicate_iff.mp given).2
    simp at member
  · rw [result]
    rfl

private theorem mirrors_first (first : UInt32) :
    Mirrors (scanArrivals first.toNat (asIntegers [first])) (fresh.observeAll [first])
      [first] := by
  have accounts := observeAll_accounts [first]
  have member := accounts.highWatermark_mem (List.cons_ne_nil first [])
  rw [List.mem_singleton] at member
  refine ⟨?_, ?_, ?_⟩
  · rw [member]
    simp [scanArrivals, asIntegers, ArrivalScan.step]
  · simp [scanArrivals, asIntegers, ArrivalScan.step, observeAll, observe_fresh_reordered]
  · intro sequence
    have same : (sequence.toNat : Int) = first.toNat ↔ sequence = first :=
      natCast_toNat_injective.eq_iff
    simp [scanArrivals, asIntegers, ArrivalScan.step, same]

private theorem scanArrivals_mirrors (first : UInt32) (rest : List UInt32) :
    retiredCount Retires ∅ (first :: rest) = 0 →
      Mirrors (scanArrivals first.toNat (asIntegers (first :: rest)))
        (fresh.observeAll (first :: rest)) (first :: rest) := by
  induction rest using List.reverseRecOn with
  | nil => exact fun _ => mirrors_first first
  | append_singleton rest sequence induction =>
      intro exact
      rw [← List.cons_append] at exact ⊢
      rw [retiredCount_concat, Finset.empty_union] at exact
      have kept : verdict Retires (first :: rest).toFinset sequence ≠ .retired := by
        intro given
        rw [if_pos given] at exact
        omega
      have earlier := induction (by omega)
      have next := earlier.step (observeAll_accounts _) (List.cons_ne_nil _ _) kept
      rw [observeAll_concat, asIntegers, List.map_append, List.map_singleton, scanArrivals_concat]
      exact next

/-! ## Agreement -/

theorem gapSum_asIntegers {sequences : List UInt32} (nonempty : sequences ≠ []) :
    gapSum ((asIntegers sequences).dedup.insertionSort (· ≤ ·)) = missing sequences := by
  have accounts := observeAll_accounts sequences
  have permuted := List.perm_insertionSort (· ≤ ·) (asIntegers sequences).dedup
  have member : ∀ value, value ∈ (asIntegers sequences).dedup.insertionSort (· ≤ ·) ↔
      value ∈ asIntegers sequences := by
    intro value
    rw [permuted.mem_iff, List.mem_dedup]
  have increasing :
      ((asIntegers sequences).dedup.insertionSort (· ≤ ·)).Pairwise (· < ·) := by
    have sorted := List.pairwise_insertionSort (· ≤ ·) (asIntegers sequences).dedup
    have distinct := permuted.nodup_iff.mpr (List.nodup_dedup _)
    exact (sorted.and distinct).imp fun both => lt_of_le_of_ne both.1 both.2
  have least : ∀ value ∈ (asIntegers sequences).dedup.insertionSort (· ≤ ·),
      ((fresh.observeAll sequences).minimum.toNat : Int) ≤ value := by
    intro value present
    rcases List.mem_map.mp ((member value).mp present) with ⟨sequence, observed, rfl⟩
    exact Int.ofNat_le.mpr (accounts.minimum_le sequence observed)
  have greatest : ∀ value ∈ (asIntegers sequences).dedup.insertionSort (· ≤ ·),
      value ≤ ((fresh.observeAll sequences).highWatermark.toNat : Int) := by
    intro value present
    rcases List.mem_map.mp ((member value).mp present) with ⟨sequence, observed, rfl⟩
    exact Int.ofNat_le.mpr (accounts.le_highWatermark sequence observed)
  have minimumMem := (member _).mpr (mem_asIntegers.mpr (accounts.minimum_mem nonempty))
  have maximumMem := (member _).mpr (mem_asIntegers.mpr (accounts.highWatermark_mem nonempty))
  rw [gapSum_eq increasing minimumMem least maximumMem greatest, permuted.length_eq,
    dedup_asIntegers_length, accounts.missing_eq nonempty]

/-- On every stream that stays inside the window the bounded tracker reports the
statistics of the complete list. -/
theorem tracker_agrees_with_statistics (sequences : List UInt32)
    (inside : (fresh.observeAll sequences).outOfWindow = 0) :
    let tracker := fresh.observeAll sequences
    sequenceStatistics (asIntegers sequences) =
      { sequenceGapLoss := tracker.gaps
        duplicates := tracker.duplicates
        reordered := tracker.reordered } := by
  intro tracker
  have accounts : tracker.Accounts sequences := observeAll_accounts sequences
  have kept : tracker.outOfWindow = 0 := inside
  cases sequences with
  | nil => rfl
  | cons first rest =>
      have exact : retiredCount Retires ∅ (first :: rest) = 0 :=
        accounts.outOfWindow.symm.trans inside
      have bounds := accounts.gaps_bounds
      have unique : tracker.unique = (first :: rest).toFinset.card := unique_eq_card inside
      have total := uniqueCount_add_duplicateCount Retires ∅ (first :: rest)
      rw [← accounts.unique, ← accounts.duplicates] at total
      have lengths : (asIntegers (first :: rest)).length = (first :: rest).length :=
        List.length_map ..
      have computed : sequenceStatistics (asIntegers (first :: rest)) =
          { sequenceGapLoss := gapSum ((asIntegers (first :: rest)).dedup.insertionSort (· ≤ ·))
            duplicates := (asIntegers (first :: rest)).length -
              (asIntegers (first :: rest)).dedup.length
            reordered := (scanArrivals first.toNat (asIntegers (first :: rest))).reordered } := rfl
      rw [computed, SequenceStatistics.mk.injEq]
      refine ⟨?_, ?_, (scanArrivals_mirrors first rest exact).reordered⟩
      · rw [gapSum_asIntegers (List.cons_ne_nil first rest)]
        omega
      · rw [dedup_asIntegers_length, lengths]
        omega

/-- The example of the tests of both programs. -/
theorem tracker_agrees_on_test_trace :
    sequenceStatistics [10, 11, 13, 13, 12, 15] =
      { sequenceGapLoss := (fresh.observeAll [10, 11, 13, 13, 12, 15]).gaps
        duplicates := (fresh.observeAll [10, 11, 13, 13, 12, 15]).duplicates
        reordered := (fresh.observeAll [10, 11, 13, 13, 12, 15]).reordered } :=
  tracker_agrees_with_statistics [10, 11, 13, 13, 12, 15] (by decide)

end NetLatencyLab.LatencyUtils
