import NetLatencyLab.Common.SequenceAccounting

/-! # The lookback of the tracker

The ring retains whole blocks. A number less than the size of the ring below the
highest one may lie sixteen blocks behind it, and its block is then taken over. -/

namespace NetLatencyLab.SequenceTracker

open Deduplication

/-- The largest number observed. -/
def highest (sequences : List UInt32) : Nat := (sequences.map UInt32.toNat).max?.getD 0

def lookback : Nat := blockCount * blockSize

/-- The arrival is less than the lookback below the largest number so far. -/
def WithinLookback (before : List UInt32) (sequence : UInt32) : Prop :=
  highest before < sequence.toNat + lookback

/-- The arrival is tested, and rejected just when it was seen before. -/
def Recognised (before : List UInt32) (sequence : UInt32) : Prop :=
  ((fresh.observeAll before).observe sequence).1.outOfWindow =
      (fresh.observeAll before).outOfWindow ∧
    (((fresh.observeAll before).observe sequence).2 = false ↔ sequence ∈ before)

variable {before : List UInt32} {sequence : UInt32}

private theorem le_highest (member : sequence ∈ before) : sequence.toNat ≤ highest before := by
  have accounts := observeAll_accounts before
  rw [highest, accounts.max?_eq (List.ne_nil_of_mem member)]
  exact accounts.le_highWatermark sequence member

private theorem exists_mem_highest (nonempty : before ≠ []) :
    ∃ other ∈ before, other.toNat = highest before := by
  have accounts := observeAll_accounts before
  rw [highest, accounts.max?_eq nonempty]
  exact ⟨_, accounts.highWatermark_mem nonempty, rfl⟩

/-- Inside the lookback only the block of the largest number can have retired an
arrival, sixteen blocks below. -/
theorem retired_iff (near : WithinLookback before sequence) :
    Retired Retires before.toFinset sequence ↔
      sequence.toNat / blockSize + blockCount ≤ highest before / blockSize := by
  rw [WithinLookback, show lookback = 65536 from rfl] at near
  rw [show blockSize = 4096 from rfl, show blockCount = 16 from rfl]
  constructor
  · intro retired
    rcases retired with ⟨other, member, slot, newer⟩
    have slots := congrArg Fin.val slot
    rw [slotOf_val, slotOf_val] at slots
    rw [epochOf_eq, epochOf_eq] at newer
    have below := le_highest (List.mem_toFinset.mp member)
    omega
  · intro behind
    have nonempty : before ≠ [] := by
      intro empty
      rw [empty] at behind
      exact absurd behind (by simp [highest])
    rcases exists_mem_highest nonempty with ⟨other, member, same⟩
    refine ⟨other, List.mem_toFinset.mpr member, ?_, ?_⟩
    · apply Fin.ext
      rw [slotOf_val, slotOf_val]
      omega
    · rw [epochOf_eq, epochOf_eq]
      omega

theorem recognised_iff :
    Recognised before sequence ↔ ¬ Retired Retires before.toFinset sequence := by
  rw [Recognised]
  rcases observe_cases (observeAll_accounts before).remembers sequence with
    ⟨given, result⟩ | ⟨given, result⟩ | ⟨given, blocks, epochs, result, _⟩
  · rw [result]
    apply iff_of_false
    · intro recognised
      exact absurd recognised.1 (Nat.succ_ne_self _)
    · exact not_not.mpr (verdict_eq_retired_iff.mp given)
  · rw [result]
    rcases verdict_eq_duplicate_iff.mp given with ⟨kept, member⟩
    exact iff_of_true ⟨rfl, iff_of_true rfl (List.mem_toFinset.mp member)⟩ kept
  · rw [result]
    rcases verdict_eq_fresh_iff.mp given with ⟨kept, unseen⟩
    have absent : sequence ∉ before := mt List.mem_toFinset.mpr unseen
    exact iff_of_true ⟨rfl, iff_of_false nofun absent⟩ kept

/-- In a stream, the arrivals inside the lookback are all recognised exactly
when none of them is sixteen blocks behind the largest number. -/
theorem lookback_exact_iff (stream : List UInt32) :
    (∀ before sequence after, stream = before ++ sequence :: after →
      WithinLookback before sequence → Recognised before sequence) ↔
    ∀ before sequence after, stream = before ++ sequence :: after →
      WithinLookback before sequence →
        highest before / blockSize < sequence.toNat / blockSize + blockCount := by
  constructor
  · intro recognised before sequence after split near
    rw [← Nat.not_le, ← retired_iff near, ← recognised_iff]
    exact recognised before sequence after split near
  · intro close before sequence after split near
    rw [recognised_iff, retired_iff near, Nat.not_le]
    exact close before sequence after split near

/-- The duplicate of 4095 is 61441 below the largest number. -/
theorem duplicate_inside_lookback_is_missed :
    WithinLookback [4095, 65536] 4095 ∧ (4095 : UInt32) ∈ [4095, (65536 : UInt32)] ∧
      ((fresh.observeAll [4095, 65536]).observe 4095).2 = true ∧
      ((fresh.observeAll [4095, 65536]).observe 4095).1.outOfWindow = 1 := by
  have near : WithinLookback [4095, 65536] 4095 := by
    change 65536 < 4095 + 65536
    omega
  refine ⟨near, List.mem_cons_self, ?_, ?_⟩
  · decide
  · decide

end NetLatencyLab.SequenceTracker
