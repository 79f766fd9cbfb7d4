import Mathlib.Data.List.Sort
import Mathlib.Data.Rat.Floor
import Mathlib.Tactic.Linarith

/-! # Ranks in a sorted list

How many values a value of given rank leaves below and above it. -/

namespace NetLatencyLab.OrderStatistics

variable {Value : Type*} [LinearOrder Value] {values : List Value} {index : Nat} {bound : Value}

theorem countP_lt_le (sorted : values.Pairwise (· ≤ ·)) (inside : index < values.length)
    (reaches : bound ≤ values[index]) : values.countP (· < bound) ≤ index := by
  induction values generalizing index with
  | nil => cases inside
  | cons first values induction =>
      rcases List.pairwise_cons.mp sorted with ⟨least, sorted⟩
      cases index with
      | zero =>
          apply (List.countP_eq_zero.mpr _).le
          intro value member
          rw [decide_eq_true_eq, not_lt]
          rcases List.mem_cons.mp member with same | later
          · rw [same]
            exact reaches
          · exact le_trans reaches (least value later)
      | succ index =>
          have rest := induction sorted (Nat.lt_of_succ_lt_succ inside) reaches
          rw [List.countP_cons]
          split
          · exact Nat.succ_le_succ rest
          · exact rest.trans (Nat.le_succ index)

theorem countP_gt_le (sorted : values.Pairwise (· ≤ ·)) (inside : index < values.length)
    (keeps : values[index] ≤ bound) :
    values.countP (bound < ·) ≤ values.length - 1 - index := by
  induction values generalizing index with
  | nil => cases inside
  | cons first values induction =>
      rcases List.pairwise_cons.mp sorted with ⟨least, sorted⟩
      have below : first ≤ bound := by
        cases index with
        | zero => exact keeps
        | succ index => exact le_trans (least _ (List.getElem_mem _)) keeps
      rw [List.countP_cons, if_neg (by simpa using below), Nat.add_zero]
      cases index with
      | zero => exact List.countP_le_length
      | succ index =>
          have rest := induction sorted (Nat.lt_of_succ_lt_succ inside) keeps
          rw [List.length_cons]
          omega

theorem ceil_quantile_mem {quantile : ℚ} (positive : 0 < quantile) (proper : quantile ≤ 1)
    {size : Nat} (some : 0 < size) : 1 ≤ ⌈quantile * size⌉ ∧ ⌈quantile * size⌉ ≤ size := by
  have sized : (0 : ℚ) < size := by exact_mod_cast some
  constructor
  · exact Int.one_le_ceil_iff.mpr (mul_pos positive sized)
  · apply Int.ceil_le.mpr
    have product := mul_le_mul_of_nonneg_right proper sized.le
    rw [one_mul] at product
    exact_mod_cast product

end NetLatencyLab.OrderStatistics
