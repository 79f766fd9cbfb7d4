import Mathlib.Algebra.BigOperators.Group.List.Basic
import Mathlib.Algebra.Order.Ring.Nat

/-! # Histograms

A list of counts by size. Its sum counts the samples, its weighted sum adds up
their sizes. -/

namespace NetLatencyLab.Histogram

/-- `∑ size * count`, with `first` the size of the first count. -/
def weightedFrom (first : Nat) (histogram : List Nat) : Nat :=
  ((histogram.zipIdx first).map fun entry => entry.2 * entry.1).sum

/-- `∑ size * count`. -/
def weightedSum (histogram : List Nat) : Nat := weightedFrom 0 histogram

@[simp] theorem weightedFrom_nil (first : Nat) : weightedFrom first [] = 0 := rfl

@[simp] theorem weightedFrom_cons (first count : Nat) (histogram : List Nat) :
    weightedFrom first (count :: histogram) =
      first * count + weightedFrom (first + 1) histogram := by
  simp [weightedFrom]

/-! ## One more sample -/

theorem sum_modify (histogram : List Nat) {size : Nat} (inside : size < histogram.length) :
    (histogram.modify size (· + 1)).sum = histogram.sum + 1 := by
  induction histogram generalizing size with
  | nil => cases inside
  | cons count histogram induction =>
      cases size with
      | zero => simp; omega
      | succ size =>
          have rest := induction (Nat.lt_of_succ_lt_succ inside)
          simp only [List.modify_succ_cons, List.sum_cons, rest]
          omega

theorem weightedFrom_modify (histogram : List Nat) (first : Nat) {size : Nat}
    (inside : size < histogram.length) :
    weightedFrom first (histogram.modify size (· + 1)) =
      weightedFrom first histogram + (first + size) := by
  induction histogram generalizing first size with
  | nil => cases inside
  | cons count histogram induction =>
      cases size with
      | zero =>
          simp only [List.modify_zero_cons, weightedFrom_cons, Nat.mul_add, Nat.mul_one]
          omega
      | succ size =>
          have rest := induction (first + 1) (Nat.lt_of_succ_lt_succ inside)
          simp only [List.modify_succ_cons, weightedFrom_cons, rest]
          omega

/-! ## Two histograms together -/

theorem sum_zipWith {left right : List Nat} (same : left.length = right.length) :
    (List.zipWith (· + ·) left right).sum = left.sum + right.sum := by
  induction left generalizing right with
  | nil =>
      rcases List.length_eq_zero_iff.mp same.symm with rfl
      rfl
  | cons count left induction =>
      cases right with
      | nil => cases same
      | cons other right =>
          have rest := induction (Nat.succ.inj same)
          simp only [List.zipWith_cons_cons, List.sum_cons, rest]
          omega

theorem weightedFrom_zipWith {left right : List Nat} (first : Nat)
    (same : left.length = right.length) :
    weightedFrom first (List.zipWith (· + ·) left right) =
      weightedFrom first left + weightedFrom first right := by
  induction left generalizing right first with
  | nil =>
      rcases List.length_eq_zero_iff.mp same.symm with rfl
      rfl
  | cons count left induction =>
      cases right with
      | nil => cases same
      | cons other right =>
          have rest := induction (first + 1) (Nat.succ.inj same)
          simp only [List.zipWith_cons_cons, weightedFrom_cons, rest, Nat.mul_add]
          omega

end NetLatencyLab.Histogram
