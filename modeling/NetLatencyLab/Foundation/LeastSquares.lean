import Mathlib.Algebra.BigOperators.Group.List.Basic
import Mathlib.Algebra.Order.BigOperators.Group.List
import Mathlib.Algebra.Order.Field.Basic
import Mathlib.Tactic.FieldSimp
import Mathlib.Tactic.Linarith
import Mathlib.Tactic.LinearCombination
import Mathlib.Tactic.Ring

/-! # Least-squares lines

The line through finitely many points with the least sum of squared residuals.
It is unique as soon as two points differ in their first coordinate. -/

namespace NetLatencyLab.LeastSquares

variable {K : Type*} [Field K]

structure Line (K : Type*) where
  slope : K
  intercept : K
deriving DecidableEq

namespace Line

def residual (line : Line K) (point : K × K) : K :=
  point.2 - (line.slope * point.1 + line.intercept)

/-- The sum of the squared residuals. -/
def error (line : Line K) (points : List (K × K)) : K :=
  (points.map fun point => line.residual point ^ 2).sum

def middle (line other : Line K) : Line K where
  slope := (line.slope + other.slope) / 2
  intercept := (line.intercept + other.intercept) / 2

def raise (line : Line K) (height : K) : Line K :=
  { line with intercept := line.intercept + height }

end Line

def Spread (points : List (K × K)) : Prop :=
  ∃ point ∈ points, ∃ other ∈ points, point.1 ≠ other.1

section Ordered

variable [LinearOrder K] [IsStrictOrderedRing K]

def IsBest (line : Line K) (points : List (K × K)) : Prop :=
  ∀ other : Line K, line.error points ≤ other.error points

private theorem error_nonneg (line : Line K) (points : List (K × K)) : 0 ≤ line.error points := by
  apply List.sum_nonneg
  intro square member
  rcases List.mem_map.mp member with ⟨point, -, rfl⟩
  exact sq_nonneg _

theorem IsBest.of_exact {line : Line K} {points : List (K × K)}
    (exact : ∀ point ∈ points, line.residual point = 0) : IsBest line points := by
  intro other
  have none : line.error points = 0 := by
    apply List.sum_eq_zero
    intro square member
    rcases List.mem_map.mp member with ⟨point, inside, rfl⟩
    rw [exact point inside, zero_pow two_ne_zero]
  rw [none]
  exact error_nonneg other points

omit [IsStrictOrderedRing K] in
theorem IsBest.raise {line : Line K} {points : List (K × K)} (best : IsBest line points)
    (height : K) :
    IsBest (line.raise height) (points.map fun point => (point.1, point.2 + height)) := by
  have same : ∀ other : Line K,
      other.error (points.map fun point => (point.1, point.2 + height)) =
        (other.raise (-height)).error points := by
    intro other
    rw [Line.error, Line.error, List.map_map]
    congr 1
    apply List.map_congr_left
    intro point _
    simp only [Function.comp_apply, Line.residual, Line.raise]
    ring
  intro other
  rw [same, same]
  have lowered : (line.raise height).raise (-height) = line := by
    simp [Line.raise]
  rw [lowered]
  exact best _

private theorem error_add_error (line other : Line K) (points : List (K × K)) :
    line.error points + other.error points =
      2 * (line.middle other).error points +
        (points.map fun point => (line.residual point - other.residual point) ^ 2).sum / 2 := by
  induction points with
  | nil => simp [Line.error]
  | cons point points induction =>
      simp only [Line.error, List.map_cons, List.sum_cons] at induction ⊢
      have here : line.residual point ^ 2 + other.residual point ^ 2 =
          2 * (line.middle other).residual point ^ 2 +
            (line.residual point - other.residual point) ^ 2 / 2 := by
        simp only [Line.residual, Line.middle]
        ring
      rw [add_add_add_comm, here, induction]
      ring

theorem IsBest.unique {line other : Line K} {points : List (K × K)} (best : IsBest line points)
    (otherBest : IsBest other points) (spread : Spread points) : line = other := by
  have agree : ∀ point ∈ points, line.residual point = other.residual point := by
    intro point member
    have total := error_add_error line other points
    have below := best (line.middle other)
    have otherBelow := otherBest (line.middle other)
    have single : (line.residual point - other.residual point) ^ 2 ≤
        (points.map fun point => (line.residual point - other.residual point) ^ 2).sum := by
      apply List.single_le_sum
      · intro square squareMember
        rcases List.mem_map.mp squareMember with ⟨_, -, rfl⟩
        exact sq_nonneg _
      · exact List.mem_map_of_mem member
    have none : (line.residual point - other.residual point) ^ 2 = 0 :=
      le_antisymm (by linarith) (sq_nonneg _)
    exact sub_eq_zero.mp (pow_eq_zero_iff two_ne_zero |>.mp none)
  rcases spread with ⟨point, member, next, nextMember, differ⟩
  have first := agree point member
  have second := agree next nextMember
  simp only [Line.residual] at first second
  have slopes : (line.slope - other.slope) * (point.1 - next.1) = 0 := by
    linear_combination second - first
  have slope : line.slope = other.slope :=
    sub_eq_zero.mp ((mul_eq_zero.mp slopes).resolve_right (sub_ne_zero.mpr differ))
  have intercept : line.intercept = other.intercept := by
    rw [slope] at first
    linear_combination -first
  cases line
  cases other
  simp only at slope intercept
  rw [slope, intercept]

end Ordered

/-! ## The line itself -/

structure Moments (K : Type*) where
  count : K
  x : K
  y : K
  xx : K
  xy : K

def moments (points : List (K × K)) : Moments K where
  count := points.length
  x := (points.map fun point => point.1).sum
  y := (points.map fun point => point.2).sum
  xx := (points.map fun point => point.1 ^ 2).sum
  xy := (points.map fun point => point.1 * point.2).sum

/-- The solution of the normal equations. -/
def bestLine (points : List (K × K)) : Line K :=
  let sums := moments points
  let slope := (sums.count * sums.xy - sums.x * sums.y) / (sums.count * sums.xx - sums.x ^ 2)
  { slope := slope
    intercept := (sums.y - slope * sums.x) / sums.count }

/-- Another line errs more by the squared distance of the lines, up to the
normal equations. -/
theorem error_eq (line other : Line K) (points : List (K × K)) :
    other.error points = line.error points +
      (points.map fun point => (line.residual point - other.residual point) ^ 2).sum +
      2 * (line.slope - other.slope) *
        ((moments points).xy - line.slope * (moments points).xx -
          line.intercept * (moments points).x) +
      2 * (line.intercept - other.intercept) *
        ((moments points).y - line.slope * (moments points).x -
          line.intercept * (moments points).count) := by
  induction points with
  | nil => simp [Line.error, moments]
  | cons point points induction =>
      simp only [Line.error, moments, List.map_cons, List.sum_cons, List.length_cons,
        Nat.cast_succ] at induction ⊢
      rw [induction]
      simp only [Line.residual]
      ring

section Ordered

variable [LinearOrder K] [IsStrictOrderedRing K]

private theorem spread_sum_pos {points : List (K × K)} (spread : Spread points) (center : K) :
    0 < (points.map fun point => (point.1 - center) ^ 2).sum := by
  rcases spread with ⟨point, member, next, nextMember, differ⟩
  have apart : point.1 - center ≠ 0 ∨ next.1 - center ≠ 0 := by
    by_contra neither
    push Not at neither
    exact differ (by linear_combination neither.1 - neither.2)
  have below : ∀ point ∈ points, (point.1 - center) ^ 2 ≤
      (points.map fun point => (point.1 - center) ^ 2).sum := by
    intro point member
    apply List.single_le_sum
    · intro square squareMember
      rcases List.mem_map.mp squareMember with ⟨_, -, rfl⟩
      exact sq_nonneg _
    · exact List.mem_map_of_mem member
  rcases apart with first | second
  · exact lt_of_lt_of_le (sq_pos_of_ne_zero first) (below point member)
  · exact lt_of_lt_of_le (sq_pos_of_ne_zero second) (below next nextMember)

omit [LinearOrder K] [IsStrictOrderedRing K] in
private theorem spread_sum_eq (points : List (K × K)) (center : K) :
    (points.map fun point => (point.1 - center) ^ 2).sum =
      (moments points).xx - 2 * center * (moments points).x +
        center ^ 2 * (moments points).count := by
  induction points with
  | nil => simp [moments]
  | cons point points induction =>
      simp only [moments, List.map_cons, List.sum_cons, List.length_cons, Nat.cast_succ]
        at induction ⊢
      rw [induction]
      ring

theorem determinant_ne_zero {points : List (K × K)} (spread : Spread points) :
    (moments points).count * (moments points).xx - (moments points).x ^ 2 ≠ 0 := by
  have occupied : (0 : K) < (moments points).count := by
    rcases spread with ⟨point, member, -⟩
    exact Nat.cast_pos.mpr (List.length_pos_of_mem member)
  have positive := spread_sum_pos spread ((moments points).x / (moments points).count)
  rw [spread_sum_eq] at positive
  have scaled := mul_pos occupied positive
  have same : (moments points).count *
      ((moments points).xx -
          2 * ((moments points).x / (moments points).count) * (moments points).x +
        ((moments points).x / (moments points).count) ^ 2 * (moments points).count) =
      (moments points).count * (moments points).xx - (moments points).x ^ 2 := by
    field_simp
    ring
  rw [same] at scaled
  exact ne_of_gt scaled

theorem bestLine_isBest {points : List (K × K)} (spread : Spread points) :
    IsBest (bestLine points) points := by
  have occupied : (0 : K) < (moments points).count := by
    rcases spread with ⟨point, member, -⟩
    exact Nat.cast_pos.mpr (List.length_pos_of_mem member)
  have determinant := determinant_ne_zero spread
  intro other
  have first : (moments points).y - (bestLine points).slope * (moments points).x -
      (bestLine points).intercept * (moments points).count = 0 := by
    simp only [bestLine]
    field_simp
    ring
  have second : (moments points).xy - (bestLine points).slope * (moments points).xx -
      (bestLine points).intercept * (moments points).x = 0 := by
    simp only [bestLine]
    field_simp
    ring
  rw [error_eq (bestLine points) other, first, second, mul_zero, mul_zero, add_zero, add_zero]
  apply le_add_of_nonneg_right
  apply List.sum_nonneg
  intro square member
  rcases List.mem_map.mp member with ⟨_, -, rfl⟩
  exact sq_nonneg _

end Ordered

/-! ## Level lines -/

def Uncorrelated (points : List (K × K)) : Prop :=
  (moments points).count * (moments points).xy = (moments points).x * (moments points).y

instance [DecidableEq K] (points : List (K × K)) : Decidable (Uncorrelated points) :=
  inferInstanceAs (Decidable (_ = _))

theorem uncorrelated_of_constant {points : List (K × K)} {height : K}
    (constant : ∀ point ∈ points, point.2 = height) : Uncorrelated points := by
  have sums : (moments points).xy = (moments points).x * height ∧
      (moments points).y = (moments points).count * height := by
    induction points with
    | nil => simp [moments]
    | cons point points induction =>
        have here := constant point List.mem_cons_self
        have there := induction fun other member => constant other (List.mem_cons_of_mem _ member)
        simp only [moments, List.map_cons, List.sum_cons, List.length_cons, Nat.cast_succ, here]
          at there ⊢
        rw [there.1, there.2]
        constructor
        · ring
        · ring
  rw [Uncorrelated, sums.1, sums.2]
  ring

theorem slope_eq_zero_iff [LinearOrder K] [IsStrictOrderedRing K] {line : Line K}
    {points : List (K × K)} (best : IsBest line points) (spread : Spread points) :
    line.slope = 0 ↔ Uncorrelated points := by
  rw [best.unique (bestLine_isBest spread) spread]
  simp only [bestLine]
  rw [div_eq_zero_iff, or_iff_left (determinant_ne_zero spread), sub_eq_zero]
  rfl

end NetLatencyLab.LeastSquares
