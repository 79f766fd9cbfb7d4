import Mathlib.Order.Bounds.Basic
import NetLatencyLab.Sender.Common

/-! # The size of a batch

`adaptive_batch_count` in the widths of the source, and what it returns: the
longest batch that the limit, the window and the maximum allow. -/

namespace NetLatencyLab.Sender

/-! ## 128 bits -/

/-- A result in `uint128`. -/
def wide (value : Nat) : Nat := value % 2 ^ 128

/-- A difference in `uint128`. -/
def wideSub (left right : Nat) : Nat := wide (left + 2 ^ 128 - right)

theorem wide_eq {value : Nat} (fits : value < 2 ^ 128) : wide value = value := Nat.mod_eq_of_lt fits

private theorem wideSub_eq {left right : Nat} (fits : left < 2 ^ 128) (ordered : right ≤ left) :
    wideSub left right = left - right := by
  rw [wideSub, wide, Nat.sub_add_comm ordered, Nat.add_mod_right, Nat.mod_eq_of_lt (by omega)]

section Wide

variable (firstPacketIndex packetLimit packetStride ratePps batchWindowNs : Nat)

/-- The loop as it is computed: `count` has 32 bits, everything else 128. -/
def adaptiveLoopWide : (remaining count : Nat) → Nat
  | 0, count => count
  | remaining + 1, count =>
      let firstOffset := wide (firstPacketIndex * nanosecondsPerSecond) / ratePps
      let index := wide (firstPacketIndex + wide (count * packetStride))
      if index ≥ packetLimit then count
      else
        let offset := wide (index * nanosecondsPerSecond) / ratePps
        if wideSub offset firstOffset > batchWindowNs then count
        else adaptiveLoopWide remaining ((count + 1) % 2 ^ 32)

def adaptiveBatchCountWide (batchMax : Nat) : Nat :=
  if firstPacketIndex ≥ packetLimit ∨ packetStride = 0 ∨ batchMax = 0 then 0
  else
    adaptiveLoopWide firstPacketIndex packetLimit packetStride ratePps batchWindowNs (batchMax - 1) 1

variable {firstPacketIndex packetLimit packetStride ratePps batchWindowNs}

theorem offset_le_offset {index other : Nat} (ordered : index ≤ other) (ratePps : Nat) :
    index * nanosecondsPerSecond / ratePps ≤ other * nanosecondsPerSecond / ratePps :=
  Nat.div_le_div_right (Nat.mul_le_mul_right _ ordered)

/-- The values of one pass of the loop fit in 128 bits, and its difference is
one of a larger and a smaller number. -/
structure FitsWide (firstPacketIndex packetLimit packetStride ratePps count : Nat) : Prop where
  stride : count * packetStride < 2 ^ 128
  index : firstPacketIndex + count * packetStride < 2 ^ 128
  first : firstPacketIndex * nanosecondsPerSecond < 2 ^ 128
  product : firstPacketIndex + count * packetStride < packetLimit →
    (firstPacketIndex + count * packetStride) * nanosecondsPerSecond < 2 ^ 128
  ordered : firstPacketIndex * nanosecondsPerSecond / ratePps ≤
    (firstPacketIndex + count * packetStride) * nanosecondsPerSecond / ratePps

theorem fitsWide (first : firstPacketIndex < 2 ^ 64) (limit : packetLimit < 2 ^ 64)
    (stride : packetStride < 2 ^ 64) (ratePps : Nat) {count : Nat} (small : count < 2 ^ 32) :
    FitsWide firstPacketIndex packetLimit packetStride ratePps count := by
  have product : count * packetStride < 2 ^ 32 * 2 ^ 64 :=
    Nat.mul_lt_mul'' small stride
  exact {
    stride := by omega
    index := by omega
    first := by rw [nanosecondsPerSecond]; omega
    product := by
      intro inside
      rw [nanosecondsPerSecond]
      omega
    ordered := offset_le_offset (Nat.le_add_right _ _) ratePps }

private theorem adaptiveLoopWide_eq (first : firstPacketIndex < 2 ^ 64)
    (limit : packetLimit < 2 ^ 64)
    (stride : packetStride < 2 ^ 64) {remaining count : Nat} (small : count + remaining < 2 ^ 32) :
    adaptiveLoopWide firstPacketIndex packetLimit packetStride ratePps batchWindowNs remaining
        count =
      adaptiveLoop firstPacketIndex packetLimit packetStride ratePps batchWindowNs remaining
        count := by
  induction remaining generalizing count with
  | zero => rfl
  | succ remaining induction =>
      have fits := fitsWide first limit stride ratePps (show count < 2 ^ 32 by omega)
      rw [adaptiveLoopWide, adaptiveLoop, wide_eq fits.stride, wide_eq fits.index,
        wide_eq fits.first, Nat.mod_eq_of_lt (show count + 1 < 2 ^ 32 by omega),
        induction (by omega)]
      by_cases outside : firstPacketIndex + count * packetStride ≥ packetLimit
      · rw [if_pos outside, if_pos outside]
      · have product := fits.product (Nat.lt_of_not_ge outside)
        have quotient := Nat.div_le_self
          ((firstPacketIndex + count * packetStride) * nanosecondsPerSecond) ratePps
        have difference := wideSub_eq (Nat.lt_of_le_of_lt quotient product) fits.ordered
        rw [if_neg outside, if_neg outside, wide_eq product]
        simp only [difference]

theorem adaptiveBatchCountWide_eq (first : firstPacketIndex < 2 ^ 64)
    (limit : packetLimit < 2 ^ 64) (stride : packetStride < 2 ^ 64) {batchMax : Nat}
    (small : batchMax < 2 ^ 32) :
    adaptiveBatchCountWide firstPacketIndex packetLimit packetStride ratePps batchWindowNs batchMax =
      adaptiveBatchCount firstPacketIndex packetLimit packetStride ratePps batchWindowNs
        batchMax := by
  rw [adaptiveBatchCountWide, adaptiveBatchCount]
  split
  · rfl
  · exact adaptiveLoopWide_eq first limit stride (by omega)

end Wide

/-! ## The longest batch -/

section Longest

variable (firstPacketIndex packetLimit packetStride ratePps batchWindowNs : Nat)

/-- The packets of a batch of this size are below the limit and due within the
window of its first one. -/
def Admits (count : Nat) : Prop :=
  ∀ offset < count, firstPacketIndex + offset * packetStride < packetLimit ∧
    (firstPacketIndex + offset * packetStride) * nanosecondsPerSecond / ratePps ≤
      firstPacketIndex * nanosecondsPerSecond / ratePps + batchWindowNs

variable {firstPacketIndex packetLimit packetStride ratePps batchWindowNs}

private theorem adaptiveLoop_spec {remaining count : Nat}
    (admitted : Admits firstPacketIndex packetLimit packetStride ratePps batchWindowNs count) :
    let result :=
      adaptiveLoop firstPacketIndex packetLimit packetStride ratePps batchWindowNs remaining count
    count ≤ result ∧ result ≤ count + remaining ∧
      Admits firstPacketIndex packetLimit packetStride ratePps batchWindowNs result ∧
      (result = count + remaining ∨
        ¬ Admits firstPacketIndex packetLimit packetStride ratePps batchWindowNs (result + 1)) := by
  induction remaining generalizing count with
  | zero => exact ⟨Nat.le_refl _, Nat.le_refl _, admitted, Or.inl rfl⟩
  | succ remaining induction =>
      simp only [adaptiveLoop]
      split
      next outside =>
        refine ⟨Nat.le_refl _, Nat.le_add_right _ _, admitted, Or.inr ?_⟩
        intro more
        have last := (more count (Nat.lt_succ_self count)).1
        omega
      next inside =>
        split
        next late =>
          refine ⟨Nat.le_refl _, Nat.le_add_right _ _, admitted, Or.inr ?_⟩
          intro more
          have last := (more count (Nat.lt_succ_self count)).2
          omega
        next early =>
          have next : Admits firstPacketIndex packetLimit packetStride ratePps batchWindowNs
              (count + 1) := by
            intro offset below
            rcases Nat.lt_succ_iff_lt_or_eq.mp below with before | same
            · exact admitted offset before
            · subst same
              exact ⟨Nat.lt_of_not_ge inside, by omega⟩
          rcases induction next with ⟨lower, upper, admits, stops⟩
          refine ⟨by omega, by omega, admits, ?_⟩
          rcases stops with full | blocked
          · exact Or.inl (by omega)
          · exact Or.inr blocked

theorem adaptiveBatchCount_isGreatest (left : firstPacketIndex < packetLimit)
    (stride : 1 ≤ packetStride) {batchMax : Nat} (room : 1 ≤ batchMax) :
    IsGreatest {count | (1 ≤ count ∧ count ≤ batchMax) ∧
        Admits firstPacketIndex packetLimit packetStride ratePps batchWindowNs count}
      (adaptiveBatchCount firstPacketIndex packetLimit packetStride ratePps batchWindowNs
        batchMax) := by
  have guard : ¬(firstPacketIndex ≥ packetLimit ∨ packetStride = 0 ∨ batchMax = 0) := by omega
  have single : Admits firstPacketIndex packetLimit packetStride ratePps batchWindowNs 1 := by
    intro offset below
    rw [Nat.lt_one_iff.mp below, Nat.zero_mul, Nat.add_zero]
    exact ⟨left, Nat.le_add_right _ _⟩
  rw [adaptiveBatchCount, if_neg guard]
  rcases adaptiveLoop_spec single with ⟨lower, upper, admits, stops⟩
  refine ⟨⟨⟨lower, upper.trans (by omega)⟩, admits⟩, ?_⟩
  intro count member
  rcases member with ⟨⟨_, bounded⟩, other⟩
  rcases stops with full | blocked
  · omega
  · by_contra larger
    exact blocked fun offset below => other offset (by omega)

end Longest

end NetLatencyLab.Sender
