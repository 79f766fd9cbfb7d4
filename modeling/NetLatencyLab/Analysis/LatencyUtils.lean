import Mathlib.Algebra.BigOperators.Group.List.Basic
import Mathlib.Algebra.Order.Ring.Int
import Mathlib.Data.Finset.Insert
import Mathlib.Data.List.Dedup
import Mathlib.Data.List.Pairwise
import Mathlib.Data.List.Sort

/-! # Offline sequence statistics

`sequence_statistics` of the analysis scripts, with unbounded sets and sorting
in place of the tracker's ring. -/

namespace NetLatencyLab.LatencyUtils

structure SequenceStatistics where
  sequenceGapLoss : Int
  duplicates : Int
  reordered : Int
deriving DecidableEq

structure ArrivalScan where
  highWatermark : Int
  reordered : Int
  seen : Finset Int
deriving DecidableEq

def ArrivalScan.step (scan : ArrivalScan) (value : Int) : ArrivalScan where
  reordered :=
    if value ∉ scan.seen ∧ value < scan.highWatermark then scan.reordered + 1
    else scan.reordered
  highWatermark := max scan.highWatermark value
  seen := insert value scan.seen

def scanArrivals (first : Int) (values : List Int) : ArrivalScan :=
  values.foldl ArrivalScan.step { highWatermark := first, reordered := 0, seen := ∅ }

/-- `sum(max(0, right - left - 1) for left, right in zip(unique, unique[1:]))`. -/
def gapSum (unique : List Int) : Int :=
  ((unique.zip unique.tail).map fun pair => max 0 (pair.2 - pair.1 - 1)).sum

def sequenceStatistics : (sequence : List Int) → SequenceStatistics
  | [] => { sequenceGapLoss := 0, duplicates := 0, reordered := 0 }
  | first :: rest =>
      let values := first :: rest
      { sequenceGapLoss := gapSum (values.dedup.insertionSort (· ≤ ·))
        duplicates := values.length - values.dedup.length
        reordered := (scanArrivals first values).reordered }

example : sequenceStatistics [10, 11, 13, 13, 12, 15] = ⟨1, 1, 1⟩ := by decide

@[simp] theorem scanArrivals_concat (first : Int) (values : List Int) (value : Int) :
    scanArrivals first (values ++ [value]) = (scanArrivals first values).step value := by
  simp [scanArrivals]

/-- The gaps of a strictly increasing list telescope to the span it leaves
uncovered. -/
theorem gapSum_eq_span (first : Int) (rest : List Int)
    (increasing : (first :: rest).Pairwise (· < ·)) :
    gapSum (first :: rest) =
      (first :: rest).getLast (List.cons_ne_nil _ _) - first - rest.length := by
  induction rest generalizing first with
  | nil => simp [gapSum]
  | cons second rest induction =>
      have ordered : first < second := List.rel_of_pairwise_cons increasing (List.mem_cons_self ..)
      have later := induction second (List.Pairwise.of_cons increasing)
      simp only [gapSum, List.tail_cons, List.zip_cons_cons, List.map_cons, List.sum_cons] at later ⊢
      rw [later, List.getLast_cons (List.cons_ne_nil second rest)]
      rw [List.length_cons]
      omega

theorem gapSum_eq {unique : List Int} (increasing : unique.Pairwise (· < ·)) {low high : Int}
    (lowMem : low ∈ unique) (lowLe : ∀ value ∈ unique, low ≤ value)
    (highMem : high ∈ unique) (leHigh : ∀ value ∈ unique, value ≤ high) :
    gapSum unique = high - low + 1 - unique.length := by
  cases unique with
  | nil => cases lowMem
  | cons first rest =>
      have firstLow : first = low := by
        rcases List.mem_cons.mp lowMem with same | later
        · exact same.symm
        · have less := List.rel_of_pairwise_cons increasing later
          have bound := lowLe first (List.mem_cons_self ..)
          omega
      have lastHigh : (first :: rest).getLast (List.cons_ne_nil _ _) = high := by
        apply le_antisymm
        · exact leHigh _ (List.getLast_mem _)
        · exact (increasing.imp fun less => le_of_lt less).rel_getLast highMem
      rw [gapSum_eq_span first rest increasing, lastHigh, firstLow]
      rw [List.length_cons]
      omega

end NetLatencyLab.LatencyUtils
