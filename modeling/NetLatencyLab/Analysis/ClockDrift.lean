import NetLatencyLab.Analysis.BinaryLogLoader
import NetLatencyLab.Foundation.Grouping
import NetLatencyLab.Foundation.LeastSquares
import Mathlib.Algebra.Order.Field.Rat
import Mathlib.Data.List.MinMax
import Mathlib.Data.List.SplitLengths

/-! # Clock drift

`remove_clock_drift`: a line through the lowest latencies of up to twenty
chunks of the trace stands for the drift of the two clocks. -/

namespace NetLatencyLab.LatencyUtils

open Grouping (getD_max?_mem le_getD_max? length_dedup_le_one_iff)
open LeastSquares (Line Spread IsBest)

def receiveLatencyUs (row : Row) : ℚ := ((row.rxNs : ℚ) - row.txNs) / 1000

/-- `(rx_ns - rx_ns.iloc[0]) / 1e9`. -/
def elapsedSeconds (first row : Row) : ℚ := ((row.rxNs : ℚ) - first.rxNs) / 10 ^ 9

def windowSize : Nat := 1000

/-- The lengths that `np.array_split` gives its parts. -/
def partSizes (length count : Nat) : List Nat :=
  List.replicate (length % count) (length / count + 1) ++
    List.replicate (count - length % count) (length / count)

example : partSizes 10 4 = [3, 3, 2, 2] := by decide

def arraySplit (count : Nat) (frame : List Row) : List (List Row) :=
  (partSizes frame.length count).splitLengths frame

/-- The rows at the `argmin` of each chunk. -/
def chunkMinima (frame : List Row) : List Row :=
  (arraySplit (min 20 frame.length) frame).filterMap fun chunk => chunk.argmin receiveLatencyUs

/-- `zip(x_minima, y_minima)`. -/
def driftPoints (first : Row) (frame : List Row) : List (ℚ × ℚ) :=
  (chunkMinima frame).map fun row => (elapsedSeconds first row, receiveLatencyUs row)

/-- What the line is fitted to; `none` stands for the returns before the fit. -/
def fittedPoints : List Row → Option (Row × List (ℚ × ℚ))
  | [] => none
  | first :: rest =>
      let frame := first :: rest
      if frame.length < windowSize then none
      else if (frame.map (elapsedSeconds first)).max?.getD 0 ≤ 0 then none
      else if ((driftPoints first frame).map Prod.fst).dedup.length < 2 then none
      else some (first, driftPoints first frame)

/-- The corrected frame, as far as `summarize_run` reads it, and the slope. -/
structure Drift where
  latencyCorrectedUs : List ℚ
  clockCorrectionApplied : Bool
  slope : ℚ
deriving DecidableEq

/-- `polyfit` is `np.polyfit(x, y, 1)`. -/
def removeClockDrift (polyfit : List (ℚ × ℚ) → Line ℚ) (frame : List Row) : Drift :=
  match fittedPoints frame with
  | none =>
      { latencyCorrectedUs := frame.map receiveLatencyUs
        clockCorrectionApplied := false
        slope := 0 }
  | some (first, points) =>
      let slope := (polyfit points).slope
      { latencyCorrectedUs :=
          frame.map fun row => receiveLatencyUs row - slope * elapsedSeconds first row
        clockCorrectionApplied := true
        slope := slope }

/-- What numpy documents of `polyfit`. -/
def LeastSquaresFit (polyfit : List (ℚ × ℚ) → Line ℚ) : Prop :=
  ∀ points, Spread points → IsBest (polyfit points) points

theorem leastSquaresFit_bestLine : LeastSquaresFit LeastSquares.bestLine := fun _ =>
  LeastSquares.bestLine_isBest

theorem fittedPoints_cons_eq_some_iff {first : Row} {rest : List Row}
    {fit : Row × List (ℚ × ℚ)} :
    fittedPoints (first :: rest) = some fit ↔
      windowSize ≤ (first :: rest).length ∧
      (∃ row ∈ first :: rest, 0 < elapsedSeconds first row) ∧
      2 ≤ ((driftPoints first (first :: rest)).map Prod.fst).dedup.length ∧
      fit = (first, driftPoints first (first :: rest)) := by
  have later : 0 < ((first :: rest).map (elapsedSeconds first)).max?.getD 0 ↔
      ∃ row ∈ first :: rest, 0 < elapsedSeconds first row := by
    constructor
    · intro positive
      have occupied : (first :: rest).map (elapsedSeconds first) ≠ [] := by simp
      rcases List.mem_map.mp (getD_max?_mem occupied 0) with ⟨row, member, greatest⟩
      rw [← greatest] at positive
      exact ⟨row, member, positive⟩
    · rintro ⟨row, member, positive⟩
      exact lt_of_lt_of_le positive (le_getD_max? (List.mem_map_of_mem member) 0)
  rw [← later]
  simp only [fittedPoints]
  split
  next short => exact ⟨nofun, fun fits => absurd short (not_lt.mpr fits.1)⟩
  next long =>
    split
    next still => exact ⟨nofun, fun fits => absurd still (not_le.mpr fits.2.1)⟩
    next moving =>
      split
      next few => exact ⟨nofun, fun fits => absurd few (not_lt.mpr fits.2.2.1)⟩
      next several =>
        constructor
        · intro found
          cases found
          exact ⟨not_lt.mp long, not_le.mp moving, not_lt.mp several, rfl⟩
        · intro fits
          rw [fits.2.2.2]

theorem fittedPoints_eq_some {frame : List Row} {first : Row} {points : List (ℚ × ℚ)}
    (fitted : fittedPoints frame = some (first, points)) :
    frame.head? = some first ∧ points = driftPoints first frame ∧ Spread points := by
  cases frame with
  | nil => cases fitted
  | cons head rest =>
      rcases fittedPoints_cons_eq_some_iff.mp fitted with ⟨-, -, several, same⟩
      cases same
      refine ⟨rfl, rfl, ?_⟩
      by_contra single
      apply not_lt.mpr several
      apply Nat.lt_succ_of_le
      apply length_dedup_le_one_iff.mpr
      simp only [List.forall_mem_map]
      intro left leftMember right rightMember
      by_contra differ
      exact single ⟨left, leftMember, right, rightMember, differ⟩

theorem windowSize_le_of_fitted {frame : List Row} {fit : Row × List (ℚ × ℚ)}
    (fitted : fittedPoints frame = some fit) : windowSize ≤ frame.length := by
  cases frame with
  | nil => cases fitted
  | cons first rest => exact (fittedPoints_cons_eq_some_iff.mp fitted).1

theorem mem_of_mem_splitLengths {α : Type*} {sizes : List Nat} {values part : List α} {value : α}
    (member : part ∈ sizes.splitLengths values) (inside : value ∈ part) : value ∈ values := by
  induction sizes generalizing values with
  | nil => cases member
  | cons size sizes induction =>
      rw [List.splitLengths_cons] at member
      rcases List.mem_cons.mp member with rfl | later
      · exact List.mem_of_mem_take inside
      · exact List.mem_of_mem_drop (induction later)

theorem mem_of_mem_chunkMinima {frame : List Row} {row : Row} (minimum : row ∈ chunkMinima frame) :
    row ∈ frame := by
  rcases List.mem_filterMap.mp minimum with ⟨chunk, part, least⟩
  exact mem_of_mem_splitLengths part (List.argmin_mem least)

theorem exists_chunkMinimum {frame chunk : List Row}
    (part : chunk ∈ arraySplit (min 20 frame.length) frame) (occupied : chunk ≠ []) :
    ∃ row ∈ chunkMinima frame, row ∈ chunk := by
  cases least : chunk.argmin receiveLatencyUs with
  | none => exact absurd (List.argmin_eq_none.mp least) occupied
  | some row => exact ⟨row, List.mem_filterMap.mpr ⟨chunk, part, least⟩, List.argmin_mem least⟩

/-! ## Constant offsets of the clocks -/

def Row.shift (sender receiver : Nat) (row : Row) : Row :=
  { row with
    txNs := row.txNs + sender
    rxNs := row.rxNs + receiver
    processingStartNs := row.processingStartNs + receiver
    processingFinishNs := row.processingFinishNs + receiver }

def offsetUs (sender receiver : Nat) : ℚ := ((receiver : ℚ) - sender) / 1000

theorem receiveLatencyUs_shift (sender receiver : Nat) (row : Row) :
    receiveLatencyUs (row.shift sender receiver) =
      receiveLatencyUs row + offsetUs sender receiver := by
  simp only [receiveLatencyUs, offsetUs, Row.shift]
  push_cast
  ring

theorem elapsedSeconds_shift (sender receiver : Nat) (first row : Row) :
    elapsedSeconds (first.shift sender receiver) (row.shift sender receiver) =
      elapsedSeconds first row := by
  simp only [elapsedSeconds, Row.shift]
  push_cast
  ring

private theorem argmin_map_shift (sender receiver : Nat) (chunk : List Row) :
    (chunk.map (Row.shift sender receiver)).argmin receiveLatencyUs =
      (chunk.argmin receiveLatencyUs).map (Row.shift sender receiver) := by
  induction chunk using List.reverseRecOn with
  | nil => rfl
  | append_singleton chunk row induction =>
      rw [List.map_append, List.map_singleton, List.argmin_concat, List.argmin_concat, induction]
      cases chunk.argmin receiveLatencyUs with
      | none => rfl
      | some least =>
          simp only [Option.map_some, receiveLatencyUs_shift, add_lt_add_iff_right]
          split
          · rfl
          · rfl

private theorem splitLengths_map {α β : Type*} (transform : α → β) (sizes : List Nat)
    (values : List α) :
    sizes.splitLengths (values.map transform) =
      (sizes.splitLengths values).map (List.map transform) := by
  induction sizes generalizing values with
  | nil => rfl
  | cons size sizes induction =>
      simp only [List.splitLengths_cons, List.map_cons, List.map_take]
      rw [← List.map_drop, induction]

theorem chunkMinima_shift (sender receiver : Nat) (frame : List Row) :
    chunkMinima (frame.map (Row.shift sender receiver)) =
      (chunkMinima frame).map (Row.shift sender receiver) := by
  simp only [chunkMinima, arraySplit, List.length_map, splitLengths_map, List.filterMap_map,
    List.map_filterMap]
  congr 1
  funext chunk
  exact argmin_map_shift sender receiver chunk

private theorem driftPoints_shift (sender receiver : Nat) (first : Row) (frame : List Row) :
    driftPoints (first.shift sender receiver) (frame.map (Row.shift sender receiver)) =
      (driftPoints first frame).map fun point => (point.1, point.2 + offsetUs sender receiver) := by
  simp only [driftPoints, chunkMinima_shift, List.map_map]
  apply List.map_congr_left
  intro row _
  simp only [Function.comp_apply, elapsedSeconds_shift, receiveLatencyUs_shift]

theorem fittedPoints_shift (sender receiver : Nat) (frame : List Row) :
    fittedPoints (frame.map (Row.shift sender receiver)) =
      (fittedPoints frame).map fun fit => (fit.1.shift sender receiver,
        fit.2.map fun point => (point.1, point.2 + offsetUs sender receiver)) := by
  cases frame with
  | nil => rfl
  | cons first rest =>
      have points := driftPoints_shift sender receiver first (first :: rest)
      rw [List.map_cons] at points
      have elapsed : ((first.shift sender receiver :: rest.map (Row.shift sender receiver)).map
          (elapsedSeconds (first.shift sender receiver))) =
            (first :: rest).map (elapsedSeconds first) := by
        rw [← List.map_cons, List.map_map]
        apply List.map_congr_left
        intro row _
        exact elapsedSeconds_shift sender receiver first row
      have times : (driftPoints (first.shift sender receiver)
          (first.shift sender receiver :: rest.map (Row.shift sender receiver))).map Prod.fst =
            (driftPoints first (first :: rest)).map Prod.fst := by
        rw [points, List.map_map]
        rfl
      simp only [List.map_cons, fittedPoints, elapsed, times, List.length_cons, List.length_map]
      split
      · rfl
      split
      · rfl
      split
      · rfl
      · rw [points]
        rfl

theorem slope_shift {polyfit : List (ℚ × ℚ) → Line ℚ} (fit : LeastSquaresFit polyfit)
    {points : List (ℚ × ℚ)} (spread : Spread points) (height : ℚ) :
    (polyfit (points.map fun point => (point.1, point.2 + height))).slope =
      (polyfit points).slope := by
  have moved : Spread (points.map fun point => (point.1, point.2 + height)) := by
    rcases spread with ⟨left, leftMember, right, rightMember, differ⟩
    exact ⟨_, List.mem_map_of_mem leftMember, _, List.mem_map_of_mem rightMember, differ⟩
  have same : polyfit (points.map fun point => (point.1, point.2 + height)) =
      (polyfit points).raise height :=
    (fit _ moved).unique ((fit _ spread).raise height) moved
  rw [same]
  rfl

/-! ## One more row in every chunk -/

private theorem sum_partSizes (length : Nat) {count : Nat} (positive : 0 < count) :
    (partSizes length count).sum = length := by
  have below := Nat.mod_lt length positive
  have whole := Nat.div_add_mod length count
  have parts : length % count + (count - length % count) = count := by omega
  simp only [partSizes, List.sum_append, List.sum_replicate, smul_eq_mul, Nat.mul_add, mul_one]
  calc length % count * (length / count) + length % count +
        (count - length % count) * (length / count)
      = (length % count + (count - length % count)) * (length / count) + length % count := by ring
    _ = length := by rw [parts, whole]

private theorem partSizes_add (length : Nat) {count : Nat} (positive : 0 < count) :
    partSizes (length + count) count = (partSizes length count).map fun size => size + 1 := by
  simp [partSizes, Nat.add_div_right length positive]

private theorem splitLengths_flatten {α : Type*} (parts : List (List α)) :
    (parts.map List.length).splitLengths parts.flatten = parts := by
  induction parts with
  | nil => rfl
  | cons part parts induction => simp [induction]

def padChunks (count : Nat) (frame : List Row) (row : Row) : List Row :=
  ((arraySplit count frame).map fun chunk => chunk ++ [row]).flatten

private theorem lengths_arraySplit {count : Nat} (positive : 0 < count) (frame : List Row) :
    (arraySplit count frame).map List.length = partSizes frame.length count := by
  apply List.map_splitLengths_length
  rw [sum_partSizes _ positive]

private theorem lengths_padChunks {count : Nat} (positive : 0 < count) (frame : List Row)
    (row : Row) :
    ((arraySplit count frame).map fun chunk => chunk ++ [row]).map List.length =
      partSizes (frame.length + count) count := by
  rw [partSizes_add _ positive, ← lengths_arraySplit positive, List.map_map, List.map_map]
  congr 1
  funext chunk
  simp

theorem length_padChunks {count : Nat} (positive : 0 < count) (frame : List Row) (row : Row) :
    (padChunks count frame row).length = frame.length + count := by
  rw [padChunks, List.length_flatten, lengths_padChunks positive, sum_partSizes _ positive]

private theorem arraySplit_padChunks {count : Nat} (positive : 0 < count) (frame : List Row)
    (row : Row) :
    arraySplit count (padChunks count frame row) =
      (arraySplit count frame).map fun chunk => chunk ++ [row] := by
  rw [arraySplit, length_padChunks positive, ← lengths_padChunks positive, padChunks,
    splitLengths_flatten]

private theorem flatten_arraySplit {count : Nat} (positive : 0 < count) (frame : List Row) :
    (arraySplit count frame).flatten = frame := by
  apply List.flatten_splitLengths
  rw [sum_partSizes _ positive]

private theorem chunk_ne_nil {count : Nat} (positive : 0 < count) {frame : List Row}
    (long : count ≤ frame.length) : ∀ chunk ∈ arraySplit count frame, chunk ≠ [] := by
  intro chunk part
  have size : chunk.length ∈ partSizes frame.length count := by
    rw [← lengths_arraySplit positive]
    exact List.mem_map_of_mem part
  have share := Nat.div_pos long positive
  simp only [partSizes, List.mem_append, List.mem_replicate] at size
  apply List.ne_nil_of_length_pos
  omega

theorem mem_padChunks {count : Nat} (positive : 0 < count) {frame : List Row} {row other : Row} :
    other ∈ padChunks count frame row ↔ other ∈ frame ∨ other = row := by
  constructor
  · intro member
    rcases List.mem_flatten.mp member with ⟨padded, part, inside⟩
    rcases List.mem_map.mp part with ⟨chunk, chunkPart, rfl⟩
    cases List.mem_append.mp inside with
    | inl within => exact .inl (mem_of_mem_splitLengths chunkPart within)
    | inr last => exact .inr (List.mem_singleton.mp last)
  · have some : arraySplit count frame ≠ [] := by
      intro none
      have lengths := congrArg List.length (lengths_arraySplit positive frame)
      rw [none] at lengths
      simp only [List.map_nil, List.length_nil, partSizes, List.length_append,
        List.length_replicate] at lengths
      have below := Nat.mod_lt frame.length positive
      omega
    intro member
    cases member with
    | inl within =>
        rw [← flatten_arraySplit positive frame] at within
        rcases List.mem_flatten.mp within with ⟨chunk, part, inside⟩
        exact List.mem_flatten.mpr ⟨_, List.mem_map_of_mem part, List.mem_append_left _ inside⟩
    | inr last =>
        rcases List.exists_mem_of_ne_nil _ some with ⟨chunk, part⟩
        rw [last]
        exact List.mem_flatten.mpr ⟨_, List.mem_map_of_mem part, by simp⟩

private theorem head?_padChunks {count : Nat} (positive : 0 < count) {frame : List Row}
    (long : count ≤ frame.length) (row : Row) :
    (padChunks count frame row).head? = frame.head? := by
  have occupied := chunk_ne_nil positive long
  have whole := flatten_arraySplit positive frame
  rw [padChunks]
  cases parts : arraySplit count frame with
  | nil =>
      rw [parts] at whole
      rw [← whole]
      rfl
  | cons chunk rest =>
      rw [parts] at whole occupied
      rw [← whole]
      cases chunk with
      | nil => exact absurd rfl (occupied [] List.mem_cons_self)
      | cons first others => rfl

theorem chunkMinima_padChunks {frame : List Row} {row : Row} (long : 20 ≤ frame.length)
    (high : ∀ other ∈ frame, receiveLatencyUs other ≤ receiveLatencyUs row) :
    chunkMinima (padChunks 20 frame row) = chunkMinima frame := by
  have positive : 0 < 20 := by omega
  have parts : min 20 (padChunks 20 frame row).length = 20 ∧ min 20 frame.length = 20 := by
    rw [length_padChunks positive]
    omega
  rw [chunkMinima, chunkMinima, parts.1, parts.2, arraySplit_padChunks positive,
    List.filterMap_map]
  apply List.filterMap_congr
  intro chunk part
  rw [Function.comp_apply, List.argmin_concat]
  cases least : chunk.argmin receiveLatencyUs with
  | none => exact absurd (List.argmin_eq_none.mp least) (chunk_ne_nil positive long chunk part)
  | some lowest =>
      have below := high lowest (mem_of_mem_splitLengths part (List.argmin_mem least))
      simp only [if_neg (not_lt.mpr below)]

theorem fittedPoints_padChunks {frame : List Row} {row : Row} {fit : Row × List (ℚ × ℚ)}
    (fitted : fittedPoints frame = some fit)
    (high : ∀ other ∈ frame, receiveLatencyUs other ≤ receiveLatencyUs row) :
    fittedPoints (padChunks 20 frame row) = some fit := by
  have positive : 0 < 20 := by omega
  cases frame with
  | nil => cases fitted
  | cons first rest =>
      rcases fittedPoints_cons_eq_some_iff.mp fitted with ⟨long, ⟨last, member, later⟩, several, fit⟩
      have enough : 20 ≤ (first :: rest).length := le_trans (by decide) long
      have minima := chunkMinima_padChunks enough high
      have head := head?_padChunks positive enough row
      have inside : last ∈ padChunks 20 (first :: rest) row :=
        (mem_padChunks positive).mpr (.inl member)
      have length := length_padChunks positive (first :: rest) row
      cases padded : padChunks 20 (first :: rest) row with
      | nil =>
          rw [padded] at inside
          cases inside
      | cons other others =>
          rw [padded] at head minima inside length
          cases head
          apply fittedPoints_cons_eq_some_iff.mpr
          rw [driftPoints, minima, length]
          exact ⟨le_trans long (Nat.le_add_right _ _), ⟨last, inside, later⟩, several, fit⟩

end NetLatencyLab.LatencyUtils
