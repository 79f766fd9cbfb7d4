import NetLatencyLab.Analysis.GenerateSummary
import Mathlib.Algebra.Order.Archimedean.Basic

/-! # Clock offsets

`clock_offset_suspect` looks at the lowest latency after the drift correction,
which is not the lowest latency. -/

namespace NetLatencyLab.GenerateSummary

open Grouping (getD_min?_mem getD_min?_le le_getD_max? length_dedup_le_one_iff)
open LatencyUtils
open LeastSquares (Line)

def driftUs (polyfit : List (ℚ × ℚ) → Line ℚ) (frame : List Row) (row : Row) : ℚ :=
  match fittedPoints frame with
  | none => 0
  | some (first, points) => (polyfit points).slope * elapsedSeconds first row

/-- The flag of the run says whether a packet was received before it was sent. -/
def FlagsOffset (polyfit : List (ℚ × ℚ) → Line ℚ) (metadata : Metadata) (frame : List Row) : Prop :=
  ∃ row, summarizeRun polyfit metadata frame = .ok row ∧
    (row.clockOffsetSuspect ↔ ∃ record ∈ frame, record.rxNs < record.txNs)

private theorem latencyCorrectedUs_eq (polyfit : List (ℚ × ℚ) → Line ℚ) (frame : List Row) :
    (removeClockDrift polyfit frame).latencyCorrectedUs =
      frame.map fun row => receiveLatencyUs row - driftUs polyfit frame row := by
  rw [removeClockDrift]
  cases fitted : fittedPoints frame with
  | none => simp [driftUs, fitted]
  | some fit => simp [driftUs, fitted]

private theorem receiveLatencyUs_neg_iff {row : Row} :
    receiveLatencyUs row < 0 ↔ row.rxNs < row.txNs := by
  rw [receiveLatencyUs, div_neg_iff]
  have positive : ¬ (1000 : ℚ) < 0 := by norm_num
  simp only [positive, and_false, false_or, sub_neg, Nat.cast_lt]
  exact and_iff_left (by norm_num)

private theorem offsetSuspect_iff (polyfit : List (ℚ × ℚ) → Line ℚ) (frame : List Row) :
    offsetSuspect (latencyFields polyfit frame).receiveLatencyMinUs ↔
      ∃ row ∈ frame, receiveLatencyUs row < driftUs polyfit frame row := by
  rw [latencyFields]
  by_cases empty : frame = []
  · simp [empty, offsetSuspect]
  · rw [if_neg empty]
    simp only [offsetSuspect, decide_eq_true_eq, latencyCorrectedUs_eq]
    have occupied : (frame.map fun row => receiveLatencyUs row - driftUs polyfit frame row) ≠ [] := by
      simpa using empty
    constructor
    · intro negative
      rcases List.mem_map.mp (getD_min?_mem occupied 0) with ⟨row, member, same⟩
      refine ⟨row, member, ?_⟩
      rw [← same] at negative
      linarith
    · rintro ⟨row, member, below⟩
      have bound := getD_min?_le (List.mem_map_of_mem (f := fun row =>
        receiveLatencyUs row - driftUs polyfit frame row) member) 0
      linarith

theorem flagsOffset_iff {polyfit : List (ℚ × ℚ) → Line ℚ} {metadata : Metadata}
    (valid : validateMetadata metadata = .ok ()) (frame : List Row) :
    FlagsOffset polyfit metadata frame ↔
      ((∃ row ∈ frame, receiveLatencyUs row < driftUs polyfit frame row) ↔
        ∃ row ∈ frame, receiveLatencyUs row < 0) := by
  rcases exists_summarizeRun polyfit valid frame with ⟨row, summarized, -, suspect⟩
  rw [FlagsOffset, ← offsetSuspect_iff, ← suspect]
  simp only [receiveLatencyUs_neg_iff]
  constructor
  · rintro ⟨other, otherSummarized, flags⟩
    rw [summarized] at otherSummarized
    cases otherSummarized
    exact flags
  · intro flags
    exact ⟨row, summarized, flags⟩

/-! ## Every constant offset -/

theorem driftUs_shift {polyfit : List (ℚ × ℚ) → Line ℚ} (fit : LeastSquaresFit polyfit)
    (sender receiver : Nat) (frame : List Row) (row : Row) :
    driftUs polyfit (frame.map (Row.shift sender receiver)) (row.shift sender receiver) =
      driftUs polyfit frame row := by
  rw [driftUs, driftUs, fittedPoints_shift]
  cases fitted : fittedPoints frame with
  | none => rfl
  | some found =>
      rcases found with ⟨first, points⟩
      have spread := (fittedPoints_eq_some fitted).2.2
      simp only [Option.map_some, slope_shift fit spread, elapsedSeconds_shift]

/-- No corrected latency is below the lowest latency, and one is within a
nanosecond of it. -/
structure KeepsLowest (frame : List Row) (drift : Row → ℚ) : Prop where
  above : ∀ row ∈ frame, ∃ other ∈ frame, receiveLatencyUs other ≤ receiveLatencyUs row - drift row
  near : ∃ row ∈ frame, ∀ other ∈ frame,
    receiveLatencyUs row - drift row < receiveLatencyUs other + 1 / 1000

private theorem add_offset_neg_iff (sender receiver : Nat) (row : Row) :
    receiveLatencyUs row + offsetUs sender receiver < 0 ↔
      receiveLatencyUs row + offsetUs sender receiver ≤ -(1 / 1000) := by
  have cast : receiveLatencyUs row + offsetUs sender receiver =
      (((row.rxNs : Int) - row.txNs + ((receiver : Int) - sender) : Int) : ℚ) / 1000 := by
    simp only [receiveLatencyUs, offsetUs]
    push_cast
    ring
  rw [cast]
  constructor
  · intro negative
    have whole : (row.rxNs : Int) - row.txNs + ((receiver : Int) - sender) ≤ -1 := by
      by_contra high
      have nonnegative : (0 : ℚ) ≤
          (((row.rxNs : Int) - row.txNs + ((receiver : Int) - sender) : Int) : ℚ) :=
        Int.cast_nonneg (by omega)
      linarith
    have bound : (((row.rxNs : Int) - row.txNs + ((receiver : Int) - sender) : Int) : ℚ) ≤ -1 := by
      exact_mod_cast whole
    linarith
  · intro bound
    linarith

theorem exists_lowest {frame : List Row} (occupied : frame ≠ []) :
    ∃ lowest ∈ frame, ∀ row ∈ frame, receiveLatencyUs lowest ≤ receiveLatencyUs row := by
  cases least : frame.argmin receiveLatencyUs with
  | none => exact absurd (List.argmin_eq_none.mp least) occupied
  | some lowest =>
      exact ⟨lowest, List.argmin_mem least, fun row member => List.le_of_mem_argmin member least⟩

private theorem agrees_at_all_offsets_iff {frame : List Row} (occupied : frame ≠ [])
    (drift : Row → ℚ) :
    (∀ sender receiver : Nat,
      (∃ row ∈ frame, receiveLatencyUs row + offsetUs sender receiver < drift row) ↔
        ∃ row ∈ frame, receiveLatencyUs row + offsetUs sender receiver < 0) ↔
      KeepsLowest frame drift := by
  constructor
  · intro agrees
    rcases exists_lowest occupied with ⟨lowest, lowestMember, least⟩
    constructor
    · -- The clocks set so that the lowest latency becomes zero.
      have offset : offsetUs lowest.rxNs lowest.txNs = -receiveLatencyUs lowest := by
        simp only [offsetUs, receiveLatencyUs]
        ring
      intro row member
      refine ⟨lowest, lowestMember, ?_⟩
      by_contra below
      have under : ∃ row ∈ frame,
          receiveLatencyUs row + offsetUs lowest.rxNs lowest.txNs < drift row :=
        ⟨row, member, by linarith⟩
      rcases (agrees lowest.rxNs lowest.txNs).mp under with ⟨other, otherMember, negative⟩
      linarith [least other otherMember]
    · -- One nanosecond less.
      have offset : offsetUs (lowest.rxNs + 1) lowest.txNs =
          -receiveLatencyUs lowest - 1 / 1000 := by
        simp only [offsetUs, receiveLatencyUs]
        push_cast
        ring
      have negative : ∃ row ∈ frame,
          receiveLatencyUs row + offsetUs (lowest.rxNs + 1) lowest.txNs < 0 :=
        ⟨lowest, lowestMember, by linarith⟩
      rcases (agrees _ _).mpr negative with ⟨row, member, under⟩
      refine ⟨row, member, ?_⟩
      intro other otherMember
      linarith [least other otherMember]
  · intro keeps sender receiver
    constructor
    · rintro ⟨row, member, under⟩
      rcases keeps.above row member with ⟨other, otherMember, below⟩
      exact ⟨other, otherMember, by linarith⟩
    · rintro ⟨row, member, negative⟩
      rcases keeps.near with ⟨other, otherMember, near⟩
      have bound := (add_offset_neg_iff sender receiver row).mp negative
      exact ⟨other, otherMember, by linarith [near row member]⟩

private theorem flagsOffset_shift_iff {polyfit : List (ℚ × ℚ) → Line ℚ}
    (fit : LeastSquaresFit polyfit)
    {metadata : Metadata} (valid : validateMetadata metadata = .ok ()) (frame : List Row)
    (sender receiver : Nat) :
    FlagsOffset polyfit metadata (frame.map (Row.shift sender receiver)) ↔
      ((∃ row ∈ frame,
          receiveLatencyUs row + offsetUs sender receiver < driftUs polyfit frame row) ↔
        ∃ row ∈ frame, receiveLatencyUs row + offsetUs sender receiver < 0) := by
  rw [flagsOffset_iff valid]
  simp only [List.mem_map, exists_exists_and_eq_and, driftUs_shift fit, receiveLatencyUs_shift]

/-- A run of 1000 packets without a loss. -/
def steadyMetadata : Metadata where
  schemaVersion := 2
  runId := "latency_baseline_r01"
  topology := "distributed_ethernet"
  run :=
    { campaign := some "latency"
      receiverVariant := "baseline"
      requestedRatePps := 1000
      durationSeconds := 1
      payloadSize := 64
      mode := "steady"
      burstSize := 1
      batchSize := 1
      workNs := 5000
      sampleEvery := some 1 }
  senderStats := [("attempted_sends", 1000), ("successful_sends", 1000), ("failed_sends", 0)]
  elapsedSeconds := some 1
  achievedSuccessfulSendPps := some 1000
  receiverStats := [("datagrams_received", 1000), ("valid_packets", 1000),
    ("processed_packets", 1000), ("short_packets", 0), ("invalid_magic", 0), ("spsc_overflow", 0),
    ("unique_valid_packets", 1000), ("unique_processed_packets", 1000),
    ("receive_sequence_gaps", 0), ("receive_duplicates", 0), ("receive_reordered", 0)]
  validity := some ⟨some true⟩

theorem steadyMetadata_valid : validateMetadata steadyMetadata = .ok () := by
  decide

/-! ## Level traces -/

/-- No line is fitted to the chunk minima, or their latencies are uncorrelated
with their times. -/
def Level (frame : List Row) : Prop :=
  match fittedPoints frame with
  | none => True
  | some (_, points) => LeastSquares.Uncorrelated points

private theorem driftUs_eq_zero {polyfit : List (ℚ × ℚ) → Line ℚ} (fit : LeastSquaresFit polyfit)
    {frame : List Row} (level : Level frame) (row : Row) : driftUs polyfit frame row = 0 := by
  rw [Level] at level
  rw [driftUs]
  cases fitted : fittedPoints frame with
  | none => rfl
  | some found =>
      rw [fitted] at level
      have spread := (fittedPoints_eq_some fitted).2.2
      simp only [(LeastSquares.slope_eq_zero_iff (fit _ spread) spread).mpr level, zero_mul]

private theorem flagsOffset_of_level {polyfit : List (ℚ × ℚ) → Line ℚ}
    (fit : LeastSquaresFit polyfit)
    {metadata : Metadata} (valid : validateMetadata metadata = .ok ()) {frame : List Row}
    (level : Level frame) : FlagsOffset polyfit metadata frame := by
  rw [flagsOffset_iff valid]
  simp only [driftUs_eq_zero fit level]

private theorem level_of_constant {frame : List Row} {latency : ℚ}
    (constant : ∀ row ∈ frame, receiveLatencyUs row = latency) : Level frame := by
  rw [Level]
  cases fitted : fittedPoints frame with
  | none => trivial
  | some found =>
      rcases found with ⟨first, points⟩
      rw [(fittedPoints_eq_some fitted).2.1]
      apply LeastSquares.uncorrelated_of_constant
      intro point member
      rcases List.mem_map.mp member with ⟨row, minimum, rfl⟩
      exact constant row (mem_of_mem_chunkMinima minimum)

/-- The rows of a trace under clocks set forward, and perhaps others, with the
same chunk minima. -/
structure Widens (sender receiver : Nat) (frame other : List Row) : Prop where
  rows : ∀ row ∈ frame, row.shift sender receiver ∈ other
  minima : chunkMinima other = (chunkMinima frame).map (Row.shift sender receiver)

theorem Widens.shift {sender receiver : Nat} {frame other : List Row}
    (widens : Widens sender receiver frame other) (later laterReceiver : Nat) :
    Widens (sender + later) (receiver + laterReceiver) frame
      (other.map (Row.shift later laterReceiver)) := by
  have twice : ∀ row : Row, (row.shift sender receiver).shift later laterReceiver =
      row.shift (sender + later) (receiver + laterReceiver) := by
    intro row
    simp only [Row.shift, Nat.add_assoc]
  constructor
  · intro row member
    rw [← twice]
    exact List.mem_map_of_mem (widens.rows row member)
  · rw [chunkMinima_shift, widens.minima, List.map_map]
    apply List.map_congr_left
    intro row _
    exact twice row

private theorem exists_time_above {slope : ℚ} (slanted : slope ≠ 0) (bound : ℚ) :
    ∃ time : ℤ, bound < slope * (time / 10 ^ 9) := by
  rcases exists_nat_gt (bound * 10 ^ 9 / |slope|) with ⟨time, above⟩
  have positive := abs_pos.mpr slanted
  rw [div_lt_iff₀ positive] at above
  cases lt_or_gt_of_ne slanted with
  | inl falling =>
      rw [abs_of_neg falling] at above
      refine ⟨-time, ?_⟩
      push_cast
      linarith
  | inr rising =>
      rw [abs_of_pos rising] at above
      refine ⟨time, ?_⟩
      push_cast
      linarith

private theorem exists_row_at (first high : Row) (time : ℤ) :
    ∃ forward moment : Nat, elapsedSeconds (first.shift forward forward) (high.shift moment moment) =
      time / 10 ^ 9 := by
  rcases Int.eq_ofNat_of_zero_le (a := first.rxNs + time.natAbs + time) (by omega) with
    ⟨moment, same⟩
  refine ⟨time.natAbs + high.rxNs, moment, ?_⟩
  have cast := congrArg (fun whole : ℤ => (whole : ℚ)) same
  simp only [elapsedSeconds, Row.shift]
  push_cast [Nat.cast_natAbs] at cast ⊢
  congr 1
  linarith

private theorem receiveLatencyUs_shift_same (forward : Nat) (row : Row) :
    receiveLatencyUs (row.shift forward forward) = receiveLatencyUs row := by
  rw [receiveLatencyUs_shift, offsetUs, sub_self, zero_div, add_zero]

private theorem exists_highest {frame : List Row} (occupied : frame ≠ []) :
    ∃ highest ∈ frame, ∀ row ∈ frame, receiveLatencyUs row ≤ receiveLatencyUs highest := by
  cases greatest : frame.argmax receiveLatencyUs with
  | none => exact absurd (List.argmax_eq_none.mp greatest) occupied
  | some highest =>
      exact ⟨highest, List.argmax_mem greatest,
        fun row member => List.le_of_mem_argmax member greatest⟩

/-- A slow packet far along a slanted line is corrected below the lowest latency,
and no chunk minimum shows it. -/
theorem exists_widened_not_keepsLowest {polyfit : List (ℚ × ℚ) → Line ℚ}
    (fit : LeastSquaresFit polyfit) {frame : List Row} (slanted : ¬ Level frame) :
    ∃ forward other, Widens forward forward frame other ∧ other ≠ [] ∧
      ¬ KeepsLowest other (driftUs polyfit other) := by
  rw [Level] at slanted
  cases fitted : fittedPoints frame with
  | none => exact absurd trivial (by rwa [fitted] at slanted)
  | some found =>
      rcases found with ⟨first, points⟩
      rw [fitted] at slanted
      have spread := (fittedPoints_eq_some fitted).2.2
      have slope : (polyfit points).slope ≠ 0 := fun level =>
        slanted ((LeastSquares.slope_eq_zero_iff (fit _ spread) spread).mp level)
      have long : windowSize ≤ frame.length := windowSize_le_of_fitted fitted
      have occupied : frame ≠ [] := by
        rintro rfl
        cases fitted
      rcases exists_lowest occupied with ⟨lowest, lowestMember, least⟩
      rcases exists_highest occupied with ⟨highest, highestMember, greatest⟩
      rcases exists_time_above slope (receiveLatencyUs highest - receiveLatencyUs lowest) with
        ⟨time, above⟩
      rcases exists_row_at first highest time with ⟨forward, moment, elapsed⟩
      have shifted : fittedPoints (frame.map (Row.shift forward forward)) =
          some (first.shift forward forward,
            points.map fun point => (point.1, point.2 + offsetUs forward forward)) := by
        rw [fittedPoints_shift, fitted]
        rfl
      have high : ∀ other ∈ frame.map (Row.shift forward forward),
          receiveLatencyUs other ≤ receiveLatencyUs (highest.shift moment moment) := by
        intro other member
        rcases List.mem_map.mp member with ⟨row, inside, rfl⟩
        rw [receiveLatencyUs_shift_same, receiveLatencyUs_shift_same]
        exact greatest row inside
      have chunks : 20 ≤ (frame.map (Row.shift forward forward)).length := by
        rw [List.length_map]
        exact le_trans (by decide) long
      have padded := fittedPoints_padChunks shifted high
      have positive : 0 < 20 := by omega
      have added : highest.shift moment moment ∈
          padChunks 20 (frame.map (Row.shift forward forward)) (highest.shift moment moment) :=
        (mem_padChunks positive).mpr (.inr rfl)
      refine ⟨forward, padChunks 20 (frame.map (Row.shift forward forward))
        (highest.shift moment moment), ⟨?_, ?_⟩, List.ne_nil_of_mem added, ?_⟩
      · intro row member
        exact (mem_padChunks positive).mpr (.inl (List.mem_map_of_mem member))
      · rw [chunkMinima_padChunks chunks high, chunkMinima_shift]
      · intro keeps
        rcases keeps.above _ added with ⟨other, member, below⟩
        rw [driftUs, padded] at below
        simp only [elapsed, slope_shift fit spread, receiveLatencyUs_shift_same] at below
        have bound : receiveLatencyUs lowest ≤ receiveLatencyUs other := by
          cases (mem_padChunks positive).mp member with
          | inl inside =>
              rcases List.mem_map.mp inside with ⟨row, rowMember, rfl⟩
              rw [receiveLatencyUs_shift_same]
              exact least row rowMember
          | inr same =>
              rw [same, receiveLatencyUs_shift_same]
              exact least highest highestMember
        linarith

/-- The flag is right for every level trace, and no slanted chunk minima let it be
right for every trace that has them. -/
theorem flagsOffset_when_level {polyfit : List (ℚ × ℚ) → Line ℚ} (fit : LeastSquaresFit polyfit)
    {metadata : Metadata} (valid : validateMetadata metadata = .ok ()) (frame : List Row) :
    (Level frame → FlagsOffset polyfit metadata frame) ∧
    (¬ Level frame → ∃ sender receiver other, Widens sender receiver frame other ∧
      ¬ FlagsOffset polyfit metadata other) := by
  constructor
  · exact flagsOffset_of_level fit valid
  · intro slanted
    rcases exists_widened_not_keepsLowest fit slanted with ⟨forward, other, widens, occupied, sinks⟩
    by_contra right
    push Not at right
    apply sinks
    apply (agrees_at_all_offsets_iff occupied _).mp
    intro sender receiver
    exact (flagsOffset_shift_iff fit valid other sender receiver).mp
      (right _ _ _ (widens.shift sender receiver))

/-- A single packet that arrives too early is flagged. -/
theorem single_early_packet_is_flagged :
    LatencyUtils.LeastSquaresFit LeastSquares.bestLine ∧ validateMetadata steadyMetadata = .ok () ∧
      FlagsOffset LeastSquares.bestLine steadyMetadata [⟨0, 10, 9, 9, 9, none, 1⟩] := by
  refine ⟨leastSquaresFit_bestLine, steadyMetadata_valid, ?_⟩
  apply (flagsOffset_when_level leastSquaresFit_bestLine steadyMetadata_valid _).1
  exact level_of_constant (List.forall_mem_singleton.mpr rfl)

/-! ## A drifting clock -/

def fallingRow (index : Nat) : Row where
  seq := index
  txNs := 10 ^ 9 - 10 ^ 6 + 1002000 * index
  rxNs := 10 ^ 9 + 10 ^ 6 * index
  processingStartNs := 10 ^ 9 + 10 ^ 6 * index
  processingFinishNs := 10 ^ 9 + 10 ^ 6 * index
  legacyRecordedLatencyNs := none
  logFormatVersion := 1

def fallingTrace : List Row := (List.range 1000).map fallingRow

theorem elapsedSeconds_fallingRow (index : Nat) :
    elapsedSeconds (fallingRow 0) (fallingRow index) = index / 1000 := by
  simp only [elapsedSeconds, fallingRow]
  push_cast
  ring

theorem receiveLatencyUs_fallingRow (index : Nat) :
    receiveLatencyUs (fallingRow index) = 1000 - 2 * index := by
  simp only [receiveLatencyUs, fallingRow]
  push_cast
  ring

private theorem exists_minima_fallingTrace :
    (∃ early, early < 50 ∧ fallingRow early ∈ chunkMinima fallingTrace) ∧
      ∃ late, 50 ≤ late ∧ fallingRow late ∈ chunkMinima fallingTrace := by
  have sizes : partSizes fallingTrace.length (min 20 fallingTrace.length) =
      50 :: 50 :: List.replicate 18 50 := by
    have length : fallingTrace.length = 1000 := by simp [fallingTrace]
    rw [length]
    decide
  have parts : fallingTrace.take 50 ∈ arraySplit (min 20 fallingTrace.length) fallingTrace ∧
      (fallingTrace.drop 50).take 50 ∈ arraySplit (min 20 fallingTrace.length) fallingTrace := by
    rw [arraySplit, sizes]
    simp
  have early : fallingTrace.take 50 = (List.range 50).map fallingRow := by
    rw [fallingTrace, ← List.map_take, List.take_range]
    rfl
  have late : (fallingTrace.drop 50).take 50 = (List.range' 50 50).map fallingRow := by
    rw [fallingTrace, ← List.map_drop, ← List.map_take, List.range_eq_range', List.drop_range',
      List.take_range'_of_length_ge (by omega)]
  rw [early, late] at parts
  constructor
  · rcases exists_chunkMinimum parts.1 (by simp) with ⟨row, minimum, inside⟩
    rcases List.mem_map.mp inside with ⟨index, member, rfl⟩
    exact ⟨index, List.mem_range.mp member, minimum⟩
  · rcases exists_chunkMinimum parts.2 (by simp) with ⟨row, minimum, inside⟩
    rcases List.mem_map.mp inside with ⟨index, member, rfl⟩
    exact ⟨index, (List.mem_range'_1.mp member).1, minimum⟩

theorem mem_driftPoints_fallingTrace {index : Nat}
    (minimum : fallingRow index ∈ chunkMinima fallingTrace) :
    ((index : ℚ) / 1000, (1000 : ℚ) - 2 * index) ∈ driftPoints (fallingRow 0) fallingTrace := by
  rw [← elapsedSeconds_fallingRow, ← receiveLatencyUs_fallingRow]
  exact List.mem_map_of_mem minimum

theorem fittedPoints_fallingTrace :
    fittedPoints fallingTrace = some (fallingRow 0, driftPoints (fallingRow 0) fallingTrace) := by
  have split : fallingTrace = fallingRow 0 :: (List.range' 1 999).map fallingRow := by
    rw [fallingTrace, List.range_eq_range']
    rfl
  have long : ¬ fallingTrace.length < windowSize := by simp [fallingTrace, windowSize]
  have later : ¬ (fallingTrace.map (elapsedSeconds (fallingRow 0))).max?.getD 0 ≤ 0 := by
    have last : fallingRow 999 ∈ fallingTrace := List.mem_map_of_mem (List.mem_range.mpr (by omega))
    have bound := le_getD_max? (List.mem_map_of_mem (f := elapsedSeconds (fallingRow 0)) last) 0
    rw [elapsedSeconds_fallingRow] at bound
    intro none
    have positive : (0 : ℚ) < (999 : Nat) / 1000 := by norm_num
    linarith
  have several :
      ¬ ((driftPoints (fallingRow 0) fallingTrace).map Prod.fst).dedup.length < 2 := by
    intro few
    have same := length_dedup_le_one_iff.mp (Nat.le_of_lt_succ few)
    rcases exists_minima_fallingTrace with ⟨⟨early, early50, first⟩, ⟨late, late50, second⟩⟩
    have equal := same _ (List.mem_map_of_mem (mem_driftPoints_fallingTrace first)) _
      (List.mem_map_of_mem (mem_driftPoints_fallingTrace second))
    have indices : (early : ℚ) = late := by linarith
    have apart : early = late := by exact_mod_cast indices
    omega
  rw [split] at long later several ⊢
  simp only [fittedPoints]
  rw [if_neg long, if_neg later, if_neg several]

private theorem slope_fallingTrace :
    (LeastSquares.bestLine (driftPoints (fallingRow 0) fallingTrace)).slope = -2000 := by
  have spread := (fittedPoints_eq_some fittedPoints_fallingTrace).2.2
  have exact : LeastSquares.IsBest (Line.mk (-2000) 1000)
      (driftPoints (fallingRow 0) fallingTrace) := by
    apply LeastSquares.IsBest.of_exact
    intro point member
    rcases List.mem_map.mp member with ⟨row, minimum, rfl⟩
    rcases List.mem_map.mp (mem_of_mem_chunkMinima minimum) with ⟨index, -, rfl⟩
    simp only [Line.residual, elapsedSeconds_fallingRow, receiveLatencyUs_fallingRow]
    ring
  rw [(LeastSquares.bestLine_isBest spread).unique exact spread]

private theorem driftUs_fallingTrace (index : Nat) :
    driftUs LeastSquares.bestLine fallingTrace (fallingRow index) = -2 * index := by
  rw [driftUs, fittedPoints_fallingTrace]
  simp only [slope_fallingTrace, elapsedSeconds_fallingRow]
  ring

/-- The correction raises every latency to 1000 microseconds. -/
theorem falling_trace_is_not_flagged :
    validateMetadata steadyMetadata = .ok () ∧
      ¬ FlagsOffset LeastSquares.bestLine steadyMetadata fallingTrace := by
  refine ⟨steadyMetadata_valid, ?_⟩
  rw [flagsOffset_iff steadyMetadata_valid]
  intro agrees
  have last : fallingRow 999 ∈ fallingTrace := List.mem_map_of_mem (List.mem_range.mpr (by omega))
  have negative : receiveLatencyUs (fallingRow 999) < 0 := by
    rw [receiveLatencyUs_fallingRow]
    norm_num
  rcases agrees.mpr ⟨_, last, negative⟩ with ⟨row, member, below⟩
  rcases List.mem_map.mp member with ⟨index, -, rfl⟩
  rw [receiveLatencyUs_fallingRow, driftUs_fallingTrace] at below
  linarith

end NetLatencyLab.GenerateSummary
