import Mathlib.Algebra.Order.Field.Rat
import Mathlib.Data.Rat.Floor
import Mathlib.Tactic.Linarith
import NetLatencyLab.Foundation.Fallible
import NetLatencyLab.Foundation.Grouping
import NetLatencyLab.Foundation.Neighbours
import NetLatencyLab.Foundation.PythonText

/-! # Pacing traces

`analyze_pacing_trace` of `main.py`. It measures the gaps between the records of
the whole milliseconds inside the interior; the gap that leads into them and
what follows the last of them are not measured. -/

namespace NetLatencyLab.Harness

open Fallible (bind_eq_ok toOption_eq_some)
open Neighbours (mem_neighbours_filter neighbours rel_of_mem_neighbours)
open PythonText (Text toInt?)

inductive PacingError
  | valueError (message : Text)
  /-- `int` of a text that is no number. -/
  | invalidLiteral (text : Text)
  /-- `int` of a cell that is missing. -/
  | typeError

/-! ## Reading -/

/-- A trace as `csv.reader` splits it; an empty file has no names. -/
structure TraceTable where
  path : Text
  fieldnames : List Text
  rows : List (List Text)

structure TraceRecord where
  actualMonoNs : Int
  scheduledMonoNs : Int
  packetCount : Int
deriving DecidableEq

def requiredColumns : List Text :=
  ["actual_mono_ns".toList, "scheduled_mono_ns".toList, "packet_count".toList]

/-- A cell of a `DictReader` row: the last column of the name counts, and short
rows are filled up with `None`. -/
def cell (fieldnames row : List Text) (name : String) : Option Text :=
  let values := row.map some ++ List.replicate (fieldnames.length - row.length) none
  ((fieldnames.zip values).reverse.lookup name.toList).join

def integerCell : Option Text → Except PacingError Int
  | none => .error .typeError
  | some text =>
      match toInt? text with
      | some value => .ok value
      | none => .error (.invalidLiteral text)

def readRecord (trace : TraceTable) (row : List Text) : Except PacingError TraceRecord := do
  let actual ← integerCell (cell trace.fieldnames row "actual_mono_ns")
  let scheduled ← integerCell (cell trace.fieldnames row "scheduled_mono_ns")
  let count ← integerCell (cell trace.fieldnames row "packet_count")
  if actual < 0 ∨ scheduled < 0 ∨ count ≤ 0 then
    .error (.valueError ("Pacing trace contains an invalid record: ".toList ++ trace.path))
  else .ok ⟨actual, scheduled, count⟩

/-- Rows without a cell are skipped. -/
def readTrace (trace : TraceTable) : Except PacingError (List TraceRecord) :=
  if requiredColumns ⊆ trace.fieldnames then
    (trace.rows.filter fun row => row ≠ []).mapM (readRecord trace)
  else .error (.valueError ("Pacing trace has an invalid header: ".toList ++ trace.path))

/-- The order of the tuples. -/
def TraceRecord.before (left right : TraceRecord) : Bool :=
  left.actualMonoNs < right.actualMonoNs ∨
    left.actualMonoNs = right.actualMonoNs ∧ (left.scheduledMonoNs < right.scheduledMonoNs ∨
      left.scheduledMonoNs = right.scheduledMonoNs ∧ left.packetCount ≤ right.packetCount)

/-- `records.sort()`. -/
def inTimeOrder (records : List TraceRecord) : List TraceRecord :=
  records.insertionSort fun left right => left.before right

/-! ## Windows -/

structure PacingSender where
  startMonoNs : Int
  scheduledEndMonoNs : Int
  successfulSends : Int

def windowNs : Int := 1000000

def interiorStart (sender : PacingSender) : Int := sender.startMonoNs + 100000000

def interiorEnd (sender : PacingSender) : Int := sender.scheduledEndMonoNs - 100000000

def windowCount (sender : PacingSender) : Nat :=
  ((interiorEnd sender - interiorStart sender) / windowNs).toNat

def windowsEnd (sender : PacingSender) : Int :=
  interiorStart sender + windowCount sender * windowNs

def isCounted (sender : PacingSender) (record : TraceRecord) : Bool :=
  interiorStart sender ≤ record.actualMonoNs ∧ record.actualMonoNs < windowsEnd sender

structure Windows where
  counts : List Int
  interiorRecords : List TraceRecord

def addRecord (sender : PacingSender) (windows : Windows) (record : TraceRecord) : Windows :=
  if isCounted sender record then
    let window := ((record.actualMonoNs - interiorStart sender) / windowNs).toNat
    { counts := windows.counts.modify window (· + record.packetCount)
      interiorRecords := windows.interiorRecords ++ [record] }
  else windows

def fillWindows (sender : PacingSender) (records : List TraceRecord) : Windows :=
  records.foldl (addRecord sender) ⟨List.replicate (windowCount sender) 0, []⟩

def nearestRank (values : List Int) (quantile : ℚ) : Except PacingError Int :=
  if values = [] then
    .error (.valueError "cannot calculate a percentile of an empty sample".toList)
  else
    let ordered := values.insertionSort (· ≤ ·)
    let index := max 0 (min ((ordered.length : Int) - 1) (⌈quantile * ordered.length⌉ - 1))
    .ok (ordered.getD index.toNat 0)

/-- `nearest_rank(counts, quantile) if counts else 0`. -/
def rankOrZero (counts : List Int) (quantile : ℚ) : Except PacingError Int :=
  if counts = [] then .ok 0 else nearestRank counts quantile

/-! ## Gaps -/

def enqueueGap (pair : TraceRecord × TraceRecord) : Int :=
  pair.2.actualMonoNs - pair.1.actualMonoNs

def explained (pair : TraceRecord × TraceRecord) : Int :=
  max 0 (pair.2.scheduledMonoNs - pair.1.scheduledMonoNs)

def unexplainedGap (pair : TraceRecord × TraceRecord) : Int :=
  max 0 (enqueueGap pair - explained pair)

/-- `max(values, default=0)`. -/
def greatest (values : List Int) : Int := values.max?.getD 0

/-! ## `analyze_pacing_trace` -/

structure PacingAnalysis where
  format : String := "csv-v1"
  records : Nat
  tracePackets : Int
  edgeExclusionMs : Nat := 100
  windowUs : Nat := 1000
  windowCount : Nat
  targetPacketsPerWindow : ℚ
  p1Packets : Int
  p99Packets : Int
  maxEnqueueGapNs : Int
  maxUnexplainedEnqueueGapNs : Int
  passed : Bool
  reasons : List String

def pacingReasons (sender : PacingSender) (batchWindowUs : Int) (target : ℚ) (counts : List Int)
    (p1 p99 tracePackets maxUnexplained : Int) : List String :=
  let tolerance := 1 / 10 * target
  (if windowCount sender = 0 then ["pacing interval is too short after edge exclusion"] else []) ++
    (if tracePackets ≠ sender.successfulSends then
      ["pacing trace packet count does not reconcile with successful sends"] else []) ++
    (if counts ≠ [] ∧ ((p1 : ℚ) < target - tolerance ∨ target + tolerance < p99) then
      ["pacing trace 1 ms p1/p99 is outside the 90-110% target band"] else []) ++
    (if 2 * batchWindowUs * 1000 < maxUnexplained then
      ["pacing trace has an unexplained enqueue gap over two batch windows"] else [])

def analyzePacingTrace (trace : TraceTable) (sender : PacingSender) (ratePps batchWindowUs : Int) :
    Except PacingError PacingAnalysis := do
  let records ← readTrace trace
  let records := inTimeOrder records
  let windows := fillWindows sender records
  let pairs := neighbours windows.interiorRecords
  let p1 ← rankOrZero windows.counts (1 / 100)
  let p99 ← rankOrZero windows.counts (99 / 100)
  let target : ℚ := ratePps / 1000
  let tracePackets := (records.map TraceRecord.packetCount).sum
  let maxUnexplained := greatest (pairs.map unexplainedGap)
  let reasons := pacingReasons sender batchWindowUs target windows.counts p1 p99 tracePackets
    maxUnexplained
  pure
    { records := records.length
      tracePackets := tracePackets
      windowCount := windowCount sender
      targetPacketsPerWindow := target
      p1Packets := p1
      p99Packets := p99
      maxEnqueueGapNs := greatest (pairs.map enqueueGap)
      maxUnexplainedEnqueueGapNs := maxUnexplained
      passed := reasons.isEmpty
      reasons := reasons }

/-! ## The order of the records -/

theorem TraceRecord.before_total (left right : TraceRecord) :
    left.before right ∨ right.before left := by
  simp only [before, decide_eq_true_eq]
  omega

theorem TraceRecord.before_trans {first second third : TraceRecord}
    (earlier : first.before second) (later : second.before third) : first.before third := by
  simp only [before, decide_eq_true_eq] at earlier later ⊢
  omega

theorem inTimeOrder_perm (records : List TraceRecord) : (inTimeOrder records).Perm records :=
  List.perm_insertionSort _ records

private theorem inTimeOrder_sorted (records : List TraceRecord) :
    (inTimeOrder records).Pairwise fun left right => left.actualMonoNs ≤ right.actualMonoNs := by
  let relation : TraceRecord → TraceRecord → Prop := fun left right => left.before right
  have totality : Std.Total relation := ⟨TraceRecord.before_total⟩
  have transitivity : IsTrans TraceRecord relation := ⟨fun _ _ _ => TraceRecord.before_trans⟩
  apply (List.pairwise_insertionSort relation records).imp
  intro left right before
  simp only [relation, TraceRecord.before, decide_eq_true_eq] at before
  omega

/-! ## What the loop collects -/

section

variable {sender : PacingSender}

private theorem interiorRecords_foldl (windows : Windows) (records : List TraceRecord) :
    (records.foldl (addRecord sender) windows).interiorRecords =
      windows.interiorRecords ++ records.filter (isCounted sender) := by
  induction records generalizing windows with
  | nil => exact (List.append_nil _).symm
  | cons record records induction =>
      rw [List.foldl_cons, induction, addRecord]
      split
      next counted => rw [List.filter_cons_of_pos counted, List.append_assoc, List.singleton_append]
      next outside => rw [List.filter_cons_of_neg outside]

private theorem interiorRecords_fillWindows (records : List TraceRecord) :
    (fillWindows sender records).interiorRecords = records.filter (isCounted sender) :=
  interiorRecords_foldl _ records

theorem le_greatest {values : List Int} {value : Int} (member : value ∈ values) :
    value ≤ greatest values := Grouping.le_getD_max? member 0

private theorem greatest_nonneg {values : List Int} (nonneg : ∀ value ∈ values, 0 ≤ value) :
    0 ≤ greatest values := by
  cases values with
  | nil => exact Int.le_refl 0
  | cons value values =>
      exact (nonneg value List.mem_cons_self).trans (le_greatest List.mem_cons_self)

/-! ## A trace that passes -/

theorem length_counts_foldl (windows : Windows) (records : List TraceRecord) :
    (records.foldl (addRecord sender) windows).counts.length = windows.counts.length := by
  induction records generalizing windows with
  | nil => rfl
  | cons record records induction =>
      rw [List.foldl_cons, induction, addRecord]
      split
      · exact List.length_modify ..
      · rfl

theorem length_counts_fillWindows (records : List TraceRecord) :
    (fillWindows sender records).counts.length = windowCount sender := by
  rw [fillWindows, length_counts_foldl, List.length_replicate]

structure Passes (sender : PacingSender) (ratePps batchWindowUs : Int)
    (records : List TraceRecord) : Prop where
  windows : windowCount sender ≠ 0
  reconciles : (records.map TraceRecord.packetCount).sum = sender.successfulSends
  p1 : ∃ p1, nearestRank (fillWindows sender records).counts (1 / 100) = .ok p1 ∧
    9 / 10 * (ratePps / 1000 : ℚ) ≤ p1
  p99 : ∃ p99, nearestRank (fillWindows sender records).counts (99 / 100) = .ok p99 ∧
    p99 ≤ 11 / 10 * (ratePps / 1000 : ℚ)
  gaps : ∀ pair ∈ neighbours (records.filter (isCounted sender)),
    unexplainedGap pair ≤ 2 * batchWindowUs * 1000
  allowance : 0 ≤ 2 * batchWindowUs * 1000

private theorem pacingReasons_eq_nil {batchWindowUs p1 p99 tracePackets maxUnexplained : Int}
    {target : ℚ} {counts : List Int}
    (none : pacingReasons sender batchWindowUs target counts p1 p99 tracePackets maxUnexplained =
      []) :
    windowCount sender ≠ 0 ∧ tracePackets = sender.successfulSends ∧
      (counts ≠ [] → 9 / 10 * target ≤ p1 ∧ p99 ≤ 11 / 10 * target) ∧
        maxUnexplained ≤ 2 * batchWindowUs * 1000 := by
  rw [pacingReasons, List.append_eq_nil_iff, List.append_eq_nil_iff, List.append_eq_nil_iff] at none
  rcases none with ⟨⟨⟨windows, reconciles⟩, band⟩, gaps⟩
  simp only [ite_eq_right_iff, List.cons_ne_nil, imp_false] at windows reconciles band gaps
  refine ⟨windows, not_not.mp reconciles, ?_, not_lt.mp gaps⟩
  intro counted
  rw [not_and, not_or, not_lt, not_lt] at band
  rcases band counted with ⟨low, high⟩
  constructor
  · linarith
  · linarith

theorem passes_of_analysis {trace : TraceTable} {ratePps batchWindowUs : Int}
    {analysis : PacingAnalysis}
    (analyzed : analyzePacingTrace trace sender ratePps batchWindowUs = .ok analysis) :
    ∃ records, readTrace trace = .ok records ∧
      (analysis.passed → Passes sender ratePps batchWindowUs (inTimeOrder records)) := by
  rw [analyzePacingTrace, bind_eq_ok] at analyzed
  rcases analyzed with ⟨records, read, analyzed⟩
  rw [bind_eq_ok] at analyzed
  rcases analyzed with ⟨p1, first, analyzed⟩
  rw [bind_eq_ok] at analyzed
  rcases analyzed with ⟨p99, last, analyzed⟩
  cases analyzed
  refine ⟨records, read, ?_⟩
  intro passed
  rcases pacingReasons_eq_nil (List.isEmpty_iff.mp passed) with ⟨windows, reconciles, band, gaps⟩
  have occupied : (fillWindows sender (inTimeOrder records)).counts ≠ [] := by
    intro empty
    rw [← length_counts_fillWindows (inTimeOrder records), empty] at windows
    exact windows rfl
  rw [rankOrZero, if_neg occupied] at first last
  rw [interiorRecords_fillWindows] at gaps
  have nonneg : ∀ value ∈ (neighbours ((inTimeOrder records).filter (isCounted sender))).map
      unexplainedGap, 0 ≤ value := by
    intro value member
    rcases List.mem_map.mp member with ⟨pair, _, same⟩
    rw [← same]
    exact Int.le_max_left _ _
  exact
    { windows := windows
      reconciles := reconciles
      p1 := ⟨p1, first, (band occupied).1⟩
      p99 := ⟨p99, last, (band occupied).2⟩
      gaps := fun pair member => (le_greatest (List.mem_map_of_mem member)).trans gaps
      allowance := (greatest_nonneg nonneg).trans gaps }

/-! ## Stalls -/

/-- The part of the gap inside the interior that the schedule does not account for. -/
def stall (sender : PacingSender) (pair : TraceRecord × TraceRecord) : Int :=
  max 0 (min pair.2.actualMonoNs (interiorEnd sender) -
    max pair.1.actualMonoNs (interiorStart sender)) - explained pair

/-- The gaps that are not measured: the one over the start of the interior, and
those that end behind the last whole window. -/
structure QuietEdges (sender : PacingSender) (batchWindowUs : Int)
    (records : List TraceRecord) : Prop where
  start : ∀ pair ∈ neighbours records, pair.1.actualMonoNs < interiorStart sender →
    interiorStart sender ≤ pair.2.actualMonoNs →
      min pair.2.actualMonoNs (interiorEnd sender) ≤
        interiorStart sender + explained pair + 2 * batchWindowUs * 1000
  finish : ∀ pair ∈ neighbours records, interiorStart sender ≤ pair.1.actualMonoNs →
    windowsEnd sender ≤ pair.2.actualMonoNs →
      min pair.2.actualMonoNs (interiorEnd sender) ≤
        pair.1.actualMonoNs + explained pair + 2 * batchWindowUs * 1000

private theorem explained_nonneg (pair : TraceRecord × TraceRecord) : 0 ≤ explained pair :=
  Int.le_max_left _ _

private theorem stall_le_unexplainedGap (sender : PacingSender) (pair : TraceRecord × TraceRecord) :
    pair.1.actualMonoNs ≤ pair.2.actualMonoNs → stall sender pair ≤ unexplainedGap pair := by
  intro ordered
  simp only [stall, unexplainedGap, enqueueGap]
  omega

private theorem stall_le_iff_quietEdges {ratePps batchWindowUs : Int} {records : List TraceRecord}
    (passes : Passes sender ratePps batchWindowUs (inTimeOrder records)) :
    (∀ pair ∈ neighbours (inTimeOrder records), stall sender pair ≤ 2 * batchWindowUs * 1000) ↔
      QuietEdges sender batchWindowUs (inTimeOrder records) := by
  have allowance := passes.allowance
  constructor
  · intro bounded
    constructor
    · intro pair adjacent before after
      have bound := bounded pair adjacent
      rw [stall] at bound
      omega
    · intro pair adjacent before after
      have bound := bounded pair adjacent
      rw [stall] at bound
      omega
  · intro quiet pair adjacent
    have ordered := rel_of_mem_neighbours (inTimeOrder_sorted records) adjacent
    have accounted := explained_nonneg pair
    by_cases early : pair.1.actualMonoNs < interiorStart sender
    · by_cases crosses : interiorStart sender ≤ pair.2.actualMonoNs
      · have bound := quiet.start pair adjacent early crosses
        rw [stall]
        omega
      · rw [stall]
        omega
    · by_cases late : windowsEnd sender ≤ pair.2.actualMonoNs
      · have bound := quiet.finish pair adjacent (not_lt.mp early) late
        rw [stall]
        omega
      · have left : isCounted sender pair.1 := decide_eq_true ⟨not_lt.mp early, by omega⟩
        have right : isCounted sender pair.2 := decide_eq_true ⟨by omega, not_le.mp late⟩
        exact (stall_le_unexplainedGap sender pair ordered).trans
          (passes.gaps pair (mem_neighbours_filter adjacent left right))

/-- A trace that passes has no long stall in the interior exactly when there is
none at the edges of the whole windows. -/
theorem stalls_noticed_iff {trace : TraceTable} {ratePps batchWindowUs : Int}
    {analysis : PacingAnalysis}
    (analyzed : analyzePacingTrace trace sender ratePps batchWindowUs = .ok analysis)
    (passed : analysis.passed) :
    ∃ records, readTrace trace = .ok records ∧
      ((∀ pair ∈ neighbours (inTimeOrder records),
        stall sender pair ≤ 2 * batchWindowUs * 1000) ↔
          QuietEdges sender batchWindowUs (inTimeOrder records)) := by
  rcases passes_of_analysis analyzed with ⟨records, read, passes⟩
  exact ⟨records, read, stall_le_iff_quietEdges (passes passed)⟩

end

/-! ## Traces of one window -/

def traceColumns : List Text :=
  ["actual_mono_ns".toList, "scheduled_mono_ns".toList, "first_sequence".toList,
    "packet_count".toList, "thread_index".toList]

/-- The interior is the millisecond from 100 ms on. -/
def briefSender : PacingSender where
  startMonoNs := 0
  scheduledEndMonoNs := 201000000
  successfulSends := 4

def traceOf (rows : List (List String)) : TraceTable where
  path := "pacing.csv".toList
  fieldnames := traceColumns
  rows := rows.map fun row => row.map String.toList

theorem exists_analysis {trace : TraceTable} {sender : PacingSender} {ratePps batchWindowUs : Int}
    (passes : ((analyzePacingTrace trace sender ratePps batchWindowUs).toOption.map
      PacingAnalysis.passed) = some true) :
    ∃ analysis, analyzePacingTrace trace sender ratePps batchWindowUs = .ok analysis ∧
      analysis.passed := by
  rcases Option.map_eq_some_iff.mp passes with ⟨analysis, analyzed, passed⟩
  exact ⟨analysis, toOption_eq_some.mp analyzed, passed⟩

def evenTrace : TraceTable :=
  traceOf [["99900000", "99900000", "0", "1", "0"], ["100400000", "100400000", "1", "1", "0"],
    ["100900000", "100900000", "2", "1", "0"], ["101400000", "101400000", "3", "1", "0"]]

theorem readTrace_evenTrace : readTrace evenTrace =
    .ok [⟨99900000, 99900000, 1⟩, ⟨100400000, 100400000, 1⟩, ⟨100900000, 100900000, 1⟩,
      ⟨101400000, 101400000, 1⟩] := toOption_eq_some.mp (by decide +kernel)

theorem evenTrace_passes : ∃ analysis, analyzePacingTrace evenTrace briefSender 2000 300 =
    .ok analysis ∧ analysis.passed := exists_analysis (by decide +kernel)

theorem evenTrace_is_noticed :
    ∃ records, readTrace evenTrace = .ok records ∧ records.length = 4 ∧
      ∀ pair ∈ neighbours (inTimeOrder records), stall briefSender pair ≤ 2 * 300 * 1000 := by
  rcases evenTrace_passes with ⟨analysis, analyzed, passed⟩
  rcases stalls_noticed_iff analyzed passed with ⟨records, read, bounded⟩
  rw [readTrace_evenTrace] at read
  cases read
  refine ⟨_, readTrace_evenTrace, rfl, bounded.mpr ⟨?_, ?_⟩⟩
  · decide +kernel
  · decide +kernel

/-- Half a millisecond without a packet where the interior begins. -/
def stalledTrace : TraceTable :=
  traceOf [["99990000", "99990000", "0", "1", "0"], ["100500000", "100000000", "1", "2", "0"],
    ["101010000", "101010000", "3", "1", "0"]]

theorem stalledTrace_passes :
    ∃ analysis records, analyzePacingTrace stalledTrace briefSender 2000 10 = .ok analysis ∧
      analysis.passed ∧ readTrace stalledTrace = .ok records ∧
      ∃ pair ∈ neighbours (inTimeOrder records),
        stall briefSender pair = 490000 ∧ 2 * 10 * 1000 < stall briefSender pair := by
  have passes : ((analyzePacingTrace stalledTrace briefSender 2000 10).toOption.map
      PacingAnalysis.passed) = some true := by decide +kernel
  rcases exists_analysis passes with ⟨analysis, analyzed, passed⟩
  have known : readTrace stalledTrace = .ok [⟨99990000, 99990000, 1⟩, ⟨100500000, 100000000, 2⟩,
    ⟨101010000, 101010000, 1⟩] := toOption_eq_some.mp (by decide +kernel)
  exact ⟨analysis, _, analyzed, passed, known, (⟨99990000, 99990000, 1⟩, ⟨100500000, 100000000, 2⟩),
    by decide +kernel, by decide +kernel, by decide +kernel⟩

end NetLatencyLab.Harness
