import NetLatencyLab.Analysis.ClaimEvidence

/-! # Clean handoffs of the pipelined receiver

`_overlap_blockers` fills missing cells with -1 and looks only at the greatest
value, so a repetition with zero losses hides one with a missing or negative cell. -/

namespace NetLatencyLab.ClaimEvidence

open Grouping (getD_max?_mem le_getD_max?)
open ProfileTools

/-- Both columns exist and no repetition lost a packet in either. -/
structure CleanHandoff (candidate : SustainableGroup) (runs : PerRun) : Prop where
  matched : (selectedRuns candidate runs).length = requiredRepetitions
  ingressColumn : "ingress_loss" ∈ runs.columns
  overflowColumn : "spsc_overflow" ∈ runs.columns
  ingressLoss : ∀ run ∈ selectedRuns candidate runs, run.ingressLoss = some 0
  spscOverflow : ∀ run ∈ selectedRuns candidate runs, run.spscOverflow = some 0

/-- Some value is zero and none is positive. The two columns hold whole numbers. -/
def PeaksAtZero (selected : List RunRow) (value : RunRow → Option Int) : Prop :=
  (∃ run ∈ selected, value run = some 0) ∧
    ∀ run ∈ selected, ∀ loss, value run = some loss → loss ≤ 0

/-- No value is missing or negative. -/
def Known (selected : List RunRow) (value : RunRow → Option Int) : Prop :=
  ∀ run ∈ selected, ∃ loss, value run = some loss ∧ 0 ≤ loss

/-- What `_overlap_blockers` asks of the cells of the repetitions. -/
structure QuietHandoff (candidate : SustainableGroup) (runs : PerRun) : Prop where
  matched : (selectedRuns candidate runs).length = requiredRepetitions
  ingressColumn : "ingress_loss" ∈ runs.columns
  overflowColumn : "spsc_overflow" ∈ runs.columns
  ingressLoss : PeaksAtZero (selectedRuns candidate runs) RunRow.ingressLoss
  spscOverflow : PeaksAtZero (selectedRuns candidate runs) RunRow.spscOverflow

theorem max?_eq_zero_iff {values : List Int} (occupied : values ≠ []) :
    values.max?.getD 0 = 0 ↔ 0 ∈ values ∧ ∀ value ∈ values, value ≤ 0 := by
  have member := getD_max?_mem occupied 0
  have bound : ∀ value ∈ values, value ≤ values.max?.getD 0 := fun value inside =>
    le_getD_max? inside 0
  constructor
  · intro zero
    rw [zero] at member bound
    exact ⟨member, bound⟩
  · rintro ⟨inside, below⟩
    exact le_antisymm (below _ member) (bound 0 inside)

theorem columnBlockers_eq_nil_iff {columns : List String} {selected : List RunRow} {column : String}
    {value : RunRow → Option Int} {description : String} (occupied : selected ≠ []) :
    columnBlockers columns selected column value description = [] ↔
      column ∈ columns ∧ PeaksAtZero selected value := by
  have filled : (selected.map fun run => (value run).getD (-1)) ≠ [] := by simpa using occupied
  have zero : (selected.map fun run => (value run).getD (-1)).max?.getD 0 = 0 ↔
      PeaksAtZero selected value := by
    rw [max?_eq_zero_iff filled]
    apply and_congr
    · rw [List.mem_map]
      apply exists_congr
      intro run
      cases value run with
      | none => simp
      | some loss => simp
    · rw [List.forall_mem_map]
      apply forall₂_congr
      intro run _
      cases value run with
      | none => simp
      | some loss => simp
  rw [columnBlockers, ← zero]
  by_cases present : column ∈ columns
  · simp [present]
  · simp [present]

theorem overlapBlockers_eq_nil_iff {candidate : SustainableGroup} {runs : PerRun} :
    overlapBlockers candidate runs = [] ↔ QuietHandoff candidate runs := by
  rw [overlapBlockers]
  by_cases matched : (selectedRuns candidate runs).length = requiredRepetitions
  · have occupied : selectedRuns candidate runs ≠ [] := by
      intro empty
      rw [empty] at matched
      cases matched
    simp only [matched, ne_eq, not_true_eq_false, if_false, List.append_eq_nil_iff]
    rw [columnBlockers_eq_nil_iff occupied, columnBlockers_eq_nil_iff occupied]
    constructor
    · intro quiet
      exact ⟨matched, quiet.1.1, quiet.2.1, quiet.1.2, quiet.2.2⟩
    · intro quiet
      exact ⟨⟨quiet.ingressColumn, quiet.ingressLoss⟩, quiet.overflowColumn, quiet.spscOverflow⟩
  · constructor
    · intro unblocked
      simp [matched] at unblocked
    · intro quiet
      exact absurd quiet.matched matched

theorem PeaksAtZero.known_iff {selected : List RunRow} {value : RunRow → Option Int}
    (peaks : PeaksAtZero selected value) :
    Known selected value ↔ ∀ run ∈ selected, value run = some 0 := by
  constructor
  · intro known run member
    rcases known run member with ⟨loss, present, nonnegative⟩
    have none := le_antisymm (peaks.2 run member loss present) nonnegative
    rw [present, none]
  · intro zero run member
    exact ⟨0, zero run member, le_rfl⟩

/-- An empty list of blockers means a clean handoff exactly when two columns
that peak at zero have no missing or negative value. -/
theorem unblocked_overlap_is_clean_iff (candidate : SustainableGroup) (runs : PerRun) :
    (overlapBlockers candidate runs = [] → CleanHandoff candidate runs) ↔
      ((selectedRuns candidate runs).length = requiredRepetitions →
        "ingress_loss" ∈ runs.columns → "spsc_overflow" ∈ runs.columns →
        PeaksAtZero (selectedRuns candidate runs) RunRow.ingressLoss →
        PeaksAtZero (selectedRuns candidate runs) RunRow.spscOverflow →
          Known (selectedRuns candidate runs) RunRow.ingressLoss ∧
          Known (selectedRuns candidate runs) RunRow.spscOverflow) := by
  constructor
  · intro clean matched ingressColumn overflowColumn ingress overflow
    have handoff := clean (overlapBlockers_eq_nil_iff.mpr
      ⟨matched, ingressColumn, overflowColumn, ingress, overflow⟩)
    exact ⟨ingress.known_iff.mpr handoff.ingressLoss, overflow.known_iff.mpr handoff.spscOverflow⟩
  · intro known unblocked
    have quiet := overlapBlockers_eq_nil_iff.mp unblocked
    have both := known quiet.matched quiet.ingressColumn quiet.overflowColumn quiet.ingressLoss
      quiet.spscOverflow
    exact
      { matched := quiet.matched
        ingressColumn := quiet.ingressColumn
        overflowColumn := quiet.overflowColumn
        ingressLoss := quiet.ingressLoss.known_iff.mp both.1
        spscOverflow := quiet.spscOverflow.known_iff.mp both.2 }

/-- The repetitions `t-1` to `t-5`; the last one has lost its `ingress_loss`. -/
def incompleteRuns : PerRun where
  columns := ["topology", "ingress_loss", "spsc_overflow"]
  rows := ["t-1", "t-2", "t-3", "t-4", "t-5"].map fun runId =>
    { runId := runId
      campaign := "raw"
      topology := "distributed_ethernet"
      receiver := "threaded"
      batchSize := 64
      requestedRatePps := 186000
      offeredPps := 186000
      processedPps := 186000
      ingressLoss := if runId = "t-5" then none else some 0
      spscOverflow := some 0
      applicationLossPct := 0
      runValid := true
      sustainableRun := true
      configuration := fun _ => .number 0 }

/-- The candidate that these repetitions make up. -/
def pipelinedCandidate : SustainableGroup where
  receiver := "threaded"
  batchSize := 64
  requestedRatePps := 186000
  repetitions := 5
  processedPpsMedian := 186000
  processedPpsMin := 186000
  processedPpsMax := 186000
  applicationLossPctMax := 0
  maxTestedRatePps := 195000
  saturated := true
  campaign := "raw"
  runIds := "t-1|t-2|t-3|t-4|t-5"
  configuration := fun _ => .number 0

theorem missing_repetition_is_hidden :
    overlapBlockers pipelinedCandidate incompleteRuns = [] ∧
      ¬ CleanHandoff pipelinedCandidate incompleteRuns := by
  constructor
  · decide +kernel
  · intro handoff
    have inside : ∃ run ∈ selectedRuns pipelinedCandidate incompleteRuns,
        run.ingressLoss = none := by decide +kernel
    rcases inside with ⟨run, member, missing⟩
    rw [handoff.ingressLoss run member] at missing
    cases missing

end NetLatencyLab.ClaimEvidence
