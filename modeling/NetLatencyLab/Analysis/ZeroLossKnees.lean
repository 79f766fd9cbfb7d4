import NetLatencyLab.Analysis.RepresentativeChoice

/-! # Invalid runs and reported rates

`sustainable_groups` and `zero_loss_knees` of `plot_paper_figs.py` remove invalid
runs before they test the runs of a configuration. An invalid run disqualifies
a sustainable configuration only by what it leaves of the five. -/

namespace NetLatencyLab.PlotPaperFigs

open Grouping (groups firstMaxima mem_groups mem_firstMaxima)
open ProfileTools (Eligible FiveRuns Sustains claimPopulation groupKey rowKey sustainableGroups)

structure FigureRow extends RunRow where
  zeroLossRun : Bool

structure FigureTable where
  columns : List String
  rows : List FigureRow

/-- What the profile tools read of the table. -/
def FigureTable.perRun (table : FigureTable) : PerRun where
  columns := table.columns
  rows := table.rows.map FigureRow.toRunRow

def kneeKey (run : FigureRow) : List Cell :=
  [.text run.receiver, .number run.batchSize, .number run.requestedRatePps]

/-- A row of `grouped`. -/
structure RateGroup where
  receiver : String
  batchSize : Int
  requestedRatePps : Int
  repetitions : Nat
  allZeroLoss : Bool
deriving DecidableEq

def rateGroup (first : FigureRow) (group : List FigureRow) : RateGroup where
  receiver := first.receiver
  batchSize := first.batchSize
  requestedRatePps := first.requestedRatePps
  repetitions := group.length
  allZeroLoss := group.all fun run => run.zeroLossRun

def grouped (data : List FigureRow) : List RateGroup :=
  (groups Cell.keyBefore kneeKey data).filterMap fun group =>
    group.2.head?.map fun first => rateGroup first group.2

def zeroLossKnees (table : FigureTable) (campaign : String) :
    Except AnalysisError (List RateGroup) :=
  if "topology" ∉ table.columns then .error (.attributeError "topology")
  else
    let data := table.rows.filter fun run =>
      run.campaign = campaign ∧ run.topology ≠ "local_loopback"
    let data := if "run_valid" ∈ table.columns then data.filter fun run => run.runValid else data
    let passing := (grouped data).filter fun group => group.allZeroLoss
    if passing = [] then
      .error (.valueError s!"No configuration in campaign '{campaign}' sustained zero loss")
    else
      .ok (firstMaxima Cell.keyBefore
        (fun group => [.text group.receiver, .number group.batchSize]) RateGroup.requestedRatePps
        passing)

/-! ## What is reported -/

def runsOf (table : FigureTable) (campaign : String) (group : RateGroup) : List FigureRow :=
  table.rows.filter fun run => Eligible table.perRun campaign run.toRunRow ∧
    run.receiver = group.receiver ∧ run.batchSize = group.batchSize ∧
      run.requestedRatePps = group.requestedRatePps

/-- A rate with a run that counts, and without loss in any that does. -/
structure ZeroLoss (table : FigureTable) (campaign : String) (group : RateGroup) : Prop where
  some : runsOf table campaign group ≠ []
  repetitions : group.repetitions = (runsOf table campaign group).length
  zeroLoss : ∀ run ∈ runsOf table campaign group, run.zeroLossRun

section

variable {table : FigureTable} {campaign : String}

theorem counting_eq_filter (table : FigureTable) (campaign : String) :
    (if "run_valid" ∈ table.columns then
      (table.rows.filter fun run =>
        run.campaign = campaign ∧ run.topology ≠ "local_loopback").filter fun run => run.runValid
    else table.rows.filter fun run =>
      run.campaign = campaign ∧ run.topology ≠ "local_loopback") =
      table.rows.filter fun run => Eligible table.perRun campaign run.toRunRow := by
  split
  next validity =>
    rw [List.filter_filter]
    apply List.filter_congr
    intro run _
    simp [Eligible, FigureTable.perRun, validity, Bool.and_comm, Bool.and_left_comm]
  next validity =>
    apply List.filter_congr
    intro run _
    simp [Eligible, FigureTable.perRun, validity]

private theorem kneeKey_eq_iff {left right : FigureRow} :
    kneeKey left = kneeKey right ↔ left.receiver = right.receiver ∧
      left.batchSize = right.batchSize ∧ left.requestedRatePps = right.requestedRatePps := by
  simp [kneeKey]

private theorem zeroLoss_of_mem_knees {knees : List RateGroup}
    (succeeds : zeroLossKnees table campaign = .ok knees) {knee : RateGroup}
    (member : knee ∈ knees) : ZeroLoss table campaign knee := by
  rw [zeroLossKnees] at succeeds
  split at succeeds
  · cases succeeds
  simp only [counting_eq_filter] at succeeds
  split at succeeds
  · cases succeeds
  cases succeeds
  rcases List.mem_filter.mp (mem_firstMaxima member).1 with ⟨inside, passes⟩
  rcases List.mem_filterMap.mp inside with ⟨group, listed, leads⟩
  rcases Option.map_eq_some_iff.mp leads with ⟨first, isFirst, same⟩
  subst same
  have members := (mem_groups.mp listed).2
  have firstMember := List.mem_of_mem_head? isFirst
  have keyed : kneeKey first = group.1 := by
    rw [members] at firstMember
    exact of_decide_eq_true (List.mem_filter.mp firstMember).2
  have runs : runsOf table campaign (rateGroup first group.2) = group.2 := by
    rw [members, runsOf, List.filter_filter]
    apply List.filter_congr
    intro run _
    simp only [← keyed, kneeKey_eq_iff, rateGroup]
    simp [Bool.and_comm]
  refine ⟨?_, ?_, ?_⟩
  · rw [runs]
    exact List.ne_nil_of_mem firstMember
  · rw [runs]
    rfl
  · rw [runs]
    exact List.all_eq_true.mp passes

/-! ## What invalid runs change -/

def FigureTable.withoutInvalid (table : FigureTable) : FigureTable :=
  { table with rows := table.rows.filter fun run =>
      "run_valid" ∈ table.columns → run.runValid }

theorem eligible_withoutInvalid (table : FigureTable) (campaign : String) :
    (table.withoutInvalid.rows.filter fun run =>
      Eligible table.withoutInvalid.perRun campaign run.toRunRow) =
        table.rows.filter fun run => Eligible table.perRun campaign run.toRunRow := by
  rw [FigureTable.withoutInvalid, List.filter_filter]
  apply List.filter_congr
  intro run _
  rw [← Bool.decide_and]
  apply decide_eq_decide.mpr
  exact ⟨fun both => both.1, fun eligible => ⟨eligible, eligible.2.2⟩⟩

private theorem zeroLossKnees_withoutInvalid (table : FigureTable) (campaign : String) :
    zeroLossKnees table.withoutInvalid campaign = zeroLossKnees table campaign := by
  rw [zeroLossKnees, zeroLossKnees]
  simp only [counting_eq_filter, eligible_withoutInvalid]
  rfl

theorem claimPopulation_withoutInvalid (table : FigureTable) (campaign : String) :
    claimPopulation table.withoutInvalid.perRun campaign = claimPopulation table.perRun campaign := by
  have rows : (table.withoutInvalid.perRun.rows.filter fun run =>
      Eligible table.withoutInvalid.perRun campaign run) =
        table.perRun.rows.filter fun run => Eligible table.perRun campaign run := by
    have same := congrArg (List.map FigureRow.toRunRow) (eligible_withoutInvalid table campaign)
    rw [FigureTable.perRun, List.filter_map, FigureTable.perRun, List.filter_map]
    exact same
  rw [ProfileTools.claimPopulation_eq, ProfileTools.claimPopulation_eq, rows]
  rfl

private theorem sustainableGroups_withoutInvalid (table : FigureTable) (campaign : String) :
    sustainableGroups table.withoutInvalid.perRun campaign =
      sustainableGroups table.perRun campaign := by
  rw [sustainableGroups, sustainableGroups, claimPopulation_withoutInvalid]
  rfl

/-- The physical runs of a reported configuration and rate, valid or not. -/
def physicalRuns (table : FigureTable) (campaign : String)
    (row : ProfileTools.SustainableGroup) : List RunRow :=
  table.perRun.rows.filter fun run => (run.campaign = campaign ∧ run.topology ≠ "local_loopback") ∧
    groupKey table.perRun.configuration run = rowKey table.perRun.configuration row

private theorem valid_of_physicalRuns {row : ProfileTools.SustainableGroup} {runs : List RunRow}
    (fiveRuns : FiveRuns table.perRun campaign row runs)
    (few : (physicalRuns table campaign row).length ≤ 5) {run : RunRow}
    (member : run ∈ physicalRuns table campaign row) (recorded : "run_valid" ∈ table.columns) :
    run.runValid := by
  have valid : runs = (physicalRuns table campaign row).filter fun run => run.runValid := by
    rw [fiveRuns.all, physicalRuns, List.filter_filter]
    apply List.filter_congr
    intro run _
    have listed : "run_valid" ∈ table.perRun.columns := recorded
    simp [Eligible, listed, Bool.and_comm, Bool.and_left_comm, Bool.and_assoc]
  have length : ((physicalRuns table campaign row).filter fun run => run.runValid).length =
      (physicalRuns table campaign row).length := by
    apply le_antisymm
    · exact List.length_filter_le _ _
    · rw [← valid, fiveRuns.five]
      exact few
  exact List.length_filter_eq_length_iff.mp length run member

/-- What a report says of the valid runs, and that it says nothing of the others. -/
theorem reported_only_if (table : FigureTable) (campaign : String) :
    (∀ listed, sustainableGroups table.perRun campaign = .ok listed → ∀ row ∈ listed,
      (∃ runs, FiveRuns table.perRun campaign row runs) ∧
        ((physicalRuns table campaign row).length ≤ 5 → "run_valid" ∈ table.columns →
          ∀ run ∈ physicalRuns table campaign row, run.runValid)) ∧
    (∀ knees, zeroLossKnees table campaign = .ok knees → ∀ knee ∈ knees,
      ZeroLoss table campaign knee) ∧
    sustainableGroups table.withoutInvalid.perRun campaign =
      sustainableGroups table.perRun campaign ∧
    zeroLossKnees table.withoutInvalid campaign = zeroLossKnees table campaign := by
  refine ⟨?_, ?_, sustainableGroups_withoutInvalid table campaign,
    zeroLossKnees_withoutInvalid table campaign⟩
  · intro listed groups row member
    have population := groups
    rw [sustainableGroups, Fallible.bind_eq_ok] at population
    rcases population with ⟨data, population, _⟩
    rcases ProfileTools.fiveRuns_of_mem population groups member with ⟨runs, fiveRuns⟩
    exact ⟨⟨runs, fiveRuns⟩, fun few recorded run inside =>
      valid_of_physicalRuns fiveRuns few inside recorded⟩
  · exact fun knees succeeds knee member => zeroLoss_of_mem_knees succeeds member

end

/-- Five good runs of a configuration, and a sixth that was invalid. -/
def rerunTable : FigureTable where
  columns := "topology" :: "run_valid" :: configurationKeys
  rows :=
    (ProfileTools.repeated (ProfileTools.steadyRun "baseline" (ProfileTools.claimWorkload 0))).map
        (fun run => { run with zeroLossRun := true }) ++
      [{ ProfileTools.steadyRun "baseline" (ProfileTools.claimWorkload 0) with
          runValid := false
          sustainableRun := false
          zeroLossRun := false }]

/-- The configuration is reported twice although one of its runs was invalid. -/
theorem invalid_run_is_discarded :
    ∃ listed knees, sustainableGroups rerunTable.perRun "raw" = .ok listed ∧
      zeroLossKnees rerunTable "raw" = .ok knees ∧
      ∃ run ∈ rerunTable.rows, run.campaign = "raw" ∧ run.topology ≠ "local_loopback" ∧
        ¬ run.runValid ∧
        (∃ row ∈ listed, rowKey rerunTable.perRun.configuration row =
          groupKey rerunTable.perRun.configuration run.toRunRow) ∧
        ∃ knee ∈ knees, knee.receiver = run.receiver ∧ knee.batchSize = run.batchSize ∧
          knee.requestedRatePps = run.requestedRatePps := by
  let pick := ProfileTools.steadyRun "baseline" (ProfileTools.claimWorkload 0)
  have valid : rerunTable.withoutInvalid.perRun =
      { columns := rerunTable.columns, rows := [pick].flatMap ProfileTools.repeated } := rfl
  have topology : "topology" ∈ rerunTable.columns := List.mem_cons_self
  have population : claimPopulation rerunTable.perRun "raw" =
      .ok ([pick].flatMap ProfileTools.repeated) := by
    rw [← claimPopulation_withoutInvalid, valid]
    apply ProfileTools.claimPopulation_repeated topology
    intro other member
    rw [List.mem_singleton.mp member]
    exact ⟨rfl, by decide, rfl⟩
  have distinct : ([pick].map (groupKey rerunTable.perRun.configuration)).Nodup :=
    List.nodup_singleton _
  have sustains : Sustains rerunTable.perRun.configuration ([pick].flatMap ProfileTools.repeated)
      pick := Sustains.of_mem_picks distinct List.mem_cons_self rfl
  have groups : ∃ listed, sustainableGroups rerunTable.perRun "raw" = .ok listed := by
    rw [sustainableGroups, population]
    exact ⟨_, rfl⟩
  rcases groups with ⟨listed, groups⟩
  rcases ProfileTools.exists_mem_of_sustains population groups sustains with ⟨row, inside, summary⟩
  have knees : zeroLossKnees rerunTable "raw" = .ok [⟨"baseline", 1, 1000, 5, true⟩] := by
    decide +kernel
  refine ⟨listed, _, groups, knees, _, List.mem_append_right _ (List.mem_singleton_self _), rfl,
    by decide, Bool.false_ne_true, ⟨row, inside, ?_⟩, _, List.mem_singleton_self _, rfl, rfl, rfl⟩
  have keyed : groupKey rerunTable.perRun.configuration pick =
      rowKey rerunTable.perRun.configuration row :=
    ProfileTools.rowKey_eq_groupKey_iff.mpr ⟨summary.receiver.symm, summary.batchSize.symm,
      summary.rate.symm, fun key present => (summary.workload key present).symm⟩
  exact keyed.symm

end NetLatencyLab.PlotPaperFigs
