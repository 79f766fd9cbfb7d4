import NetLatencyLab.Analysis.Competition

/-! # One workload for all representatives

`select_representatives` compares only `work_ns` between the rows it selects,
not the other columns that tell two workloads apart. -/

namespace NetLatencyLab.ProfileTools

/-- The rows describe one workload. -/
def Agree (configuration : List String) (selected : List SustainableGroup) : Prop :=
  ∀ left ∈ selected, ∀ right ∈ selected, ∀ key ∈ configuration,
    left.configuration key = right.configuration key

/-- Nothing that `select_representatives` looks at tells the workloads apart. -/
def SameWork (columns : List String) (left right : String → Cell) : Prop :=
  "work_ns" ∈ columns → left "work_ns" = right "work_ns"

theorem mem_configuration {perRun : PerRun} {key : String} :
    key ∈ perRun.configuration ↔ key ∈ configurationKeys ∧ key ∈ perRun.columns := by
  simp [PerRun.configuration]

theorem workNs_mem_configuration {perRun : PerRun} :
    "work_ns" ∈ perRun.configuration ↔ "work_ns" ∈ perRun.columns := by
  rw [mem_configuration, and_iff_right (by decide)]

theorem exists_run_of_selected {perRun : PerRun} {campaign : String} {workNs : Option Int}
    {data : List RunRow} {selected : List SustainableGroup}
    (population : claimPopulation perRun campaign = .ok data)
    (succeeds : selectRepresentatives perRun campaign workNs = .ok selected)
    {row : SustainableGroup} (member : row ∈ selected) :
    ∃ run ∈ data, Summarizes perRun.configuration data row run := by
  rcases exists_group_of_selected population succeeds member with ⟨run, inData, summed⟩
  exact ⟨run, inData, sustainableGroup_eq_some summed⟩

/-- Any three contenders with one `work_ns` ran one workload. -/
def OneWorkload (perRun : PerRun) (campaign : String) (workNs : Option Int) : Prop :=
  ∀ listed passing, sustainableGroups perRun campaign = .ok listed →
    atWork perRun.configuration campaign listed workNs = .ok passing →
    ∀ baseline batched threaded, Contender perRun.configuration passing "baseline" baseline →
      Contender perRun.configuration passing "batched" batched →
      Contender perRun.configuration passing "threaded" threaded →
      (∀ left ∈ [baseline, batched, threaded], ∀ right ∈ [baseline, batched, threaded],
        left.get? perRun.configuration "work_ns" = right.get? perRun.configuration "work_ns") →
      Agree perRun.configuration [baseline, batched, threaded]

/-- The representatives agree whenever only one workload competes for each
`work_ns`; otherwise the same runs at other measured rates are selected from two
workloads. -/
theorem representatives_agree_when (perRun : PerRun) (campaign : String) (workNs : Option Int) :
    (OneWorkload perRun campaign workNs → ∀ selected,
      selectRepresentatives perRun campaign workNs = .ok selected →
        Agree perRun.configuration selected) ∧
    (¬ OneWorkload perRun campaign workNs → ∃ rates selected,
      selectRepresentatives (remeasure perRun rates) campaign workNs = .ok selected ∧
        ¬ Agree perRun.configuration selected) := by
  constructor
  · intro single selected succeeds
    rcases selectRepresentatives_eq_ok_iff.mp succeeds with ⟨listed, passing, baseline, batched,
      threaded, groups, filtered, first, second, third, all, sameWork⟩
    subst all
    have contends := fun receiver choice
        (chosen : representative perRun.configuration passing receiver = .ok choice) =>
      (mem_competitors_iff groups filtered).mp (competes_of_representative chosen).1
    exact single listed passing groups filtered baseline batched threaded (contends _ _ first)
      (contends _ _ second) (contends _ _ third) sameWork
  · intro several
    simp only [OneWorkload, not_forall] at several
    rcases several with ⟨listed, passing, groups, filtered, baseline, batched, threaded, first,
      second, third, sameWork, differ⟩
    have selects := selectRepresentatives_remeasure groups filtered
      ((mem_competitors_iff groups filtered).mpr first)
      ((mem_competitors_iff groups filtered).mpr second)
      ((mem_competitors_iff groups filtered).mpr third) sameWork (fun _ => 0)
      fun _ _ _ => by norm_num
    refine ⟨_, _, selects, ?_⟩
    intro agree
    apply differ
    intro left leftMember right rightMember
    exact agree (remeasureGroup _ _ left) (List.mem_map_of_mem leftMember)
      (remeasureGroup _ _ right) (List.mem_map_of_mem rightMember)

/-! ## Tables that mix two workloads -/

def steadyRun (receiver : String) (configuration : String → Cell) : RunRow where
  runId := receiver
  campaign := "raw"
  topology := "distributed_ethernet"
  receiver := receiver
  batchSize := 1
  requestedRatePps := 1000
  offeredPps := 1000
  processedPps := 1000
  ingressLoss := some 0
  spscOverflow := some 0
  applicationLossPct := 0
  runValid := true
  sustainableRun := true
  configuration := configuration

def mixedPicks (left right : String → Cell) : List RunRow :=
  [steadyRun "baseline" left, steadyRun "batched" right, steadyRun "threaded" right]

def mixedRuns (columns : List String) (left right : String → Cell) : PerRun where
  columns := columns
  rows := (mixedPicks left right).flatMap repeated

theorem of_mem_mixedRuns {columns : List String} {left right : String → Cell} {run : RunRow}
    (member : run ∈ (mixedRuns columns left right).rows) :
    ∃ pick ∈ mixedPicks left right, ∃ runId, run = { pick with runId := runId } :=
  of_mem_flatMap_repeated member

private theorem sustains_mixedRuns {columns : List String} {left right : String → Cell}
    (configuration : List String) {pick : RunRow} (member : pick ∈ mixedPicks left right) :
    Sustains configuration (mixedRuns columns left right).rows pick := by
  have sustainable : pick.sustainableRun := by
    simp only [mixedPicks, List.mem_cons, List.not_mem_nil, or_false] at member
    rcases member with rfl | rfl | rfl
    · rfl
    · rfl
    · rfl
  have distinct : ((mixedPicks left right).map (groupKey configuration)).Nodup := by
    simp [mixedPicks, steadyRun, groupKey_eq_iff]
  exact Sustains.of_mem_picks distinct member sustainable

theorem claimPopulation_mixedRuns {columns : List String} {left right : String → Cell}
    (topology : "topology" ∈ columns) :
    claimPopulation (mixedRuns columns left right) "raw" =
      .ok (mixedRuns columns left right).rows := by
  apply claimPopulation_repeated topology
  intro pick picked
  simp only [mixedPicks, List.mem_cons, List.not_mem_nil, or_false] at picked
  rcases picked with rfl | rfl | rfl
  · simp [steadyRun]
  · simp [steadyRun]
  · simp [steadyRun]

theorem selectRepresentatives_mixedRuns {columns : List String} {left right : String → Cell}
    (topology : "topology" ∈ columns) (sameWork : SameWork columns left right) :
    ∃ baseline batched threaded,
      selectRepresentatives (mixedRuns columns left right) "raw" none =
        .ok [baseline, batched, threaded] ∧
      ∀ key ∈ (mixedRuns columns left right).configuration,
        baseline.configuration key = left key ∧ batched.configuration key = right key := by
  have nonnegative : ∀ run ∈ (mixedRuns columns left right).rows,
      Sustains (mixedRuns columns left right).configuration (mixedRuns columns left right).rows run →
        0 ≤ run.processedPps := by
    intro run member _
    rcases of_mem_mixedRuns member with ⟨pick, picked, runId, rfl⟩
    simp only [mixedPicks, List.mem_cons, List.not_mem_nil, or_false] at picked
    rcases picked with rfl | rfl | rfl
    · simp [steadyRun]
    · simp [steadyRun]
    · simp [steadyRun]
  have single : ∀ pick ∈ mixedPicks left right, ∀ run ∈ (mixedRuns columns left right).rows,
      run.receiver = pick.receiver →
        groupKey (mixedRuns columns left right).configuration run =
          groupKey (mixedRuns columns left right).configuration pick := by
    intro pick picked run member receiver
    rcases of_mem_mixedRuns member with ⟨other, otherPicked, runId, rfl⟩
    have receivers : ((mixedPicks left right).map RunRow.receiver).Nodup := by
      simp [mixedPicks, steadyRun]
    rw [← List.inj_on_of_nodup_map receivers otherPicked picked receiver]
    rfl
  have work : "work_ns" ∈ (mixedRuns columns left right).configuration →
      ∀ first ∈ mixedPicks left right, ∀ second ∈ mixedPicks left right,
        first.configuration "work_ns" = second.configuration "work_ns" := by
    intro present
    have same : left "work_ns" = right "work_ns" := sameWork (workNs_mem_configuration.mp present)
    simp [mixedPicks, steadyRun, same]
  rcases exists_selection (claimPopulation_mixedRuns topology) nonnegative ⟨rfl, rfl, rfl⟩
      (fun pick => sustains_mixedRuns _)
      (fun pick picked run member _ => single pick picked run member) work with
    ⟨baseline, batched, threaded, succeeds, baselineSummary, batchedSummary, -⟩
  refine ⟨baseline, batched, threaded, succeeds, ?_⟩
  intro key present
  exact ⟨baselineSummary.workload key present, batchedSummary.workload key present⟩

/-- The workload of the claim campaign, sampled or not. -/
def claimWorkload (sampleEvery : ℚ) : String → Cell
  | "mode" => .text "steady"
  | "burst_size" => .number 1
  | "payload_size" => .number 64
  | "duration_seconds" => .number 30
  | "work_ns" => .number 5000
  | _ => .number sampleEvery

/-- An unsampled baseline is paired with candidates that sampled every 101st packet. -/
theorem sampled_and_unsampled_runs_are_paired :
    ∃ selected,
      selectRepresentatives (mixedRuns ("topology" :: configurationKeys) (claimWorkload 0)
        (claimWorkload 101)) "raw" none = .ok selected ∧
      ¬ Agree (mixedRuns ("topology" :: configurationKeys) (claimWorkload 0)
        (claimWorkload 101)).configuration selected := by
  have topology : "topology" ∈ "topology" :: configurationKeys := List.mem_cons_self
  have sameWork : SameWork ("topology" :: configurationKeys) (claimWorkload 0)
      (claimWorkload 101) := fun _ => rfl
  rcases selectRepresentatives_mixedRuns topology sameWork with
    ⟨baseline, batched, threaded, succeeds, workload⟩
  refine ⟨_, succeeds, ?_⟩
  intro agree
  have sampled := workload "sample_every" (mem_configuration.mpr ⟨by decide, by decide⟩)
  have same := agree baseline (by simp) batched (by simp) "sample_every"
    (mem_configuration.mpr ⟨by decide, by decide⟩)
  rw [sampled.1, sampled.2] at same
  exact absurd same (by decide)

end NetLatencyLab.ProfileTools
