import NetLatencyLab.Analysis.PerRunSummary
import NetLatencyLab.Foundation.Fallible
import NetLatencyLab.Foundation.Grouping
import Mathlib.Algebra.Order.Field.Rat
import Mathlib.Data.String.Basic
import Mathlib.Tactic.Linarith

/-! # Selection of the claimed configurations

`profile_tools.py`: the repetition groups that met the sustainability rule and
the configuration that represents each receiver. -/

namespace NetLatencyLab.ProfileTools

open Fallible (bind_eq_ok pure_eq_ok)
open Grouping (groups firstMaxima mem_groups mem_firstMaxima getD_max?_mem getD_min?_mem
  length_dedup_le_one_iff)

def requiredRepetitions : Nat := 5

def median (values : List ℚ) : ℚ :=
  let sorted := values.insertionSort (· ≤ ·)
  let middle := sorted.length / 2
  if sorted.length % 2 = 1 then sorted.getD middle 0
  else (sorted.getD (middle - 1) 0 + sorted.getD middle 0) / 2

example : median [3, 1, 2] = 2 ∧ median [4, 1, 2, 3] = 5 / 2 := by decide +kernel

def claimPopulation (perRun : PerRun) (campaign : String) : Except AnalysisError (List RunRow) :=
  if "topology" ∉ perRun.columns then
    .error (.valueError "per-run summary is missing topology; cannot exclude loopback data")
  else
    let data := perRun.rows.filter fun run => run.campaign = campaign
    let data := data.filter fun run => run.topology ≠ "local_loopback"
    if "run_valid" ∈ perRun.columns then .ok (data.filter fun run => run.runValid) else .ok data

def workloadKey (configuration : List String) (run : RunRow) : List Cell :=
  .text run.receiver :: .number run.batchSize :: configuration.map run.configuration

/-- The columns that the runs are grouped by. -/
def groupKey (configuration : List String) (run : RunRow) : List Cell :=
  .text run.receiver :: .number run.batchSize :: .number run.requestedRatePps ::
    configuration.map run.configuration

/-- A row of the frame that `sustainable_groups` returns. -/
structure SustainableGroup where
  receiver : String
  batchSize : Int
  requestedRatePps : Int
  repetitions : Nat
  processedPpsMedian : ℚ
  processedPpsMin : ℚ
  processedPpsMax : ℚ
  applicationLossPctMax : ℚ
  maxTestedRatePps : Int
  saturated : Bool
  campaign : String
  runIds : String
  configuration : String → Cell

/-- `highest_tested.loc[...]`. -/
def highestTested (configuration : List String) (data : List RunRow) (run : RunRow) : Int :=
  ((data.filter fun other => workloadKey configuration other = workloadKey configuration run).map
    RunRow.requestedRatePps).max?.getD 0

/-- One pass of the loop over the groups; `first` is `iloc[0]` of the group. -/
def sustainableGroup (campaign : String) (configuration : List String) (data : List RunRow)
    (first : RunRow) (group : List RunRow) : Option SustainableGroup :=
  if group.length ≠ requiredRepetitions ∨ ¬ (group.all fun run => run.sustainableRun) then none
  else
    let processed := group.map RunRow.processedPps
    let maximumTested := highestTested configuration data first
    some
      { receiver := first.receiver
        batchSize := first.batchSize
        requestedRatePps := first.requestedRatePps
        repetitions := group.length
        processedPpsMedian := median processed
        processedPpsMin := processed.min?.getD 0
        processedPpsMax := processed.max?.getD 0
        applicationLossPctMax := (group.map RunRow.applicationLossPct).max?.getD 0
        maxTestedRatePps := maximumTested
        saturated := first.requestedRatePps < maximumTested
        campaign := campaign
        runIds := "|".intercalate ((group.map RunRow.runId).insertionSort (· ≤ ·))
        configuration := first.configuration }

def sustainableGroups (perRun : PerRun) (campaign : String) :
    Except AnalysisError (List SustainableGroup) := do
  let data ← claimPopulation perRun campaign
  let configuration := perRun.configuration
  pure ((groups Cell.keyBefore (groupKey configuration) data).filterMap fun group =>
    group.2.head?.bind fun first => sustainableGroup campaign configuration data first group.2)

/-- `row.get(key)`. -/
def SustainableGroup.get? (configuration : List String) (row : SustainableGroup) (key : String) :
    Option Cell :=
  if key ∈ configuration then some (row.configuration key) else none

def competitionKey (configuration : List String) (row : SustainableGroup) : List Cell :=
  .number row.batchSize ::
    (["work_ns", "sample_every"].filter fun key => key ∈ configuration).map row.configuration

/-- `sort_values(["batch_size", "requested_rate_pps"], ascending=[True, False])`. -/
def choiceOrder (left right : SustainableGroup) : Bool :=
  left.batchSize < right.batchSize ∨
    left.batchSize = right.batchSize ∧ right.requestedRatePps ≤ left.requestedRatePps

def representative (configuration : List String) (passing : List SustainableGroup)
    (receiver : String) : Except AnalysisError SustainableGroup :=
  let candidates := passing.filter fun row => row.receiver = receiver
  if candidates = [] then
    .error (.valueError s!"No sustainable configuration for {receiver}")
  else
    let candidates := firstMaxima Cell.keyBefore (competitionKey configuration)
      SustainableGroup.requestedRatePps candidates
    let bestPps := (candidates.map SustainableGroup.processedPpsMedian).max?.getD 0
    let withinTwoPercent := candidates.filter fun row => 98 / 100 * bestPps ≤ row.processedPpsMedian
    match (withinTwoPercent.insertionSort fun left right => choiceOrder left right).head? with
    | some choice => .ok choice
    | none => .error .indexError

/-- `passing[passing.work_ns == int(work_ns)]`. -/
def atWork (configuration : List String) (campaign : String) (passing : List SustainableGroup) :
    Option Int → Except AnalysisError (List SustainableGroup)
  | none => .ok passing
  | some workNs =>
      if "work_ns" ∉ configuration then .error (.attributeError "work_ns")
      else
        let passing := passing.filter fun row => row.configuration "work_ns" = .number workNs
        if passing = [] then
          .error (.valueError
            s!"No {campaign} configuration at work_ns={workNs} has five sustainable repetitions")
        else .ok passing

def workloadText : Option Cell → String
  | none => "None"
  | some (.text value) => s!"'{value}'"
  | some (.number value) => toString value

def workloadOrder : Option Cell → Option Cell → Bool
  | some left, some right => left.before right
  | none, _ => true
  | some _, none => false

def selectRepresentatives (perRun : PerRun) (campaign : String) (workNs : Option Int) :
    Except AnalysisError (List SustainableGroup) := do
  let configuration := perRun.configuration
  let passing ← sustainableGroups perRun campaign
  if passing = [] then
    .error (.valueError s!"No {campaign} configuration has five sustainable repetitions")
  else
    let passing ← atWork configuration campaign passing workNs
    let selected ← ["baseline", "batched", "threaded"].mapM (representative configuration passing)
    let workloads := (selected.map fun row => row.get? configuration "work_ns").dedup
    if workloads.length > 1 then
      let sorted := workloads.insertionSort fun left right => workloadOrder left right
      .error (.valueError
        s!"Selected representatives span multiple workloads: {sorted.map workloadText}")
    else pure selected

theorem claimPopulation_eq_rows {perRun : PerRun} {campaign : String}
    (topology : "topology" ∈ perRun.columns)
    (eligible : ∀ run ∈ perRun.rows,
      run.campaign = campaign ∧ run.topology ≠ "local_loopback" ∧ run.runValid) :
    claimPopulation perRun campaign = .ok perRun.rows := by
  have ofCampaign : perRun.rows.filter (fun run => run.campaign = campaign) = perRun.rows := by
    rw [List.filter_eq_self]
    intro run member
    simpa using (eligible run member).1
  have physical : perRun.rows.filter (fun run => run.topology ≠ "local_loopback") = perRun.rows := by
    rw [List.filter_eq_self]
    intro run member
    simpa using (eligible run member).2.1
  have valid : perRun.rows.filter (fun run => run.runValid) = perRun.rows := by
    rw [List.filter_eq_self]
    intro run member
    exact (eligible run member).2.2
  rw [claimPopulation, if_neg (not_not.mpr topology)]
  simp only
  rw [ofCampaign, physical, valid, ite_self]

def repeated (run : RunRow) : List RunRow :=
  (List.range requiredRepetitions).map fun repetition =>
    { run with runId := s!"{run.runId}-r{repetition + 1}" }

theorem of_mem_repeated {run other : RunRow} (member : other ∈ repeated run) :
    ∃ runId, other = { run with runId := runId } := by
  rcases List.mem_map.mp member with ⟨repetition, -, rfl⟩
  exact ⟨_, rfl⟩

theorem of_mem_flatMap_repeated {picks : List RunRow} {run : RunRow}
    (member : run ∈ picks.flatMap repeated) :
    ∃ pick ∈ picks, ∃ runId, run = { pick with runId := runId } := by
  rcases List.mem_flatMap.mp member with ⟨pick, picked, inside⟩
  exact ⟨pick, picked, of_mem_repeated inside⟩

theorem claimPopulation_repeated {columns : List String} {campaign : String} {picks : List RunRow}
    (topology : "topology" ∈ columns)
    (eligible : ∀ pick ∈ picks,
      pick.campaign = campaign ∧ pick.topology ≠ "local_loopback" ∧ pick.runValid) :
    claimPopulation { columns := columns, rows := picks.flatMap repeated } campaign =
      .ok (picks.flatMap repeated) := by
  apply claimPopulation_eq_rows topology
  intro run member
  rcases of_mem_flatMap_repeated member with ⟨pick, picked, runId, same⟩
  subst same
  exact eligible pick picked

/-! ## What passes -/

/-- The group of a run. -/
def repetitionsOf (configuration : List String) (data : List RunRow) (run : RunRow) : List RunRow :=
  data.filter fun other => groupKey configuration other = groupKey configuration run

/-- Five repetitions, all of them sustainable. -/
structure Sustains (configuration : List String) (data : List RunRow) (run : RunRow) : Prop where
  length : (repetitionsOf configuration data run).length = requiredRepetitions
  sustainable : ∀ other ∈ repetitionsOf configuration data run, other.sustainableRun

structure Describes (configuration : List String) (row : SustainableGroup) (run : RunRow) : Prop where
  receiver : row.receiver = run.receiver
  batchSize : row.batchSize = run.batchSize
  rate : row.requestedRatePps = run.requestedRatePps
  workload : ∀ key ∈ configuration, row.configuration key = run.configuration key

/-- The row sums up the group of the run. -/
structure Summarizes (configuration : List String) (data : List RunRow) (row : SustainableGroup)
    (run : RunRow) : Prop extends Describes configuration row run where
  sustains : Sustains configuration data run
  repetitions : row.repetitions = requiredRepetitions
  median : row.processedPpsMedian ∈ (repetitionsOf configuration data run).map RunRow.processedPps
  slowest : row.processedPpsMin ∈ (repetitionsOf configuration data run).map RunRow.processedPps
  fastest : row.processedPpsMax ∈ (repetitionsOf configuration data run).map RunRow.processedPps
  loss : row.applicationLossPctMax ∈
    (repetitionsOf configuration data run).map RunRow.applicationLossPct
  saturated : row.saturated = decide (run.requestedRatePps < highestTested configuration data run)

theorem groupKey_eq_iff {configuration : List String} {left right : RunRow} :
    groupKey configuration left = groupKey configuration right ↔
      left.receiver = right.receiver ∧ left.batchSize = right.batchSize ∧
        left.requestedRatePps = right.requestedRatePps ∧
          ∀ key ∈ configuration, left.configuration key = right.configuration key := by
  simp [groupKey, List.map_inj_left]

theorem workloadKey_eq_iff {configuration : List String} {left right : RunRow} :
    workloadKey configuration left = workloadKey configuration right ↔
      left.receiver = right.receiver ∧ left.batchSize = right.batchSize ∧
        ∀ key ∈ configuration, left.configuration key = right.configuration key := by
  simp [workloadKey, List.map_inj_left]

private theorem median_mem {values : List ℚ} (odd : values.length % 2 = 1) :
    median values ∈ values := by
  have length := List.length_insertionSort (· ≤ ·) values
  have inside : values.length / 2 < (values.insertionSort (· ≤ ·)).length := by omega
  simp only [median, length, if_pos odd]
  rw [List.getD_eq_getElem?_getD, List.getElem?_eq_getElem inside, Option.getD_some]
  exact (List.mem_insertionSort _).mp (List.getElem_mem inside)

theorem median_eq_of_forall_eq {values : List ℚ} {value : ℚ} (occupied : values ≠ [])
    (same : ∀ other ∈ values, other = value) : median values = value := by
  have length := List.length_insertionSort (· ≤ ·) values
  have some : 0 < values.length := List.length_pos_iff.mpr occupied
  have sorted : ∀ index < values.length,
      (values.insertionSort (· ≤ ·)).getD index 0 = value := by
    intro index inside
    rw [← length] at inside
    rw [List.getD_eq_getElem?_getD, List.getElem?_eq_getElem inside, Option.getD_some]
    exact same _ ((List.mem_insertionSort _).mp (List.getElem_mem inside))
  simp only [median, length]
  split
  · exact sorted _ (by omega)
  · rw [sorted _ (by omega), sorted _ (by omega), add_self_div_two]

theorem repetitionsOf_congr {configuration : List String} {data : List RunRow} {left right : RunRow}
    (same : groupKey configuration left = groupKey configuration right) :
    repetitionsOf configuration data left = repetitionsOf configuration data right := by
  rw [repetitionsOf, repetitionsOf, same]

theorem highestTested_congr {configuration : List String} {data : List RunRow} {left right : RunRow}
    (same : groupKey configuration left = groupKey configuration right) :
    highestTested configuration data left = highestTested configuration data right := by
  rcases groupKey_eq_iff.mp same with ⟨receiver, batchSize, -, agree⟩
  rw [highestTested, highestTested, workloadKey_eq_iff.mpr ⟨receiver, batchSize, agree⟩]

theorem Sustains.of_groupKey {configuration : List String} {data : List RunRow}
    {run other : RunRow} (sustains : Sustains configuration data run)
    (same : groupKey configuration run = groupKey configuration other) :
    Sustains configuration data other := by
  have group : repetitionsOf configuration data run = repetitionsOf configuration data other :=
    repetitionsOf_congr same
  exact ⟨group ▸ sustains.length, group ▸ sustains.sustainable⟩

theorem Describes.of_groupKey {configuration : List String} {row : SustainableGroup}
    {run other : RunRow} (describes : Describes configuration row run)
    (same : groupKey configuration run = groupKey configuration other) :
    Describes configuration row other := by
  rcases groupKey_eq_iff.mp same with ⟨receiver, batchSize, rate, agree⟩
  exact
    { receiver := describes.receiver.trans receiver
      batchSize := describes.batchSize.trans batchSize
      rate := describes.rate.trans rate
      workload := fun key present =>
        (describes.workload key present).trans (agree key present) }

theorem Summarizes.of_groupKey {configuration : List String} {data : List RunRow}
    {row : SustainableGroup} {run other : RunRow} (summary : Summarizes configuration data row run)
    (same : groupKey configuration run = groupKey configuration other) :
    Summarizes configuration data row other := by
  have group : repetitionsOf configuration data run = repetitionsOf configuration data other :=
    repetitionsOf_congr same
  have rate : run.requestedRatePps = other.requestedRatePps := (groupKey_eq_iff.mp same).2.2.1
  exact
    { summary.toDescribes.of_groupKey same with
      sustains := summary.sustains.of_groupKey same
      repetitions := summary.repetitions
      median := group ▸ summary.median
      slowest := group ▸ summary.slowest
      fastest := group ▸ summary.fastest
      loss := group ▸ summary.loss
      saturated := by rw [summary.saturated, rate, highestTested_congr same] }

theorem groupKey_of_mem_repeated {configuration : List String} {run other : RunRow}
    (member : other ∈ repeated run) : groupKey configuration other = groupKey configuration run := by
  rcases of_mem_repeated member with ⟨runId, rfl⟩
  rfl

theorem Sustains.of_repeated {configuration : List String} {data : List RunRow} {run : RunRow}
    (group : repetitionsOf configuration data run = repeated run)
    (sustainable : run.sustainableRun) : Sustains configuration data run := by
  constructor
  · rw [group, repeated, List.length_map, List.length_range]
  · rw [group]
    intro other member
    rcases of_mem_repeated member with ⟨runId, rfl⟩
    exact sustainable

theorem repetitionsOf_picks {configuration : List String} {picks : List RunRow}
    (distinct : (picks.map (groupKey configuration)).Nodup) {pick : RunRow}
    (member : pick ∈ picks) :
    repetitionsOf configuration (picks.flatMap repeated) pick = repeated pick := by
  let blocks := picks.map fun pick => (groupKey configuration pick, repeated pick)
  have rows : picks.flatMap repeated = blocks.flatMap Prod.snd := by
    rw [List.flatMap_map]
  have keyed : ∀ block ∈ blocks, ∀ run ∈ block.2, groupKey configuration run = block.1 := by
    intro block blockMember
    rcases List.mem_map.mp blockMember with ⟨other, _, same⟩
    subst same
    exact fun run => groupKey_of_mem_repeated
  have keys : (blocks.map Prod.fst).Nodup := by
    rw [List.map_map]
    exact distinct
  have inside : (groupKey configuration pick, repeated pick) ∈ blocks := List.mem_map_of_mem member
  rw [repetitionsOf, rows]
  exact Grouping.filter_key_blocks keyed keys inside

theorem Sustains.of_mem_picks {configuration : List String} {picks : List RunRow}
    (distinct : (picks.map (groupKey configuration)).Nodup) {pick : RunRow} (member : pick ∈ picks)
    (sustainable : pick.sustainableRun) :
    Sustains configuration (picks.flatMap repeated) pick :=
  Sustains.of_repeated (repetitionsOf_picks distinct member) sustainable

theorem sustainableGroup_eq_some {campaign : String} {configuration : List String}
    {data : List RunRow} {first : RunRow} {row : SustainableGroup}
    (passes : sustainableGroup campaign configuration data first
      (repetitionsOf configuration data first) = some row) :
    Summarizes configuration data row first := by
  rw [sustainableGroup] at passes
  split at passes
  · cases passes
  next complete =>
    simp only [not_or, not_not, List.all_eq_true] at complete
    cases passes
    have occupied : ∀ column : RunRow → ℚ,
        (repetitionsOf configuration data first).map column ≠ [] := by
      intro column empty
      have length := congrArg List.length empty
      rw [List.length_map, complete.1] at length
      cases length
    have odd : ((repetitionsOf configuration data first).map RunRow.processedPps).length % 2 = 1 := by
      rw [List.length_map, complete.1]
      rfl
    exact
      { receiver := rfl
        batchSize := rfl
        rate := rfl
        workload := fun key _ => rfl
        sustains := ⟨complete.1, complete.2⟩
        repetitions := complete.1
        median := median_mem odd
        slowest := getD_min?_mem (occupied _) 0
        fastest := getD_max?_mem (occupied _) 0
        loss := getD_max?_mem (occupied _) 0
        saturated := rfl }

theorem runIds_of_sustainableGroup {campaign : String} {configuration : List String}
    {data group : List RunRow} {first : RunRow} {row : SustainableGroup}
    (passes : sustainableGroup campaign configuration data first group = some row) :
    row.runIds = "|".intercalate ((group.map RunRow.runId).insertionSort (· ≤ ·)) := by
  rw [sustainableGroup] at passes
  split at passes
  · cases passes
  · cases passes
    rfl

theorem mem_sustainableGroups {perRun : PerRun} {campaign : String} {data : List RunRow}
    {passing : List SustainableGroup} (population : claimPopulation perRun campaign = .ok data)
    (listed : sustainableGroups perRun campaign = .ok passing) {row : SustainableGroup} :
    row ∈ passing ↔ ∃ first ∈ data,
      (repetitionsOf perRun.configuration data first).head? = some first ∧
      sustainableGroup campaign perRun.configuration data first
        (repetitionsOf perRun.configuration data first) = some row := by
  rw [sustainableGroups, population] at listed
  cases listed
  simp only [List.mem_filterMap]
  constructor
  · rintro ⟨⟨key, members⟩, inside, passes⟩
    rcases mem_groups.mp inside with ⟨-, same⟩
    simp only at same passes
    rcases Option.bind_eq_some_iff.mp passes with ⟨first, leads, passes⟩
    have member : first ∈ members := List.mem_of_mem_head? leads
    rw [same] at member
    rcases List.mem_filter.mp member with ⟨inData, keyed⟩
    have keyed : groupKey perRun.configuration first = key := by simpa using keyed
    rw [same, ← keyed] at leads passes
    exact ⟨first, inData, leads, passes⟩
  · rintro ⟨first, inData, leads, passes⟩
    refine ⟨_, Grouping.group_mem_groups _ _ inData, ?_⟩
    simp only
    rw [repetitionsOf] at leads
    rw [leads]
    exact passes

theorem exists_summarizes {perRun : PerRun} {campaign : String} {data : List RunRow}
    {passing : List SustainableGroup} (population : claimPopulation perRun campaign = .ok data)
    (listed : sustainableGroups perRun campaign = .ok passing) {row : SustainableGroup}
    (member : row ∈ passing) : ∃ run ∈ data, Summarizes perRun.configuration data row run := by
  rcases (mem_sustainableGroups population listed).mp member with ⟨first, inData, -, passes⟩
  exact ⟨first, inData, sustainableGroup_eq_some passes⟩

theorem exists_mem_of_sustains {perRun : PerRun} {campaign : String} {data : List RunRow}
    {passing : List SustainableGroup} (population : claimPopulation perRun campaign = .ok data)
    (listed : sustainableGroups perRun campaign = .ok passing) {run : RunRow}
    (sustains : Sustains perRun.configuration data run) :
    ∃ row ∈ passing, Summarizes perRun.configuration data row run := by
  cases leads : (repetitionsOf perRun.configuration data run).head? with
  | none =>
      have length := sustains.length
      rw [List.head?_eq_none_iff.mp leads] at length
      cases length
  | some first =>
      rcases List.mem_filter.mp (List.mem_of_mem_head? leads) with ⟨inData, keyed⟩
      have keyed : groupKey perRun.configuration first = groupKey perRun.configuration run := by
        simpa using keyed
      have passes : ∃ row, sustainableGroup campaign perRun.configuration data first
          (repetitionsOf perRun.configuration data first) = some row := by
        rw [repetitionsOf_congr keyed, sustainableGroup, if_neg]
        · exact ⟨_, rfl⟩
        · simp only [not_or, not_not, List.all_eq_true]
          exact ⟨sustains.length, sustains.sustainable⟩
      rcases passes with ⟨row, passes⟩
      refine ⟨row, ?_, (sustainableGroup_eq_some passes).of_groupKey keyed⟩
      apply (mem_sustainableGroups population listed).mpr
      exact ⟨first, inData, by rw [repetitionsOf_congr keyed]; exact leads, passes⟩

/-! ## What is selected -/

theorem representative_eq_ok {configuration : List String} {passing : List SustainableGroup}
    {receiver : String} {choice : SustainableGroup}
    (chosen : representative configuration passing receiver = .ok choice) :
    choice ∈ passing ∧ choice.receiver = receiver ∧
      ∀ other ∈ passing, other.receiver = receiver →
        competitionKey configuration other = competitionKey configuration choice →
          other.requestedRatePps ≤ choice.requestedRatePps := by
  rw [representative] at chosen
  simp only at chosen
  split at chosen
  · cases chosen
  split at chosen
  next first leads =>
    cases chosen
    have sorted := List.mem_of_mem_head? leads
    rw [List.mem_insertionSort] at sorted
    rcases mem_firstMaxima (List.mem_filter.mp sorted).1 with ⟨candidate, greatest⟩
    rcases List.mem_filter.mp candidate with ⟨member, ofReceiver⟩
    refine ⟨member, by simpa using ofReceiver, ?_⟩
    intro other otherMember otherReceiver
    apply greatest
    exact List.mem_filter.mpr ⟨otherMember, by simpa using otherReceiver⟩
  · cases chosen

theorem exists_representative {configuration : List String} {passing : List SustainableGroup}
    {receiver : String} {candidate : SustainableGroup} (member : candidate ∈ passing)
    (ofReceiver : candidate.receiver = receiver)
    (nonnegative : ∀ row ∈ passing, 0 ≤ row.processedPpsMedian) :
    ∃ choice, representative configuration passing receiver = .ok choice := by
  have inside : candidate ∈ passing.filter fun row => row.receiver = receiver :=
    List.mem_filter.mpr ⟨member, by simpa using ofReceiver⟩
  rw [representative]
  simp only
  rw [if_neg (List.ne_nil_of_mem inside)]
  generalize maxima : firstMaxima Cell.keyBefore (competitionKey configuration)
    SustainableGroup.requestedRatePps (passing.filter fun row => row.receiver = receiver) = candidates
  rcases Grouping.exists_mem_firstMaxima Cell.keyBefore (competitionKey configuration)
    SustainableGroup.requestedRatePps inside with ⟨winner, winnerMember, -⟩
  rw [maxima] at winnerMember
  have medians : candidates.map SustainableGroup.processedPpsMedian ≠ [] := by
    intro empty
    rw [List.map_eq_nil_iff] at empty
    rw [empty] at winnerMember
    cases winnerMember
  cases best : (candidates.map SustainableGroup.processedPpsMedian).max? with
  | none => exact absurd (List.max?_eq_none_iff.mp best) medians
  | some bestPps =>
      rcases List.mem_map.mp (List.max?_mem best) with ⟨fastest, fastestMember, same⟩
      have positive : 0 ≤ bestPps := by
        rw [← same]
        apply nonnegative
        rw [← maxima] at fastestMember
        exact (List.mem_filter.mp (mem_firstMaxima fastestMember).1).1
      have within : fastest ∈ candidates.filter fun row =>
          98 / 100 * bestPps ≤ row.processedPpsMedian := by
        apply List.mem_filter.mpr
        refine ⟨fastestMember, ?_⟩
        rw [same, decide_eq_true_eq]
        linarith
      rw [Option.getD_some]
      cases sorted : ((candidates.filter fun row =>
          98 / 100 * bestPps ≤ row.processedPpsMedian).insertionSort
            fun left right => choiceOrder left right).head? with
      | none =>
          rw [List.head?_eq_none_iff] at sorted
          rw [← List.mem_insertionSort (fun left right => choiceOrder left right = true), sorted]
            at within
          cases within
      | some choice => exact ⟨choice, rfl⟩

private theorem exists_representative_of_single {perRun : PerRun} {campaign : String}
    {data : List RunRow} {passing : List SustainableGroup}
    (population : claimPopulation perRun campaign = .ok data)
    (listed : sustainableGroups perRun campaign = .ok passing)
    (nonnegative : ∀ run ∈ data, Sustains perRun.configuration data run → 0 ≤ run.processedPps)
    {pick : RunRow}
    (sustains : Sustains perRun.configuration data pick)
    (single : ∀ run ∈ data, Sustains perRun.configuration data run →
      run.receiver = pick.receiver →
        groupKey perRun.configuration run = groupKey perRun.configuration pick) :
    ∃ choice, representative perRun.configuration passing pick.receiver = .ok choice ∧
      Summarizes perRun.configuration data choice pick := by
  have medians : ∀ row ∈ passing, 0 ≤ row.processedPpsMedian := by
    intro row member
    rcases exists_summarizes population listed member with ⟨run, -, summary⟩
    rcases List.mem_map.mp summary.median with ⟨repetition, inside, same⟩
    rcases List.mem_filter.mp inside with ⟨inData, keyed⟩
    rw [← same]
    apply nonnegative repetition inData
    exact summary.sustains.of_groupKey (of_decide_eq_true keyed).symm
  rcases exists_mem_of_sustains population listed sustains with ⟨candidate, member, summary⟩
  rcases exists_representative member summary.receiver medians with ⟨choice, chosen⟩
  rcases representative_eq_ok chosen with ⟨choiceMember, receiver, -⟩
  rcases exists_summarizes population listed choiceMember with ⟨run, inData, choiceSummary⟩
  refine ⟨choice, chosen, choiceSummary.of_groupKey ?_⟩
  apply single run inData choiceSummary.sustains
  exact choiceSummary.receiver.symm.trans receiver

theorem mem_atWork {configuration : List String} {campaign : String} {workNs : Option Int}
    {listed passing : List SustainableGroup}
    (filtered : atWork configuration campaign listed workNs = .ok passing) {row : SustainableGroup} :
    row ∈ passing ↔
      row ∈ listed ∧ ∀ work, workNs = some work →
        "work_ns" ∈ configuration ∧ row.configuration "work_ns" = .number work := by
  cases workNs with
  | none =>
      cases filtered
      simp
  | some work =>
      rw [atWork] at filtered
      split at filtered
      · cases filtered
      next present =>
        simp only at filtered
        split at filtered
        · cases filtered
        · cases filtered
          simp [not_not.mp present]

theorem selectRepresentatives_eq_ok_iff {perRun : PerRun} {campaign : String} {workNs : Option Int}
    {selected : List SustainableGroup} :
    selectRepresentatives perRun campaign workNs = .ok selected ↔
      ∃ listed passing baseline batched threaded,
        sustainableGroups perRun campaign = .ok listed ∧
        atWork perRun.configuration campaign listed workNs = .ok passing ∧
        representative perRun.configuration passing "baseline" = .ok baseline ∧
        representative perRun.configuration passing "batched" = .ok batched ∧
        representative perRun.configuration passing "threaded" = .ok threaded ∧
        selected = [baseline, batched, threaded] ∧
        ∀ left ∈ selected, ∀ right ∈ selected,
          left.get? perRun.configuration "work_ns" = right.get? perRun.configuration "work_ns" := by
  have single : ∀ baseline batched threaded : SustainableGroup,
      ¬ ([baseline, batched, threaded].map fun row =>
          row.get? perRun.configuration "work_ns").dedup.length > 1 ↔
        ∀ left ∈ [baseline, batched, threaded], ∀ right ∈ [baseline, batched, threaded],
          left.get? perRun.configuration "work_ns" = right.get? perRun.configuration "work_ns" := by
    intro baseline batched threaded
    rw [not_lt, length_dedup_le_one_iff]
    simp only [List.forall_mem_map]
  simp only [selectRepresentatives, bind_eq_ok]
  constructor
  · rintro ⟨listed, groups, rest⟩
    split at rest
    · cases rest
    simp only [bind_eq_ok, List.mapM_cons, List.mapM_nil, pure_eq_ok] at rest
    rcases rest with ⟨passing, filtered, _, ⟨baseline, first, _, ⟨batched, second, _,
      ⟨threaded, third, _, rfl, rfl⟩, rfl⟩, rfl⟩, rest⟩
    split at rest
    · cases rest
    next agree =>
      cases rest
      exact ⟨listed, passing, baseline, batched, threaded, groups, filtered, first, second, third,
        rfl, (single ..).mp agree⟩
  · rintro ⟨listed, passing, baseline, batched, threaded, groups, filtered, first, second, third,
      rfl, agree⟩
    have member := ((mem_atWork filtered).mp (representative_eq_ok first).1).1
    refine ⟨listed, groups, ?_⟩
    rw [if_neg (List.ne_nil_of_mem member)]
    simp only [bind_eq_ok, List.mapM_cons, List.mapM_nil, pure_eq_ok]
    refine ⟨passing, filtered, _, ⟨baseline, first, _, ⟨batched, second, _,
      ⟨threaded, third, _, rfl, rfl⟩, rfl⟩, rfl⟩, ?_⟩
    rw [if_neg ((single ..).mpr agree)]
    rfl

theorem exists_group_of_selected {perRun : PerRun} {campaign : String} {workNs : Option Int}
    {data : List RunRow} {selected : List SustainableGroup}
    (population : claimPopulation perRun campaign = .ok data)
    (succeeds : selectRepresentatives perRun campaign workNs = .ok selected)
    {row : SustainableGroup} (member : row ∈ selected) :
    ∃ run ∈ data, sustainableGroup campaign perRun.configuration data run
      (repetitionsOf perRun.configuration data run) = some row := by
  rcases selectRepresentatives_eq_ok_iff.mp succeeds with ⟨listed, passing, baseline, batched,
    threaded, groups, filtered, first, second, third, rfl, -⟩
  have passes : row ∈ passing := by
    simp only [List.mem_cons, List.not_mem_nil, or_false] at member
    rcases member with rfl | rfl | rfl
    · exact (representative_eq_ok first).1
    · exact (representative_eq_ok second).1
    · exact (representative_eq_ok third).1
  rcases (mem_sustainableGroups population groups).mp ((mem_atWork filtered).mp passes).1 with
    ⟨run, inData, -, summed⟩
  exact ⟨run, inData, summed⟩

theorem get?_workNs_eq {configuration : List String} {rows : List SustainableGroup}
    {runs : List RunRow}
    (described : ∀ row ∈ rows, ∃ run ∈ runs, Describes configuration row run)
    (sameWork : "work_ns" ∈ configuration → ∀ left ∈ runs, ∀ right ∈ runs,
      left.configuration "work_ns" = right.configuration "work_ns") :
    ∀ left ∈ rows, ∀ right ∈ rows,
      left.get? configuration "work_ns" = right.get? configuration "work_ns" := by
  intro left leftMember right rightMember
  rcases described left leftMember with ⟨leftRun, leftIn, leftDescribed⟩
  rcases described right rightMember with ⟨rightRun, rightIn, rightDescribed⟩
  rw [SustainableGroup.get?, SustainableGroup.get?]
  split
  next present =>
    rw [leftDescribed.workload _ present, rightDescribed.workload _ present,
      sameWork present leftRun leftIn rightRun rightIn]
  · rfl

theorem exists_selection {perRun : PerRun} {campaign : String} {data : List RunRow}
    (population : claimPopulation perRun campaign = .ok data)
    (nonnegative : ∀ run ∈ data, Sustains perRun.configuration data run → 0 ≤ run.processedPps)
    {baseline batched threaded : RunRow}
    (receivers : baseline.receiver = "baseline" ∧ batched.receiver = "batched" ∧
      threaded.receiver = "threaded")
    (sustain : ∀ pick ∈ [baseline, batched, threaded], Sustains perRun.configuration data pick)
    (single : ∀ pick ∈ [baseline, batched, threaded], ∀ run ∈ data,
      Sustains perRun.configuration data run → run.receiver = pick.receiver →
        groupKey perRun.configuration run = groupKey perRun.configuration pick)
    (sameWork : "work_ns" ∈ perRun.configuration →
      ∀ left ∈ [baseline, batched, threaded], ∀ right ∈ [baseline, batched, threaded],
        left.configuration "work_ns" = right.configuration "work_ns") :
    ∃ first second third, selectRepresentatives perRun campaign none = .ok [first, second, third] ∧
      Summarizes perRun.configuration data first baseline ∧
      Summarizes perRun.configuration data second batched ∧
      Summarizes perRun.configuration data third threaded := by
  have listed : ∃ passing, sustainableGroups perRun campaign = .ok passing := by
    rw [sustainableGroups, population]
    exact ⟨_, rfl⟩
  rcases listed with ⟨passing, listed⟩
  have choose : ∀ pick ∈ [baseline, batched, threaded], ∃ choice,
      representative perRun.configuration passing pick.receiver = .ok choice ∧
        Summarizes perRun.configuration data choice pick := fun pick member =>
    exists_representative_of_single population listed nonnegative (sustain pick member)
      (single pick member)
  rcases choose baseline (by simp) with ⟨first, firstChosen, firstSummary⟩
  rcases choose batched (by simp) with ⟨second, secondChosen, secondSummary⟩
  rcases choose threaded (by simp) with ⟨third, thirdChosen, thirdSummary⟩
  rw [receivers.1] at firstChosen
  rw [receivers.2.1] at secondChosen
  rw [receivers.2.2] at thirdChosen
  refine ⟨first, second, third, ?_, firstSummary, secondSummary, thirdSummary⟩
  apply selectRepresentatives_eq_ok_iff.mpr
  refine ⟨passing, passing, first, second, third, listed, rfl, firstChosen, secondChosen,
    thirdChosen, rfl, ?_⟩
  apply get?_workNs_eq _ sameWork
  intro row member
  simp only [List.mem_cons, List.not_mem_nil, or_false] at member
  rcases member with rfl | rfl | rfl
  · exact ⟨baseline, by simp, firstSummary.toDescribes⟩
  · exact ⟨batched, by simp, secondSummary.toDescribes⟩
  · exact ⟨threaded, by simp, thirdSummary.toDescribes⟩

theorem exists_selection_of_sustains {perRun : PerRun} {campaign : String} {data : List RunRow}
    (population : claimPopulation perRun campaign = .ok data)
    (nonnegative : ∀ run ∈ data, 0 ≤ run.processedPps)
    (sustain : ∀ receiver ∈ ["baseline", "batched", "threaded"], ∃ run,
      run.receiver = receiver ∧ Sustains perRun.configuration data run)
    (sameWork : "work_ns" ∈ perRun.configuration → ∀ left ∈ data, ∀ right ∈ data,
      left.configuration "work_ns" = right.configuration "work_ns") :
    ∃ listed baseline batched threaded, sustainableGroups perRun campaign = .ok listed ∧
      representative perRun.configuration listed "baseline" = .ok baseline ∧
      selectRepresentatives perRun campaign none = .ok [baseline, batched, threaded] := by
  have groups : ∃ listed, sustainableGroups perRun campaign = .ok listed := by
    rw [sustainableGroups, population]
    exact ⟨_, rfl⟩
  rcases groups with ⟨listed, groups⟩
  have medians : ∀ row ∈ listed, 0 ≤ row.processedPpsMedian := by
    intro row member
    rcases exists_summarizes population groups member with ⟨run, _, summary⟩
    rcases List.mem_map.mp summary.median with ⟨repetition, inside, same⟩
    rw [← same]
    exact nonnegative repetition (List.mem_filter.mp inside).1
  have choose : ∀ receiver ∈ ["baseline", "batched", "threaded"], ∃ choice,
      representative perRun.configuration listed receiver = .ok choice := by
    intro receiver known
    rcases sustain receiver known with ⟨run, ofReceiver, sustains⟩
    rcases exists_mem_of_sustains population groups sustains with ⟨row, member, summary⟩
    exact exists_representative member (summary.receiver.trans ofReceiver) medians
  rcases choose "baseline" (by simp) with ⟨baseline, first⟩
  rcases choose "batched" (by simp) with ⟨batched, second⟩
  rcases choose "threaded" (by simp) with ⟨threaded, third⟩
  refine ⟨listed, baseline, batched, threaded, groups, first, ?_⟩
  apply selectRepresentatives_eq_ok_iff.mpr
  refine ⟨listed, listed, baseline, batched, threaded, groups, rfl, first, second, third, rfl, ?_⟩
  have passes : ∀ row ∈ [baseline, batched, threaded], row ∈ listed := by
    intro row member
    simp only [List.mem_cons, List.not_mem_nil, or_false] at member
    rcases member with isFirst | isSecond | isThird
    · exact isFirst ▸ (representative_eq_ok first).1
    · exact isSecond ▸ (representative_eq_ok second).1
    · exact isThird ▸ (representative_eq_ok third).1
  apply get?_workNs_eq _ sameWork
  intro row member
  rcases exists_summarizes population groups (passes row member) with ⟨run, inData, summary⟩
  exact ⟨run, inData, summary.toDescribes⟩

end NetLatencyLab.ProfileTools
