import NetLatencyLab.Analysis.RowOrder

/-! # The competition of the sustainable groups

Which groups `select_representatives` can choose for a receiver, whatever rates
were measured, and the same table with other measured rates. -/

namespace NetLatencyLab.ProfileTools

open Fallible (bind_eq_ok)
open Grouping (firstMaxima groups mem_groups mem_firstMaxima)

/-- The group key of the runs that a row sums up. -/
def rowKey (configuration : List String) (row : SustainableGroup) : List Cell :=
  .text row.receiver :: .number row.batchSize :: .number row.requestedRatePps ::
    configuration.map row.configuration

def Eligible (perRun : PerRun) (campaign : String) (run : RunRow) : Prop :=
  run.campaign = campaign ∧ run.topology ≠ "local_loopback" ∧
    ("run_valid" ∈ perRun.columns → run.runValid)

instance (perRun : PerRun) (campaign : String) (run : RunRow) :
    Decidable (Eligible perRun campaign run) :=
  inferInstanceAs (Decidable (_ ∧ _ ∧ _))

theorem claimPopulation_eq (perRun : PerRun) (campaign : String) :
    claimPopulation perRun campaign =
      if "topology" ∉ perRun.columns then
        .error (.valueError "per-run summary is missing topology; cannot exclude loopback data")
      else .ok (perRun.rows.filter fun run => Eligible perRun campaign run) := by
  rw [claimPopulation]
  split
  · rfl
  simp only
  split
  next validity =>
    rw [List.filter_filter, List.filter_filter]
    congr 1
    apply List.filter_congr
    intro run _
    simp [Eligible, validity, Bool.and_comm, Bool.and_left_comm]
  next validity =>
    rw [List.filter_filter]
    congr 1
    apply List.filter_congr
    intro run _
    simp [Eligible, validity, Bool.and_comm]

theorem claimPopulation_eq_filter {perRun : PerRun} {campaign : String} {data : List RunRow}
    (population : claimPopulation perRun campaign = .ok data) :
    data = perRun.rows.filter fun run => Eligible perRun campaign run := by
  rw [claimPopulation_eq] at population
  split at population
  · cases population
  · cases population
    rfl

section

variable {perRun : PerRun} {campaign : String} {data : List RunRow}
variable {passing listed : List SustainableGroup} {configuration : List String}

/-! ## Rows and their keys -/

theorem competitionKey_eq_iff {left right : SustainableGroup} :
    competitionKey configuration left = competitionKey configuration right ↔
      left.batchSize = right.batchSize ∧ ∀ key ∈ ["work_ns", "sample_every"],
        key ∈ configuration → left.configuration key = right.configuration key := by
  simp [competitionKey, List.map_inj_left]

theorem rowKey_eq_groupKey_iff {run : RunRow} {row : SustainableGroup} :
    groupKey configuration run = rowKey configuration row ↔
      run.receiver = row.receiver ∧ run.batchSize = row.batchSize ∧
        run.requestedRatePps = row.requestedRatePps ∧
          ∀ key ∈ configuration, run.configuration key = row.configuration key := by
  simp [groupKey, rowKey, List.map_inj_left]

theorem of_mem_sustainableGroups (population : claimPopulation perRun campaign = .ok data)
    (groups : sustainableGroups perRun campaign = .ok listed) {row : SustainableGroup}
    (member : row ∈ listed) :
    ∃ first ∈ data, groupKey perRun.configuration first = rowKey perRun.configuration row ∧
      sustainableGroup campaign perRun.configuration data first
        (repetitionsOf perRun.configuration data first) = some row ∧
      (repetitionsOf perRun.configuration data first).head? = some first := by
  rcases (mem_sustainableGroups population groups).mp member with ⟨first, inData, leads, passes⟩
  refine ⟨first, inData, ?_, passes, leads⟩
  rw [sustainableGroup] at passes
  split at passes
  · cases passes
  · cases passes
    rfl

private theorem eq_of_rowKey (population : claimPopulation perRun campaign = .ok data)
    (groups : sustainableGroups perRun campaign = .ok listed) {left right : SustainableGroup}
    (leftMember : left ∈ listed) (rightMember : right ∈ listed)
    (same : rowKey perRun.configuration left = rowKey perRun.configuration right) :
    left = right := by
  rcases of_mem_sustainableGroups population groups leftMember with
    ⟨first, _, keyed, passes, leads⟩
  rcases of_mem_sustainableGroups population groups rightMember with
    ⟨other, _, otherKeyed, otherPasses, otherLeads⟩
  have sameGroup : repetitionsOf perRun.configuration data first =
      repetitionsOf perRun.configuration data other :=
    repetitionsOf_congr (keyed.trans (same.trans otherKeyed.symm))
  rw [sameGroup, otherLeads] at leads
  cases leads
  rw [passes] at otherPasses
  exact Option.some.inj otherPasses

theorem rowKey_of_group {group : List Cell × List RunRow} {row : SustainableGroup}
    (inside : group ∈ Grouping.groups Cell.keyBefore (groupKey configuration) data)
    (passes : (group.2.head?.bind fun first =>
      sustainableGroup campaign configuration data first group.2) = some row) :
    rowKey configuration row = group.1 := by
  rcases Option.bind_eq_some_iff.mp passes with ⟨first, leads, passes⟩
  have member := List.mem_of_mem_head? leads
  rw [(mem_groups.mp inside).2] at member
  have keyed : groupKey configuration first = group.1 :=
    of_decide_eq_true (List.mem_filter.mp member).2
  rw [sustainableGroup] at passes
  split at passes
  · cases passes
  · cases passes
    exact keyed

private theorem sustainableGroups_sorted (groups : sustainableGroups perRun campaign = .ok listed) :
    listed.Pairwise fun left right =>
      Cell.keyBefore (rowKey perRun.configuration left) (rowKey perRun.configuration right) := by
  rw [sustainableGroups, bind_eq_ok] at groups
  rcases groups with ⟨data, _, groups⟩
  cases groups
  have order := Cell.keyBefore_linear
  let relation : List Cell → List Cell → Prop := fun left right => Cell.keyBefore left right
  have totality : Std.Total relation := ⟨order.total⟩
  have transitivity : IsTrans (List Cell) relation := ⟨fun _ _ _ => order.trans⟩
  have keys := List.pairwise_insertionSort relation
    (data.map (groupKey perRun.configuration)).dedup
  have sorted : (Grouping.groups Cell.keyBefore (groupKey perRun.configuration) data).Pairwise
      fun left right => Cell.keyBefore left.1 right.1 := List.pairwise_map.mpr keys
  apply List.pairwise_filterMap.mpr
  apply sorted.imp_of_mem
  intro group other inside otherInside before row passes otherRow otherPasses
  rw [rowKey_of_group inside passes, rowKey_of_group otherInside otherPasses]
  exact before

/-! ## The competition -/

structure Candidate (configuration : List String) (passing : List SustainableGroup)
    (receiver : String) (row : SustainableGroup) : Prop where
  passes : row ∈ passing
  ofReceiver : row.receiver = receiver
  highest : ∀ other ∈ passing, other.receiver = receiver →
    competitionKey configuration other = competitionKey configuration row →
      other.requestedRatePps ≤ row.requestedRatePps

def competitors (configuration : List String) (passing : List SustainableGroup)
    (receiver : String) : List SustainableGroup :=
  firstMaxima Cell.keyBefore (competitionKey configuration) SustainableGroup.requestedRatePps
    (passing.filter fun row => row.receiver = receiver)

theorem candidate_of_competitor {receiver : String} {row : SustainableGroup}
    (competes : row ∈ competitors configuration passing receiver) :
    Candidate configuration passing receiver row := by
  rcases mem_firstMaxima competes with ⟨inside, highest⟩
  rcases List.mem_filter.mp inside with ⟨member, ofReceiver⟩
  refine ⟨member, of_decide_eq_true ofReceiver, ?_⟩
  intro other otherMember otherReceiver keyed
  exact highest other (List.mem_filter.mpr ⟨otherMember, decide_eq_true otherReceiver⟩) keyed

def bestPps (configuration : List String) (passing : List SustainableGroup)
    (receiver : String) : ℚ :=
  ((competitors configuration passing receiver).map
    SustainableGroup.processedPpsMedian).max?.getD 0

theorem representative_leads {receiver : String} {choice : SustainableGroup}
    (chosen : representative configuration passing receiver = .ok choice) :
    (((competitors configuration passing receiver).filter fun row =>
      98 / 100 * bestPps configuration passing receiver ≤ row.processedPpsMedian).insertionSort
        fun left right => choiceOrder left right).head? = some choice := by
  rw [representative] at chosen
  simp only at chosen
  split at chosen
  · cases chosen
  split at chosen
  next first leads =>
    cases chosen
    exact leads
  · cases chosen

theorem competes_of_representative {receiver : String} {choice : SustainableGroup}
    (chosen : representative configuration passing receiver = .ok choice) :
    choice ∈ competitors configuration passing receiver ∧
      98 / 100 * bestPps configuration passing receiver ≤ choice.processedPpsMedian := by
  have leads := List.mem_of_mem_head? (representative_leads chosen)
  rw [List.mem_insertionSort] at leads
  rcases List.mem_filter.mp leads with ⟨competes, within⟩
  exact ⟨competes, of_decide_eq_true within⟩

private theorem representative_of_sole {receiver : String} {leader : SustainableGroup}
    (competes : leader ∈ competitors configuration passing receiver)
    (within : 98 / 100 * bestPps configuration passing receiver ≤ leader.processedPpsMedian)
    (sole : ∀ other ∈ competitors configuration passing receiver,
      98 / 100 * bestPps configuration passing receiver ≤ other.processedPpsMedian →
        other = leader) :
    representative configuration passing receiver = .ok leader := by
  have candidates : (passing.filter fun row => row.receiver = receiver) ≠ [] :=
    List.ne_nil_of_mem (mem_firstMaxima competes).1
  rw [representative]
  simp only
  rw [if_neg candidates]
  split
  next choice leads =>
    have sorted := List.mem_of_mem_head? leads
    rw [List.mem_insertionSort] at sorted
    rcases List.mem_filter.mp sorted with ⟨inside, fast⟩
    rw [sole choice inside (of_decide_eq_true fast)]
  next none =>
    have listed : leader ∈ (competitors configuration passing receiver).filter fun row =>
        98 / 100 * bestPps configuration passing receiver ≤ row.processedPpsMedian :=
      List.mem_filter.mpr ⟨competes, decide_eq_true within⟩
    rw [List.head?_eq_none_iff] at none
    rw [← List.mem_insertionSort (fun left right => choiceOrder left right = true)] at listed
    exact absurd none (List.ne_nil_of_mem listed)

structure Contender (configuration : List String) (passing : List SustainableGroup)
    (receiver : String) (row : SustainableGroup) : Prop
    extends Candidate configuration passing receiver row where
  first : ∀ other, Candidate configuration passing receiver other →
    competitionKey configuration other = competitionKey configuration row →
      Cell.keyBefore (rowKey configuration row) (rowKey configuration other)

theorem atWork_sublist {workNs : Option Int}
    (filtered : atWork configuration campaign listed workNs = .ok passing) :
    passing.Sublist listed := by
  cases workNs with
  | none =>
      cases filtered
      exact List.Sublist.refl _
  | some work =>
      rw [atWork] at filtered
      split at filtered
      · cases filtered
      simp only at filtered
      split at filtered
      · cases filtered
      · cases filtered
        exact List.filter_sublist

theorem eq_of_rowKey_passing {workNs : Option Int}
    (groups : sustainableGroups perRun campaign = .ok listed)
    (filtered : atWork perRun.configuration campaign listed workNs = .ok passing)
    {left right : SustainableGroup} (leftMember : left ∈ passing) (rightMember : right ∈ passing)
    (same : rowKey perRun.configuration left = rowKey perRun.configuration right) :
    left = right := by
  have fromData := groups
  rw [sustainableGroups, bind_eq_ok] at fromData
  rcases fromData with ⟨data, population, _⟩
  have inside := atWork_sublist filtered
  exact eq_of_rowKey population groups (inside.subset leftMember) (inside.subset rightMember) same

private theorem rate_eq_of_candidates {receiver : String} {left right : SustainableGroup}
    (first : Candidate configuration passing receiver left)
    (second : Candidate configuration passing receiver right)
    (keyed : competitionKey configuration left = competitionKey configuration right) :
    left.requestedRatePps = right.requestedRatePps := by
  apply le_antisymm
  · exact second.highest left first.passes first.ofReceiver keyed
  · exact first.highest right second.passes second.ofReceiver keyed.symm

theorem mem_competitors_iff {workNs : Option Int}
    (groups : sustainableGroups perRun campaign = .ok listed)
    (filtered : atWork perRun.configuration campaign listed workNs = .ok passing)
    {receiver : String} {row : SustainableGroup} :
    row ∈ competitors perRun.configuration passing receiver ↔
      Contender perRun.configuration passing receiver row := by
  have sorted := ((sustainableGroups_sorted groups).sublist (atWork_sublist filtered)).filter
    fun row => row.receiver = receiver
  have before : ∀ chosen ∈ competitors perRun.configuration passing receiver, ∀ other,
      Candidate perRun.configuration passing receiver other →
      competitionKey perRun.configuration other = competitionKey perRun.configuration chosen →
        Cell.keyBefore (rowKey perRun.configuration chosen)
          (rowKey perRun.configuration other) := by
    intro chosen competes other candidate keyed
    by_cases same : chosen = other
    · subst same
      exact (Cell.keyBefore_linear.total _ _).elim id id
    · have rate := rate_eq_of_candidates (candidate_of_competitor competes) candidate keyed.symm
      exact Grouping.rel_of_mem_firstMaxima sorted competes
        (List.mem_filter.mpr ⟨candidate.passes, decide_eq_true candidate.ofReceiver⟩) keyed
        (le_of_eq rate) same
  constructor
  · intro competes
    exact { candidate_of_competitor competes with first := before row competes }
  · intro contender
    have inside : row ∈ passing.filter fun row => row.receiver = receiver :=
      List.mem_filter.mpr ⟨contender.passes, decide_eq_true contender.ofReceiver⟩
    rcases Grouping.exists_mem_firstMaxima Cell.keyBefore (competitionKey perRun.configuration)
      SustainableGroup.requestedRatePps inside with ⟨chosen, competes, keyed⟩
    have candidate := candidate_of_competitor competes
    have same : chosen = row := by
      apply eq_of_rowKey_passing groups filtered candidate.passes contender.passes
      apply Cell.keyBefore_antisymm
      · exact before chosen competes row contender.toCandidate keyed.symm
      · exact contender.first chosen candidate keyed
    exact same ▸ competes

/-! ## Other measured rates -/

def remeasureRun (configuration : List String) (rates : List Cell → ℚ) (run : RunRow) : RunRow :=
  { run with processedPps := rates (groupKey configuration run) }

/-- The table of the same runs, had the repetitions of each configuration processed
packets at the given rate. -/
def remeasure (perRun : PerRun) (rates : List Cell → ℚ) : PerRun :=
  { perRun with rows := perRun.rows.map (remeasureRun perRun.configuration rates) }

def remeasureGroup (configuration : List String) (rates : List Cell → ℚ)
    (row : SustainableGroup) : SustainableGroup :=
  { row with
    processedPpsMedian := rates (rowKey configuration row)
    processedPpsMin := rates (rowKey configuration row)
    processedPpsMax := rates (rowKey configuration row) }

private theorem claimPopulation_remeasure (perRun : PerRun) (campaign : String)
    (rates : List Cell → ℚ) :
    claimPopulation (remeasure perRun rates) campaign =
      (claimPopulation perRun campaign).map
        (List.map (remeasureRun perRun.configuration rates)) := by
  rw [claimPopulation_eq, claimPopulation_eq]
  show (if "topology" ∉ perRun.columns then _ else _) = _
  split
  · rfl
  · rw [remeasure, List.filter_map]
    rfl

private theorem sustainableGroup_remeasure (rates : List Cell → ℚ) {first : RunRow}
    {group : List RunRow} (occupied : group ≠ [])
    (keyed : ∀ run ∈ group, groupKey configuration run = groupKey configuration first) :
    sustainableGroup campaign configuration (data.map (remeasureRun configuration rates))
        (remeasureRun configuration rates first)
        (group.map (remeasureRun configuration rates)) =
      (sustainableGroup campaign configuration data first group).map
        (remeasureGroup configuration rates) := by
  have measured : (group.map (remeasureRun configuration rates)).map RunRow.processedPps =
      group.map fun _ => rates (groupKey configuration first) := by
    rw [List.map_map]
    apply List.map_congr_left
    intro run member
    exact congrArg rates (keyed run member)
  have constant : ∀ rate ∈ group.map fun _ => rates (groupKey configuration first),
      rate = rates (groupKey configuration first) := by
    intro rate member
    rcases List.mem_map.mp member with ⟨_, _, same⟩
    exact same.symm
  have some : (group.map fun _ => rates (groupKey configuration first)) ≠ [] := by
    simpa using occupied
  have tested : highestTested configuration (data.map (remeasureRun configuration rates))
      (remeasureRun configuration rates first) = highestTested configuration data first := by
    rw [highestTested, List.filter_map, List.map_map]
    rfl
  rw [sustainableGroup, sustainableGroup, List.length_map, List.all_map]
  show (if group.length ≠ requiredRepetitions ∨ ¬ (group.all fun run => run.sustainableRun)
    then none else _) = _
  split
  · rfl
  · simp only [measured, tested, median_eq_of_forall_eq some constant,
      constant _ (Grouping.getD_min?_mem some 0), constant _ (Grouping.getD_max?_mem some 0),
      List.map_map]
    rfl

theorem sustainableGroups_remeasure (perRun : PerRun) (campaign : String)
    (rates : List Cell → ℚ) :
    sustainableGroups (remeasure perRun rates) campaign =
      (sustainableGroups perRun campaign).map
        (List.map (remeasureGroup perRun.configuration rates)) := by
  rw [sustainableGroups, sustainableGroups, claimPopulation_remeasure]
  cases claimPopulation perRun campaign with
  | error problem => rfl
  | ok data =>
      show Except.ok _ = Except.ok _
      congr 1
      show ((groups Cell.keyBefore (groupKey perRun.configuration)
        (data.map (remeasureRun perRun.configuration rates))).filterMap _) = _
      rw [Grouping.groups_map, List.filterMap_map, List.map_filterMap]
      apply List.filterMap_congr
      intro group inside
      rcases mem_groups.mp inside with ⟨-, members⟩
      show ((group.2.map (remeasureRun perRun.configuration rates)).head?.bind fun first => _) = _
      rw [List.head?_map]
      cases leads : group.2.head? with
      | none => rfl
      | some first =>
          have keyed : ∀ run ∈ group.2, groupKey perRun.configuration run = group.1 := by
            intro run member
            rw [members] at member
            exact of_decide_eq_true (List.mem_filter.mp member).2
          have member := List.mem_of_mem_head? leads
          apply sustainableGroup_remeasure rates (List.ne_nil_of_mem member)
          intro run inside
          rw [keyed run inside, keyed first member]

theorem competitors_remeasure (rates : List Cell → ℚ) (receiver : String) :
    competitors configuration (passing.map (remeasureGroup configuration rates)) receiver =
      (competitors configuration passing receiver).map (remeasureGroup configuration rates) := by
  rw [competitors, filter_map_unseen (remeasureGroup configuration rates) _ fun _ => rfl,
    Grouping.firstMaxima_map]
  rfl

private theorem representative_remeasure {rates : List Cell → ℚ} {receiver : String}
    {leader : SustainableGroup} (competes : leader ∈ competitors configuration passing receiver)
    (positive : 0 < rates (rowKey configuration leader))
    (ahead : ∀ other ∈ competitors configuration passing receiver, other ≠ leader →
      rates (rowKey configuration other) < 98 / 100 * rates (rowKey configuration leader)) :
    representative configuration (passing.map (remeasureGroup configuration rates)) receiver =
      .ok (remeasureGroup configuration rates leader) := by
  have best : bestPps configuration (passing.map (remeasureGroup configuration rates)) receiver =
      rates (rowKey configuration leader) := by
    have medians : (competitors configuration (passing.map (remeasureGroup configuration rates))
        receiver).map SustainableGroup.processedPpsMedian =
          (competitors configuration passing receiver).map
            fun row => rates (rowKey configuration row) := by
      rw [competitors_remeasure, List.map_map]
      rfl
    have listed := List.mem_map_of_mem (f := fun row => rates (rowKey configuration row)) competes
    rw [bestPps, medians]
    apply le_antisymm
    · rcases List.mem_map.mp (Grouping.getD_max?_mem (List.ne_nil_of_mem listed) (0 : ℚ)) with
        ⟨other, inside, same⟩
      rw [← same]
      by_cases leads : other = leader
      · rw [leads]
      · linarith [ahead other inside leads]
    · exact Grouping.le_getD_max? listed 0
  apply representative_of_sole
  · rw [competitors_remeasure]
    exact List.mem_map_of_mem competes
  · rw [best]
    show _ ≤ rates (rowKey configuration leader)
    linarith
  · intro other otherCompetes within
    rw [competitors_remeasure] at otherCompetes
    rw [best] at within
    rcases List.mem_map.mp otherCompetes with ⟨row, rowCompetes, same⟩
    by_cases leads : row = leader
    · rw [← same, leads]
    · have fast : 98 / 100 * rates (rowKey configuration leader) ≤
          rates (rowKey configuration row) := by
        rw [← same] at within
        exact within
      linarith [ahead row rowCompetes leads]

def favour (configuration : List String) (picks : List SustainableGroup) (others : List Cell → ℚ)
    (key : List Cell) : ℚ :=
  if key ∈ picks.map (rowKey configuration) then 500 else others key

theorem favour_of_mem {picks : List SustainableGroup} {others : List Cell → ℚ}
    {row : SustainableGroup} (picked : row ∈ picks) :
    favour configuration picks others (rowKey configuration row) = 500 :=
  if_pos (List.mem_map_of_mem picked)

theorem selectRepresentatives_remeasure {workNs : Option Int}
    (groups : sustainableGroups perRun campaign = .ok listed)
    (filtered : atWork perRun.configuration campaign listed workNs = .ok passing)
    {baseline batched threaded : SustainableGroup}
    (first : baseline ∈ competitors perRun.configuration passing "baseline")
    (second : batched ∈ competitors perRun.configuration passing "batched")
    (third : threaded ∈ competitors perRun.configuration passing "threaded")
    (sameWork : ∀ left ∈ [baseline, batched, threaded], ∀ right ∈ [baseline, batched, threaded],
      left.get? perRun.configuration "work_ns" = right.get? perRun.configuration "work_ns")
    (others : List Cell → ℚ)
    (quiet : ∀ receiver, ∀ row ∈ competitors perRun.configuration passing receiver,
      others (rowKey perRun.configuration row) < 490) :
    let rates := favour perRun.configuration [baseline, batched, threaded] others
    selectRepresentatives (remeasure perRun rates) campaign workNs =
      .ok ([baseline, batched, threaded].map (remeasureGroup perRun.configuration rates)) := by
  intro rates
  have passes : ∀ pick ∈ [baseline, batched, threaded], pick ∈ passing := by
    intro pick picked
    simp only [List.mem_cons, List.not_mem_nil, or_false] at picked
    rcases picked with isFirst | isSecond | isThird
    · exact isFirst ▸ (candidate_of_competitor first).passes
    · exact isSecond ▸ (candidate_of_competitor second).passes
    · exact isThird ▸ (candidate_of_competitor third).passes
  have receivers : [baseline, batched, threaded].map SustainableGroup.receiver =
      ["baseline", "batched", "threaded"] := by
    simp only [List.map_cons, List.map_nil, (candidate_of_competitor first).ofReceiver,
      (candidate_of_competitor second).ofReceiver, (candidate_of_competitor third).ofReceiver]
  have distinct : ([baseline, batched, threaded].map SustainableGroup.receiver).Nodup := by
    rw [receivers]
    decide
  have chosen : ∀ receiver, ∀ leader ∈ [baseline, batched, threaded],
      leader ∈ competitors perRun.configuration passing receiver →
        representative perRun.configuration
            (passing.map (remeasureGroup perRun.configuration rates)) receiver =
          .ok (remeasureGroup perRun.configuration rates leader) := by
    intro receiver leader picked competes
    have lead : rates (rowKey perRun.configuration leader) = 500 := favour_of_mem picked
    apply representative_remeasure competes
    · rw [lead]
      norm_num
    · intro other otherCompetes different
      have unpicked : rowKey perRun.configuration other ∉
          [baseline, batched, threaded].map (rowKey perRun.configuration) := by
        intro listed
        rcases List.mem_map.mp listed with ⟨pick, pickPicked, keyed⟩
        have candidate := candidate_of_competitor otherCompetes
        have same := eq_of_rowKey_passing groups filtered (passes pick pickPicked)
          candidate.passes keyed
        apply different
        rw [← same]
        apply List.inj_on_of_nodup_map distinct pickPicked picked
        rw [same, candidate.ofReceiver, (candidate_of_competitor competes).ofReceiver]
      have slow : rates (rowKey perRun.configuration other) =
          others (rowKey perRun.configuration other) := if_neg unpicked
      rw [lead, slow]
      linarith [quiet receiver other otherCompetes]
  apply selectRepresentatives_eq_ok_iff.mpr
  refine ⟨listed.map (remeasureGroup perRun.configuration rates),
    passing.map (remeasureGroup perRun.configuration rates), _, _, _, ?_, ?_,
    chosen "baseline" baseline (by simp) first,
    chosen "batched" batched (by simp) second, chosen "threaded" threaded (by simp) third, rfl, ?_⟩
  · rw [sustainableGroups_remeasure, groups]
    rfl
  · show atWork perRun.configuration campaign _ workNs = _
    rw [atWork_map (remeasureGroup perRun.configuration rates) fun _ _ => rfl, filtered]
    rfl
  · intro left leftMember right rightMember
    rcases List.mem_map.mp leftMember with ⟨leftRow, leftPicked, isLeft⟩
    rcases List.mem_map.mp rightMember with ⟨rightRow, rightPicked, isRight⟩
    rw [← isLeft, ← isRight]
    exact sameWork leftRow leftPicked rightRow rightPicked

end

end NetLatencyLab.ProfileTools
