import NetLatencyLab.Analysis.Competition
import NetLatencyLab.Analysis.WorkloadSelection

/-! # The choice of the representatives

Which sustainable group stands for a receiver. Of groups that reached one rate
in one competition, `idxmax` keeps the first; the others are not considered. -/

namespace NetLatencyLab.ProfileTools

open Fallible (bind_eq_ok)

/-! ## What is to be chosen -/

def Competitive (configuration : List String) (passing : List SustainableGroup)
    (receiver : String) (row : SustainableGroup) : Prop :=
  ∀ best, Candidate configuration passing receiver best →
    98 / 100 * best.processedPpsMedian ≤ row.processedPpsMedian

structure WellChosen (configuration : List String) (passing : List SustainableGroup)
    (receiver : String) (choice : SustainableGroup) : Prop where
  candidate : Candidate configuration passing receiver choice
  competitive : Competitive configuration passing receiver choice
  smallest : ∀ other, Candidate configuration passing receiver other →
    other.batchSize < choice.batchSize → ¬ Competitive configuration passing receiver other
  fastest : ∀ other, Candidate configuration passing receiver other →
    other.batchSize = choice.batchSize → Competitive configuration passing receiver other →
      other.requestedRatePps ≤ choice.requestedRatePps

/-- The eligible runs of the row's configuration are five, and all are sustainable. -/
structure FiveRuns (perRun : PerRun) (campaign : String) (row : SustainableGroup)
    (runs : List RunRow) : Prop where
  all : runs = perRun.rows.filter fun run => Eligible perRun campaign run ∧
    groupKey perRun.configuration run = rowKey perRun.configuration row
  five : runs.length = 5
  sustainable : ∀ run ∈ runs, run.sustainableRun
  median : row.processedPpsMedian = median (runs.map RunRow.processedPps)

/-- What the selection promises. -/
structure WellSelected (perRun : PerRun) (campaign : String) (workNs : Option Int)
    (selected : List SustainableGroup) : Prop where
  chosen : ∃ listed passing baseline batched threaded,
    sustainableGroups perRun campaign = .ok listed ∧
    atWork perRun.configuration campaign listed workNs = .ok passing ∧
    selected = [baseline, batched, threaded] ∧
    WellChosen perRun.configuration passing "baseline" baseline ∧
    WellChosen perRun.configuration passing "batched" batched ∧
    WellChosen perRun.configuration passing "threaded" threaded
  runs : ∀ row ∈ selected, ∃ runs, FiveRuns perRun campaign row runs
  ordered : ∀ rows, perRun.rows.Perm rows → ∃ other,
    selectRepresentatives { perRun with rows := rows } campaign workNs = .ok other ∧
      other.map (visible perRun.configuration) = selected.map (visible perRun.configuration)

/-! ## The runs of a row -/

section

variable {perRun : PerRun} {campaign : String} {data : List RunRow}
variable {passing listed : List SustainableGroup} {configuration : List String}

theorem fiveRuns_of_mem (population : claimPopulation perRun campaign = .ok data)
    (groups : sustainableGroups perRun campaign = .ok listed) {row : SustainableGroup}
    (member : row ∈ listed) : ∃ runs, FiveRuns perRun campaign row runs := by
  rcases of_mem_sustainableGroups population groups member with ⟨first, _, keyed, passes, _⟩
  have summary := sustainableGroup_eq_some passes
  refine ⟨repetitionsOf perRun.configuration data first, ?_, summary.sustains.length,
    summary.sustains.sustainable, ?_⟩
  · rw [repetitionsOf, keyed, claimPopulation_eq_filter population, List.filter_filter]
    apply List.filter_congr
    intro run _
    simp [Bool.and_comm]
  · rw [sustainableGroup] at passes
    split at passes
    · cases passes
    · cases passes
      rfl

/-! ## The choice -/

theorem choiceOrder_total (left right : SustainableGroup) :
    choiceOrder left right ∨ choiceOrder right left := by
  simp only [choiceOrder, decide_eq_true_eq]
  omega

private theorem choiceOrder_trans {first second third : SustainableGroup}
    (earlier : choiceOrder first second) (later : choiceOrder second third) :
    choiceOrder first third := by
  simp only [choiceOrder, decide_eq_true_eq] at earlier later ⊢
  omega

private theorem choiceOrder_of_head {rows : List SustainableGroup} {choice : SustainableGroup}
    (leads : (rows.insertionSort fun left right => choiceOrder left right).head? = some choice)
    {row : SustainableGroup} (member : row ∈ rows) : choiceOrder choice row := by
  let relation : SustainableGroup → SustainableGroup → Prop := fun left right =>
    choiceOrder left right
  have totality : Std.Total relation := ⟨choiceOrder_total⟩
  have transitivity : IsTrans SustainableGroup relation := ⟨fun _ _ _ => choiceOrder_trans⟩
  have sorted := List.pairwise_insertionSort relation rows
  rcases List.head?_eq_some_iff.mp leads with ⟨rest, split⟩
  have inside : row ∈ rows.insertionSort relation := (List.mem_insertionSort relation).mpr member
  rw [split] at sorted inside
  rcases List.mem_cons.mp inside with first | later
  · subst first
    rcases choiceOrder_total row row with same | same
    · exact same
    · exact same
  · exact List.rel_of_pairwise_cons sorted later

def Untied (configuration : List String) (passing : List SustainableGroup)
    (receiver : String) : Prop :=
  ∀ left right, Candidate configuration passing receiver left →
    Candidate configuration passing receiver right →
    competitionKey configuration left = competitionKey configuration right → left = right

theorem competitor_of_candidate {receiver : String}
    (untied : Untied configuration passing receiver) {row : SustainableGroup}
    (candidate : Candidate configuration passing receiver row) :
    row ∈ competitors configuration passing receiver := by
  have inside : row ∈ passing.filter fun row => row.receiver = receiver :=
    List.mem_filter.mpr ⟨candidate.passes, decide_eq_true candidate.ofReceiver⟩
  rcases Grouping.exists_mem_firstMaxima Cell.keyBefore (competitionKey configuration)
    SustainableGroup.requestedRatePps inside with ⟨chosen, competes, keyed⟩
  have same := untied chosen row (candidate_of_competitor competes) candidate keyed
  exact same ▸ competes

theorem competitive_iff {receiver : String} (untied : Untied configuration passing receiver)
    {competitor : SustainableGroup}
    (competes : competitor ∈ competitors configuration passing receiver)
    {row : SustainableGroup} :
    98 / 100 * bestPps configuration passing receiver ≤ row.processedPpsMedian ↔
      Competitive configuration passing receiver row := by
  constructor
  · intro fast best candidate
    have listed : best.processedPpsMedian ∈ (competitors configuration passing receiver).map
        SustainableGroup.processedPpsMedian :=
      List.mem_map_of_mem (competitor_of_candidate untied candidate)
    have below : best.processedPpsMedian ≤ bestPps configuration passing receiver :=
      Grouping.le_getD_max? listed 0
    linarith
  · intro competitive
    have some : (competitors configuration passing receiver).map
        SustainableGroup.processedPpsMedian ≠ [] := List.ne_nil_of_mem (List.mem_map_of_mem competes)
    rcases List.mem_map.mp (Grouping.getD_max?_mem some (0 : ℚ)) with ⟨best, inside, same⟩
    rw [bestPps, ← same]
    exact competitive best (candidate_of_competitor inside)

theorem wellChosen_of_untied {receiver : String}
    (untied : Untied configuration passing receiver) {choice : SustainableGroup}
    (chosen : representative configuration passing receiver = .ok choice) :
    WellChosen configuration passing receiver choice := by
  have leads := representative_leads chosen
  rcases competes_of_representative chosen with ⟨competes, within⟩
  have before : ∀ other, Candidate configuration passing receiver other →
      Competitive configuration passing receiver other → choiceOrder choice other := by
    intro other candidate competitive
    apply choiceOrder_of_head leads
    exact List.mem_filter.mpr ⟨competitor_of_candidate untied candidate,
      decide_eq_true ((competitive_iff untied competes).mpr competitive)⟩
  refine ⟨candidate_of_competitor competes,
    (competitive_iff untied competes).mp within, ?_, ?_⟩
  · intro other candidate smaller competitive
    have order := before other candidate competitive
    simp only [choiceOrder, decide_eq_true_eq] at order
    omega
  · intro other candidate same competitive
    have order := before other candidate competitive
    simp only [choiceOrder, decide_eq_true_eq] at order
    omega

/-! ## Workloads that compete -/

def SameCompetition (columns : List String) (left right : String → Cell) : Prop :=
  ∀ key ∈ ["work_ns", "sample_every"], key ∈ columns → left key = right key

private theorem mem_columns_of_competition {key : String}
    (competes : key ∈ ["work_ns", "sample_every"]) :
    key ∈ perRun.configuration ↔ key ∈ perRun.columns := by
  rw [PerRun.configuration, List.mem_filter, decide_eq_true_eq, and_iff_right]
  simp only [List.mem_cons, List.not_mem_nil, or_false] at competes
  rcases competes with work | samples
  · subst work
    decide
  · subst samples
    decide

/-- For each receiver no two candidates are tied. -/
def NoTies (perRun : PerRun) (campaign : String) (workNs : Option Int) : Prop :=
  ∀ listed passing, sustainableGroups perRun campaign = .ok listed →
    atWork perRun.configuration campaign listed workNs = .ok passing →
    ∀ receiver ∈ ["baseline", "batched", "threaded"],
      Untied perRun.configuration passing receiver

private theorem wellSelected_of_noTies {workNs : Option Int} (clear : NoTies perRun campaign workNs)
    {selected : List SustainableGroup}
    (succeeds : selectRepresentatives perRun campaign workNs = .ok selected) :
    WellSelected perRun campaign workNs selected := by
  rcases selectRepresentatives_eq_ok_iff.mp succeeds with ⟨listed, passing, baseline, batched,
    threaded, groups, filtered, first, second, third, all, _⟩
  have untied := clear listed passing groups filtered
  have fromData := groups
  rw [sustainableGroups, bind_eq_ok] at fromData
  rcases fromData with ⟨data, population, _⟩
  constructor
  · exact ⟨listed, passing, baseline, batched, threaded, groups, filtered, all,
      wellChosen_of_untied (untied "baseline" (by simp)) first,
      wellChosen_of_untied (untied "batched" (by simp)) second,
      wellChosen_of_untied (untied "threaded" (by simp)) third⟩
  · intro row member
    have passes : row ∈ passing := by
      rw [all] at member
      simp only [List.mem_cons, List.not_mem_nil, or_false] at member
      rcases member with isFirst | isSecond | isThird
      · exact isFirst ▸ (representative_eq_ok first).1
      · exact isSecond ▸ (representative_eq_ok second).1
      · exact isThird ▸ (representative_eq_ok third).1
    exact fiveRuns_of_mem population groups ((atWork_sublist filtered).subset passes)
  · exact fun rows same => selectRepresentatives_perm same succeeds

private theorem exists_left_out {workNs : Option Int}
    (groups : sustainableGroups perRun campaign = .ok listed)
    (filtered : atWork perRun.configuration campaign listed workNs = .ok passing)
    {receiver : String} (tied : ¬ Untied perRun.configuration passing receiver) :
    ∃ row, Candidate perRun.configuration passing receiver row ∧
      row ∉ competitors perRun.configuration passing receiver := by
  simp only [Untied, not_forall] at tied
  rcases tied with ⟨left, right, first, second, keyed, different⟩
  by_contra all
  push Not at all
  have leftContends := (mem_competitors_iff groups filtered).mp (all left first)
  have rightContends := (mem_competitors_iff groups filtered).mp (all right second)
  apply different
  apply eq_of_rowKey_passing groups filtered first.passes second.passes
  apply Cell.keyBefore_antisymm
  · exact leftContends.first right second keyed.symm
  · exact rightContends.first left first keyed

theorem Candidate.remeasure {receiver : String} {row : SustainableGroup}
    (candidate : Candidate configuration passing receiver row) (rates : List Cell → ℚ) :
    Candidate configuration (passing.map (remeasureGroup configuration rates)) receiver
      (remeasureGroup configuration rates row) := by
  refine ⟨List.mem_map_of_mem candidate.passes, candidate.ofReceiver, ?_⟩
  intro other member ofReceiver keyed
  rcases List.mem_map.mp member with ⟨original, inside, same⟩
  subst same
  exact candidate.highest original inside ofReceiver keyed

private theorem not_wellChosen_remeasure {rates : List Cell → ℚ} {receiver : String}
    {row pick : SustainableGroup} (candidate : Candidate configuration passing receiver row)
    (fast : rates (rowKey configuration row) = 1000)
    (slow : rates (rowKey configuration pick) = 500) :
    ¬ WellChosen configuration (passing.map (remeasureGroup configuration rates)) receiver
      (remeasureGroup configuration rates pick) := by
  intro well
  have bound : 98 / 100 * rates (rowKey configuration row) ≤ rates (rowKey configuration pick) :=
    well.competitive _ (candidate.remeasure rates)
  rw [fast, slow] at bound
  norm_num at bound

end

/-! ## Tables with ties -/

def tiedPicks (slow fast : String → Cell) : List RunRow :=
  [{ steadyRun "baseline" slow with processedPps := 500 }, steadyRun "baseline" fast,
    steadyRun "batched" slow, steadyRun "threaded" slow]

def tiedRuns (columns : List String) (slow fast : String → Cell) : PerRun where
  columns := columns
  rows := (tiedPicks slow fast).flatMap repeated

theorem of_mem_tiedPicks {slow fast : String → Cell} {pick : RunRow}
    (member : pick ∈ tiedPicks slow fast) :
    pick.campaign = "raw" ∧ pick.topology = "distributed_ethernet" ∧ pick.runValid ∧
      pick.sustainableRun ∧ pick.batchSize = 1 ∧ pick.requestedRatePps = 1000 ∧
      0 ≤ pick.processedPps ∧ (pick.configuration = slow ∨ pick.configuration = fast) := by
  simp only [tiedPicks, List.mem_cons, List.not_mem_nil, or_false] at member
  rcases member with rfl | rfl | rfl | rfl
  · simp [steadyRun]
  · simp [steadyRun]
  · simp [steadyRun]
  · simp [steadyRun]

section

variable {columns : List String} {slow fast : String → Cell}

theorem claimPopulation_tiedRuns (topology : "topology" ∈ columns) :
    claimPopulation (tiedRuns columns slow fast) "raw" =
      .ok (tiedRuns columns slow fast).rows := by
  apply claimPopulation_repeated topology
  intro pick picked
  have facts := of_mem_tiedPicks picked
  refine ⟨facts.1, ?_, facts.2.2.1⟩
  rw [facts.2.1]
  decide

theorem tiedPicks_distinct
    (different : ∃ key ∈ (tiedRuns columns slow fast).configuration, slow key ≠ fast key) :
    ((tiedPicks slow fast).map (groupKey (tiedRuns columns slow fast).configuration)).Nodup := by
  rcases different with ⟨key, present, different⟩
  have apart : ¬ ∀ key ∈ (tiedRuns columns slow fast).configuration, slow key = fast key :=
    fun same => different (same key present)
  simpa [tiedPicks, steadyRun, groupKey_eq_iff] using apart

theorem sustains_tiedRuns
    (different : ∃ key ∈ (tiedRuns columns slow fast).configuration, slow key ≠ fast key)
    {pick : RunRow} (member : pick ∈ tiedPicks slow fast) :
    Sustains (tiedRuns columns slow fast).configuration (tiedRuns columns slow fast).rows pick :=
  Sustains.of_mem_picks (tiedPicks_distinct different) member (of_mem_tiedPicks member).2.2.2.1

private theorem tiedRuns_succeeds (topology : "topology" ∈ columns)
    (different : ∃ key ∈ (tiedRuns columns slow fast).configuration, slow key ≠ fast key)
    (competition : SameCompetition columns slow fast) :
    ∃ listed baseline batched threaded,
      sustainableGroups (tiedRuns columns slow fast) "raw" = .ok listed ∧
      representative (tiedRuns columns slow fast).configuration listed "baseline" = .ok baseline ∧
      selectRepresentatives (tiedRuns columns slow fast) "raw" none =
        .ok [baseline, batched, threaded] := by
  apply exists_selection_of_sustains (claimPopulation_tiedRuns topology)
  · intro run member
    rcases of_mem_flatMap_repeated member with ⟨pick, picked, runId, same⟩
    rw [same]
    exact (of_mem_tiedPicks picked).2.2.2.2.2.2.1
  · intro receiver known
    simp only [List.mem_cons, List.not_mem_nil, or_false] at known
    rcases known with baseline | batched | threaded
    · exact ⟨_, baseline.symm, sustains_tiedRuns different List.mem_cons_self⟩
    · exact ⟨steadyRun "batched" slow, batched.symm,
        sustains_tiedRuns different (by simp [tiedPicks])⟩
    · exact ⟨steadyRun "threaded" slow, threaded.symm,
        sustains_tiedRuns different (by simp [tiedPicks])⟩
  · intro present
    have listed := workNs_mem_configuration.mp present
    have work : slow "work_ns" = fast "work_ns" := competition "work_ns" (by simp) listed
    have read : ∀ run ∈ (tiedRuns columns slow fast).rows,
        run.configuration "work_ns" = slow "work_ns" := by
      intro run member
      rcases of_mem_flatMap_repeated member with ⟨pick, picked, runId, same⟩
      rw [same]
      rcases (of_mem_tiedPicks picked).2.2.2.2.2.2.2 with isSlow | isFast
      · exact congrFun isSlow "work_ns"
      · exact (congrFun isFast "work_ns").trans work.symm
    intro left leftMember right rightMember
    rw [read left leftMember, read right rightMember]

theorem exists_pick_of_mem {listed : List SustainableGroup} (topology : "topology" ∈ columns)
    (different : ∃ key ∈ (tiedRuns columns slow fast).configuration, slow key ≠ fast key)
    (groups : sustainableGroups (tiedRuns columns slow fast) "raw" = .ok listed)
    {row : SustainableGroup} (member : row ∈ listed) :
    ∃ pick ∈ tiedPicks slow fast,
      groupKey (tiedRuns columns slow fast).configuration pick =
        rowKey (tiedRuns columns slow fast).configuration row ∧
      row.requestedRatePps = 1000 ∧ row.batchSize = 1 ∧
      row.processedPpsMedian = pick.processedPps := by
  rcases exists_summarizes (claimPopulation_tiedRuns topology) groups member with
    ⟨run, inData, summary⟩
  rcases of_mem_flatMap_repeated inData with ⟨pick, picked, runId, same⟩
  have facts := of_mem_tiedPicks picked
  have ofPick : Summarizes (tiedRuns columns slow fast).configuration
      (tiedRuns columns slow fast).rows row pick := summary.of_groupKey (by rw [same]; rfl)
  refine ⟨pick, picked, ?_, ofPick.rate.trans facts.2.2.2.2.2.1,
    ofPick.batchSize.trans facts.2.2.2.2.1, ?_⟩
  · apply rowKey_eq_groupKey_iff.mpr
    exact ⟨ofPick.receiver.symm, ofPick.batchSize.symm, ofPick.rate.symm, fun key present =>
      (ofPick.workload key present).symm⟩
  · have group : repetitionsOf (tiedRuns columns slow fast).configuration
        (tiedRuns columns slow fast).rows pick = repeated pick :=
      repetitionsOf_picks (tiedPicks_distinct different) picked
    have median := ofPick.median
    rw [group] at median
    rcases List.mem_map.mp median with ⟨repetition, inside, sameMedian⟩
    rcases of_mem_repeated inside with ⟨otherId, sameRun⟩
    rw [← sameMedian, sameRun]

theorem exists_row_of_pick {listed : List SustainableGroup} (topology : "topology" ∈ columns)
    (different : ∃ key ∈ (tiedRuns columns slow fast).configuration, slow key ≠ fast key)
    (groups : sustainableGroups (tiedRuns columns slow fast) "raw" = .ok listed)
    {pick : RunRow} (picked : pick ∈ tiedPicks slow fast) :
    ∃ row ∈ listed, groupKey (tiedRuns columns slow fast).configuration pick =
        rowKey (tiedRuns columns slow fast).configuration row ∧
      row.requestedRatePps = 1000 ∧ row.batchSize = 1 ∧
      row.processedPpsMedian = pick.processedPps := by
  rcases exists_mem_of_sustains (claimPopulation_tiedRuns topology) groups
    (sustains_tiedRuns different picked) with ⟨row, member, summary⟩
  have keyed : groupKey (tiedRuns columns slow fast).configuration pick =
      rowKey (tiedRuns columns slow fast).configuration row :=
    rowKey_eq_groupKey_iff.mpr ⟨summary.receiver.symm, summary.batchSize.symm, summary.rate.symm,
      fun key present => (summary.workload key present).symm⟩
  rcases exists_pick_of_mem topology different groups member with
    ⟨other, otherPicked, otherKeyed, rate, batchSize, median⟩
  have same : other = pick := by
    have distinct := tiedPicks_distinct different
    exact List.inj_on_of_nodup_map distinct otherPicked picked (otherKeyed.trans keyed.symm)
  exact ⟨row, member, keyed, rate, batchSize, same ▸ median⟩

theorem candidate_of_mem_tiedRuns {listed : List SustainableGroup} (topology : "topology" ∈ columns)
    (different : ∃ key ∈ (tiedRuns columns slow fast).configuration, slow key ≠ fast key)
    (groups : sustainableGroups (tiedRuns columns slow fast) "raw" = .ok listed)
    {row : SustainableGroup} (member : row ∈ listed) :
    Candidate (tiedRuns columns slow fast).configuration listed row.receiver row := by
  refine ⟨member, rfl, ?_⟩
  intro other otherMember _ _
  rcases exists_pick_of_mem topology different groups member with ⟨_, _, _, rate, _⟩
  rcases exists_pick_of_mem topology different groups otherMember with ⟨_, _, _, otherRate, _⟩
  rw [otherRate, rate]

private theorem exists_fast_candidate {listed : List SustainableGroup}
    (topology : "topology" ∈ columns)
    (different : ∃ key ∈ (tiedRuns columns slow fast).configuration, slow key ≠ fast key)
    (groups : sustainableGroups (tiedRuns columns slow fast) "raw" = .ok listed) :
    ∃ row, Candidate (tiedRuns columns slow fast).configuration listed "baseline" row ∧
      row.processedPpsMedian = 1000 := by
  rcases exists_row_of_pick topology different groups
    (List.mem_cons_of_mem _ List.mem_cons_self) with ⟨row, member, keyed, _, _, median⟩
  have ofReceiver : row.receiver = "baseline" := (rowKey_eq_groupKey_iff.mp keyed).1.symm
  exact ⟨row, ofReceiver ▸ candidate_of_mem_tiedRuns topology different groups member, median⟩

private theorem fast_not_competitor {listed : List SustainableGroup}
    (topology : "topology" ∈ columns)
    (different : ∃ key ∈ (tiedRuns columns slow fast).configuration, slow key ≠ fast key)
    (competition : SameCompetition columns slow fast)
    (earlier : Cell.keyBefore
      (groupKey (tiedRuns columns slow fast).configuration (steadyRun "baseline" slow))
      (groupKey (tiedRuns columns slow fast).configuration (steadyRun "baseline" fast)))
    (groups : sustainableGroups (tiedRuns columns slow fast) "raw" = .ok listed)
    {row : SustainableGroup}
    (keyed : groupKey (tiedRuns columns slow fast).configuration (steadyRun "baseline" fast) =
      rowKey (tiedRuns columns slow fast).configuration row)
    (batchSize : row.batchSize = 1) :
    row ∉ competitors (tiedRuns columns slow fast).configuration listed "baseline" := by
  intro competes
  rcases exists_row_of_pick topology different groups List.mem_cons_self with
    ⟨slowRow, slowMember, slowKey, _, slowBatch, _⟩
  have slowReceiver : slowRow.receiver = "baseline" := (rowKey_eq_groupKey_iff.mp slowKey).1.symm
  have candidate := candidate_of_mem_tiedRuns topology different groups slowMember
  rw [slowReceiver] at candidate
  have competing : competitionKey (tiedRuns columns slow fast).configuration slowRow =
      competitionKey (tiedRuns columns slow fast).configuration row := by
    rw [competitionKey_eq_iff, slowBatch, batchSize]
    refine ⟨rfl, ?_⟩
    intro key known present
    rw [← (rowKey_eq_groupKey_iff.mp slowKey).2.2.2 key present,
      ← (rowKey_eq_groupKey_iff.mp keyed).2.2.2 key present]
    exact competition key known ((mem_columns_of_competition known).mp present)
  have unfiltered : atWork (tiedRuns columns slow fast).configuration "raw" listed none =
      .ok listed := rfl
  have later := ((mem_competitors_iff groups unfiltered).mp competes).first slowRow candidate
    competing
  rw [← keyed, ← slowKey] at later
  have same := Cell.keyBefore_antisymm earlier later
  rcases different with ⟨key, present, different⟩
  exact different ((groupKey_eq_iff.mp same).2.2.2 key present)

private theorem tied_not_wellSelected (topology : "topology" ∈ columns)
    (different : ∃ key ∈ (tiedRuns columns slow fast).configuration, slow key ≠ fast key)
    (competition : SameCompetition columns slow fast)
    (earlier : Cell.keyBefore
      (groupKey (tiedRuns columns slow fast).configuration (steadyRun "baseline" slow))
      (groupKey (tiedRuns columns slow fast).configuration (steadyRun "baseline" fast))) :
    ∃ selected, selectRepresentatives (tiedRuns columns slow fast) "raw" none = .ok selected ∧
      ¬ WellSelected (tiedRuns columns slow fast) "raw" none selected := by
  rcases tiedRuns_succeeds topology different competition with
    ⟨listed, baseline, batched, threaded, groups, chosen, succeeds⟩
  refine ⟨_, succeeds, ?_⟩
  intro well
  rcases well.chosen with ⟨otherListed, passing, first, _, _, otherGroups, filtered, same,
    wellChosen, _⟩
  rw [groups] at otherGroups
  cases otherGroups
  cases filtered
  rcases List.cons.inj same with ⟨same, _⟩
  subst same
  rcases exists_fast_candidate topology different groups with ⟨fastRow, candidate, fastMedian⟩
  have quick := wellChosen.competitive fastRow candidate
  rw [fastMedian] at quick
  rcases competes_of_representative chosen with ⟨competes, _⟩
  have baselineCandidate := candidate_of_competitor competes
  rcases exists_pick_of_mem topology different groups baselineCandidate.passes with
    ⟨pick, picked, keyed, rate, batchSize, median⟩
  have receiver : pick.receiver = "baseline" :=
    (rowKey_eq_groupKey_iff.mp keyed).1.trans baselineCandidate.ofReceiver
  simp only [tiedPicks, List.mem_cons, List.not_mem_nil, or_false] at picked
  rcases picked with isSlow | isFast | isBatched | isThreaded
  · subst isSlow
    rw [median] at quick
    norm_num at quick
  · subst isFast
    exact fast_not_competitor topology different competition earlier groups keyed batchSize
      competes
  · subst isBatched
    exact absurd receiver (by simp [steadyRun])
  · subst isThreaded
    exact absurd receiver (by simp [steadyRun])

end

/-- The selection from a table is what it should be whenever no candidates are tied;
otherwise the same runs at other measured rates are selected wrongly. -/
theorem wellSelected_when (perRun : PerRun) (campaign : String) (workNs : Option Int) :
    (NoTies perRun campaign workNs → ∀ selected,
      selectRepresentatives perRun campaign workNs = .ok selected →
        WellSelected perRun campaign workNs selected) ∧
    (¬ NoTies perRun campaign workNs → ∀ selected,
      selectRepresentatives perRun campaign workNs = .ok selected → ∃ rates other,
        selectRepresentatives (remeasure perRun rates) campaign workNs = .ok other ∧
          ¬ WellSelected (remeasure perRun rates) campaign workNs other) := by
  constructor
  · exact fun clear selected => wellSelected_of_noTies clear
  · intro ties selected succeeds
    simp only [NoTies, not_forall] at ties
    rcases ties with ⟨listed, passing, groups, filtered, receiver, known, tied⟩
    rcases exists_left_out groups filtered tied with ⟨row, candidate, leftOut⟩
    rcases selectRepresentatives_eq_ok_iff.mp succeeds with ⟨otherListed, otherPassing, baseline,
      batched, threaded, otherGroups, otherFiltered, first, second, third, all, sameWork⟩
    rw [groups] at otherGroups
    cases otherGroups
    rw [filtered] at otherFiltered
    cases otherFiltered
    subst all
    have competes := fun name choice
        (chosen : representative perRun.configuration passing name = .ok choice) =>
      (competes_of_representative chosen).1
    have apart : ∀ name, ∀ other ∈ competitors perRun.configuration passing name,
        rowKey perRun.configuration other ≠ rowKey perRun.configuration row := by
      intro name other otherCompetes keyed
      have otherCandidate := candidate_of_competitor otherCompetes
      have same := eq_of_rowKey_passing groups filtered otherCandidate.passes candidate.passes keyed
      have sameName : name = receiver := by
        rw [← otherCandidate.ofReceiver, same, candidate.ofReceiver]
      subst sameName
      exact leftOut (same ▸ otherCompetes)
    let others : List Cell → ℚ := fun key =>
      if key = rowKey perRun.configuration row then 1000 else 0
    let rates := favour perRun.configuration [baseline, batched, threaded] others
    have selects := selectRepresentatives_remeasure groups filtered (competes _ _ first)
      (competes _ _ second) (competes _ _ third) sameWork others (by
        intro name other otherCompetes
        show (if _ then _ else _) < _
        rw [if_neg (apart name other otherCompetes)]
        norm_num)
    have fast : rates (rowKey perRun.configuration row) = 1000 := by
      have unpicked : rowKey perRun.configuration row ∉
          [baseline, batched, threaded].map (rowKey perRun.configuration) := by
        simp only [List.map_cons, List.map_nil, List.mem_cons, List.not_mem_nil, or_false, not_or]
        exact ⟨(apart _ _ (competes _ _ first)).symm, (apart _ _ (competes _ _ second)).symm,
          (apart _ _ (competes _ _ third)).symm⟩
      show (if _ then _ else others _) = _
      rw [if_neg unpicked]
      exact if_pos rfl
    refine ⟨rates, _, selects, ?_⟩
    intro well
    rcases well.chosen with ⟨seenListed, seenPassing, seenBaseline, seenBatched, seenThreaded,
      seenGroups, seenFiltered, seen, firstWell, secondWell, thirdWell⟩
    rw [sustainableGroups_remeasure, groups] at seenGroups
    cases seenGroups
    rw [show (remeasure perRun rates).configuration = perRun.configuration from rfl,
      atWork_map (remeasureGroup perRun.configuration rates) fun _ _ => rfl,
      filtered] at seenFiltered
    cases seenFiltered
    cases seen
    have poor : ∀ pick ∈ [baseline, batched, threaded], ¬ WellChosen perRun.configuration
        (passing.map (remeasureGroup perRun.configuration rates)) receiver
        (remeasureGroup perRun.configuration rates pick) := fun pick picked =>
      not_wellChosen_remeasure candidate fast (favour_of_mem picked)
    simp only [List.mem_cons, List.not_mem_nil, or_false] at known
    rcases known with isBaseline | isBatched | isThreaded
    · exact poor baseline (by simp) (isBaseline ▸ firstWell)
    · exact poor batched (by simp) (isBatched ▸ secondWell)
    · exact poor threaded (by simp) (isThreaded ▸ thirdWell)

/-- Packets of this size, without work. -/
def sizedWorkload (payloadSize : ℚ) : String → Cell
  | "mode" => .text "steady"
  | "payload_size" => .number payloadSize
  | "duration_seconds" => .number 30
  | "work_ns" => .number 0
  | _ => .number 1

/-- A baseline at 500 packets each second is chosen although another processed 1000. -/
theorem slower_tie_is_chosen :
    ∃ selected,
      selectRepresentatives (tiedRuns ("topology" :: configurationKeys) (sizedWorkload 64)
        (sizedWorkload 1024)) "raw" none = .ok selected ∧
      ¬ WellSelected (tiedRuns ("topology" :: configurationKeys) (sizedWorkload 64)
        (sizedWorkload 1024)) "raw" none selected := by
  have topology : "topology" ∈ "topology" :: configurationKeys := List.mem_cons_self
  have present : "payload_size" ∈ (tiedRuns ("topology" :: configurationKeys) (sizedWorkload 64)
      (sizedWorkload 1024)).configuration := mem_configuration.mpr ⟨by decide, by decide⟩
  apply tied_not_wellSelected topology
  · exact ⟨"payload_size", present, by decide⟩
  · intro key known _
    simp only [List.mem_cons, List.not_mem_nil, or_false] at known
    rcases known with work | samples
    · subst work
      rfl
    · subst samples
      rfl
  · decide +kernel

end NetLatencyLab.ProfileTools
