import NetLatencyLab.Analysis.ClaimEvidence

/-! # Saturated sweeps

`saturated` says that a higher rate was tested, and the selection that none of
the higher rates passed. Why they did not pass is not looked at. -/

namespace NetLatencyLab.ClaimEvidence

open Grouping (getD_max?_mem le_getD_max?)
open ProfileTools

def LostByReceiver (run : RunRow) : Prop :=
  99 / 100 * (run.requestedRatePps : ℚ) ≤ run.offeredPps ∧
    maxApplicationLossPct < run.applicationLossPct

def ReceiverLimited (configuration : List String) (data : List RunRow) (row : SustainableGroup) :
    Prop :=
  ∃ run ∈ data, run.receiver = row.receiver ∧ run.batchSize = row.batchSize ∧
    (∀ key ∈ configuration, run.configuration key = row.configuration key) ∧
    row.requestedRatePps < run.requestedRatePps ∧ LostByReceiver run

def Above (configuration : List String) (run other : RunRow) : Prop :=
  workloadKey configuration other = workloadKey configuration run ∧
    run.requestedRatePps < other.requestedRatePps

/-- Where rates above the highest sustainable one were tested, the receiver
lost one of them. -/
def SaturationIsLoss (configuration : List String) (data : List RunRow) : Prop :=
  ∀ run ∈ data, Sustains configuration data run →
    (∃ other ∈ data, Above configuration run other) →
    (∀ other ∈ data, Above configuration run other → ¬ Sustains configuration data other) →
      ∃ other ∈ data, Above configuration run other ∧ LostByReceiver other

theorem saturated_iff {configuration : List String} {data : List RunRow} {run : RunRow}
    (inData : run ∈ data) :
    run.requestedRatePps < highestTested configuration data run ↔
      ∃ other ∈ data, Above configuration run other := by
  have tested : run.requestedRatePps ∈ (data.filter fun other =>
      workloadKey configuration other = workloadKey configuration run).map
        RunRow.requestedRatePps :=
    List.mem_map_of_mem (List.mem_filter.mpr ⟨inData, by simp⟩)
  constructor
  · intro higher
    rcases List.mem_map.mp (getD_max?_mem (List.ne_nil_of_mem tested) 0) with
      ⟨other, inside, greatest⟩
    rcases List.mem_filter.mp inside with ⟨member, keyed⟩
    refine ⟨other, member, of_decide_eq_true keyed, ?_⟩
    rw [greatest]
    exact higher
  · rintro ⟨other, member, keyed, higher⟩
    apply lt_of_lt_of_le higher
    apply le_getD_max?
    exact List.mem_map_of_mem (List.mem_filter.mpr ⟨member, by simp [keyed]⟩)

/-! ## The selected rates -/

theorem not_sustains_above {perRun : PerRun} {campaign : String} {workNs : Option Int}
    {data : List RunRow} {listed passing : List SustainableGroup} {receiver : String}
    {choice : SustainableGroup} {run other : RunRow}
    (population : claimPopulation perRun campaign = .ok data)
    (groups : sustainableGroups perRun campaign = .ok listed)
    (filtered : atWork perRun.configuration campaign listed workNs = .ok passing)
    (chosen : representative perRun.configuration passing receiver = .ok choice)
    (summary : Summarizes perRun.configuration data choice run)
    (above : Above perRun.configuration run other) :
    ¬ Sustains perRun.configuration data other := by
  intro sustains
  rcases representative_eq_ok chosen with ⟨choiceMember, choiceReceiver, highest⟩
  rcases exists_mem_of_sustains population groups sustains with ⟨row, member, rowSummary⟩
  rcases workloadKey_eq_iff.mp above.1 with ⟨receivers, batches, agree⟩
  have cells : ∀ key ∈ perRun.configuration, row.configuration key = choice.configuration key := by
    intro key present
    rw [rowSummary.workload key present, agree key present, summary.workload key present]
  have passes : row ∈ passing := by
    apply (mem_atWork filtered).mpr
    refine ⟨member, ?_⟩
    intro work required
    rcases ((mem_atWork filtered).mp choiceMember).2 work required with ⟨present, cell⟩
    exact ⟨present, (cells _ present).trans cell⟩
  have rowReceiver : row.receiver = receiver := by
    rw [rowSummary.receiver, receivers, ← summary.receiver, choiceReceiver]
  have competes : competitionKey perRun.configuration row =
      competitionKey perRun.configuration choice := by
    rw [competitionKey, competitionKey, rowSummary.batchSize, batches, ← summary.batchSize]
    congr 1
    apply List.map_congr_left
    intro key inside
    exact cells key (of_decide_eq_true (List.mem_filter.mp inside).2)
  have bound := highest row passes rowReceiver competes
  rw [rowSummary.rate, summary.rate] at bound
  exact absurd above.2 (not_lt.mpr bound)

private theorem receiverLimited_of_saturated {perRun : PerRun} {campaign : String}
    {workNs : Option Int}
    {data : List RunRow} {selected : List SustainableGroup} {choice : SustainableGroup}
    (population : claimPopulation perRun campaign = .ok data)
    (loss : SaturationIsLoss perRun.configuration data)
    (succeeds : selectRepresentatives perRun campaign workNs = .ok selected)
    (member : choice ∈ selected) (saturated : choice.saturated) :
    ReceiverLimited perRun.configuration data choice := by
  rcases selectRepresentatives_eq_ok_iff.mp succeeds with ⟨listed, passing, baseline, batched,
    threaded, groups, filtered, first, second, third, rfl, -⟩
  have chosen : ∃ receiver, representative perRun.configuration passing receiver = .ok choice := by
    simp only [List.mem_cons, List.not_mem_nil, or_false] at member
    rcases member with rfl | rfl | rfl
    · exact ⟨_, first⟩
    · exact ⟨_, second⟩
    · exact ⟨_, third⟩
  rcases chosen with ⟨receiver, chosen⟩
  have passes := ((mem_atWork filtered).mp (representative_eq_ok chosen).1).1
  rcases exists_summarizes population groups passes with ⟨run, inData, summary⟩
  have tested : ∃ other ∈ data, Above perRun.configuration run other := by
    rw [summary.saturated] at saturated
    exact (saturated_iff inData).mp (of_decide_eq_true saturated)
  rcases loss run inData summary.sustains tested (fun other _ above =>
      not_sustains_above population groups filtered chosen summary above) with
    ⟨other, otherIn, above, lost⟩
  rcases workloadKey_eq_iff.mp above.1 with ⟨receivers, batches, agree⟩
  refine ⟨other, otherIn, ?_, ?_, ?_, ?_, lost⟩
  · rw [receivers, summary.receiver]
  · rw [batches, summary.batchSize]
  · intro key present
    rw [agree key present, summary.workload key present]
  · rw [summary.rate]
    exact above.2

/-! ## Emitted claims -/

theorem representativeOf_eq_ok {selected : List SustainableGroup} {receiver : String}
    {row : SustainableGroup} (found : representativeOf selected receiver = .ok row) :
    row ∈ selected ∧ row.receiver = receiver := by
  rw [representativeOf] at found
  split at found
  next choice first =>
    cases found
    exact ⟨List.mem_of_find?_eq_some first, by simpa using List.find?_some first⟩
  · cases found

private theorem saturated_of_throughputBlockers {baseline candidate : SustainableGroup}
    {improvement : ℚ} (unblocked : throughputBlockers baseline candidate improvement = []) :
    baseline.saturated ∧ candidate.saturated := by
  simp only [throughputBlockers, rowBlockers, List.append_eq_nil_iff] at unblocked
  rcases unblocked with ⟨⟨⟨⟨-, base⟩, ⟨-, compared⟩⟩, -⟩, -⟩
  constructor
  · simpa using base
  · simpa using compared

private theorem saturated_of_evidence {runs : PerRun} {profiles : List ProfileRow}
    {campaign : String}
    {selected : List SustainableGroup} {baseline : SustainableGroup} {receiver : String}
    {row : Evidence}
    (computed : evidence runs profiles campaign selected baseline receiver = .ok row)
    (passes : row.claimPasses) :
    row.candidate = receiver ∧ baseline.saturated ∧
      ∀ candidate, representativeOf selected receiver = .ok candidate → candidate.saturated := by
  rcases verdicts_of_evidence computed with ⟨named, -, candidate, found, -, verdict⟩
  have saturated := saturated_of_throughputBlockers (verdict.mp passes).1
  refine ⟨named, saturated.1, ?_⟩
  intro other foundOther
  rw [found] at foundOther
  cases foundOther
  exact saturated.2

/-- Every emitted claim compares two configurations that the receiver limits. -/
def ClaimsAreLimited (runs : PerRun) (profiles : List ProfileRow) (campaign : String)
    (workNs : Option Int) (data : List RunRow) : Prop :=
  ∀ selected rows, selectRepresentatives runs campaign workNs = .ok selected →
    generate runs profiles campaign workNs = .ok rows →
      ∀ row ∈ rows, row.claimPasses → ∀ receiver ∈ ["baseline", row.candidate],
        ∀ choice, representativeOf selected receiver = .ok choice →
          ReceiverLimited runs.configuration data choice

private theorem claims_are_limited {runs : PerRun} {campaign : String} {data : List RunRow}
    (population : claimPopulation runs campaign = .ok data)
    (loss : SaturationIsLoss runs.configuration data) (profiles : List ProfileRow)
    (workNs : Option Int) : ClaimsAreLimited runs profiles campaign workNs data := by
  intro selected rows succeeds generated row member passes
  rcases (generate_eq_ok_iff succeeds).mp generated with
    ⟨baseline, batched, threaded, found, first, second, rfl⟩
  have computed : ∃ receiver,
      evidence runs profiles campaign selected baseline receiver = .ok row := by
    simp only [List.mem_cons, List.not_mem_nil, or_false] at member
    rcases member with rfl | rfl
    · exact ⟨_, first⟩
    · exact ⟨_, second⟩
  rcases computed with ⟨candidate, computed⟩
  rcases saturated_of_evidence computed passes with ⟨named, baselineSaturated, saturated⟩
  intro receiver compared choice foundChoice
  have choiceSaturated : choice.saturated := by
    simp only [named, List.mem_cons, List.not_mem_nil, or_false] at compared
    rcases compared with rfl | rfl
    · rw [found] at foundChoice
      cases foundChoice
      exact baselineSaturated
    · exact saturated choice foundChoice
  exact receiverLimited_of_saturated population loss succeeds (representativeOf_eq_ok foundChoice).1
    choiceSaturated

/-! ## Tables whose higher rates all fail in one way -/

/-- How a repetition went. -/
structure Outcome where
  /-- `offered_pps / requested_rate_pps`. -/
  offeredShare : ℚ
  applicationLossPct : ℚ
  sustainableRun : Bool

def Outcome.Lost (outcome : Outcome) : Prop :=
  99 / 100 ≤ outcome.offeredShare ∧ maxApplicationLossPct < outcome.applicationLossPct

def outcomeOf (run : RunRow) : Outcome where
  offeredShare := run.offeredPps / run.requestedRatePps
  applicationLossPct := run.applicationLossPct
  sustainableRun := run.sustainableRun

/-- Not five sustainable repetitions. -/
def Fails (outcomes : List Outcome) : Prop :=
  ¬ (outcomes.length = requiredRepetitions ∧ ∀ outcome ∈ outcomes, outcome.sustainableRun)

def goodRun (receiver : String) (batchSize rate : Int) : RunRow where
  runId := receiver
  campaign := "raw"
  topology := "distributed_ethernet"
  receiver := receiver
  batchSize := batchSize
  requestedRatePps := rate
  offeredPps := rate
  processedPps := rate
  ingressLoss := some 0
  spscOverflow := some 0
  applicationLossPct := 0
  runValid := true
  sustainableRun := true
  configuration := fun _ => .number 0

def failedRun (good : RunRow) (outcome : Outcome) : RunRow :=
  { good with
    runId := good.runId ++ "-failed"
    requestedRatePps := 200000
    offeredPps := outcome.offeredShare * 200000
    applicationLossPct := outcome.applicationLossPct
    sustainableRun := outcome.sustainableRun }

def goodPicks : List RunRow :=
  [goodRun "baseline" 1 100000, goodRun "batched" 64 150000, goodRun "threaded" 64 150000]

/-- Every receiver passes one rate and fails the next. -/
def failingSweeps (failing : List Outcome) : PerRun where
  columns := ["topology", "run_valid", "ingress_loss", "spsc_overflow"] ++ configurationKeys
  rows := goodPicks.flatMap fun good => repeated good ++ failing.map (failedRun good)

def sweepBlocks (configuration : List String) (failing : List Outcome) :
    List (List Cell × List RunRow) :=
  goodPicks.flatMap fun good =>
    [(groupKey configuration good, repeated good),
      (groupKey configuration (failedRun good ⟨0, 0, false⟩), failing.map (failedRun good))]

private theorem failingSweeps_rows (configuration : List String) (failing : List Outcome) :
    (failingSweeps failing).rows = (sweepBlocks configuration failing).flatMap Prod.snd := by
  simp [failingSweeps, sweepBlocks, goodPicks]

theorem repetitionsOf_failingSweeps (configuration : List String) (failing : List Outcome)
    {good : RunRow} (picked : good ∈ goodPicks) :
    repetitionsOf configuration (failingSweeps failing).rows good = repeated good ∧
      ∀ outcome, repetitionsOf configuration (failingSweeps failing).rows (failedRun good outcome) =
        failing.map (failedRun good) := by
  have keyed : ∀ block ∈ sweepBlocks configuration failing,
      ∀ run ∈ block.2, groupKey configuration run = block.1 := by
    intro block member run inside
    rcases List.mem_flatMap.mp member with ⟨other, -, blockMember⟩
    simp only [List.mem_cons, List.not_mem_nil, or_false] at blockMember
    rcases blockMember with rfl | rfl
    · exact groupKey_of_mem_repeated inside
    · rcases List.mem_map.mp inside with ⟨outcome, -, rfl⟩
      rfl
  have distinct : ((sweepBlocks configuration failing).map Prod.fst).Nodup := by
    simp [sweepBlocks, goodPicks, goodRun, failedRun, groupKey_eq_iff]
  rw [failingSweeps_rows configuration]
  constructor
  · have inside : (groupKey configuration good, repeated good) ∈ sweepBlocks configuration failing :=
      List.mem_flatMap.mpr ⟨good, picked, by simp⟩
    exact Grouping.filter_key_blocks keyed distinct inside
  · intro outcome
    have inside : (groupKey configuration (failedRun good ⟨0, 0, false⟩),
        failing.map (failedRun good)) ∈ sweepBlocks configuration failing :=
      List.mem_flatMap.mpr ⟨good, picked, by simp⟩
    exact Grouping.filter_key_blocks keyed distinct inside

theorem mem_failingSweeps {failing : List Outcome} {run : RunRow} :
    run ∈ (failingSweeps failing).rows ↔ ∃ good ∈ goodPicks,
      run ∈ repeated good ∨ ∃ outcome ∈ failing, failedRun good outcome = run := by
  simp [failingSweeps]

theorem sustains_goodPicks {configuration : List String} {failing : List Outcome} {good : RunRow}
    (picked : good ∈ goodPicks) : Sustains configuration (failingSweeps failing).rows good := by
  apply Sustains.of_repeated (repetitionsOf_failingSweeps _ _ picked).1
  simp only [goodPicks, List.mem_cons, List.not_mem_nil, or_false] at picked
  rcases picked with rfl | rfl | rfl
  · rfl
  · rfl
  · rfl

private theorem not_sustains_failedRun {configuration : List String} {failing : List Outcome}
    (fails : Fails failing) {good : RunRow} (picked : good ∈ goodPicks) (outcome : Outcome) :
    ¬ Sustains configuration (failingSweeps failing).rows (failedRun good outcome) := by
  intro sustains
  have group := (repetitionsOf_failingSweeps configuration failing picked).2 outcome
  have length := sustains.length
  have sustainable := sustains.sustainable
  rw [group] at length sustainable
  apply fails
  constructor
  · simpa using length
  · intro other member
    exact sustainable (failedRun good other) (List.mem_map_of_mem member)

theorem claimPopulation_failingSweeps (failing : List Outcome) :
    claimPopulation (failingSweeps failing) "raw" = .ok (failingSweeps failing).rows := by
  have eligible : ∀ good ∈ goodPicks,
      good.campaign = "raw" ∧ good.topology ≠ "local_loopback" ∧ good.runValid := by
    simp [goodPicks, goodRun]
  apply claimPopulation_eq_rows (by simp [failingSweeps])
  intro run member
  rcases mem_failingSweeps.mp member with ⟨good, picked, inside | ⟨outcome, -, rfl⟩⟩
  · rcases of_mem_repeated inside with ⟨runId, rfl⟩
    exact eligible good picked
  · exact eligible good picked

theorem mem_repeated_of_sustains {configuration : List String} {failing : List Outcome}
    (fails : Fails failing) {run : RunRow} (member : run ∈ (failingSweeps failing).rows)
    (sustains : Sustains configuration (failingSweeps failing).rows run) :
    ∃ good ∈ goodPicks, run ∈ repeated good := by
  rcases mem_failingSweeps.mp member with ⟨good, picked, inside | ⟨outcome, -, rfl⟩⟩
  · exact ⟨good, picked, inside⟩
  · exact absurd sustains (not_sustains_failedRun fails picked outcome)

private theorem receivers_goodPicks : (goodPicks.map RunRow.receiver).Nodup := by
  simp [goodPicks, goodRun]

private theorem exists_selection_failingSweeps {failing : List Outcome} (fails : Fails failing) :
    ∃ baseline batched threaded,
      selectRepresentatives (failingSweeps failing) "raw" none = .ok [baseline, batched, threaded] ∧
      Summarizes (failingSweeps failing).configuration (failingSweeps failing).rows baseline
        (goodRun "baseline" 1 100000) ∧
      Summarizes (failingSweeps failing).configuration (failingSweeps failing).rows batched
        (goodRun "batched" 64 150000) ∧
      Summarizes (failingSweeps failing).configuration (failingSweeps failing).rows threaded
        (goodRun "threaded" 64 150000) := by
  apply exists_selection (claimPopulation_failingSweeps failing) _ ⟨rfl, rfl, rfl⟩
  · exact fun pick picked => sustains_goodPicks picked
  · intro pick picked run member sustains receiver
    rcases mem_repeated_of_sustains fails member sustains with ⟨good, goodPicked, inside⟩
    have same : good = pick := by
      apply List.inj_on_of_nodup_map receivers_goodPicks goodPicked picked
      rcases of_mem_repeated inside with ⟨runId, rfl⟩
      exact receiver
    rw [← same]
    exact groupKey_of_mem_repeated inside
  · simp [goodRun]
  · intro run member sustains
    rcases mem_repeated_of_sustains fails member sustains with ⟨good, picked, inside⟩
    rcases of_mem_repeated inside with ⟨runId, rfl⟩
    simp only [goodPicks, List.mem_cons, List.not_mem_nil, or_false] at picked
    rcases picked with rfl | rfl | rfl
    · simp [goodRun]
    · simp [goodRun]
    · simp [goodRun]

/-- The profile of receivers that save system calls and cycles. -/
def claimProfiles : List ProfileRow :=
  [⟨"baseline", some 1, some 1, some 6000⟩, ⟨"batched", some 64, some (1 / 8), some 4000⟩,
    ⟨"threaded", some 64, some (1 / 8), some 9000⟩]

theorem values_of_good {configuration : List String} {failing : List Outcome}
    {row : SustainableGroup} {good : RunRow} (picked : good ∈ goodPicks)
    (summary : Summarizes configuration (failingSweeps failing).rows row good) :
    row.processedPpsMedian = good.processedPps ∧ row.processedPpsMin = good.processedPps ∧
      row.processedPpsMax = good.processedPps ∧
      row.applicationLossPctMax = good.applicationLossPct := by
  have group := (repetitionsOf_failingSweeps configuration failing picked).1
  have processed : ∀ value ∈ (repeated good).map RunRow.processedPps, value = good.processedPps := by
    simp [repeated]
  have loss : ∀ value ∈ (repeated good).map RunRow.applicationLossPct,
      value = good.applicationLossPct := by
    simp [repeated]
  exact ⟨processed _ (group ▸ summary.median), processed _ (group ▸ summary.slowest),
    processed _ (group ▸ summary.fastest), loss _ (group ▸ summary.loss)⟩

private theorem exists_repetition (configuration : List String) (failing : List Outcome)
    {good : RunRow} (picked : good ∈ goodPicks) :
    ∃ run ∈ (failingSweeps failing).rows,
      groupKey configuration good = groupKey configuration run := by
  refine ⟨{ good with runId := s!"{good.runId}-r{0 + 1}" }, ?_, rfl⟩
  apply mem_failingSweeps.mpr
  refine ⟨good, picked, Or.inl ?_⟩
  apply List.mem_map_of_mem
  simp [requiredRepetitions]

theorem above_failedRun {configuration : List String} {good : RunRow} (picked : good ∈ goodPicks)
    (outcome : Outcome) : Above configuration good (failedRun good outcome) := by
  refine ⟨rfl, ?_⟩
  simp only [goodPicks, List.mem_cons, List.not_mem_nil, or_false] at picked
  rcases picked with rfl | rfl | rfl
  · simp [goodRun, failedRun]
  · simp [goodRun, failedRun]
  · simp [goodRun, failedRun]

theorem saturated_failingSweeps {configuration : List String} {failing : List Outcome}
    (tested : failing ≠ []) {row : SustainableGroup} {good : RunRow} (picked : good ∈ goodPicks)
    (summary : Summarizes configuration (failingSweeps failing).rows row good) :
    row.saturated := by
  rcases exists_repetition configuration failing picked with ⟨run, inData, keyed⟩
  rcases List.exists_mem_of_ne_nil failing tested with ⟨outcome, member⟩
  have rate : good.requestedRatePps = run.requestedRatePps := (groupKey_eq_iff.mp keyed).2.2.1
  have workload : workloadKey configuration good = workloadKey configuration run := by
    rcases groupKey_eq_iff.mp keyed with ⟨receiver, batchSize, -, agree⟩
    exact workloadKey_eq_iff.mpr ⟨receiver, batchSize, agree⟩
  have above : Above configuration good (failedRun good outcome) := above_failedRun picked outcome
  have failed : failedRun good outcome ∈ (failingSweeps failing).rows :=
    mem_failingSweeps.mpr ⟨good, picked, Or.inr ⟨outcome, member, rfl⟩⟩
  rw [(summary.of_groupKey keyed).saturated, decide_eq_true_eq, saturated_iff inData]
  refine ⟨failedRun good outcome, failed, ?_, ?_⟩
  · rw [← workload]
    exact above.1
  · rw [← rate]
    exact above.2

theorem profileMedians_claimProfiles :
    profileMedians claimProfiles "baseline" = some ⟨some 1, some 1, some 6000⟩ ∧
      profileMedians claimProfiles "batched" = some ⟨some 64, some (1 / 8), some 4000⟩ := by
  decide +kernel

private theorem profileBlockers_of_medians {runs : PerRun} {profiles : List ProfileRow}
    {baseline batched : SustainableGroup}
    (medians : profileMedians profiles "baseline" = some ⟨some 1, some 1, some 6000⟩ ∧
      profileMedians profiles "batched" = some ⟨some 64, some (1 / 8), some 4000⟩)
    (single : baseline.batchSize = 1) (batch : batched.batchSize = 64) :
    profileBlockers runs profiles baseline batched "batched" = [] := by
  have one : truncate 1 = 1 := by decide +kernel
  have sixtyFour : truncate 64 = 64 := by decide +kernel
  have calls : ¬ (1 / 8 : ℚ) > maxCandidateSyscallFraction * 1 := by decide +kernel
  have cycles : ¬ (4000 : ℚ) ≥ 6000 := by decide +kernel
  simp only [profileBlockers, medians.1, medians.2, mechanismBlockers, batchBlockers,
    syscallBlockers, cycleBlockers, single, batch, one, sixtyFour]
  rw [if_neg calls, if_neg cycles]
  simp

theorem exists_claim {failing : List Outcome} {profiles : List ProfileRow}
    (medians : profileMedians profiles "baseline" = some ⟨some 1, some 1, some 6000⟩ ∧
      profileMedians profiles "batched" = some ⟨some 64, some (1 / 8), some 4000⟩)
    (fails : Fails failing) (tested : failing ≠ []) :
    ∃ selected rows row,
      selectRepresentatives (failingSweeps failing) "raw" none = .ok selected ∧
      generate (failingSweeps failing) profiles "raw" none = .ok rows ∧ row ∈ rows ∧
      row.candidate = "batched" ∧ row.claimPasses := by
  rcases exists_selection_failingSweeps fails with
    ⟨baseline, batched, threaded, succeeds, first, second, third⟩
  have firstValues := values_of_good (by simp [goodPicks]) first
  have secondValues := values_of_good (by simp [goodPicks]) second
  have firstSaturated := saturated_failingSweeps tested (by simp [goodPicks]) first
  have secondSaturated := saturated_failingSweeps tested (by simp [goodPicks]) second
  have foundBaseline : representativeOf [baseline, batched, threaded] "baseline" = .ok baseline := by
    simp [representativeOf, first.receiver, goodRun]
  have foundBatched : representativeOf [baseline, batched, threaded] "batched" = .ok batched := by
    simp [representativeOf, first.receiver, second.receiver, goodRun]
  have foundThreaded :
      representativeOf [baseline, batched, threaded] "threaded" = .ok threaded := by
    simp [representativeOf, first.receiver, second.receiver, third.receiver, goodRun]
  have divisible : baseline.processedPpsMedian ≠ 0 := by
    rw [firstValues.1]
    simp [goodRun]
  have unblocked : throughputBlockers baseline batched
      (batched.processedPpsMedian / baseline.processedPpsMedian) = [] := by
    have faster : ¬ (150000 / 100000 : ℚ) < minImprovementRatio := by decide +kernel
    have apart : ¬ (150000 : ℚ) ≤ 100000 := by decide +kernel
    have lossless : ¬ (0 : ℚ) > maxApplicationLossPct := by decide +kernel
    simp [throughputBlockers, rowBlockers, first.repetitions, second.repetitions, firstSaturated,
      secondSaturated, firstValues, secondValues, goodRun, lossless, faster, apart]
  rcases exists_evidence (failingSweeps failing) profiles "raw" foundBatched divisible with
    ⟨row, computed⟩
  rcases exists_evidence (failingSweeps failing) profiles "raw" foundThreaded divisible with
    ⟨other, otherComputed⟩
  rcases verdicts_of_evidence computed with ⟨named, -, candidate, foundCandidate, -, verdict⟩
  rw [foundBatched] at foundCandidate
  cases foundCandidate
  have generated : generate (failingSweeps failing) profiles "raw" none = .ok [row, other] :=
    (generate_eq_ok_iff succeeds).mpr
      ⟨baseline, row, other, foundBaseline, computed, otherComputed, rfl⟩
  refine ⟨_, _, row, succeeds, generated, List.mem_cons_self, named, verdict.mpr ⟨unblocked, ?_⟩⟩
  exact profileBlockers_of_medians medians first.batchSize second.batchSize

theorem lostByReceiver_failedRun {good : RunRow} {outcome : Outcome} :
    LostByReceiver (failedRun good outcome) ↔ outcome.Lost := by
  simp only [LostByReceiver, Outcome.Lost, failedRun]
  constructor
  · rintro ⟨offered, lost⟩
    exact ⟨by linarith, lost⟩
  · rintro ⟨offered, lost⟩
    exact ⟨by push_cast; linarith, lost⟩

private theorem saturationIsLoss_failingSweeps {failing : List Outcome} (fails : Fails failing)
    (lost : ∃ outcome ∈ failing, outcome.Lost) (configuration : List String) :
    SaturationIsLoss configuration (failingSweeps failing).rows := by
  intro run member sustains _ _
  rcases lost with ⟨outcome, inside, lost⟩
  rcases mem_repeated_of_sustains fails member sustains with ⟨good, picked, repetition⟩
  have failed : failedRun good outcome ∈ (failingSweeps failing).rows :=
    mem_failingSweeps.mpr ⟨good, picked, Or.inr ⟨outcome, inside, rfl⟩⟩
  refine ⟨failedRun good outcome, failed, ?_, lostByReceiver_failedRun.mpr lost⟩
  rcases of_mem_repeated repetition with ⟨runId, rfl⟩
  exact above_failedRun picked outcome

private theorem not_receiverLimited {configuration : List String} {failing : List Outcome}
    (unlost : ∀ outcome ∈ failing, ¬ outcome.Lost) (row : SustainableGroup) :
    ¬ ReceiverLimited configuration (failingSweeps failing).rows row := by
  rintro ⟨run, member, -, -, -, -, lost⟩
  rcases mem_failingSweeps.mp member with ⟨good, picked, inside | ⟨outcome, inside, rfl⟩⟩
  · have lossless : good.applicationLossPct = 0 := by
      simp only [goodPicks, List.mem_cons, List.not_mem_nil, or_false] at picked
      rcases picked with rfl | rfl | rfl
      · rfl
      · rfl
      · rfl
    rcases of_mem_repeated inside with ⟨runId, rfl⟩
    have exceeded := lost.2
    rw [lossless] at exceeded
    exact absurd exceeded (by decide +kernel)
  · exact unlost outcome inside (lostByReceiver_failedRun.mp lost)

theorem not_claimsAreLimited {failing : List Outcome} (fails : Fails failing)
    (tested : failing ≠ []) (unlost : ∀ outcome ∈ failing, ¬ outcome.Lost) :
    ¬ ClaimsAreLimited (failingSweeps failing) claimProfiles "raw" none
      (failingSweeps failing).rows := by
  intro limited
  rcases exists_claim profileMedians_claimProfiles fails tested with
    ⟨selected, rows, row, succeeds, generated, member, -, passes⟩
  rcases (generate_eq_ok_iff succeeds).mp generated with ⟨baseline, _, _, found, -⟩
  exact not_receiverLimited unlost baseline
    (limited selected rows succeeds generated row member passes "baseline" (by simp) baseline found)

private theorem outcomes_failingSweeps {configuration : List String} {failing : List Outcome}
    {run : RunRow} (member : run ∈ (failingSweeps failing).rows)
    (unsustained : ¬ Sustains configuration (failingSweeps failing).rows run) :
    (repetitionsOf configuration (failingSweeps failing).rows run).map outcomeOf = failing := by
  rcases mem_failingSweeps.mp member with ⟨good, picked, inside | ⟨outcome, -, rfl⟩⟩
  · have keyed : groupKey configuration run = groupKey configuration good :=
      groupKey_of_mem_repeated inside
    exact absurd ((sustains_goodPicks picked).of_groupKey keyed.symm) unsustained
  · have same : ∀ outcome, outcomeOf (failedRun good outcome) = outcome := by
      intro outcome
      simp [outcomeOf, failedRun]
    rw [(repetitionsOf_failingSweeps configuration failing picked).2, List.map_map]
    calc failing.map (outcomeOf ∘ failedRun good) = failing.map id :=
          List.map_congr_left fun outcome _ => same outcome
      _ = failing := List.map_id failing

/-- Claims are limited by the receivers where saturation means loss; and for
every other way to fail a rate there is a table whose rates all fail that way
and whose claim is not. -/
theorem claims_are_limited_when_saturation_is_loss (runs : PerRun) (campaign : String)
    (data : List RunRow) (failing : List Outcome) :
    (claimPopulation runs campaign = .ok data → SaturationIsLoss runs.configuration data →
      ∀ (profiles : List ProfileRow) (workNs : Option Int),
        ClaimsAreLimited runs profiles campaign workNs data) ∧
    (Fails failing → failing ≠ [] → (∀ outcome ∈ failing, ¬ outcome.Lost) →
      ∃ (runs : PerRun) (campaign : String) (data : List RunRow) (profiles : List ProfileRow),
        claimPopulation runs campaign = .ok data ∧
        (∀ run ∈ data, ¬ Sustains runs.configuration data run →
          (repetitionsOf runs.configuration data run).map outcomeOf = failing) ∧
        ¬ ClaimsAreLimited runs profiles campaign none data) := by
  constructor
  · intro population loss profiles workNs
    exact claims_are_limited population loss profiles workNs
  · intro fails tested unlost
    exact ⟨failingSweeps failing, "raw", (failingSweeps failing).rows, claimProfiles,
      claimPopulation_failingSweeps failing, fun run => outcomes_failingSweeps,
      not_claimsAreLimited fails tested unlost⟩

/-- The receiver lost 9 percent of the higher rate, in every repetition. -/
def lostRepetitions : List Outcome := List.replicate 5 ⟨1, 9, false⟩

theorem lost_sweeps_are_limited :
    (∃ rows row, generate (failingSweeps lostRepetitions) claimProfiles "raw" none = .ok rows ∧
      row ∈ rows ∧ row.claimPasses) ∧
      ClaimsAreLimited (failingSweeps lostRepetitions) claimProfiles "raw" none
        (failingSweeps lostRepetitions).rows := by
  have fails : Fails lostRepetitions := by simp [Fails, lostRepetitions]
  have lost : ∃ outcome ∈ lostRepetitions, outcome.Lost :=
    ⟨⟨1, 9, false⟩, by simp [lostRepetitions], by decide +kernel, by decide +kernel⟩
  constructor
  · rcases exists_claim profileMedians_claimProfiles fails (by simp [lostRepetitions]) with
      ⟨selected, rows, row, -, generated, member, -, passes⟩
    exact ⟨rows, row, generated, member, passes⟩
  · exact (claims_are_limited_when_saturation_is_loss _ _ _ lostRepetitions).1
      (claimPopulation_failingSweeps lostRepetitions)
      (saturationIsLoss_failingSweeps fails lost _) _ _

/-- The sender offered only 75 percent of the higher rate and nothing was lost. -/
def unofferedRepetitions : List Outcome := List.replicate 5 ⟨3 / 4, 0, false⟩

theorem unoffered_sweeps_yield_a_claim :
    claimPopulation (failingSweeps unofferedRepetitions) "raw" =
        .ok (failingSweeps unofferedRepetitions).rows ∧
      ¬ ClaimsAreLimited (failingSweeps unofferedRepetitions) claimProfiles "raw" none
        (failingSweeps unofferedRepetitions).rows := by
  have fails : Fails unofferedRepetitions := by simp [Fails, unofferedRepetitions]
  have unlost : ∀ outcome ∈ unofferedRepetitions, ¬ outcome.Lost := by
    intro outcome member
    rw [List.eq_of_mem_replicate member]
    rintro ⟨offered, -⟩
    exact absurd offered (by decide +kernel)
  exact ⟨claimPopulation_failingSweeps _,
    not_claimsAreLimited fails (by simp [unofferedRepetitions]) unlost⟩

end NetLatencyLab.ClaimEvidence
