import NetLatencyLab.Analysis.OverlapHandoff
import NetLatencyLab.Analysis.Saturation

/-! # Batch sizes of the profiles

`_mechanism_blockers` does not look at the profiled batch sizes one by one. It
cuts their median to a whole number, and leaves out the comparison where no row
has a size. -/

namespace NetLatencyLab.ClaimEvidence

open ProfileTools

def ProfiledAsMeasured (profiles : List ProfileRow) (selected : SustainableGroup) : Prop :=
  ∀ profile ∈ profiles, profile.receiver = selected.receiver →
    profile.batchSize = some (selected.batchSize : ℚ)

/-- A mechanism passes only where both configurations were profiled as measured. -/
def PassingIsProfiled (runs : PerRun) (profiles : List ProfileRow) (campaign : String)
    (workNs : Option Int) : Prop :=
  ∀ selected rows, selectRepresentatives runs campaign workNs = .ok selected →
    generate runs profiles campaign workNs = .ok rows →
      ∀ row ∈ rows, row.profileMechanismPasses → ∀ receiver ∈ ["baseline", row.candidate],
        ∀ choice, representativeOf selected receiver = .ok choice →
          ProfiledAsMeasured profiles choice

/-- Every row of the receiver has the same whole batch size. -/
def OneBatchSize (profiles : List ProfileRow) (receiver : String) : Prop :=
  ∃ size : Int, ∀ profile ∈ profiles, profile.receiver = receiver →
    profile.batchSize = some (size : ℚ)

/-- A column of the profile rows of a receiver. -/
def profiled (cell : ProfileRow → Option ℚ) (profiles : List ProfileRow) (receiver : String) :
    List (Option ℚ) :=
  (profiles.filter fun row => row.receiver = receiver).map cell

/-- What the gate asks of the sizes: their median, if there is one, is cut to `size`. -/
def MedianAgrees (profiles : List ProfileRow) (receiver : String) (size : Int) : Prop :=
  ∀ middle, medianOf (profiled ProfileRow.batchSize profiles receiver) = some middle →
    truncate middle = size

def MediansRelate (cell : ProfileRow → Option ℚ) (profiles : List ProfileRow) (receiver : String)
    (relation : ℚ → ℚ → Prop) : Prop :=
  ∃ base candidate, medianOf (profiled cell profiles "baseline") = some base ∧
    medianOf (profiled cell profiles receiver) = some candidate ∧ relation base candidate

/-- The counters show what the candidate claims. -/
structure ShowsReduction (profiles : List ProfileRow) (receiver : String) : Prop where
  calls : MediansRelate ProfileRow.receiveSyscallsPerPacket profiles receiver
    fun base candidate => candidate ≤ maxCandidateSyscallFraction * base
  cycles : receiver ≠ "threaded" → MediansRelate ProfileRow.cyclesPerPacket profiles receiver
    fun base candidate => candidate < base

/-- The selected pairs that only their profiled batch sizes can keep from passing. -/
structure Contends (runs : PerRun) (profiles : List ProfileRow) (campaign : String)
    (workNs : Option Int) (baseline candidate : SustainableGroup) (receiver : String) : Prop where
  known : receiver ∈ ["batched", "threaded"]
  selected : ∃ selected, selectRepresentatives runs campaign workNs = .ok selected ∧
    representativeOf selected "baseline" = .ok baseline ∧
    representativeOf selected receiver = .ok candidate
  divisible : baseline.processedPpsMedian ≠ 0
  reduction : ShowsReduction profiles receiver
  overlap : receiver = "threaded" → QuietHandoff candidate runs

theorem profileMedians_eq_some {profiles : List ProfileRow} {receiver : String}
    {medians : ProfileMedians} (present : profileMedians profiles receiver = some medians) :
    medians.batchSize = medianOf (profiled ProfileRow.batchSize profiles receiver) ∧
      medians.receiveSyscallsPerPacket =
        medianOf (profiled ProfileRow.receiveSyscallsPerPacket profiles receiver) ∧
      medians.cyclesPerPacket =
        medianOf (profiled ProfileRow.cyclesPerPacket profiles receiver) := by
  rw [profileMedians] at present
  split at present
  · cases present
  · cases present
    exact ⟨rfl, rfl, rfl⟩

theorem exists_profileMedians {cell : ProfileRow → Option ℚ} {profiles : List ProfileRow}
    {receiver : String} {middle : ℚ}
    (found : medianOf (profiled cell profiles receiver) = some middle) :
    ∃ medians, profileMedians profiles receiver = some medians := by
  rw [profileMedians]
  by_cases empty : (profiles.filter fun row => row.receiver = receiver) = []
  · rw [profiled, empty] at found
    cases found
  · exact ⟨_, if_neg empty⟩

theorem syscallBlockers_eq_nil_iff {base candidate : ProfileMedians} :
    syscallBlockers base candidate = [] ↔
      ∃ first second, base.receiveSyscallsPerPacket = some first ∧
        candidate.receiveSyscallsPerPacket = some second ∧
        second ≤ maxCandidateSyscallFraction * first := by
  rw [syscallBlockers]
  cases base.receiveSyscallsPerPacket with
  | none => simp
  | some first =>
      cases candidate.receiveSyscallsPerPacket with
      | none => simp
      | some second => simp

theorem cycleBlockers_eq_nil_iff {base candidate : ProfileMedians} :
    cycleBlockers base candidate = [] ↔
      ∃ first second, base.cyclesPerPacket = some first ∧
        candidate.cyclesPerPacket = some second ∧ second < first := by
  rw [cycleBlockers]
  cases base.cyclesPerPacket with
  | none => simp
  | some first =>
      cases candidate.cyclesPerPacket with
      | none => simp
      | some second => simp

theorem showsReduction_iff {profiles : List ProfileRow} {receiver : String} :
    ShowsReduction profiles receiver ↔
      ∃ base candidate, profileMedians profiles "baseline" = some base ∧
        profileMedians profiles receiver = some candidate ∧ syscallBlockers base candidate = [] ∧
        (receiver ≠ "threaded" → cycleBlockers base candidate = []) := by
  constructor
  · intro reduction
    rcases reduction.calls with ⟨first, second, foundFirst, foundSecond, fewer⟩
    rcases exists_profileMedians foundFirst with ⟨base, baseline⟩
    rcases exists_profileMedians foundSecond with ⟨candidate, profile⟩
    have baseCells := profileMedians_eq_some baseline
    have cells := profileMedians_eq_some profile
    refine ⟨base, candidate, baseline, profile, ?_, ?_⟩
    · rw [syscallBlockers_eq_nil_iff, baseCells.2.1, cells.2.1]
      exact ⟨first, second, foundFirst, foundSecond, fewer⟩
    · intro other
      rw [cycleBlockers_eq_nil_iff, baseCells.2.2, cells.2.2]
      exact reduction.cycles other
  · intro clear
    rcases clear with ⟨base, candidate, baseline, profile, calls, cycles⟩
    have baseCells := profileMedians_eq_some baseline
    have cells := profileMedians_eq_some profile
    rw [syscallBlockers_eq_nil_iff, baseCells.2.1, cells.2.1] at calls
    rw [cycleBlockers_eq_nil_iff, baseCells.2.2, cells.2.2] at cycles
    exact ⟨calls, cycles⟩

theorem batchBlockers_eq_nil_iff {name : String} {profile : ProfileMedians}
    {selected : SustainableGroup} :
    batchBlockers name profile selected = [] ↔
      ∀ middle, profile.batchSize = some middle → truncate middle = selected.batchSize := by
  rw [batchBlockers]
  cases profile.batchSize with
  | none => simp
  | some middle => simp

theorem profileBlockers_eq_nil_iff {runs : PerRun} {profiles : List ProfileRow}
    {baseline candidate : SustainableGroup} {receiver : String} :
    profileBlockers runs profiles baseline candidate receiver = [] ↔
      ShowsReduction profiles receiver ∧
        (receiver = "threaded" → QuietHandoff candidate runs) ∧
        MedianAgrees profiles "baseline" baseline.batchSize ∧
        MedianAgrees profiles receiver candidate.batchSize := by
  have joined : ∀ base profile : ProfileMedians,
      mechanismBlockers base profile baseline candidate receiver runs = [] ↔
        (batchBlockers "baseline" base baseline = [] ∧
          batchBlockers "candidate" profile candidate = []) ∧
        syscallBlockers base profile = [] ∧
        (receiver = "threaded" → overlapBlockers candidate runs = []) ∧
        (receiver ≠ "threaded" → cycleBlockers base profile = []) := by
    intro base profile
    rw [mechanismBlockers, List.append_eq_nil_iff, List.append_eq_nil_iff, List.append_eq_nil_iff,
      and_assoc]
    by_cases threaded : receiver = "threaded"
    · simp [threaded]
    · simp [threaded]
  constructor
  · intro unblocked
    rw [profileBlockers] at unblocked
    split at unblocked
    next base profile first second =>
      rcases (joined base profile).mp unblocked with ⟨⟨baseSizes, sizes⟩, calls, overlap, cycles⟩
      rw [batchBlockers_eq_nil_iff, (profileMedians_eq_some first).1] at baseSizes
      rw [batchBlockers_eq_nil_iff, (profileMedians_eq_some second).1] at sizes
      have reduction := showsReduction_iff.mpr ⟨base, profile, first, second, calls, cycles⟩
      exact ⟨reduction, fun threaded => overlapBlockers_eq_nil_iff.mp (overlap threaded), baseSizes,
        sizes⟩
    · cases unblocked
  · intro clear
    rcases clear with ⟨reduction, overlap, baseSizes, sizes⟩
    rcases showsReduction_iff.mp reduction with ⟨base, profile, first, second, calls, cycles⟩
    rw [profileBlockers, first, second]
    apply (joined base profile).mpr
    rw [batchBlockers_eq_nil_iff, batchBlockers_eq_nil_iff, (profileMedians_eq_some first).1,
      (profileMedians_eq_some second).1]
    exact ⟨⟨baseSizes, sizes⟩, calls, fun threaded => overlapBlockers_eq_nil_iff.mpr
      (overlap threaded), cycles⟩

/-! ## One size -/

theorem truncate_intCast (size : Int) : truncate (size : ℚ) = size := by
  simp [truncate]

theorem OneBatchSize.eq_of_medianAgrees {profiles : List ProfileRow} {receiver : String}
    {measured : Int} (oneSize : OneBatchSize profiles receiver)
    (agrees : MedianAgrees profiles receiver measured) :
    ∀ profile ∈ profiles, profile.receiver = receiver →
      profile.batchSize = some (measured : ℚ) := by
  rcases oneSize with ⟨size, sizes⟩
  intro profile member ofReceiver
  have listed : some (size : ℚ) ∈ profiled ProfileRow.batchSize profiles receiver := by
    apply List.mem_map.mpr
    refine ⟨profile, ?_, sizes profile member ofReceiver⟩
    exact List.mem_filter.mpr ⟨member, decide_eq_true ofReceiver⟩
  have present : (size : ℚ) ∈ (profiled ProfileRow.batchSize profiles receiver).filterMap id :=
    List.mem_filterMap.mpr ⟨_, listed, rfl⟩
  have same : ∀ other ∈ (profiled ProfileRow.batchSize profiles receiver).filterMap id,
      other = (size : ℚ) := by
    intro other inside
    rcases List.mem_filterMap.mp inside with ⟨cell, cellMember, filled⟩
    rcases List.mem_map.mp cellMember with ⟨row, rowMember, sized⟩
    rcases List.mem_filter.mp rowMember with ⟨rowInside, rowReceiver⟩
    have known := sizes row rowInside (of_decide_eq_true rowReceiver)
    rw [← sized, known] at filled
    exact (Option.some.inj filled).symm
  have middle : medianOf (profiled ProfileRow.batchSize profiles receiver) = some (size : ℚ) := by
    rw [medianOf, if_neg (List.ne_nil_of_mem present),
      median_eq_of_forall_eq (List.ne_nil_of_mem present) same]
  have cut := agrees _ middle
  rw [truncate_intCast] at cut
  rw [sizes profile member ofReceiver, cut]

theorem exists_medianAgrees (profiles : List ProfileRow) (receiver : String) :
    ∃ size, MedianAgrees profiles receiver size := by
  cases middle : medianOf (profiled ProfileRow.batchSize profiles receiver) with
  | none =>
      refine ⟨0, ?_⟩
      intro other present
      rw [middle] at present
      cases present
  | some value =>
      refine ⟨truncate value, ?_⟩
      intro other present
      rw [middle] at present
      cases present
      rfl

/-! ## Passing mechanisms -/

theorem representativeOf_selected {runs : PerRun} {campaign : String} {workNs : Option Int}
    {selected : List SustainableGroup}
    (succeeds : selectRepresentatives runs campaign workNs = .ok selected) (receiver : String)
    (known : receiver ∈ ["baseline", "batched", "threaded"]) :
    ∃ choice, representativeOf selected receiver = .ok choice := by
  rcases selectRepresentatives_eq_ok_iff.mp succeeds with ⟨listed, passing, baseline, batched,
    threaded, groups, filtered, first, second, third, rfl, -⟩
  have ofBaseline := (representative_eq_ok first).2.1
  have ofBatched := (representative_eq_ok second).2.1
  have ofThreaded := (representative_eq_ok third).2.1
  simp only [List.mem_cons, List.not_mem_nil, or_false] at known
  rcases known with rfl | rfl | rfl
  · exact ⟨baseline, by simp [representativeOf, ofBaseline]⟩
  · exact ⟨batched, by simp [representativeOf, ofBaseline, ofBatched]⟩
  · exact ⟨threaded, by simp [representativeOf, ofBaseline, ofBatched, ofThreaded]⟩

theorem evidence_of_generate {runs : PerRun} {profiles : List ProfileRow} {campaign : String}
    {workNs : Option Int} {selected : List SustainableGroup} {baseline : SustainableGroup}
    {rows : List Evidence} {row : Evidence}
    (succeeds : selectRepresentatives runs campaign workNs = .ok selected)
    (foundBaseline : representativeOf selected "baseline" = .ok baseline)
    (generated : generate runs profiles campaign workNs = .ok rows) (member : row ∈ rows) :
    row.candidate ∈ ["batched", "threaded"] ∧
      evidence runs profiles campaign selected baseline row.candidate = .ok row := by
  rcases (generate_eq_ok_iff succeeds).mp generated with
    ⟨other, batched, threaded, foundOther, first, second, rfl⟩
  rw [foundBaseline] at foundOther
  cases foundOther
  simp only [List.mem_cons, List.not_mem_nil, or_false] at member
  rcases member with rfl | rfl
  · rw [(verdicts_of_evidence first).1]
    exact ⟨by simp, first⟩
  · rw [(verdicts_of_evidence second).1]
    exact ⟨by simp, second⟩

theorem exists_passing_iff {runs : PerRun} {profiles : List ProfileRow} {campaign : String}
    {workNs : Option Int} {selected : List SustainableGroup} {baseline candidate : SustainableGroup}
    {receiver : String} (succeeds : selectRepresentatives runs campaign workNs = .ok selected)
    (foundBaseline : representativeOf selected "baseline" = .ok baseline)
    (found : representativeOf selected receiver = .ok candidate) :
    (∃ rows row, generate runs profiles campaign workNs = .ok rows ∧ row ∈ rows ∧
        row.candidate = receiver ∧ row.profileMechanismPasses) ↔
      Contends runs profiles campaign workNs baseline candidate receiver ∧
        MedianAgrees profiles "baseline" baseline.batchSize ∧
        MedianAgrees profiles receiver candidate.batchSize := by
  constructor
  · intro passing
    rcases passing with ⟨rows, row, generated, member, named, passes⟩
    subst named
    rcases evidence_of_generate succeeds foundBaseline generated member with ⟨known, computed⟩
    rcases verdicts_of_evidence computed with ⟨-, divisible, choice, foundChoice, mechanism, -⟩
    rw [found] at foundChoice
    cases foundChoice
    rcases profileBlockers_eq_nil_iff.mp (mechanism.mp passes) with
      ⟨reduction, overlap, baseSizes, sizes⟩
    exact
      ⟨{ known := known
         selected := ⟨selected, succeeds, foundBaseline, found⟩
         divisible := divisible
         reduction := reduction
         overlap := overlap }, baseSizes, sizes⟩
  · intro clear
    rcases clear with ⟨contends, baseSizes, sizes⟩
    have unblocked : profileBlockers runs profiles baseline candidate receiver = [] :=
      profileBlockers_eq_nil_iff.mpr ⟨contends.reduction, contends.overlap, baseSizes, sizes⟩
    rcases representativeOf_selected succeeds "batched" (by simp) with ⟨batched, foundBatched⟩
    rcases representativeOf_selected succeeds "threaded" (by simp) with ⟨threaded, foundThreaded⟩
    rcases exists_evidence runs profiles campaign foundBatched contends.divisible with
      ⟨first, firstComputed⟩
    rcases exists_evidence runs profiles campaign foundThreaded contends.divisible with
      ⟨second, secondComputed⟩
    have generated : generate runs profiles campaign workNs = .ok [first, second] :=
      (generate_eq_ok_iff succeeds).mpr
        ⟨baseline, first, second, foundBaseline, firstComputed, secondComputed, rfl⟩
    have passes : ∀ {row : Evidence},
        evidence runs profiles campaign selected baseline receiver = .ok row →
          row.profileMechanismPasses := by
      intro row computed
      rcases verdicts_of_evidence computed with ⟨-, -, choice, foundChoice, mechanism, -⟩
      rw [found] at foundChoice
      cases foundChoice
      exact mechanism.mpr unblocked
    have known := contends.known
    simp only [List.mem_cons, List.not_mem_nil, or_false] at known
    rcases known with rfl | rfl
    · exact ⟨_, first, generated, by simp, (verdicts_of_evidence firstComputed).1,
        passes firstComputed⟩
    · exact ⟨_, second, generated, by simp, (verdicts_of_evidence secondComputed).1,
        passes secondComputed⟩

/-- Passing candidates were profiled as measured exactly when those that the
medians let pass have one batch size each, and so has their baseline. -/
theorem passingIsProfiled_iff {runs : PerRun} {profiles : List ProfileRow} {campaign : String}
    {workNs : Option Int} :
    PassingIsProfiled runs profiles campaign workNs ↔
      ∀ baseline candidate receiver,
        Contends runs profiles campaign workNs baseline candidate receiver →
        MedianAgrees profiles "baseline" baseline.batchSize →
        MedianAgrees profiles receiver candidate.batchSize →
          OneBatchSize profiles "baseline" ∧ OneBatchSize profiles receiver := by
  constructor
  · intro profiled baseline candidate receiver contends baseSizes sizes
    rcases contends.selected with ⟨selected, succeeds, foundBaseline, found⟩
    rcases (exists_passing_iff succeeds foundBaseline found).mpr ⟨contends, baseSizes, sizes⟩ with
      ⟨rows, row, generated, member, named, passes⟩
    have measured := profiled selected rows succeeds generated row member passes
    rw [named] at measured
    have first := measured "baseline" (by simp) baseline foundBaseline
    have second := measured receiver (by simp) candidate found
    rw [ProfiledAsMeasured, (representativeOf_eq_ok foundBaseline).2] at first
    rw [ProfiledAsMeasured, (representativeOf_eq_ok found).2] at second
    exact ⟨⟨_, first⟩, ⟨_, second⟩⟩
  · intro oneSize selected rows succeeds generated row member passes receiver compared choice
      foundChoice
    rcases representativeOf_selected succeeds "baseline" (by simp) with ⟨baseline, foundBaseline⟩
    rcases evidence_of_generate succeeds foundBaseline generated member with ⟨known, computed⟩
    rcases representativeOf_selected succeeds _ (List.mem_cons_of_mem "baseline" known) with
      ⟨candidate, found⟩
    rcases (exists_passing_iff succeeds foundBaseline found).mp
      ⟨rows, row, generated, member, rfl, passes⟩ with ⟨contends, baseSizes, sizes⟩
    rcases oneSize baseline candidate row.candidate contends baseSizes sizes with
      ⟨baseOne, candidateOne⟩
    rw [ProfiledAsMeasured, (representativeOf_eq_ok foundChoice).2]
    simp only [List.mem_cons, List.not_mem_nil, or_false] at compared
    rcases compared with rfl | rfl
    · rw [foundBaseline] at foundChoice
      cases foundChoice
      exact baseOne.eq_of_medianAgrees baseSizes
    · rw [found] at foundChoice
      cases foundChoice
      exact candidateOne.eq_of_medianAgrees sizes

/-! ## Measurements at any batch size -/

def measuredPicks (base candidate : Int) : List RunRow :=
  [goodRun "baseline" base 100000, goodRun "batched" candidate 150000,
    goodRun "threaded" candidate 150000]

def measuredAt (base candidate : Int) : PerRun where
  columns := ["topology", "run_valid", "ingress_loss", "spsc_overflow"] ++ configurationKeys
  rows := (measuredPicks base candidate).flatMap repeated

theorem exists_goodRun_of_mem {base candidate : Int} {pick : RunRow}
    (picked : pick ∈ measuredPicks base candidate) :
    ∃ receiver batchSize rate, 0 ≤ rate ∧ pick = goodRun receiver batchSize rate := by
  simp only [measuredPicks, List.mem_cons, List.not_mem_nil, or_false] at picked
  rcases picked with rfl | rfl | rfl
  · exact ⟨_, _, _, by decide, rfl⟩
  · exact ⟨_, _, _, by decide, rfl⟩
  · exact ⟨_, _, _, by decide, rfl⟩

theorem receivers_measuredPicks (base candidate : Int) :
    ((measuredPicks base candidate).map RunRow.receiver).Nodup := by
  simp [measuredPicks, goodRun]

theorem claimPopulation_measuredAt (base candidate : Int) :
    claimPopulation (measuredAt base candidate) "raw" = .ok (measuredAt base candidate).rows := by
  apply claimPopulation_repeated (by simp)
  intro pick picked
  rcases exists_goodRun_of_mem picked with ⟨receiver, batchSize, rate, -, rfl⟩
  simp [goodRun]

theorem repetitionsOf_measuredAt (configuration : List String) {base candidate : Int}
    {pick : RunRow} (picked : pick ∈ measuredPicks base candidate) :
    repetitionsOf configuration (measuredAt base candidate).rows pick = repeated pick := by
  apply repetitionsOf_picks _ picked
  simp [measuredPicks, goodRun, groupKey_eq_iff]

private theorem exists_selection_measuredAt (base candidate : Int) :
    ∃ first second third,
      selectRepresentatives (measuredAt base candidate) "raw" none = .ok [first, second, third] ∧
      Summarizes (measuredAt base candidate).configuration (measuredAt base candidate).rows first
        (goodRun "baseline" base 100000) ∧
      Summarizes (measuredAt base candidate).configuration (measuredAt base candidate).rows second
        (goodRun "batched" candidate 150000) ∧
      Summarizes (measuredAt base candidate).configuration (measuredAt base candidate).rows third
        (goodRun "threaded" candidate 150000) := by
  apply exists_selection (claimPopulation_measuredAt base candidate) _ ⟨rfl, rfl, rfl⟩
  · intro pick picked
    rcases exists_goodRun_of_mem picked with ⟨receiver, batchSize, rate, -, same⟩
    apply Sustains.of_repeated (repetitionsOf_measuredAt _ picked)
    rw [same]
    rfl
  · intro pick picked run member _ receiver
    rcases of_mem_flatMap_repeated member with ⟨other, otherPicked, runId, rfl⟩
    rw [← List.inj_on_of_nodup_map (receivers_measuredPicks _ _) otherPicked picked receiver]
    rfl
  · simp [goodRun]
  · intro run member _
    rcases of_mem_flatMap_repeated member with ⟨pick, picked, runId, rfl⟩
    rcases exists_goodRun_of_mem picked with ⟨receiver, batchSize, rate, positive, rfl⟩
    have carried : (0 : ℚ) ≤ (rate : ℚ) := by exact_mod_cast positive
    exact carried

def repetitionIds (runId : String) : List String :=
  (List.range requiredRepetitions).map fun repetition => s!"{runId}-r{repetition + 1}"

theorem runIds_repeated (run : RunRow) :
    (repeated run).map RunRow.runId = repetitionIds run.runId := by
  simp [repeated, repetitionIds]

private theorem selectedRuns_measuredAt {base candidate : Int} {threaded : SustainableGroup}
    (runIds : threaded.runIds = "|".intercalate
      (((repeated (goodRun "threaded" candidate 150000)).map RunRow.runId).insertionSort (· ≤ ·))) :
    selectedRuns threaded (measuredAt base candidate) =
      repeated (goodRun "threaded" candidate 150000) := by
  have named : identifiers threaded = repetitionIds "threaded" := by
    have split : ("|".intercalate ((repetitionIds "threaded").insertionSort (· ≤ ·))).toList.splitOn
        '|' = (repetitionIds "threaded").map String.toList := by decide +kernel
    have back : ((repetitionIds "threaded").map String.toList).map String.ofList =
        repetitionIds "threaded" := by decide +kernel
    rw [identifiers, runIds, runIds_repeated]
    exact (congrArg (List.map String.ofList) split).trans back
  have others : ∀ receiver ∈ ["baseline", "batched"], ∀ runId ∈ repetitionIds receiver,
      runId ∉ repetitionIds "threaded" := by decide +kernel
  have dropped : ∀ receiver ∈ ["baseline", "batched"], ∀ batchSize rate : Int,
      (repeated (goodRun receiver batchSize rate)).filter
        (fun run => run.runId ∈ identifiers threaded) = [] := by
    intro receiver other batchSize rate
    rw [List.filter_eq_nil_iff]
    intro run inside
    have runId : run.runId ∈ repetitionIds receiver :=
      runIds_repeated (goodRun receiver batchSize rate) ▸ List.mem_map_of_mem inside
    rw [named, decide_eq_true_eq]
    exact others receiver other _ runId
  have kept : (repeated (goodRun "threaded" candidate 150000)).filter
      (fun run => run.runId ∈ identifiers threaded) =
        repeated (goodRun "threaded" candidate 150000) := by
    rw [List.filter_eq_self]
    intro run inside
    rw [named, decide_eq_true_eq]
    exact runIds_repeated (goodRun "threaded" candidate 150000) ▸ List.mem_map_of_mem inside
  rw [selectedRuns, measuredAt, measuredPicks]
  simp only [List.flatMap_cons, List.flatMap_nil, List.filter_append, List.append_nil]
  rw [dropped "baseline" (by simp), dropped "batched" (by simp), kept]
  rfl

private theorem quietHandoff_measuredAt {base candidate : Int} {threaded : SustainableGroup}
    {selected : List SustainableGroup}
    (succeeds : selectRepresentatives (measuredAt base candidate) "raw" none = .ok selected)
    (member : threaded ∈ selected) (ofReceiver : threaded.receiver = "threaded") :
    QuietHandoff threaded (measuredAt base candidate) := by
  have picked : goodRun "threaded" candidate 150000 ∈ measuredPicks base candidate := by
    simp [measuredPicks]
  rcases exists_group_of_selected (claimPopulation_measuredAt base candidate) succeeds member with
    ⟨run, inData, summed⟩
  have group : repetitionsOf (measuredAt base candidate).configuration
      (measuredAt base candidate).rows run = repeated (goodRun "threaded" candidate 150000) := by
    have receiver := (sustainableGroup_eq_some summed).receiver
    rcases of_mem_flatMap_repeated inData with ⟨other, otherPicked, runId, rfl⟩
    have same := List.inj_on_of_nodup_map (receivers_measuredPicks _ _) otherPicked picked
      (receiver.symm.trans ofReceiver)
    rw [same]
    exact repetitionsOf_measuredAt _ picked
  have runIds := runIds_of_sustainableGroup summed
  rw [group] at runIds
  have peaks : ∀ value : RunRow → Option Int,
      (∀ run ∈ repeated (goodRun "threaded" candidate 150000), value run = some 0) →
        PeaksAtZero (repeated (goodRun "threaded" candidate 150000)) value := by
    intro value lossless
    have occupied : repeated (goodRun "threaded" candidate 150000) ≠ [] := by
      simp [repeated, requiredRepetitions]
    rcases List.exists_mem_of_ne_nil _ occupied with ⟨run, inside⟩
    refine ⟨⟨run, inside, lossless run inside⟩, ?_⟩
    intro other otherInside loss present
    rw [lossless other otherInside] at present
    cases present
    exact le_rfl
  have chosen : selectedRuns threaded (measuredAt base candidate) = _ :=
    selectedRuns_measuredAt runIds
  exact
    { matched := by
        rw [chosen]
        simp [repeated]
      ingressColumn := by simp [measuredAt]
      overflowColumn := by simp [measuredAt]
      ingressLoss := by
        rw [chosen]
        apply peaks
        intro run inside
        rcases of_mem_repeated inside with ⟨runId, rfl⟩
        rfl
      spscOverflow := by
        rw [chosen]
        apply peaks
        intro run inside
        rcases of_mem_repeated inside with ⟨runId, rfl⟩
        rfl }

private theorem exists_contends {profiles : List ProfileRow} {receiver : String}
    (known : receiver ∈ ["batched", "threaded"]) (reduction : ShowsReduction profiles receiver)
    (base size : Int) :
    ∃ baseline candidate,
      Contends (measuredAt base size) profiles "raw" none baseline candidate receiver ∧
        baseline.batchSize = base ∧ candidate.batchSize = size := by
  rcases exists_selection_measuredAt base size with
    ⟨baseline, batched, threaded, succeeds, first, second, third⟩
  have divisible : baseline.processedPpsMedian ≠ 0 := by
    have median := first.median
    rw [repetitionsOf_measuredAt _ (by simp [measuredPicks])] at median
    rcases List.mem_map.mp median with ⟨run, inside, same⟩
    rcases of_mem_repeated inside with ⟨runId, rfl⟩
    have moved : (goodRun "baseline" base 100000).processedPps ≠ 0 := by simp [goodRun]
    rw [← same]
    exact moved
  have ofBaseline : baseline.receiver = "baseline" := first.receiver
  have ofBatched : batched.receiver = "batched" := second.receiver
  have ofThreaded : threaded.receiver = "threaded" := third.receiver
  have foundBaseline : representativeOf [baseline, batched, threaded] "baseline" = .ok baseline := by
    simp [representativeOf, ofBaseline]
  simp only [List.mem_cons, List.not_mem_nil, or_false] at known
  rcases known with rfl | rfl
  · have found : representativeOf [baseline, batched, threaded] "batched" = .ok batched := by
      simp [representativeOf, ofBaseline, ofBatched]
    refine ⟨baseline, batched, ?_, first.batchSize, second.batchSize⟩
    exact
      { known := by simp
        selected := ⟨_, succeeds, foundBaseline, found⟩
        divisible := divisible
        reduction := reduction
        overlap := by simp }
  · have found : representativeOf [baseline, batched, threaded] "threaded" = .ok threaded := by
      simp [representativeOf, ofBaseline, ofBatched, ofThreaded]
    refine ⟨baseline, threaded, ?_, first.batchSize, third.batchSize⟩
    exact
      { known := by simp
        selected := ⟨_, succeeds, foundBaseline, found⟩
        divisible := divisible
        reduction := reduction
        overlap := fun _ => quietHandoff_measuredAt succeeds (by simp) ofThreaded }

/-- For one measurement, passing candidates were profiled as measured exactly
when those whose cells have the medians that the gate asks for have one batch
size in every row, as their baseline has; for all measurements, exactly when all
those have whose counter cells show a reduction. -/
theorem passing_is_profiled_iff (profiles : List ProfileRow) :
    (∀ (runs : PerRun) (campaign : String) (workNs : Option Int),
      PassingIsProfiled runs profiles campaign workNs ↔
        ∀ baseline candidate receiver,
          Contends runs profiles campaign workNs baseline candidate receiver →
          MedianAgrees profiles "baseline" baseline.batchSize →
          MedianAgrees profiles receiver candidate.batchSize →
            OneBatchSize profiles "baseline" ∧ OneBatchSize profiles receiver) ∧
    ((∀ (runs : PerRun) (campaign : String) (workNs : Option Int),
        PassingIsProfiled runs profiles campaign workNs) ↔
      ∀ receiver ∈ ["batched", "threaded"], ShowsReduction profiles receiver →
        OneBatchSize profiles "baseline" ∧ OneBatchSize profiles receiver) := by
  refine ⟨fun runs campaign workNs => passingIsProfiled_iff, ?_⟩
  constructor
  · intro profiled receiver known reduction
    rcases exists_medianAgrees profiles "baseline" with ⟨base, baseSizes⟩
    rcases exists_medianAgrees profiles receiver with ⟨size, sizes⟩
    rcases exists_contends known reduction base size with
      ⟨baseline, candidate, contends, baseMeasured, measured⟩
    subst baseMeasured
    subst measured
    exact passingIsProfiled_iff.mp (profiled _ _ _) baseline candidate receiver contends baseSizes
      sizes
  · intro oneSize runs campaign workNs
    apply passingIsProfiled_iff.mpr
    intro baseline candidate receiver contends _ _
    exact oneSize receiver contends.known contends.reduction

/-- Batches of 32 and 96 packets were profiled, and one of unknown size. -/
def mixedProfiles : List ProfileRow :=
  [⟨"baseline", some 1, some 1, some 6000⟩, ⟨"batched", some 32, some (1 / 8), some 4000⟩,
    ⟨"batched", some 96, some (1 / 8), some 4000⟩, ⟨"batched", none, some (1 / 8), some 4000⟩]

/-- The claim about batches of 64 packets is made although none was profiled. -/
theorem mixed_profiles_yield_a_claim :
    (∃ rows row, generate (failingSweeps lostRepetitions) mixedProfiles "raw" none = .ok rows ∧
      row ∈ rows ∧ row.candidate = "batched" ∧ row.claimPasses ∧ row.profileMechanismPasses) ∧
      ¬ PassingIsProfiled (failingSweeps lostRepetitions) mixedProfiles "raw" none := by
  have medians : profileMedians mixedProfiles "baseline" = some ⟨some 1, some 1, some 6000⟩ ∧
      profileMedians mixedProfiles "batched" = some ⟨some 64, some (1 / 8), some 4000⟩ := by
    decide +kernel
  have fails : Fails lostRepetitions := by simp [Fails, lostRepetitions]
  rcases exists_claim medians fails (by simp [lostRepetitions]) with
    ⟨selected, rows, row, succeeds, generated, member, named, passes⟩
  rcases representativeOf_selected succeeds "baseline" (by simp) with ⟨baseline, foundBaseline⟩
  rcases representativeOf_selected succeeds "batched" (by simp) with ⟨batched, found⟩
  have computed := (evidence_of_generate succeeds foundBaseline generated member).2
  rcases verdicts_of_evidence computed with ⟨-, -, candidate, -, gate, verdict⟩
  have mechanism : row.profileMechanismPasses := gate.mpr (verdict.mp passes).2
  refine ⟨⟨rows, row, generated, member, named, passes, mechanism⟩, ?_⟩
  intro profiled
  have measured := profiled selected rows succeeds generated row member mechanism "batched"
    (by simp [named]) batched found
  rw [ProfiledAsMeasured, (representativeOf_eq_ok found).2] at measured
  have small := measured ⟨"batched", some 32, some (1 / 8), some 4000⟩ (by simp [mixedProfiles]) rfl
  have large := measured ⟨"batched", some 96, some (1 / 8), some 4000⟩ (by simp [mixedProfiles]) rfl
  have same : (some 32 : Option ℚ) = some 96 := small.trans large.symm
  cases same

end NetLatencyLab.ClaimEvidence
