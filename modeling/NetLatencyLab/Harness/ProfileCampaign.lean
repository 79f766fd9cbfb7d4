import NetLatencyLab.Harness.ProfileConfig
import NetLatencyLab.Harness.RunPlan

/-! # The profile campaign

The configuration that `prepare_profile_config` makes of the representatives of a
campaign, and the runs that it plans. -/

namespace NetLatencyLab.Harness

open CommandLine (Double)
open Fallible (bind_eq_ok bind_unit_eq_ok)
open ProfileTools (SustainableGroup claimPopulation claimPopulation_eq_filter
  exists_run_of_selected representative_eq_ok selectRepresentatives selectRepresentatives_eq_ok_iff)
open PythonText (Text)

/-! ## The planned runs -/

def profileTuples (rate : Int) (index : Nat) (row : SustainableGroup) : List RunTuple :=
  let tuple := fun (benchmark : Nat) (name : String) (repetition : Nat) =>
    ({ benchmarkIndex := 2 * index + benchmark, benchmarkName := name ++ row.receiver,
       campaign := "profile", repetition := repetition, rate := rate, burst := 1,
       batch := row.batchSize } : RunTuple)
  [tuple 0 "profile_stat_" 1, tuple 0 "profile_stat_" 2, tuple 0 "profile_stat_" 3,
    tuple 1 "profile_record_" 1]

def profileRuns (rate : Int) (selected : List SustainableGroup) : List RunTuple :=
  selected.zipIdx.flatMap fun entry => profileTuples rate entry.2 entry.1

def Profile.kind : Profile → Text
  | .stat => "profile_stat_".toList
  | .record => "profile_record_".toList

structure ProfilesReceiver (settings : BenchmarkSettings) (profile : Profile) (receiver : Text) :
    Prop where
  name : settings.name = profile.kind ++ receiver
  campaign : settings.campaign = "profile".toList
  profile : settings.profile = some profile
  binary : settings.receiver.binary = "receiver_".toList ++ receiver

/-- What is made of the representatives of a campaign. -/
structure Profiles (shuffle : List RunTuple → List RunTuple) (selected : List SustainableGroup)
    (config : Configuration) (planned : ProfilePlan) : Prop where
  representatives : planned.selected = selected
  load : ∀ row ∈ selected, 5 * planned.profileRatePps ≤ 4 * row.requestedRatePps
  greatest : ∃ row ∈ selected, 4 * row.requestedRatePps < 5 * (planned.profileRatePps + 1)
  accepted : validateConfig config = .ok () ↔ ∀ row ∈ selected, 2 ≤ row.requestedRatePps
  work : ∀ settings ∈ config.benchmarks, settings.receiver.workNs = planned.workNs
  receivers : ∀ settings ∈ config.benchmarks, ∃ row ∈ selected, ∃ profile,
    ProfilesReceiver settings profile row.receiver.toList
  runs : (plan shuffle config.campaign).Perm (profileRuns planned.profileRatePps selected)

/-! ## The rate -/

section

variable {selected : List SustainableGroup}

theorem exists_least (some : selected ≠ []) :
    ∃ least ∈ selected, profileRate selected = (8 / 10 * (least.requestedRatePps : ℚ)).floor ∧
      ∀ row ∈ selected, least.requestedRatePps ≤ row.requestedRatePps := by
  have occupied : selected.map SustainableGroup.requestedRatePps ≠ [] := by
    intro empty
    exact some (List.map_eq_nil_iff.mp empty)
  rcases Option.ne_none_iff_exists'.mp (mt List.min?_eq_none_iff.mp occupied) with ⟨rate, found⟩
  rcases List.min?_eq_some_iff.mp found with ⟨member, least⟩
  rcases List.mem_map.mp member with ⟨row, inside, same⟩
  refine ⟨row, inside, ?_, ?_⟩
  · rw [profileRate, found, Option.getD_some, same]
  · intro other otherInside
    rw [same]
    exact least _ (List.mem_map_of_mem otherInside)

theorem profileRate_le {row : SustainableGroup} (member : row ∈ selected) :
    5 * profileRate selected ≤ 4 * row.requestedRatePps := by
  rcases exists_least (List.ne_nil_of_mem member) with ⟨least, _, rate, below⟩
  have floored : ((profileRate selected : Int) : ℚ) ≤ 8 / 10 * (least.requestedRatePps : ℚ) := by
    rw [rate]
    exact Rat.floor_le _
  have scaled : (5 * profileRate selected : ℚ) ≤ 4 * least.requestedRatePps := by linarith
  have whole : 5 * profileRate selected ≤ 4 * least.requestedRatePps := by exact_mod_cast scaled
  have order := below row member
  omega

theorem exists_lt_profileRate (some : selected ≠ []) :
    ∃ row ∈ selected, 4 * row.requestedRatePps < 5 * (profileRate selected + 1) := by
  rcases exists_least some with ⟨least, inside, rate, _⟩
  refine ⟨least, inside, ?_⟩
  have greater : 8 / 10 * (least.requestedRatePps : ℚ) < (profileRate selected : ℚ) + 1 := by
    rw [rate]
    exact_mod_cast Rat.lt_floor_add_one (8 / 10 * (least.requestedRatePps : ℚ))
  have scaled : (4 * least.requestedRatePps : ℚ) < 5 * (profileRate selected + 1) := by linarith
  exact_mod_cast scaled

private theorem profileRate_pos_iff (some : selected ≠ []) :
    0 < profileRate selected ↔ ∀ row ∈ selected, 2 ≤ row.requestedRatePps := by
  constructor
  · intro positive row member
    have below := profileRate_le member
    omega
  · intro fast
    rcases exists_lt_profileRate some with ⟨row, member, above⟩
    have least := fast row member
    omega

end

/-! ## The benchmarks -/

structure ProfiledReceiver where
  row : SustainableGroup
  receiver : ReceiverSettings
  sender : SenderSettings

namespace ProfiledReceiver

def benchmarks (profiled : ProfiledReceiver) : List BenchmarkSettings :=
  profilePair profiled.row.receiver.toList profiled.receiver profiled.sender

end ProfiledReceiver

private theorem exists_profilesReceiver {name : Text} {receiver : ReceiverSettings}
    {sender : SenderSettings} (binary : receiver.binary = "receiver_".toList ++ name)
    {benchmark : BenchmarkSettings} (member : benchmark ∈ profilePair name receiver sender) :
    ∃ profile, ProfilesReceiver benchmark profile name := by
  simp only [profilePair, List.mem_cons, List.not_mem_nil, or_false] at member
  cases member with
  | inl same =>
      rw [same]
      exact ⟨.stat, rfl, rfl, rfl, binary⟩
  | inr same =>
      rw [same]
      exact ⟨.record, rfl, rfl, rfl, binary⟩

theorem of_mem_profilePair {name : Text} {receiver : ReceiverSettings} {sender : SenderSettings}
    {benchmark : BenchmarkSettings} (member : benchmark ∈ profilePair name receiver sender) :
    benchmark.enabled ∧ benchmark.receiver = receiver ∧ benchmark.sender = sender ∧
      benchmark.campaign = "profile".toList := by
  simp only [profilePair, List.mem_cons, List.not_mem_nil, or_false] at member
  cases member with
  | inl same =>
      rw [same]
      exact ⟨rfl, rfl, rfl, rfl⟩
  | inr same =>
      rw [same]
      exact ⟨rfl, rfl, rfl, rfl⟩

section

variable {configuration : List String} {rate : Int} {profiled : List ProfiledReceiver}

private theorem validateBenchmarks_profiled
    (prepared : ∀ entry ∈ profiled,
      Prepared configuration rate entry.row entry.receiver entry.sender)
    (receivers : profiled.map (fun entry => entry.row.receiver) =
      ["baseline", "batched", "threaded"]) :
    validateBenchmarks [] (profiled.flatMap ProfiledReceiver.benchmarks) = .ok () ↔ 0 < rate := by
  have names : (profiled.flatMap ProfiledReceiver.benchmarks).map (·.name) =
      ["baseline", "batched", "threaded"].flatMap fun receiver =>
        ["profile_stat_".toList ++ receiver.toList, "profile_record_".toList ++ receiver.toList] := by
    rw [← receivers, List.map_flatMap, List.flatMap_map]
    rfl
  have enabled : (profiled.flatMap ProfiledReceiver.benchmarks).filter (·.enabled) =
      profiled.flatMap ProfiledReceiver.benchmarks := by
    rw [List.filter_eq_self]
    intro benchmark member
    rcases List.mem_flatMap.mp member with ⟨entry, _, inside⟩
    exact (of_mem_profilePair inside).1
  rw [validateBenchmarks_iff, enabled, names]
  constructor
  · intro accepted
    have some : profiled ≠ [] := by
      intro empty
      rw [empty] at receivers
      cases receivers
    rcases List.exists_mem_of_ne_nil _ some with ⟨entry, listed⟩
    have first := accepted.1 _ (List.mem_flatMap.mpr ⟨entry, listed, List.mem_cons_self⟩) rfl
    exact ((prepared entry listed).sends _).mp first.2.2
  · intro positive
    refine ⟨?_, by decide +kernel⟩
    intro benchmark member _
    have named : isIdentifier benchmark.name := by
      have identifiers : ∀ name ∈ ["baseline", "batched", "threaded"].flatMap fun receiver =>
          ["profile_stat_".toList ++ receiver.toList,
            "profile_record_".toList ++ receiver.toList], isIdentifier name := by
        decide +kernel
      apply identifiers
      rw [← names]
      exact List.mem_map_of_mem member
    rcases List.mem_flatMap.mp member with ⟨entry, listed, inside⟩
    rcases of_mem_profilePair inside with ⟨_, receiver, sender, _⟩
    rw [receiver, sender]
    exact ⟨⟨named, List.not_mem_nil⟩, (prepared entry listed).receives _,
      ((prepared entry listed).sends _).mpr positive⟩

/-! ## The runs -/

theorem benchmarkTuples_profiled (runtime : Runtime) {entry : ProfiledReceiver}
    (prepared : Prepared configuration rate entry.row entry.receiver entry.sender) (index : Nat) :
    ((entry.benchmarks.map (·.benchmark runtime)).zipIdx (2 * index)).flatMap
        (fun planned => if planned.1.enabled && planned.1.qualifies == false then
          benchmarkTuples planned.2 planned.1 else []) =
      profileTuples rate index entry.row := by
  have name : ∀ kind : String, String.ofList (kind.toList ++ entry.row.receiver.toList) =
      kind ++ entry.row.receiver := by
    intro kind
    apply String.toList_injective
    simp
  simp only [ProfiledReceiver.benchmarks, profilePair, List.map_cons, List.map_nil,
    List.zipIdx_cons, List.zipIdx_nil, List.flatMap_cons, List.flatMap_nil,
    BenchmarkSettings.benchmark, name, prepared.rates, prepared.bursts, prepared.batches]
  rfl

private theorem plannedTuples_profiled (runtime : Runtime)
    (prepared : ∀ entry ∈ profiled,
      Prepared configuration rate entry.row entry.receiver entry.sender) (index : Nat) :
    (((profiled.flatMap ProfiledReceiver.benchmarks).map (·.benchmark runtime)).zipIdx
        (2 * index)).flatMap
        (fun planned => if planned.1.enabled && planned.1.qualifies == false then
          benchmarkTuples planned.2 planned.1 else []) =
      ((profiled.map ProfiledReceiver.row).zipIdx index).flatMap
        fun entry => profileTuples rate entry.2 entry.1 := by
  induction profiled generalizing index with
  | nil => rfl
  | cons entry rest induction =>
      rw [List.forall_mem_cons] at prepared
      have later : 2 * index + (entry.benchmarks.map (·.benchmark runtime)).length =
          2 * (index + 1) := rfl
      rw [List.flatMap_cons, List.map_append, List.zipIdx_append, List.flatMap_append,
        benchmarkTuples_profiled runtime prepared.1, later, induction prepared.2, List.map_cons,
        List.zipIdx_cons, List.flatMap_cons]

private theorem plannedTuples_profiled_qualifies {runtime : Runtime} {config : Config}
    (lists : config.benchmarks =
      (profiled.flatMap ProfiledReceiver.benchmarks).map (·.benchmark runtime)) :
    plannedTuples config true = [] := by
  rw [List.eq_nil_iff_forall_not_mem]
  intro item member
  rcases mem_plannedTuples_iff.mp member with ⟨benchmark, listed, _, qualifies, _⟩
  rw [lists] at listed
  rcases List.mem_map.mp (List.mem_of_getElem? listed) with ⟨settings, inside, same⟩
  rcases List.mem_flatMap.mp inside with ⟨entry, _, pair⟩
  have campaign : benchmark.campaign = "profile" := by
    rw [← same, BenchmarkSettings.benchmark, (of_mem_profilePair pair).2.2.2]
    rfl
  rw [Benchmark.qualifies, campaign] at qualifies
  cases qualifies

/-! ## The configuration -/

def profileConfiguration (source : GlobalConfig) (profiled : List ProfiledReceiver) :
    Configuration where
  globalConfig := { source with runtime := { source.runtime with repetitions := 3 } }
  benchmarks := profiled.flatMap ProfiledReceiver.benchmarks

private theorem validateConfig_profileConfiguration {source : Configuration}
    (based : validateConfig source = .ok ())
    (prepared : ∀ entry ∈ profiled,
      Prepared configuration rate entry.row entry.receiver entry.sender)
    (receivers : profiled.map (fun entry => entry.row.receiver) =
      ["baseline", "batched", "threaded"]) :
    validateConfig (profileConfiguration source.globalConfig profiled) = .ok () ↔ 0 < rate := by
  simp only [validateConfig, bind_unit_eq_ok, check_eq_ok] at based
  rcases based with ⟨nodes, runtime, _⟩
  have runs : validateRuntime (profileConfiguration source.globalConfig profiled).globalConfig.runtime
      = .ok () := by
    simp only [validateRuntime, bind_unit_eq_ok, check_eq_ok] at runtime ⊢
    exact ⟨show (1 : Int) ≤ 3 by decide, runtime.2⟩
  have some : (profileConfiguration source.globalConfig profiled).benchmarks ≠ [] := by
    intro empty
    rcases profiled with nil | entry
    · cases receivers
    · cases empty
  rw [← validateBenchmarks_profiled prepared receivers]
  simp only [validateConfig, bind_unit_eq_ok, check_eq_ok]
  constructor
  · intro accepted
    exact accepted.2.2.2
  · intro benchmarks
    exact ⟨nodes, runs, some, benchmarks⟩

private theorem plan_profileConfiguration (source : GlobalConfig)
    {shuffle : List RunTuple → List RunTuple} (shuffles : ∀ items, (shuffle items).Perm items)
    (prepared : ∀ entry ∈ profiled,
      Prepared configuration rate entry.row entry.receiver entry.sender) :
    (plan shuffle (profileConfiguration source profiled).campaign).Perm
      (profileRuns rate (profiled.map ProfiledReceiver.row)) := by
  have none : plannedTuples (profileConfiguration source profiled).campaign true = [] :=
    plannedTuples_profiled_qualifies rfl
  have all : plannedTuples (profileConfiguration source profiled).campaign false =
      profileRuns rate (profiled.map ProfiledReceiver.row) :=
    plannedTuples_profiled _ prepared 0
  rw [plan, makeRunTuples, none, all]
  exact (List.perm_nil.mp (shuffles [])).symm ▸ shuffles _

end

private theorem exists_profiled (float : Text → Option Double) (repr : Double → Text)
    {configuration : List String} (rate : Int) {rows : List SustainableGroup}
    (described : ∀ row ∈ rows, row.receiver ∈ ["baseline", "batched", "threaded"] ∧
      ∃ run, Usable run ∧ ProfileTools.Describes configuration row run) :
    ∃ profiled : List ProfiledReceiver, profiled.map ProfiledReceiver.row = rows ∧
      (∀ entry ∈ profiled, Prepared configuration rate entry.row entry.receiver entry.sender) ∧
      rows.mapM (profileBenchmarks float repr configuration rate) =
        .ok (profiled.map ProfiledReceiver.benchmarks) := by
  induction rows with
  | nil => exact ⟨[], rfl, fun entry member => absurd member List.not_mem_nil, rfl⟩
  | cons row rest induction =>
      rw [List.forall_mem_cons] at described
      rcases described with ⟨⟨known, run, usable, describes⟩, later⟩
      rcases induction later with ⟨profiled, rows, prepared, computed⟩
      rcases exists_profileBenchmarks float repr describes.workload usable describes.receiver
        describes.batchSize known rate with ⟨receiver, sender, made, settings⟩
      refine ⟨⟨row, receiver, sender⟩ :: profiled, ?_, ?_, ?_⟩
      · rw [List.map_cons, rows]
      · rw [List.forall_mem_cons]
        exact ⟨settings, prepared⟩
      · rw [List.mapM_cons, made, computed]
        rfl

theorem selects_of_prepared {float : Text → Option Double} {repr : Double → Text} {perRun : PerRun}
    {source : GlobalConfig} {sourcePath campaign : String} {workNs : Option Int}
    {config : Configuration} {planned : ProfilePlan}
    (prepared : prepareProfileConfig float repr perRun (some source) sourcePath campaign workNs =
      .ok (config, planned)) :
    selectRepresentatives perRun campaign workNs = .ok planned.selected := by
  rw [prepareProfileConfig, bind_eq_ok] at prepared
  rcases prepared with ⟨selected, selects, made⟩
  simp only [bind_eq_ok] at made
  rcases made with ⟨benchmarks, _, made⟩
  split at made
  · cases made
  · rw [bind_eq_ok] at made
    rcases made with ⟨work, _, made⟩
    cases made
    exact selects

theorem described_of_selected {measured : Configuration}
    (accepted : validateConfig measured = .ok ()) {perRun : PerRun}
    (rows : ∀ run ∈ perRun.rows, Measured measured run) {campaign : String} {workNs : Option Int}
    {selected : List SustainableGroup}
    (selects : selectRepresentatives perRun campaign workNs = .ok selected) :
    selected.map SustainableGroup.receiver = ["baseline", "batched", "threaded"] ∧
      ∀ row ∈ selected, ∃ run, Usable run ∧
        ProfileTools.Describes perRun.configuration row run := by
  rcases selectRepresentatives_eq_ok_iff.mp selects with ⟨listed, _, baseline, batched, threaded,
    groups, _, first, second, third, same, _⟩
  constructor
  · rw [same, List.map_cons, List.map_cons, List.map_cons, List.map_nil,
      (representative_eq_ok first).2.1, (representative_eq_ok second).2.1,
      (representative_eq_ok third).2.1]
  · intro row member
    rw [ProfileTools.sustainableGroups, bind_eq_ok] at groups
    rcases groups with ⟨data, population, _⟩
    rcases exists_run_of_selected population selects member with ⟨run, inside, summary⟩
    rw [claimPopulation_eq_filter population] at inside
    exact ⟨run, (rows run (List.mem_filter.mp inside).1).usable accepted, summary.toDescribes⟩

theorem exists_preparation (float : Text → Option Double) (repr : Double → Text)
    {source : Configuration} (based : validateConfig source = .ok ()) {perRun : PerRun}
    {campaign : String} {workNs : Option Int} {selected : List SustainableGroup}
    (selects : selectRepresentatives perRun campaign workNs = .ok selected)
    (receivers : selected.map SustainableGroup.receiver = ["baseline", "batched", "threaded"])
    (described : ∀ row ∈ selected, ∃ run, Usable run ∧
      ProfileTools.Describes perRun.configuration row run) (sourcePath : String)
    {shuffle : List RunTuple → List RunTuple} (shuffles : ∀ items, (shuffle items).Perm items) :
    ∃ config planned, prepareProfileConfig float repr perRun (some source.globalConfig) sourcePath
        campaign workNs = .ok (config, planned) ∧
      Profiles shuffle selected config planned := by
  have known : ∀ row ∈ selected, row.receiver ∈ ["baseline", "batched", "threaded"] := by
    intro row member
    rw [← receivers]
    exact List.mem_map_of_mem member
  rcases exists_profiled float repr (profileRate selected)
    (fun row member => ⟨known row member, described row member⟩) with
    ⟨profiled, same, prepared, computed⟩
  have names : profiled.map (fun entry => entry.row.receiver) =
      ["baseline", "batched", "threaded"] := by
    rw [← receivers, ← same, List.map_map]
    rfl
  have occupied : selected ≠ [] := by
    intro empty
    rw [empty] at receivers
    cases receivers
  rcases List.exists_cons_of_ne_nil occupied with ⟨first, others, split⟩
  have inside : first ∈ selected := by
    rw [split]
    exact List.mem_cons_self
  have worked : ∀ entry ∈ profiled,
      rowInt 0 perRun.configuration first "work_ns" = .ok entry.receiver.workNs := by
    intro entry member
    rcases selectRepresentatives_eq_ok_iff.mp selects with ⟨_, _, _, _, _, _, _, _, _, _, _, agree⟩
    have listed : entry.row ∈ selected := by
      rw [← same]
      exact List.mem_map_of_mem member
    rw [← (prepared entry member).work, rowInt, rowInt, agree first inside entry.row listed]
  rcases List.mem_map.mp (same ▸ inside) with ⟨leader, leads, _⟩
  have workNs := worked leader leads
  refine ⟨profileConfiguration source.globalConfig profiled,
    ⟨campaign, leader.receiver.workNs, profileRate selected,
      selected.map fun row => (row.receiver, row.saturated), selected⟩, ?made, ?profiles⟩
  case made =>
    rw [prepareProfileConfig, selects]
    simp only [bind, Except.bind, computed]
    rw [split]
    simp only [workNs]
    rfl
  case profiles =>
    exact {
      representatives := rfl
      load := fun row member => profileRate_le member
      greatest := exists_lt_profileRate occupied
      accepted := by
        rw [validateConfig_profileConfiguration based prepared names, profileRate_pos_iff occupied]
      work := by
        intro settings member
        rcases List.mem_flatMap.mp member with ⟨entry, listed, pair⟩
        have sameWork := (worked entry listed).symm.trans workNs
        rw [(of_mem_profilePair pair).2.1]
        exact Except.ok.inj sameWork
      receivers := by
        intro settings member
        rcases List.mem_flatMap.mp member with ⟨entry, listed, pair⟩
        have row : entry.row ∈ selected := by
          rw [← same]
          exact List.mem_map_of_mem listed
        exact ⟨entry.row, row, exists_profilesReceiver (prepared entry listed).binary pair⟩
      runs := by
        have planned := plan_profileConfiguration source.globalConfig shuffles prepared
        rw [same] at planned
        exact planned }

/-- Representatives of measured runs, one of each receiver, always make a configuration:
each is counted three times and recorded once at four fifths of the lowest rate. The
controller accepts it unless a representative sends one packet a second. -/
theorem prepared_campaign (float : Text → Option Double) (repr : Double → Text)
    {measured source : Configuration} (accepted : validateConfig measured = .ok ())
    (based : validateConfig source = .ok ()) {perRun : PerRun}
    (rows : ∀ run ∈ perRun.rows, Measured measured run) {campaign : String} {workNs : Option Int}
    {selected : List SustainableGroup}
    (selects : selectRepresentatives perRun campaign workNs = .ok selected) (sourcePath : String)
    {shuffle : List RunTuple → List RunTuple} (shuffles : ∀ items, (shuffle items).Perm items) :
    selected.map SustainableGroup.receiver = ["baseline", "batched", "threaded"] ∧
      ∃ config planned, prepareProfileConfig float repr perRun (some source.globalConfig)
          sourcePath campaign workNs = .ok (config, planned) ∧
        Profiles shuffle selected config planned := by
  rcases described_of_selected accepted rows selects with ⟨receivers, described⟩
  exact ⟨receivers,
    exists_preparation float repr based selects receivers described sourcePath shuffles⟩

/-! ## A sweep and its profile -/

def sweepBenchmark (receiver : String) : BenchmarkSettings where
  name := receiver.toList
  campaign := "raw".toList
  receiver := { binary := "receiver_".toList ++ receiver.toList }
  sender :=
    { mode := "steady".toList
      durationSeconds := { text := "30".toList, seconds := some (.finite 30) }
      ratesPps := [1000], payloadSize := 64 }

def sweepTuple (index : Nat) (receiver : String) : RunTuple := ⟨index, receiver, "raw", 1, 1000, 1, 1⟩

def sweepConfig : Configuration where
  globalConfig :=
    { topology := "distributed_ethernet".toList
      remoteProjectRoot := "/opt/net-latency-lab".toList
      receiver := { host := some "10.0.0.1".toList, interface := some "eth0".toList }
      sender := { host := some "10.0.0.2".toList, interface := some "eth0".toList }
      runtime :=
        { repetitions := 5, port := 49200, receiverStartupSeconds := 1
          shutdownTimeoutSeconds := 5, scheduler := "other".toList, priority := 0 } }
  benchmarks := ["baseline", "batched", "threaded"].map sweepBenchmark

def sweepCells : String → Cell :=
  GenerateSummary.configurationCell
    (runSettings (sweepTuple 0 "baseline") (sweepBenchmark "baseline") 30 "baseline".toList)

def sweepRuns : PerRun :=
  ProfileTools.mixedRuns ("topology" :: configurationKeys) sweepCells sweepCells

theorem of_mem_sweepRuns {run : RunRow} (member : run ∈ sweepRuns.rows) :
    ∃ (index : Nat) (receiver runId : String),
      ["baseline", "batched", "threaded"][index]? = some receiver ∧
        run = { ProfileTools.steadyRun receiver sweepCells with runId := runId } := by
  rcases ProfileTools.of_mem_mixedRuns member with ⟨pick, picked, runId, same⟩
  simp only [ProfileTools.mixedPicks, List.mem_cons, List.not_mem_nil, or_false] at picked
  rcases picked with baseline | batched | threaded
  · exact ⟨0, "baseline", runId, rfl, baseline ▸ same⟩
  · exact ⟨1, "batched", runId, rfl, batched ▸ same⟩
  · exact ⟨2, "threaded", runId, rfl, threaded ▸ same⟩

theorem sweepRuns_measured : ∀ run ∈ sweepRuns.rows, Measured sweepConfig run := by
  intro run member
  rcases of_mem_sweepRuns member with ⟨index, receiver, runId, listed, same⟩
  subst same
  refine ⟨sweepTuple index receiver, sweepBenchmark receiver, 30, "baseline".toList, ?_, rfl, ?_,
    rfl, rfl, rfl, rfl, rfl⟩
  · show (["baseline", "batched", "threaded"].map sweepBenchmark)[index]? = _
    rw [List.getElem?_map, listed]
    rfl
  · rw [mem_benchmarkTuples_iff]
    refine ⟨⟨rfl, ?_, rfl⟩, ⟨Nat.le_refl 1, show 1 ≤ 5 by decide⟩, ?_, ?_, ?_⟩
    · exact String.ofList_toList.symm
    · exact List.mem_singleton.mpr rfl
    · exact List.mem_singleton.mpr rfl
    · exact List.mem_singleton.mpr rfl

theorem sweepConfig_accepted : validateConfig sweepConfig = .ok () := by decide +kernel

theorem exists_sweep_selection :
    ∃ baseline batched threaded,
      selectRepresentatives sweepRuns "raw" none = .ok [baseline, batched, threaded] ∧
      ∀ row ∈ [baseline, batched, threaded], 2 ≤ row.requestedRatePps := by
  have topology : "topology" ∈ "topology" :: configurationKeys := List.mem_cons_self
  have one : ProfileTools.SameWork ("topology" :: configurationKeys) sweepCells sweepCells :=
    fun _ => rfl
  have population : claimPopulation sweepRuns "raw" = .ok sweepRuns.rows :=
    ProfileTools.claimPopulation_mixedRuns topology
  rcases ProfileTools.selectRepresentatives_mixedRuns topology one with
    ⟨baseline, batched, threaded, selects, _⟩
  refine ⟨baseline, batched, threaded, selects, ?_⟩
  intro row member
  rcases exists_run_of_selected population selects member with ⟨run, inside, summary⟩
  rcases of_mem_sweepRuns inside with ⟨_, _, _, _, same⟩
  rw [summary.rate, same]
  exact show (2 : Int) ≤ 1000 by decide

theorem sweep_is_profiled :
    ∃ selected config planned, selectRepresentatives sweepRuns "raw" none = .ok selected ∧
      prepareProfileConfig (fun _ => none) (fun _ => []) sweepRuns (some sweepConfig.globalConfig)
        "configs/sweep.yaml" "raw" none = .ok (config, planned) ∧
      validateConfig config = .ok () ∧ (plan id config.campaign).length = 12 := by
  have unshuffled : ∀ items : List RunTuple, (id items).Perm items := fun _ => List.Perm.refl _
  rcases exists_sweep_selection with ⟨baseline, batched, threaded, selects, rates⟩
  rcases prepared_campaign (fun _ => none) (fun _ => []) sweepConfig_accepted sweepConfig_accepted
    sweepRuns_measured selects "configs/sweep.yaml" unshuffled with
    ⟨_, config, planned, made, profiles⟩
  refine ⟨_, config, planned, selects, made, profiles.accepted.mpr rates, ?_⟩
  rw [profiles.runs.length_eq]
  rfl

end NetLatencyLab.Harness
