import NetLatencyLab.Harness.Configuration
import NetLatencyLab.Harness.RunPlan

/-! # Run identifiers

A run's files are named after its benchmark, repetition, rate, burst size and
batch size. Two runs share no file unless they are the same tuple, which happens
if and only if a list of a benchmark has something twice. -/

namespace NetLatencyLab.Harness

open CommandLine (integer)
open PythonText (Text decimal)

/-! ## Names -/

/-- A number in the format `02d`. -/
def twoDigits (value : Nat) : Text :=
  if value < 10 then '0' :: decimal value else decimal value

def RunTuple.runId (item : RunTuple) : Text :=
  item.benchmarkName.toList ++ "_r".toList ++ twoDigits item.repetition ++ "_".toList ++
    integer item.rate ++ "pps_".toList ++ "burst".toList ++ integer item.burst ++
    "_batch".toList ++ integer item.batch

def artifactSuffixes (benchmark : Benchmark) : List Text :=
  [".bin".toList, "_rx_stats.json".toList, "_tx_stats.json".toList] ++
    (if benchmark.pacingTrace then ["_pacing.csv".toList] else []) ++
    (match benchmark.profile with
      | some .stat => ["_perf_stat.csv".toList]
      | some .record => ["_perf_report.txt".toList, ".perf.data".toList]
      | none => []) ++
    ["_meta.json".toList]

def artifactPath (item : RunTuple) (suffix : Text) : Text :=
  item.benchmarkName.toList ++ '/' :: (item.runId ++ suffix)

def artifacts (config : Config) (item : RunTuple) : List Text :=
  match config.benchmarks[item.benchmarkIndex]? with
  | some benchmark => (artifactSuffixes benchmark).map (artifactPath item)
  | none => []

structure ManifestEntry where
  runId : Text
  metadata : Text
  trace : Text
deriving DecidableEq

def manifestEntry (item : RunTuple) : ManifestEntry where
  runId := item.runId
  metadata := artifactPath item "_meta.json".toList
  trace := artifactPath item ".bin".toList

/-! ## What a name tells -/

theorem integer_mem {value : Int} {char : Char} (member : char ∈ integer value) :
    char = '-' ∨ char.isDigit := by
  cases value with
  | ofNat value => exact Or.inr (PythonText.isDigit_of_mem_decimal member)
  | negSucc value =>
      rcases List.mem_cons.mp member with sign | digit
      · exact Or.inl sign
      · exact Or.inr (PythonText.isDigit_of_mem_decimal digit)

private theorem twoDigits_mem {value : Nat} {char : Char} (member : char ∈ twoDigits value) :
    char.isDigit := by
  rw [twoDigits] at member
  split at member
  · rcases List.mem_cons.mp member with zero | digit
    · subst zero
      rfl
    · exact PythonText.isDigit_of_mem_decimal digit
  · exact PythonText.isDigit_of_mem_decimal member

theorem ofDigitChars_twoDigits (value : Nat) : Nat.ofDigitChars 10 (twoDigits value) 0 = value := by
  have read : Nat.ofDigitChars 10 (decimal value) 0 = value := Nat.ofDigitChars_ten_toDigits
  rw [twoDigits]
  split
  · rw [Nat.ofDigitChars_cons]
    exact read
  · exact read

private theorem twoDigits_injective : Function.Injective twoDigits := by
  intro first second same
  rw [← ofDigitChars_twoDigits first, same, ofDigitChars_twoDigits]

private theorem integer_eq_concat (value : Int) :
    ∃ start last, integer value = start ++ [last] ∧ last.isDigit := by
  have nonempty : integer value ≠ [] := by
    cases value with
    | ofNat value => exact PythonText.decimal_ne_nil value
    | negSucc value => exact List.cons_ne_nil _ _
  refine ⟨_, _, (List.dropLast_append_getLast nonempty).symm, ?_⟩
  cases value with
  | ofNat value => exact PythonText.isDigit_of_mem_decimal (List.getLast_mem _)
  | negSucc value =>
      have some : decimal (value + 1) ≠ [] := PythonText.decimal_ne_nil _
      have last : (integer (.negSucc value)).getLast nonempty = (decimal (value + 1)).getLast some :=
        List.getLast_cons some
      rw [last]
      exact PythonText.isDigit_of_mem_decimal (List.getLast_mem some)

theorem notMem_integer {char : Char} (dash : char ≠ '-') (digit : ¬ char.isDigit) (value : Int) :
    char ∉ integer value := by
  intro member
  rcases integer_mem member with same | digital
  · exact dash same
  · exact digit digital

theorem notMem_twoDigits {char : Char} (digit : ¬ char.isDigit) (value : Nat) :
    char ∉ twoDigits value :=
  fun member => digit (twoDigits_mem member)

theorem runId_eq (item : RunTuple) :
    item.runId =
      ((item.benchmarkName.toList ++ '_' :: ('r' :: twoDigits item.repetition)) ++
        '_' :: (integer item.rate ++ ['p', 'p', 's'])) ++
          '_' :: (['b', 'u', 'r', 's', 't'] ++ integer item.burst) ++
            '_' :: (['b', 'a', 't', 'c', 'h'] ++ integer item.batch) := by
  simp [RunTuple.runId]

private theorem fields_of_runId {first second : RunTuple} (same : first.runId = second.runId) :
    first.benchmarkName = second.benchmarkName ∧ first.repetition = second.repetition ∧
      first.rate = second.rate ∧ first.burst = second.burst ∧ first.batch = second.batch := by
  have number : ∀ value, '_' ∉ integer value := notMem_integer (by decide) (by decide)
  have batch : ∀ item : RunTuple, '_' ∉ ['b', 'a', 't', 'c', 'h'] ++ integer item.batch :=
    fun item => by simp [number]
  have burst : ∀ item : RunTuple, '_' ∉ ['b', 'u', 'r', 's', 't'] ++ integer item.burst :=
    fun item => by simp [number]
  have rate : ∀ item : RunTuple, '_' ∉ integer item.rate ++ ['p', 'p', 's'] :=
    fun item => by simp [number]
  have repetition : ∀ item : RunTuple, '_' ∉ 'r' :: twoDigits item.repetition :=
    fun item => by simp [notMem_twoDigits (by decide : ¬ '_'.isDigit)]
  rw [runId_eq, runId_eq] at same
  rcases PythonText.eq_of_last_separator same (batch first) (batch second) with ⟨same, batches⟩
  rcases PythonText.eq_of_last_separator same (burst first) (burst second) with ⟨same, bursts⟩
  rcases PythonText.eq_of_last_separator same (rate first) (rate second) with ⟨same, rates⟩
  rcases PythonText.eq_of_last_separator same (repetition first) (repetition second) with
    ⟨names, repetitions⟩
  refine ⟨String.toList_inj.mp names, twoDigits_injective (List.cons.inj repetitions).2, ?_, ?_, ?_⟩
  · exact CommandLine.integer_injective (List.append_cancel_right rates)
  · exact CommandLine.integer_injective (List.append_cancel_left bursts)
  · exact CommandLine.integer_injective (List.append_cancel_left batches)

/-! ## What a path tells -/

theorem slash_notMem_runId {item : RunTuple} (name : '/' ∉ item.benchmarkName.toList) :
    '/' ∉ item.runId := by
  have number : ∀ value, '/' ∉ integer value := notMem_integer (by decide) (by decide)
  have repetition : '/' ∉ twoDigits item.repetition := notMem_twoDigits (by decide) _
  simp [RunTuple.runId, name, number, repetition]

theorem runId_eq_concat (item : RunTuple) :
    ∃ start last, item.runId = start ++ [last] ∧ last.isDigit := by
  rcases integer_eq_concat item.batch with ⟨start, last, batch, digit⟩
  rw [RunTuple.runId, batch, ← List.append_assoc]
  exact ⟨_, last, rfl, digit⟩

theorem rdropWhile_artifactPath (item : RunTuple) {suffix : Text}
    (named : ∀ char ∈ suffix, ¬ char.isDigit) :
    (artifactPath item suffix).rdropWhile (fun char => !char.isDigit) =
      item.benchmarkName.toList ++ '/' :: item.runId := by
  have dropped : ∀ char ∈ suffix, !char.isDigit := by
    intro char member
    rw [Bool.not_eq_true']
    exact Bool.eq_false_iff.mpr (named char member)
  rcases runId_eq_concat item with ⟨start, last, ends, digit⟩
  rw [artifactPath, ← List.cons_append, ← List.append_assoc, PythonText.rdropWhile_append _ dropped,
    ends, ← List.cons_append, ← List.append_assoc, List.rdropWhile_concat_neg]
  rw [digit]
  decide

private theorem runId_of_artifactPath {first second : RunTuple} {suffix other : Text}
    (names : '/' ∉ first.benchmarkName.toList ∧ '/' ∉ second.benchmarkName.toList)
    (named : ∀ char ∈ suffix, ¬ char.isDigit) (otherNamed : ∀ char ∈ other, ¬ char.isDigit)
    (same : artifactPath first suffix = artifactPath second other) :
    first.runId = second.runId := by
  have paths := congrArg (List.rdropWhile fun char => !char.isDigit) same
  rw [rdropWhile_artifactPath first named, rdropWhile_artifactPath second otherNamed] at paths
  exact (PythonText.eq_of_last_separator paths (slash_notMem_runId names.1)
    (slash_notMem_runId names.2)).2

theorem not_isDigit_of_mem_suffix {benchmark : Benchmark} {suffix : Text}
    (member : suffix ∈ artifactSuffixes benchmark) : ∀ char ∈ suffix, ¬ char.isDigit := by
  have all : (artifactSuffixes benchmark).all
      (fun suffix => suffix.all fun char => !char.isDigit) := by
    rw [artifactSuffixes]
    cases benchmark.pacingTrace with
    | false => rcases benchmark.profile with _ | _ | _ <;> rfl
    | true => rcases benchmark.profile with _ | _ | _ <;> rfl
  rw [List.all_eq_true] at all
  have digitless := all suffix member
  rw [List.all_eq_true] at digitless
  intro char inside digit
  have not := digitless char inside
  rw [digit] at not
  cases not

/-! ## The runs of a campaign -/

/-- Two runs have nothing in common. -/
structure Separate (config : Config) (first second : RunTuple) : Prop where
  runId : first.runId ≠ second.runId
  artifacts : (artifacts config first).Disjoint (artifacts config second)

/-- The manifest entry of a run names files of that run. -/
structure RefersToOwn (config : Config) (item : RunTuple) : Prop where
  metadata : (manifestEntry item).metadata ∈ artifacts config item
  trace : (manifestEntry item).trace ∈ artifacts config item

section

variable {config : Configuration} {shuffle : List RunTuple → List RunTuple}

theorem benchmark_of_planned (shuffles : ∀ items, (shuffle items).Perm items) {item : RunTuple}
    (planned : item ∈ plan shuffle config.campaign) :
    ∃ settings, config.benchmarks[item.benchmarkIndex]? = some settings ∧ settings.enabled ∧
      config.campaign.benchmarks[item.benchmarkIndex]? =
        some (settings.benchmark config.globalConfig.runtime) ∧
      item.benchmarkName.toList = settings.name ∧
      item.campaign = String.ofList settings.campaign := by
  rcases (mem_plan_iff shuffles).mp planned with ⟨benchmark, listed, enabled, inside⟩
  have position := listed
  rw [Configuration.campaign, List.getElem?_map, Option.map_eq_some_iff] at position
  rcases position with ⟨settings, its, same⟩
  subst same
  rw [mem_benchmarkTuples_iff] at inside
  refine ⟨settings, its, enabled, listed, ?_, inside.1.2.2⟩
  rw [inside.1.2.1]
  exact String.toList_ofList

theorem slash_notMem_name (valid : config.Valid) (shuffles : ∀ items, (shuffle items).Perm items)
    {item : RunTuple} (planned : item ∈ plan shuffle config.campaign) :
    '/' ∉ item.benchmarkName.toList := by
  rcases benchmark_of_planned shuffles planned with ⟨settings, its, enabled, _, name, _⟩
  have identifier := (valid.benchmarks settings (List.mem_of_getElem? its) enabled).name
  rw [name]
  intro member
  simp only [isIdentifier, decide_eq_true_eq, List.all_eq_true] at identifier
  cases identifier.2 '/' member

private theorem position_of_name (valid : config.Valid) {index position : Nat}
    {settings other : BenchmarkSettings} (its : config.benchmarks[index]? = some settings)
    (otherIts : config.benchmarks[position]? = some other) (enabled : settings.enabled)
    (otherEnabled : other.enabled) (same : settings.name = other.name) : index = position := by
  have distinct := valid.names
  rw [List.Nodup, List.pairwise_map, List.pairwise_filter, List.pairwise_iff_getElem] at distinct
  rcases List.getElem?_eq_some_iff.mp its with ⟨inside, its⟩
  rcases List.getElem?_eq_some_iff.mp otherIts with ⟨otherInside, otherIts⟩
  subst its
  subst otherIts
  rcases Nat.lt_trichotomy index position with before | equal | after
  · exact absurd same (distinct index position inside otherInside before enabled otherEnabled)
  · exact equal
  · exact absurd same.symm (distinct position index otherInside inside after otherEnabled enabled)

theorem eq_of_runId (valid : config.Valid) (shuffles : ∀ items, (shuffle items).Perm items)
    {first second : RunTuple} (planned : first ∈ plan shuffle config.campaign)
    (alsoPlanned : second ∈ plan shuffle config.campaign) (same : first.runId = second.runId) :
    first = second := by
  rcases fields_of_runId same with ⟨names, repetition, rate, burst, batch⟩
  rcases benchmark_of_planned shuffles planned with ⟨settings, its, enabled, _, name, campaign⟩
  rcases benchmark_of_planned shuffles alsoPlanned with
    ⟨other, otherIts, otherEnabled, _, otherName, otherCampaign⟩
  have sameName : settings.name = other.name := by rw [← name, ← otherName, names]
  have index := position_of_name valid its otherIts enabled otherEnabled sameName
  rw [index, otherIts] at its
  have sameCampaign : first.campaign = second.campaign := by
    rw [campaign, otherCampaign, Option.some.inj its]
  cases first with
  | mk firstIndex firstName firstCampaign firstRepetition firstRate firstBurst firstBatch =>
      cases second with
      | mk secondIndex secondName secondCampaign secondRepetition secondRate secondBurst
          secondBatch =>
          subst index names sameCampaign repetition rate burst batch
          rfl

theorem artifacts_of_planned (shuffles : ∀ items, (shuffle items).Perm items) {item : RunTuple}
    (planned : item ∈ plan shuffle config.campaign) :
    ∃ benchmark, artifacts config.campaign item =
      (artifactSuffixes benchmark).map (artifactPath item) := by
  rcases benchmark_of_planned shuffles planned with ⟨settings, _, _, listed, _⟩
  refine ⟨settings.benchmark config.globalConfig.runtime, ?_⟩
  rw [artifacts, listed]

theorem separate_iff (valid : config.Valid) (shuffles : ∀ items, (shuffle items).Perm items)
    {first second : RunTuple} (planned : first ∈ plan shuffle config.campaign)
    (alsoPlanned : second ∈ plan shuffle config.campaign) :
    Separate config.campaign first second ↔ first ≠ second := by
  constructor
  · intro separate same
    exact separate.runId (congrArg RunTuple.runId same)
  · intro different
    have ids : first.runId ≠ second.runId :=
      fun same => different (eq_of_runId valid shuffles planned alsoPlanned same)
    refine ⟨ids, ?_⟩
    rcases artifacts_of_planned shuffles planned with ⟨benchmark, files⟩
    rcases artifacts_of_planned shuffles alsoPlanned with ⟨other, otherFiles⟩
    rw [files, otherFiles]
    intro path its others
    rcases List.mem_map.mp its with ⟨suffix, listed, named⟩
    rcases List.mem_map.mp others with ⟨otherSuffix, otherListed, otherNamed⟩
    have names := And.intro (slash_notMem_name valid shuffles planned)
      (slash_notMem_name valid shuffles alsoPlanned)
    exact ids (runId_of_artifactPath names (not_isDigit_of_mem_suffix listed)
      (not_isDigit_of_mem_suffix otherListed) (named.trans otherNamed.symm))

private theorem refersToOwn_of_planned (shuffles : ∀ items, (shuffle items).Perm items)
    {item : RunTuple}
    (planned : item ∈ plan shuffle config.campaign) : RefersToOwn config.campaign item := by
  rcases artifacts_of_planned shuffles planned with ⟨benchmark, files⟩
  have metadata : "_meta.json".toList ∈ artifactSuffixes benchmark :=
    List.mem_append_right _ (List.mem_singleton_self _)
  have trace : ".bin".toList ∈ artifactSuffixes benchmark :=
    List.mem_append_left _ (List.mem_append_left _ (List.mem_append_left _ List.mem_cons_self))
  constructor
  · rw [files]
    exact List.mem_map_of_mem metadata
  · rw [files]
    exact List.mem_map_of_mem trace

/-- No run of a campaign overwrites another's files if and only if no benchmark
that plans a run lists a rate, burst size or batch size twice. -/
theorem runs_separate_iff (accepted : validateConfig config = .ok ())
    (shuffles : ∀ items, (shuffle items).Perm items) :
    ((∀ item ∈ plan shuffle config.campaign, RefersToOwn config.campaign item) ∧
      (plan shuffle config.campaign).Pairwise (Separate config.campaign)) ↔
      ∀ benchmark ∈ config.campaign.benchmarks, benchmark.enabled → benchmark.Plans →
        benchmark.Distinct := by
  have valid := validateConfig_valid accepted
  rw [← plan_nodup_iff shuffles]
  constructor
  · intro separate
    apply separate.2.imp_of_mem
    intro first second planned alsoPlanned apart
    exact (separate_iff valid shuffles planned alsoPlanned).mp apart
  · intro nodup
    refine ⟨fun item planned => refersToOwn_of_planned shuffles planned, ?_⟩
    apply List.Pairwise.imp_of_mem _ nodup
    intro first second planned alsoPlanned different
    exact (separate_iff valid shuffles planned alsoPlanned).mpr different

end

/-- Both nodes are one host, and the only benchmark has these rates. -/
def baselineConfig (rates : List Int) : Configuration where
  globalConfig :=
    { topology := "local_loopback".toList
      remoteProjectRoot := "/opt/net-latency-lab".toList
      receiver := { host := some "127.0.0.1".toList, interface := some "lo".toList }
      sender := { host := some "127.0.0.1".toList, interface := some "lo".toList }
      runtime :=
        { repetitions := 1, port := 49200, receiverStartupSeconds := 1
          shutdownTimeoutSeconds := 5, scheduler := "other".toList, priority := 0 } }
  benchmarks :=
    [{ name := "baseline".toList
       receiver := { binary := "receiver_baseline".toList }
       sender :=
        { mode := "steady".toList
          durationSeconds := { text := "10".toList, seconds := some (.finite 10) }
          ratesPps := rates, payloadSize := 64 } }]

theorem distinct_rates_separate :
    (plan id (baselineConfig [1000, 2000]).campaign).Pairwise
      (Separate (baselineConfig [1000, 2000]).campaign) := by
  have accepted : validateConfig (baselineConfig [1000, 2000]) = .ok () := by decide +kernel
  refine ((runs_separate_iff accepted fun _ => List.Perm.refl _).mpr ?_).2
  intro benchmark member _ _
  rw [List.mem_singleton.mp member]
  exact ⟨by decide, by decide, by decide⟩

/-- A rate that is listed twice is measured twice, under one name. -/
theorem repeated_rate_overwrites :
    validateConfig (baselineConfig [1000, 1000]) = .ok () ∧
      ∃ first second, plan id (baselineConfig [1000, 1000]).campaign = [first, second] ∧
        first.runId = second.runId ∧
        (manifestEntry first).trace = (manifestEntry second).trace ∧
        (manifestEntry first).metadata = (manifestEntry second).metadata := by
  refine ⟨by decide +kernel, _, _, rfl, ?_⟩
  decide +kernel

end NetLatencyLab.Harness
