import NetLatencyLab.Analysis.WorkloadSelection
import NetLatencyLab.Harness.RunMetadata
import NetLatencyLab.Harness.RunPlan
import Mathlib.Data.Rat.Floor

/-! # The configuration of the profile campaign

`prepare_profile_config` of `profile_tools.py`, and whether `validate_config` accepts
what it writes. -/

namespace NetLatencyLab.Harness

open CommandLine (Double)
open Fallible (bind_unit_eq_ok forM_eq_ok)
open ProfileTools (SustainableGroup selectRepresentatives)
open PythonText (Text)

section

variable (float : Text → Option Double) (repr : Double → Text)

/-- `int(row.get(key, default))`. -/
def rowInt (default : Int) (configuration : List String) (row : SustainableGroup) (key : String) :
    Except AnalysisError Int :=
  match row.get? configuration key with
  | none => .ok default
  | some (.number value) => .ok (value.num.tdiv value.den)
  | some (.text value) =>
      match PythonText.toInt? value.toList with
      | some number => .ok number
      | none => .error (.valueError s!"invalid literal for int() with base 10: '{value}'")

/-- `float(row.get(key, default))`. -/
def rowFloat (default : ℚ) (configuration : List String) (row : SustainableGroup) (key : String) :
    Except AnalysisError Double :=
  match row.get? configuration key with
  | none => .ok (.finite default)
  | some (.number value) => .ok (.finite value)
  | some (.text value) =>
      match float value.toList with
      | some number => .ok number
      | none => .error (.valueError s!"could not convert string to float: '{value}'")

def profileBinary (receiver : String) : Except AnalysisError Text :=
  match [("baseline", "receiver_baseline"), ("batched", "receiver_batched"),
      ("threaded", "receiver_threaded")].lookup receiver with
  | some binary => .ok binary.toList
  | none => .error (.keyError receiver)

def profilePair (name : Text) (receiver : ReceiverSettings) (sender : SenderSettings) :
    List BenchmarkSettings :=
  [{ name := "profile_stat_".toList ++ name, campaign := "profile".toList, repetitions := some 3
     profile := some .stat, receiver := receiver, sender := sender },
   { name := "profile_record_".toList ++ name, campaign := "profile".toList, repetitions := some 1
     profile := some .record, receiver := receiver, sender := sender }]

/-- The two benchmarks of a receiver; `repr` is how `yaml.safe_dump` writes a float. -/
def profileBenchmarks (configuration : List String) (rate : Int) (row : SustainableGroup) :
    Except AnalysisError (List BenchmarkSettings) := do
  let binary ← profileBinary row.receiver
  let workNs ← rowInt 0 configuration row "work_ns"
  let sampleEvery ← rowInt 0 configuration row "sample_every"
  let duration ← rowFloat float 30 configuration row "duration_seconds"
  let payloadSize ← rowInt 64 configuration row "payload_size"
  let receiver : ReceiverSettings :=
    { binary := binary, batchSizes := [row.batchSize], workNs := workNs, sampleEvery := sampleEvery }
  let sender : SenderSettings :=
    { mode := "steady".toList
      durationSeconds := ⟨repr duration, some duration⟩
      ratesPps := [rate]
      payloadSize := payloadSize
      burstSizes := [1] }
  pure (profilePair row.receiver.toList receiver sender)

/-- `math.floor(.8 * min(...))`. -/
def profileRate (selected : List SustainableGroup) : Int :=
  (8 / 10 * ((selected.map SustainableGroup.requestedRatePps).min?.getD 0 : ℚ)).floor

structure ProfilePlan where
  campaign : String
  workNs : Int
  profileRatePps : Int
  saturated : List (String × Bool)
  selected : List SustainableGroup

/-- A source without a `global` section is `none`. -/
def prepareProfileConfig (perRun : PerRun) (source : Option GlobalConfig) (sourcePath : String)
    (campaign : String) (workNs : Option Int) :
    Except AnalysisError (Configuration × ProfilePlan) := do
  let selected ← selectRepresentatives perRun campaign workNs
  let rate := profileRate selected
  match source with
  | none => .error (.valueError s!"Source config has no global section: {sourcePath}")
  | some global => do
      let benchmarks ← selected.mapM (profileBenchmarks float repr perRun.configuration rate)
      match selected with
      | [] => .error .indexError
      | first :: _ => do
          let plannedWork ← rowInt 0 perRun.configuration first "work_ns"
          pure
            ({ globalConfig := { global with runtime := { global.runtime with repetitions := 3 } }
               benchmarks := benchmarks.flatten },
             { campaign := campaign
               workNs := plannedWork
               profileRatePps := rate
               saturated := selected.map fun row => (row.receiver, row.saturated)
               selected := selected })

end

/-! ## What `validate_config` accepts -/

theorem validateBenchmarks_iff {names : List Text} {benchmarks : List BenchmarkSettings} :
    validateBenchmarks names benchmarks = .ok () ↔
      (∀ benchmark ∈ benchmarks, benchmark.enabled →
        (isIdentifier benchmark.name ∧ benchmark.name ∉ names) ∧
          validateReceiver benchmark.name benchmark.receiver = .ok () ∧
          validateSender benchmark.name benchmark.sender = .ok ()) ∧
      ((benchmarks.filter (·.enabled)).map (·.name)).Nodup := by
  induction benchmarks generalizing names with
  | nil => simp [validateBenchmarks]
  | cons benchmark rest induction =>
      rw [validateBenchmarks]
      by_cases enabled : benchmark.enabled
      · rw [if_pos enabled]
        simp only [bind_unit_eq_ok, check_eq_ok, induction, List.forall_mem_cons,
          List.filter_cons_of_pos enabled, List.map_cons, List.nodup_cons, enabled, true_implies]
        constructor
        · intro accepted
          rcases accepted with ⟨first, receiver, sender, later, distinct⟩
          refine ⟨⟨⟨first, receiver, sender⟩, ?_⟩, ?_, distinct⟩
          · intro other member otherEnabled
            rcases later other member otherEnabled with ⟨⟨identifier, fresh⟩, checked⟩
            exact ⟨⟨identifier, fun seen => fresh (List.mem_cons_of_mem _ seen)⟩, checked⟩
          · intro repeated
            rcases List.mem_map.mp repeated with ⟨other, member, same⟩
            rcases List.mem_filter.mp member with ⟨member, otherEnabled⟩
            exact (later other member otherEnabled).1.2 (same ▸ List.mem_cons_self)
        · intro described
          rcases described with ⟨⟨⟨first, receiver, sender⟩, later⟩, apart, distinct⟩
          refine ⟨first, receiver, sender, ?_, distinct⟩
          intro other member otherEnabled
          rcases later other member otherEnabled with ⟨⟨identifier, fresh⟩, checked⟩
          refine ⟨⟨identifier, ?_⟩, checked⟩
          intro seen
          cases List.mem_cons.mp seen with
          | inl same =>
              exact apart (List.mem_map.mpr ⟨other, List.mem_filter.mpr ⟨member, otherEnabled⟩, same⟩)
          | inr seen => exact fresh seen
      · rw [if_neg enabled, induction, List.filter_cons_of_neg enabled, List.forall_mem_cons]
        simp [enabled]

/-! ## Rows of a measurement -/

/-- The row of a run that a configuration plans. -/
structure Measured (config : Configuration) (run : RunRow) : Prop where
  planned : ∃ item settings duration variant,
    config.benchmarks[item.benchmarkIndex]? = some settings ∧ settings.enabled ∧
      item ∈ benchmarkTuples item.benchmarkIndex
        (settings.benchmark config.globalConfig.runtime) ∧
      settings.receiver.binary = "receiver_".toList ++ run.receiver.toList ∧
      settings.sender.durationSeconds.seconds = some (.finite duration) ∧
      run.batchSize = item.batch ∧ run.requestedRatePps = item.rate ∧
      run.configuration =
        GenerateSummary.configurationCell (runSettings item settings duration variant)

structure Usable (run : RunRow) : Prop where
  rate : 0 < run.requestedRatePps
  batch : 1 ≤ run.batchSize ∧ run.batchSize ≤ 1024
  baseline : run.receiver = "baseline" → run.batchSize = 1
  work : ∃ workNs : Int, run.configuration "work_ns" = .number workNs ∧ 0 ≤ workNs
  samples : ∃ every : Int, run.configuration "sample_every" = .number every ∧ 0 ≤ every
  duration : ∃ seconds : ℚ, run.configuration "duration_seconds" = .number seconds ∧ 0 < seconds
  payload : ∃ size : Int, run.configuration "payload_size" = .number size ∧
    16 ≤ size ∧ size ≤ 65507

theorem Measured.usable {config : Configuration} (accepted : validateConfig config = .ok ())
    {run : RunRow} (measured : Measured config run) : Usable run := by
  rcases measured.planned with ⟨item, settings, seconds, variant, listed, enabled, inside, binary,
    lasts, batch, rate, cells⟩
  simp only [validateConfig, bind_unit_eq_ok, validateBenchmarks_iff] at accepted
  rcases accepted.2.2.2.1 settings (List.mem_of_getElem? listed) enabled with
    ⟨_, receiverAccepted, senderAccepted⟩
  have receiver := validateReceiver_valid receiverAccepted
  have sender := validateSender_valid senderAccepted
  rw [mem_benchmarkTuples_iff] at inside
  rcases inside with ⟨_, _, rateListed, _, batchListed⟩
  have positive : 0 < seconds := by
    simp only [validateSender, validateDuration, bind_unit_eq_ok, lasts, check_eq_ok,
      atMostZero, decide_eq_true_eq, not_le] at senderAccepted
    exact senderAccepted.1.2
  refine ⟨?_, ?_, ?_, ?_, ?_, ?_, ?_⟩
  · rw [rate]
    exact sender.rates _ rateListed
  · rw [batch]
    exact receiver.batches _ batchListed
  · intro same
    have only := receiver.baseline (by rw [binary, same]; decide)
    change item.batch ∈ settings.receiver.batchSizes at batchListed
    rw [only] at batchListed
    rw [batch, List.mem_singleton.mp batchListed]
  · exact ⟨_, by rw [cells]; rfl, receiver.work⟩
  · exact ⟨_, by rw [cells]; rfl, receiver.samples⟩
  · exact ⟨_, by rw [cells]; rfl, positive⟩
  · exact ⟨_, by rw [cells]; rfl, sender.payload⟩

/-! ## The prepared benchmarks -/

section

variable {configuration : List String} {row : SustainableGroup} {run : RunRow}

theorem rowInt_of_number
    (describes : ∀ key ∈ configuration, row.configuration key = run.configuration key)
    {key : String} {value : Int} (found : run.configuration key = .number value) (default : Int) :
    rowInt default configuration row key =
      .ok (if key ∈ configuration then value else default) := by
  rw [rowInt, SustainableGroup.get?]
  by_cases present : key ∈ configuration
  · rw [if_pos present, if_pos present, describes key present, found]
    simp
  · rw [if_neg present, if_neg present]

private theorem rowFloat_of_number (float : Text → Option Double)
    (describes : ∀ key ∈ configuration, row.configuration key = run.configuration key)
    {key : String} {value : ℚ} (found : run.configuration key = .number value) (default : ℚ) :
    rowFloat float default configuration row key =
      .ok (.finite (if key ∈ configuration then value else default)) := by
  rw [rowFloat, SustainableGroup.get?]
  by_cases present : key ∈ configuration
  · rw [if_pos present, if_pos present, describes key present, found]
  · rw [if_neg present, if_neg present]

structure Prepared (configuration : List String) (rate : Int) (row : SustainableGroup)
    (receiver : ReceiverSettings) (sender : SenderSettings) : Prop where
  binary : receiver.binary = "receiver_".toList ++ row.receiver.toList
  batches : receiver.batchSizes = [row.batchSize]
  work : rowInt 0 configuration row "work_ns" = .ok receiver.workNs
  rates : sender.ratesPps = [rate]
  bursts : sender.burstSizes = [1]
  receives : ∀ name, validateReceiver name receiver = .ok ()
  sends : ∀ name, validateSender name sender = .ok () ↔ 0 < rate

theorem exists_profileBenchmarks (float : Text → Option Double) (repr : Double → Text)
    (describes : ∀ key ∈ configuration, row.configuration key = run.configuration key)
    (usable : Usable run) (receiver : row.receiver = run.receiver)
    (batch : row.batchSize = run.batchSize)
    (known : row.receiver ∈ ["baseline", "batched", "threaded"]) (rate : Int) :
    ∃ receiver sender, profileBenchmarks float repr configuration rate row =
        .ok (profilePair row.receiver.toList receiver sender) ∧
      Prepared configuration rate row receiver sender := by
  rcases usable.work with ⟨workNs, work, workNonneg⟩
  rcases usable.samples with ⟨every, samples, samplesNonneg⟩
  rcases usable.duration with ⟨seconds, duration, lasts⟩
  rcases usable.payload with ⟨size, payload, least, most⟩
  have binary : profileBinary row.receiver = .ok ("receiver_".toList ++ row.receiver.toList) ∧
      "receiver_".toList ++ row.receiver.toList ∈ receiverBinaries := by
    revert known
    generalize row.receiver = name
    intro known
    simp only [List.mem_cons, List.not_mem_nil, or_false] at known
    rcases known with same | same | same
    · subst same
      decide +kernel
    · subst same
      decide +kernel
    · subst same
      decide +kernel
  have worked := rowInt_of_number describes work 0
  have sampled := rowInt_of_number describes samples 0
  have sized := rowInt_of_number describes payload 64
  have timed := rowFloat_of_number float describes duration 30
  refine ⟨?receiver, ?sender, ?computed, ?prepared⟩
  case computed =>
    rw [profileBenchmarks, binary.1, worked, sampled, timed, sized]
    rfl
  case prepared =>
    have single : "receiver_".toList ++ row.receiver.toList = "receiver_baseline".toList →
        row.batchSize = 1 := by
      intro same
      rw [batch]
      apply usable.baseline
      rw [← receiver]
      have name : row.receiver.toList = "baseline".toList :=
        List.append_cancel_left (same.trans (by decide))
      exact String.toList_injective name
    exact {
      binary := rfl
      batches := rfl
      work := worked
      rates := rfl
      bursts := rfl
      receives := by
        intro name
        simp only [validateReceiver, bind_unit_eq_ok, check_eq_ok, forM_eq_ok, List.forall_mem_cons,
          List.not_mem_nil, false_implies, implies_true, and_true]
        refine ⟨binary.2, ⟨List.cons_ne_nil _ _, batch ▸ usable.batch⟩, ?_, ?_, ?_⟩
        · exact fun same => congrArg (fun batch => [batch]) (single same)
        · split
          · exact workNonneg
          · exact Int.le_refl 0
        · split
          · exact samplesNonneg
          · exact Int.le_refl 0
      sends := by
        intro name
        have positive : ¬ atMostZero (.finite
            (if "duration_seconds" ∈ configuration then seconds else 30)) := by
          simp only [atMostZero, decide_eq_true_eq, not_le]
          split
          · exact lasts
          · norm_num
        have fits : 16 ≤ (if "payload_size" ∈ configuration then size else 64) ∧
            (if "payload_size" ∈ configuration then size else 64) ≤ 65507 := by
          split
          · exact ⟨least, most⟩
          · decide
        simp [validateSender, validateDuration, validateThreads, bind_unit_eq_ok, check_eq_ok,
          positive, fits] }

end

end NetLatencyLab.Harness
