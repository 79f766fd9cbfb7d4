import NetLatencyLab.Sender.Launch
import NetLatencyLab.Sender.Reconciliation
import NetLatencyLab.Sender.StatisticsReadBack
import NetLatencyLab.Sender.TraceFile

/-! # The statistics file of a run

What `main` reports of a run, and what the loopback tests compute of the file. -/

namespace NetLatencyLab.Sender

open Fallible (mapM_map_pure)
open Histogram (weightedFrom weightedSum)
open JsonFiles (Json JsonObject)
open PythonText (Text decimal toInt?)
open Statistics (Field Program lookup_entry safeReadJson)
open Thread (AffinityCalls applyAffinity)

variable {config : Config}

/-! ## What `main` reports -/

/-- The CPU that `run_worker` asks for; -1 is none. -/
def requestedCpu (options : Options.Config) (index : Nat) : Int :=
  if options.cpus = [] then (if options.threads = 1 then options.cpu else -1)
  else options.cpus.getD index (-1)

structure Surroundings (config : Config) where
  strerror : Int → Text
  calls : Fin config.threads → AffinityCalls
  observedSocketBuffer : Int
  startNs : Nat
  completionNs : Nat

def reportOf (options : Options.Config) (surroundings : Surroundings config)
    (state : State config) : Report where
  options := options
  stats := state.stats
  elapsedNs := surroundings.completionNs - surroundings.startNs
  requestedSocketBuffer := options.socketBufferBytes
  observedSocketBuffer := surroundings.observedSocketBuffer
  workers := List.ofFn fun index =>
    { stats := (state.workers index).stats
      affinity := applyAffinity surroundings.strerror (requestedCpu options index)
        (surroundings.calls index) }
  startNs := surroundings.startNs
  endNs := (config.window surroundings.startNs).finish
  interrupted := state.stop

theorem reportOf_prints {platform : Options.FloatingPoint} {arguments : List Text}
    {options : Options.Config} (accepted : Options.main platform arguments = .ok options)
    (path : Program.sender.Prints options.pacingTracePath) (surroundings : Surroundings config)
    (errors : ∀ code, Program.sender.Prints (surroundings.strerror code))
    (state : State config) : (reportOf options surroundings state).Prints where
  destination := by
    have valid := Options.validate_launch (Options.main_ok accepted).2
    exact (Options.inetPton_printable valid.2.2.2).prints _
  mode := by
    rcases Options.mode_known (Options.main_ok accepted).2 with mode | mode | mode
    · exact mode ▸ show JsonDocument.Plain "steady".toList by decide +kernel
    · exact mode ▸ show JsonDocument.Plain "burst".toList by decide +kernel
    · exact mode ▸ show JsonDocument.Plain "flood".toList by decide +kernel
  duration := (Options.main_inRange accepted).duration.le
  path := path
  occupied := by
    intro none
    have count := congrArg List.length none
    rw [reportOf, List.length_ofFn, List.length_nil] at count
    have some := config.threadRange.1
    omega
  workers := by
    intro worker member
    rcases List.mem_ofFn.mp member with ⟨index, rfl⟩
    exact Thread.applyAffinity_prints errors _ _

/-! ## Totals of the file -/

/-- `int(size) * count`. -/
def packetsOf (entry : Text × Json) : Option Int := do
  let size ← toInt? entry.1
  let count ← entry.2.integer?
  pure (size * count)

/-- `sum(int(size) * count for size, count in sizes.items())`. -/
def batchTotal (sizes : JsonObject) : Option Int := (sizes.mapM packetsOf).map List.sum

def counterOf (key : Text) (outcome : Json) : Option Int := do
  let fields ← outcome.object?
  let value ← fields.lookup key
  value.integer?

def outcomesTotal (key : Text) (outcomes : List Json) : Option Int :=
  (outcomes.mapM (counterOf key)).map List.sum

private theorem weighted_occurring (entries : List (Nat × Nat)) :
    ((entries.filter fun entry => entry.1 ≠ 0).map fun entry => (entry.2 * entry.1 : Int)).sum =
      ((entries.map fun entry => entry.2 * entry.1).sum : Nat) := by
  induction entries with
  | nil => rfl
  | cons entry entries induction =>
      rw [List.map_cons, List.sum_cons, Nat.cast_add, ← induction, Nat.cast_mul]
      by_cases none : entry.1 = 0
      · rw [List.filter_cons_of_neg (by simpa using none), none]
        simp
      · rw [List.filter_cons_of_pos (by simpa using none), List.map_cons, List.sum_cons]

private theorem packetsOf_sizeField (entry : Nat × Nat) :
    packetsOf ((Field.entry ∘ sizeField) entry) = pure (entry.2 * entry.1 : Int) := by
  simp [packetsOf, sizeField, Field.entry, Json.integer?]

private theorem batchTotal_histogramFields (histogram : List Nat) :
    batchTotal ((histogramFields histogram).map Field.entry) =
      some (weightedSum histogram : Int) := by
  rw [batchTotal, histogramFields, List.map_map,
    mapM_map_pure fun entry _ => packetsOf_sizeField entry, Option.pure_def, Option.map_some,
    weighted_occurring]
  cases histogram with
  | nil => rfl
  | cons count histogram => simp [weightedSum, weightedFrom]

private theorem outcomesTotal_workers {name : String} {counter : WorkerStats → Nat}
    (printed : ∀ index worker, Field.natural name (counter worker.stats) ∈
      workerFields index worker) (workers : List WorkerReport) :
    outcomesTotal name.toList (workers.zipIdx.map fun worker =>
      .object ((workerFields worker.2 worker.1).map Field.entry)) =
        some (((workers.map fun worker => counter worker.stats).sum : Nat) : Int) := by
  have reads : ∀ worker ∈ workers.zipIdx,
      counterOf name.toList (.object ((workerFields worker.2 worker.1).map Field.entry)) =
        pure (counter worker.1.stats : Int) := by
    intro worker _
    have found : ((workerFields worker.2 worker.1).map Field.entry).lookup name.toList =
        some (.integer (counter worker.1.stats)) :=
      lookup_entry (workerFields_distinct worker.2 worker.1) (printed worker.2 worker.1)
    rw [counterOf, Json.object?, Option.bind_eq_bind, Option.bind_some, found]
    rfl
  have values : workers.zipIdx.map (fun worker => (counter worker.1.stats : Int)) =
      (workers.map fun worker => counter worker.stats).map Nat.cast := by
    have first := congrArg (List.map fun worker : WorkerReport => (counter worker.stats : Int))
      (List.zipIdx_map_fst 0 workers)
    rw [List.map_map] at first ⊢
    exact first
  rw [outcomesTotal, mapM_map_pure reads, values, Option.pure_def, Option.map_some,
    Nat.cast_list_sum]

/-! ## The file of every run -/

def threadCounters : List (String × (WorkerStats → Nat)) :=
  [("attempted_sends", (·.attemptedSends)), ("successful_sends", (·.successfulSends)),
    ("failed_sends", (·.failedSends)), ("syscall_count", (·.syscallCount)),
    ("partial_returns", (·.partialReturns)), ("error_returns", (·.errorReturns))]

/-- What the tests find in a file: the wire behind its totals, the totals behind
the histogram, the trace and the outcomes of the threads. -/
structure Described (config : Config) (history : List Event) (state : State config)
    (object : JsonObject) : Prop where
  attempted : object.lookup "attempted_sends".toList = some (.integer state.nextSequence)
  successful : object.lookup "successful_sends".toList = some (.integer (wire history).length)
  bytes : object.lookup "successful_bytes".toList =
    some (.integer (config.payloadSize * (wire history).length : Nat))
  interrupted : object.lookup "interrupted".toList = some (.bool state.stop)
  histogram : ∃ sizes, object.lookup "effective_batch_size_histogram".toList =
    some (.object sizes) ∧ batchTotal sizes = some ((wire history).length : Int)
  trace : ∃ fields calls errors, object.lookup "pacing_trace".toList = some (.object fields) ∧
    object.lookup "syscall_count".toList = some (.integer calls) ∧
    object.lookup "error_returns".toList = some (.integer errors) ∧
    fields.lookup "records".toList = some (.integer (if config.tracing then calls - errors else 0))
  threads : ∃ outcomes, object.lookup "thread_outcomes".toList = some (.array outcomes) ∧
    outcomes.length = config.threads ∧
    ∀ counter ∈ threadCounters, ∃ total, object.lookup counter.1.toList = some (.integer total) ∧
      outcomesTotal counter.1.toList outcomes = some total

/-- `attempted_sends == successful_sends + failed_sends`, as the tests and the
controller read the three. -/
def Reconciles (object : JsonObject) : Prop :=
  ∃ attempted successful failed,
    object.lookup "attempted_sends".toList = some (.integer attempted) ∧
    object.lookup "successful_sends".toList = some (.integer successful) ∧
    object.lookup "failed_sends".toList = some (.integer failed) ∧
    attempted = successful + failed

private theorem threadCounters_printed : ∀ counter ∈ threadCounters, ∀ index worker,
    Field.natural counter.1 (counter.2 worker.stats) ∈ workerFields index worker := by
  simp only [threadCounters, List.forall_mem_cons, List.not_mem_nil, false_implies, implies_true,
    and_true]
  simp only [workerFields, List.mem_cons, true_or, or_true, implies_true, and_self]

private theorem threadCounters_total : ∀ counter ∈ threadCounters, ∀ floats report,
    Field.natural counter.1 (counter.2 report.stats) ∈ scalarFields floats report := by
  simp only [threadCounters, List.forall_mem_cons, List.not_mem_nil, false_implies, implies_true,
    and_true]
  simp only [scalarFields, List.mem_cons, true_or, or_true, implies_true, and_self]

private theorem threadCounters_sum : ∀ counter ∈ threadCounters, ∀ state : State config,
    counter.2 state.stats = ∑ index, counter.2 (state.workers index).stats := by
  simp only [threadCounters, List.forall_mem_cons, List.not_mem_nil, false_implies, implies_true,
    and_true]
  refine ⟨?_, ?_, ?_, ?_, ?_, ?_⟩
  · exact State.stats_sum (·.attemptedSends) (fun _ _ => rfl) rfl
  · exact State.stats_sum (·.successfulSends) (fun _ _ => rfl) rfl
  · exact State.stats_sum (·.failedSends) (fun _ _ => rfl) rfl
  · exact State.stats_sum (·.syscallCount) (fun _ _ => rfl) rfl
  · exact State.stats_sum (·.partialReturns) (fun _ _ => rfl) rfl
  · exact State.stats_sum (·.errorReturns) (fun _ _ => rfl) rfl

section Found

variable {floats : FloatText} {options : Options.Config} {surroundings : Surroundings config}
  {history : List Event} {state : State config} {object : JsonObject}

theorem counted_of_found
    (found : ∀ field ∈ statsFields floats (reportOf options surroundings state),
      object.lookup field.name = some field.item) :
    ∀ counter ∈ threadCounters,
      object.lookup counter.1.toList = some (.integer (counter.2 state.stats)) :=
  fun counter member => found _ (List.mem_append_left _ (List.mem_append_left _
    (List.mem_append_left _ (threadCounters_total counter member floats _))))

private theorem reconciles_iff
    (found : ∀ field ∈ statsFields floats (reportOf options surroundings state),
      object.lookup field.name = some field.item) :
    Reconciles object ↔
      state.stats.attemptedSends = state.stats.successfulSends + state.stats.failedSends := by
  have counted := counted_of_found found
  have attempted : object.lookup "attempted_sends".toList =
      some (.integer state.stats.attemptedSends) :=
    counted ("attempted_sends", (·.attemptedSends)) (by simp [threadCounters])
  have successful : object.lookup "successful_sends".toList =
      some (.integer state.stats.successfulSends) :=
    counted ("successful_sends", (·.successfulSends)) (by simp [threadCounters])
  have failed : object.lookup "failed_sends".toList = some (.integer state.stats.failedSends) :=
    counted ("failed_sends", (·.failedSends)) (by simp [threadCounters])
  simp only [Reconciles, attempted, successful, failed, Option.some.injEq, Json.integer.injEq]
  constructor
  · rintro ⟨_, _, _, rfl, rfl, rfl, sum⟩
    exact_mod_cast sum
  · intro sum
    exact ⟨_, _, _, rfl, rfl, rfl, mod_cast sum⟩

private theorem described_of_found (conserved : Conserved config history state)
    (traced : Traced config state.stats)
    (found : ∀ field ∈ statsFields floats (reportOf options surroundings state),
      object.lookup field.name = some field.item) : Described config history state object := by
  have balanced : Balanced config state.stats := State.stats_balanced conserved
  have successful : state.stats.successfulSends = (wire history).length :=
    (State.stats_sum (·.successfulSends) (fun _ _ => rfl) rfl state).trans conserved.successful
  have attempted : state.stats.attemptedSends = state.nextSequence :=
    (State.stats_sum (·.attemptedSends) (fun _ _ => rfl) rfl state).trans conserved.attempted
  have scalar : ∀ field ∈ scalarFields floats (reportOf options surroundings state),
      object.lookup field.name = some field.item := fun field member =>
    found field (List.mem_append_left _ (List.mem_append_left _ (List.mem_append_left _ member)))
  have counted := counted_of_found found
  exact {
    attempted := by
      rw [← attempted]
      exact counted ("attempted_sends", (·.attemptedSends)) (by simp [threadCounters])
    successful := by
      rw [← successful]
      exact counted ("successful_sends", (·.successfulSends)) (by simp [threadCounters])
    bytes := by
      rw [← successful, ← balanced.bytes]
      exact scalar (.natural "successful_bytes" state.stats.successfulBytes)
        (by simp [scalarFields, reportOf])
    interrupted := scalar (.boolean "interrupted" state.stop) (by simp [scalarFields, reportOf])
    histogram := by
      have printed := found (objectField "effective_batch_size_histogram"
        (histogramFields state.stats.batchHistogram)) (List.mem_append_left _
          (List.mem_append_left _ (List.mem_append_right _ List.mem_cons_self)))
      refine ⟨_, printed, ?_⟩
      rw [batchTotal_histogramFields, balanced.weighted, successful]
    trace := by
      have printed := scalar (objectField "pacing_trace" (traceFields options state.stats))
        (by simp [scalarFields, reportOf])
      refine ⟨_, _, _, printed,
        counted ("syscall_count", (·.syscallCount)) (by simp [threadCounters]),
        counted ("error_returns", (·.errorReturns)) (by simp [threadCounters]), ?_⟩
      have distinct : ((traceFields options state.stats).map Field.name).Nodup := by
        change (["enabled".toList, "path".toList, "format".toList, "records".toList] :
          List Text).Nodup
        decide +kernel
      have listed : Field.natural "records" state.stats.trace.length ∈
          traceFields options state.stats := by
        simp [traceFields]
      have records := lookup_entry distinct listed
      have calls := balanced.calls
      have value : ((state.stats.trace.length : Nat) : Int) = if config.tracing then
          (state.stats.syscallCount : Int) - state.stats.errorReturns else 0 := by
        rw [traced.length]
        split
        · omega
        · rfl
      rw [← value]
      exact records
    threads := by
      have printed := found (outcomesField (reportOf options surroundings state).workers)
        (List.mem_append_left _ (List.mem_append_right _ List.mem_cons_self))
      refine ⟨_, printed, ?_, ?_⟩
      · rw [List.length_map, List.length_zipIdx, reportOf, List.length_ofFn]
      · intro counter member
        refine ⟨_, counted counter member, ?_⟩
        rw [outcomesTotal_workers (threadCounters_printed counter member) _,
          threadCounters_sum counter member, reportOf, List.map_ofFn, List.sum_ofFn]
        rfl }

end Found

/-- Whatever arguments the sender accepts, however its workers are scheduled and
whatever the kernel answers them, the file of its run is read back as a
description of what is on the wire. Its attempts are its successes plus its
failures exactly when no worker has abandoned a batch. -/
theorem sender_file_describes_run (floats : FloatText) (fixed : floats.Fixed)
    (platform : Options.FloatingPoint)
    (bounded : ∀ seconds, platform.nanoseconds seconds < 2 ^ 64) {arguments : List Text}
    {options : Options.Config} (accepted : Options.main platform arguments = .ok options)
    (path : Program.sender.Prints options.pacingTracePath) (host : Endianness) :
    let config := Options.launch platform bounded options accepted
    ∀ (connect : Fin config.threads → Option Nat) (schedule : List (Action config))
      (surroundings : Surroundings config), (∀ index, connect index = none) →
      (∀ code, Program.sender.Prints (surroundings.strerror code)) →
      let outcome := (machine host config (config.window surroundings.startNs)).run
        (start config connect) schedule
      ∃ object, safeReadJson floats.toFloat
          (Utf8.encode (writeStats floats (reportOf options surroundings outcome.1))) =
            some object ∧
        Described config outcome.2 outcome.1 object ∧
        ((∀ index, (outcome.1.workers index).position = .finished) →
          (Reconciles object ↔ ∀ index, NeverAbandons host config
            (config.window surroundings.startNs) connect schedule index)) := by
  intro config connect schedule surroundings opened errors outcome
  have prints := reportOf_prints accepted path surroundings errors outcome.1
  cases writeStats_read_back fixed prints with
  | intro object readBack =>
      cases readBack with
      | intro read found =>
          refine ⟨object, read, described_of_found ?_ ?_ found, ?_⟩
          · exact run_conserved host config _ opened schedule
          · exact run_traced host _ opened schedule
          · intro done
            rw [reconciles_iff found]
            exact totals_reconcile_iff host config _ connect schedule done

/-! ## A file -/

/-- `%.*f` of numbers that need no rounding, and `repr`. -/
def exactText : FloatText where
  print places value :=
    let scaled := (value * 10 ^ places).floor.toNat
    let digits := decimal (scaled % 10 ^ places)
    decimal (scaled / 10 ^ places) ++
      '.' :: (List.replicate (places - digits.length) '0' ++ digits)
  toFloat text :=
    let shorter := text.rdropWhile (· == '0')
    if shorter.getLast? = some '.' then shorter ++ ['0'] else shorter

theorem exactText_fixed : exactText.Fixed := by
  intro places value _ _
  refine ⟨_, _, rfl, ?_, ?_⟩
  · exact List.append_ne_nil_of_right_ne_nil _ (PythonText.decimal_ne_nil _)
  · intro char member
    cases List.mem_append.mp member with
    | inl zero =>
        rw [List.eq_of_mem_replicate zero]
        rfl
    | inr digit => exact PythonText.isDigit_of_mem_decimal digit

def wholePlatform : Options.FloatingPoint where
  strtod text := (CommandLine.fromChars CommandLine.largestU64 text).map fun value => .finite value
  nanoseconds seconds := (seconds * 10 ^ 9).floor.toNat % 2 ^ 64

theorem wholePlatform_bounded (seconds : ℚ) : wholePlatform.nanoseconds seconds < 2 ^ 64 :=
  Nat.mod_lt _ (by decide)

def tracedOptions : Options.Config where
  ratePps := 1000000000
  sendBatchMax := 2
  threads := 2
  cpus := [0, 1]
  pacingTracePath := "trace.csv".toList

theorem tracedOptions_accepted :
    Options.main wholePlatform
      ["--rate".toList, "1000000000".toList, "--send-batch-max".toList, "2".toList,
        "--threads".toList, "2".toList, "--cpus".toList, "0,1".toList,
        "--pacing-trace".toList, "trace.csv".toList] = .ok tracedOptions := by decide +kernel

def tracedConfig : Config :=
  Options.launch wholePlatform wholePlatform_bounded tracedOptions tracedOptions_accepted

def tracedSurroundings : Surroundings tracedConfig where
  strerror _ := "Invalid argument".toList
  calls _ := ⟨0, 0, fun cpu => cpu == 1, 1⟩
  observedSocketBuffer := 212992
  startNs := 0
  completionNs := 2000000000

/-- One call of the second worker is interrupted, and it is done before the first,
whose second call fails. -/
def tracedSchedule : List (Action tracedConfig) :=
  let first : Fin tracedConfig.threads := ⟨0, by decide⟩
  let second : Fin tracedConfig.threads := ⟨1, by decide⟩
  [.worker first (answer 0 0), .worker first (answer 0 0), .worker second (answer 0 0),
    .worker second (answer 0 0), .worker first { answer 1 0 with completion := 20 },
    .worker second (answer (-1) 4), .worker second { answer 2 0 with completion := 10 },
    .worker first (answer (-1) 11), .signal, .worker first (answer 0 0), .worker first (answer 0 0),
    .worker second (answer 0 0), .worker second (answer 0 0)]

/-- Two traced workers. -/
theorem traced_file_describes_run :
    let outcome := (machine .little tracedConfig (tracedConfig.window 0)).run
      (start tracedConfig fun _ => none) tracedSchedule
    ∃ object, safeReadJson exactText.toFloat (Utf8.encode (writeStats exactText
        (reportOf tracedOptions tracedSurroundings outcome.1))) = some object ∧
      (∃ outcomes, object.lookup "thread_outcomes".toList = some (.array outcomes) ∧
        outcomesTotal "successful_sends".toList outcomes = some 3) ∧
      (Reconciles object ↔ ∀ index, NeverAbandons .little tracedConfig (tracedConfig.window 0)
        (fun _ => none) tracedSchedule index) := by
  intro outcome
  have sent : (wire outcome.2).length = 3 := by decide +kernel
  have done : ∀ index : Fin tracedConfig.threads,
      (outcome.1.workers index).position = .finished := by decide +kernel
  rcases sender_file_describes_run exactText exactText_fixed wholePlatform
    wholePlatform_bounded tracedOptions_accepted
    ((Thread.printable_of_all rfl).prints _) .little (fun _ => none) tracedSchedule
    tracedSurroundings (fun _ => rfl) (fun _ => (Thread.printable_of_all rfl).prints _)
    with ⟨object, read, described, reconciled⟩
  have successful : object.lookup "successful_sends".toList =
      some (.integer (wire outcome.2).length) := described.successful
  rcases described.threads with ⟨outcomes, listed, _, totals⟩
  rcases totals ("successful_sends", (·.successfulSends)) (by simp [threadCounters])
    with ⟨total, found, sum⟩
  rw [successful, sent] at found
  cases found
  exact ⟨object, read, ⟨outcomes, listed, sum⟩, reconciled done⟩

end NetLatencyLab.Sender
