import NetLatencyLab.Foundation.CommandLine
import NetLatencyLab.Harness.Campaign

/-! # Configurations

A configuration file, with the keys and the types that the harness requires, and
the values that `validate_config` accepts. -/

namespace NetLatencyLab.Harness

open CommandLine (Double integer)
open Fallible (bind_unit_eq_ok forM_eq_ok)
open PythonText (Text)

structure Node where
  managementHost : Option Text := none
  benchmarkIp : Option Text := none
  host : Option Text := none
  interface : Option Text := none
  projectRoot : Option Text := none
  buildPreset : Option Text := none
  buildSubdir : Option Text := none

structure Runtime where
  repetitions : Int
  port : Int
  receiverStartupSeconds : ℚ
  shutdownTimeoutSeconds : ℚ
  postSenderDrainSeconds : ℚ := 1
  receiverCpu : Option Int := none
  workerCpu : Option Int := none
  senderCpu : Option Int := none
  scheduler : Text
  priority : Int
  receiveBufferBytes : Int := 0
  sendBufferBytes : Int := 0
  buildSubdir : Text := []
  privilegePrefix : List Text := []

structure GlobalConfig where
  topology : Text
  remoteProjectRoot : Text
  receiver : Node
  sender : Node
  /-- Nodes with other roles. -/
  others : List (Text × Node) := []
  runtime : Runtime

/-- `duration_seconds`, which may also be a string. -/
structure Duration where
  /-- Its `str`. -/
  text : Text
  /-- Its `float`, unless that raises. -/
  seconds : Option Double

structure ReceiverSettings where
  binary : Text
  batchSizes : List Int := [1]
  workNs : Int := 0
  sampleEvery : Int := 1

structure SenderSettings where
  mode : Text
  durationSeconds : Duration
  ratesPps : List Int
  payloadSize : Int
  burstSizes : List Int := [1]
  sendBatchMax : Int := 1
  batchWindowUs : Int := 10
  threads : Int := 1
  cpus : Option (List Int) := none
  pacingTrace : Bool := false

structure BenchmarkSettings where
  enabled : Bool := true
  name : Text
  campaign : Text := "comparison".toList
  repetitions : Option Int := none
  profile : Option Profile := none
  usesQualifiedRates : Bool := false
  receiver : ReceiverSettings
  sender : SenderSettings

structure Configuration where
  globalConfig : GlobalConfig
  benchmarks : List BenchmarkSettings

/-! ## Addresses -/

def loopbackHosts : List Text := ["127.0.0.1".toList, "localhost".toList, "::1".toList]

def isLocal (host : Text) : Bool := host ∈ loopbackHosts

def managementHost (node : Node) : Text := node.managementHost.getD (node.host.getD [])

def benchmarkIp (node : Node) : Text := node.benchmarkIp.getD (node.host.getD [])

def receiverBinaries : List Text :=
  ["receiver_baseline".toList, "receiver_batched".toList, "receiver_threaded".toList]

/-! ## `validate_config` -/

/-- `raise ValueError` unless the condition holds. -/
def check (condition : Prop) [Decidable condition] (message : Text) : Except Text Unit :=
  if condition then .ok () else .error message

def isAlphanumeric (char : Char) : Bool :=
  ('A' ≤ char ∧ char ≤ 'Z') ∨ ('a' ≤ char ∧ char ≤ 'z') ∨ char.isDigit

/-- `[A-Za-z0-9_.:-]+`. -/
def isInterface (text : Text) : Bool :=
  text ≠ [] ∧ text.all fun char => isAlphanumeric char || "_.:-".toList.contains char

/-- `[A-Za-z0-9_-]+`. -/
def isIdentifier (text : Text) : Bool :=
  text ≠ [] ∧ text.all fun char => isAlphanumeric char || "_-".toList.contains char

def loopbackInterface : Text := "lo".toList

def validateTopology (config : GlobalConfig) (interface : Text) : Except Text Unit :=
  let receiverManagement := managementHost config.receiver
  let senderManagement := managementHost config.sender
  let receiverBenchmark := benchmarkIp config.receiver
  let senderBenchmark := benchmarkIp config.sender
  if config.topology = "local_loopback".toList then
    check (isLocal receiverManagement ∧ isLocal senderManagement ∧ isLocal receiverBenchmark ∧
        isLocal senderBenchmark ∧ interface = loopbackInterface)
      "local_loopback requires loopback control/data addresses and interface lo".toList
  else if config.topology = "distributed_ethernet".toList then
    check (¬ (isLocal receiverManagement ∨ isLocal senderManagement ∨
        receiverManagement = senderManagement ∨ receiverBenchmark = senderBenchmark ∨
        interface = loopbackInterface))
      "distributed_ethernet requires distinct management hosts and benchmark IPs".toList
  else
    check (¬ (isLocal receiverManagement ∨ ¬ isLocal senderManagement ∨
        receiverBenchmark = senderBenchmark ∨ interface = loopbackInterface ∨
        config.sender.interface = none ∨ config.sender.interface = some loopbackInterface))
      ("external_generator requires a remote receiver and local sender with distinct ".toList ++
        "dedicated Ethernet addresses".toList)

def validateNode (role : Text) (node : Node) : Except Text Unit :=
  [("project_root", node.projectRoot), ("build_preset", node.buildPreset),
    ("build_subdir", node.buildSubdir)].forM fun field =>
      check (field.2 ≠ some []) ("global.nodes.".toList ++ role ++ ".".toList ++ field.1.toList ++
        " must be a nonempty string".toList)

def validateNodes (config : GlobalConfig) : Except Text Unit := do
  check (config.topology ∈ ["local_loopback".toList, "distributed_ethernet".toList,
      "external_generator".toList])
    ("global.topology must be local_loopback, distributed_ethernet, or ".toList ++
      "external_generator".toList)
  [("receiver", config.receiver), ("sender", config.sender)].forM fun role =>
    check (managementHost role.2 ≠ [] ∧ benchmarkIp role.2 ≠ []) ("global.nodes.".toList ++
      role.1.toList ++ " requires management_host and benchmark_ip".toList)
  let interface := config.receiver.interface.getD []
  check (isInterface interface) "receiver interface is missing or invalid".toList
  validateTopology config interface
  (("receiver".toList, config.receiver) :: ("sender".toList, config.sender) :: config.others).forM
    fun role => validateNode role.1 role.2

def validateRuntime (runtime : Runtime) : Except Text Unit := do
  check (1 ≤ runtime.repetitions) "repetitions must be a positive integer".toList
  check (1 ≤ runtime.port ∧ runtime.port ≤ 65535) "port must be 1..65535".toList
  check (0 < runtime.receiverStartupSeconds) "receiver_startup_seconds must be positive".toList
  check (0 < runtime.shutdownTimeoutSeconds) "shutdown_timeout_seconds must be positive".toList
  check (0 ≤ runtime.postSenderDrainSeconds)
    "post_sender_drain_seconds must be nonnegative".toList
  [("receiver_cpu", runtime.receiverCpu), ("worker_cpu", runtime.workerCpu),
    ("sender_cpu", runtime.senderCpu)].forM fun field =>
      check (∀ cpu ∈ field.2, 0 ≤ cpu)
        (field.1.toList ++ " must be null or a nonnegative integer".toList)
  check (runtime.scheduler ∈ ["other".toList, "fifo".toList, "rr".toList])
    "scheduler must be other, fifo, or rr".toList
  check (¬ ((runtime.scheduler = "other".toList ∧ runtime.priority ≠ 0) ∨
      (runtime.scheduler ≠ "other".toList ∧ ¬ (1 ≤ runtime.priority ∧ runtime.priority ≤ 99))))
    "scheduler priority is inconsistent with policy".toList

/-- `value <= 0`, which no number that is none satisfies. -/
def atMostZero : Double → Bool
  | .finite value => value ≤ 0
  | .infinite negative => negative
  | .nan => false

def validateReceiver (name : Text) (receiver : ReceiverSettings) : Except Text Unit := do
  check (receiver.binary ∈ receiverBinaries) ("Unknown receiver binary: ".toList ++ receiver.binary)
  check (receiver.batchSizes ≠ [] ∧ ∀ batch ∈ receiver.batchSizes, 1 ≤ batch ∧ batch ≤ 1024)
    (name ++ ": batch_sizes must contain integers 1..1024".toList)
  check (receiver.binary = "receiver_baseline".toList → receiver.batchSizes = [1])
    (name ++ ": baseline only supports batch size 1".toList)
  [("work_ns", receiver.workNs), ("sample_every", receiver.sampleEvery)].forM fun field =>
    check (0 ≤ field.2) (name ++ ": receiver.".toList ++ field.1.toList ++
      " must be a nonnegative integer".toList)

def validateDuration (name : Text) (sender : SenderSettings) : Except Text Unit := do
  check (sender.mode ∈ ["steady".toList, "burst".toList, "flood".toList])
    (name ++ ": invalid sender mode or duration".toList)
  match sender.durationSeconds.seconds with
  | some seconds => check (¬ atMostZero seconds) (name ++ ": invalid sender mode or duration".toList)
  | none => throw "could not convert string to float".toList

def validateThreads (name : Text) (sender : SenderSettings) : Except Text Unit := do
  check (1 ≤ sender.sendBatchMax ∧ sender.sendBatchMax ≤ 1024)
    (name ++ ": send_batch_max must be 1..1024".toList)
  check (1 ≤ sender.batchWindowUs ∧ sender.batchWindowUs ≤ 1000000)
    (name ++ ": batch_window_us must be 1..1000000".toList)
  check (1 ≤ sender.threads ∧ sender.threads ≤ 128) (name ++ ": threads must be 1..128".toList)
  check (∀ cpus ∈ sender.cpus,
      (cpus.length : Int) = sender.threads ∧ cpus.Nodup ∧ ∀ cpu ∈ cpus, 0 ≤ cpu)
    (name ++ ": cpus must contain one distinct nonnegative CPU per thread".toList)
  check (¬ (1 < sender.threads ∧ sender.cpus = none))
    (name ++ ": multiple sender threads require cpus".toList)
  check (¬ (sender.mode = "burst".toList ∧ 1 < sender.threads))
    (name ++ ": burst mode supports one sender thread".toList)

def validateSender (name : Text) (sender : SenderSettings) : Except Text Unit := do
  validateDuration name sender
  check (sender.ratesPps ≠ [] ∧ ∀ rate ∈ sender.ratesPps, 0 < rate)
    (name ++ ": rates_pps must be positive integers".toList)
  check (16 ≤ sender.payloadSize ∧ sender.payloadSize ≤ 65507)
    (name ++ ": payload_size must be 16..65507".toList)
  check (sender.mode = "steady".toList → sender.burstSizes = [1])
    (name ++ ": steady mode requires burst_sizes: [1]".toList)
  validateThreads name sender

def validateBenchmarks (names : List Text) : List BenchmarkSettings → Except Text Unit
  | [] => .ok ()
  | benchmark :: rest =>
      if benchmark.enabled then do
        check (isIdentifier benchmark.name ∧ benchmark.name ∉ names)
          "Benchmark names must be unique safe identifiers".toList
        validateReceiver benchmark.name benchmark.receiver
        validateSender benchmark.name benchmark.sender
        validateBenchmarks (benchmark.name :: names) rest
      else validateBenchmarks names rest

def validateConfig (config : Configuration) : Except Text Unit := do
  validateNodes config.globalConfig
  validateRuntime config.globalConfig.runtime
  check (config.benchmarks ≠ []) "At least one benchmark is required".toList
  validateBenchmarks [] config.benchmarks

/-! ## The campaign of a configuration -/

/-- A benchmark as `make_run_tuples` reads it. -/
def BenchmarkSettings.benchmark (runtime : Runtime) (settings : BenchmarkSettings) : Benchmark where
  enabled := settings.enabled
  name := String.ofList settings.name
  campaign := String.ofList settings.campaign
  repetitions := (settings.repetitions.getD runtime.repetitions).toNat
  rates := settings.sender.ratesPps
  bursts := settings.sender.burstSizes
  batches := settings.receiver.batchSizes
  profile := settings.profile
  pacingTrace := settings.sender.pacingTrace
  usesQualifiedRates := settings.usesQualifiedRates

def Configuration.campaign (config : Configuration) : Config where
  benchmarks := config.benchmarks.map (·.benchmark config.globalConfig.runtime)
  sharedNode := managementHost config.globalConfig.sender = managementHost config.globalConfig.receiver

/-! ## What is accepted -/

theorem check_eq_ok {condition : Prop} [Decidable condition] {message : Text} :
    check condition message = .ok () ↔ condition := by
  by_cases holds : condition
  · simp [check, holds]
  · simp [check, holds]

structure Runtime.Valid (runtime : Runtime) : Prop where
  port : 1 ≤ runtime.port ∧ runtime.port ≤ 65535
  receiverCpu : ∀ cpu ∈ runtime.receiverCpu, 0 ≤ cpu
  workerCpu : ∀ cpu ∈ runtime.workerCpu, 0 ≤ cpu
  senderCpu : ∀ cpu ∈ runtime.senderCpu, 0 ≤ cpu
  scheduler : runtime.scheduler = "other".toList ∨ runtime.scheduler = "fifo".toList ∨
    runtime.scheduler = "rr".toList
  priority : if runtime.scheduler = "other".toList then runtime.priority = 0
    else 1 ≤ runtime.priority ∧ runtime.priority ≤ 99

structure ReceiverSettings.Valid (receiver : ReceiverSettings) : Prop where
  binary : receiver.binary ∈ receiverBinaries
  batches : ∀ batch ∈ receiver.batchSizes, 1 ≤ batch ∧ batch ≤ 1024
  baseline : receiver.binary = "receiver_baseline".toList → receiver.batchSizes = [1]
  work : 0 ≤ receiver.workNs
  samples : 0 ≤ receiver.sampleEvery

structure SenderSettings.Valid (sender : SenderSettings) : Prop where
  mode : sender.mode = "steady".toList ∨ sender.mode = "burst".toList ∨
    sender.mode = "flood".toList
  rates : ∀ rate ∈ sender.ratesPps, 0 < rate
  payload : 16 ≤ sender.payloadSize ∧ sender.payloadSize ≤ 65507
  steady : sender.mode = "steady".toList → sender.burstSizes = [1]
  batch : 1 ≤ sender.sendBatchMax ∧ sender.sendBatchMax ≤ 1024
  window : 1 ≤ sender.batchWindowUs ∧ sender.batchWindowUs ≤ 1000000
  threads : 1 ≤ sender.threads ∧ sender.threads ≤ 128
  cpus : ∀ cpus ∈ sender.cpus,
    (cpus.length : Int) = sender.threads ∧ cpus.Nodup ∧ ∀ cpu ∈ cpus, 0 ≤ cpu
  placed : 1 < sender.threads → sender.cpus ≠ none
  burst : sender.mode = "burst".toList → sender.threads ≤ 1

private theorem validateRuntime_valid {runtime : Runtime}
    (accepted : validateRuntime runtime = .ok ()) :
    runtime.Valid := by
  simp only [validateRuntime, bind_unit_eq_ok, check_eq_ok, forM_eq_ok, List.forall_mem_cons]
    at accepted
  rcases accepted with ⟨-, port, -, -, -, ⟨receiverCpu, workerCpu, senderCpu, -⟩, scheduler,
    priority⟩
  refine ⟨port, receiverCpu, workerCpu, senderCpu, by simpa using scheduler, ?_⟩
  by_cases other : runtime.scheduler = "other".toList
  · rw [if_pos other]
    by_contra nonzero
    exact priority (Or.inl ⟨other, nonzero⟩)
  · rw [if_neg other]
    by_contra outside
    exact priority (Or.inr ⟨other, outside⟩)

theorem validateReceiver_valid {name : Text} {receiver : ReceiverSettings}
    (accepted : validateReceiver name receiver = .ok ()) : receiver.Valid := by
  simp only [validateReceiver, bind_unit_eq_ok, check_eq_ok, forM_eq_ok, List.forall_mem_cons]
    at accepted
  rcases accepted with ⟨binary, ⟨-, batches⟩, baseline, work, samples, -⟩
  exact ⟨binary, batches, baseline, work, samples⟩

theorem validateSender_valid {name : Text} {sender : SenderSettings}
    (accepted : validateSender name sender = .ok ()) : sender.Valid := by
  simp only [validateSender, validateDuration, validateThreads, bind_unit_eq_ok, check_eq_ok]
    at accepted
  rcases accepted with ⟨⟨mode, -⟩, ⟨-, rates⟩, payload, steady, batch, window, threads, cpus,
    placed, burst⟩
  refine ⟨by simpa using mode, rates, payload, steady, batch, window, threads, cpus, ?_, ?_⟩
  · intro several unplaced
    exact placed ⟨several, unplaced⟩
  · intro bursts
    by_contra several
    exact burst ⟨bursts, Int.not_le.mp several⟩

structure BenchmarkSettings.Valid (benchmark : BenchmarkSettings) : Prop where
  name : isIdentifier benchmark.name
  receiver : benchmark.receiver.Valid
  sender : benchmark.sender.Valid

private theorem validateBenchmarks_valid {names : List Text} {benchmarks : List BenchmarkSettings}
    (accepted : validateBenchmarks names benchmarks = .ok ()) :
    (∀ benchmark ∈ benchmarks, benchmark.enabled →
      benchmark.Valid ∧ benchmark.name ∉ names) ∧
    ((benchmarks.filter (·.enabled)).map (·.name)).Nodup := by
  induction benchmarks generalizing names with
  | nil =>
      constructor
      · intro benchmark member
        cases member
      · exact List.nodup_nil
  | cons benchmark rest induction =>
      rw [validateBenchmarks] at accepted
      by_cases enabled : benchmark.enabled
      · rw [if_pos enabled] at accepted
        simp only [bind_unit_eq_ok, check_eq_ok] at accepted
        rcases accepted with ⟨⟨identifier, fresh⟩, receiver, sender, later⟩
        rcases induction later with ⟨valid, distinct⟩
        have first : benchmark.Valid :=
          ⟨identifier, validateReceiver_valid receiver, validateSender_valid sender⟩
        constructor
        · rw [List.forall_mem_cons]
          refine ⟨fun _ => ⟨first, fresh⟩, ?_⟩
          intro other member otherEnabled
          rcases valid other member otherEnabled with ⟨otherValid, notSeen⟩
          exact ⟨otherValid, fun seen => notSeen (List.mem_cons_of_mem _ seen)⟩
        · rw [List.filter_cons_of_pos enabled, List.map_cons, List.nodup_cons]
          refine ⟨?_, distinct⟩
          intro repeated
          rcases List.mem_map.mp repeated with ⟨other, member, same⟩
          rcases List.mem_filter.mp member with ⟨member, otherEnabled⟩
          exact (valid other member otherEnabled).2 (same ▸ List.mem_cons_self)
      · rw [if_neg enabled] at accepted
        rcases induction accepted with ⟨valid, distinct⟩
        rw [List.filter_cons_of_neg enabled, List.forall_mem_cons]
        exact ⟨⟨fun impossible => absurd impossible enabled, valid⟩, distinct⟩

structure Configuration.Valid (config : Configuration) : Prop where
  runtime : config.globalConfig.runtime.Valid
  benchmarks : ∀ benchmark ∈ config.benchmarks, benchmark.enabled → benchmark.Valid
  names : ((config.benchmarks.filter (·.enabled)).map (·.name)).Nodup

theorem validateConfig_valid {config : Configuration} (accepted : validateConfig config = .ok ()) :
    config.Valid := by
  simp only [validateConfig, bind_unit_eq_ok] at accepted
  rcases accepted with ⟨-, runtime, -, benchmarks⟩
  rcases validateBenchmarks_valid benchmarks with ⟨valid, names⟩
  exact ⟨validateRuntime_valid runtime, fun benchmark member enabled =>
    (valid benchmark member enabled).1, names⟩

end NetLatencyLab.Harness
