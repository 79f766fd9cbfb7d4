import NetLatencyLab.Harness.Configuration
import NetLatencyLab.Harness.RunPlan
import NetLatencyLab.Receiver.Options
import NetLatencyLab.Sender.Options

/-! # The commands of a run

`receiver_command` and `sender_command` build the argument vectors that the
binaries check again, with rules of their own. -/

namespace NetLatencyLab.Harness

open CommandLine (getoptLong integer largestU32 largestU64 largestInt)
open PythonText (Text)

/-! ## Argument vectors -/

def nodeProjectRoot (config : GlobalConfig) (node : Node) : Text :=
  node.projectRoot.getD config.remoteProjectRoot

/-- `node_runtime`, as far as commands go. -/
def nodeRuntime (runtime : Runtime) (node : Node) : Runtime :=
  { runtime with buildSubdir := node.buildSubdir.getD runtime.buildSubdir }

def binaryPath (projectRoot : Text) (runtime : Runtime) (binary : Text) : Text :=
  projectRoot ++ "/build/".toList ++
    (if runtime.buildSubdir = [] then [] else runtime.buildSubdir ++ ['/']) ++ binary

/-- `receiver_command` after the path of the binary. -/
def receiverArguments (receiver : ReceiverSettings) (runtime : Runtime) (output stats : Text)
    (batch : Int) : List Text :=
  ["--output".toList, output, "--stats".toList, stats, "--port".toList, integer runtime.port,
    "--max-packets".toList, "0".toList, "--scheduler".toList, runtime.scheduler,
    "--priority".toList, integer runtime.priority, "--work".toList, integer receiver.workNs,
    "--sample-every".toList, integer receiver.sampleEvery,
    "--socket-buffer".toList, integer runtime.receiveBufferBytes] ++
  (match runtime.receiverCpu with
    | some cpu => ["--cpu".toList, integer cpu]
    | none => []) ++
  (if receiver.binary ∈ ["receiver_batched".toList, "receiver_threaded".toList] then
    ["--batch".toList, integer batch]
  else []) ++
  (match runtime.workerCpu with
    | some cpu =>
        if receiver.binary = "receiver_threaded".toList then ["--worker-cpu".toList, integer cpu]
        else []
    | none => [])

def receiverCommand (projectRoot : Text) (receiver : ReceiverSettings) (runtime : Runtime)
    (output stats : Text) (batch : Int) : List Text :=
  runtime.privilegePrefix ++ binaryPath projectRoot runtime receiver.binary ::
    receiverArguments receiver runtime output stats batch

/-- `sender_command` after the path of the binary. -/
def senderArguments (receiverHost : Text) (benchmark : BenchmarkSettings) (runtime : Runtime)
    (stats : Text) (rate burst : Int) (pacingTrace : Option Text) : List Text :=
  let sender := benchmark.sender
  ["--ip".toList, receiverHost, "--port".toList, integer runtime.port,
    "--rate".toList, integer rate, "--duration".toList, sender.durationSeconds.text,
    "--mode".toList, sender.mode, "--burst".toList, integer burst,
    "--payload-size".toList, integer sender.payloadSize,
    "--timestamp-every".toList, integer benchmark.receiver.sampleEvery,
    "--socket-buffer".toList, integer runtime.sendBufferBytes, "--stats".toList, stats,
    "--send-batch-max".toList, integer sender.sendBatchMax,
    "--batch-window-us".toList, integer sender.batchWindowUs,
    "--threads".toList, integer sender.threads] ++
  (match sender.cpus, runtime.senderCpu with
    | some cpus, _ => ["--cpus".toList, [','].intercalate (cpus.map integer)]
    | none, some cpu => ["--cpu".toList, integer cpu]
    | none, none => []) ++
  (match pacingTrace with
    | some path => ["--pacing-trace".toList, path]
    | none => [])

def senderCommand (projectRoot receiverHost : Text) (benchmark : BenchmarkSettings)
    (runtime : Runtime) (stats : Text) (rate burst : Int) (pacingTrace : Option Text) :
    List Text :=
  runtime.privilegePrefix ++ binaryPath projectRoot runtime "sender".toList ::
    senderArguments receiverHost benchmark runtime stats rate burst pacingTrace

/-- What the binary finds in its `argv` after its own name. -/
def startedArguments (runtime : Runtime) (command : List Text) : List Text :=
  command.drop (runtime.privilegePrefix.length + 1)

theorem startedArguments_append (runtime : Runtime) (path : Text) (arguments : List Text) :
    startedArguments runtime (runtime.privilegePrefix ++ path :: arguments) = arguments := by
  rw [startedArguments, List.drop_append]
  simp

/-! ## The receivers -/

def receiverMain (binary : Text) (arguments : List Text) :
    Except Receiver.Options.Refusal Receiver.Options.Config :=
  if binary = "receiver_baseline".toList then Receiver.Options.baselineMain arguments
  else if binary = "receiver_batched".toList then Receiver.Options.batchedMain arguments
  else Receiver.Options.threadedMain arguments

/-- What the receivers check and `validate_config` does not. -/
structure ReceiverLaunches (runtime : Runtime) (receiver : ReceiverSettings) : Prop where
  work : receiver.workNs ≤ largestU64
  samples : receiver.sampleEvery ≤ largestU64
  buffer : 0 ≤ runtime.receiveBufferBytes ∧ runtime.receiveBufferBytes ≤ largestInt
  cpu : ∀ cpu ∈ runtime.receiverCpu, cpu ≤ 1023
  worker : receiver.binary = "receiver_threaded".toList → ∀ cpu ∈ runtime.workerCpu, cpu ≤ 1023
  placed : receiver.binary = "receiver_threaded".toList → runtime.receiverCpu ≠ none →
    runtime.workerCpu ≠ none ∧ runtime.workerCpu ≠ runtime.receiverCpu

section

open Receiver.Options

variable {runtime : Runtime} {receiver : ReceiverSettings} {output stats : Text} {batch : Int}

theorem receiverArguments_eq :
    receiverArguments receiver runtime output stats batch =
      commonArguments output stats runtime.scheduler runtime.port runtime.priority receiver.workNs
          receiver.sampleEvery runtime.receiveBufferBytes ++
        (optionalArgument "cpu".toList runtime.receiverCpu ++
          ((if receiver.binary ∈ ["receiver_batched".toList, "receiver_threaded".toList] then
              [CommandLine.flag "batch".toList, integer batch] else []) ++
            ((if receiver.binary = "receiver_threaded".toList then
                optionalArgument "worker-cpu".toList runtime.workerCpu else []) ++ []))) := by
  have cpu : (match runtime.receiverCpu with
      | some cpu => ["--cpu".toList, integer cpu]
      | none => []) = optionalArgument "cpu".toList runtime.receiverCpu := by
    cases runtime.receiverCpu with
    | none => rfl
    | some cpu => rfl
  have worker : (match runtime.workerCpu with
      | some cpu =>
          if receiver.binary = "receiver_threaded".toList then ["--worker-cpu".toList, integer cpu]
          else []
      | none => []) = if receiver.binary = "receiver_threaded".toList then
          optionalArgument "worker-cpu".toList runtime.workerCpu else [] := by
    cases runtime.workerCpu with
    | none => exact (ite_self _).symm
    | some cpu => rfl
  rw [List.append_nil, ← List.append_assoc, ← List.append_assoc, ← cpu, ← worker]
  rfl

theorem validateScheduler_of_valid (valid : runtime.Valid) {config : Receiver.Options.Config}
    (scheduler : config.scheduler = runtime.scheduler)
    (priority : config.priority = runtime.priority) : validateScheduler config = .ok () := by
  apply validateScheduler_eq_ok
  · rw [scheduler]
    exact valid.scheduler
  · rw [scheduler, priority]
    exact valid.priority

private theorem priority_range (valid : runtime.Valid) :
    0 ≤ runtime.priority ∧ runtime.priority ≤ 99 := by
  have consistent := valid.priority
  split at consistent
  · omega
  · omega

theorem common_iff (valid : runtime.Valid) (validReceiver : receiver.Valid) :
    ((1 ≤ runtime.port ∧ runtime.port ≤ 65535) ∧
      (0 ≤ runtime.priority ∧ runtime.priority ≤ 99) ∧
      (0 ≤ receiver.workNs ∧ receiver.workNs ≤ largestU64) ∧
      (0 ≤ receiver.sampleEvery ∧ receiver.sampleEvery ≤ largestU64) ∧
      (0 ≤ runtime.receiveBufferBytes ∧ runtime.receiveBufferBytes ≤ largestInt)) ↔
    receiver.workNs ≤ largestU64 ∧ receiver.sampleEvery ≤ largestU64 ∧
      (0 ≤ runtime.receiveBufferBytes ∧ runtime.receiveBufferBytes ≤ largestInt) := by
  constructor
  · intro ranges
    exact ⟨ranges.2.2.1.2, ranges.2.2.2.1.2, ranges.2.2.2.2⟩
  · intro ranges
    exact ⟨valid.port, priority_range valid, ⟨validReceiver.work, ranges.1⟩,
      ⟨validReceiver.samples, ranges.2.1⟩, ranges.2.2⟩

theorem existing_iff {value : Option Int} (valid : ∀ cpu ∈ value, 0 ≤ cpu) :
    (∀ cpu ∈ value, 0 ≤ cpu ∧ cpu ≤ cpuSetSize - 1) ↔ ∀ cpu ∈ value, cpu ≤ 1023 := by
  constructor
  · exact fun existing cpu given => (existing cpu given).2
  · exact fun existing cpu given => ⟨valid cpu given, existing cpu given⟩

private theorem baseline_launches_iff (valid : runtime.Valid) (validReceiver : receiver.Valid)
    (baseline : receiver.binary = "receiver_baseline".toList) :
    (∃ config, baselineMain (receiverArguments receiver runtime output stats batch) =
        .ok config) ↔ ReceiverLaunches runtime receiver := by
  have unbatched : receiver.binary ∉ ["receiver_batched".toList, "receiver_threaded".toList] := by
    rw [baseline]
    decide
  have unthreaded : receiver.binary ≠ "receiver_threaded".toList := by
    rw [baseline]
    decide
  rw [receiverArguments_eq, baselineMain_iff, commonArguments_iff understands_common,
    common_iff valid validReceiver,
    optionalArgument_iff (-1) (understands_common.found 3 rfl) (by decide) rfl,
    existing_iff valid.receiverCpu, if_neg unbatched, if_neg unthreaded, List.nil_append,
    List.nil_append, CommandLine.getoptLong_nil_iff]
  constructor
  · intro accepted
    rcases accepted with ⟨⟨work, samples, buffer⟩, cpu, _⟩
    exact ⟨work, samples, buffer, cpu, fun threaded => absurd threaded unthreaded,
      fun threaded => absurd threaded unthreaded⟩
  · intro launches
    exact ⟨⟨launches.work, launches.samples, launches.buffer⟩, launches.cpu,
      validateScheduler_of_valid valid rfl rfl⟩

private theorem batched_launches_iff (valid : runtime.Valid) (validReceiver : receiver.Valid)
    (listed : batch ∈ receiver.batchSizes) (batched : receiver.binary = "receiver_batched".toList) :
    (∃ config, batchedMain (receiverArguments receiver runtime output stats batch) =
        .ok config) ↔ ReceiverLaunches runtime receiver := by
  have withBatch : receiver.binary ∈ ["receiver_batched".toList, "receiver_threaded".toList] := by
    rw [batched]
    decide
  have unthreaded : receiver.binary ≠ "receiver_threaded".toList := by
    rw [batched]
    decide
  rw [receiverArguments_eq, batchedMain_iff, commonArguments_iff understands_batched,
    common_iff valid validReceiver,
    optionalArgument_iff (-1) (understands_batched.found 3 rfl) (by decide) rfl,
    existing_iff valid.receiverCpu, if_pos withBatch, if_neg unthreaded, List.nil_append,
    List.cons_append, List.cons_append, List.nil_append,
    u64Option_iff (understands_batched.distinct.calls List.mem_cons_self)
      (by decide), CommandLine.getoptLong_nil_iff]
  constructor
  · intro accepted
    rcases accepted with ⟨⟨work, samples, buffer⟩, cpu, _⟩
    exact ⟨work, samples, buffer, cpu, fun threaded => absurd threaded unthreaded,
      fun threaded => absurd threaded unthreaded⟩
  · intro launches
    exact ⟨⟨launches.work, launches.samples, launches.buffer⟩, launches.cpu,
      validReceiver.batches batch listed, validateScheduler_of_valid valid rfl rfl⟩

private theorem placed_iff {cpu worker : Option Int} (validCpu : ∀ given ∈ cpu, 0 ≤ given)
    (validWorker : ∀ given ∈ worker, 0 ≤ given) :
    (¬ (0 ≤ cpu.getD (-1) ∧ worker.getD (-1) < 0) ∧
      ¬ (0 ≤ worker.getD (-1) ∧ worker.getD (-1) = cpu.getD (-1))) ↔
      (cpu ≠ none → worker ≠ none ∧ worker ≠ cpu) := by
  cases cpu with
  | none =>
      cases worker with
      | none => simp
      | some worker =>
          have positive := validWorker worker rfl
          simp
          omega
  | some cpu =>
      have positive := validCpu cpu rfl
      cases worker with
      | none => simp [positive]
      | some worker =>
          have workerPositive := validWorker worker rfl
          simp
          omega

private theorem threaded_launches_iff (valid : runtime.Valid) (validReceiver : receiver.Valid)
    (listed : batch ∈ receiver.batchSizes)
    (threaded : receiver.binary = "receiver_threaded".toList) :
    (∃ config, threadedMain (receiverArguments receiver runtime output stats batch) =
        .ok config) ↔ ReceiverLaunches runtime receiver := by
  have withBatch : receiver.binary ∈ ["receiver_batched".toList, "receiver_threaded".toList] := by
    rw [threaded]
    decide
  rw [receiverArguments_eq, threadedMain_iff, commonArguments_iff understands_threaded,
    common_iff valid validReceiver,
    optionalArgument_iff (-1) (understands_threaded.found 3 rfl) (by decide) rfl,
    existing_iff valid.receiverCpu, if_pos withBatch, if_pos threaded,
    List.cons_append, List.cons_append, List.nil_append,
    u64Option_iff (understands_threaded.distinct.calls
      (List.mem_cons_of_mem _ List.mem_cons_self)) (by decide),
    optionalArgument_iff (-1) (understands_threaded.distinct.calls List.mem_cons_self) (by decide) rfl,
    existing_iff valid.workerCpu, CommandLine.getoptLong_nil_iff, validatePlacement_eq_ok]
  have placed := placed_iff valid.receiverCpu valid.workerCpu
  constructor
  · intro accepted
    rcases accepted with ⟨⟨work, samples, buffer⟩, cpu, _, worker, _, placement⟩
    exact ⟨work, samples, buffer, cpu, fun _ => worker, fun _ => placed.mp placement⟩
  · intro launches
    exact ⟨⟨launches.work, launches.samples, launches.buffer⟩, launches.cpu,
      validReceiver.batches batch listed, launches.worker threaded,
      validateScheduler_of_valid valid rfl rfl, placed.mpr (launches.placed threaded)⟩

theorem receiver_launches_iff (valid : runtime.Valid) (validReceiver : receiver.Valid)
    (listed : batch ∈ receiver.batchSizes) :
    (∃ config, receiverMain receiver.binary
      (receiverArguments receiver runtime output stats batch) = .ok config) ↔
        ReceiverLaunches runtime receiver := by
  have binary := validReceiver.binary
  simp only [receiverBinaries, List.mem_cons, List.not_mem_nil, or_false] at binary
  rw [receiverMain]
  rcases binary with baseline | batched | threaded
  · rw [if_pos baseline]
    exact baseline_launches_iff valid validReceiver baseline
  · rw [if_neg (by rw [batched]; decide), if_pos batched]
    exact batched_launches_iff valid validReceiver listed batched
  · rw [if_neg (by rw [threaded]; decide), if_neg (by rw [threaded]; decide)]
    exact threaded_launches_iff valid validReceiver listed threaded

end

/-! ## The sender -/

/-- What the sender checks and `validate_config` does not. -/
structure SenderLaunches (platform : Sender.Options.FloatingPoint) (runtime : Runtime)
    (benchmark : BenchmarkSettings) (host : Text) (rate burst : Int) : Prop where
  address : Sender.Options.inetPton host
  rate : rate ≤ largestU64
  duration : 0 < platform.seconds benchmark.sender.durationSeconds.text ∧
    platform.seconds benchmark.sender.durationSeconds.text ≤ Sender.Options.maximumDurationSeconds
  nanoseconds :
    platform.nanoseconds (platform.seconds benchmark.sender.durationSeconds.text) ≠ 0
  burst : 1 ≤ burst ∧ burst ≤ largestU32
  samples : benchmark.receiver.sampleEvery ≤ largestU64
  buffer : 0 ≤ runtime.sendBufferBytes ∧ runtime.sendBufferBytes ≤ largestInt
  cpus : ∀ cpus ∈ benchmark.sender.cpus, ∀ cpu ∈ cpus, cpu ≤ 1023
  cpu : benchmark.sender.cpus = none → ∀ cpu ∈ runtime.senderCpu, cpu ≤ 1023

section

open Sender.Options

variable {platform : FloatingPoint} {runtime : Runtime} {benchmark : BenchmarkSettings}
variable {host stats : Text} {rate burst : Int} {pacingTrace : Option Text}

def senderSettings (host : Text) (benchmark : BenchmarkSettings) (runtime : Runtime)
    (stats : Text) (rate burst : Int) : Settings where
  host := host
  port := runtime.port
  rate := rate
  duration := benchmark.sender.durationSeconds.text
  mode := benchmark.sender.mode
  burst := burst
  payload := benchmark.sender.payloadSize
  samples := benchmark.receiver.sampleEvery
  buffer := runtime.sendBufferBytes
  stats := stats
  batch := benchmark.sender.sendBatchMax
  window := benchmark.sender.batchWindowUs
  threads := benchmark.sender.threads

private theorem pacing_iff {config : Sender.Options.Config} {Post : Sender.Options.Config → Prop} :
    (∃ final, getoptLong (interfaceOf platform)
        (match pacingTrace with
          | some path => ["--pacing-trace".toList, path]
          | none => []) config = .ok final ∧ Post final) ↔
      Post { config with pacingTracePath := pacingTrace.getD config.pacingTracePath } := by
  cases pacingTrace with
  | none => exact CommandLine.getoptLong_nil_iff
  | some path =>
      show (∃ final, getoptLong (interfaceOf platform)
        [CommandLine.flag "pacing-trace".toList, path] config = .ok final ∧ Post final) ↔ _
      rw [CommandLine.getoptLong_ok (found 15 rfl) rfl]
      exact CommandLine.getoptLong_nil_iff

private theorem inRange_iff (valid : runtime.Valid) (validBenchmark : benchmark.Valid)
    (listed : rate ∈ benchmark.sender.ratesPps) :
    (senderSettings host benchmark runtime stats rate burst).InRange platform ↔
      rate ≤ largestU64 ∧
      (0 < platform.seconds benchmark.sender.durationSeconds.text ∧
        platform.seconds benchmark.sender.durationSeconds.text ≤ maximumDurationSeconds) ∧
      (1 ≤ burst ∧ burst ≤ largestU32) ∧ benchmark.receiver.sampleEvery ≤ largestU64 ∧
      (0 ≤ runtime.sendBufferBytes ∧ runtime.sendBufferBytes ≤ largestInt) := by
  have sender := validBenchmark.sender
  constructor
  · intro ranges
    exact ⟨ranges.rate.2, ranges.duration, ranges.burst, ranges.samples.2, ranges.buffer⟩
  · intro ranges
    rcases ranges with ⟨fits, duration, burst, samples, buffer⟩
    exact ⟨valid.port, ⟨sender.rates rate listed, fits⟩, duration, burst, sender.payload,
      ⟨validBenchmark.receiver.samples, samples⟩, buffer, sender.batch, sender.window,
      sender.threads⟩

private theorem validate_iff (valid : benchmark.sender.Valid)
    (listed : burst ∈ benchmark.sender.burstSizes)
    {config : Sender.Options.Config} (mode : config.mode = benchmark.sender.mode)
    (size : config.burstSize = burst.toNat)
    (threads : config.threads = benchmark.sender.threads.toNat)
    (cpus : config.cpus = benchmark.sender.cpus.getD [])
    (cpu : benchmark.sender.cpus ≠ none → config.cpu = -1) :
    validate platform config = .ok () ↔
      platform.nanoseconds config.durationSeconds ≠ 0 ∧ inetPton config.destination := by
  have several := valid.threads.1
  have steady : ¬ (config.mode = "steady".toList ∧ config.burstSize ≠ 1) := by
    intro wrong
    have bursts := valid.steady (mode ▸ wrong.1)
    rw [bursts, List.mem_singleton] at listed
    rw [size, listed] at wrong
    exact wrong.2 rfl
  have single : ¬ (config.mode = "burst".toList ∧ config.threads ≠ 1) := by
    intro wrong
    have one := valid.burst (mode ▸ wrong.1)
    omega
  have counted : ¬ (config.cpus ≠ [] ∧ config.cpus.length ≠ config.threads) := by
    intro wrong
    cases given : benchmark.sender.cpus with
    | none => exact wrong.1 (by rw [cpus, given]; rfl)
    | some placed =>
        have length := (valid.cpus placed given).1
        rw [cpus, given, Option.getD_some, threads] at wrong
        omega
  have exclusive : ¬ (config.cpus ≠ [] ∧ 0 ≤ config.cpu) := by
    intro wrong
    cases given : benchmark.sender.cpus with
    | none => exact wrong.1 (by rw [cpus, given]; rfl)
    | some placed =>
        have unset := cpu (by rw [given]; exact Option.some_ne_none placed)
        omega
  have placed : ¬ (1 < config.threads ∧ config.cpus = []) := by
    intro wrong
    cases given : benchmark.sender.cpus with
    | none => exact valid.placed (by omega) given
    | some placed =>
        have length := (valid.cpus placed given).1
        rw [cpus, given, Option.getD_some] at wrong
        rw [wrong.2, List.length_nil] at length
        omega
  rw [validate_eq_ok (mode ▸ valid.mode)]
  constructor
  · exact fun accepted => accepted.2.2.2.2.2
  · exact fun accepted => ⟨steady, single, counted, exclusive, placed, accepted⟩

private theorem cpus_ne_nil (valid : benchmark.sender.Valid) {cpus : List Int}
    (given : benchmark.sender.cpus = some cpus) : cpus ≠ [] := by
  intro empty
  have length := (valid.cpus cpus given).1
  have several := valid.threads.1
  rw [empty, List.length_nil] at length
  omega

def placedConfig (settings : Settings) (platform : FloatingPoint) (cpus : Option (List Int))
    (cpu : Option Int) : Sender.Options.Config :=
  { settings.config platform with
    cpus := cpus.getD []
    cpu := if cpus = none then cpu.getD (-1) else -1 }

private theorem placement_iff (valid : runtime.Valid) (validSender : benchmark.sender.Valid)
    (settings : Settings) (rest : List Text) (Post : Sender.Options.Config → Prop) :
    (∃ final, getoptLong (interfaceOf platform)
        ((match benchmark.sender.cpus, runtime.senderCpu with
          | some cpus, _ => ["--cpus".toList, [','].intercalate (cpus.map integer)]
          | none, some cpu => ["--cpu".toList, integer cpu]
          | none, none => []) ++ rest) (settings.config platform) = .ok final ∧ Post final) ↔
      ((∀ cpus ∈ benchmark.sender.cpus, ∀ cpu ∈ cpus, cpu ≤ 1023) ∧
        (benchmark.sender.cpus = none → ∀ cpu ∈ runtime.senderCpu, cpu ≤ 1023)) ∧
        ∃ final, getoptLong (interfaceOf platform) rest
          (placedConfig settings platform benchmark.sender.cpus runtime.senderCpu) =
            .ok final ∧ Post final := by
  cases given : benchmark.sender.cpus with
  | some cpus =>
      have checked := validSender.cpus cpus given
      have existing : (∀ cpu ∈ cpus, 0 ≤ cpu ∧ cpu ≤ 1023) ↔
          (∀ placed ∈ some cpus, ∀ cpu ∈ placed, cpu ≤ 1023) ∧
            (some cpus = none → ∀ cpu ∈ runtime.senderCpu, cpu ≤ 1023) := by
        constructor
        · intro all
          refine ⟨?_, nofun⟩
          intro placed same cpu member
          cases same
          exact (all cpu member).2
        · exact fun all cpu member => ⟨checked.2.2 cpu member, all.1 cpus rfl cpu member⟩
      rw [← existing]
      exact cpus_iff (cpus_ne_nil validSender given) checked.2.1 Post
  | none =>
      cases pinned : runtime.senderCpu with
      | none =>
          constructor
          · exact fun accepted => ⟨⟨nofun, fun _ => nofun⟩, accepted⟩
          · exact fun accepted => accepted.2
      | some cpu =>
          have existing : (0 ≤ cpu ∧ cpu ≤ 1023) ↔
              (∀ placed ∈ (none : Option (List Int)), ∀ cpu ∈ placed, cpu ≤ 1023) ∧
                ((none : Option (List Int)) = none → ∀ other ∈ some cpu, other ≤ 1023) := by
            constructor
            · intro range
              refine ⟨nofun, ?_⟩
              intro _ other same
              cases same
              exact range.2
            · exact fun all => ⟨valid.senderCpu cpu pinned, all.2 rfl cpu rfl⟩
          rw [← existing]
          exact cpu_iff cpu Post

theorem sender_launches_iff (valid : runtime.Valid) (validBenchmark : benchmark.Valid)
    (rates : rate ∈ benchmark.sender.ratesPps) (bursts : burst ∈ benchmark.sender.burstSizes) :
    (∃ config, main platform
        (senderArguments host benchmark runtime stats rate burst pacingTrace) = .ok config) ↔
      SenderLaunches platform runtime benchmark host rate burst := by
  rw [main_iff]
  show (∃ config, getoptLong (interfaceOf platform)
    ((senderSettings host benchmark runtime stats rate burst).arguments ++ _ ++ _) {} =
      .ok config ∧ _) ↔ _
  rw [List.append_assoc, Settings.arguments_iff, inRange_iff valid validBenchmark rates,
    placement_iff valid validBenchmark.sender, pacing_iff,
    validate_iff validBenchmark.sender bursts rfl rfl rfl rfl fun placed => if_neg placed]
  constructor
  · intro accepted
    rcases accepted with ⟨⟨rate, duration, burst, samples, buffer⟩, ⟨cpus, cpu⟩, nanoseconds,
      address⟩
    exact ⟨address, rate, duration, nanoseconds, burst, samples, buffer, cpus, cpu⟩
  · intro launches
    exact ⟨⟨launches.rate, launches.duration, launches.burst, launches.samples, launches.buffer⟩,
      ⟨launches.cpus, launches.cpu⟩, launches.nanoseconds, launches.address⟩

end

/-! ## The commands of a run -/

/-- The binaries accept what `execute_run` starts them with. -/
structure CommandsAccepted (platform : Sender.Options.FloatingPoint) (config : Configuration)
    (benchmark : BenchmarkSettings) (item : RunTuple) (trace receiverStats senderStats : Text)
    (pacingTrace : Option Text) : Prop where
  receiver : ∃ read, receiverMain benchmark.receiver.binary
    (startedArguments config.globalConfig.runtime
      (receiverCommand (nodeProjectRoot config.globalConfig config.globalConfig.receiver)
        benchmark.receiver config.globalConfig.runtime trace receiverStats item.batch)) = .ok read
  sender : ∃ read, Sender.Options.main platform
    (startedArguments (nodeRuntime config.globalConfig.runtime config.globalConfig.sender)
      (senderCommand (nodeProjectRoot config.globalConfig config.globalConfig.sender)
        (benchmarkIp config.globalConfig.receiver) benchmark
        (nodeRuntime config.globalConfig.runtime config.globalConfig.sender) senderStats
        item.rate item.burst pacingTrace)) = .ok read

private theorem nodeRuntime_valid {runtime : Runtime} (valid : runtime.Valid) (node : Node) :
    (nodeRuntime runtime node).Valid :=
  ⟨valid.port, valid.receiverCpu, valid.workerCpu, valid.senderCpu, valid.scheduler,
    valid.priority⟩

theorem senderLaunches_nodeRuntime {platform : Sender.Options.FloatingPoint} {runtime : Runtime}
    {node : Node} {benchmark : BenchmarkSettings} {host : Text} {rate burst : Int} :
    SenderLaunches platform (nodeRuntime runtime node) benchmark host rate burst ↔
      SenderLaunches platform runtime benchmark host rate burst := by
  constructor
  · intro launches
    exact ⟨launches.address, launches.rate, launches.duration, launches.nanoseconds,
      launches.burst, launches.samples, launches.buffer, launches.cpus, launches.cpu⟩
  · intro launches
    exact ⟨launches.address, launches.rate, launches.duration, launches.nanoseconds,
      launches.burst, launches.samples, launches.buffer, launches.cpus, launches.cpu⟩

private theorem planned_of_mem {shuffle : List RunTuple → List RunTuple}
    (shuffles : ∀ items, (shuffle items).Perm items) {config : Configuration} {item : RunTuple}
    (planned : item ∈ plan shuffle config.campaign) {benchmark : BenchmarkSettings}
    (its : config.benchmarks[item.benchmarkIndex]? = some benchmark) :
    benchmark.enabled ∧ item.rate ∈ benchmark.sender.ratesPps ∧
      item.burst ∈ benchmark.sender.burstSizes ∧ item.batch ∈ benchmark.receiver.batchSizes := by
  rcases (mem_plan_iff shuffles).mp planned with ⟨read, listed, enabled, inside⟩
  rw [Configuration.campaign, List.getElem?_map, its, Option.map_some] at listed
  cases listed
  rw [mem_benchmarkTuples_iff] at inside
  exact ⟨enabled, inside.2.2⟩

/-- An accepted configuration leaves open exactly what the binaries check beyond it. -/
theorem commandsAccepted_iff {config : Configuration} (accepted : validateConfig config = .ok ())
    {shuffle : List RunTuple → List RunTuple} (shuffles : ∀ items, (shuffle items).Perm items)
    {item : RunTuple} (planned : item ∈ plan shuffle config.campaign)
    {benchmark : BenchmarkSettings}
    (its : config.benchmarks[item.benchmarkIndex]? = some benchmark)
    (platform : Sender.Options.FloatingPoint) (trace receiverStats senderStats : Text)
    (pacingTrace : Option Text) :
    CommandsAccepted platform config benchmark item trace receiverStats senderStats pacingTrace ↔
      ReceiverLaunches config.globalConfig.runtime benchmark.receiver ∧
      SenderLaunches platform config.globalConfig.runtime benchmark
        (benchmarkIp config.globalConfig.receiver) item.rate item.burst := by
  have valid := validateConfig_valid accepted
  rcases planned_of_mem shuffles planned its with ⟨enabled, rates, bursts, batches⟩
  have validBenchmark := valid.benchmarks benchmark (List.mem_of_getElem? its) enabled
  have validSender := nodeRuntime_valid valid.runtime config.globalConfig.sender
  constructor
  · intro commands
    have receiver := commands.receiver
    have sender := commands.sender
    rw [receiverCommand, startedArguments_append,
      receiver_launches_iff valid.runtime validBenchmark.receiver batches] at receiver
    rw [senderCommand, startedArguments_append,
      sender_launches_iff validSender validBenchmark rates bursts,
      senderLaunches_nodeRuntime] at sender
    exact ⟨receiver, sender⟩
  · intro launches
    constructor
    · rw [receiverCommand, startedArguments_append,
        receiver_launches_iff valid.runtime validBenchmark.receiver batches]
      exact launches.1
    · rw [senderCommand, startedArguments_append,
        sender_launches_iff validSender validBenchmark rates bursts, senderLaunches_nodeRuntime]
      exact launches.2

/-- A benchmark of the threaded receiver. -/
def threadedBenchmark : BenchmarkSettings where
  name := "threaded".toList
  receiver := { binary := "receiver_threaded".toList, batchSizes := [32] }
  sender :=
    { mode := "steady".toList
      durationSeconds := { text := "10".toList, seconds := some (.finite 10) }
      ratesPps := [1000], payloadSize := 64 }

/-- Both nodes are one host, whose receiver runs on CPU 2. -/
def pinnedConfig (workerCpu : Option Int) : Configuration where
  globalConfig :=
    { topology := "local_loopback".toList
      remoteProjectRoot := "/opt/net-latency-lab".toList
      receiver := { host := some "127.0.0.1".toList, interface := some "lo".toList }
      sender := { host := some "127.0.0.1".toList, interface := some "lo".toList }
      runtime :=
        { repetitions := 1, port := 49200, receiverStartupSeconds := 1
          shutdownTimeoutSeconds := 5, receiverCpu := some 2, workerCpu := workerCpu
          scheduler := "other".toList, priority := 0 } }
  benchmarks := [threadedBenchmark]

def threadedTuple : RunTuple where
  benchmarkIndex := 0
  benchmarkName := "threaded"
  campaign := "comparison"
  repetition := 1
  rate := 1000
  burst := 1
  batch := 32

/-- A platform that reads integers. -/
def integerPlatform : Sender.Options.FloatingPoint where
  strtod text := (CommandLine.fromChars largestU64 text).map fun value => .finite value
  nanoseconds seconds := (seconds * 10 ^ 9).floor.toNat

theorem placed_worker_launches :
    CommandsAccepted integerPlatform (pinnedConfig (some 3)) threadedBenchmark threadedTuple
      "trace.bin".toList "rx.json".toList "tx.json".toList none := by
  have accepted : validateConfig (pinnedConfig (some 3)) = .ok () := by decide +kernel
  have planned : threadedTuple ∈ plan id (pinnedConfig (some 3)).campaign := by decide +kernel
  have receiver : ReceiverLaunches (pinnedConfig (some 3)).globalConfig.runtime
      threadedBenchmark.receiver :=
    ⟨by decide, by decide, by decide, by decide, fun _ => by decide, fun _ _ => by decide⟩
  have sender : SenderLaunches integerPlatform (pinnedConfig (some 3)).globalConfig.runtime
      threadedBenchmark (benchmarkIp (pinnedConfig (some 3)).globalConfig.receiver)
      threadedTuple.rate threadedTuple.burst :=
    ⟨by decide +kernel, by decide, by decide +kernel, by decide +kernel, by decide, by decide,
      by decide, nofun, fun _ => nofun⟩
  exact (commandsAccepted_iff accepted (fun _ => List.Perm.refl _) planned rfl integerPlatform
    _ _ _ _).mpr ⟨receiver, sender⟩

/-- The harness lets the worker of a pinned receiver go anywhere; the receiver does not. -/
theorem unplaced_worker_refused :
    validateConfig (pinnedConfig none) = .ok () ∧
      threadedTuple ∈ plan id (pinnedConfig none).campaign ∧
      ∀ platform trace receiverStats senderStats pacingTrace,
        ¬ CommandsAccepted platform (pinnedConfig none) threadedBenchmark threadedTuple trace
          receiverStats senderStats pacingTrace := by
  refine ⟨by decide +kernel, by decide +kernel, ?_⟩
  intro platform trace receiverStats senderStats pacingTrace commands
  have accepted : validateConfig (pinnedConfig none) = .ok () := by decide +kernel
  have valid := validateConfig_valid accepted
  have validBenchmark := valid.benchmarks threadedBenchmark List.mem_cons_self rfl
  have listed : threadedTuple.batch ∈ threadedBenchmark.receiver.batchSizes := List.mem_cons_self
  have receiver := commands.receiver
  rw [receiverCommand, startedArguments_append,
    receiver_launches_iff valid.runtime validBenchmark.receiver listed] at receiver
  exact (receiver.placed rfl (Option.some_ne_none 2)).1 rfl

end NetLatencyLab.Harness
