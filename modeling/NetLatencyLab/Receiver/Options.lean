import NetLatencyLab.Foundation.CommandLine

/-! # Arguments of the receivers

The three receivers read nearly the same options and then check the scheduler;
the threaded one also checks where its two threads run. -/

namespace NetLatencyLab.Receiver.Options

open CommandLine (Handler Interface flag getoptLong getoptLong_ok fromChars fromCharsInt integer
  largestU64 largestInt)
open PythonText (Text decimal)

structure Config where
  variant : Text
  port : Nat := 49200
  outputPath : Text := "latency.bin".toList
  statsPath : Text := "receiver_stats.json".toList
  maxPackets : Nat := 0
  cpu : Int := -1
  workerCpu : Int := -1
  batchSize : Nat := 1
  workNs : Nat := 0
  sampleEvery : Nat := 1
  socketBufferBytes : Int := 0
  scheduler : Text := "other".toList
  priority : Int := 0
deriving DecidableEq

inductive Refusal
  | help
  | usage
  | leftOver
  | message (text : Text)
deriving DecidableEq

def Refusal.status : Refusal → Nat
  | .help => 0
  | _ => 2

def cpuSetSize : Int := 1024

/-! ## Single options -/

def invalid (name text smallest largest : Text) : Refusal :=
  .message ("Invalid ".toList ++ name ++ ": ".toList ++ text ++ " (expected ".toList ++ smallest ++
    "..".toList ++ largest ++ ")\n".toList)

def parseU64 (text : Text) (smallest largest : Nat) (name : Text) : Except Refusal Nat :=
  match fromChars largestU64 text with
  | some parsed =>
      if smallest ≤ parsed ∧ parsed ≤ largest then .ok parsed
      else .error (invalid name text (decimal smallest) (decimal largest))
  | none => .error (invalid name text (decimal smallest) (decimal largest))

def parseInt (text : Text) (smallest largest : Int) (name : Text) : Except Refusal Int :=
  match fromCharsInt text with
  | some parsed =>
      if smallest ≤ parsed ∧ parsed ≤ largest then .ok parsed
      else .error (invalid name text (integer smallest) (integer largest))
  | none => .error (invalid name text (integer smallest) (integer largest))

def textOption (store : Text → Config → Config) : Handler Config Refusal :=
  .argument fun text config => .ok (store text config)

def u64Option (smallest largest : Nat) (name : String) (store : Nat → Config → Config) :
    Handler Config Refusal :=
  .argument fun text config => do
    let value ← parseU64 text smallest largest name.toList
    pure (store value config)

def intOption (smallest largest : Int) (name : String) (store : Int → Config → Config) :
    Handler Config Refusal :=
  .argument fun text config => do
    let value ← parseInt text smallest largest name.toList
    pure (store value config)

/-! ## Option tables -/

def commonOptions : List (Text × Handler Config Refusal) :=
  [("output".toList, textOption fun text config => { config with outputPath := text }),
    ("stats".toList, textOption fun text config => { config with statsPath := text }),
    ("port".toList, u64Option 1 65535 "port" fun value config => { config with port := value }),
    ("cpu".toList, intOption 0 (cpuSetSize - 1) "CPU" fun value config =>
      { config with cpu := value }),
    ("max-packets".toList, u64Option 0 largestU64 "max packets" fun value config =>
      { config with maxPackets := value }),
    ("scheduler".toList, textOption fun text config => { config with scheduler := text }),
    ("priority".toList, intOption 0 99 "priority" fun value config =>
      { config with priority := value }),
    ("work".toList, u64Option 0 largestU64 "work" fun value config =>
      { config with workNs := value }),
    ("sample-every".toList, u64Option 0 largestU64 "sample every" fun value config =>
      { config with sampleEvery := value }),
    ("socket-buffer".toList, intOption 0 largestInt "socket buffer" fun value config =>
      { config with socketBufferBytes := value }),
    ("help".toList, .stop .help)]

def maxBatch : Nat := 1024

def batchOption : Text × Handler Config Refusal :=
  ("batch".toList, u64Option 1 maxBatch "batch" fun value config =>
    { config with batchSize := value })

def workerCpuOption : Text × Handler Config Refusal :=
  ("worker-cpu".toList, intOption 0 (cpuSetSize - 1) "worker CPU" fun value config =>
    { config with workerCpu := value })

/-- `"o:s:p:c:n:S:P:W:e:B:h"`, with the long options of the same values. -/
def commonLetters : List (Char × Text) :=
  [('o', "output".toList), ('s', "stats".toList), ('p', "port".toList), ('c', "cpu".toList),
    ('n', "max-packets".toList), ('S', "scheduler".toList), ('P', "priority".toList),
    ('W', "work".toList), ('e', "sample-every".toList), ('B', "socket-buffer".toList),
    ('h', "help".toList)]

def interfaceOf (letters : List (Char × Text)) (options : List (Text × Handler Config Refusal)) :
    Interface Config Refusal where
  letters := letters
  options := options
  unknown := .usage
  operand := .leftOver

def baselineInterface : Interface Config Refusal := interfaceOf commonLetters commonOptions

def batchedInterface : Interface Config Refusal :=
  interfaceOf (('b', "batch".toList) :: commonLetters) (batchOption :: commonOptions)

def threadedInterface : Interface Config Refusal :=
  interfaceOf (('w', "worker-cpu".toList) :: ('b', "batch".toList) :: commonLetters)
    (workerCpuOption :: batchOption :: commonOptions)

/-! ## The mains, as far as they may refuse their arguments -/

def validateScheduler (config : Config) : Except Refusal Unit :=
  if config.scheduler ≠ "other".toList ∧ config.scheduler ≠ "fifo".toList ∧
      config.scheduler ≠ "rr".toList then
    .error (.message ("Invalid scheduler: ".toList ++ config.scheduler ++
      " (expected other, fifo, or rr)\n".toList))
  else if config.scheduler = "other".toList ∧ config.priority ≠ 0 then
    .error (.message "Scheduler 'other' requires priority 0\n".toList)
  else if config.scheduler ≠ "other".toList ∧ (config.priority < 1 ∨ 99 < config.priority) then
    .error (.message "Realtime schedulers require priority 1..99\n".toList)
  else .ok ()

def validatePlacement (config : Config) : Except Refusal Unit :=
  if 0 ≤ config.cpu ∧ config.workerCpu < 0 then
    .error (.message
      "--cpu requires --worker-cpu; the worker would inherit the receiver core\n".toList)
  else if 0 ≤ config.workerCpu ∧ config.workerCpu = config.cpu then
    .error (.message "--worker-cpu must differ from --cpu\n".toList)
  else .ok ()

def baselineMain (arguments : List Text) : Except Refusal Config := do
  let config ← getoptLong baselineInterface arguments { variant := "baseline".toList }
  validateScheduler config
  pure config

def batchedMain (arguments : List Text) : Except Refusal Config := do
  let config ← getoptLong batchedInterface arguments
    { variant := "batched".toList, batchSize := 32 }
  validateScheduler config
  pure config

def threadedMain (arguments : List Text) : Except Refusal Config := do
  let config ← getoptLong threadedInterface arguments
    { variant := "threaded".toList, workerCpu := -1, batchSize := 32 }
  validateScheduler config
  validatePlacement config
  pure config

/-! ## Arguments that are integers -/

theorem parseU64_integer {smallest largest : Nat} (fits : largest ≤ largestU64) (value : Int)
    (name : Text) :
    parseU64 (integer value) smallest largest name =
      if smallest ≤ value ∧ value ≤ largest then .ok value.toNat
      else .error (invalid name (integer value) (decimal smallest) (decimal largest)) := by
  rw [parseU64]
  exact CommandLine.fromChars_range fits value _ _

private theorem parseInt_integer {smallest largest : Int}
    (fits : -(2 ^ 31) ≤ smallest ∧ largest ≤ 2 ^ 31 - 1) (value : Int) (name : Text) :
    parseInt (integer value) smallest largest name =
      if smallest ≤ value ∧ value ≤ largest then .ok value
      else .error (invalid name (integer value) (integer smallest) (integer largest)) := by
  rw [parseInt, CommandLine.fromCharsInt_integer]
  by_cases range : -(2 ^ 31) ≤ value ∧ value ≤ 2 ^ 31 - 1
  · rw [if_pos range]
  · rw [if_neg range, if_neg (by omega)]

structure Understands (interface : Interface Config Refusal) : Prop where
  distinct : interface.Distinct
  common : ∀ entry ∈ commonOptions, entry ∈ interface.options

theorem Understands.found {interface : Interface Config Refusal}
    (understands : Understands interface) (index : Nat) {name : Text}
    {handler : Handler Config Refusal} (listed : commonOptions[index]? = some (name, handler)) :
    interface.Calls (flag name) handler :=
  understands.distinct.calls (understands.common _ (List.mem_of_getElem? listed))

theorem understands_common : Understands baselineInterface :=
  ⟨⟨by decide, by decide +kernel⟩, fun _ member => member⟩

theorem understands_batched : Understands batchedInterface :=
  ⟨⟨by decide, by decide +kernel⟩, fun _ member => List.mem_cons_of_mem _ member⟩

theorem understands_threaded : Understands threadedInterface :=
  ⟨⟨by decide, by decide +kernel⟩,
    fun _ member => List.mem_cons_of_mem _ (List.mem_cons_of_mem _ member)⟩

section

variable {interface : Interface Config Refusal} {name : Text} {rest : List Text}
variable {config : Config}

theorem u64Option_iff {smallest largest : Nat} {label : String} {store : Nat → Config → Config}
    (found : interface.Calls (flag name) (u64Option smallest largest label store))
    (fits : largest ≤ largestU64) (value : Int) (Post : Config → Prop) :
    (∃ final, getoptLong interface (flag name :: integer value :: rest) config = .ok final ∧
        Post final) ↔
      (smallest ≤ value ∧ value ≤ largest) ∧
        ∃ final, getoptLong interface rest (store value.toNat config) = .ok final ∧ Post final := by
  apply CommandLine.getoptLong_iff found
  rw [parseU64_integer fits]
  by_cases range : smallest ≤ value ∧ value ≤ largest
  · rw [if_pos range, if_pos range]
    rfl
  · rw [if_neg range, if_neg range]
    rfl

theorem intOption_iff {smallest largest : Int} {label : String} {store : Int → Config → Config}
    (found : interface.Calls (flag name) (intOption smallest largest label store))
    (fits : -(2 ^ 31) ≤ smallest ∧ largest ≤ 2 ^ 31 - 1) (value : Int) (Post : Config → Prop) :
    (∃ final, getoptLong interface (flag name :: integer value :: rest) config = .ok final ∧
        Post final) ↔
      (smallest ≤ value ∧ value ≤ largest) ∧
        ∃ final, getoptLong interface rest (store value config) = .ok final ∧ Post final := by
  apply CommandLine.getoptLong_iff found
  rw [parseInt_integer fits]
  by_cases range : smallest ≤ value ∧ value ≤ largest
  · rw [if_pos range, if_pos range]
    rfl
  · rw [if_neg range, if_neg range]
    rfl

end

def optionalArgument (name : Text) : Option Int → List Text
  | some value => [flag name, integer value]
  | none => []

theorem optionalArgument_iff {interface : Interface Config Refusal} {name : Text}
    {rest : List Text} {config : Config} {smallest largest : Int} {label : String}
    {store : Int → Config → Config} (default : Int)
    (found : interface.Calls (flag name) (intOption smallest largest label store))
    (fits : -(2 ^ 31) ≤ smallest ∧ largest ≤ 2 ^ 31 - 1) (unset : store default config = config)
    (value : Option Int) (Post : Config → Prop) :
    (∃ final, getoptLong interface (optionalArgument name value ++ rest) config = .ok final ∧
        Post final) ↔
      (∀ given ∈ value, smallest ≤ given ∧ given ≤ largest) ∧
        ∃ final, getoptLong interface rest (store (value.getD default) config) = .ok final ∧
          Post final := by
  cases value with
  | none =>
      rw [optionalArgument, List.nil_append, Option.getD_none, unset]
      constructor
      · exact fun accepted => ⟨nofun, accepted⟩
      · exact fun accepted => accepted.2
  | some given =>
      rw [optionalArgument, List.cons_append, List.cons_append, List.nil_append,
        intOption_iff found fits, Option.getD_some]
      constructor
      · intro accepted
        refine ⟨?_, accepted.2⟩
        intro other same
        cases same
        exact accepted.1
      · exact fun accepted => ⟨accepted.1 given rfl, accepted.2⟩

def commonArguments (output stats scheduler : Text) (port priority work samples buffer : Int) :
    List Text :=
  ["--output".toList, output, "--stats".toList, stats, "--port".toList, integer port,
    "--max-packets".toList, "0".toList, "--scheduler".toList, scheduler,
    "--priority".toList, integer priority, "--work".toList, integer work,
    "--sample-every".toList, integer samples, "--socket-buffer".toList, integer buffer]

def Config.common (config : Config) (output stats scheduler : Text)
    (port priority work samples buffer : Int) : Config :=
  { config with
    outputPath := output
    statsPath := stats
    port := port.toNat
    maxPackets := 0
    scheduler := scheduler
    priority := priority
    workNs := work.toNat
    sampleEvery := samples.toNat
    socketBufferBytes := buffer }

theorem commonArguments_iff {interface : Interface Config Refusal}
    (understands : Understands interface) (config : Config) (rest : List Text)
    (output stats scheduler : Text) (port priority work samples buffer : Int)
    (Post : Config → Prop) :
    (∃ final, getoptLong interface
        (commonArguments output stats scheduler port priority work samples buffer ++ rest) config =
          .ok final ∧ Post final) ↔
      ((1 ≤ port ∧ port ≤ 65535) ∧ (0 ≤ priority ∧ priority ≤ 99) ∧
        (0 ≤ work ∧ work ≤ largestU64) ∧ (0 ≤ samples ∧ samples ≤ largestU64) ∧
        (0 ≤ buffer ∧ buffer ≤ largestInt)) ∧
        ∃ final, getoptLong interface rest
          (config.common output stats scheduler port priority work samples buffer) = .ok final ∧
            Post final := by
  show (∃ final, getoptLong interface
    (flag "output".toList :: output :: flag "stats".toList :: stats ::
      flag "port".toList :: integer port :: flag "max-packets".toList :: integer 0 ::
      flag "scheduler".toList :: scheduler :: flag "priority".toList :: integer priority ::
      flag "work".toList :: integer work :: flag "sample-every".toList :: integer samples ::
      flag "socket-buffer".toList :: integer buffer :: rest) config = .ok final ∧ Post final) ↔ _
  rw [getoptLong_ok (understands.found 0 rfl) rfl, getoptLong_ok (understands.found 1 rfl) rfl,
    u64Option_iff (understands.found 2 rfl) (by decide),
    u64Option_iff (understands.found 4 rfl) (by decide),
    getoptLong_ok (understands.found 5 rfl) rfl,
    intOption_iff (understands.found 6 rfl) (by decide),
    u64Option_iff (understands.found 7 rfl) (by decide),
    u64Option_iff (understands.found 8 rfl) (by decide),
    intOption_iff (understands.found 9 rfl) (by decide)]
  constructor
  · intro accepted
    rcases accepted with ⟨portRange, -, priorityRange, workRange, samplesRange, bufferRange, final⟩
    exact ⟨⟨portRange, priorityRange, workRange, samplesRange, bufferRange⟩, final⟩
  · intro accepted
    rcases accepted with ⟨⟨portRange, priorityRange, workRange, samplesRange, bufferRange⟩, final⟩
    exact ⟨portRange, by decide, priorityRange, workRange, samplesRange, bufferRange, final⟩

/-! ## When the mains run -/

theorem validateScheduler_eq_ok {config : Config}
    (known : config.scheduler = "other".toList ∨ config.scheduler = "fifo".toList ∨
      config.scheduler = "rr".toList)
    (consistent : if config.scheduler = "other".toList then config.priority = 0
      else 1 ≤ config.priority ∧ config.priority ≤ 99) :
    validateScheduler config = .ok () := by
  have knows : ¬ (config.scheduler ≠ "other".toList ∧ config.scheduler ≠ "fifo".toList ∧
      config.scheduler ≠ "rr".toList) := by
    intro unknown
    rcases known with other | fifo | rr
    · exact unknown.1 other
    · exact unknown.2.1 fifo
    · exact unknown.2.2 rr
  rw [validateScheduler, if_neg knows]
  by_cases other : config.scheduler = "other".toList
  · rw [if_pos other] at consistent
    rw [if_neg fun wrong => wrong.2 consistent, if_neg fun wrong => wrong.1 other]
  · rw [if_neg other] at consistent
    rw [if_neg fun wrong => other wrong.1, if_neg]
    intro wrong
    rcases wrong.2 with low | high
    · omega
    · omega

theorem validatePlacement_eq_ok {config : Config} :
    validatePlacement config = .ok () ↔
      ¬ (0 ≤ config.cpu ∧ config.workerCpu < 0) ∧
        ¬ (0 ≤ config.workerCpu ∧ config.workerCpu = config.cpu) := by
  unfold validatePlacement
  by_cases unplaced : 0 ≤ config.cpu ∧ config.workerCpu < 0
  · rw [if_pos unplaced]
    exact ⟨nofun, fun placed => absurd unplaced placed.1⟩
  · rw [if_neg unplaced]
    by_cases shared : 0 ≤ config.workerCpu ∧ config.workerCpu = config.cpu
    · rw [if_pos shared]
      exact ⟨nofun, fun placed => absurd shared placed.2⟩
    · rw [if_neg shared]
      exact ⟨fun _ => ⟨unplaced, shared⟩, fun _ => rfl⟩

theorem baselineMain_iff {arguments : List Text} :
    (∃ config, baselineMain arguments = .ok config) ↔
      ∃ config, getoptLong baselineInterface arguments { variant := "baseline".toList } =
        .ok config ∧ validateScheduler config = .ok () := by
  simp only [baselineMain, Fallible.bind_eq_ok, Fallible.pure_eq_ok]
  constructor
  · rintro ⟨_, config, read, _, valid, _⟩
    exact ⟨config, read, valid⟩
  · rintro ⟨config, read, valid⟩
    exact ⟨config, config, read, (), valid, rfl⟩

theorem batchedMain_iff {arguments : List Text} :
    (∃ config, batchedMain arguments = .ok config) ↔
      ∃ config, getoptLong batchedInterface arguments
        { variant := "batched".toList, batchSize := 32 } = .ok config ∧
          validateScheduler config = .ok () := by
  simp only [batchedMain, Fallible.bind_eq_ok, Fallible.pure_eq_ok]
  constructor
  · rintro ⟨_, config, read, _, valid, _⟩
    exact ⟨config, read, valid⟩
  · rintro ⟨config, read, valid⟩
    exact ⟨config, config, read, (), valid, rfl⟩

theorem threadedMain_iff {arguments : List Text} :
    (∃ config, threadedMain arguments = .ok config) ↔
      ∃ config, getoptLong threadedInterface arguments
        { variant := "threaded".toList, workerCpu := -1, batchSize := 32 } = .ok config ∧
          validateScheduler config = .ok () ∧ validatePlacement config = .ok () := by
  simp only [threadedMain, Fallible.bind_eq_ok, Fallible.pure_eq_ok]
  constructor
  · rintro ⟨_, config, read, _, valid, _, placed, _⟩
    exact ⟨config, read, valid, placed⟩
  · rintro ⟨config, read, valid, placed⟩
    exact ⟨config, config, read, (), valid, (), placed, rfl⟩

end NetLatencyLab.Receiver.Options
