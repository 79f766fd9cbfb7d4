import NetLatencyLab.Foundation.CommandLine

/-! # Arguments of the sender

The sender reads its options, and then checks how mode, burst size, threads and
CPUs go together, the duration and the address. -/

namespace NetLatencyLab.Sender.Options

open CommandLine (Double Handler Interface flag getoptLong getoptLong_iff getoptLong_ok fromChars
  fromCharsInt integer largestInt largestU32 largestU64)
open PythonText (Text)

/-- What the platform makes of a number. -/
structure FloatingPoint where
  /-- `strtod`, if it reads the whole text and `errno` stays zero. -/
  strtod : Text → Option Double
  /-- `static_cast<std::uint64_t>(seconds * 1e9)`. -/
  nanoseconds : ℚ → Nat

structure Config where
  destination : Text := "127.0.0.1".toList
  port : Nat := 49200
  ratePps : Nat := 1000
  durationSeconds : ℚ := 1
  mode : Text := "steady".toList
  burstSize : Nat := 1
  payloadSize : Nat := 16
  cpu : Int := -1
  socketBufferBytes : Int := 0
  timestampEvery : Nat := 1
  sendBatchMax : Nat := 1
  batchWindowUs : Nat := 10
  threads : Nat := 1
  cpus : List Int := []
  statsPath : Text := "sender_stats.json".toList
  pacingTracePath : Text := []
deriving DecidableEq

inductive Refusal
  | help
  | usage
  | message (text : Text)
deriving DecidableEq

def Refusal.status : Refusal → Nat
  | .help => 0
  | _ => 2

def cpuSetSize : Int := 1024

/-! ## Single options -/

def invalid (name : String) (text : Text) : Refusal :=
  .message ("Invalid ".toList ++ name.toList ++ ": ".toList ++ text ++ ['\n'])

/-- `parse_unsigned` of a type with this largest value. -/
def parseUnsigned (widest : Nat) (text : Text) (smallest largest : Nat) (name : String) :
    Except Refusal Nat :=
  match fromChars widest text with
  | some parsed =>
      if smallest ≤ parsed ∧ parsed ≤ largest then .ok parsed else .error (invalid name text)
  | none => .error (invalid name text)

/-- `static_cast<double>(UINT64_MAX) / 1e9`. -/
def maximumDurationSeconds : ℚ := 4835703278458517 / 262144

def parseDuration (platform : FloatingPoint) (text : Text) : Except Refusal ℚ :=
  match platform.strtod text with
  | some (.finite parsed) =>
      if 0 < parsed ∧ parsed ≤ maximumDurationSeconds then .ok parsed
      else .error (invalid "duration" text)
  | _ => .error (invalid "duration" text)

def parseCpu (text : Text) : Option Int :=
  match fromCharsInt text with
  | some cpu => if 0 ≤ cpu ∧ cpu < cpuSetSize then some cpu else none
  | none => none

def addCpus (cpus : List Int) : List Text → Option (List Int)
  | [] => some cpus
  | item :: items => do
      let cpu ← parseCpu item
      if cpu ∈ cpus then none else addCpus (cpus ++ [cpu]) items

def parseCpuList (text : Text) : Option (List Int) := addCpus [] (text.splitOn ',')

def parseSocketBuffer (text : Text) : Except Refusal Int :=
  match fromCharsInt text with
  | some parsed => if parsed < 0 then .error (invalid "socket buffer" text) else .ok parsed
  | none => .error (invalid "socket buffer" text)

def textOption (store : Text → Config → Config) : Handler Config Refusal :=
  .argument fun text config => .ok (store text config)

def unsignedOption (widest smallest largest : Nat) (name : String)
    (store : Nat → Config → Config) : Handler Config Refusal :=
  .argument fun text config => do
    let value ← parseUnsigned widest text smallest largest name
    pure (store value config)

def optionsOf (platform : FloatingPoint) : List (Text × Handler Config Refusal) :=
  [("ip".toList, textOption fun text config => { config with destination := text }),
    ("port".toList, unsignedOption largestU64 1 65535 "port" fun value config =>
      { config with port := value }),
    ("rate".toList, unsignedOption largestU64 1 largestU64 "rate" fun value config =>
      { config with ratePps := value }),
    ("duration".toList, .argument fun text config => do
      let seconds ← parseDuration platform text
      pure { config with durationSeconds := seconds }),
    ("mode".toList, textOption fun text config => { config with mode := text }),
    ("burst".toList, unsignedOption largestU64 1 largestU32 "burst" fun value config =>
      { config with burstSize := value }),
    ("payload-size".toList, unsignedOption largestU64 16 65507 "payload size" fun value config =>
      { config with payloadSize := value }),
    ("cpu".toList, .argument fun text config =>
      match parseCpu text with
      | some cpu => .ok { config with cpu := cpu }
      | none => .error (invalid "CPU" text)),
    ("stats".toList, textOption fun text config => { config with statsPath := text }),
    ("socket-buffer".toList, .argument fun text config => do
      let bytes ← parseSocketBuffer text
      pure { config with socketBufferBytes := bytes }),
    ("timestamp-every".toList, unsignedOption largestU64 0 largestU64 "timestamp every"
      fun value config => { config with timestampEvery := value }),
    ("send-batch-max".toList, unsignedOption largestU32 1 1024 "send batch max"
      fun value config => { config with sendBatchMax := value }),
    ("batch-window-us".toList, unsignedOption largestU64 1 1000000 "batch window"
      fun value config => { config with batchWindowUs := value }),
    ("threads".toList, unsignedOption largestU32 1 128 "threads" fun value config =>
      { config with threads := value }),
    ("cpus".toList, .argument fun text config =>
      match parseCpuList text with
      | some cpus => .ok { config with cpus := cpus }
      | none => .error (invalid "CPU list" text)),
    ("pacing-trace".toList, textOption fun text config => { config with pacingTracePath := text }),
    ("help".toList, .stop .help)]

/-- `"i:p:r:d:m:b:l:c:s:B:T:h"`, with the long options of the same values. -/
def lettersOf : List (Char × Text) :=
  [('i', "ip".toList), ('p', "port".toList), ('r', "rate".toList), ('d', "duration".toList),
    ('m', "mode".toList), ('b', "burst".toList), ('l', "payload-size".toList),
    ('c', "cpu".toList), ('s', "stats".toList), ('B', "socket-buffer".toList),
    ('T', "timestamp-every".toList), ('h', "help".toList)]

def interfaceOf (platform : FloatingPoint) : Interface Config Refusal where
  letters := lettersOf
  options := optionsOf platform
  unknown := .usage
  operand := .usage

example (platform : FloatingPoint) (config : Config) :
    ["--rate=5", "--ra=5", "-r5"].map (fun word =>
      getoptLong (interfaceOf platform) [word.toList] config) =
        List.replicate 3 (.ok { config with ratePps := 5 }) ∧
      getoptLong (interfaceOf platform) ["--s=5".toList] config = .error .usage :=
  ⟨rfl, rfl⟩

/-! ## `main`, as far as it may refuse its arguments -/

def isOctet (part : Text) : Bool :=
  part ≠ [] ∧ part.all Char.isDigit ∧ (part.length = 1 ∨ part.head? ≠ some '0') ∧
    Nat.ofDigitChars 10 part 0 ≤ 255

/-- `inet_pton(AF_INET, …) == 1`. -/
def inetPton (text : Text) : Bool :=
  (text.splitOn '.').length = 4 ∧ ∀ part ∈ text.splitOn '.', isOctet part

def refuse (condition : Prop) [Decidable condition] (text : String) : Except Refusal Unit :=
  if condition then .error (.message text.toList) else .ok ()

def validate (platform : FloatingPoint) (config : Config) : Except Refusal Unit := do
  if config.mode ≠ "steady".toList ∧ config.mode ≠ "burst".toList ∧
      config.mode ≠ "flood".toList then
    throw (invalid "mode" config.mode)
  refuse (config.mode = "steady".toList ∧ config.burstSize ≠ 1) "Steady mode requires --burst 1\n"
  refuse (config.mode = "burst".toList ∧ config.threads ≠ 1) "Burst mode supports one thread\n"
  refuse (config.cpus ≠ [] ∧ config.cpus.length ≠ config.threads)
    "--cpus must contain exactly --threads entries\n"
  refuse (config.cpus ≠ [] ∧ 0 ≤ config.cpu) "--cpu and --cpus are mutually exclusive\n"
  refuse (1 < config.threads ∧ config.cpus = []) "Multiple threads require --cpus\n"
  refuse (platform.nanoseconds config.durationSeconds = 0)
    "Duration must be at least one nanosecond\n"
  if ¬ inetPton config.destination then
    throw (invalid "IPv4 address" config.destination)

def main (platform : FloatingPoint) (arguments : List Text) : Except Refusal Config := do
  let config ← getoptLong (interfaceOf platform) arguments {}
  validate platform config
  pure config

/-! ## Single options, read -/

theorem parseUnsigned_integer {widest smallest largest : Nat} (fits : largest ≤ widest)
    (value : Int) (name : String) :
    parseUnsigned widest (integer value) smallest largest name =
      if smallest ≤ value ∧ value ≤ largest then .ok value.toNat
      else .error (invalid name (integer value)) := by
  rw [parseUnsigned]
  exact CommandLine.fromChars_range fits value _ _

/-- The number in a text; zero if there is none. -/
def FloatingPoint.seconds (platform : FloatingPoint) (text : Text) : ℚ :=
  match platform.strtod text with
  | some (.finite parsed) => parsed
  | _ => 0

theorem parseDuration_eq (platform : FloatingPoint) (text : Text) :
    parseDuration platform text =
      if 0 < platform.seconds text ∧ platform.seconds text ≤ maximumDurationSeconds then
        .ok (platform.seconds text)
      else .error (invalid "duration" text) := by
  rw [parseDuration, FloatingPoint.seconds]
  split
  · rfl
  · rw [if_neg fun positive => absurd positive.1 Rat.lt_irrefl]

theorem parseCpu_integer (value : Int) :
    parseCpu (integer value) = if 0 ≤ value ∧ value ≤ 1023 then some value else none := by
  rw [parseCpu, CommandLine.fromCharsInt_integer, cpuSetSize]
  by_cases range : -(2 ^ 31) ≤ value ∧ value ≤ 2 ^ 31 - 1
  · rw [if_pos range]
    dsimp only
    have same : (0 ≤ value ∧ value < 1024) ↔ (0 ≤ value ∧ value ≤ 1023) := by omega
    simp only [same]
  · rw [if_neg range, if_neg (by omega)]

private theorem addCpus_integers {seen cpus : List Int} (distinct : (seen ++ cpus).Nodup) :
    addCpus seen (cpus.map integer) =
      if ∀ cpu ∈ cpus, 0 ≤ cpu ∧ cpu ≤ 1023 then some (seen ++ cpus) else none := by
  induction cpus generalizing seen with
  | nil => rw [List.map_nil, addCpus, if_pos nofun, List.append_nil]
  | cons cpu cpus induction =>
      rw [List.map_cons, addCpus, parseCpu_integer]
      by_cases range : 0 ≤ cpu ∧ cpu ≤ 1023
      · have fresh : cpu ∉ seen := by
          intro member
          exact (List.nodup_append.mp distinct).2.2 cpu member cpu List.mem_cons_self rfl
        have later : ((seen ++ [cpu]) ++ cpus).Nodup := by
          rw [List.append_assoc]
          exact distinct
        rw [if_pos range, Option.bind_eq_bind, Option.bind_some, if_neg fresh, induction later,
          List.append_assoc, List.singleton_append]
        simp only [List.forall_mem_cons, range, true_and, and_self]
      · rw [if_neg range, if_neg fun all => range (all cpu List.mem_cons_self)]
        rfl

private theorem comma_notMem_integer (value : Int) : ',' ∉ integer value := by
  intro member
  cases value with
  | ofNat value => cases PythonText.isDigit_of_mem_decimal member
  | negSucc value =>
      rcases List.mem_cons.mp member with first | later
      · cases first
      · cases PythonText.isDigit_of_mem_decimal later

private theorem parseCpuList_integers {cpus : List Int} (nonempty : cpus ≠ [])
    (distinct : cpus.Nodup) :
    parseCpuList ([','].intercalate (cpus.map integer)) =
      if ∀ cpu ∈ cpus, 0 ≤ cpu ∧ cpu ≤ 1023 then some cpus else none := by
  have separated : ∀ item ∈ cpus.map integer, ',' ∉ item := by
    intro item member
    rcases List.mem_map.mp member with ⟨cpu, _, printed⟩
    subst printed
    exact comma_notMem_integer cpu
  have some : cpus.map integer ≠ [] := fun empty => nonempty (List.map_eq_nil_iff.mp empty)
  rw [parseCpuList, List.splitOn_intercalate ',' separated some]
  exact addCpus_integers (List.nil_append cpus ▸ distinct)

private theorem parseSocketBuffer_integer (value : Int) :
    parseSocketBuffer (integer value) =
      if 0 ≤ value ∧ value ≤ largestInt then .ok value
      else .error (invalid "socket buffer" (integer value)) := by
  rw [parseSocketBuffer, CommandLine.fromCharsInt_integer, largestInt]
  by_cases range : -(2 ^ 31) ≤ value ∧ value ≤ 2 ^ 31 - 1
  · rw [if_pos range]
    dsimp only
    by_cases negative : value < 0
    · rw [if_pos negative, if_neg (by omega)]
    · rw [if_neg negative, if_pos (by omega)]
  · rw [if_neg range, if_neg (by omega)]

/-! ## The option table -/

section

variable {platform : FloatingPoint} {name value : Text} {rest : List Text} {config : Config}

private theorem distinct_interfaceOf (platform : FloatingPoint) :
    (interfaceOf platform).Distinct := by
  have named : (optionsOf platform).map Prod.fst =
      (optionsOf ⟨fun _ => none, fun _ => 0⟩).map Prod.fst := rfl
  constructor
  · rw [interfaceOf, named]
    decide
  · rw [interfaceOf, named]
    decide +kernel

theorem found (index : Nat) {handler : Handler Config Refusal}
    (listed : (optionsOf platform)[index]? = some (name, handler)) :
    (interfaceOf platform).Calls (flag name) handler :=
  (distinct_interfaceOf platform).calls (List.mem_of_getElem? listed)

theorem unsignedOption_iff {widest smallest largest : Nat} {label : String}
    {store : Nat → Config → Config}
    (found : (interfaceOf platform).Calls (flag name)
      (unsignedOption widest smallest largest label store))
    (fits : largest ≤ widest) (value : Int) (Post : Config → Prop) :
    (∃ final, getoptLong (interfaceOf platform) (flag name :: integer value :: rest) config =
        .ok final ∧ Post final) ↔
      (smallest ≤ value ∧ value ≤ largest) ∧
        ∃ final, getoptLong (interfaceOf platform) rest (store value.toNat config) =
          .ok final ∧ Post final := by
  apply getoptLong_iff found
  rw [parseUnsigned_integer fits]
  by_cases range : smallest ≤ value ∧ value ≤ largest
  · rw [if_pos range, if_pos range]
    rfl
  · rw [if_neg range, if_neg range]
    rfl

private theorem duration_iff (Post : Config → Prop) :
    (∃ final, getoptLong (interfaceOf platform) (flag "duration".toList :: value :: rest)
        config = .ok final ∧ Post final) ↔
      (0 < platform.seconds value ∧ platform.seconds value ≤ maximumDurationSeconds) ∧
        ∃ final, getoptLong (interfaceOf platform) rest
          { config with durationSeconds := platform.seconds value } = .ok final ∧ Post final := by
  apply getoptLong_iff (found 3 rfl)
  rw [parseDuration_eq]
  by_cases range : 0 < platform.seconds value ∧ platform.seconds value ≤ maximumDurationSeconds
  · rw [if_pos range, if_pos range]
    rfl
  · rw [if_neg range, if_neg range]
    rfl

private theorem socketBuffer_iff (bytes : Int) (Post : Config → Prop) :
    (∃ final, getoptLong (interfaceOf platform)
        (flag "socket-buffer".toList :: integer bytes :: rest) config = .ok final ∧ Post final) ↔
      (0 ≤ bytes ∧ bytes ≤ largestInt) ∧
        ∃ final, getoptLong (interfaceOf platform) rest
          { config with socketBufferBytes := bytes } = .ok final ∧ Post final := by
  apply getoptLong_iff (found 9 rfl)
  rw [parseSocketBuffer_integer]
  by_cases range : 0 ≤ bytes ∧ bytes ≤ largestInt
  · rw [if_pos range, if_pos range]
    rfl
  · rw [if_neg range, if_neg range]
    rfl

theorem cpu_iff (cpu : Int) (Post : Config → Prop) :
    (∃ final, getoptLong (interfaceOf platform)
        (flag "cpu".toList :: integer cpu :: rest) config = .ok final ∧ Post final) ↔
      (0 ≤ cpu ∧ cpu ≤ 1023) ∧
        ∃ final, getoptLong (interfaceOf platform) rest { config with cpu := cpu } =
          .ok final ∧ Post final := by
  apply getoptLong_iff (found 7 rfl)
  rw [parseCpu_integer]
  by_cases range : 0 ≤ cpu ∧ cpu ≤ 1023
  · rw [if_pos range, if_pos range]
  · rw [if_neg range, if_neg range]

theorem cpus_iff {cpus : List Int} (nonempty : cpus ≠ []) (distinct : cpus.Nodup)
    (Post : Config → Prop) :
    (∃ final, getoptLong (interfaceOf platform)
        (flag "cpus".toList :: [','].intercalate (cpus.map integer) :: rest) config =
          .ok final ∧ Post final) ↔
      (∀ cpu ∈ cpus, 0 ≤ cpu ∧ cpu ≤ 1023) ∧
        ∃ final, getoptLong (interfaceOf platform) rest { config with cpus := cpus } =
          .ok final ∧ Post final := by
  apply getoptLong_iff (found 14 rfl)
  rw [parseCpuList_integers nonempty distinct]
  by_cases range : ∀ cpu ∈ cpus, 0 ≤ cpu ∧ cpu ≤ 1023
  · rw [if_pos range, if_pos range]
  · rw [if_neg range, if_neg range]

end

/-! ## The arguments of a harness -/

structure Settings where
  host : Text
  port : Int
  rate : Int
  duration : Text
  mode : Text
  burst : Int
  payload : Int
  samples : Int
  buffer : Int
  stats : Text
  batch : Int
  window : Int
  threads : Int

def Settings.arguments (settings : Settings) : List Text :=
  ["--ip".toList, settings.host, "--port".toList, integer settings.port,
    "--rate".toList, integer settings.rate, "--duration".toList, settings.duration,
    "--mode".toList, settings.mode, "--burst".toList, integer settings.burst,
    "--payload-size".toList, integer settings.payload,
    "--timestamp-every".toList, integer settings.samples,
    "--socket-buffer".toList, integer settings.buffer, "--stats".toList, settings.stats,
    "--send-batch-max".toList, integer settings.batch,
    "--batch-window-us".toList, integer settings.window,
    "--threads".toList, integer settings.threads]

/-- What these options say. -/
def Settings.config (settings : Settings) (platform : FloatingPoint) : Config where
  destination := settings.host
  port := settings.port.toNat
  ratePps := settings.rate.toNat
  durationSeconds := platform.seconds settings.duration
  mode := settings.mode
  burstSize := settings.burst.toNat
  payloadSize := settings.payload.toNat
  socketBufferBytes := settings.buffer
  timestampEvery := settings.samples.toNat
  sendBatchMax := settings.batch.toNat
  batchWindowUs := settings.window.toNat
  threads := settings.threads.toNat
  statsPath := settings.stats

structure Settings.InRange (settings : Settings) (platform : FloatingPoint) : Prop where
  port : 1 ≤ settings.port ∧ settings.port ≤ 65535
  rate : 1 ≤ settings.rate ∧ settings.rate ≤ largestU64
  duration : 0 < platform.seconds settings.duration ∧
    platform.seconds settings.duration ≤ maximumDurationSeconds
  burst : 1 ≤ settings.burst ∧ settings.burst ≤ largestU32
  payload : 16 ≤ settings.payload ∧ settings.payload ≤ 65507
  samples : 0 ≤ settings.samples ∧ settings.samples ≤ largestU64
  buffer : 0 ≤ settings.buffer ∧ settings.buffer ≤ largestInt
  batch : 1 ≤ settings.batch ∧ settings.batch ≤ 1024
  window : 1 ≤ settings.window ∧ settings.window ≤ 1000000
  threads : 1 ≤ settings.threads ∧ settings.threads ≤ 128

theorem Settings.arguments_iff (settings : Settings) (platform : FloatingPoint) (rest : List Text)
    (Post : Config → Prop) :
    (∃ final, getoptLong (interfaceOf platform) (settings.arguments ++ rest) {} =
        .ok final ∧ Post final) ↔
      settings.InRange platform ∧
        ∃ final, getoptLong (interfaceOf platform) rest (settings.config platform) =
          .ok final ∧ Post final := by
  show (∃ final, getoptLong (interfaceOf platform)
    (flag "ip".toList :: settings.host :: flag "port".toList :: integer settings.port ::
      flag "rate".toList :: integer settings.rate :: flag "duration".toList :: settings.duration ::
      flag "mode".toList :: settings.mode :: flag "burst".toList :: integer settings.burst ::
      flag "payload-size".toList :: integer settings.payload ::
      flag "timestamp-every".toList :: integer settings.samples ::
      flag "socket-buffer".toList :: integer settings.buffer ::
      flag "stats".toList :: settings.stats ::
      flag "send-batch-max".toList :: integer settings.batch ::
      flag "batch-window-us".toList :: integer settings.window ::
      flag "threads".toList :: integer settings.threads :: rest) {} = .ok final ∧ Post final) ↔ _
  rw [getoptLong_ok (found 0 rfl) rfl, unsignedOption_iff (found 1 rfl) (by decide),
    unsignedOption_iff (found 2 rfl) (by decide), duration_iff, getoptLong_ok (found 4 rfl) rfl,
    unsignedOption_iff (found 5 rfl) (by decide), unsignedOption_iff (found 6 rfl) (by decide),
    unsignedOption_iff (found 10 rfl) (by decide), socketBuffer_iff,
    getoptLong_ok (found 8 rfl) rfl, unsignedOption_iff (found 11 rfl) (by decide),
    unsignedOption_iff (found 12 rfl) (by decide), unsignedOption_iff (found 13 rfl) (by decide)]
  constructor
  · intro accepted
    rcases accepted with ⟨port, rate, duration, burst, payload, samples, buffer, batch, window,
      threads, final⟩
    exact ⟨⟨port, rate, duration, burst, payload, samples, buffer, batch, window, threads⟩, final⟩
  · intro accepted
    rcases accepted with ⟨⟨port, rate, duration, burst, payload, samples, buffer, batch, window,
      threads⟩, final⟩
    exact ⟨port, rate, duration, burst, payload, samples, buffer, batch, window, threads, final⟩

/-! ## When the sender runs -/

theorem refuse_eq_ok {condition : Prop} [Decidable condition] {text : String} :
    refuse condition text = .ok () ↔ ¬ condition := by
  by_cases holds : condition
  · simp [refuse, holds]
  · simp [refuse, holds]

theorem validate_eq_ok {platform : FloatingPoint} {config : Config}
    (known : config.mode = "steady".toList ∨ config.mode = "burst".toList ∨
      config.mode = "flood".toList) :
    validate platform config = .ok () ↔
      ¬ (config.mode = "steady".toList ∧ config.burstSize ≠ 1) ∧
      ¬ (config.mode = "burst".toList ∧ config.threads ≠ 1) ∧
      ¬ (config.cpus ≠ [] ∧ config.cpus.length ≠ config.threads) ∧
      ¬ (config.cpus ≠ [] ∧ 0 ≤ config.cpu) ∧
      ¬ (1 < config.threads ∧ config.cpus = []) ∧
      platform.nanoseconds config.durationSeconds ≠ 0 ∧ inetPton config.destination := by
  have knows : ¬ (config.mode ≠ "steady".toList ∧ config.mode ≠ "burst".toList ∧
      config.mode ≠ "flood".toList) := by
    intro unknown
    rcases known with steady | burst | flood
    · exact unknown.1 steady
    · exact unknown.2.1 burst
    · exact unknown.2.2 flood
  have addressed : (if ¬ inetPton config.destination then
      throw (invalid "IPv4 address" config.destination) else pure () : Except Refusal Unit) =
        .ok () ↔ inetPton config.destination := by
    by_cases address : inetPton config.destination
    · rw [if_neg (not_not.mpr address)]
      exact ⟨fun _ => address, fun _ => rfl⟩
    · rw [if_pos address]
      exact ⟨nofun, fun wrong => absurd wrong address⟩
  rw [validate, if_neg knows]
  show (do
    refuse (config.mode = "steady".toList ∧ config.burstSize ≠ 1) _
    _ : Except Refusal Unit) = .ok () ↔ _
  simp only [Fallible.bind_unit_eq_ok, refuse_eq_ok, addressed]

theorem main_iff {platform : FloatingPoint} {arguments : List Text} :
    (∃ config, main platform arguments = .ok config) ↔
      ∃ config, getoptLong (interfaceOf platform) arguments {} = .ok config ∧
        validate platform config = .ok () := by
  simp only [main, Fallible.bind_eq_ok, Fallible.pure_eq_ok]
  constructor
  · intro accepted
    rcases accepted with ⟨_, config, read, _, valid, _⟩
    exact ⟨config, read, valid⟩
  · intro accepted
    rcases accepted with ⟨config, read, valid⟩
    exact ⟨config, config, read, (), valid, rfl⟩

end NetLatencyLab.Sender.Options
