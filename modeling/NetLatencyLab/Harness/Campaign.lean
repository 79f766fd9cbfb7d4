import NetLatencyLab.Harness.Execution
import Mathlib.Data.List.Dedup
import Mathlib.Data.List.Sort

/-! # Campaigns

`run_campaign` executes every run tuple of the configuration, first those that
qualify the sender, then those that compare receivers. A transport failure is
answered by new connections and one more execution. -/

namespace NetLatencyLab.Harness

structure Config where
  benchmarks : List Benchmark
  /-- Both roles are on one controller. -/
  sharedNode : Bool
  skipBuild : Bool := false
  /-- The sender has a controller, a project root or a runtime of its own. -/
  buildsSender : Bool := !sharedNode

/-! ## The plan -/

def benchmarkTuples (index : Nat) (benchmark : Benchmark) : List RunTuple :=
  (List.range' 1 benchmark.repetitions).flatMap fun repetition =>
    benchmark.rates.flatMap fun rate =>
      benchmark.bursts.flatMap fun burst =>
        benchmark.batches.map fun batch =>
          { benchmarkIndex := index, benchmarkName := benchmark.name,
            campaign := benchmark.campaign, repetition := repetition, rate := rate,
            burst := burst, batch := batch }

def Benchmark.qualifies (benchmark : Benchmark) : Bool :=
  benchmark.campaign == "sender_qualification"

def plannedTuples (config : Config) (qualifies : Bool) : List RunTuple :=
  config.benchmarks.zipIdx.flatMap fun entry =>
    if entry.1.enabled && entry.1.qualifies == qualifies then benchmarkTuples entry.2 entry.1
    else []

/-- `make_run_tuples`; `shuffle` is that of the seeded generator. -/
def makeRunTuples (shuffle : List RunTuple → List RunTuple) (config : Config) :
    List RunTuple × List RunTuple :=
  (shuffle (plannedTuples config true), shuffle (plannedTuples config false))

/-- All tuples of a campaign, in the order of its phases. -/
def plan (shuffle : List RunTuple → List RunTuple) (config : Config) : List RunTuple :=
  (makeRunTuples shuffle config).1 ++ (makeRunTuples shuffle config).2

def qualificationRates (runs : List (RunTuple × Bool)) : List Int :=
  ((runs.map fun run => run.1.rate).dedup.filter fun rate =>
    runs.all fun run => run.1.rate != rate || run.2).mergeSort (· ≤ ·)

/-! ## Retries -/

def maxRunAttempts : Nat := 2

variable (environment : Environment)

def reconnectNodes (shared : Bool) : Script Unit := do
  swallow (call environment (.close .receiver))
  when (!shared) do
    swallow (call environment (.close .sender))
  call environment (.getNode .receiver)
  when (!shared) do
    call environment (.getNode .sender)
  note .reconnected

def attempts (shared : Bool) (item : RunTuple) (benchmark : Benchmark) : Nat → Script Bool
  | 0 => throw .other
  | remaining + 1 => do
      note (.executing item)
      tryCatch (executeRun environment item benchmark) fun failure =>
        if failure.isTransport && remaining != 0 then do
          reconnectNodes environment shared
          attempts shared item benchmark remaining
        else throw failure

def executeWithProgress (config : Config) (item : RunTuple) : Script Bool := do
  match config.benchmarks[item.benchmarkIndex]? with
  | some benchmark => do
      note (.started item)
      attempts environment config.sharedNode item benchmark maxRunAttempts
  | none => throw .other

def runPhase (config : Config) : List RunTuple → Script (List (RunTuple × Bool))
  | [] => pure []
  | item :: items => do
      let passed ← executeWithProgress environment config item
      call environment .compute
      let results ← runPhase config items
      pure ((item, passed) :: results)

/-! ## `run_campaign` -/

def buildNode (role : Role) : Script Unit := do
  call environment (.run role)
  call environment (.run role)

def frozenTuples (config : Config) (qualification comparative : List RunTuple)
    (results : List (RunTuple × Bool)) : List RunTuple :=
  if qualification = [] then comparative
  else comparative.filter fun item =>
    !(config.benchmarks[item.benchmarkIndex]?.any (·.usesQualifiedRates)) ||
      (qualificationRates results).contains item.rate

def runPhases (shuffle : List RunTuple → List RunTuple) (config : Config) : Script Unit := do
  let (qualification, comparative) := makeRunTuples shuffle config
  when (!config.skipBuild) do
    buildNode environment .receiver
    when config.buildsSender do
      buildNode environment .sender
  let results ← runPhase environment config qualification
  call environment .compute
  let _ ← runPhase environment config (frozenTuples config qualification comparative results)
  pure ()

def closeNodes (shared : Bool) : Script Unit := do
  call environment (.close .receiver)
  when (!shared) do
    call environment (.close .sender)

def runCampaign (shuffle : List RunTuple → List RunTuple) (config : Config) : Script Unit := do
  call environment .compute
  call environment (.getNode .receiver)
  when (!config.sharedNode) do
    call environment (.getNode .sender)
  call environment .compute
  probe environment .receiver
  probe environment .sender
  tryFinally (runPhases environment shuffle config) (closeNodes environment config.sharedNode)

/-- Everything that happens in a campaign. -/
def campaignHistory (shuffle : List RunTuple → List RunTuple) (config : Config) : List Entry :=
  (Script.outcome (runCampaign environment shuffle config) {}).2.history

end NetLatencyLab.Harness
