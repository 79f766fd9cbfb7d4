import NetLatencyLab.Foundation.Script

/-! # One execution of a run

`execute_run` drives the two nodes through one measurement, writes its metadata
file and removes what it left on the nodes. The environment answers every call
and every piece of local work, and may refuse any of them. -/

namespace NetLatencyLab.Harness

structure RunTuple where
  benchmarkIndex : Nat
  benchmarkName : String
  campaign : String
  repetition : Nat
  rate : Int
  burst : Int
  batch : Int
deriving DecidableEq

inductive Profile
  | stat
  | record
deriving DecidableEq

structure Benchmark where
  enabled : Bool := true
  name : String
  campaign : String := "comparison"
  repetitions : Nat
  rates : List Int
  bursts : List Int := [1]
  batches : List Int := [1]
  profile : Option Profile := none
  pacingTrace : Bool := false
  usesQualifiedRates : Bool := false

/-! ## The environment -/

/-- How `except` clauses tell exceptions apart. -/
inductive Failure
  | timeoutExpired
  | connection
  | other
deriving DecidableEq

/-- The exception is one of `TRANSPORT_FAILURES`. -/
def Failure.isTransport : Failure → Bool
  | .timeoutExpired | .connection => true
  | .other => false

inductive Role
  | receiver
  | sender
deriving DecidableEq

inductive Signal
  | interrupt
  | terminate
  | kill
deriving DecidableEq

inductive Request
  | getNode (role : Role)
  | close (role : Role)
  | run (role : Role)
  | probe (role : Role)
  | startProcess (role : Role)
  | waitProcess (role : Role)
  | signalProcess (role : Role) (signal : Signal)
  | signalWrapper (role : Role) (signal : Signal)
  | processExists (role : Role)
  | waitPidExit (role : Role)
  | fetchFile (role : Role)
  | removeFiles (role : Role)
  | compute
  | writeMetadata
deriving DecidableEq

/-- What happens, in order. A tuple is `started` once by `execute_with_progress`
and `executing` in each call of `execute_run`. -/
inductive Entry
  | started (item : RunTuple)
  | executing (item : RunTuple)
  | called (request : Request) (result : Except Failure Int)
  | wrote (item : RunTuple)
  | reconnected
deriving DecidableEq

/-- Every answer may depend on all that happened. It is an exit status, or zero
for a false truth value. -/
def Environment := List Entry → Request → Except Failure Int

/-- The history, and the variables of `execute_run` that its `finally` reads. -/
structure World where
  history : List Entry := []
  activeReceiver : Bool := false
  activeSender : Bool := false
  cleanupEligible : Bool := false

abbrev Script := NetLatencyLab.Script World Failure

def note (entry : Entry) : Script Unit :=
  modify fun world => { world with history := world.history ++ [entry] }

variable (environment : Environment)

def ask (request : Request) : Script Int := do
  let world ← get
  let result := environment world.history request
  note (.called request result)
  match result with
  | .ok value => pure value
  | .error failure => throw failure

theorem outcome_ask (request : Request) (world : World) :
    Script.outcome (ask environment request) world =
      (environment world.history request,
        { world with
          history := world.history ++ [.called request (environment world.history request)] }) := by
  unfold ask note
  simp only [Script.outcome_bind, Script.outcome_get, Script.outcome_modify]
  cases environment world.history request with
  | ok value => rfl
  | error failure => rfl

def call (request : Request) : Script Unit := do
  let _ ← ask environment request
  pure ()

def holds (request : Request) : Script Bool := do
  let value ← ask environment request
  pure (value != 0)

/-- `raise RuntimeError` unless the condition holds. -/
def require (condition : Bool) : Script Unit := if condition then pure () else throw .other

def when (condition : Bool) (script : Script Unit) : Script Unit :=
  if condition then script else pure ()

/-- `except Exception`. -/
def swallow (script : Script Unit) : Script Unit := tryCatch script fun _ => pure ()

def probe (role : Role) : Script Unit := swallow (call environment (.probe role))

/-- `run_state` and `snapshot_counters` of both nodes, which only probe. -/
def observe : Script Unit := do
  probe environment .receiver
  probe environment .sender
  probe environment .receiver
  probe environment .sender

/-! ## Shutting a process down -/

/-- `wait_process`, where only an expired timeout is caught. -/
def waitStatus (role : Role) : Script (Option Int) :=
  tryCatch (some <$> ask environment (.waitProcess role)) fun failure =>
    match failure with
    | .timeoutExpired => pure none
    | failure => throw failure

/-- The signals to the process; `none` if it survives them all. -/
def shutdownStages (role : Role) (tracked : Bool) : List Signal → Script (Option Int)
  | [] => pure none
  | signal :: rest => do
      call environment (.signalProcess role signal)
      let status ← waitStatus environment role
      if tracked then do
        let workloadExited ← holds environment (.waitPidExit role)
        match status, workloadExited with
        | some code, true => pure (some code)
        | _, _ => shutdownStages role tracked rest
      else
        match status with
        | some code => pure (some code)
        | none => shutdownStages role tracked rest

def wrapperStages (role : Role) : List Signal → Script Int
  | [] => throw .timeoutExpired
  | signal :: rest => do
      call environment (.signalWrapper role signal)
      let status ← waitStatus environment role
      match status with
      | some code => pure code
      | none => wrapperStages role rest

def shutdownProcess (role : Role) (tracked : Bool) : Script Int := do
  let status ← shutdownStages environment role tracked [.interrupt, .terminate, .kill]
  match status with
  | some code => pure code
  | none =>
      if tracked then do
        let survived ← holds environment (.processExists role)
        if survived then throw .timeoutExpired
        else wrapperStages environment role [.terminate, .kill]
      else throw .timeoutExpired

/-! ## `execute_run` -/

/-- The receiver runs under `perf`, and its own PID is tracked. -/
def Benchmark.tracked (benchmark : Benchmark) : Bool := benchmark.profile.isSome

def setReceiver (active : Bool) : Script Unit :=
  modify fun world => { world with activeReceiver := active }

def setSender (active : Bool) : Script Unit :=
  modify fun world => { world with activeSender := active }

def measure (benchmark : Benchmark) : Script Unit := do
  call environment .compute
  call environment (.startProcess .receiver)
  setReceiver true
  call environment .compute
  let alive ← holds environment (.processExists .receiver)
  require alive
  observe environment
  call environment (.startProcess .sender)
  setSender true
  call environment .compute
  let senderStatus ← ask environment (.waitProcess .sender)
  setSender false
  require (senderStatus == 0)
  observe environment
  let receiverStatus ← shutdownProcess environment .receiver benchmark.tracked
  setReceiver false
  require (receiverStatus == 0)
  when benchmark.tracked do
    let survived ← holds environment (.processExists .receiver)
    require !survived

/-- From the fetched artifacts to the metadata; the result says whether a
qualification run passed. -/
def collect (benchmark : Benchmark) : Script Bool := do
  call environment (.fetchFile .receiver)
  call environment (.fetchFile .receiver)
  call environment (.fetchFile .sender)
  when benchmark.pacingTrace do
    call environment (.fetchFile .sender)
    call environment .compute
  let passed ← holds environment .compute
  when (benchmark.profile == some .stat) do
    call environment (.fetchFile .receiver)
    call environment .compute
  when (benchmark.profile == some .record) do
    call environment (.run .receiver)
    call environment .compute
    call environment (.fetchFile .receiver)
    call environment .compute
  pure passed

/-- The body of the `try`. -/
def produce (item : RunTuple) (benchmark : Benchmark) : Script Bool := do
  measure environment benchmark
  let passed ← collect environment benchmark
  call environment .writeMetadata
  note (.wrote item)
  modify fun world => { world with cleanupEligible := true }
  pure passed

/-- The two calls of `remove_files`, which nothing catches. -/
def removeArtifacts : Script Unit := do
  call environment (.removeFiles .receiver)
  call environment (.removeFiles .sender)

/-- The body of the `finally`. -/
def cleanUp (benchmark : Benchmark) : Script Unit := do
  let world ← get
  when world.activeSender do
    swallow do
      let _ ← shutdownProcess environment .sender false
      pure ()
  when world.activeReceiver do
    swallow do
      let _ ← shutdownProcess environment .receiver benchmark.tracked
      pure ()
  when world.cleanupEligible (removeArtifacts environment)

def executeRun (item : RunTuple) (benchmark : Benchmark) : Script Bool := do
  call environment .compute
  when (benchmark.profile == some .stat) do
    call environment (.run .receiver)
  modify fun world =>
    { world with activeReceiver := false, activeSender := false, cleanupEligible := false }
  tryFinally (produce environment item benchmark) (cleanUp environment benchmark)

end NetLatencyLab.Harness
