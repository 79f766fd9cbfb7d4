import NetLatencyLab.Foundation.DecimalText
import NetLatencyLab.Foundation.Machine

/-! # Processes on a remote node

`RemoteNode.start_process` runs a command under a monitor shell. The monitor
leaves the PID and the exit status of the command in files next to its log, and
a profiled command has its workload leave a PID as well. `start_process` and
`wait_process` know the command by these files only, and their paths are the
same in every attempt of a run. -/

namespace NetLatencyLab.RemoteNode

open PythonText (Text strip words decimal numbers toInt?)

/-- The files `.pid`, `.status`, `.workload.pid` and `.workload.pid.tmp`. -/
structure Files where
  pid : Option Text := none
  status : Option Text := none
  workloadPid : Option Text := none
  temporary : Option Text := none

/-- What `cat` prints. -/
def content (file : Option Text) : Text := file.getD []

/-- `test -s`. -/
def occupied (file : Option Text) : Bool := content file ≠ []

/-- What the kernel of the node chooses for the processes of one call. -/
structure Pids where
  monitor : Nat
  child : Nat
  workload : Nat
  positive : 0 < monitor ∧ 0 < child ∧ 0 < workload
  distinct : [monitor, child, workload].Nodup

structure ProcessHandle where
  pid : Int
  monitorPid : Int
  workloadPid : Option Int
deriving DecidableEq

def substitution (text : Text) : Text := text.rdropWhile (· == '\n')

def launchLine (profiled : Bool) (monitor : Nat) (pid workloadPid : Text) : Text :=
  decimal monitor ++ ' ' :: substitution pid ++
    (if profiled then ' ' :: substitution workloadPid else []) ++ ['\n']

/-- The end of `start_process`: `none` if it raises. -/
def parseHandle (profiled : Bool) (printed : Text) : Option ProcessHandle :=
  match profiled, words (strip printed) with
  | false, [monitor, child] => do
      let monitorPid ← toInt? monitor
      let childPid ← toInt? child
      some { pid := childPid, monitorPid := monitorPid, workloadPid := none }
  | true, [monitor, child, workload] => do
      let monitorPid ← toInt? monitor
      let childPid ← toInt? child
      let workloadPid ← toInt? workload
      some { pid := childPid, monitorPid := monitorPid, workloadPid := some workloadPid }
  | _, _ => none

/-! ## The parties -/

/-- The shell `setsid … & child=$!; printf … > pid; wait; printf … > status`. A
redirection empties its file before anything is printed. -/
inductive Monitor
  | unborn
  | forking
  | openingPid
  | printingPid
  | waiting
  | openingStatus (code : Nat)
  | printingStatus (code : Nat)
  | exited

inductive Child
  | unborn
  | running
  | exited (code : Nat)

/-- The shim of `instrument_workload`, which becomes the workload. -/
inductive Shim
  | unborn
  | printing
  | moving
  | executing
deriving DecidableEq

/-- `start_process` and then any number of calls of `wait_process`. -/
inductive Controller
  | launching
  | awaiting
  | checkingStatus
  | checkingMonitor
  | readingPid
  | readingWorkloadPid (pid : Text)
  | failed
  | polling (handle : ProcessHandle)
  | readingStatus (handle : ProcessHandle)
  | probingChild (handle : ProcessHandle)
  | probingMonitor (handle : ProcessHandle)

structure State where
  files : Files
  monitor : Monitor := .unborn
  child : Child := .unborn
  shim : Shim := .unborn
  controller : Controller := .launching

/-- Who moves next. The controller is told what `kill -0` answers. -/
inductive Action
  | monitor
  | exit (code : Nat)
  | shim
  | controller (alive : Bool)

inductive Event
  | started (handle : ProcessHandle)
  | waited (status : Int)
  | raised

variable (profiled : Bool) (pids : Pids)

def monitorStep (state : State) : State :=
  match state.monitor with
  | .unborn => state
  | .forking => { state with child := .running, monitor := .openingPid }
  | .openingPid =>
      { state with files := { state.files with pid := some [] }, monitor := .printingPid }
  | .printingPid =>
      { state with
        files := { state.files with pid := some (decimal pids.child) }
        monitor := .waiting }
  | .waiting =>
      match state.child with
      | .exited code => { state with monitor := .openingStatus code }
      | _ => state
  | .openingStatus code =>
      { state with
        files := { state.files with status := some [] }
        monitor := .printingStatus code }
  | .printingStatus code =>
      { state with
        files := { state.files with status := some (decimal code) }
        monitor := .exited }
  | .exited => state

def exitStep (code : Nat) (state : State) : State :=
  match state.child with
  | .running => { state with child := .exited code }
  | _ => state

/-- `printf '%s' "$$" > tmp; mv -f -- tmp path; exec "$@"`. -/
def shimStep (state : State) : State :=
  match state.shim with
  | .unborn =>
      match profiled, state.child with
      | true, .running => { state with shim := .printing }
      | _, _ => state
  | .printing =>
      { state with
        files := { state.files with temporary := some (decimal pids.workload) }
        shim := .moving }
  | .moving =>
      { state with
        files := { state.files with workloadPid := state.files.temporary, temporary := none }
        shim := .executing }
  | .executing => state

/-- What `wait_process` makes of one answer; a loop that goes on polls again, and
so does the next call. -/
def conclude (handle : ProcessHandle) (printed : Text) : Controller × List Event :=
  let output := strip printed
  if output = "running".toList then (.polling handle, [])
  else if output = "exited".toList then (.polling handle, [.raised])
  else match toInt? output with
    | some status => (.polling handle, [.waited status])
    | none => (.polling handle, [.raised])

/-- `start_process` after the launching shell has ended. -/
def launched (printed : Text) : Controller × List Event :=
  match parseHandle profiled printed with
  | some handle => (.polling handle, [.started handle])
  | none => (.failed, [.raised])

def readyFile (files : Files) : Option Text := if profiled then files.workloadPid else files.pid

def controllerNext (alive : Bool) (state : State) : Controller × List Event :=
  match state.controller with
  | .launching => (.awaiting, [])
  | .awaiting =>
      (if occupied (readyFile profiled state.files) then .readingPid else .checkingStatus, [])
  | .checkingStatus =>
      -- The shell exits with that status, and `start_process` raises either way.
      if occupied state.files.status then (.failed, [.raised]) else (.checkingMonitor, [])
  | .checkingMonitor => if alive then (.awaiting, []) else (.failed, [.raised])
  | .readingPid =>
      if profiled then (.readingWorkloadPid (content state.files.pid), [])
      else launched profiled (launchLine profiled pids.monitor (content state.files.pid) [])
  | .readingWorkloadPid pid =>
      launched profiled (launchLine profiled pids.monitor pid (content state.files.workloadPid))
  | .failed => (.failed, [])
  | .polling handle =>
      (if occupied state.files.status then .readingStatus handle else .probingChild handle, [])
  | .readingStatus handle => conclude handle (content state.files.status)
  | .probingChild handle =>
      if alive then conclude handle "running\n".toList else (.probingMonitor handle, [])
  | .probingMonitor handle =>
      conclude handle (if alive then "running\n".toList else "exited\n".toList)

def controllerStep (alive : Bool) (state : State) : State × List Event :=
  let next := controllerNext profiled pids alive state
  let monitor := match state.controller with
    | .launching => .forking
    | _ => state.monitor
  ({ state with monitor := monitor, controller := next.1 }, next.2)

def machine : Machine State Action Event where
  step state
    | .monitor => (monitorStep pids state, [])
    | .exit code => (exitStep code state, [])
    | .shim => (shimStep profiled pids state, [])
    | .controller alive => controllerStep profiled pids alive state

/-- One call of `start_process`, from the files it finds. -/
def attempt (files : Files) (schedule : List Action) : State × List Event :=
  (machine profiled pids).run { files := files } schedule

/-! ## What a handle promises -/

/-- The handle of the processes that this call launches. -/
def Pids.handle : ProcessHandle where
  pid := pids.child
  monitorPid := pids.monitor
  workloadPid := if profiled then some pids.workload else none

def State.Launched (state : State) : Prop :=
  state.child ≠ .unborn ∧ (profiled → state.shim ≠ .unborn)

/-- A handle is about the processes of this call, and a status is the one its
command exited with. -/
def Event.Right (state : State) : Event → Prop
  | .started handle => handle = pids.handle profiled ∧ state.Launched profiled
  | .waited status => ∃ code : Nat, status = code ∧ state.child = .exited code
  | .raised => True

def Right (outcome : State × List Event) : Prop :=
  ∀ event ∈ outcome.2, event.Right profiled pids outcome.1

/-- No file reads as the numbers that `start_process` and `wait_process` look
for in it. Two numbers count in a `.workload.pid` since the `.pid` may be read
while it is empty, and in a `.pid` beside a blank `.workload.pid`. -/
structure Files.Harmless (files : Files) : Prop where
  status : toInt? (strip (content files.status)) = none
  pid : ∀ value, numbers (content files.pid) ≠ some [value]
  workloadPid : profiled → ∀ value, numbers (content files.workloadPid) ≠ some [value]
  pair : profiled → ∀ first second, numbers (content files.workloadPid) ≠ some [first, second]
  blank : profiled → occupied files.workloadPid → numbers (content files.workloadPid) = some [] →
    ∀ first second, numbers (content files.pid) ≠ some [first, second]

end NetLatencyLab.RemoteNode
