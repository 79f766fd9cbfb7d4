import NetLatencyLab.Harness.RemoteProcess

/-! # Runs over harmless files

What `start_process` and `wait_process` read is left from an earlier attempt,
emptied by a redirection, or printed by a process of this call. -/

namespace NetLatencyLab.RemoteNode

open PythonText (Text strip words decimal numbers toInt?)

variable {profiled : Bool} {pids : Pids} {left : Files}

/-! ## The launch line -/

theorem numbers_substitution (text : Text) : numbers (substitution text) = numbers text :=
  PythonText.numbers_rdropWhile text fun char newline => by
    rw [beq_iff_eq.mp newline]
    rfl

theorem numbers_line (text : Text) : numbers (text ++ ['\n']) = numbers text := by
  rw [numbers, PythonText.words_concat text rfl, numbers]

private theorem numbers_launchLine_plain (monitor : Nat) (pid workloadPid : Text) :
    numbers (launchLine false monitor pid workloadPid) =
      (numbers pid).map fun child => (monitor : Int) :: child := by
  rw [launchLine, numbers_line, if_neg (by simp), List.append_nil,
    PythonText.numbers_append _ _ rfl, PythonText.numbers_decimal, numbers_substitution]
  cases numbers pid with
  | none => rfl
  | some child => rfl

private theorem numbers_launchLine_profiled (monitor : Nat) (pid workloadPid : Text) :
    numbers (launchLine true monitor pid workloadPid) =
      (numbers pid).bind fun child =>
        (numbers workloadPid).map fun workload => (monitor : Int) :: (child ++ workload) := by
  rw [launchLine, numbers_line, if_pos rfl, List.append_assoc, List.cons_append,
    PythonText.numbers_append _ _ rfl, PythonText.numbers_append _ _ rfl,
    PythonText.numbers_decimal, numbers_substitution, numbers_substitution]
  cases numbers pid with
  | none => rfl
  | some child =>
      cases numbers workloadPid with
      | none => rfl
      | some workload => rfl

def handleOf (profiled : Bool) : List Int → Option ProcessHandle
  | [monitor, child] =>
      if profiled then none else some { pid := child, monitorPid := monitor, workloadPid := none }
  | [monitor, child, workload] =>
      if profiled then some { pid := child, monitorPid := monitor, workloadPid := some workload }
      else none
  | _ => none

theorem parseHandle_eq (printed : Text) :
    parseHandle profiled printed = (numbers printed).bind (handleOf profiled) := by
  unfold parseHandle numbers
  rw [← PythonText.words_strip printed]
  generalize words (strip printed) = tokens
  rcases tokens with _ | ⟨monitor, _ | ⟨child, _ | ⟨workload, _ | ⟨extra, rest⟩⟩⟩⟩
  · cases profiled <;> rfl
  · cases profiled <;> cases first : toInt? monitor <;> simp [first, handleOf]
  · cases profiled <;> cases first : toInt? monitor <;> cases second : toInt? child <;>
      simp [first, second, handleOf]
  · cases profiled <;> cases first : toInt? monitor <;> cases second : toInt? child <;>
      cases third : toInt? workload <;> simp [first, second, third, handleOf]
  · cases profiled <;> cases first : toInt? monitor <;> cases second : toInt? child <;>
      cases third : toInt? workload <;> cases fourth : toInt? extra <;>
      cases others : rest.mapM toInt? <;> simp [first, second, third, fourth, others, handleOf]

/-! ## What the files hold -/

/-- What `cat` of the `.pid` may print. -/
inductive PidReading (pids : Pids) (left : Files) (state : State) : Text → Prop
  | left : PidReading pids left state (content left.pid)
  | emptied : PidReading pids left state []
  | printed : state.child ≠ .unborn → PidReading pids left state (decimal pids.child)

inductive StatusReading (left : Files) (state : State) : Text → Prop
  | left : StatusReading left state (content left.status)
  | emptied : StatusReading left state []
  | printed (code : Nat) : state.child = .exited code → StatusReading left state (decimal code)

inductive WorkloadReading (pids : Pids) (left : Files) (state : State) : Text → Prop
  | left : WorkloadReading pids left state (content left.workloadPid)
  | printed : state.shim ≠ .unborn → WorkloadReading pids left state (decimal pids.workload)

structure State.Precedes (before after : State) : Prop where
  child : before.child ≠ .unborn → after.child ≠ .unborn
  exited : ∀ code, before.child = .exited code → after.child = .exited code
  shim : before.shim ≠ .unborn → after.shim ≠ .unborn

section

variable {before after : State} (later : before.Precedes after)

include later

theorem PidReading.mono {text : Text} (reading : PidReading pids left before text) :
    PidReading pids left after text := by
  cases reading with
  | left => exact .left
  | emptied => exact .emptied
  | printed born => exact .printed (later.child born)

theorem StatusReading.mono {text : Text} (reading : StatusReading left before text) :
    StatusReading left after text := by
  cases reading with
  | left => exact .left
  | emptied => exact .emptied
  | printed code exited => exact .printed code (later.exited code exited)

theorem WorkloadReading.mono {text : Text} (reading : WorkloadReading pids left before text) :
    WorkloadReading pids left after text := by
  cases reading with
  | left => exact .left
  | printed born => exact .printed (later.shim born)

theorem Event.Right.mono {event : Event} (right : event.Right profiled pids before) :
    event.Right profiled pids after := by
  cases event with
  | started handle =>
      exact ⟨right.1, later.child right.2.1, fun tracked => later.shim (right.2.2 tracked)⟩
  | waited status =>
      rcases right with ⟨code, same, exited⟩
      exact ⟨code, same, later.exited code exited⟩
  | raised => trivial

end

structure Consistent (pids : Pids) (left : Files) (state : State) : Prop where
  launching : state.controller = .launching → state.monitor = .unborn
  forked : state.child = .unborn ↔ state.monitor = .unborn ∨ state.monitor = .forking
  collected : ∀ code, state.monitor = .openingStatus code ∨ state.monitor = .printingStatus code →
    state.child = .exited code
  pid : PidReading pids left state (content state.files.pid)
  status : StatusReading left state (content state.files.status)
  workloadPid : WorkloadReading pids left state (content state.files.workloadPid)
  moving : state.shim = .moving → state.files.temporary = some (decimal pids.workload)

theorem controllerStep_precedes (state : State) (alive : Bool) :
    state.Precedes (controllerStep profiled pids alive state).1 :=
  ⟨id, fun _ => id, id⟩

def Controller.isStarting : Controller → Bool
  | .launching | .readingPid | .readingWorkloadPid _ => true
  | _ => false

theorem conclude_isStarting (handle : ProcessHandle) (printed : Text) :
    (conclude handle printed).1.isStarting = false := by
  unfold conclude
  dsimp only
  split
  · rfl
  split
  · rfl
  split
  · rfl
  · rfl

theorem launched_isStarting (printed : Text) : (launched profiled printed).1.isStarting = false := by
  unfold launched
  split
  · rfl
  · rfl

/-- The shell goes on when the ready file holds something, and reads a second
file only for a profiled command. -/
theorem controllerNext_cases (profiled : Bool) (pids : Pids) (alive : Bool) (state : State) :
    (controllerNext profiled pids alive state).1.isStarting = false ∨
    ((controllerNext profiled pids alive state).1 = .readingPid ∧
      occupied (readyFile profiled state.files)) ∨
    (state.controller = .readingPid ∧ profiled ∧
      (controllerNext profiled pids alive state).1 =
        .readingWorkloadPid (content state.files.pid)) := by
  unfold controllerNext
  split
  · exact Or.inl rfl
  · dsimp only
    split
    next ready => exact Or.inr (Or.inl ⟨rfl, ready⟩)
    next => exact Or.inl rfl
  · split <;> exact Or.inl rfl
  · split <;> exact Or.inl rfl
  next start =>
    split
    next tracked => exact Or.inr (Or.inr ⟨start, tracked, rfl⟩)
    next => exact Or.inl (launched_isStarting _)
  · exact Or.inl (launched_isStarting _)
  · exact Or.inl rfl
  · dsimp only
    split <;> exact Or.inl rfl
  · exact Or.inl (conclude_isStarting _ _)
  · split
    · exact Or.inl (conclude_isStarting _ _)
    · exact Or.inl rfl
  · exact Or.inl (conclude_isStarting _ _)

private theorem controllerNext_ne_launching (alive : Bool) (state : State) :
    (controllerNext profiled pids alive state).1 ≠ .launching := by
  intro start
  rcases controllerNext_cases profiled pids alive state with
    other | ⟨other, -⟩ | ⟨-, -, other⟩
  · rw [start] at other
    cases other
  · rw [start] at other
    cases other
  · rw [start] at other
    cases other

private theorem next_readingPid {alive : Bool} {state : State}
    (next : (controllerNext profiled pids alive state).1 = .readingPid) :
    occupied (readyFile profiled state.files) := by
  rcases controllerNext_cases profiled pids alive state with
    other | ⟨-, ready⟩ | ⟨-, -, other⟩
  · rw [next] at other
    cases other
  · exact ready
  · rw [next] at other
    cases other

theorem next_readingWorkloadPid {alive : Bool} {state : State} {pid : Text}
    (next : (controllerNext profiled pids alive state).1 = .readingWorkloadPid pid) :
    state.controller = .readingPid ∧ profiled ∧ pid = content state.files.pid := by
  rcases controllerNext_cases profiled pids alive state with
    other | ⟨other, -⟩ | ⟨start, tracked, reading⟩
  · rw [next] at other
    cases other
  · rw [next] at other
    cases other
  · rw [next] at reading
    cases reading
    exact ⟨start, tracked, rfl⟩

namespace Consistent

variable {state : State} (consistent : Consistent pids left state)

include consistent

theorem monitorStep_precedes : state.Precedes (monitorStep pids state) := by
  obtain ⟨files, monitor, child, shim, controller⟩ := state
  cases monitor with
  | forking =>
      have unborn : child = .unborn := consistent.forked.mpr (Or.inr rfl)
      subst unborn
      exact ⟨fun _ => nofun, nofun, id⟩
  | waiting => cases child <;> exact ⟨id, fun _ => id, id⟩
  | _ => exact ⟨id, fun _ => id, id⟩

private theorem not_launching (born : state.monitor ≠ .unborn) : state.controller ≠ .launching :=
  fun start => born (consistent.launching start)

theorem monitorStep : Consistent pids left (monitorStep pids state) := by
  have later := consistent.monitorStep_precedes
  have status := consistent.status.mono later
  have pid := consistent.pid.mono later
  have workloadPid := consistent.workloadPid.mono later
  have started := consistent.not_launching
  obtain ⟨files, monitor, child, shim, controller⟩ := state
  have forked := consistent.forked
  have collected := consistent.collected
  have moving := consistent.moving
  cases monitor with
  | unborn => exact consistent
  | forking =>
      exact ⟨fun start => absurd start (started nofun), by simp [RemoteNode.monitorStep],
        by simp [RemoteNode.monitorStep], pid, status, workloadPid, moving⟩
  | openingPid =>
      exact ⟨fun start => absurd start (started nofun),
        by simpa [RemoteNode.monitorStep] using forked, by simp [RemoteNode.monitorStep],
        .emptied, status, workloadPid, moving⟩
  | printingPid =>
      have born : child ≠ .unborn := by simpa using forked
      exact ⟨fun start => absurd start (started nofun),
        by simpa [RemoteNode.monitorStep] using forked, by simp [RemoteNode.monitorStep],
        .printed born, status, workloadPid, moving⟩
  | waiting =>
      cases child with
      | exited code =>
          exact ⟨fun start => absurd start (started nofun), by simp [RemoteNode.monitorStep],
            by simp [RemoteNode.monitorStep], pid, status, workloadPid, moving⟩
      | _ => exact consistent
  | openingStatus code =>
      exact ⟨fun start => absurd start (started nofun),
        by simpa [RemoteNode.monitorStep] using forked,
        by simpa [RemoteNode.monitorStep] using collected, pid, .emptied, workloadPid, moving⟩
  | printingStatus code =>
      have exited : child = .exited code := collected code (Or.inr rfl)
      exact ⟨fun start => absurd start (started nofun),
        by simpa [RemoteNode.monitorStep] using forked, by simp [RemoteNode.monitorStep], pid,
        .printed code exited, workloadPid, moving⟩
  | exited => exact consistent

theorem exitStep_precedes (code : Nat) : state.Precedes (exitStep code state) := by
  obtain ⟨files, monitor, child, shim, controller⟩ := state
  cases child with
  | running => exact ⟨fun _ => nofun, nofun, id⟩
  | _ => exact ⟨id, fun _ => id, id⟩

theorem exitStep (code : Nat) : Consistent pids left (exitStep code state) := by
  have later := consistent.exitStep_precedes code
  have status := consistent.status.mono later
  have pid := consistent.pid.mono later
  have workloadPid := consistent.workloadPid.mono later
  obtain ⟨files, monitor, child, shim, controller⟩ := state
  cases child with
  | running =>
      have forked : ¬(monitor = .unborn ∨ monitor = .forking) := by
        simpa using consistent.forked
      refine ⟨consistent.launching, iff_of_false nofun forked, ?_, pid, status, workloadPid,
        consistent.moving⟩
      intro other at_
      cases consistent.collected other at_
  | _ => exact consistent

theorem shimStep_precedes : state.Precedes (shimStep profiled pids state) := by
  obtain ⟨files, monitor, child, shim, controller⟩ := state
  cases shim with
  | unborn =>
      cases profiled with
      | false => exact ⟨id, fun _ => id, id⟩
      | true => cases child <;> exact ⟨id, fun _ => id, fun born => absurd rfl born⟩
  | _ => exact ⟨id, fun _ => id, nofun⟩

theorem shimStep : Consistent pids left (shimStep profiled pids state) := by
  have later : state.Precedes (RemoteNode.shimStep profiled pids state) :=
    consistent.shimStep_precedes
  have status := consistent.status.mono later
  have pid := consistent.pid.mono later
  have workloadPid := consistent.workloadPid.mono later
  obtain ⟨files, monitor, child, shim, controller⟩ := state
  have launching := consistent.launching
  have forked := consistent.forked
  have collected := consistent.collected
  cases shim with
  | unborn =>
      cases profiled with
      | false => exact consistent
      | true =>
          cases child with
          | running => exact ⟨launching, forked, collected, pid, status, workloadPid, nofun⟩
          | _ => exact consistent
  | printing => exact ⟨launching, forked, collected, pid, status, workloadPid, fun _ => rfl⟩
  | moving =>
      have moved : files.temporary = some (decimal pids.workload) := consistent.moving rfl
      refine ⟨launching, forked, collected, pid, status, ?_, nofun⟩
      simp only [RemoteNode.shimStep, moved]
      exact .printed nofun
  | executing => exact consistent

theorem controllerStep (alive : Bool) :
    Consistent pids left (controllerStep profiled pids alive state).1 := by
  have later : state.Precedes (RemoteNode.controllerStep profiled pids alive state).1 :=
    controllerStep_precedes state alive
  have status := consistent.status.mono later
  have pid := consistent.pid.mono later
  have workloadPid := consistent.workloadPid.mono later
  obtain ⟨files, monitor, child, shim, controller⟩ := state
  cases controller with
  | launching =>
      have idle : monitor = .unborn := consistent.launching rfl
      subst idle
      have unborn : child = .unborn := consistent.forked.mpr (Or.inl rfl)
      exact ⟨nofun, iff_of_true unborn (Or.inr rfl), nofun, pid, status, workloadPid,
        consistent.moving⟩
  | _ =>
      exact ⟨fun start => absurd start (controllerNext_ne_launching alive _), consistent.forked,
        consistent.collected, pid, status, workloadPid, consistent.moving⟩

theorem step (action : Action) :
    Consistent pids left ((machine profiled pids).step state action).1 := by
  cases action with
  | monitor => exact consistent.monitorStep
  | exit code => exact consistent.exitStep code
  | shim => exact consistent.shimStep
  | controller alive => exact consistent.controllerStep alive

end Consistent

theorem consistent_start (left : Files) : Consistent pids left { files := left } where
  launching := fun _ => rfl
  forked := iff_of_true rfl (Or.inl rfl)
  collected := nofun
  pid := .left
  status := .left
  workloadPid := .left
  moving := nofun

theorem attempt_consistent (left : Files) (schedule : List Action) :
    Consistent pids left (attempt profiled pids left schedule).1 :=
  (machine profiled pids).run_invariant (fun _ => Consistent pids left) (consistent_start left)
    (fun _ _ action consistent => consistent.step action) schedule

/-! ## What the controller makes of its readings -/

theorem handleOf_plain {monitor : Int} {rest : List Int} {handle : ProcessHandle} :
    handleOf false (monitor :: rest) = some handle ↔
      ∃ child, rest = [child] ∧ handle = ⟨child, monitor, none⟩ := by
  rcases rest with _ | ⟨child, _ | ⟨workload, _ | ⟨extra, rest⟩⟩⟩
  · simp [handleOf]
  · simp [handleOf, eq_comm]
  · simp [handleOf]
  · simp [handleOf]

private theorem handleOf_profiled {monitor : Int} {rest : List Int} {handle : ProcessHandle} :
    handleOf true (monitor :: rest) = some handle ↔
      ∃ child workload, rest = [child, workload] ∧ handle = ⟨child, monitor, some workload⟩ := by
  rcases rest with _ | ⟨child, _ | ⟨workload, _ | ⟨extra, rest⟩⟩⟩
  · simp [handleOf]
  · simp [handleOf]
  · simp [handleOf, eq_comm]
  · simp [handleOf]

theorem parse_plain {monitor : Nat} {pid workloadPid : Text} {handle : ProcessHandle} :
    parseHandle false (launchLine false monitor pid workloadPid) = some handle ↔
      ∃ child, numbers pid = some [child] ∧ handle = ⟨child, monitor, none⟩ := by
  rw [parseHandle_eq, numbers_launchLine_plain]
  cases numbers pid with
  | none => simp
  | some values => simpa using handleOf_plain

theorem parse_profiled {monitor : Nat} {pid workloadPid : Text} {handle : ProcessHandle} :
    parseHandle true (launchLine true monitor pid workloadPid) = some handle ↔
      ∃ first second child workload, numbers pid = some first ∧
        numbers workloadPid = some second ∧ first ++ second = [child, workload] ∧
        handle = ⟨child, monitor, some workload⟩ := by
  rw [parseHandle_eq, numbers_launchLine_profiled]
  cases numbers pid with
  | none => simp
  | some first =>
      cases numbers workloadPid with
      | none => simp
      | some second => simpa using handleOf_profiled

theorem PidReading.child (harmless : left.Harmless profiled) {state : State} {text : Text}
    (reading : PidReading pids left state text) {value : Int}
    (read : numbers text = some [value]) : value = pids.child ∧ state.child ≠ .unborn := by
  cases reading with
  | left => exact absurd read (harmless.pid value)
  | emptied => cases read
  | printed born =>
      rw [PythonText.numbers_decimal] at read
      cases read
      exact ⟨rfl, born⟩

private theorem started_plain (harmless : left.Harmless false) {state : State} {pid : Text}
    (reading : PidReading pids left state pid) {handle : ProcessHandle}
    (parsed : parseHandle false (launchLine false pids.monitor pid []) = some handle) :
    (Event.started handle).Right false pids state := by
  rcases parse_plain.mp parsed with ⟨child, read, rfl⟩
  rcases reading.child harmless read with ⟨rfl, born⟩
  exact ⟨rfl, born, nofun⟩

private theorem started_profiled (harmless : left.Harmless true) {state : State}
    {pid workloadPid : Text} (reading : PidReading pids left state pid)
    (workload : WorkloadReading pids left state workloadPid) (ready : workloadPid ≠ [])
    {handle : ProcessHandle}
    (parsed : parseHandle true (launchLine true pids.monitor pid workloadPid) = some handle) :
    (Event.started handle).Right true pids state := by
  rcases parse_profiled.mp parsed with
    ⟨first, second, childPid, workloadPid', readPid, readWorkload, both, rfl⟩
  rcases List.append_eq_cons_iff.mp both with ⟨rfl, rfl⟩ | ⟨one, rfl, others⟩
  · -- The `.pid` had no number: the other file had two.
    cases workload with
    | left => exact absurd readWorkload (harmless.pair rfl _ _)
    | printed born =>
        rw [PythonText.numbers_decimal] at readWorkload
        cases readWorkload
  rcases List.cons_eq_append_iff.mp others with ⟨rfl, rfl⟩ | ⟨more, rfl, rest⟩
  · -- One number in each file.
    rcases reading.child harmless readPid with ⟨rfl, born⟩
    cases workload with
    | left => exact absurd readWorkload (harmless.workloadPid rfl _)
    | printed shimBorn =>
        rw [PythonText.numbers_decimal] at readWorkload
        cases readWorkload
        exact ⟨rfl, born, fun _ => shimBorn⟩
  · -- Both numbers were in the `.pid`.
    rcases List.append_eq_nil_iff.mp rest.symm with ⟨rfl, rfl⟩
    cases workload with
    | printed born =>
        rw [PythonText.numbers_decimal] at readWorkload
        cases readWorkload
    | left =>
        cases reading with
        | left =>
            exact absurd readPid (harmless.blank rfl (decide_eq_true ready) readWorkload _ _)
        | emptied => cases readPid
        | printed born =>
            rw [PythonText.numbers_decimal] at readPid
            cases readPid

theorem raised_right {state : State} {event : Event} (member : event ∈ [Event.raised]) :
    event.Right profiled pids state := by
  rw [List.mem_singleton.mp member]
  trivial

theorem conclude_of_status {handle : ProcessHandle} {printed : Text} {status : Int}
    (read : toInt? (strip printed) = some status) :
    conclude handle printed = (.polling handle, [.waited status]) := by
  have waits : strip printed ≠ "running".toList := by
    intro same
    rw [same] at read
    cases read
  have ends : strip printed ≠ "exited".toList := by
    intro same
    rw [same] at read
    cases read
  unfold conclude
  dsimp only
  rw [if_neg waits, if_neg ends, read]

theorem waited (harmless : left.Harmless profiled) {state : State} {text : Text}
    (reading : StatusReading left state text) {event : Event} {handle : ProcessHandle}
    (member : event ∈ (conclude handle text).2) : event.Right profiled pids state := by
  unfold conclude at member
  dsimp only at member
  split at member
  · cases member
  split at member
  · exact raised_right member
  split at member
  next status read =>
    rw [List.mem_singleton.mp member]
    cases reading with
    | left => rw [harmless.status] at read; cases read
    | emptied => cases read
    | printed code exited =>
        rw [PythonText.strip_decimal, PythonText.toInt?_decimal] at read
        exact ⟨code, (Option.some.inj read).symm, exited⟩
  next => exact raised_right member

theorem launched_right {state : State} {printed : Text} {event : Event}
    (right : ∀ handle, parseHandle profiled printed = some handle →
      (Event.started handle).Right profiled pids state)
    (member : event ∈ (launched profiled printed).2) : event.Right profiled pids state := by
  unfold launched at member
  split at member
  next handle parsed =>
    rw [List.mem_singleton.mp member]
    exact right handle parsed
  next => exact raised_right member

theorem probed {state : State} {event : Event} {handle : ProcessHandle} (alive : Bool)
    (member : event ∈
      (conclude handle (if alive then "running\n".toList else "exited\n".toList)).2) :
    event.Right profiled pids state := by
  cases alive with
  | true => cases member
  | false => exact raised_right member

/-! ## Runs -/

structure Coherent (profiled : Bool) (pids : Pids) (left : Files) (history : List Event)
    (state : State) : Prop where
  consistent : Consistent pids left state
  ready : (state.controller = .readingPid ∨ ∃ pid, state.controller = .readingWorkloadPid pid) →
    profiled → content state.files.workloadPid ≠ []
  remembered : ∀ pid, state.controller = .readingWorkloadPid pid →
    profiled ∧ PidReading pids left state pid
  right : ∀ event ∈ history, event.Right profiled pids state

private theorem monitorStep_frame (pids : Pids) (state : State) :
    (monitorStep pids state).controller = state.controller ∧
      (monitorStep pids state).files.workloadPid = state.files.workloadPid := by
  obtain ⟨files, monitor, child, shim, controller⟩ := state
  cases monitor with
  | waiting => cases child <;> exact ⟨rfl, rfl⟩
  | _ => exact ⟨rfl, rfl⟩

private theorem exitStep_frame (code : Nat) (state : State) :
    (exitStep code state).controller = state.controller ∧
      (exitStep code state).files = state.files := by
  obtain ⟨files, monitor, child, shim, controller⟩ := state
  cases child <;> exact ⟨rfl, rfl⟩

private theorem shimStep_controller (state : State) :
    (shimStep profiled pids state).controller = state.controller := by
  obtain ⟨files, monitor, child, shim, controller⟩ := state
  cases shim with
  | unborn =>
      cases profiled with
      | false => rfl
      | true => cases child <;> rfl
  | _ => rfl

namespace Coherent

variable {history : List Event} {state next : State}

theorem background (coherent : Coherent profiled pids left history state)
    (consistent : Consistent pids left next) (later : state.Precedes next)
    (controller : next.controller = state.controller)
    (kept : content state.files.workloadPid ≠ [] → content next.files.workloadPid ≠ []) :
    Coherent profiled pids left history next where
  consistent := consistent
  ready := by
    rw [controller]
    exact fun reading tracked => kept (coherent.ready reading tracked)
  remembered := by
    rw [controller]
    intro pid reading
    rcases coherent.remembered pid reading with ⟨tracked, remembered⟩
    exact ⟨tracked, remembered.mono later⟩
  right := fun event member => (coherent.right event member).mono later

theorem monitorStep (coherent : Coherent profiled pids left history state) :
    Coherent profiled pids left history (monitorStep pids state) := by
  rcases monitorStep_frame pids state with ⟨controller, workloadPid⟩
  apply coherent.background coherent.consistent.monitorStep
    coherent.consistent.monitorStep_precedes controller
  rw [workloadPid]
  exact id

theorem exitStep (coherent : Coherent profiled pids left history state) (code : Nat) :
    Coherent profiled pids left history (exitStep code state) := by
  rcases exitStep_frame code state with ⟨controller, files⟩
  apply coherent.background (coherent.consistent.exitStep code)
    (coherent.consistent.exitStep_precedes code) controller
  rw [files]
  exact id

theorem shimStep (coherent : Coherent profiled pids left history state) :
    Coherent profiled pids left history (shimStep profiled pids state) := by
  apply coherent.background coherent.consistent.shimStep coherent.consistent.shimStep_precedes
  · exact shimStep_controller state
  · have moving := coherent.consistent.moving
    obtain ⟨files, monitor, child, shim, controller⟩ := state
    intro ready
    cases shim with
    | unborn =>
        cases profiled with
        | false => exact ready
        | true => cases child <;> exact ready
    | printing => exact ready
    | moving =>
        have moved : files.temporary = some (decimal pids.workload) := moving rfl
        simp only [RemoteNode.shimStep, moved]
        exact PythonText.decimal_ne_nil pids.workload
    | executing => exact ready

theorem reported (harmless : left.Harmless profiled)
    (coherent : Coherent profiled pids left history state) (alive : Bool) {event : Event}
    (member : event ∈ (controllerNext profiled pids alive state).2) :
    event.Right profiled pids state := by
  have consistent := coherent.consistent
  unfold controllerNext at member
  split at member
  · cases member
  · cases member
  · split at member
    · exact raised_right member
    · cases member
  · split at member
    · cases member
    · exact raised_right member
  · split at member
    · cases member
    next plain =>
      have untracked : profiled = false := Bool.eq_false_iff.mpr plain
      subst untracked
      exact launched_right (fun handle => started_plain harmless consistent.pid) member
  next pid reading =>
    rcases coherent.remembered pid reading with ⟨tracked, remembered⟩
    have ready := coherent.ready (Or.inr ⟨pid, reading⟩) tracked
    subst tracked
    exact launched_right
      (fun handle => started_profiled harmless remembered consistent.workloadPid ready) member
  · cases member
  · cases member
  · exact waited harmless consistent.status member
  · split at member
    · exact probed true member
    · cases member
  · exact probed alive member

private theorem readied (coherent : Coherent profiled pids left history state) (alive : Bool)
    (reading : (controllerNext profiled pids alive state).1 = .readingPid ∨
      ∃ pid, (controllerNext profiled pids alive state).1 = .readingWorkloadPid pid)
    (tracked : profiled) : content state.files.workloadPid ≠ [] := by
  rcases reading with reading | ⟨pid, reading⟩
  · have ready := next_readingPid reading
    subst tracked
    exact of_decide_eq_true ready
  · have start := (next_readingWorkloadPid reading).1
    exact coherent.ready (Or.inl start) tracked

theorem controllerStep (harmless : left.Harmless profiled)
    (coherent : Coherent profiled pids left history state) (alive : Bool) :
    Coherent profiled pids left (history ++ (controllerStep profiled pids alive state).2)
      (controllerStep profiled pids alive state).1 := by
  have later : state.Precedes (RemoteNode.controllerStep profiled pids alive state).1 :=
    controllerStep_precedes state alive
  refine ⟨coherent.consistent.controllerStep alive, coherent.readied alive, ?_, ?_⟩
  · intro pid reading
    rcases next_readingWorkloadPid reading with ⟨-, tracked, rfl⟩
    exact ⟨tracked, coherent.consistent.pid.mono later⟩
  · intro event member
    rcases List.mem_append.mp member with past | reported
    · exact (coherent.right event past).mono later
    · exact (coherent.reported harmless alive reported).mono later

end Coherent

theorem Coherent.step {history : List Event} {state : State} (harmless : left.Harmless profiled)
    (coherent : Coherent profiled pids left history state) (action : Action) :
    Coherent profiled pids left (history ++ ((machine profiled pids).step state action).2)
      ((machine profiled pids).step state action).1 := by
  cases action with
  | monitor =>
      rw [show (machine profiled pids).step state .monitor =
        (RemoteNode.monitorStep pids state, []) from rfl, List.append_nil]
      exact coherent.monitorStep
  | exit code =>
      rw [show (machine profiled pids).step state (.exit code) =
        (RemoteNode.exitStep code state, []) from rfl, List.append_nil]
      exact coherent.exitStep code
  | shim =>
      rw [show (machine profiled pids).step state .shim =
        (RemoteNode.shimStep profiled pids state, []) from rfl, List.append_nil]
      exact coherent.shimStep
  | controller alive => exact coherent.controllerStep harmless alive

theorem attempt_right (harmless : left.Harmless profiled) (schedule : List Action) :
    Right profiled pids (attempt profiled pids left schedule) := by
  have start : Coherent profiled pids left [] { files := left } :=
    ⟨consistent_start left, by simp, nofun, nofun⟩
  have coherent := (machine profiled pids).run_invariant (Coherent profiled pids left) start
    (fun history state action coherent => coherent.step harmless action) schedule
  exact coherent.right

end NetLatencyLab.RemoteNode
