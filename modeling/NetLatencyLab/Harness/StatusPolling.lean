import NetLatencyLab.Harness.RemoteAttempts

/-! # Polling for an exit status

A poll of `wait_process` tests the status file, then the command and then its
monitor, while the monitor is finishing. The tests are apart in time: a monitor
that writes the status and exits after the first one is gone at the last. -/

namespace NetLatencyLab.RemoteNode

open PythonText (decimal)

def Monitor.Owes (child : Child) : Monitor → Prop
  | .waiting => child ≠ .unborn
  | .openingStatus code => child = .exited code
  | .printingStatus code => child = .exited code
  | _ => False

/-- `start_process` returned the handle of its own processes. -/
structure Clean (profiled : Bool) (pids : Pids) (state : State) : Prop where
  polls : state.controller = .polling (pids.handle profiled)
  empty : occupied state.files.status = false
  owes : state.monitor.Owes state.child

/-- `kill -0` finds a running process. What it says of one that has exited depends
on who has reaped it, and on who got its PID. -/
def Truthful (state : State) : Action → Prop
  | .controller alive =>
      match state.controller with
      | .probingChild _ => alive ∨ ∃ code, state.child = .exited code
      | .probingMonitor _ => alive ∨ state.monitor = .exited
      | _ => True
  | _ => True

/-- The poll began without a status, and its last test finds the monitor gone. -/
def Overtaken (state : State) (action : Action) : Prop :=
  (∃ handle, state.controller = .probingMonitor handle) ∧ state.monitor = .exited ∧
    action = .controller false

/-- A status that the command exited with, and not `exited without status`. -/
def Event.IsExitStatus (state : State) (event : Event) : Prop :=
  ∃ code : Nat, event = .waited code ∧ state.child = .exited code

variable {profiled : Bool} {pids : Pids}

/-! ## While polling -/

structure Polls (history : List Event) (state : State) : Prop where
  written : state.monitor = .exited →
    ∃ code, state.child = .exited code ∧ state.files.status = some (decimal code)
  owed : state.monitor ≠ .exited →
    occupied state.files.status = false ∧ state.monitor.Owes state.child
  polling : ∃ handle, state.controller = .polling handle ∨
    state.controller = .readingStatus handle ∧ state.monitor = .exited ∨
    state.controller = .probingChild handle ∨ state.controller = .probingMonitor handle
  answered : ∀ event ∈ history, event.IsExitStatus state

theorem Clean.polls_nil {state : State} (clean : Clean profiled pids state) : Polls [] state where
  written := by
    intro exited
    have owes := clean.owes
    rw [exited] at owes
    exact owes.elim
  owed := fun _ => ⟨clean.empty, clean.owes⟩
  polling := ⟨_, Or.inl clean.polls⟩
  answered := nofun

namespace Polls

variable {history : List Event} {state : State}

theorem monitorStep (polls : Polls history state) : Polls history (monitorStep pids state) := by
  rcases state with ⟨files, monitor, child, shim, controller⟩
  rcases polls with ⟨written, owed, polling, answered⟩
  -- Only a monitor that exits makes a poll that read the file.
  have polling' : ∀ next, monitor ≠ .exited ∨ next = .exited →
      ∃ handle, controller = .polling handle ∨
        controller = .readingStatus handle ∧ next = Monitor.exited ∨
        controller = .probingChild handle ∨ controller = .probingMonitor handle := by
    intro next running
    rcases polling with ⟨handle, idle | ⟨reading, exited⟩ | probing⟩
    · exact ⟨handle, Or.inl idle⟩
    · rcases running with running | exits
      · exact absurd exited running
      · exact ⟨handle, Or.inr (Or.inl ⟨reading, exits⟩)⟩
    · exact ⟨handle, Or.inr (Or.inr probing)⟩
  cases monitor with
  | waiting =>
      rcases owed nofun with ⟨empty, owes⟩
      cases child with
      | unborn => exact absurd rfl owes
      | running => exact ⟨nofun, fun _ => ⟨empty, owes⟩, polling, answered⟩
      | exited code =>
          exact ⟨nofun, fun _ => ⟨empty, rfl⟩, polling' _ (Or.inl nofun), answered⟩
  | openingStatus code =>
      rcases owed nofun with ⟨empty, owes⟩
      exact ⟨nofun, fun _ => ⟨rfl, owes⟩, polling' _ (Or.inl nofun), answered⟩
  | printingStatus code =>
      rcases owed nofun with ⟨empty, owes⟩
      exact ⟨fun _ => ⟨code, owes, rfl⟩, absurd rfl, polling' _ (Or.inl nofun), answered⟩
  | exited => exact ⟨written, owed, polling, answered⟩
  | unborn => exact (owed nofun).2.elim
  | forking => exact (owed nofun).2.elim
  | openingPid => exact (owed nofun).2.elim
  | printingPid => exact (owed nofun).2.elim

theorem exitStep (polls : Polls history state) (code : Nat) :
    Polls history (exitStep code state) := by
  rcases state with ⟨files, monitor, child, shim, controller⟩
  rcases polls with ⟨written, owed, polling, answered⟩
  cases child with
  | unborn => exact ⟨written, owed, polling, answered⟩
  | exited earlier => exact ⟨written, owed, polling, answered⟩
  | running =>
      refine ⟨?_, ?_, polling, ?_⟩
      · intro exited
        rcases written exited with ⟨_, impossible, _⟩
        cases impossible
      · intro running
        rcases owed running with ⟨empty, owes⟩
        refine ⟨empty, ?_⟩
        cases monitor with
        | waiting => exact nofun
        | openingStatus code => cases owes
        | printingStatus code => cases owes
        | _ => exact owes
      · intro event mem
        rcases answered event mem with ⟨_, _, impossible⟩
        cases impossible

theorem shimStep (polls : Polls history state) : Polls history (shimStep profiled pids state) := by
  rcases state with ⟨files, monitor, child, shim, controller⟩
  rcases polls with ⟨written, owed, polling, answered⟩
  cases shim with
  | unborn =>
      cases profiled with
      | false => exact ⟨written, owed, polling, answered⟩
      | true =>
          cases child with
          | _ => exact ⟨written, owed, polling, answered⟩
  | _ => exact ⟨written, owed, polling, answered⟩

private theorem conclude_status {handle : ProcessHandle} (code : Nat) :
    conclude handle (decimal code) = (.polling handle, [.waited code]) := by
  apply conclude_of_status
  rw [PythonText.strip_decimal, PythonText.toInt?_decimal]

theorem controllerStep (polls : Polls history state) (alive : Bool)
    (truthful : Truthful state (.controller alive))
    (punctual : ¬ Overtaken state (.controller alive)) :
    Polls (history ++ (controllerStep profiled pids alive state).2)
      (controllerStep profiled pids alive state).1 := by
  rcases state with ⟨files, monitor, child, shim, controller⟩
  rcases polls with ⟨written, owed, ⟨handle, polling⟩, answered⟩
  have silent : ∀ event ∈ history ++ [],
      event.IsExitStatus (State.mk files monitor child shim controller) := by
    rw [List.append_nil]
    exact answered
  rcases polling with idle | ⟨reading, exited⟩ | probing | probing
  · subst idle
    cases found : occupied files.status with
    | true =>
        have exited : monitor = .exited := by
          by_contra running
          rw [(owed running).1] at found
          cases found
        have next : RemoteNode.controllerStep profiled pids alive
            ⟨files, monitor, child, shim, .polling handle⟩ =
              (⟨files, monitor, child, shim, .readingStatus handle⟩, []) := by
          simp [RemoteNode.controllerStep, controllerNext, found]
        rw [next]
        exact ⟨written, owed, ⟨handle, Or.inr (Or.inl ⟨rfl, exited⟩)⟩, silent⟩
    | false =>
        have next : RemoteNode.controllerStep profiled pids alive
            ⟨files, monitor, child, shim, .polling handle⟩ =
              (⟨files, monitor, child, shim, .probingChild handle⟩, []) := by
          simp [RemoteNode.controllerStep, controllerNext, found]
        rw [next]
        exact ⟨written, owed, ⟨handle, Or.inr (Or.inr (Or.inl rfl))⟩, silent⟩
  · subst reading
    rcases written exited with ⟨code, collected, stored⟩
    have next : RemoteNode.controllerStep profiled pids alive
        ⟨files, monitor, child, shim, .readingStatus handle⟩ =
          (⟨files, monitor, child, shim, .polling handle⟩, [.waited code]) := by
      have text : content files.status = decimal code := congrArg content stored
      show (State.mk files monitor child shim (conclude handle _).1, (conclude handle _).2) = _
      rw [text, conclude_status]
    rw [next]
    refine ⟨written, owed, ⟨handle, Or.inl rfl⟩, ?_⟩
    intro event mem
    rcases List.mem_append.mp mem with earlier | now
    · exact answered event earlier
    · exact ⟨code, List.mem_singleton.mp now, collected⟩
  · subst probing
    cases alive with
    | true => exact ⟨written, owed, ⟨handle, Or.inl rfl⟩, silent⟩
    | false => exact ⟨written, owed, ⟨handle, Or.inr (Or.inr (Or.inr rfl))⟩, silent⟩
  · subst probing
    cases alive with
    | true => exact ⟨written, owed, ⟨handle, Or.inl rfl⟩, silent⟩
    | false =>
        -- A monitor that is gone has exited, and it had not at the status test.
        have exited : monitor = .exited := truthful.resolve_left nofun
        exact absurd ⟨⟨handle, rfl⟩, exited, rfl⟩ punctual

end Polls

/-! ## Every run -/

theorem polls_step {history : List Event} {state : State} (action : Action)
    (allowed : Truthful state action ∧ ¬ Overtaken state action) (polls : Polls history state) :
    Polls (history ++ ((machine profiled pids).step state action).2)
      ((machine profiled pids).step state action).1 := by
  cases action with
  | monitor =>
      show Polls (history ++ []) _
      rw [List.append_nil]
      exact polls.monitorStep
  | exit code =>
      show Polls (history ++ []) _
      rw [List.append_nil]
      exact polls.exitStep code
  | shim =>
      show Polls (history ++ []) _
      rw [List.append_nil]
      exact polls.shimStep
  | controller alive => exact polls.controllerStep alive allowed.1 allowed.2

private theorem overtaken_raises {state : State} {action : Action}
    (overtaken : Overtaken state action) :
    ∃ event ∈ ((machine profiled pids).step state action).2, event = .raised := by
  rcases state with ⟨files, monitor, child, shim, controller⟩
  rcases overtaken with ⟨⟨handle, probing⟩, exited, missed⟩
  cases probing
  subst missed
  have ends : conclude handle "exited\n".toList = (.polling handle, [.raised]) := rfl
  refine ⟨.raised, ?_, rfl⟩
  show Event.raised ∈ (conclude handle "exited\n".toList).2
  rw [ends]
  exact List.mem_cons_self

/-- `wait_process` polls on or returns the exit status, unless a poll is
overtaken. -/
theorem polls_return_status_iff {start : State} (clean : Clean profiled pids start)
    (schedule : List Action) (truthful : (machine profiled pids).Always Truthful start schedule) :
    (∀ event ∈ ((machine profiled pids).run start schedule).2,
        event.IsExitStatus ((machine profiled pids).run start schedule).1) ↔
      (machine profiled pids).Always (fun state action => ¬ Overtaken state action)
        start schedule := by
  constructor
  · intro right
    have quiet : ∀ event ∈ ((machine profiled pids).run start schedule).2, ¬ event = .raised := by
      intro event mem raised
      rcases right event mem with ⟨code, waited, _⟩
      rw [raised] at waited
      cases waited
    apply Machine.always_of_unseen (machine profiled pids) _ quiet
    intro state action overtaken
    exact overtaken_raises (not_not.mp overtaken)
  · intro punctual
    have polls := Machine.run_always (machine profiled pids)
      (fun history state action allowed polls => polls_step action allowed polls)
      clean.polls_nil (truthful.and punctual)
    exact polls.answered

/-- The handle was just returned, and the command still runs. -/
def handedOver : State where
  files := { pid := some (decimal 2) }
  monitor := .waiting
  child := .running
  controller := .polling ((Pids.above 0).handle false)

theorem handedOver_clean : Clean false (Pids.above 0) handedOver :=
  ⟨rfl, rfl, nofun⟩

/-- The command exits before the poll, and the monitor writes in time. -/
def prompt : List Action :=
  [.exit 3, .monitor, .monitor, .monitor, .controller true, .controller true]

theorem prompt_returns :
    ((machine false (Pids.above 0)).run handedOver prompt).2 = [.waited 3] ∧
      ∀ event ∈ ((machine false (Pids.above 0)).run handedOver prompt).2,
        event.IsExitStatus ((machine false (Pids.above 0)).run handedOver prompt).1 := by
  constructor
  · rfl
  · apply (polls_return_status_iff handedOver_clean prompt ?_).mpr
    · simp [Machine.Always, prompt, Overtaken]
    · exact And.intro trivial (And.intro trivial (And.intro trivial (And.intro trivial
        (And.intro trivial (And.intro trivial trivial)))))

/-- The status is written after the test of its file, and the monitor is gone
before the test of the monitor. -/
def overtaking : List Action :=
  [.controller true, .exit 3, .monitor, .monitor, .monitor, .controller false, .controller false]

theorem overtaken_poll_raises :
    Clean false (Pids.above 0) handedOver ∧
      (machine false (Pids.above 0)).Always Truthful handedOver overtaking ∧
      ((machine false (Pids.above 0)).run handedOver overtaking).1.files.status =
        some (decimal 3) ∧
      Event.raised ∈ ((machine false (Pids.above 0)).run handedOver overtaking).2 := by
  refine ⟨handedOver_clean, ?_, rfl, ?_⟩
  · exact And.intro trivial (And.intro trivial (And.intro trivial (And.intro trivial
      (And.intro trivial (And.intro (Or.inr ⟨3, rfl⟩) (And.intro (Or.inr rfl) trivial))))))
  · exact List.mem_cons_self

end NetLatencyLab.RemoteNode
