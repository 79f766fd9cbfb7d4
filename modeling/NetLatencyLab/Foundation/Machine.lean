import Mathlib.Data.List.Basic

/-! # Machines driven by a schedule

A concurrent program is modelled here as one deterministic machine. The list
of actions it consumes fixes everything the program does not decide itself:
which thread moves next and every answer of the environment. A statement about
all action lists is therefore a statement about all interleavings. -/

namespace NetLatencyLab

structure Machine (State Action Event : Type*) where
  step : State → Action → State × List Event

namespace Machine

variable {State Action Event : Type*}

/-- Final state and complete event history of a schedule. -/
def run (machine : Machine State Action Event) : State → List Action → State × List Event
  | state, [] => (state, [])
  | state, action :: actions =>
      let first := machine.step state action
      let rest := machine.run first.1 actions
      (rest.1, first.2 ++ rest.2)

variable (machine : Machine State Action Event)

@[simp] theorem run_nil (state : State) : machine.run state [] = (state, []) := rfl

@[simp] theorem run_cons (state : State) (action : Action) (actions : List Action) :
    machine.run state (action :: actions) =
      ((machine.run (machine.step state action).1 actions).1,
        (machine.step state action).2 ++
          (machine.run (machine.step state action).1 actions).2) := rfl

theorem run_append (state : State) (first second : List Action) :
    machine.run state (first ++ second) =
      ((machine.run (machine.run state first).1 second).1,
        (machine.run state first).2 ++
          (machine.run (machine.run state first).1 second).2) := by
  induction first generalizing state with
  | nil => simp
  | cons action actions induction => simp [induction]

theorem run_concat (state : State) (actions : List Action) (action : Action) :
    machine.run state (actions ++ [action]) =
      ((machine.step (machine.run state actions).1 action).1,
        (machine.run state actions).2 ++
          (machine.step (machine.run state actions).1 action).2) := by
  rw [run_append, run_cons, run_nil, List.append_nil]

theorem run_trans {start middle final : State} {first second : List Action}
    {before after : List Event} (reaches : machine.run start first = (middle, before))
    (continues : machine.run middle second = (final, after)) :
    machine.run start (first ++ second) = (final, before ++ after) := by
  rw [run_append, reaches, continues]

/-- A predicate on histories and states that every step preserves holds along
every run. The history is the part of the run already seen. -/
theorem run_preserves (Invariant : List Event → State → Prop)
    (preserved : ∀ history state action, Invariant history state →
      Invariant (history ++ (machine.step state action).2) (machine.step state action).1)
    (actions : List Action) : ∀ (history : List Event) (state : State),
      Invariant history state →
        Invariant (history ++ (machine.run state actions).2) (machine.run state actions).1 := by
  induction actions with
  | nil =>
      intro history state holds
      simpa using holds
  | cons action actions induction =>
      intro history state holds
      have next := preserved history state action holds
      simpa using induction _ _ next

/-- The invariant rule from an initial state with an empty history. -/
theorem run_invariant (Invariant : List Event → State → Prop) {initial : State}
    (start : Invariant [] initial)
    (preserved : ∀ history state action, Invariant history state →
      Invariant (history ++ (machine.step state action).2) (machine.step state action).1)
    (actions : List Action) :
    Invariant (machine.run initial actions).2 (machine.run initial actions).1 := by
  simpa using machine.run_preserves Invariant preserved actions [] initial start

/-- Every run can be continued to the goal when, short of it, some action
lowers a rank. -/
theorem exists_completion {initial : State} (Goal : State → Prop)
    (rank : List Event → State → Nat)
    (progress : ∀ actions, let outcome := machine.run initial actions
      ¬ Goal outcome.1 → ∃ action,
        rank (outcome.2 ++ (machine.step outcome.1 action).2) (machine.step outcome.1 action).1 <
          rank outcome.2 outcome.1)
    (actions : List Action) : ∃ more, Goal (machine.run initial (actions ++ more)).1 := by
  induction ranked : rank (machine.run initial actions).2 (machine.run initial actions).1
    using Nat.strongRecOn generalizing actions with
  | ind current induction =>
      by_cases reached : Goal (machine.run initial actions).1
      · exact ⟨[], by rw [List.append_nil]; exact reached⟩
      · rcases progress actions reached with ⟨action, lower⟩
        have next : rank (machine.run initial (actions ++ [action])).2
            (machine.run initial (actions ++ [action])).1 < current := by
          rw [run_concat, ← ranked]
          exact lower
        rcases induction _ next (actions ++ [action]) rfl with ⟨more, goal⟩
        rw [List.append_assoc] at goal
        exact ⟨action :: more, goal⟩

/-- A run that is long enough ends when every step short of the goal lowers a
rank. -/
theorem run_finishes {initial : State} (Goal : State → Prop) (rank : State → Nat)
    (progress : ∀ actions action, ¬ Goal (machine.run initial actions).1 →
      rank (machine.step (machine.run initial actions).1 action).1 <
        rank (machine.run initial actions).1)
    (stays : ∀ state action, Goal state → Goal (machine.step state action).1)
    (actions : List Action) (long : rank initial < actions.length) :
    Goal (machine.run initial actions).1 := by
  have general : ∀ actions before,
      Goal (machine.run initial before).1 ∨
        rank (machine.run initial before).1 < actions.length →
      Goal (machine.run initial (before ++ actions)).1 := by
    intro actions
    induction actions with
    | nil =>
        intro before reached
        rw [List.append_nil]
        exact reached.resolve_right (Nat.not_lt_zero _)
    | cons action actions induction =>
        intro before reached
        rw [List.append_cons]
        apply induction
        rw [run_concat]
        by_cases already : Goal (machine.run initial before).1
        · exact .inl (stays _ action already)
        · have near := reached.resolve_left already
          rw [List.length_cons] at near
          have lower := progress before action already
          exact .inr (Nat.lt_of_lt_of_le lower (Nat.le_of_lt_succ near))
  exact general actions [] (.inr long)

/-! ### Charged steps -/

def charged (charge : State → Action → Nat) : State → List Action → Nat
  | _, [] => 0
  | state, action :: actions =>
      charge state action + charged charge (machine.step state action).1 actions

theorem charged_eq_zero_iff (charge : State → Action → Nat) (state : State)
    (actions : List Action) :
    machine.charged charge state actions = 0 ↔
      ∀ before action after, actions = before ++ action :: after →
        charge (machine.run state before).1 action = 0 := by
  induction actions generalizing state with
  | nil => simp [charged]
  | cons first actions induction =>
      rw [charged, Nat.add_eq_zero_iff, induction]
      constructor
      · rintro ⟨free, rest⟩ before action after split
        cases before with
        | nil =>
            rw [List.nil_append, List.cons.injEq] at split
            rw [← split.1]
            exact free
        | cons head before =>
            rw [List.cons_append, List.cons.injEq] at split
            rw [← split.1]
            exact rest before action after split.2
      · intro all
        refine ⟨all [] first actions rfl, ?_⟩
        intro before action after split
        exact all (first :: before) action after (by rw [split, List.cons_append])

/-- The invariant rule for a state and the charge that led to it. -/
theorem run_charged (charge : State → Action → Nat) (Invariant : Nat → State → Prop)
    (preserved : ∀ total state action, Invariant total state →
      Invariant (total + charge state action) (machine.step state action).1)
    {initial : State} (start : Invariant 0 initial) (actions : List Action) :
    Invariant (machine.charged charge initial actions) (machine.run initial actions).1 := by
  have general : ∀ total state, Invariant total state →
      Invariant (total + machine.charged charge state actions) (machine.run state actions).1 := by
    induction actions with
    | nil => exact fun total state holds => holds
    | cons action actions induction =>
        intro total state holds
        rw [charged, ← Nat.add_assoc]
        exact induction _ _ (preserved total state action holds)
  simpa using general 0 initial start

/-! ### Conditions on steps -/

/-- Every step of the run is taken under the condition. -/
def Always (condition : State → Action → Prop) : State → List Action → Prop
  | _, [] => True
  | state, action :: actions =>
      condition state action ∧ Always condition (machine.step state action).1 actions

/-- The invariant rule for runs whose steps meet a condition. -/
theorem run_always {condition : State → Action → Prop} {Invariant : List Event → State → Prop}
    (preserved : ∀ history state action, condition state action → Invariant history state →
      Invariant (history ++ (machine.step state action).2) (machine.step state action).1)
    {initial : State} (start : Invariant [] initial) {actions : List Action}
    (always : machine.Always condition initial actions) :
    Invariant (machine.run initial actions).2 (machine.run initial actions).1 := by
  have general : ∀ actions history state, Invariant history state →
      machine.Always condition state actions →
      Invariant (history ++ (machine.run state actions).2) (machine.run state actions).1 := by
    intro actions
    induction actions with
    | nil =>
        intro history state holds _
        simpa using holds
    | cons action actions induction =>
        intro history state holds meets
        have next := preserved history state action meets.1 holds
        simpa using induction _ _ next meets.2
  simpa using general actions [] initial start always

variable {machine} in
theorem Always.and {first second : State → Action → Prop} {state : State} {actions : List Action}
    (left : machine.Always first state actions) (right : machine.Always second state actions) :
    machine.Always (fun state action => first state action ∧ second state action) state actions := by
  induction actions generalizing state with
  | nil => trivial
  | cons action actions induction =>
      exact ⟨⟨left.1, right.1⟩, induction left.2 right.2⟩

variable {machine} in
theorem always_of_forall {condition : Action → Prop} {state : State} {actions : List Action}
    (meets : ∀ action ∈ actions, condition action) :
    machine.Always (fun _ action => condition action) state actions := by
  induction actions generalizing state with
  | nil => trivial
  | cons action actions induction =>
      rcases List.forall_mem_cons.mp meets with ⟨first, rest⟩
      exact ⟨first, induction rest⟩

/-- If each step outside the condition is seen, a run without such events meets
the condition. -/
theorem always_of_unseen {condition : State → Action → Prop} {Seen : Event → Prop}
    (shows : ∀ state action, ¬ condition state action →
      ∃ event ∈ (machine.step state action).2, Seen event)
    {state : State} {actions : List Action}
    (unseen : ∀ event ∈ (machine.run state actions).2, ¬ Seen event) :
    machine.Always condition state actions := by
  induction actions generalizing state with
  | nil => trivial
  | cons action actions induction =>
      constructor
      · by_contra outside
        rcases shows state action outside with ⟨event, mem, seen⟩
        exact unseen event (List.mem_append_left _ mem) seen
      · exact induction fun event mem => unseen event (List.mem_append_right _ mem)

end Machine

/-! ## Traces of a labelled relation -/

inductive Trace {State Event : Type*} (Step : State → Event → State → Prop) :
    State → List Event → State → Prop
  | nil (state : State) : Trace Step state [] state
  | cons {current middle final : State} {event : Event} {events : List Event} :
      Step current event middle → Trace Step middle events final →
      Trace Step current (event :: events) final

namespace Trace

variable {State Event : Type*} {Step : State → Event → State → Prop}

theorem single {current next : State} {event : Event} (step : Step current event next) :
    Trace Step current [event] next :=
  .cons step (.nil next)

theorem append {initial middle final : State} {first second : List Event}
    (before : Trace Step initial first middle) (after : Trace Step middle second final) :
    Trace Step initial (first ++ second) final := by
  induction before with
  | nil => exact after
  | cons step _ induction => exact .cons step (induction after)

end Trace

/-! ## Simulation and projection -/

/-- Every step of the machine is a trace of the specification, up to the events
that `visible` keeps. -/
structure Simulation {State Action Event : Type*} (machine : Machine State Action Event)
    {Spec SpecEvent : Type*} (SpecStep : Spec → SpecEvent → Spec → Prop)
    (visible : Event → Option SpecEvent) where
  Relates : State → Spec → Prop
  step : ∀ {state spec}, Relates state spec → ∀ action, ∃ next,
    Trace SpecStep spec ((machine.step state action).2.filterMap visible) next ∧
      Relates (machine.step state action).1 next

theorem Simulation.run {State Action Event : Type*} {machine : Machine State Action Event}
    {Spec SpecEvent : Type*} {SpecStep : Spec → SpecEvent → Spec → Prop}
    {visible : Event → Option SpecEvent} (simulation : Simulation machine SpecStep visible)
    (actions : List Action) : ∀ {state spec}, simulation.Relates state spec → ∃ final,
      Trace SpecStep spec ((machine.run state actions).2.filterMap visible) final ∧
        simulation.Relates (machine.run state actions).1 final := by
  induction actions with
  | nil =>
      intro state spec related
      exact ⟨spec, by simpa using Trace.nil spec, related⟩
  | cons action actions induction =>
      intro state spec related
      rcases simulation.step related action with ⟨middle, first, middleRelated⟩
      rcases induction middleRelated with ⟨final, rest, finalRelated⟩
      exact ⟨final, by simpa using first.append rest, finalRelated⟩

/-- A component of a machine: every step of the whole drives the component
through the actions it names and shows exactly the component's events. -/
structure Projection {State Action Event : Type*} (whole : Machine State Action Event)
    {Part PartAction : Type*} (part : Machine Part PartAction Event) where
  state : State → Part
  actions : State → Action → List PartAction
  step : ∀ current action,
    part.run (state current) (actions current action) =
      (state (whole.step current action).1, (whole.step current action).2)

/-- Whatever a component does inside the whole, it can do on its own. -/
theorem Projection.run_append {State Action Event : Type*} {whole : Machine State Action Event}
    {Part PartAction : Type*} {part : Machine Part PartAction Event}
    (projection : Projection whole part) {initial : Part} {actions : List PartAction}
    {history : List Event} {current : State}
    (reached : part.run initial actions = (projection.state current, history))
    (action : Action) :
    part.run initial (actions ++ projection.actions current action) =
      (projection.state (whole.step current action).1,
        history ++ (whole.step current action).2) := by
  rw [Machine.run_append, reached, projection.step]

/-- The invariant rule of a machine that may rely on what a component
guarantees in all of its own runs. -/
theorem Projection.run_invariant {State Action Event : Type*}
    {whole : Machine State Action Event} {Part PartAction : Type*}
    {part : Machine Part PartAction Event} (projection : Projection whole part)
    (Guarantee : List Event → Part → Prop) {Invariant : List Event → State → Prop}
    {initial : State}
    (guaranteed : ∀ actions, Guarantee (part.run (projection.state initial) actions).2
      (part.run (projection.state initial) actions).1)
    (start : Invariant [] initial)
    (preserved : ∀ history state action, Guarantee history (projection.state state) →
      Invariant history state →
      Invariant (history ++ (whole.step state action).2) (whole.step state action).1)
    (schedule : List Action) :
    Guarantee (whole.run initial schedule).2 (projection.state (whole.run initial schedule).1) ∧
      Invariant (whole.run initial schedule).2 (whole.run initial schedule).1 := by
  have reachable := whole.run_invariant
    (fun history state =>
      (∃ actions, part.run (projection.state initial) actions =
        (projection.state state, history)) ∧ Invariant history state)
    ⟨⟨[], rfl⟩, start⟩ ?_ schedule
  · rcases reachable with ⟨⟨actions, reached⟩, invariant⟩
    have guarantee := guaranteed actions
    rw [reached] at guarantee
    exact ⟨guarantee, invariant⟩
  · rintro history state action ⟨⟨actions, reached⟩, invariant⟩
    have guarantee := guaranteed actions
    rw [reached] at guarantee
    exact ⟨⟨_, projection.run_append reached action⟩,
      preserved history state action guarantee invariant⟩

end NetLatencyLab
