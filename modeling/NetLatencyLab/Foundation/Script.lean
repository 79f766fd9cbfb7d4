import Mathlib.Data.List.Basic

/-! # Scripts

A script has a state and may raise; what it did before it raised stays done.
Three things are said of scripts here: that they leave a view of the state
alone, what they append to a list in it, and what holds of the state before and
after them, in whatever way they end. -/

namespace NetLatencyLab

universe u v

abbrev Script (State Error : Type u) := ExceptT Error (StateM State)

namespace Script

variable {State Error α β : Type u} {γ Mark : Type v}

def outcome (script : Script State Error α) (state : State) : Except Error α × State :=
  StateT.run (ExceptT.run script) state

theorem ext {first second : Script State Error α}
    (same : ∀ state, outcome first state = outcome second state) : first = second := by
  funext state
  exact same state

theorem outcome_modify (change : State → State) (state : State) :
    outcome (modify change : Script State Error PUnit) state = (.ok ⟨⟩, change state) := rfl

theorem outcome_get (state : State) :
    outcome (get : Script State Error State) state = (.ok state, state) := rfl

theorem outcome_bind (first : Script State Error α) (next : α → Script State Error β)
    (state : State) :
    outcome (first >>= next) state =
      match outcome first state with
      | (.ok value, middle) => outcome (next value) middle
      | (.error error, middle) => (.error error, middle) := by
  unfold outcome
  rw [ExceptT.run_bind, StateT.run_bind]
  show (match StateT.run (ExceptT.run first) state with | (result, middle) => _) = _
  rcases StateT.run (ExceptT.run first) state with ⟨_ | _, middle⟩
  · rfl
  · rfl

theorem outcome_tryCatch (body : Script State Error α) (handler : Error → Script State Error α)
    (state : State) :
    outcome (tryCatch body handler) state =
      match outcome body state with
      | (.ok value, middle) => (.ok value, middle)
      | (.error error, middle) => outcome (handler error) middle := by
  unfold outcome
  rw [ExceptT.run_tryCatch, StateT.run_bind]
  show (match StateT.run (ExceptT.run body) state with | (result, middle) => _) = _
  rcases StateT.run (ExceptT.run body) state with ⟨_ | _, middle⟩
  · rfl
  · rfl

theorem outcome_tryFinally (body : Script State Error α) (cleanup : Script State Error β)
    (state : State) :
    outcome (tryFinally body cleanup) state =
      match outcome cleanup (outcome body state).2 with
      | (.ok _, final) => ((outcome body state).1, final)
      | (.error error, final) => (.error error, final) := by
  rcases first : outcome body state with ⟨result, middle⟩
  rcases second : outcome cleanup middle with ⟨cleaned, final⟩
  have bodyRun : body state = (result, middle) := first
  have cleanupRun : cleanup middle = (cleaned, final) := second
  cases result <;> cases cleaned <;>
    simp only [outcome, tryFinally, tryFinally', ExceptT.mk, ExceptT.map, ExceptT.run, StateT.bind,
      StateT.run, Functor.map, bind, bodyRun, cleanupRun] <;> rfl

/-! ## Views that are left alone -/

def Leaves (view : State → γ) (script : Script State Error α) : Prop :=
  ∀ state, view (outcome script state).2 = view state

namespace Leaves

variable {view : State → γ}

theorem of_pure (value : α) : Leaves view (pure value : Script State Error α) := fun _ => rfl

theorem bind {first : Script State Error α} {next : α → Script State Error β}
    (before : Leaves view first) (after : ∀ value, Leaves view (next value)) :
    Leaves view (first >>= next) := by
  intro state
  have reached := before state
  rw [outcome_bind]
  generalize outcome first state = run at reached ⊢
  rcases run with ⟨_ | value, middle⟩
  · exact reached
  · exact (after value middle).trans reached

theorem bind_cases {first : Script State Error α} (leaves : Leaves view first)
    (next : α → Script State Error β) (state : State) :
    (∃ error final, outcome (first >>= next) state = (.error error, final) ∧
        view final = view state) ∨
      ∃ value middle, outcome (first >>= next) state = outcome (next value) middle ∧
        view middle = view state := by
  have reached := leaves state
  rw [outcome_bind]
  generalize outcome first state = run at reached ⊢
  rcases run with ⟨error | value, middle⟩
  · exact Or.inl ⟨error, middle, rfl, reached⟩
  · exact Or.inr ⟨value, middle, rfl, reached⟩

end Leaves

/-! ## Lists that grow -/

/-- What the script appends to the list, together with how it ends. -/
def Adds (view : State → List Mark) (script : Script State Error α)
    (Post : Except Error α → List Mark → Prop) : Prop :=
  ∀ state, ∃ marks, view (outcome script state).2 = view state ++ marks ∧
    Post (outcome script state).1 marks

namespace Adds

variable {view : State → List Mark}

theorem of_leaves {script : Script State Error α} (leaves : Leaves view script)
    {Post : Except Error α → List Mark → Prop} (post : ∀ result, Post result []) :
    Adds view script Post :=
  fun state => ⟨[], by rw [List.append_nil, leaves state], post _⟩

theorem of_pure {value : α} {Post : Except Error α → List Mark → Prop}
    (post : Post (.ok value) []) : Adds view (pure value : Script State Error α) Post :=
  fun _ => ⟨[], (List.append_nil _).symm, post⟩

theorem of_throw {error : Error} {Post : Except Error α → List Mark → Prop}
    (post : Post (.error error) []) : Adds view (throw error : Script State Error α) Post :=
  fun _ => ⟨[], (List.append_nil _).symm, post⟩

theorem mono {script : Script State Error α} {Post Weaker : Except Error α → List Mark → Prop}
    (adds : Adds view script Post) (weaker : ∀ result marks, Post result marks →
      Weaker result marks) : Adds view script Weaker := by
  intro state
  rcases adds state with ⟨marks, appended, post⟩
  exact ⟨marks, appended, weaker _ _ post⟩

theorem bind {first : Script State Error α} {next : α → Script State Error β}
    {Middle : Except Error α → List Mark → Prop} {Post : Except Error β → List Mark → Prop}
    (before : Adds view first Middle)
    (after : ∀ value marks, Middle (.ok value) marks →
      Adds view (next value) fun result more => Post result (marks ++ more))
    (raised : ∀ error marks, Middle (.error error) marks → Post (.error error) marks) :
    Adds view (first >>= next) Post := by
  intro state
  rcases before state with ⟨marks, appended, reached⟩
  rw [outcome_bind]
  generalize outcome first state = run at appended reached ⊢
  rcases run with ⟨error | value, middle⟩
  · exact ⟨marks, appended, raised error marks reached⟩
  · rcases after value marks reached middle with ⟨more, grown, post⟩
    refine ⟨marks ++ more, ?_, post⟩
    rw [grown, appended, List.append_assoc]

theorem bind_of_returns {first : Script State Error α} {next : α → Script State Error β}
    {Middle : α → List Mark → Prop} {Post : Except Error β → List Mark → Prop}
    (before : Adds view first fun result marks => ∃ value, result = .ok value ∧ Middle value marks)
    (after : ∀ value marks, Middle value marks →
      Adds view (next value) fun result more => Post result (marks ++ more)) :
    Adds view (first >>= next) Post := by
  apply bind before
  · intro value marks reached
    rcases reached with ⟨_, returned, middle⟩
    cases returned
    exact after value marks middle
  · intro error marks reached
    rcases reached with ⟨_, returned, _⟩
    cases returned

theorem of_tryCatch {body : Script State Error α} {handler : Error → Script State Error α}
    {Middle Post : Except Error α → List Mark → Prop} (before : Adds view body Middle)
    (returned : ∀ value marks, Middle (.ok value) marks → Post (.ok value) marks)
    (after : ∀ error marks, Middle (.error error) marks →
      Adds view (handler error) fun result more => Post result (marks ++ more)) :
    Adds view (tryCatch body handler) Post := by
  intro state
  rcases before state with ⟨marks, appended, reached⟩
  rw [outcome_tryCatch]
  generalize outcome body state = run at appended reached ⊢
  rcases run with ⟨error | value, middle⟩
  · rcases after error marks reached middle with ⟨more, grown, post⟩
    refine ⟨marks ++ more, ?_, post⟩
    rw [grown, appended, List.append_assoc]
  · exact ⟨marks, appended, returned value marks reached⟩

theorem of_tryFinally {body : Script State Error α} {cleanup : Script State Error β}
    {Middle Post : Except Error α → List Mark → Prop} (before : Adds view body Middle)
    (leaves : Leaves view cleanup)
    (kept : ∀ result marks, Middle result marks → Post result marks)
    (raised : ∀ result marks error, Middle result marks → Post (.error error) marks) :
    Adds view (tryFinally body cleanup) Post := by
  intro state
  rcases before state with ⟨marks, appended, reached⟩
  have left := leaves (outcome body state).2
  rw [outcome_tryFinally]
  generalize outcome cleanup (outcome body state).2 = run at left ⊢
  rcases run with ⟨error | value, final⟩
  · exact ⟨marks, left.trans appended, raised _ _ error reached⟩
  · exact ⟨marks, left.trans appended, kept _ _ reached⟩

end Adds

/-! ## Pre- and postconditions -/

def Meets (Pre : State → Prop) (script : Script State Error α)
    (Post : Except Error α → State → Prop) : Prop :=
  ∀ state, Pre state → Post (outcome script state).1 (outcome script state).2

namespace Meets

variable {Pre : State → Prop}

theorem bind {first : Script State Error α} {next : α → Script State Error β}
    {Middle : Except Error α → State → Prop} {Post : Except Error β → State → Prop}
    (before : Meets Pre first Middle)
    (after : ∀ value, Meets (Middle (.ok value)) (next value) Post)
    (raised : ∀ error state, Middle (.error error) state → Post (.error error) state) :
    Meets Pre (first >>= next) Post := by
  intro state holds
  have reached := before state holds
  rw [outcome_bind]
  generalize outcome first state = run at reached ⊢
  rcases run with ⟨error | value, middle⟩
  · exact raised error middle reached
  · exact after value middle reached

theorem of_tryCatch {body : Script State Error α} {handler : Error → Script State Error α}
    {Middle Post : Except Error α → State → Prop} (before : Meets Pre body Middle)
    (returned : ∀ value state, Middle (.ok value) state → Post (.ok value) state)
    (after : ∀ error, Meets (Middle (.error error)) (handler error) Post) :
    Meets Pre (tryCatch body handler) Post := by
  intro state holds
  have reached := before state holds
  rw [outcome_tryCatch]
  generalize outcome body state = run at reached ⊢
  rcases run with ⟨error | value, middle⟩
  · exact after error middle reached
  · exact returned value middle reached

end Meets

abbrev Keeps (Invariant : State → Prop) (script : Script State Error α) : Prop :=
  Meets Invariant script fun _ => Invariant

namespace Keeps

variable {Invariant : State → Prop}

theorem of_pure (value : α) : Keeps Invariant (pure value : Script State Error α) :=
  fun _ holds => holds

theorem of_throw (error : Error) : Keeps Invariant (throw error : Script State Error α) :=
  fun _ holds => holds

theorem bind {first : Script State Error α} {next : α → Script State Error β}
    (before : Keeps Invariant first) (after : ∀ value, Keeps Invariant (next value)) :
    Keeps Invariant (first >>= next) :=
  Meets.bind before after fun _ _ holds => holds

theorem of_tryCatch {body : Script State Error α} {handler : Error → Script State Error α}
    (before : Keeps Invariant body) (after : ∀ error, Keeps Invariant (handler error)) :
    Keeps Invariant (tryCatch body handler) :=
  Meets.of_tryCatch before (fun _ _ holds => holds) after

end Keeps

end Script

end NetLatencyLab
