import NetLatencyLab.Harness.Execution

/-! # Plain calls

Most of what `execute_run` does only asks its nodes: it starts nothing, removes
nothing and leaves the variables of the run alone. -/

namespace NetLatencyLab.Harness

open NetLatencyLab.Script (Adds Keeps)

def Entry.plain : Entry → Bool
  | .called (.startProcess _) _ => false
  | .called (.removeFiles _) _ => false
  | .called _ _ => true
  | _ => false

def Request.plain (request : Request) : Bool := Entry.plain (.called request (.ok 0))

def Continues (world final : World) : Prop :=
  ∃ calls : List Entry, final = { world with history := world.history ++ calls } ∧
    ∀ entry ∈ calls, entry.plain

theorem Continues.refl (world : World) : Continues world world :=
  ⟨[], by rw [List.append_nil], nofun⟩

def Plain {α : Type} (script : Script α) : Prop := ∀ start, Keeps (Continues start) script

theorem Plain.continues {α : Type} {script : Script α} (plain : Plain script) (world : World) :
    Continues world (Script.outcome script world).2 :=
  plain world world (.refl world)

theorem Plain.adds {α : Type} {script : Script α} (plain : Plain script) :
    Adds World.history script fun _ _ => True := by
  intro world
  rcases plain.continues world with ⟨calls, grown, _⟩
  exact ⟨calls, congrArg World.history grown, trivial⟩

theorem Plain.of_pure {α : Type} (value : α) : Plain (pure value : Script α) :=
  fun _ => Keeps.of_pure value

theorem Plain.of_throw {α : Type} (failure : Failure) : Plain (throw failure : Script α) :=
  fun _ => Keeps.of_throw failure

theorem Plain.bind {α β : Type} {first : Script α} {next : α → Script β} (before : Plain first)
    (after : ∀ value, Plain (next value)) : Plain (first >>= next) :=
  fun start => Keeps.bind (before start) fun value => after value start

theorem Plain.of_tryCatch {α : Type} {body : Script α} {handler : Failure → Script α}
    (before : Plain body) (after : ∀ failure, Plain (handler failure)) :
    Plain (tryCatch body handler) :=
  fun start => Keeps.of_tryCatch (before start) fun failure => after failure start

variable {environment : Environment}

theorem plain_ask {request : Request} (plain : request.plain) :
    Plain (ask environment request) := by
  intro start world reached
  rcases reached with ⟨calls, grown, plainCalls⟩
  subst grown
  rw [outcome_ask]
  refine ⟨calls ++ [.called request (environment (start.history ++ calls) request)], ?_, ?_⟩
  · dsimp only
    rw [List.append_assoc]
  intro entry mem
  rcases List.mem_append.mp mem with earlier | last
  · exact plainCalls entry earlier
  · cases List.mem_singleton.mp last
    cases request with
    | startProcess role => cases plain
    | removeFiles role => cases plain
    | _ => rfl

theorem plain_call {request : Request} (plain : request.plain) :
    Plain (call environment request) :=
  Plain.bind (plain_ask plain) fun _ => Plain.of_pure _

theorem plain_holds {request : Request} (plain : request.plain) :
    Plain (holds environment request) :=
  Plain.bind (plain_ask plain) fun _ => Plain.of_pure _

theorem plain_require (condition : Bool) : Plain (require condition) := by
  cases condition with
  | true => exact Plain.of_pure _
  | false => exact Plain.of_throw _

theorem plain_when (condition : Bool) {script : Script Unit} (plain : Plain script) :
    Plain (when condition script) := by
  cases condition with
  | true => exact plain
  | false => exact Plain.of_pure _

theorem plain_swallow {script : Script Unit} (plain : Plain script) : Plain (swallow script) :=
  Plain.of_tryCatch plain fun _ => Plain.of_pure _

theorem plain_probe (role : Role) : Plain (probe environment role) :=
  plain_swallow (plain_call rfl)

theorem plain_observe : Plain (observe environment) := by
  apply Plain.bind (plain_probe .receiver)
  intro _
  apply Plain.bind (plain_probe .sender)
  intro _
  apply Plain.bind (plain_probe .receiver)
  intro _
  exact plain_probe .sender

/-! ## Shutting a process down -/

theorem plain_waitStatus (role : Role) : Plain (waitStatus environment role) := by
  apply Plain.of_tryCatch
  · rw [map_eq_pure_bind]
    exact Plain.bind (plain_ask rfl) fun _ => Plain.of_pure _
  · intro failure
    cases failure with
    | timeoutExpired => exact Plain.of_pure _
    | connection => exact Plain.of_throw _
    | other => exact Plain.of_throw _

theorem plain_stage (role : Role) (tracked : Bool) {later : Script (Option Int)}
    (plain : Plain later) :
    Plain (do
      let status ← waitStatus environment role
      if tracked then do
        let workloadExited ← holds environment (.waitPidExit role)
        match status, workloadExited with
        | some code, true => pure (some code)
        | _, _ => later
      else
        match status with
        | some code => pure (some code)
        | none => later) := by
  apply Plain.bind (plain_waitStatus role)
  intro status
  cases tracked with
  | true =>
      apply Plain.bind (plain_holds rfl)
      intro exited
      cases status with
      | none => exact plain
      | some code =>
          cases exited with
          | true => exact Plain.of_pure _
          | false => exact plain
  | false =>
      cases status with
      | none => exact plain
      | some code => exact Plain.of_pure _

theorem plain_shutdownStages (role : Role) (tracked : Bool) (signals : List Signal) :
    Plain (shutdownStages environment role tracked signals) := by
  induction signals with
  | nil => exact Plain.of_pure _
  | cons signal rest induction =>
      exact Plain.bind (plain_call rfl) fun _ => plain_stage role tracked induction

private theorem plain_wrapperStages (role : Role) (signals : List Signal) :
    Plain (wrapperStages environment role signals) := by
  induction signals with
  | nil => exact Plain.of_throw _
  | cons signal rest induction =>
      apply Plain.bind (plain_call rfl)
      intro _
      apply Plain.bind (plain_waitStatus role)
      intro status
      cases status with
      | none => exact induction
      | some code => exact Plain.of_pure _

theorem plain_unstopped (role : Role) (tracked : Bool) (status : Option Int) :
    Plain (match status with
      | some code => pure code
      | none =>
          if tracked then do
            let survived ← holds environment (.processExists role)
            if survived then throw .timeoutExpired
            else wrapperStages environment role [.terminate, .kill]
          else throw .timeoutExpired) := by
  cases status with
  | some code => exact Plain.of_pure _
  | none =>
      cases tracked with
      | false => exact Plain.of_throw _
      | true =>
          apply Plain.bind (plain_holds rfl)
          intro survived
          cases survived with
          | true => exact Plain.of_throw _
          | false => exact plain_wrapperStages role _

theorem plain_shutdownProcess (role : Role) (tracked : Bool) :
    Plain (shutdownProcess environment role tracked) :=
  Plain.bind (plain_shutdownStages role tracked _) (plain_unstopped role tracked)

/-! ## Collecting the artifacts -/

theorem plain_collect (benchmark : Benchmark) : Plain (collect environment benchmark) := by
  apply Plain.bind (plain_call rfl)
  intro _
  apply Plain.bind (plain_call rfl)
  intro _
  apply Plain.bind (plain_call rfl)
  intro _
  apply Plain.bind
  · apply plain_when
    exact Plain.bind (plain_call rfl) fun _ => plain_call rfl
  intro _
  apply Plain.bind (plain_holds rfl)
  intro passed
  apply Plain.bind
  · apply plain_when
    exact Plain.bind (plain_call rfl) fun _ => plain_call rfl
  intro _
  apply Plain.bind
  · apply plain_when
    apply Plain.bind (plain_call rfl)
    intro _
    apply Plain.bind (plain_call rfl)
    intro _
    exact Plain.bind (plain_call rfl) fun _ => plain_call rfl
  intro _
  exact Plain.of_pure passed

end NetLatencyLab.Harness
