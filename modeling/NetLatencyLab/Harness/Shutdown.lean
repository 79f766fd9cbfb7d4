import NetLatencyLab.Harness.Execution

/-! # What a shutdown does to a process

The process itself is signalled first, with growing force. The wrapper of a
profiled one is left alone until the workload is gone, so that it can still
write what it recorded. -/

namespace NetLatencyLab.Harness

open NetLatencyLab.Script (Adds)

/-! ## With `last_timeout` -/

namespace Shutdown

variable (environment : Environment)

/-- `assert last_timeout is not None`, then `raise last_timeout`. -/
def raiseLast {α : Type} : Option Failure → Script α
  | some failure => throw failure
  | none => throw .other

/-- The status, if there is one, and what `last_timeout` is then. -/
def waitStatus (role : Role) (lastTimeout : Option Failure) :
    Script (Option Int × Option Failure) :=
  tryCatch ((some · , lastTimeout) <$> ask environment (.waitProcess role)) fun failure =>
    match failure with
    | .timeoutExpired => pure (none, some .timeoutExpired)
    | failure => throw failure

/-- The loop over the stages: the status it returns, or `last_timeout` after it. -/
def signalStages (role : Role) (tracked : Bool) :
    Option Failure → List Signal → Script (Int ⊕ Option Failure)
  | lastTimeout, [] => pure (.inr lastTimeout)
  | lastTimeout, signal :: rest => do
      call environment (.signalProcess role signal)
      let waited ← waitStatus environment role lastTimeout
      if tracked then do
        let workloadExited ← holds environment (.waitPidExit role)
        match waited.1, workloadExited with
        | some code, true => pure (.inl code)
        | none, true => signalStages role tracked waited.2 rest
        | _, false => signalStages role tracked (some .timeoutExpired) rest
      else
        match waited.1 with
        | some code => pure (.inl code)
        | none => signalStages role tracked waited.2 rest

def wrapperStages (role : Role) : Option Failure → List Signal → Script Int
  | lastTimeout, [] => raiseLast lastTimeout
  | lastTimeout, signal :: rest => do
      call environment (.signalWrapper role signal)
      let waited ← waitStatus environment role lastTimeout
      match waited.1 with
      | some code => pure code
      | none => wrapperStages role waited.2 rest

def shutdownProcess (role : Role) (tracked : Bool) : Script Int := do
  let stopped ← signalStages environment role tracked none [.interrupt, .terminate, .kill]
  match stopped with
  | .inl code => pure code
  | .inr lastTimeout =>
      if tracked then do
        let survived ← holds environment (.processExists role)
        if survived then raiseLast lastTimeout
        else wrapperStages environment role lastTimeout [.terminate, .kill]
      else raiseLast lastTimeout

variable {environment}

theorem waitStatus_eq (role : Role) (lastTimeout : Option Failure) :
    waitStatus environment role lastTimeout =
      Harness.waitStatus environment role >>= fun status =>
        pure (status, if status.isSome then lastTimeout else some .timeoutExpired) := by
  apply Script.ext
  intro world
  have answered := outcome_ask environment (.waitProcess role) world
  rw [Script.outcome_bind, Harness.waitStatus, waitStatus, Script.outcome_tryCatch,
    Script.outcome_tryCatch, map_eq_pure_bind, map_eq_pure_bind, Script.outcome_bind,
    Script.outcome_bind, answered]
  cases environment world.history (.waitProcess role) with
  | ok code => rfl
  | error failure =>
      cases failure with
      | timeoutExpired => rfl
      | connection => rfl
      | other => rfl

private theorem signalStages_eq (role : Role) (tracked : Bool) (lastTimeout : Option Failure)
    (signals : List Signal) (known : lastTimeout = some .timeoutExpired ∨ signals ≠ []) :
    signalStages environment role tracked lastTimeout signals =
      shutdownStages environment role tracked signals >>= fun status =>
        match status with
        | some code => pure (.inl code)
        | none => pure (.inr (some .timeoutExpired)) := by
  induction signals generalizing lastTimeout with
  | nil =>
      have expired : lastTimeout = some .timeoutExpired := known.resolve_right (absurd rfl)
      rw [expired]
      rfl
  | cons signal rest induction =>
      rw [signalStages, shutdownStages, bind_assoc]
      apply bind_congr
      intro _
      rw [waitStatus_eq, bind_assoc, bind_assoc]
      apply bind_congr
      intro status
      rw [pure_bind]
      have remaining := induction (some .timeoutExpired) (Or.inl rfl)
      cases tracked with
      | true =>
          simp only [if_true, bind_assoc]
          apply bind_congr
          intro exited
          cases exited <;> cases status
          · exact remaining
          · exact remaining
          · exact remaining
          · rfl
      | false =>
          cases status with
          | none => exact remaining
          | some code => rfl

private theorem wrapperStages_eq (role : Role) (signals : List Signal) :
    wrapperStages environment role (some .timeoutExpired) signals =
      Harness.wrapperStages environment role signals := by
  induction signals with
  | nil => rfl
  | cons signal rest induction =>
      rw [wrapperStages, Harness.wrapperStages]
      apply bind_congr
      intro _
      rw [waitStatus_eq, bind_assoc]
      apply bind_congr
      intro status
      cases status with
      | none => exact induction
      | some code => rfl

private theorem shutdownProcess_eq (role : Role) (tracked : Bool) :
    shutdownProcess environment role tracked =
      Harness.shutdownProcess environment role tracked := by
  rw [shutdownProcess, signalStages_eq role tracked none _ (Or.inr (List.cons_ne_nil _ _)),
    bind_assoc, Harness.shutdownProcess]
  apply bind_congr
  intro status
  cases status with
  | some code => rfl
  | none =>
      rw [pure_bind]
      cases tracked with
      | false => rfl
      | true =>
          simp only [if_true, wrapperStages_eq]
          rfl

end Shutdown

/-! ## Traces of a shutdown -/

def Entry.signal? (role : Role) : Entry → Option Signal
  | .called (.signalProcess target signal) _ => if target = role then some signal else none
  | _ => none

def Entry.wrapperSignal? (role : Role) : Entry → Option Signal
  | .called (.signalWrapper target signal) _ => if target = role then some signal else none
  | _ => none

def Entry.status? (role : Role) : Entry → Option Int
  | .called (.waitProcess target) (.ok code) => if target = role then some code else none
  | _ => none

def Entry.SeesDead (role : Role) : Entry → Prop
  | .called (.waitPidExit target) (.ok exited) => target = role ∧ exited ≠ 0
  | .called (.processExists target) (.ok survived) => target = role ∧ survived = 0
  | _ => False

def signals (role : Role) (history : List Entry) : List Signal :=
  history.filterMap (Entry.signal? role)

def wrapperSignals (role : Role) (history : List Entry) : List Signal :=
  history.filterMap (Entry.wrapperSignal? role)

/-- What `wait_process` returned. -/
def statuses (role : Role) (history : List Entry) : List Int :=
  history.filterMap (Entry.status? role)

def ObservedDead (role : Role) (history : List Entry) : Prop :=
  ∃ entry ∈ history, entry.SeesDead role

theorem signals_append (role : Role) (first second : List Entry) :
    signals role (first ++ second) = signals role first ++ signals role second :=
  List.filterMap_append ..

theorem wrapperSignals_append (role : Role) (first second : List Entry) :
    wrapperSignals role (first ++ second) =
      wrapperSignals role first ++ wrapperSignals role second :=
  List.filterMap_append ..

theorem statuses_append (role : Role) (first second : List Entry) :
    statuses role (first ++ second) = statuses role first ++ statuses role second :=
  List.filterMap_append ..

theorem ObservedDead.append_right {role : Role} {second : List Entry}
    (dead : ObservedDead role second) (first : List Entry) : ObservedDead role (first ++ second) := by
  rcases dead with ⟨entry, mem, sees⟩
  exact ⟨entry, List.mem_append_right _ mem, sees⟩

theorem ObservedDead.append_left {role : Role} {first : List Entry}
    (dead : ObservedDead role first) (second : List Entry) :
    ObservedDead role (first ++ second) := by
  rcases dead with ⟨entry, mem, sees⟩
  exact ⟨entry, List.mem_append_left _ mem, sees⟩

/-- The node answers everything but an expired `wait_process`. -/
structure Answers (environment : Environment) (role : Role) : Prop where
  signals : ∀ history signal failure,
    environment history (.signalProcess role signal) ≠ .error failure
  wrapperSignals : ∀ history signal failure,
    environment history (.signalWrapper role signal) ≠ .error failure
  waits : ∀ history failure,
    environment history (.waitProcess role) = .error failure → failure = .timeoutExpired
  exits : ∀ history failure, environment history (.waitPidExit role) ≠ .error failure
  tests : ∀ history failure, environment history (.processExists role) ≠ .error failure

/-- How a process was shut down, from what was called for it. -/
structure ShutDown (role : Role) (tracked : Bool) (result : Except Failure Int)
    (marks : List Entry) : Prop where
  escalates : signals role marks <+: [.interrupt, .terminate, .kill]
  wrapperEscalates : wrapperSignals role marks <+: [.terminate, .kill]
  workloadFirst : ∀ before signal answer after,
    marks = before ++ .called (.signalWrapper role signal) answer :: after →
      .kill ∈ signals role before ∧ ObservedDead role before
  returns : ∀ code, result = .ok code →
    code ∈ statuses role marks ∧ (tracked = true → ObservedDead role marks)
  raises : ∀ failure, result = .error failure → failure = .timeoutExpired
  direct : tracked = false →
    wrapperSignals role marks = [] ∧ statuses role marks = result.toOption.toList

/-! ## What each call leaves -/

section

variable {environment : Environment}

theorem ask_adds (request : Request) :
    Adds World.history (ask environment request) fun result marks =>
      marks = [.called request result] ∧ ∃ history, environment history request = result := by
  intro world
  rw [outcome_ask]
  exact ⟨_, rfl, rfl, world.history, rfl⟩

theorem call_adds (request : Request)
    (answers : ∀ history failure, environment history request ≠ .error failure) :
    Adds World.history (call environment request) fun result marks =>
      ∃ value, result = .ok value ∧ ∃ answer, marks = [.called request answer] := by
  apply Adds.bind (ask_adds request)
  · intro value marks asked
    rw [asked.1]
    exact Adds.of_pure ⟨(), rfl, .ok value, rfl⟩
  · intro failure marks asked
    rcases asked.2 with ⟨history, answered⟩
    exact absurd answered (answers history failure)

theorem holds_adds (request : Request)
    (answers : ∀ history failure, environment history request ≠ .error failure) :
    Adds World.history (holds environment request) fun result marks =>
      ∃ holds, result = .ok holds ∧
        ∃ value, holds = (value != 0) ∧ marks = [.called request (.ok value)] := by
  apply Adds.bind (ask_adds request)
  · intro value marks asked
    rw [asked.1]
    exact Adds.of_pure ⟨_, rfl, value, rfl, rfl⟩
  · intro failure marks asked
    rcases asked.2 with ⟨history, answered⟩
    exact absurd answered (answers history failure)

variable {role : Role}

def waitAnswer : Option Int → Except Failure Int
  | some code => .ok code
  | none => .error .timeoutExpired

theorem waitStatus_adds (answers : Answers environment role) :
    Adds World.history (waitStatus environment role) fun result marks =>
      ∃ status, result = .ok status ∧
        marks = [.called (.waitProcess role) (waitAnswer status)] := by
  have asked : Adds World.history (some <$> ask environment (.waitProcess role))
      fun result marks =>
        (∃ code, result = .ok (some code) ∧ marks = [.called (.waitProcess role) (.ok code)]) ∨
          result = .error .timeoutExpired ∧
            marks = [.called (.waitProcess role) (.error .timeoutExpired)] := by
    rw [map_eq_pure_bind]
    apply Adds.bind (ask_adds (.waitProcess role))
    · intro code marks asked
      rw [asked.1]
      exact Adds.of_pure (Or.inl ⟨code, rfl, rfl⟩)
    · intro failure marks asked
      rcases asked.2 with ⟨history, answered⟩
      have expired := answers.waits history failure answered
      subst expired
      exact Or.inr ⟨rfl, asked.1⟩
  apply Adds.of_tryCatch asked
  · intro status marks waited
    rcases waited with returned | raised
    · rcases returned with ⟨code, returned, called⟩
      cases returned
      exact ⟨some code, rfl, called⟩
    · cases raised.1
  · intro failure marks waited
    rcases waited with returned | raised
    · rcases returned with ⟨code, returned, _⟩
      cases returned
    · cases raised.1
      rw [raised.2]
      exact Adds.of_pure ⟨none, rfl, rfl⟩

/-! ## The signals to the process -/

/-- What the stages leave, where `status` is what they return. -/
structure Signalled (role : Role) (tracked : Bool) (sent : List Signal)
    (status : Option Int) (marks : List Entry) : Prop where
  escalates : signals role marks <+: sent
  spares : wrapperSignals role marks = []
  returns : ∀ code, status = some code →
    code ∈ statuses role marks ∧ (tracked = true → ObservedDead role marks)
  survives : status = none → signals role marks = sent
  direct : tracked = false → statuses role marks = status.toList

theorem Signalled.later {tracked : Bool} {signal : Signal} {sent : List Signal}
    {status : Option Int} {stage marks : List Entry}
    (stageSignals : signals role stage = [signal]) (stageSpares : wrapperSignals role stage = [])
    (unsettled : tracked = false → statuses role stage = [])
    (later : Signalled role tracked sent status marks) :
    Signalled role tracked (signal :: sent) status (stage ++ marks) where
  escalates := by
    rw [signals_append, stageSignals]
    exact (List.prefix_cons_inj signal).mpr later.escalates
  spares := by rw [wrapperSignals_append, stageSpares, later.spares, List.append_nil]
  returns := by
    intro code settled
    rcases later.returns code settled with ⟨returned, dead⟩
    constructor
    · rw [statuses_append]
      exact List.mem_append_right _ returned
    · intro profiled
      exact (dead profiled).append_right stage
  survives := by
    intro survived
    rw [signals_append, stageSignals, later.survives survived]
    rfl
  direct := by
    intro untracked
    rw [statuses_append, unsettled untracked, later.direct untracked, List.nil_append]

theorem signals_stage (signal : Signal) (sending waiting : Except Failure Int) :
    signals role [.called (.signalProcess role signal) sending,
      .called (.waitProcess role) waiting] = [signal] := by
  simp [signals, Entry.signal?]

theorem Signalled.last {tracked : Bool} (signal : Signal) (rest : List Signal) (code : Int)
    (sending : Except Failure Int) {observed : List Entry}
    (unsignalled : signals role observed = [] ∧ wrapperSignals role observed = [])
    (unwaited : statuses role observed = [])
    (dead : tracked = true → ObservedDead role observed) :
    Signalled role tracked (signal :: rest) (some code)
      ([.called (.signalProcess role signal) sending, .called (.waitProcess role) (.ok code)] ++
        observed) := by
  have settled : statuses role [.called (.signalProcess role signal) sending,
      .called (.waitProcess role) (.ok code)] = [code] := by
    rw [statuses, List.filterMap_cons_none rfl]
    exact List.filterMap_cons_some (if_pos rfl)
  constructor
  case escalates =>
    rw [signals_append, signals_stage, unsignalled.1]
    exact (List.prefix_cons_inj signal).mpr List.nil_prefix
  case spares =>
    rw [wrapperSignals_append, unsignalled.2]
    rfl
  case returns =>
    intro returned equal
    cases equal
    rw [statuses_append, settled]
    exact ⟨List.mem_cons_self, fun profiled => (dead profiled).append_right _⟩
  case survives => exact nofun
  case direct =>
    intro _
    rw [statuses_append, settled, unwaited]
    rfl

theorem Signalled.escalate {tracked : Bool} {signal : Signal} {sent : List Signal}
    (rest : Adds World.history (shutdownStages environment role tracked sent)
      fun result marks => ∃ status, result = .ok status ∧
        Signalled role tracked sent status marks)
    (stage : List Entry) (stageSignals : signals role stage = [signal])
    (stageSpares : wrapperSignals role stage = [])
    (unsettled : tracked = false → statuses role stage = []) :
    Adds World.history (shutdownStages environment role tracked sent)
      fun result marks => ∃ status, result = .ok status ∧
        Signalled role tracked (signal :: sent) status (stage ++ marks) := by
  apply rest.mono
  intro result marks later
  rcases later with ⟨status, returned, later⟩
  exact ⟨status, returned, later.later stageSignals stageSpares unsettled⟩

private theorem shutdownStages_adds (answers : Answers environment role) (tracked : Bool)
    (sent : List Signal) :
    Adds World.history (shutdownStages environment role tracked sent) fun result marks =>
      ∃ status, result = .ok status ∧ Signalled role tracked sent status marks := by
  induction sent with
  | nil => exact Adds.of_pure ⟨none, rfl, List.nil_prefix, rfl, nofun, fun _ => rfl, fun _ => rfl⟩
  | cons signal rest induction =>
      apply Adds.bind_of_returns (call_adds _ fun history => answers.signals history signal)
      intro _ sending called
      rcases called with ⟨sent, called⟩
      subst called
      apply Adds.bind_of_returns (waitStatus_adds answers)
      intro status waiting waited
      subst waited
      cases tracked with
      | true =>
          apply Adds.bind_of_returns (holds_adds (.waitPidExit role) answers.exits)
          intro exited testing tested
          rcases tested with ⟨answer, exits, tested⟩
          subst tested
          have unsettled := Signalled.escalate induction
            [.called (.signalProcess role signal) sent,
              .called (.waitProcess role) (waitAnswer status),
              .called (.waitPidExit role) (.ok answer)]
            (signals_stage signal sent (waitAnswer status)) rfl nofun
          cases exited with
          | false =>
              cases status with
              | none => exact unsettled
              | some code => exact unsettled
          | true =>
              cases status with
              | none => exact unsettled
              | some code =>
                  have dead : ObservedDead role [.called (.waitPidExit role) (.ok answer)] := by
                    refine ⟨_, List.mem_cons_self, rfl, ?_⟩
                    simpa using exits
                  apply Adds.of_pure
                  exact ⟨some code, rfl,
                    Signalled.last signal rest code sent ⟨rfl, rfl⟩ rfl fun _ => dead⟩
      | false =>
          cases status with
          | none =>
              exact Signalled.escalate induction _ (signals_stage signal sent _) rfl fun _ => rfl
          | some code =>
              apply Adds.of_pure
              exact ⟨some code, rfl, Signalled.last signal rest code sent ⟨rfl, rfl⟩ rfl nofun⟩

/-! ## The signals to the wrapper -/

structure WrapperSignalled (role : Role) (sent : List Signal) (result : Except Failure Int)
    (marks : List Entry) : Prop where
  escalates : wrapperSignals role marks <+: sent
  returns : ∀ code, result = .ok code → code ∈ statuses role marks
  raises : ∀ failure, result = .error failure → failure = .timeoutExpired
  spares : signals role marks = []

theorem wrapperSignals_stage (signal : Signal) (sending waiting : Except Failure Int) :
    wrapperSignals role [.called (.signalWrapper role signal) sending,
      .called (.waitProcess role) waiting] = [signal] := by
  simp [wrapperSignals, Entry.wrapperSignal?]

theorem WrapperSignalled.last (signal : Signal) (rest : List Signal) (code : Int)
    (sending : Except Failure Int) :
    WrapperSignalled role (signal :: rest) (.ok code)
      [.called (.signalWrapper role signal) sending, .called (.waitProcess role) (.ok code)] := by
  have settled : statuses role [.called (.signalWrapper role signal) sending,
      .called (.waitProcess role) (.ok code)] = [code] := by
    rw [statuses, List.filterMap_cons_none rfl]
    exact List.filterMap_cons_some (if_pos rfl)
  constructor
  case escalates =>
    rw [wrapperSignals_stage]
    exact (List.prefix_cons_inj signal).mpr List.nil_prefix
  case returns =>
    intro returned equal
    cases equal
    rw [settled]
    exact List.mem_cons_self
  case raises => exact nofun
  case spares => rfl

theorem WrapperSignalled.later {signal : Signal} {rest : List Signal}
    {result : Except Failure Int} {marks : List Entry}
    (later : WrapperSignalled role rest result marks) (sending waiting : Except Failure Int) :
    WrapperSignalled role (signal :: rest) result
      ([.called (.signalWrapper role signal) sending, .called (.waitProcess role) waiting] ++
        marks) := by
  constructor
  case escalates =>
    rw [wrapperSignals_append, wrapperSignals_stage]
    exact (List.prefix_cons_inj signal).mpr later.escalates
  case returns =>
    intro code returned
    rw [statuses_append]
    exact List.mem_append_right _ (later.returns code returned)
  case raises => exact later.raises
  case spares =>
    rw [signals_append, later.spares]
    rfl

private theorem wrapperStages_adds (answers : Answers environment role) (sent : List Signal) :
    Adds World.history (wrapperStages environment role sent) (WrapperSignalled role sent) := by
  induction sent with
  | nil =>
      apply Adds.of_throw
      exact ⟨List.nil_prefix, nofun, fun failure raised => by cases raised; rfl, rfl⟩
  | cons signal rest induction =>
      apply Adds.bind_of_returns (call_adds _ fun history => answers.wrapperSignals history signal)
      intro _ sending called
      rcases called with ⟨sent, called⟩
      subst called
      apply Adds.bind_of_returns (waitStatus_adds answers)
      intro status waiting waited
      subst waited
      cases status with
      | some code =>
          apply Adds.of_pure
          exact WrapperSignalled.last signal rest code sent
      | none =>
          apply induction.mono
          intro result marks later
          exact later.later sent (waitAnswer none)

/-! ## The whole shutdown -/

theorem prefix_of_not_mem {α : Type} {first second before after : List α} {entry : α}
    (equal : first ++ second = before ++ entry :: after) (notMem : entry ∉ first) :
    first <+: before := by
  rcases List.append_eq_append_iff.mp equal with ⟨more, whole, _⟩ | ⟨more, cut, rest⟩
  · exact ⟨more, whole.symm⟩
  · cases more with
    | nil => exact (cut.trans (List.append_nil before)) ▸ List.prefix_refl before
    | cons head tail =>
        cases rest
        exact absurd (cut ▸ List.mem_append_right before List.mem_cons_self) notMem

theorem Signalled.wrapper {stage marks : List Entry} {result : Except Failure Int}
    (stages : Signalled role true [.interrupt, .terminate, .kill] none stage)
    (wrapped : WrapperSignalled role [.terminate, .kill] result marks) :
    ShutDown role true result
      (stage ++ ([.called (.processExists role) (.ok 0)] ++ marks)) := by
  have sent : signals role stage = [.interrupt, .terminate, .kill] := stages.survives rfl
  have dead : ObservedDead role [.called (.processExists role) (.ok 0)] :=
    ⟨_, List.mem_cons_self, rfl, rfl⟩
  have spares : wrapperSignals role [.called (.processExists role) (.ok 0)] = [] := rfl
  constructor
  case escalates =>
    rw [signals_append, signals_append, sent, wrapped.spares]
    exact List.prefix_refl _
  case wrapperEscalates =>
    rw [wrapperSignals_append, wrapperSignals_append, stages.spares, spares]
    exact wrapped.escalates
  case workloadFirst =>
    intro before signal answer after split
    have notMem : Entry.called (.signalWrapper role signal) answer ∉
        stage ++ [.called (.processExists role) (.ok 0)] := by
      intro mem
      have signalled : signal ∈ wrapperSignals role
          (stage ++ [.called (.processExists role) (.ok 0)]) :=
        List.mem_filterMap.mpr ⟨_, mem, if_pos rfl⟩
      rw [wrapperSignals_append, stages.spares] at signalled
      cases signalled
    rw [← List.append_assoc] at split
    rcases prefix_of_not_mem split notMem with ⟨rest, whole⟩
    rw [← whole]
    constructor
    · rw [signals_append, signals_append, sent]
      simp
    · exact (dead.append_right stage).append_left rest
  case returns =>
    intro code returned
    constructor
    · rw [statuses_append, statuses_append]
      exact List.mem_append_right _ (List.mem_append_right _ (wrapped.returns code returned))
    · intro _
      rw [← List.append_assoc]
      exact (dead.append_right stage).append_left marks
  case raises => exact wrapped.raises
  case direct => exact nofun

theorem Signalled.shutDown {tracked : Bool} {status : Option Int} {marks more : List Entry}
    {result : Except Failure Int}
    (stages : Signalled role tracked [.interrupt, .terminate, .kill] status marks)
    (unsignalled : signals role more = [] ∧ wrapperSignals role more = [])
    (unwaited : statuses role more = [])
    (settled : result = match status with | some code => .ok code | none => .error .timeoutExpired) :
    ShutDown role tracked result (marks ++ more) := by
  have spares : wrapperSignals role (marks ++ more) = [] := by
    rw [wrapperSignals_append, stages.spares, unsignalled.2, List.append_nil]
  have sameStatuses : statuses role (marks ++ more) = statuses role marks := by
    rw [statuses_append, unwaited, List.append_nil]
  subst settled
  constructor
  case escalates =>
    rw [signals_append, unsignalled.1, List.append_nil]
    exact stages.escalates
  case wrapperEscalates =>
    rw [spares]
    exact List.nil_prefix
  case workloadFirst =>
    intro before signal answer after split
    have mem : Entry.called (.signalWrapper role signal) answer ∈ marks ++ more := by
      rw [split]
      exact List.mem_append_right _ List.mem_cons_self
    have signalled : signal ∈ wrapperSignals role (marks ++ more) :=
      List.mem_filterMap.mpr ⟨_, mem, if_pos rfl⟩
    rw [spares] at signalled
    cases signalled
  case returns =>
    intro code returned
    cases status with
    | none => cases returned
    | some settled =>
        cases returned
        rcases stages.returns code rfl with ⟨mem, dead⟩
        constructor
        · rw [sameStatuses]
          exact mem
        · intro profiled
          exact (dead profiled).append_left more
  case raises =>
    intro failure raised
    cases status with
    | none => exact (Except.error.inj raised).symm
    | some settled => cases raised
  case direct =>
    intro untracked
    refine ⟨spares, ?_⟩
    rw [sameStatuses, stages.direct untracked]
    cases status with
    | none => rfl
    | some code => rfl

private theorem shutdownProcess_adds (answers : Answers environment role) (tracked : Bool) :
    Adds World.history (shutdownProcess environment role tracked) (ShutDown role tracked) := by
  apply Adds.bind_of_returns (shutdownStages_adds answers tracked _)
  intro status stage signalled
  cases status with
  | some code =>
      apply Adds.of_pure
      exact signalled.shutDown ⟨rfl, rfl⟩ rfl rfl
  | none =>
      cases tracked with
      | false =>
          apply Adds.of_throw
          exact signalled.shutDown ⟨rfl, rfl⟩ rfl rfl
      | true =>
          apply Adds.bind_of_returns (holds_adds (.processExists role) answers.tests)
          intro survived testing tested
          rcases tested with ⟨answer, tests, tested⟩
          subst tested
          cases survived with
          | true =>
              apply Adds.of_throw
              exact signalled.shutDown ⟨rfl, rfl⟩ rfl rfl
          | false =>
              have dead : answer = 0 := by simpa using tests
              subst dead
              apply (wrapperStages_adds answers _).mono
              intro result marks wrapped
              exact signalled.wrapper wrapped

end

/-- However the node answers, the process is shut down before its wrapper, and
`AssertionError` is not raised. -/
theorem shutdownProcess_escalates (environment : Environment) (role : Role)
    (answers : Answers environment role) (tracked : Bool) :
    Adds World.history (Shutdown.shutdownProcess environment role tracked)
      (ShutDown role tracked) := by
  rw [Shutdown.shutdownProcess_eq]
  exact shutdownProcess_adds answers tracked

/-- The workload survives all but `SIGKILL`, and so does its wrapper. -/
def stubborn : Environment := fun history request =>
  match request with
  | .waitProcess role =>
      if .kill ∈ wrapperSignals role history then .ok 137 else .error .timeoutExpired
  | .waitPidExit role => .ok (if .kill ∈ signals role history then 1 else 0)
  | _ => .ok 0

private theorem stubborn_answers : Answers stubborn .receiver where
  signals := fun _ _ _ => nofun
  wrapperSignals := fun _ _ _ => nofun
  waits := by
    intro history failure raised
    by_cases killed : .kill ∈ wrapperSignals .receiver history
    · have returned : stubborn history (.waitProcess .receiver) = .ok 137 := if_pos killed
      rw [returned] at raised
      cases raised
    · have expired : stubborn history (.waitProcess .receiver) = .error .timeoutExpired :=
        if_neg killed
      rw [expired] at raised
      exact (Except.error.inj raised).symm
  exits := fun _ _ => nofun
  tests := fun _ _ => nofun

theorem stubborn_escalates :
    (Script.outcome (Shutdown.shutdownProcess stubborn .receiver true) {}).1 = .ok 137 ∧
      Adds World.history (Shutdown.shutdownProcess stubborn .receiver true)
        (ShutDown .receiver true) :=
  ⟨by decide, shutdownProcess_escalates stubborn .receiver stubborn_answers true⟩

end NetLatencyLab.Harness
