import NetLatencyLab.Harness.Internal.PlainCalls
import NetLatencyLab.Harness.Shutdown

/-! # What an execution leaves behind

However `execute_run` ends, a process that it started has exited or is shut
down, and the files on the nodes are removed only if the metadata of the run was
written. -/

namespace NetLatencyLab.Harness

open NetLatencyLab.Script (Adds Meets Keeps)

/-- Before the `try`. -/
def prepare (environment : Environment) (benchmark : Benchmark) : Script Unit := do
  call environment .compute
  when (benchmark.profile == some .stat) do
    call environment (.run .receiver)

def forget (world : World) : World :=
  { world with activeReceiver := false, activeSender := false, cleanupEligible := false }

/-- `execute_run` up to its `finally`. -/
def untilCleanUp (environment : Environment) (item : RunTuple) (benchmark : Benchmark) :
    Script Bool := do
  prepare environment benchmark
  modify forget
  produce environment item benchmark

def World.active (world : World) : Role → Bool
  | .receiver => world.activeReceiver
  | .sender => world.activeSender

def World.activate (world : World) (active : Bool) : Role → World
  | .receiver => { world with activeReceiver := active }
  | .sender => { world with activeSender := active }

@[simp]
theorem World.activate_history (world : World) (active : Bool) (role : Role) :
    (world.activate active role).history = world.history := by
  cases role with
  | receiver => rfl
  | sender => rfl

@[simp]
theorem World.activate_cleanupEligible (world : World) (active : Bool) (role : Role) :
    (world.activate active role).cleanupEligible = world.cleanupEligible := by
  cases role with
  | receiver => rfl
  | sender => rfl

@[simp]
theorem World.activate_active (world : World) (active : Bool) (role : Role) :
    (world.activate active role).active role = active := by
  cases role with
  | receiver => rfl
  | sender => rfl

theorem World.activate_other (world : World) (active : Bool) {role other : Role}
    (different : other ≠ role) : (world.activate active role).active other = world.active other := by
  cases role with
  | receiver =>
      cases other with
      | receiver => exact absurd rfl different
      | sender => rfl
  | sender =>
      cases other with
      | receiver => rfl
      | sender => exact absurd rfl different

def Benchmark.tracks (benchmark : Benchmark) : Role → Bool
  | .receiver => benchmark.tracked
  | .sender => false

/-- Between the two histories `shutdown_process` was called, and ended so; with
`last_timeout` it is the same (`shutdownProcess_eq`). -/
def ShutBetween (environment : Environment) (role : Role) (tracked : Bool)
    (result : Except Failure Int) (before after : List Entry) : Prop :=
  ∃ world final, before <+: world.history ∧
    Script.outcome (shutdownProcess environment role tracked) world = (result, final) ∧
      final.history <+: after

def ObservedExit (environment : Environment) (benchmark : Benchmark) (start marks : List Entry) :
    Role → Prop
  | .sender => ∃ code, Entry.called (.waitProcess .sender) (.ok code) ∈ marks
  | .receiver => ∃ code,
      ShutBetween environment .receiver benchmark.tracked (.ok code) start (start ++ marks)

/-- What the execution did before its `finally` and in it. -/
structure CleansUp (environment : Environment) (item : RunTuple) (benchmark : Benchmark)
    (start marks cleaning : List Entry) : Prop where
  written : ∀ before role answer after,
    marks ++ cleaning = before ++ .called (.removeFiles role) answer :: after →
      .wrote item ∈ before
  settled : ∀ role handle, .called (.startProcess role) (.ok handle) ∈ marks ++ cleaning →
    ObservedExit environment benchmark start marks role ∨
      ∃ result, ShutBetween environment role (benchmark.tracks role) result (start ++ marks)
        (start ++ marks ++ cleaning)

/-- What the entries show of a process that has ended: the status of the sender,
the first signal to the receiver. -/
def Attended (marks : List Entry) : Role → Prop
  | .sender => ∃ code, Entry.called (.waitProcess .sender) (.ok code) ∈ marks
  | .receiver => ∃ answer, Entry.called (.signalProcess .receiver .interrupt) answer ∈ marks

section

variable {environment : Environment} {item : RunTuple} {benchmark : Benchmark}
variable {start : List Entry}

/-! ## Before the `finally` -/

structure Tracked (environment : Environment) (item : RunTuple) (benchmark : Benchmark)
    (start marks : List Entry) (world : World) : Prop where
  grown : world.history = start ++ marks
  spares : ∀ role answer, .called (.removeFiles role) answer ∉ marks
  started : ∀ role handle, .called (.startProcess role) (.ok handle) ∈ marks →
    world.active role ∨ ObservedExit environment benchmark start marks role
  eligible : world.cleanupEligible → .wrote item ∈ marks

def Sound (environment : Environment) (item : RunTuple) (benchmark : Benchmark)
    (start : List Entry) (world : World) : Prop :=
  ∃ marks, Tracked environment item benchmark start marks world

theorem ShutBetween.mono {role : Role} {tracked : Bool} {result : Except Failure Int}
    {before after : List Entry} (shut : ShutBetween environment role tracked result before after)
    (more : List Entry) : ShutBetween environment role tracked result before (after ++ more) := by
  rcases shut with ⟨world, final, later, ended, earlier⟩
  exact ⟨world, final, later, ended, earlier.trans (List.prefix_append after more)⟩

private theorem shutdownProcess_interrupts (role : Role) (tracked : Bool) :
    Adds World.history (shutdownProcess environment role tracked) fun _ marks =>
      ∃ answer, .called (.signalProcess role .interrupt) answer ∈ marks := by
  rw [shutdownProcess, shutdownStages, bind_assoc, call, bind_assoc]
  apply Adds.bind (ask_adds (.signalProcess role .interrupt))
  · intro value marks asked
    rw [asked.1, pure_bind]
    apply Adds.mono
    · apply Plain.adds
      exact Plain.bind (plain_stage role tracked (plain_shutdownStages role tracked _))
        (plain_unstopped role tracked)
    · intro result more _
      exact ⟨.ok value, List.mem_cons_self⟩
  · intro failure marks asked
    rw [asked.1]
    exact ⟨.error failure, List.mem_cons_self⟩

theorem ShutBetween.interrupted {role : Role} {tracked : Bool} {result : Except Failure Int}
    {before more : List Entry}
    (shut : ShutBetween environment role tracked result before (before ++ more)) :
    ∃ answer, .called (.signalProcess role .interrupt) answer ∈ more := by
  rcases shut with ⟨world, final, ⟨sooner, later⟩, ended, ⟨rest, earlier⟩⟩
  have begins : Adds World.history (shutdownProcess environment role tracked) _ :=
    shutdownProcess_interrupts role tracked
  rcases begins world with ⟨marks, grown, answer, first⟩
  rw [ended, ← later, List.append_assoc] at grown
  rw [grown, List.append_assoc, List.append_cancel_left_eq] at earlier
  refine ⟨answer, ?_⟩
  rw [← earlier]
  exact List.mem_append_left _ (List.mem_append_right _ first)

theorem ObservedExit.attended {marks : List Entry} {role : Role}
    (exited : ObservedExit environment benchmark start marks role) : Attended marks role := by
  cases role with
  | sender => exact exited
  | receiver =>
      cases exited with
      | intro code shut => exact shut.interrupted

theorem CleansUp.attends {marks cleaning : List Entry}
    (cleansUp : CleansUp environment item benchmark start marks cleaning) {role : Role} {handle : Int}
    (started : .called (.startProcess role) (.ok handle) ∈ marks ++ cleaning) :
    Attended marks role ∨ ∃ answer, .called (.signalProcess role .interrupt) answer ∈ cleaning := by
  cases cleansUp.settled role handle started with
  | inl exited => exact Or.inl exited.attended
  | inr later =>
      cases later with
      | intro result shut => exact Or.inr shut.interrupted

theorem ObservedExit.append {marks : List Entry} {role : Role}
    (exited : ObservedExit environment benchmark start marks role) (more : List Entry) :
    ObservedExit environment benchmark start (marks ++ more) role := by
  cases role with
  | sender =>
      rcases exited with ⟨code, mem⟩
      exact ⟨code, List.mem_append_left more mem⟩
  | receiver =>
      rcases exited with ⟨code, shut⟩
      refine ⟨code, ?_⟩
      rw [← List.append_assoc]
      exact shut.mono more

theorem Tracked.append {marks more : List Entry} {world final : World}
    (tracked : Tracked environment item benchmark start marks world)
    (grown : final.history = world.history ++ more)
    (spares : ∀ role answer, .called (.removeFiles role) answer ∉ more)
    (started : ∀ role, (∃ handle, .called (.startProcess role) (.ok handle) ∈ more) ∨
      world.active role → final.active role ∨
        ObservedExit environment benchmark start (marks ++ more) role)
    (eligible : final.cleanupEligible → world.cleanupEligible ∨ .wrote item ∈ more) :
    Tracked environment item benchmark start (marks ++ more) final where
  grown := by rw [grown, tracked.grown, List.append_assoc]
  spares := by
    intro role answer mem
    rcases List.mem_append.mp mem with earlier | later
    · exact tracked.spares role answer earlier
    · exact spares role answer later
  started := by
    intro role handle mem
    rcases List.mem_append.mp mem with earlier | later
    · rcases tracked.started role handle earlier with active | exited
      · exact started role (Or.inr active)
      · exact Or.inr (exited.append more)
    · exact started role (Or.inl ⟨handle, later⟩)
  eligible := by
    intro holds
    rcases eligible holds with earlier | later
    · exact List.mem_append_left more (tracked.eligible earlier)
    · exact List.mem_append_right marks later

theorem Entry.plain_of_mem {calls : List Entry} (plain : ∀ entry ∈ calls, entry.plain) :
    (∀ role answer, .called (.removeFiles role) answer ∉ calls) ∧
      ∀ role handle, .called (.startProcess role) (.ok handle) ∉ calls := by
  constructor
  · intro role answer mem
    cases plain _ mem
  · intro role handle mem
    cases plain _ mem

theorem Tracked.continues {marks : List Entry} {world final : World}
    (tracked : Tracked environment item benchmark start marks world)
    (continues : Continues world final) : Sound environment item benchmark start final := by
  rcases continues with ⟨calls, grown, plain⟩
  subst grown
  have unchanged := Entry.plain_of_mem plain
  refine ⟨marks ++ calls, tracked.append rfl unchanged.1 ?_ Or.inl⟩
  intro role cause
  rcases cause with ⟨handle, mem⟩ | active
  · exact absurd mem (unchanged.2 role handle)
  · exact Or.inl (by cases role <;> exact active)

theorem Plain.sound {α : Type} {script : Script α} (plain : Plain script) :
    Keeps (Sound environment item benchmark start) script := by
  intro world sound
  rcases sound with ⟨marks, tracked⟩
  exact tracked.continues (plain.continues world)

def Becomes (environment : Environment) (item : RunTuple) (benchmark : Benchmark)
    (start : List Entry) {α : Type} (active : Bool) (role : Role) :
    Except Failure α → World → Prop
  | .ok _, world => Sound environment item benchmark start (world.activate active role)
  | .error _, world => Sound environment item benchmark start world

theorem Becomes.bind {α β : Type} {active : Bool} {role : Role} {first : Script α}
    {next : α → Script β}
    (before : Meets (Sound environment item benchmark start) first
      (Becomes environment item benchmark start active role))
    (after : ∀ value, Keeps (Sound environment item benchmark start) (next value)) :
    Keeps (Sound environment item benchmark start) (first >>= fun value =>
      (modify fun world => world.activate active role) >>= fun _ => next value) := by
  refine Meets.bind before ?_ ?_
  · intro value world sound
    exact after value _ sound
  · exact fun _ _ sound => sound

theorem start_becomes (role : Role) :
    Meets (Sound environment item benchmark start) (call environment (.startProcess role))
      (Becomes environment item benchmark start true role) := by
  intro world sound
  rcases sound with ⟨marks, tracked⟩
  rw [call, Script.outcome_bind, outcome_ask]
  cases environment world.history (.startProcess role) with
  | ok handle =>
      refine ⟨marks ++ [.called (.startProcess role) (.ok handle)], tracked.append ?_ ?_ ?_ ?_⟩
      · rw [World.activate_history]
        rfl
      · intro other answer mem
        cases List.mem_singleton.mp mem
      · intro other cause
        by_cases same : other = role
        · subst same
          exact Or.inl (World.activate_active ..)
        · rw [World.activate_other _ _ same]
          rcases cause with ⟨handle, mem⟩ | active
          · cases List.mem_singleton.mp mem
            exact absurd rfl same
          · exact Or.inl active
      · rw [World.activate_cleanupEligible]
        exact Or.inl
  | error failure =>
      refine ⟨marks ++ [.called (.startProcess role) (.error failure)],
        tracked.append rfl ?_ ?_ Or.inl⟩
      · intro other answer mem
        cases List.mem_singleton.mp mem
      · intro other cause
        rcases cause with ⟨handle, mem⟩ | active
        · cases List.mem_singleton.mp mem
        · exact Or.inl (by cases other <;> exact active)

theorem Tracked.deactivate {marks calls : List Entry} {world final : World} {role : Role}
    (tracked : Tracked environment item benchmark start marks world)
    (grown : final = { world with history := world.history ++ calls })
    (plain : ∀ entry ∈ calls, entry.plain)
    (exited : ObservedExit environment benchmark start (marks ++ calls) role) :
    Sound environment item benchmark start (final.activate false role) := by
  subst grown
  have unchanged := Entry.plain_of_mem plain
  refine ⟨marks ++ calls, tracked.append ?_ unchanged.1 ?_ ?_⟩
  · rw [World.activate_history]
  · intro other cause
    by_cases same : other = role
    · subst same
      exact Or.inr exited
    · rw [World.activate_other _ _ same]
      rcases cause with ⟨handle, mem⟩ | active
      · exact absurd mem (unchanged.2 other handle)
      · exact Or.inl (by cases other <;> exact active)
  · rw [World.activate_cleanupEligible]
    exact Or.inl

private theorem wait_becomes :
    Meets (Sound environment item benchmark start) (ask environment (.waitProcess .sender))
      (Becomes environment item benchmark start false .sender) := by
  intro world sound
  have plain : Plain (ask environment (.waitProcess .sender)) := plain_ask rfl
  have kept := plain.sound world sound
  rcases sound with ⟨marks, tracked⟩
  rw [outcome_ask] at kept ⊢
  dsimp only at kept ⊢
  cases answer : environment world.history (.waitProcess .sender) with
  | ok code =>
      apply tracked.deactivate rfl
      · intro entry mem
        cases List.mem_singleton.mp mem
        rfl
      · exact ⟨code, List.mem_append_right marks List.mem_cons_self⟩
  | error failure =>
      rw [answer] at kept
      exact kept

private theorem shutdown_becomes :
    Meets (Sound environment item benchmark start)
      (shutdownProcess environment .receiver benchmark.tracked)
      (Becomes environment item benchmark start false .receiver) := by
  intro world sound
  have plain : Plain (shutdownProcess environment .receiver benchmark.tracked) :=
    plain_shutdownProcess .receiver benchmark.tracked
  have kept := plain.sound world sound
  rcases sound with ⟨marks, tracked⟩
  rcases plain.continues world with ⟨calls, grown, plainCalls⟩
  rcases shut : Script.outcome (shutdownProcess environment .receiver benchmark.tracked) world
    with ⟨failure | code, final⟩
  · rw [shut] at kept
    exact kept
  · rw [shut] at grown
    dsimp only at grown
    apply tracked.deactivate grown plainCalls
    refine ⟨code, world, final, ?_, shut, ?_⟩
    · rw [tracked.grown]
      exact List.prefix_append start marks
    · exact ⟨[], by rw [List.append_nil, grown, tracked.grown, List.append_assoc]⟩

private theorem measure_keeps :
    Keeps (Sound environment item benchmark start) (measure environment benchmark) := by
  apply Keeps.bind (plain_call rfl).sound
  intro _
  apply Becomes.bind (start_becomes .receiver)
  intro _
  apply Keeps.bind (plain_call rfl).sound
  intro _
  apply Keeps.bind (plain_holds rfl).sound
  intro alive
  apply Keeps.bind (plain_require _).sound
  intro _
  apply Keeps.bind plain_observe.sound
  intro _
  apply Becomes.bind (start_becomes .sender)
  intro _
  apply Keeps.bind (plain_call rfl).sound
  intro _
  apply Becomes.bind wait_becomes
  intro senderStatus
  apply Keeps.bind (plain_require _).sound
  intro _
  apply Keeps.bind plain_observe.sound
  intro _
  apply Becomes.bind shutdown_becomes
  intro receiverStatus
  apply Keeps.bind (plain_require _).sound
  intro _
  apply Plain.sound
  apply plain_when
  apply Plain.bind (plain_holds rfl)
  intro survived
  exact plain_require _

private theorem produce_keeps :
    Keeps (Sound environment item benchmark start) (produce environment item benchmark) := by
  apply Keeps.bind measure_keeps
  intro _
  apply Keeps.bind (plain_collect benchmark).sound
  intro passed
  apply Keeps.bind (plain_call rfl).sound
  intro _ world sound
  rcases sound with ⟨marks, tracked⟩
  refine ⟨marks ++ [.wrote item], tracked.append rfl ?_ ?_ ?_⟩
  · intro role answer mem
    cases List.mem_singleton.mp mem
  · intro role cause
    rcases cause with ⟨handle, mem⟩ | active
    · cases List.mem_singleton.mp mem
    · exact Or.inl (by cases role <;> exact active)
  · exact fun _ => Or.inr List.mem_cons_self

/-! ## The `finally` -/

theorem outcome_swallowShutdown (environment : Environment) (condition : Bool) (role : Role)
    (tracked : Bool) (world : World) :
    ∃ calls, Script.outcome (when condition (swallow do
        let _ ← shutdownProcess environment role tracked
        pure ())) world = (.ok (), { world with history := world.history ++ calls }) ∧
      (∀ entry ∈ calls, entry.plain) ∧
      (condition = true → ∃ result final,
        Script.outcome (shutdownProcess environment role tracked) world = (result, final) ∧
          final.history = world.history ++ calls) := by
  cases condition with
  | false =>
      refine ⟨[], ?_, nofun, nofun⟩
      rw [List.append_nil]
      rfl
  | true =>
      have plainShutdown : Plain (shutdownProcess environment role tracked) :=
        plain_shutdownProcess role tracked
      rcases plainShutdown.continues world with ⟨calls, grown, plain⟩
      refine ⟨calls, ?_, plain, ?_⟩
      · rw [when, if_pos rfl, swallow, Script.outcome_tryCatch, Script.outcome_bind, ← grown]
        rcases Script.outcome (shutdownProcess environment role tracked) world
          with ⟨failure | code, final⟩
        · rfl
        · rfl
      · intro _
        exact ⟨_, _, rfl, congrArg World.history grown⟩

private theorem removeArtifacts_adds (environment : Environment) :
    Adds World.history (removeArtifacts environment) fun _ marks =>
      ∀ entry ∈ marks, ∃ role answer, entry = .called (.removeFiles role) answer := by
  have removes : ∀ role, Adds World.history (call environment (.removeFiles role))
      fun _ marks => ∀ entry ∈ marks, ∃ role answer, entry = .called (.removeFiles role) answer := by
    intro role
    apply Adds.bind (ask_adds (.removeFiles role))
    · intro value marks asked
      apply Adds.of_pure
      intro entry mem
      rw [List.append_nil, asked.1] at mem
      exact ⟨role, _, List.mem_singleton.mp mem⟩
    · intro failure marks asked entry mem
      rw [asked.1] at mem
      exact ⟨role, _, List.mem_singleton.mp mem⟩
  apply Adds.bind (removes .receiver)
  · intro _ marks removed
    apply (removes .sender).mono
    intro _ more removedMore entry mem
    rcases List.mem_append.mp mem with first | second
    · exact removed entry first
    · exact removedMore entry second
  · exact fun _ _ removed => removed

private theorem spares_of_removals {removals : List Entry}
    (removes : ∀ entry ∈ removals, ∃ role answer, entry = .called (.removeFiles role) answer)
    (role : Role) (handle : Int) : .called (.startProcess role) (.ok handle) ∉ removals := by
  intro mem
  rcases removes _ mem with ⟨other, answer, removal⟩
  cases removal

private theorem outcome_whenEligible (environment : Environment) (eligible : Bool) (world : World) :
    ∃ removals,
      (Script.outcome (when eligible (removeArtifacts environment)) world).2.history =
        world.history ++ removals ∧
      (∀ entry ∈ removals, ∃ role answer, entry = .called (.removeFiles role) answer) ∧
      (removals ≠ [] → eligible = true) := by
  rcases removeArtifacts_adds environment world with ⟨removals, grown, removes⟩
  cases eligible with
  | true => exact ⟨removals, grown, removes, fun _ => rfl⟩
  | false =>
      refine ⟨[], ?_, nofun, absurd rfl⟩
      rw [List.append_nil]
      rfl

structure Cleaning (environment : Environment) (benchmark : Benchmark) (world : World)
    (sent received removals : List Entry) : Prop where
  grown : (Script.outcome (cleanUp environment benchmark) world).2.history =
    world.history ++ (sent ++ received ++ removals)
  plain : ∀ entry ∈ sent ++ received, entry.plain
  sender : world.activeSender = true → ∃ result final,
    Script.outcome (shutdownProcess environment .sender false) world = (result, final) ∧
      final.history = world.history ++ sent
  receiver : world.activeReceiver = true → ∃ result final,
    Script.outcome (shutdownProcess environment .receiver benchmark.tracked)
      { world with history := world.history ++ sent } = (result, final) ∧
      final.history = world.history ++ sent ++ received
  removes : ∀ entry ∈ removals, ∃ role answer, entry = .called (.removeFiles role) answer
  eligible : removals ≠ [] → world.cleanupEligible = true

private theorem exists_cleaning (environment : Environment) (benchmark : Benchmark)
    (world : World) :
    ∃ sent received removals, Cleaning environment benchmark world sent received removals := by
  rcases outcome_swallowShutdown environment world.activeSender .sender false world
    with ⟨sent, sender, plainSent, sentShut⟩
  rcases outcome_swallowShutdown environment world.activeReceiver .receiver
    benchmark.tracked { world with history := world.history ++ sent }
    with ⟨received, receiver, plainReceived, receivedShut⟩
  rcases outcome_whenEligible environment world.cleanupEligible
    { world with history := world.history ++ sent ++ received }
    with ⟨removals, removed, removes, eligible⟩
  refine ⟨sent, received, removals, ?_, ?_, sentShut, receivedShut, removes, eligible⟩
  · rw [cleanUp, Script.outcome_bind, Script.outcome_get]
    dsimp only
    rw [Script.outcome_bind, sender]
    dsimp only
    rw [Script.outcome_bind, receiver]
    dsimp only
    rw [removed]
    simp only [List.append_assoc]
  · intro entry mem
    rcases List.mem_append.mp mem with sending | receiving
    · exact plainSent entry sending
    · exact plainReceived entry receiving

theorem Cleaning.written {marks sent received removals : List Entry} {world : World}
    (cleaning : Cleaning environment benchmark world sent received removals)
    (tracked : Tracked environment item benchmark start marks world)
    {before after : List Entry} {role : Role} {answer : Except Failure Int}
    (split : marks ++ (sent ++ received ++ removals) =
      before ++ .called (.removeFiles role) answer :: after) : .wrote item ∈ before := by
  have notMem : Entry.called (.removeFiles role) answer ∉ marks ++ (sent ++ received) := by
    intro mem
    rcases List.mem_append.mp mem with body | shutting
    · exact tracked.spares role answer body
    · exact (Entry.plain_of_mem cleaning.plain).1 role answer shutting
  rw [← List.append_assoc] at split
  have nonempty : removals ≠ [] := by
    intro empty
    rw [empty, List.append_nil] at split
    exact notMem (split ▸ List.mem_append_right before List.mem_cons_self)
  rcases prefix_of_not_mem split notMem with ⟨rest, extended⟩
  rw [← extended, List.append_assoc]
  exact List.mem_append_left _ (tracked.eligible (cleaning.eligible nonempty))

theorem Cleaning.shut {marks sent received removals : List Entry} {world : World}
    (cleaning : Cleaning environment benchmark world sent received removals)
    (grown : world.history = start ++ marks) {role : Role} (active : world.active role = true) :
    ∃ result, ShutBetween environment role (benchmark.tracks role) result (start ++ marks)
      (start ++ marks ++ (sent ++ received ++ removals)) := by
  rw [← grown]
  cases role with
  | sender =>
      rcases cleaning.sender active with ⟨result, final, ended, shut⟩
      refine ⟨result, world, final, List.prefix_refl _, ended, ?_⟩
      rw [shut]
      exact ⟨received ++ removals, by simp only [List.append_assoc]⟩
  | receiver =>
      rcases cleaning.receiver active with ⟨result, final, ended, shut⟩
      refine ⟨result, _, final, List.prefix_append _ sent, ended, ?_⟩
      rw [shut]
      exact ⟨removals, by simp only [List.append_assoc]⟩

private theorem cleanUp_cleansUp {marks : List Entry} {world : World}
    (tracked : Tracked environment item benchmark start marks world) :
    ∃ cleaning,
      (Script.outcome (cleanUp environment benchmark) world).2.history =
        start ++ marks ++ cleaning ∧
      CleansUp environment item benchmark start marks cleaning := by
  rcases exists_cleaning environment benchmark world with ⟨sent, received, removals, cleaning⟩
  refine ⟨sent ++ received ++ removals, ?_, ?_, ?_⟩
  · rw [cleaning.grown, tracked.grown]
  · intro before role answer after split
    exact cleaning.written tracked split
  · intro role handle mem
    have body : .called (.startProcess role) (.ok handle) ∈ marks := by
      rcases List.mem_append.mp mem with body | cleansing
      · exact body
      rcases List.mem_append.mp cleansing with shutting | removing
      · exact absurd shutting ((Entry.plain_of_mem cleaning.plain).2 role handle)
      · exact absurd removing (spares_of_removals cleaning.removes role handle)
    rcases tracked.started role handle body with active | exited
    · exact Or.inr (cleaning.shut tracked.grown active)
    · exact Or.inl exited

end

private theorem exists_marks (environment : Environment) (item : RunTuple) (benchmark : Benchmark)
    (world : World) :
    ∃ marks cleaning,
      (Script.outcome (untilCleanUp environment item benchmark) world).2.history =
        world.history ++ marks ∧
      (Script.outcome (executeRun environment item benchmark) world).2.history =
        world.history ++ marks ++ cleaning ∧
      CleansUp environment item benchmark world.history marks cleaning := by
  have executes : executeRun environment item benchmark = prepare environment benchmark >>=
      fun _ => modify forget >>= fun _ => tryFinally (produce environment item benchmark)
        (cleanUp environment benchmark) := by
    rw [prepare, bind_assoc]
    rfl
  have setup : Plain (prepare environment benchmark) :=
    Plain.bind (plain_call rfl) fun _ => plain_when _ (plain_call rfl)
  rcases setup.continues world with ⟨calls, grown, plain⟩
  have unchanged := Entry.plain_of_mem plain
  rw [untilCleanUp, executes, Script.outcome_bind, Script.outcome_bind]
  generalize Script.outcome (prepare environment benchmark) world = run at grown ⊢
  rcases run with ⟨failure | _, ready⟩
  · refine ⟨calls, [], congrArg World.history grown, ?_, ?_, ?_⟩
    · rw [List.append_nil]
      exact congrArg World.history grown
    · intro before role answer after split
      rw [List.append_nil] at split
      have mem : Entry.called (.removeFiles role) answer ∈ calls := by
        rw [split]
        exact List.mem_append_right before List.mem_cons_self
      exact absurd mem (unchanged.1 role answer)
    · intro role handle mem
      rw [List.append_nil] at mem
      exact absurd mem (unchanged.2 role handle)
  · dsimp only at grown ⊢
    subst grown
    rw [Script.outcome_bind, Script.outcome_bind, Script.outcome_modify]
    dsimp only
    have forgotten : Tracked environment item benchmark world.history calls
        (forget { world with history := world.history ++ calls }) :=
      ⟨rfl, unchanged.1, fun role handle mem => absurd mem (unchanged.2 role handle), nofun⟩
    rcases produce_keeps _ ⟨calls, forgotten⟩ with ⟨marks, tracked⟩
    rcases cleanUp_cleansUp tracked with ⟨cleaning, cleaned, cleansUp⟩
    refine ⟨marks, cleaning, tracked.grown, ?_, cleansUp⟩
    rw [Script.outcome_tryFinally]
    generalize Script.outcome (cleanUp environment benchmark) _ = run at cleaned ⊢
    rcases run with ⟨failure | _, final⟩
    · exact cleaned
    · exact cleaned

/-- In whatever way the body and its cleanup end. -/
theorem executeRun_cleansUp (environment : Environment) (item : RunTuple) (benchmark : Benchmark)
    (world : World) :
    ∃ marks cleaning,
      (Script.outcome (untilCleanUp environment item benchmark) world).2.history =
        world.history ++ marks ∧
      (Script.outcome (executeRun environment item benchmark) world).2.history =
        world.history ++ marks ++ cleaning ∧
      CleansUp environment item benchmark world.history marks cleaning ∧
      ∀ role handle, .called (.startProcess role) (.ok handle) ∈ marks ++ cleaning →
        Attended marks role ∨
          ∃ answer, .called (.signalProcess role .interrupt) answer ∈ cleaning := by
  rcases exists_marks environment item benchmark world with ⟨marks, cleaning, body, whole, cleansUp⟩
  exact ⟨marks, cleaning, body, whole, cleansUp, fun _ _ => cleansUp.attends⟩

end NetLatencyLab.Harness
