import NetLatencyLab.Harness.Campaign
import NetLatencyLab.Harness.Internal.PlainCalls

/-! # What a campaign notes

The notes of a history are its entries about executions, metadata files, lost
cleanups and new connections. Everything before the metadata file of a run is
written is quiet: it notes nothing. -/

namespace NetLatencyLab.Harness

open NetLatencyLab.Script (Leaves Adds)

/-! ## Entries that matter -/

/-- `remove_files` raised a transport failure. -/
def Entry.losesCleanup : Entry → Bool
  | .called (.removeFiles _) (.error failure) => failure.isTransport
  | _ => false

def Entry.notable : Entry → Bool
  | .called request result => Entry.losesCleanup (.called request result)
  | _ => true

def World.notes (world : World) : List Entry := world.history.filter Entry.notable

def World.quiet (world : World) : List Entry × Bool := (world.notes, world.cleanupEligible)

def Request.removes : Request → Bool
  | .removeFiles _ => true
  | _ => false

variable {environment : Environment}

theorem notes_note (world : World) (entry : Entry) :
    World.notes { world with history := world.history ++ [entry] } =
      world.notes ++ [entry].filter Entry.notable :=
  List.filter_append ..

/-! ## Quiet scripts -/

abbrev Quiet {α : Type} (script : Script α) : Prop := Leaves World.quiet script

theorem quiet_ask {request : Request} (keeps : request.removes = false) :
    Quiet (ask environment request) := by
  intro world
  have unnoted : (Entry.called request (environment world.history request)).notable = false := by
    cases request with
    | removeFiles role => cases keeps
    | _ => rfl
  rw [outcome_ask]
  apply Prod.ext
  · show World.notes _ = _
    rw [notes_note, List.filter_cons_of_neg (by simp [unnoted])]
    exact List.append_nil _
  · rfl

theorem quiet_call {request : Request} (keeps : request.removes = false) :
    Quiet (call environment request) :=
  Leaves.bind (quiet_ask keeps) fun _ => Leaves.of_pure _

theorem Entry.unnoted_of_plain {entry : Entry} (plain : entry.plain) : entry.notable = false := by
  cases entry with
  | called request result =>
      cases request with
      | removeFiles role => cases plain
      | _ => rfl
  | _ => cases plain

theorem Plain.quiet {α : Type} {script : Script α} (plain : Plain script) : Quiet script := by
  intro world
  rcases plain.continues world with ⟨calls, grown, plainCalls⟩
  rw [grown]
  apply Prod.ext
  · have unnoted : calls.filter Entry.notable = [] := by
      apply List.filter_eq_nil_iff.mpr
      intro entry mem
      rw [Entry.unnoted_of_plain (plainCalls entry mem)]
      exact Bool.false_ne_true
    show (world.history ++ calls).filter Entry.notable = _
    rw [List.filter_append, unnoted]
    exact List.append_nil _
  · rfl

theorem quiet_setReceiver (active : Bool) : Quiet (setReceiver active) := fun _ => rfl

theorem quiet_setSender (active : Bool) : Quiet (setSender active) := fun _ => rfl

private theorem quiet_measure (benchmark : Benchmark) : Quiet (measure environment benchmark) := by
  apply Leaves.bind (quiet_call rfl)
  intro _
  apply Leaves.bind (quiet_call rfl)
  intro _
  apply Leaves.bind (quiet_setReceiver true)
  intro _
  apply Leaves.bind (quiet_call rfl)
  intro _
  apply Leaves.bind (plain_holds rfl).quiet
  intro alive
  apply Leaves.bind ((plain_require alive).quiet)
  intro _
  apply Leaves.bind plain_observe.quiet
  intro _
  apply Leaves.bind (quiet_call rfl)
  intro _
  apply Leaves.bind (quiet_setSender true)
  intro _
  apply Leaves.bind (quiet_call rfl)
  intro _
  apply Leaves.bind (quiet_ask rfl)
  intro senderStatus
  apply Leaves.bind (quiet_setSender false)
  intro _
  apply Leaves.bind (plain_require _).quiet
  intro _
  apply Leaves.bind plain_observe.quiet
  intro _
  apply Leaves.bind (plain_shutdownProcess .receiver benchmark.tracked).quiet
  intro receiverStatus
  apply Leaves.bind (quiet_setReceiver false)
  intro _
  apply Leaves.bind (plain_require _).quiet
  intro _
  apply Plain.quiet
  apply plain_when
  apply Plain.bind (plain_holds rfl)
  intro survived
  exact plain_require _

/-! ## One execution -/

inductive Ran (item : RunTuple) : Except Failure Bool → List Entry → Prop
  | completed (passed : Bool) : Ran item (.ok passed) [.wrote item]
  | failed (failure : Failure) : Ran item (.error failure) []
  | uncleaned (failure : Failure) : failure.isTransport = false →
      Ran item (.error failure) [.wrote item]
  | cleanupLost (role : Role) (failure : Failure) : failure.isTransport →
      Ran item (.error failure)
        [.wrote item, .called (.removeFiles role) (.error failure)]

private theorem outcome_produce (environment : Environment) (item : RunTuple)
    (benchmark : Benchmark) (world : World) :
    (∃ passed final, Script.outcome (produce environment item benchmark) world =
        (.ok passed, final) ∧ final.notes = world.notes ++ [.wrote item] ∧
          final.cleanupEligible = true) ∨
      ∃ failure final, Script.outcome (produce environment item benchmark) world =
        (.error failure, final) ∧ final.quiet = world.quiet := by
  rcases (quiet_measure benchmark).bind_cases _ world with
    ⟨failure, final, stopped, kept⟩ | ⟨_, measured, measures, keptMeasured⟩
  · exact Or.inr ⟨failure, final, stopped, kept⟩
  rcases (plain_collect benchmark).quiet.bind_cases _ measured with
    ⟨failure, final, stopped, kept⟩ | ⟨passed, collected, collects, keptCollected⟩
  · exact Or.inr ⟨failure, final, measures.trans stopped, kept.trans keptMeasured⟩
  have quietWrite : Quiet (call environment .writeMetadata) := quiet_call rfl
  rcases quietWrite.bind_cases _ collected with
    ⟨failure, final, stopped, kept⟩ | ⟨_, written, writes, keptWritten⟩
  · exact Or.inr ⟨failure, final, (measures.trans collects).trans stopped,
      (kept.trans keptCollected).trans keptMeasured⟩
  · have kept : written.notes = world.notes :=
      congrArg Prod.fst ((keptWritten.trans keptCollected).trans keptMeasured)
    refine Or.inl ⟨passed,
      { written with history := written.history ++ [.wrote item], cleanupEligible := true },
      (measures.trans collects).trans writes, ?_, rfl⟩
    rw [← kept]
    exact notes_note written (.wrote item)

theorem outcome_removal (environment : Environment) (role : Role) (world : World) :
    (∃ final, Script.outcome (call environment (.removeFiles role)) world = (.ok (), final) ∧
        final.notes = world.notes) ∨
      ∃ failure final, Script.outcome (call environment (.removeFiles role)) world =
        (.error failure, final) ∧
          final.notes = world.notes ++
            [Entry.called (.removeFiles role) (.error failure)].filter Entry.notable := by
  rw [call, Script.outcome_bind, outcome_ask]
  have noted := notes_note world
  cases environment world.history (.removeFiles role) with
  | ok value =>
      refine Or.inl ⟨_, rfl, ?_⟩
      rw [noted]
      exact List.append_nil _
  | error failure => exact Or.inr ⟨failure, _, rfl, noted _⟩

private theorem outcome_removeArtifacts (environment : Environment) (world : World) :
    (∃ final, Script.outcome (removeArtifacts environment) world = (.ok (), final) ∧
        final.notes = world.notes) ∨
      ∃ role failure final, Script.outcome (removeArtifacts environment) world =
        (.error failure, final) ∧
          final.notes = world.notes ++
            [Entry.called (.removeFiles role) (.error failure)].filter Entry.notable := by
  rw [removeArtifacts, Script.outcome_bind]
  rcases outcome_removal environment .receiver world with
    ⟨middle, removed, kept⟩ | ⟨failure, final, refused, noted⟩
  · rw [removed]
    rcases outcome_removal environment .sender middle with
      ⟨final, cleaned, left⟩ | ⟨failure, final, refused, noted⟩
    · exact Or.inl ⟨final, cleaned, left.trans kept⟩
    · rw [kept] at noted
      exact Or.inr ⟨.sender, failure, final, refused, noted⟩
  · rw [refused]
    exact Or.inr ⟨.receiver, failure, final, rfl, noted⟩

theorem outcome_swallow (condition : Bool) {script : Script Unit} (quiet : Quiet script)
    (world : World) : ∃ final,
      Script.outcome (when condition (swallow script)) world = (.ok (), final) ∧
        final.quiet = world.quiet := by
  cases condition with
  | false => exact ⟨world, rfl, rfl⟩
  | true =>
      have kept := quiet world
      rw [when, if_pos rfl, swallow, Script.outcome_tryCatch]
      generalize Script.outcome script world = run at kept ⊢
      rcases run with ⟨failure | _, final⟩
      · exact ⟨final, rfl, kept⟩
      · exact ⟨final, rfl, kept⟩

theorem quiet_shutdown (environment : Environment) (role : Role) (tracked : Bool) : Quiet (do
    let _ ← shutdownProcess environment role tracked
    pure ()) :=
  Leaves.bind (plain_shutdownProcess role tracked).quiet fun _ => Leaves.of_pure _

/-- The processes are shut down in any case, files are removed only when the
metadata was written. -/
theorem outcome_cleanUp (environment : Environment) (benchmark : Benchmark) (world : World) :
    (∃ final, Script.outcome (cleanUp environment benchmark) world = (.ok (), final) ∧
        final.notes = world.notes) ∨
      world.cleanupEligible ∧ ∃ role failure final,
        Script.outcome (cleanUp environment benchmark) world = (.error failure, final) ∧
          final.notes = world.notes ++
            [Entry.called (.removeFiles role) (.error failure)].filter Entry.notable := by
  rcases outcome_swallow world.activeSender
    (quiet_shutdown environment .sender false) world with
    ⟨sent, sender, keptSent⟩
  rcases outcome_swallow world.activeReceiver
    (quiet_shutdown environment .receiver benchmark.tracked) sent with
    ⟨settled, receiver, keptSettled⟩
  have kept : settled.notes = world.notes := congrArg Prod.fst (keptSettled.trans keptSent)
  rw [cleanUp, Script.outcome_bind, Script.outcome_get]
  dsimp only
  rw [Script.outcome_bind, sender]
  dsimp only
  rw [Script.outcome_bind, receiver]
  dsimp only
  cases eligible : world.cleanupEligible with
  | false => exact Or.inl ⟨settled, rfl, kept⟩
  | true =>
      rw [when, if_pos rfl, ← kept]
      rcases outcome_removeArtifacts environment settled with
        cleaned | refused
      · exact Or.inl cleaned
      · exact Or.inr ⟨rfl, refused⟩

private theorem tryFinally_ran (item : RunTuple) (benchmark : Benchmark) (world : World)
    (ineligible : world.cleanupEligible = false) :
    ∃ notes, World.notes (Script.outcome (tryFinally (produce environment item benchmark)
        (cleanUp environment benchmark)) world).2 = world.notes ++ notes ∧
      Ran item (Script.outcome (tryFinally (produce environment item benchmark)
        (cleanUp environment benchmark)) world).1 notes := by
  rw [Script.outcome_tryFinally]
  rcases outcome_produce environment item benchmark world with
    ⟨passed, middle, produced, written, -⟩ | ⟨failure, middle, stopped, kept⟩
  · rw [produced]
    rcases outcome_cleanUp environment benchmark middle with
      ⟨final, cleaned, left⟩ | ⟨-, role, failure, final, refused, noted⟩
    · rw [cleaned]
      exact ⟨[.wrote item], left.trans written, .completed passed⟩
    · rw [refused]
      rw [written, List.append_assoc] at noted
      refine ⟨_, noted, ?_⟩
      cases transport : failure.isTransport with
      | true =>
          have lost : (Entry.called (.removeFiles role) (.error failure)).notable := transport
          rw [List.filter_cons_of_pos lost]
          exact .cleanupLost role failure transport
      | false =>
          have unnoted : ¬ (Entry.called (.removeFiles role) (.error failure)).notable :=
            fun noted => Bool.noConfusion (noted.symm.trans transport)
          rw [List.filter_cons_of_neg unnoted]
          exact .uncleaned failure transport
  · rw [stopped]
    rcases outcome_cleanUp environment benchmark middle with
      ⟨final, cleaned, left⟩ | ⟨eligible, -⟩
    · rw [cleaned]
      have same : final.notes = world.notes := left.trans (congrArg Prod.fst kept)
      exact ⟨[], by rw [List.append_nil]; exact same, .failed failure⟩
    · -- Without metadata there is nothing to remove.
      have same : middle.cleanupEligible = world.cleanupEligible := congrArg Prod.snd kept
      rw [same, ineligible] at eligible
      cases eligible

theorem executeRun_ran (item : RunTuple) (benchmark : Benchmark) :
    Adds World.notes (executeRun environment item benchmark) (Ran item) := by
  intro world
  unfold executeRun
  have quietSetup : Quiet (call environment .compute) := quiet_call rfl
  rcases quietSetup.bind_cases _ world with
    ⟨failure, final, stopped, kept⟩ | ⟨_, prepared, prepares, keptPrepared⟩
  · have same : final.notes = world.notes := congrArg Prod.fst kept
    rw [stopped]
    exact ⟨[], by rw [List.append_nil]; exact same, .failed failure⟩
  rw [prepares]
  have listed : Quiet (when (benchmark.profile == some .stat) do
      call environment (.run .receiver)) := (plain_when _ (plain_call rfl)).quiet
  rcases listed.bind_cases _ prepared with
    ⟨failure, final, stopped, kept⟩ | ⟨_, ready, readies, keptReady⟩
  · have same : final.notes = world.notes := congrArg Prod.fst (kept.trans keptPrepared)
    rw [stopped]
    exact ⟨[], by rw [List.append_nil]; exact same, .failed failure⟩
  · have same : ready.notes = world.notes := congrArg Prod.fst (keptReady.trans keptPrepared)
    rw [readies, Script.outcome_bind, Script.outcome_modify, ← same]
    exact tryFinally_ran item benchmark _ rfl

/-! ## Retrying -/

/-- The notes of one call of `execute_with_progress`. -/
inductive Executed (item : RunTuple) : Except Failure Bool → List Entry → Prop
  | once {result : Except Failure Bool} {notes : List Entry} : Ran item result notes →
      Executed item result (.started item :: .executing item :: notes)
  | refused {failure : Failure} {notes : List Entry} (refusal : Failure) :
      Ran item (.error failure) notes →
      Executed item (.error refusal) (.started item :: .executing item :: notes)
  | retried {result : Except Failure Bool} {notes : List Entry} : Ran item result notes →
      Executed item result
        (.started item :: .executing item :: .reconnected :: .executing item :: notes)
  | repeated {result : Except Failure Bool} {notes : List Entry} (role : Role)
      (failure : Failure) : failure.isTransport → Ran item result notes →
      Executed item result
        (.started item :: .executing item :: .wrote item ::
          .called (.removeFiles role) (.error failure) :: .reconnected :: .executing item :: notes)
  | unknown (failure : Failure) : Executed item (.error failure) []

theorem adds_note (entry : Entry) (notable : entry.notable) :
    Adds World.notes (note entry) fun result notes =>
      ∃ value, result = .ok value ∧ notes = [entry] := by
  intro world
  refine ⟨[entry], (notes_note world entry).trans ?_, (), rfl, rfl⟩
  rw [List.filter_cons_of_pos notable]
  rfl

theorem quiet_notes {α : Type} {script : Script α} (quiet : Quiet script) :
    Leaves World.notes script :=
  fun world => congrArg Prod.fst (quiet world)

theorem adds_quiet_bind {α β : Type} {first : Script α} {next : α → Script β}
    {Post : Except Failure β → List Entry → Prop} (quiet : Quiet first)
    (after : ∀ value, Adds World.notes (next value) Post)
    (raised : ∀ failure, Post (.error failure) []) : Adds World.notes (first >>= next) Post := by
  have unnoted : Adds World.notes first fun _ notes => notes = [] :=
    Adds.of_leaves (quiet_notes quiet) fun _ => rfl
  apply Adds.bind unnoted
  · rintro value notes rfl
    exact after value
  · rintro failure notes rfl
    exact raised failure

private theorem reconnectNodes_adds (shared : Bool) :
    Adds World.notes (reconnectNodes environment shared) fun result notes =>
      (result = .ok () ∧ notes = [.reconnected]) ∨
        ∃ failure, result = .error failure ∧ notes = [] := by
  have raised : ∀ failure : Failure, ((Except.error failure : Except Failure Unit) = .ok () ∧
      ([] : List Entry) = [.reconnected]) ∨
        ∃ raised, (Except.error failure : Except Failure Unit) = .error raised ∧
          ([] : List Entry) = [] :=
    fun failure => Or.inr ⟨failure, rfl, rfl⟩
  apply adds_quiet_bind (plain_swallow (plain_call rfl)).quiet _ raised
  intro _
  apply adds_quiet_bind (plain_when _ (plain_swallow (plain_call rfl))).quiet _ raised
  intro _
  apply adds_quiet_bind (quiet_call rfl) _ raised
  intro _
  apply adds_quiet_bind (plain_when _ (plain_call rfl)).quiet _ raised
  intro _
  apply (adds_note .reconnected rfl).mono
  intro result notes noted
  rcases noted with ⟨_, returned, notes⟩
  exact Or.inl ⟨returned, notes⟩

private theorem lastAttempt_adds (shared : Bool) (item : RunTuple) (benchmark : Benchmark) :
    Adds World.notes (attempts environment shared item benchmark 1) fun result notes =>
      ∃ rest, notes = .executing item :: rest ∧ Ran item result rest := by
  apply Adds.bind_of_returns (adds_note (.executing item) rfl)
  intro _ first noted
  subst noted
  apply Adds.of_tryCatch (executeRun_ran item benchmark)
  · intro passed notes ran
    exact ⟨notes, rfl, ran⟩
  · intro failure notes ran
    rw [if_neg (by simp)]
    exact Adds.of_throw ⟨notes, by simp, ran⟩

theorem Ran.again {item : RunTuple} {failure : Failure} {first second : List Entry}
    {result : Except Failure Bool} (transport : failure.isTransport = true)
    (ran : Ran item (.error failure) first) (last : Ran item result second) :
    Executed item result (.started item :: .executing item ::
      (first ++ .reconnected :: .executing item :: second)) := by
  cases ran with
  | failed => exact .retried last
  | uncleaned _ kept =>
      rw [transport] at kept
      cases kept
  | cleanupLost role _ _ => exact .repeated role failure transport last

private theorem attempts_adds (shared : Bool) (item : RunTuple) (benchmark : Benchmark) :
    Adds World.notes (attempts environment shared item benchmark maxRunAttempts)
      fun result notes => Executed item result (.started item :: notes) := by
  apply Adds.bind_of_returns (adds_note (.executing item) rfl)
  intro _ first noted
  subst noted
  apply Adds.of_tryCatch (executeRun_ran item benchmark)
  · intro passed notes ran
    exact .once ran
  · intro failure notes ran
    cases transport : failure.isTransport with
    | false =>
        rw [if_neg (by simp)]
        apply Adds.of_throw
        rw [List.append_nil]
        exact .once ran
    | true =>
        rw [if_pos (show (true && 1 != 0) = true from rfl)]
        apply Adds.bind (reconnectNodes_adds shared)
        · -- The next execution, after whatever the first one noted.
          rintro _ more (⟨-, rfl⟩ | ⟨_, impossible, -⟩)
          · apply (lastAttempt_adds shared item benchmark).mono
            rintro result _ ⟨rest, rfl, last⟩
            exact ran.again transport last
          · cases impossible
        · rintro refused more (⟨impossible, -⟩ | ⟨_, -, rfl⟩)
          · cases impossible
          · rw [List.append_nil]
            exact .refused refused ran

private theorem executeWithProgress_executed (config : Config) (item : RunTuple) :
    Adds World.notes (executeWithProgress environment config item) (Executed item) := by
  unfold executeWithProgress
  split
  next benchmark found =>
    apply Adds.bind_of_returns (adds_note (.started item) rfl)
    intro _ first noted
    subst noted
    exact attempts_adds config.sharedNode item benchmark
  next => exact Adds.of_throw (.unknown _)

/-! ## Phases -/

inductive Phase : List RunTuple → Bool → List Entry → Prop
  | done : Phase [] true []
  | stopped (items : List RunTuple) : Phase items false []
  | failed {item : RunTuple} {failure : Failure} {notes : List Entry} (items : List RunTuple) :
      Executed item (.error failure) notes → Phase (item :: items) false notes
  | next {item : RunTuple} {passed : Bool} {notes rest : List Entry} {items : List RunTuple}
      {finished : Bool} : Executed item (.ok passed) notes → Phase items finished rest →
      Phase (item :: items) finished (notes ++ rest)

theorem Phase.append {first second : List RunTuple} {finished : Bool} {notes more : List Entry}
    (before : Phase first true notes) (after : Phase second finished more) :
    Phase (first ++ second) finished (notes ++ more) := by
  generalize all : true = complete at before
  induction before with
  | done => exact after
  | stopped items => cases all
  | failed items executed => cases all
  | next executed rest induction =>
      rw [List.append_assoc]
      exact .next executed (induction all)

theorem runPhase_adds (config : Config) (items : List RunTuple) :
    Adds World.notes (runPhase environment config items) fun result notes =>
      ∃ finished, Phase items finished notes ∧ (∀ results, result = .ok results → finished) := by
  induction items with
  | nil => exact Adds.of_pure ⟨true, .done, fun _ _ => rfl⟩
  | cons item items induction =>
      apply Adds.bind (executeWithProgress_executed config item)
      · intro passed notes executed
        apply adds_quiet_bind (quiet_call rfl)
        · intro _
          apply Adds.bind induction
          · rintro results more ⟨finished, phase, through⟩
            have complete : finished = true := through results rfl
            refine Adds.of_pure ⟨finished, ?_, fun _ _ => complete⟩
            rw [List.append_nil]
            exact .next executed phase
          · rintro failure more ⟨finished, phase, -⟩
            exact ⟨finished, .next executed phase, nofun⟩
        · intro failure
          exact ⟨false, .next executed (.stopped items), nofun⟩
      · intro failure notes executed
        exact ⟨false, .failed items executed, nofun⟩

theorem frozenTuples_sublist (config : Config) (qualification comparative : List RunTuple)
    (results : List (RunTuple × Bool)) :
    (frozenTuples config qualification comparative results).Sublist comparative := by
  unfold frozenTuples
  split
  · exact List.Sublist.refl _
  · exact List.filter_sublist

private theorem runPhases_adds (shuffle : List RunTuple → List RunTuple) (config : Config) :
    Adds World.notes (runPhases environment shuffle config) fun _ notes =>
      ∃ items finished, items.Sublist (plan shuffle config) ∧ Phase items finished notes := by
  unfold runPhases
  apply adds_quiet_bind
  · apply Plain.quiet
    apply plain_when
    apply Plain.bind (Plain.bind (plain_call rfl) fun _ => plain_call rfl)
    intro _
    exact plain_when _ (Plain.bind (plain_call rfl) fun _ => plain_call rfl)
  · intro _
    apply Adds.bind (runPhase_adds config _)
    · rintro results notes ⟨finished, phase, through⟩
      have complete : finished = true := through results rfl
      subst complete
      apply adds_quiet_bind (quiet_call rfl)
      · intro _
        apply Adds.bind (runPhase_adds config _)
        · rintro _ more ⟨finished, second, -⟩
          apply Adds.of_pure
          rw [List.append_nil]
          exact ⟨_, finished, (List.Sublist.refl _).append (frozenTuples_sublist ..),
            phase.append second⟩
        · rintro failure more ⟨finished, second, -⟩
          exact ⟨_, finished, (List.Sublist.refl _).append (frozenTuples_sublist ..),
            phase.append second⟩
      · intro failure
        rw [List.append_nil]
        exact ⟨_, true, List.sublist_append_left .., phase⟩
    · rintro failure notes ⟨finished, phase, -⟩
      exact ⟨_, finished, List.sublist_append_left .., phase⟩
  · intro failure
    exact ⟨[], true, List.nil_sublist _, .done⟩

private theorem runCampaign_adds (environment : Environment)
    (shuffle : List RunTuple → List RunTuple) (config : Config) :
    Adds World.notes (runCampaign environment shuffle config) fun _ notes =>
      ∃ items finished, items.Sublist (plan shuffle config) ∧ Phase items finished notes := by
  have none : ∃ items finished, items.Sublist (plan shuffle config) ∧ Phase items finished [] :=
    ⟨[], true, List.nil_sublist _, .done⟩
  apply adds_quiet_bind (quiet_call rfl) _ fun _ => none
  intro _
  apply adds_quiet_bind (quiet_call rfl) _ fun _ => none
  intro _
  apply adds_quiet_bind (plain_when _ (plain_call rfl)).quiet _ fun _ => none
  intro _
  apply adds_quiet_bind (quiet_call rfl) _ fun _ => none
  intro _
  apply adds_quiet_bind (plain_probe .receiver).quiet _ fun _ => none
  intro _
  apply adds_quiet_bind (plain_probe .sender).quiet _ fun _ => none
  intro _
  apply Adds.of_tryFinally (runPhases_adds shuffle config)
  · apply quiet_notes
    apply Leaves.bind (quiet_call rfl)
    intro _
    exact (plain_when _ (plain_call rfl)).quiet
  · exact fun _ _ phase => phase
  · exact fun _ _ _ phase => phase

theorem campaign_phase (environment : Environment) (shuffle : List RunTuple → List RunTuple)
    (config : Config) :
    ∃ items finished, items.Sublist (plan shuffle config) ∧
      Phase items finished
        ((campaignHistory environment shuffle config).filter Entry.notable) := by
  rcases runCampaign_adds environment shuffle config {} with
    ⟨notes, appended, items, finished, planned, phase⟩
  have same : (campaignHistory environment shuffle config).filter Entry.notable = notes :=
    appended
  rw [same]
  exact ⟨items, finished, planned, phase⟩

end NetLatencyLab.Harness
