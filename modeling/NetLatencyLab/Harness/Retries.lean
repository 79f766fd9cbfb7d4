import NetLatencyLab.Harness.RunPlan

/-! # Retries

What is executed again in a campaign: an execution that failed before its
metadata was written, once. A transport failure of `remove_files` is raised
after that, is taken for a failed execution, and repeats a completed one. -/

namespace NetLatencyLab.Harness

/-- A measurement is not repeated once its metadata is written, and otherwise
at most once. -/
structure Kept (history : List Entry) : Prop where
  neverAgain : history.Pairwise fun earlier later =>
    ∀ item, earlier = .wrote item → later ≠ .executing item
  writtenOnce : ∀ item, history.count (.wrote item) ≤ 1
  retriedOnce : ∀ item, history.count (.executing item) ≤ 2

def CleanupStands (history : List Entry) : Prop :=
  history.Pairwise fun earlier later => earlier.losesCleanup → later ≠ .reconnected

def Entry.startedItem? : Entry → Option RunTuple
  | .started item => some item
  | _ => none

/-- The tuples that `execute_with_progress` is called with. -/
def startedItems (history : List Entry) : List RunTuple := history.filterMap Entry.startedItem?

theorem mem_startedItems (item : RunTuple) (rest : List Entry) :
    item ∈ startedItems (.started item :: rest) :=
  List.mem_filterMap.mpr ⟨.started item, List.mem_cons_self, rfl⟩

theorem Kept.left {first second : List Entry} (kept : Kept (first ++ second)) : Kept first where
  neverAgain := (List.pairwise_append.mp kept.neverAgain).1
  writtenOnce := fun item =>
    ((List.sublist_append_left first second).count_le _).trans (kept.writtenOnce item)
  retriedOnce := fun item =>
    ((List.sublist_append_left first second).count_le _).trans (kept.retriedOnce item)

theorem Kept.right {first second : List Entry} (kept : Kept (first ++ second)) : Kept second where
  neverAgain := (List.pairwise_append.mp kept.neverAgain).2.1
  writtenOnce := fun item =>
    ((List.sublist_append_right first second).count_le _).trans (kept.writtenOnce item)
  retriedOnce := fun item =>
    ((List.sublist_append_right first second).count_le _).trans (kept.retriedOnce item)

/-! ## Notes suffice -/

theorem kept_filter {history : List Entry} :
    Kept (history.filter Entry.notable) ↔ Kept history := by
  have same : (history.filter Entry.notable).Pairwise (fun earlier later =>
      ∀ item, earlier = .wrote item → later ≠ .executing item) ↔
      history.Pairwise fun earlier later =>
        ∀ item, earlier = .wrote item → later ≠ .executing item := by
    rw [List.pairwise_filter]
    apply List.Pairwise.iff
    intro earlier later
    constructor
    · rintro apart item rfl rfl
      exact apart rfl rfl item rfl rfl
    · intro apart _ _
      exact apart
  constructor
  · rintro ⟨neverAgain, writtenOnce, retriedOnce⟩
    refine ⟨same.mp neverAgain, ?_, ?_⟩
    · intro item
      rw [← List.count_filter (p := Entry.notable) rfl]
      exact writtenOnce item
    · intro item
      rw [← List.count_filter (p := Entry.notable) rfl]
      exact retriedOnce item
  · rintro ⟨neverAgain, writtenOnce, retriedOnce⟩
    refine ⟨same.mpr neverAgain, ?_, ?_⟩
    · intro item
      rw [List.count_filter rfl]
      exact writtenOnce item
    · intro item
      rw [List.count_filter rfl]
      exact retriedOnce item

private theorem cleanupStands_filter {history : List Entry} :
    CleanupStands (history.filter Entry.notable) ↔ CleanupStands history := by
  rw [CleanupStands, List.pairwise_filter]
  apply List.Pairwise.iff
  intro earlier later
  constructor
  · rintro apart lost rfl
    have notable : earlier.notable := by
      cases earlier with
      | called request result => exact lost
      | _ => rfl
    exact apart notable rfl lost rfl
  · intro apart _ _
    exact apart

theorem startedItems_filter (history : List Entry) :
    startedItems (history.filter Entry.notable) = startedItems history := by
  rw [startedItems, List.filterMap_filter, startedItems]
  congr 1
  funext entry
  cases entry with
  | called request result =>
      cases Entry.notable (.called request result) <;> rfl
  | _ => rfl

/-! ## One tuple -/

section

variable {item : RunTuple} {result : Except Failure Bool} {notes : List Entry}

theorem Ran.mem (ran : Ran item result notes) {entry : Entry} (member : entry ∈ notes) :
    entry = .wrote item ∨ ∃ role failure, Failure.isTransport failure ∧
      entry = .called (.removeFiles role) (.error failure) := by
  cases ran with
  | completed passed => exact Or.inl (List.mem_singleton.mp member)
  | failed failure => cases member
  | uncleaned failure kept => exact Or.inl (List.mem_singleton.mp member)
  | cleanupLost role failure transport =>
      rcases List.mem_cons.mp member with same | later
      · exact Or.inl same
      · exact Or.inr ⟨role, failure, transport, List.mem_singleton.mp later⟩

theorem Ran.not_executing (ran : Ran item result notes) (other : RunTuple) :
    .executing other ∉ notes := by
  intro member
  rcases ran.mem member with same | ⟨role, failure, -, same⟩
  · cases same
  · cases same

theorem Ran.not_reconnected (ran : Ran item result notes) : .reconnected ∉ notes := by
  intro member
  rcases ran.mem member with same | ⟨role, failure, -, same⟩
  · cases same
  · cases same

theorem Ran.startedItems (ran : Ran item result notes) : startedItems notes = [] := by
  cases ran <;> rfl

theorem Ran.count_wrote (ran : Ran item result notes) (other : RunTuple) :
    notes.count (.wrote other) ≤ 1 := by
  cases ran with
  | cleanupLost role failure transport =>
      rw [List.count_cons, List.count_singleton, if_neg (by simp)]
      split <;> simp
  | failed failure => simp
  | _ => exact List.count_le_length

theorem Ran.pairwise (ran : Ran item result notes) {relation : Entry → Entry → Prop}
    (apart : ∀ earlier later, (∀ other, later ≠ .executing other) → later ≠ .reconnected →
      relation earlier later) : notes.Pairwise relation := by
  apply List.pairwise_of_forall_mem_list
  intro earlier _ later member
  apply apart
  · rintro other rfl
    exact ran.not_executing other member
  · rintro rfl
    exact ran.not_reconnected member

inductive Entry.Concerns (item : RunTuple) : Entry → Prop
  | started : Concerns item (.started item)
  | executing : Concerns item (.executing item)
  | wrote : Concerns item (.wrote item)
  | reconnected : Concerns item .reconnected
  | cleanupLost (role : Role) (failure : Failure) : failure.isTransport →
      Concerns item (.called (.removeFiles role) (.error failure))

theorem Ran.concerns (ran : Ran item result notes) : ∀ entry ∈ notes, entry.Concerns item := by
  intro entry member
  rcases ran.mem member with rfl | ⟨role, failure, transport, rfl⟩
  · exact .wrote
  · exact .cleanupLost role failure transport

theorem Executed.concerns (executed : Executed item result notes) :
    ∀ entry ∈ notes, entry.Concerns item := by
  cases executed with
  | once ran =>
      simp only [List.forall_mem_cons]
      exact ⟨.started, .executing, ran.concerns⟩
  | refused refusal ran =>
      simp only [List.forall_mem_cons]
      exact ⟨.started, .executing, ran.concerns⟩
  | retried ran =>
      simp only [List.forall_mem_cons]
      exact ⟨.started, .executing, .reconnected, .executing, ran.concerns⟩
  | repeated role failure transport ran =>
      simp only [List.forall_mem_cons]
      exact ⟨.started, .executing, .wrote, .cleanupLost role failure transport, .reconnected,
        .executing, ran.concerns⟩
  | unknown failure => exact List.forall_mem_nil _

theorem Executed.eq_of_executing (executed : Executed item result notes) {other : RunTuple}
    (member : .executing other ∈ notes) : other = item := by
  cases executed.concerns _ member
  rfl

theorem Executed.eq_of_wrote (executed : Executed item result notes) {other : RunTuple}
    (member : .wrote other ∈ notes) : other = item := by
  cases executed.concerns _ member
  rfl

theorem Executed.completed {passed : Bool} (executed : Executed item (.ok passed) notes) :
    startedItems notes = [item] ∧ .executing item ∈ notes ∧ .wrote item ∈ notes := by
  cases executed with
  | once ran =>
      cases ran
      exact ⟨rfl, by simp, by simp⟩
  | retried ran =>
      cases ran
      exact ⟨rfl, by simp, by simp⟩
  | repeated role failure transport ran =>
      cases ran
      exact ⟨rfl, by simp, by simp⟩

theorem Executed.startedItems (executed : Executed item result notes) :
    startedItems notes = [item] ∨ startedItems notes = [] := by
  cases executed with
  | once ran => exact Or.inl (congrArg (item :: ·) ran.startedItems)
  | refused refusal ran => exact Or.inl (congrArg (item :: ·) ran.startedItems)
  | retried ran => exact Or.inl (congrArg (item :: ·) ran.startedItems)
  | repeated role failure transport ran => exact Or.inl (congrArg (item :: ·) ran.startedItems)
  | unknown failure => exact Or.inr rfl

theorem Executed.executing_mem (executed : Executed item result notes) (other : RunTuple) :
    .executing other ∈ notes ↔ other ∈ NetLatencyLab.Harness.startedItems notes := by
  have own : .executing item ∈ notes ↔ item ∈ NetLatencyLab.Harness.startedItems notes := by
    cases executed with
    | once ran => exact iff_of_true (by simp) (mem_startedItems item _)
    | refused refusal ran => exact iff_of_true (by simp) (mem_startedItems item _)
    | retried ran => exact iff_of_true (by simp) (mem_startedItems item _)
    | repeated role failure transport ran => exact iff_of_true (by simp) (mem_startedItems item _)
    | unknown failure =>
        exact iff_of_false (by simp) (by simp [NetLatencyLab.Harness.startedItems])
  constructor
  · intro member
    have same := executed.eq_of_executing member
    subst same
    exact own.mp member
  · intro member
    rcases executed.startedItems with single | none
    · have same : other = item := by simpa [single] using member
      subst same
      exact own.mpr member
    · rw [none] at member
      cases member

theorem Executed.started_of_wrote (executed : Executed item result notes) {other : RunTuple}
    (member : .wrote other ∈ notes) : other ∈ NetLatencyLab.Harness.startedItems notes := by
  have same := executed.eq_of_wrote member
  subst same
  cases executed with
  | unknown failure => cases member
  | _ => exact mem_startedItems other _

/-- What precedes the last execution of a tuple, unless a metadata file was
written. -/
theorem Ran.kept (ran : Ran item result notes) (first : List Entry)
    (unwritten : ∀ entry ∈ first, (∀ other, entry ≠ .wrote other) ∧ ¬ entry.losesCleanup)
    (twice : ∀ other, first.count (.executing other) ≤ 2) :
    Kept (first ++ notes) ∧ CleanupStands (first ++ notes) := by
  refine ⟨⟨?_, ?_, ?_⟩, ?_⟩
  · rw [List.pairwise_append]
    refine ⟨?_, ran.pairwise fun _ _ others _ other _ => others other, ?_⟩
    · apply List.pairwise_of_forall_mem_list
      intro earlier member _ _ other written
      exact absurd written ((unwritten earlier member).1 other)
    · intro earlier member _ _ other written
      exact absurd written ((unwritten earlier member).1 other)
  · intro other
    have none : first.count (.wrote other) = 0 :=
      List.count_eq_zero_of_not_mem fun member => (unwritten _ member).1 other rfl
    rw [List.count_append, none, Nat.zero_add]
    exact ran.count_wrote other
  · intro other
    have none : notes.count (.executing other) = 0 :=
      List.count_eq_zero_of_not_mem (ran.not_executing other)
    rw [List.count_append, none, Nat.add_zero]
    exact twice other
  · rw [CleanupStands, List.pairwise_append]
    refine ⟨?_, ran.pairwise fun _ _ _ others _ => others, ?_⟩
    · apply List.pairwise_of_forall_mem_list
      intro earlier member _ _ lost
      exact absurd lost (unwritten earlier member).2
    · intro earlier member _ _ lost
      exact absurd lost (unwritten earlier member).2

theorem Executed.kept_or_repeated (executed : Executed item result notes) :
    (Kept notes ∧ CleanupStands notes) ∨ ¬ Kept notes ∧ ¬ CleanupStands notes := by
  cases executed with
  | once ran =>
      refine Or.inl (ran.kept [.started item, .executing item] ?_ ?_)
      · simp [Entry.losesCleanup]
      · intro other
        exact List.count_le_length
  | refused refusal ran =>
      refine Or.inl (ran.kept [.started item, .executing item] ?_ ?_)
      · simp [Entry.losesCleanup]
      · intro other
        exact List.count_le_length
  | retried ran =>
      refine Or.inl (ran.kept
        [.started item, .executing item, .reconnected, .executing item] ?_ ?_)
      · simp [Entry.losesCleanup]
      · intro other
        simp only [List.count_cons, List.count_nil, reduceCtorEq, beq_iff_eq, if_false]
        split <;> omega
  | repeated role failure transport ran =>
      refine Or.inr ⟨?_, ?_⟩
      · intro kept
        have apart := kept.neverAgain
        simp [List.pairwise_cons] at apart
      · intro stands
        simp [CleanupStands, List.pairwise_cons, Entry.losesCleanup, transport] at stands
  | unknown failure =>
      exact Or.inl ⟨⟨List.Pairwise.nil, by simp, by simp⟩, List.Pairwise.nil⟩

theorem Executed.kept_iff (executed : Executed item result notes) :
    Kept notes ↔ CleanupStands notes := by
  rcases executed.kept_or_repeated with ⟨kept, stands⟩ | ⟨repeats, recovers⟩
  · exact iff_of_true kept stands
  · exact iff_of_false repeats recovers

theorem Executed.startedItems_nodup (executed : Executed item result notes) :
    (NetLatencyLab.Harness.startedItems notes).Nodup := by
  rcases executed.startedItems with same | same
  · rw [same]
    exact List.nodup_singleton item
  · rw [same]
    exact List.nodup_nil

theorem Executed.cleanup_kept {passed : Bool} (executed : Executed item (.ok passed) notes)
    (stands : CleanupStands notes) {entry : Entry} (member : entry ∈ notes) :
    ¬ entry.losesCleanup := by
  cases executed with
  | once ran =>
      cases ran
      simp only [List.mem_cons, List.not_mem_nil, or_false] at member
      rcases member with rfl | rfl | rfl <;> exact Bool.false_ne_true
  | retried ran =>
      cases ran
      simp only [List.mem_cons, List.not_mem_nil, or_false] at member
      rcases member with rfl | rfl | rfl | rfl | rfl <;> exact Bool.false_ne_true
  | repeated role failure transport ran =>
      simp [CleanupStands, List.pairwise_cons, Entry.losesCleanup, transport] at stands

end

/-! ## All tuples -/

section

variable {items : List RunTuple} {finished : Bool} {notes : List Entry}

theorem startedItems_append (first second : List Entry) :
    startedItems (first ++ second) = startedItems first ++ startedItems second :=
  List.filterMap_append ..

theorem Phase.startedItems_prefix (phase : Phase items finished notes) :
    startedItems notes <+: items := by
  induction phase with
  | done => exact List.prefix_rfl
  | stopped items => exact List.nil_prefix
  | @failed item failure notes items executed =>
      rcases executed.startedItems with same | same
      · rw [same]
        exact ⟨items, rfl⟩
      · rw [same]
        exact List.nil_prefix
  | next executed rest induction =>
      rw [startedItems_append, executed.completed.1]
      exact List.prefix_append_right_inj _ |>.mpr induction

theorem Phase.executing_mem (phase : Phase items finished notes) (other : RunTuple) :
    .executing other ∈ notes ↔ other ∈ startedItems notes := by
  induction phase with
  | done => simp [startedItems]
  | stopped items => simp [startedItems]
  | failed items executed => exact executed.executing_mem other
  | next executed rest induction =>
      rw [startedItems_append, List.mem_append, List.mem_append, induction,
        executed.executing_mem other]

theorem Phase.started_of_wrote (phase : Phase items finished notes) {other : RunTuple}
    (member : .wrote other ∈ notes) : other ∈ startedItems notes := by
  induction phase with
  | done => cases member
  | stopped items => cases member
  | failed items executed => exact executed.started_of_wrote member
  | next executed rest induction =>
      rw [startedItems_append, List.mem_append]
      rcases List.mem_append.mp member with here | later
      · exact Or.inl (executed.started_of_wrote here)
      · exact Or.inr (induction later)

/-- A tuple is executed after its metadata was written exactly if the campaign
starts it twice, or recovers the connections after a lost cleanup. -/
theorem Phase.kept_iff (phase : Phase items finished notes) :
    Kept notes ↔ (startedItems notes).Nodup ∧ CleanupStands notes := by
  induction phase with
  | done =>
      exact iff_of_true ⟨List.Pairwise.nil, by simp, by simp⟩ ⟨List.nodup_nil, List.Pairwise.nil⟩
  | stopped items =>
      exact iff_of_true ⟨List.Pairwise.nil, by simp, by simp⟩ ⟨List.nodup_nil, List.Pairwise.nil⟩
  | failed items executed =>
      have single : (startedItems _).Nodup := executed.startedItems_nodup
      rw [executed.kept_iff]
      exact (and_iff_right single).symm
  | @next item passed notes rest items finished executed phase induction =>
      rcases executed.completed with ⟨started, executing, wrote⟩
      rw [startedItems_append, started, List.singleton_append, List.nodup_cons]
      constructor
      · intro kept
        have standsHere := executed.kept_iff.mp kept.left
        have cross := (List.pairwise_append.mp kept.neverAgain).2.2
        rcases induction.mp kept.right with ⟨distinct, standsLater⟩
        refine ⟨⟨?_, distinct⟩, List.pairwise_append.mpr ⟨standsHere, standsLater, ?_⟩⟩
        · intro again
          exact cross _ wrote _ ((phase.executing_mem item).mpr again) item rfl rfl
        · intro earlier member later _ lost
          exact absurd lost (executed.cleanup_kept standsHere member)
      · rintro ⟨⟨fresh, distinct⟩, stands⟩
        rcases List.pairwise_append.mp stands with ⟨standsHere, standsLater, -⟩
        have here := executed.kept_iff.mpr standsHere
        have later := induction.mpr ⟨distinct, standsLater⟩
        have unexecuted : .executing item ∉ rest :=
          fun again => fresh ((phase.executing_mem item).mp again)
        have unwritten : .wrote item ∉ rest := fun again => fresh (phase.started_of_wrote again)
        refine ⟨List.pairwise_append.mpr ⟨here.neverAgain, later.neverAgain, ?_⟩, ?_, ?_⟩
        · rintro _ written _ again other rfl rfl
          rw [executed.eq_of_wrote written] at again
          exact unexecuted again
        · intro other
          rw [List.count_append]
          by_cases same : other = item
          · subst same
            rw [List.count_eq_zero_of_not_mem unwritten, Nat.add_zero]
            exact here.writtenOnce other
          · have none : .wrote other ∉ notes := fun member => same (executed.eq_of_wrote member)
            rw [List.count_eq_zero_of_not_mem none, Nat.zero_add]
            exact later.writtenOnce other
        · intro other
          rw [List.count_append]
          by_cases same : other = item
          · subst same
            rw [List.count_eq_zero_of_not_mem unexecuted, Nat.add_zero]
            exact here.retriedOnce other
          · have none : .executing other ∉ notes :=
              fun member => same (executed.eq_of_executing member)
            rw [List.count_eq_zero_of_not_mem none, Nat.zero_add]
            exact later.retriedOnce other

end

theorem startedItems_nodup (environment : Environment) {shuffle : List RunTuple → List RunTuple}
    (shuffles : ∀ items, (shuffle items).Perm items) {config : Config}
    (distinct : ∀ benchmark ∈ config.benchmarks, benchmark.enabled → benchmark.Distinct) :
    (startedItems (campaignHistory environment shuffle config)).Nodup := by
  rcases campaign_phase environment shuffle config with
    ⟨items, finished, planned, phase⟩
  rw [← startedItems_filter]
  exact (plan_nodup shuffles distinct).sublist (phase.startedItems_prefix.sublist.trans planned)

/-- In every campaign, whatever the nodes answer: no measurement is repeated
exactly if no tuple is started twice and no cleanup that a transport failure
ended is followed by new connections. -/
theorem measurements_are_kept_iff (environment : Environment)
    (shuffle : List RunTuple → List RunTuple) (config : Config) :
    let history := campaignHistory environment shuffle config
    Kept history ↔ (startedItems history).Nodup ∧ CleanupStands history := by
  intro history
  rcases campaign_phase environment shuffle config with
    ⟨items, finished, -, phase⟩
  rw [← kept_filter, phase.kept_iff, startedItems_filter, cleanupStands_filter]

/-- Everything succeeds, but a connection breaks in the first `remove_files`. -/
def brokenRemoval : Environment := fun history request =>
  match request with
  | .removeFiles _ => if history.any Entry.losesCleanup then .ok 0 else .error .connection
  | .processExists _ => .ok 1
  | _ => .ok 0

def reliable : Environment := fun _ request =>
  match request with
  | .processExists _ => .ok 1
  | _ => .ok 0

def measuredOnce : Config where
  benchmarks := [{ name := "baseline", repetitions := 1, rates := [1000] }]
  sharedNode := false

def listedTwice : Config where
  benchmarks := [{ name := "baseline", repetitions := 1, rates := [1000, 1000] }]
  sharedNode := false

def baselineTuple : RunTuple where
  benchmarkIndex := 0
  benchmarkName := "baseline"
  campaign := "comparison"
  repetition := 1
  rate := 1000
  burst := 1
  batch := 1

/-- The metadata is written twice, after the lost cleanup, or since the
configuration lists the rate twice. -/
theorem completed_measurement_is_repeated :
    ¬ Kept (campaignHistory brokenRemoval id measuredOnce) ∧
      ¬ Kept (campaignHistory reliable id listedTwice) := by
  constructor
  · intro kept
    have twice : (campaignHistory brokenRemoval id measuredOnce).count (.wrote baselineTuple) = 2 :=
      by decide +kernel
    exact absurd (twice ▸ kept.writtenOnce baselineTuple) (by omega)
  · intro kept
    have twice : (campaignHistory reliable id listedTwice).count (.wrote baselineTuple) = 2 :=
      by decide +kernel
    exact absurd (twice ▸ kept.writtenOnce baselineTuple) (by omega)

end NetLatencyLab.Harness
