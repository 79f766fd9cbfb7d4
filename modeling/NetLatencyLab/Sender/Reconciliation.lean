import NetLatencyLab.Sender.Conservation

/-! # Attempts, successes and failures

`validate_metadata` requires that the attempts of a sender equal its successes
plus its failures. Only a worker that gives up an interrupted call after a stop
breaks this: the rest of its batch is then neither sent nor counted as failed. -/

namespace NetLatencyLab.Sender

variable {config : Config}

def Position.isSending : Position → Bool
  | sending _ _ => true
  | _ => false

instance (position : Position) : Decidable (position = .finished) :=
  match position with
  | .finished => .isTrue rfl
  | .checking | .allocating _ _ | .sending _ _ | .leaving => .isFalse nofun

def Position.unsent : Position → Nat
  | sending batch offset => batch.count - offset
  | _ => 0

/-- The action interrupts a `sendmmsg` of the worker while the stop flag is
set. -/
def Abandons (state : State config) (index : Fin config.threads) : Action config → Prop
  | .signal => False
  | .worker mover environment =>
      mover = index ∧ (state.workers index).position.isSending ∧ state.stop ∧
        environment.result < 0 ∧ environment.errno = interruptedCall

instance (state : State config) (index : Fin config.threads) (action : Action config) :
    Decidable (Abandons state index action) :=
  match action with
  | .signal => .isFalse id
  | .worker _ _ => inferInstanceAs (Decidable (_ ∧ _ ∧ _ ∧ _ ∧ _))

def abandoned (index : Fin config.threads) (state : State config) (action : Action config) : Nat :=
  if Abandons state index action then (state.workers index).position.unsent else 0

/-- The tallies of a worker that has abandoned `lost` messages so far. -/
structure Reconciled (config : Config) (lost : Nat) (worker : Worker) : Prop where
  tallied : worker.stats.attemptedSends =
    worker.stats.successfulSends + worker.stats.failedSends + worker.position.unsent + lost
  wellFormed : worker.position.WellFormed config
  closed : worker.socketOpen = false →
    worker.stats.successfulSends = 0 ∧ worker.position.isSending = false ∧ lost = 0 ∧
      ∀ count scheduled, worker.position ≠ .allocating count scheduled

theorem Position.WellFormed.unsent_pos {position : Position} (wellFormed : position.WellFormed config)
    (sending : position.isSending) : 0 < position.unsent := by
  cases position with
  | sending batch offset => exact Nat.sub_pos_of_lt wellFormed.2.1
  | _ => cases sending

namespace Reconciled

variable {lost : Nat} {worker : Worker}

theorem move (reconciled : Reconciled config lost worker) {position : Position}
    (idle : worker.position.unsent = 0) (free : position.unsent = 0)
    (wellFormed : position.WellFormed config) (passive : position.isSending = false)
    (closed : worker.socketOpen = false → ∀ count scheduled, position ≠ .allocating count scheduled) :
    Reconciled config lost { worker with position := position } where
  tallied := by
    have tallied := reconciled.tallied
    rw [idle] at tallied
    simpa only [free] using tallied
  wellFormed := wellFormed
  closed := by
    intro shut
    rcases reconciled.closed shut with ⟨none, -, kept, -⟩
    exact ⟨none, passive, kept, closed shut⟩

theorem leave (reconciled : Reconciled config lost worker)
    (position : worker.position = .leaving) :
    Reconciled config lost
      { worker with
        position := .finished, stats := leaveStats worker.socketOpen worker.stats } where
  tallied := by
    have tallied := reconciled.tallied
    rw [position] at tallied
    cases opened : worker.socketOpen with
    | true => simpa [leaveStats, Position.unsent] using tallied
    | false =>
        rcases reconciled.closed opened with ⟨none, -, kept, -⟩
        simp [leaveStats, Position.unsent, none, kept]
  wellFormed := trivial
  closed := by
    intro shut
    rcases reconciled.closed shut with ⟨none, -, kept, -⟩
    dsimp only at shut
    exact ⟨by simpa [leaveStats, shut] using none, rfl, kept, by simp⟩

theorem allocate (reconciled : Reconciled config lost worker) {count scheduled : Nat}
    (position : worker.position = .allocating count scheduled) (batch : Batch)
    (counted : batch.count = count)
    (numbered : batch.messages.map (·.sequence) = List.range' batch.firstSequence batch.count) :
    Reconciled config lost
      { worker with
        position := .sending batch 0
        stats := { worker.stats with attemptedSends := worker.stats.attemptedSends + count } } where
  tallied := by
    have tallied := reconciled.tallied
    rw [position] at tallied
    simp only [Position.unsent, counted] at tallied ⊢
    omega
  wellFormed := by
    have fits := reconciled.wellFormed
    rw [position] at fits
    exact ⟨by rw [counted]; exact fits.2, by rw [counted]; exact fits.1, numbered⟩
  closed := fun shut => absurd position ((reconciled.closed shut).2.2.2 count scheduled)

theorem call (reconciled : Reconciled config lost worker) {batch : Batch} {offset : Nat}
    (position : worker.position = .sending batch offset) {next : Worker} {extra : Nat}
    (attempted : next.stats.attemptedSends = worker.stats.attemptedSends)
    (accounted : next.stats.successfulSends + next.stats.failedSends + next.position.unsent +
      extra = worker.stats.successfulSends + worker.stats.failedSends + (batch.count - offset))
    (wellFormed : next.position.WellFormed config)
    (socketOpen : next.socketOpen = worker.socketOpen) :
    Reconciled config (lost + extra) next where
  tallied := by
    have tallied := reconciled.tallied
    rw [position] at tallied
    simp only [Position.unsent] at tallied
    omega
  wellFormed := wellFormed
  closed := by
    intro shut
    have passive := (reconciled.closed (socketOpen ▸ shut)).2.1
    rw [position] at passive
    cases passive

/-- One `sendmmsg`: every message it takes from the batch is counted, unless the
batch is abandoned. -/
theorem sendStep (reconciled : Reconciled config lost worker) {batch : Batch} {offset : Nat}
    (position : worker.position = .sending batch offset) (window : Window) (index : Nat)
    (stop : Bool) (environment : Environment) :
    let abandons := stop ∧ environment.result < 0 ∧ environment.errno = interruptedCall
    Reconciled config (lost + if abandons then batch.count - offset else 0)
      (Sender.sendStep config window index stop worker batch offset environment) := by
  intro abandons
  have placed := reconciled.wellFormed
  rw [position] at placed
  rcases placed with ⟨fits, inside, numbered⟩
  by_cases positive : 0 < environment.result
  · -- Some messages were sent.
    have kept : ¬abandons := fun holds => absurd holds.2.1 (by omega)
    have within : min environment.result.toNat (batch.count - offset) ≤ batch.count - offset :=
      Nat.min_le_right _ _
    rw [if_neg kept, sendStep_of_pos window index stop worker batch offset positive]
    generalize min environment.result.toNat (batch.count - offset) = sent at within
    dsimp only
    by_cases more : offset + sent < batch.count
    · rw [if_pos more]
      apply reconciled.call position
      · rfl
      · simp only [recordSuccess, Position.unsent]
        omega
      · exact ⟨fits, more, numbered⟩
      · rfl
    · rw [if_neg more]
      apply reconciled.call position
      · rfl
      · simp only [recordSuccess, Worker.advance, Position.unsent]
        omega
      · exact trivial
      · rfl
  · by_cases interrupted : environment.result < 0 ∧ environment.errno = interruptedCall
    · -- The call is repeated or, after a stop, the batch is abandoned.
      rw [sendStep_of_interrupted window index stop worker batch offset interrupted]
      dsimp only
      by_cases stopped : stop = true
      · have lose : abandons := ⟨stopped, interrupted⟩
        rw [if_pos stopped, if_pos lose]
        apply reconciled.call position
        · rfl
        · simp only [Worker.advance, Position.unsent]
          omega
        · exact trivial
        · rfl
      · have kept : ¬abandons := fun holds => stopped holds.1
        rw [if_neg stopped, if_neg kept]
        apply reconciled.call position
        · rfl
        · simp only [position, Position.unsent]
          omega
        · exact reconciled.wellFormed
        · rfl
    · -- The rest of the batch is counted as failed.
      have kept : ¬abandons := fun holds => interrupted holds.2
      rcases sendStep_of_failed window index stop worker batch offset positive interrupted inside
        with ⟨reported, failed⟩
      rw [if_neg kept, failed]
      apply reconciled.call position
      · rfl
      · simp only [Worker.advance, Position.unsent]
        omega
      · exact trivial
      · rfl

end Reconciled

section Steps

variable {state : State config} {lost : Nat}

private theorem abandoned_of_ne {index mover : Fin config.threads} (other : mover ≠ index)
    (environment : Environment) : abandoned index state (.worker mover environment) = 0 :=
  if_neg fun abandons => other abandons.1

theorem abandoned_of_passive {index : Fin config.threads}
    (passive : (state.workers index).position.isSending = false) (action : Action config) :
    abandoned index state action = 0 := by
  apply if_neg
  intro abandons
  cases action with
  | signal => exact abandons
  | worker mover environment =>
      have sending := abandons.2.1
      rw [passive] at sending
      cases sending

private theorem workerStep_reconciled {index : Fin config.threads}
    (reconciled : Reconciled config lost (state.workers index)) (host : Endianness)
    (window : Window) (environment : Environment) :
    Reconciled config (lost + abandoned index state (.worker index environment))
      ((workerStep host config window state index environment).1.workers index) := by
  cases position : (state.workers index).position with
  | checking =>
      have idle : (state.workers index).position.unsent = 0 := by rw [position]; rfl
      rw [abandoned_of_passive (by rw [position]; rfl), Nat.add_zero]
      simp only [workerStep, position]
      by_cases wants : wantsBatch config window (state.workers index) state.stop environment.now
      · simp only [if_pos wants, Function.update_self]
        have opened : (state.workers index).socketOpen ≠ false := by
          intro shut
          simp [wantsBatch, shut] at wants
        by_cases none : (chooseBatch config window (state.workers index).packetIndex).1 = 0
        · rw [if_pos none]
          exact reconciled.move idle rfl trivial rfl (by simp)
        · rw [if_neg none]
          exact reconciled.move idle rfl
            ⟨Nat.pos_of_ne_zero none, chooseBatch_le config window _⟩ rfl
            fun shut => absurd shut opened
      · simp only [if_neg wants, Function.update_self]
        exact reconciled.move idle rfl trivial rfl (by simp)
  | allocating count scheduled =>
      rw [abandoned_of_passive (by rw [position]; rfl), Nat.add_zero]
      simp only [workerStep, position, Function.update_self]
      exact reconciled.allocate position _ rfl (encodeBatch_sequences host config _ count _)
  | sending batch offset =>
      have step := reconciled.sendStep position window index state.stop environment
      simp only [workerStep, position, Function.update_self]
      convert step using 2
      simp [abandoned, Abandons, position, Position.isSending, Position.unsent]
  | leaving =>
      rw [abandoned_of_passive (by rw [position]; rfl), Nat.add_zero]
      simp only [workerStep, position, Function.update_self]
      exact reconciled.leave position
  | finished =>
      rw [abandoned_of_passive (by rw [position]; rfl), Nat.add_zero]
      simp only [workerStep, position]
      exact reconciled

end Steps

/-- What a worker has abandoned is exactly what its tallies miss. -/
theorem run_reconciled (host : Endianness) (config : Config) (window : Window)
    (connect : Fin config.threads → Option Nat) (schedule : List (Action config))
    (index : Fin config.threads) :
    Reconciled config
      ((machine host config window).charged (abandoned index) (start config connect) schedule)
      (((machine host config window).run (start config connect) schedule).1.workers index) := by
  apply (machine host config window).run_charged (abandoned index)
    fun lost state => Reconciled config lost (state.workers index)
  · intro lost state action reconciled
    cases action with
    | signal =>
        have free : abandoned index state .signal = 0 := if_neg id
        rw [free]
        exact reconciled
    | worker mover environment =>
        by_cases same : mover = index
        · subst same
          exact workerStep_reconciled reconciled host window environment
        · rw [abandoned_of_ne same]
          change Reconciled config lost
            ((workerStep host config window state mover environment).1.workers index)
          rw [(workerStep_frame host window state mover environment).2 index (Ne.symm same)]
          exact reconciled
  · exact {
      tallied := rfl
      wellFormed := trivial
      closed := fun _ => ⟨rfl, rfl, rfl, nofun⟩ }

section Runs

variable (host : Endianness) (config : Config) (window : Window)
  (connect : Fin config.threads → Option Nat) (schedule : List (Action config))

def NeverAbandons (index : Fin config.threads) : Prop :=
  ∀ before action after, schedule = before ++ action :: after →
    ¬Abandons ((machine host config window).run (start config connect) before).1 index action

theorem neverAbandons_iff (index : Fin config.threads) :
    NeverAbandons host config window connect schedule index ↔
      (machine host config window).charged (abandoned index) (start config connect) schedule = 0 := by
  rw [Machine.charged_eq_zero_iff]
  refine forall_congr' fun before => forall_congr' fun action => forall_congr' fun after =>
    imp_congr_right fun _ => ?_
  have reconciled := run_reconciled host config window connect before index
  rw [abandoned, ite_eq_right_iff]
  constructor
  · exact fun never abandons => absurd abandons never
  · intro free abandons
    have sending : (((machine host config window).run (start config connect)
        before).1.workers index).position.isSending = true := by
      cases action with
      | signal => exact absurd abandons id
      | worker mover environment => exact abandons.2.1
    have some := reconciled.wellFormed.unsent_pos sending
    have none := free abandons
    omega

theorem attempts_of_finished {index : Fin config.threads} :
    let worker := ((machine host config window).run (start config connect) schedule).1.workers index
    worker.position = .finished → worker.stats.attemptedSends =
      worker.stats.successfulSends + worker.stats.failedSends +
        (machine host config window).charged (abandoned index) (start config connect)
          schedule := by
  intro worker done
  have tallied := (run_reconciled host config window connect schedule index).tallied
  rw [show Worker.position _ = _ from done] at tallied
  exact tallied

/-- A worker that has left `run_worker` reports attempts that equal its successes
plus its failures exactly when it has abandoned no batch. -/
theorem worker_reconciles_iff {index : Fin config.threads} :
    let worker := ((machine host config window).run (start config connect) schedule).1.workers index
    worker.position = .finished →
      (worker.stats.attemptedSends = worker.stats.successfulSends + worker.stats.failedSends ↔
        NeverAbandons host config window connect schedule index) := by
  intro worker done
  rw [neverAbandons_iff, attempts_of_finished host config window connect schedule done,
    Nat.add_eq_left]

theorem totals_reconcile_iff :
    let outcome := (machine host config window).run (start config connect) schedule
    (∀ index, (outcome.1.workers index).position = .finished) →
      (outcome.1.stats.attemptedSends =
          outcome.1.stats.successfulSends + outcome.1.stats.failedSends ↔
        ∀ index, NeverAbandons host config window connect schedule index) := by
  intro outcome done
  have attempted : outcome.1.stats.attemptedSends =
      ∑ index, (outcome.1.workers index).stats.attemptedSends :=
    State.stats_sum (·.attemptedSends) (fun _ _ => rfl) rfl outcome.1
  have successful : outcome.1.stats.successfulSends =
      ∑ index, (outcome.1.workers index).stats.successfulSends :=
    State.stats_sum (·.successfulSends) (fun _ _ => rfl) rfl outcome.1
  have failed : outcome.1.stats.failedSends =
      ∑ index, (outcome.1.workers index).stats.failedSends :=
    State.stats_sum (·.failedSends) (fun _ _ => rfl) rfl outcome.1
  have total := Finset.sum_congr rfl fun index (_ : index ∈ Finset.univ) =>
    attempts_of_finished host config window connect schedule (done index)
  rw [Finset.sum_add_distrib, Finset.sum_add_distrib, ← attempted, ← successful, ← failed] at total
  rw [total, Nat.add_eq_left, Finset.sum_eq_zero_iff]
  simp only [Finset.mem_univ, true_implies]
  exact forall_congr' fun index =>
    (neverAbandons_iff host config window connect schedule index).symm

/-- What the tallies of each worker and those of the whole run say. -/
theorem attempts_reconcile_iff :
    let outcome := (machine host config window).run (start config connect) schedule
    let worker := fun index => (outcome.1.workers index).stats
    let never := NeverAbandons host config window connect schedule
    (∀ index, (outcome.1.workers index).position = .finished →
      ((worker index).attemptedSends =
          (worker index).successfulSends + (worker index).failedSends ↔ never index)) ∧
      ((∀ index, (outcome.1.workers index).position = .finished) →
        (outcome.1.stats.attemptedSends =
          outcome.1.stats.successfulSends + outcome.1.stats.failedSends ↔
            ∀ index, never index)) :=
  ⟨fun _ => worker_reconciles_iff host config window connect schedule,
    totals_reconcile_iff host config window connect schedule⟩

end Runs

/-- The first worker is stopped before it repeats an interrupted call, the second
before its first batch. -/
theorem interrupted_sender_does_not_reconcile :
    let first : Fin pairConfig.threads := ⟨0, by decide⟩
    let second : Fin pairConfig.threads := ⟨1, by decide⟩
    let outcome := (machine .little pairConfig ⟨0, 100, 8⟩).run (start pairConfig fun _ => none)
      [.worker first (answer 0 0), .worker first (answer 0 0), .signal,
        .worker first (answer (-1) 4), .worker first (answer 0 0), .worker first (answer 0 0),
        .worker second (answer 0 0), .worker second (answer 0 0)]
    let stats := (outcome.1.workers first).stats
    ((outcome.1.workers first).position = .finished ∧
        (outcome.1.workers second).position = .finished) ∧
      (stats.attemptedSends = 2 ∧ stats.successfulSends = 0 ∧ stats.failedSends = 0) ∧
      outcome.1.stats.attemptedSends ≠
        outcome.1.stats.successfulSends + outcome.1.stats.failedSends := by
  exact ⟨⟨rfl, rfl⟩, by decide, by decide⟩

end NetLatencyLab.Sender
