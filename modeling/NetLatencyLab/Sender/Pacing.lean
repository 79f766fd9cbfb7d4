import NetLatencyLab.Sender.AdaptiveBatch
import NetLatencyLab.Sender.Coverage

/-! # Paced workers

The sender with the clock that every thread reads, and with `pace_until` between
the choice of a batch and its sequence range. Its runs are runs of the sender
whose clock readings only grow. -/

namespace NetLatencyLab.Sender

/-- A call of `sendmmsg` that sent something. -/
structure Call where
  worker : Nat
  /-- The stop flag is set. -/
  stopped : Bool
  invocation : Nat
  /-- The deadline that `pace_until` was given for the batch. -/
  waited : Nat
  /-- Of the first packet of the batch. -/
  packetIndex : Nat
  /-- Packets of the batch sent before. -/
  offset : Nat
  successful : Nat
deriving DecidableEq

structure PacedState (config : Config) where
  sender : State config
  clock : Nat
  /-- The worker is in `pace_until`. -/
  pacing : Fin config.threads → Bool

inductive PacedAction (config : Config) where
  | elapse (ns : Nat)
  | signal
  | worker (index : Fin config.threads) (environment : Environment)

/-- The deadline of `pace_until`. -/
def Position.deadline : Position → Nat
  | .allocating _ scheduled => scheduled
  | _ => 0

/-- `pace_until` is called: the worker has chosen a batch, and not to flood. -/
def entersPace (config : Config) (before after : Position) : Bool :=
  match before, after with
  | .checking, .allocating _ _ => config.mode ≠ .flood
  | _, _ => false

def callOf (index clock : Nat) (stop : Bool) (worker : Worker) (environment : Environment) :
    List Call :=
  match worker.position with
  | .sending batch offset =>
      let outcome :=
        classifySendmmsgResult environment.result environment.errno (batch.count - offset)
      if 0 < outcome.successful then
        [{ worker := index
           stopped := stop
           invocation := clock
           waited := batch.scheduled
           packetIndex := worker.packetIndex
           offset := offset
           successful := outcome.successful }]
      else []
  | _ => []

section Steps

variable (host : Endianness) (config : Config) (window : Window)

def pacedWorkerStep (state : PacedState config) (index : Fin config.threads)
    (environment : Environment) : PacedState config × List Call :=
  let worker := state.sender.workers index
  if state.pacing index then
    -- One pass of the loop in `pace_until`.
    if worker.position.deadline ≤ state.clock ∨ state.sender.stop then
      ({ state with pacing := Function.update state.pacing index false }, [])
    else (state, [])
  else
    let environment := { environment with now := state.clock, invocation := state.clock }
    let next := (workerStep host config window state.sender index environment).1
    let enters := entersPace config worker.position (next.workers index).position
    ({ state with sender := next, pacing := Function.update state.pacing index enters },
      callOf index state.clock state.sender.stop worker environment)

def pacedStep (state : PacedState config) : PacedAction config → PacedState config × List Call
  | .elapse ns => ({ state with clock := state.clock + ns }, [])
  | .signal => ({ state with sender := { state.sender with stop := true } }, [])
  | .worker index environment => pacedWorkerStep host config window state index environment

def pacedMachine : Machine (PacedState config) (PacedAction config) Call where
  step := pacedStep host config window

end Steps

def pacedStart (config : Config) (connect : Fin config.threads → Option Nat) (clock : Nat) :
    PacedState config where
  sender := start config connect
  clock := clock
  pacing := fun _ => false

/-! ## Runs of the sender -/

section

variable {host : Endianness} {config : Config} {window : Window}

theorem exists_plain_run (connect : Fin config.threads → Option Nat) (clock : Nat)
    (schedule : List (PacedAction config)) :
    ∃ plain, ((machine host config window).run (start config connect) plain).1 =
      ((pacedMachine host config window).run (pacedStart config connect clock) schedule).1.sender := by
  apply (pacedMachine host config window).run_invariant fun _ state =>
    ∃ plain, ((machine host config window).run (start config connect) plain).1 = state.sender
  · exact ⟨[], rfl⟩
  · intro _ state action reached
    rcases reached with ⟨plain, reached⟩
    have append : ∀ action, ((machine host config window).run (start config connect)
        (plain ++ [action])).1 = (step host config window state.sender action).1 := by
      intro action
      rw [Machine.run_concat, reached]
      rfl
    cases action with
    | elapse ns => exact ⟨plain, reached⟩
    | signal => exact ⟨_, append .signal⟩
    | worker index environment =>
        change ∃ plain, ((machine host config window).run (start config connect) plain).1 =
          (pacedWorkerStep host config window state index environment).1.sender
        rw [pacedWorkerStep]
        split
        · split
          · exact ⟨plain, reached⟩
          · exact ⟨plain, reached⟩
        · exact ⟨_, append (.worker index _)⟩

/-! ## What a worker waits for -/

def Chosen (config : Config) (window : Window) (packetIndex count scheduled : Nat) : Prop :=
  packetIndex < window.packetLimit ∧ chooseBatch config window packetIndex = (count, scheduled)

def Due (stop : Bool) (clock scheduled : Nat) : Prop := stop ∨ scheduled ≤ clock

def Worker.Paced (config : Config) (window : Window) (stop : Bool) (clock : Nat) (pacing : Bool)
    (worker : Worker) : Prop :=
  match worker.position with
  | .allocating count scheduled =>
      Chosen config window worker.packetIndex count scheduled ∧
        (pacing = false → Due stop clock scheduled)
  | .sending batch offset =>
      Chosen config window worker.packetIndex batch.count batch.scheduled ∧ offset < batch.count ∧
        Due stop clock batch.scheduled
  | _ => True

structure Call.Sound (config : Config) (window : Window) (call : Call) : Prop where
  chosen : ∃ count, Chosen config window call.packetIndex count call.waited ∧
    call.offset + call.successful ≤ count
  some : 0 < call.successful
  due : Due call.stopped call.invocation call.waited

theorem Due.mono {stop later : Bool} {clock after scheduled : Nat} (due : Due stop clock scheduled)
    (stays : stop → later) (ordered : clock ≤ after) : Due later after scheduled := by
  rcases due with stopped | reached
  · exact Or.inl (stays stopped)
  · exact Or.inr (reached.trans ordered)

theorem Worker.Paced.mono {stop later : Bool} {clock after : Nat} {pacing : Bool} {worker : Worker}
    (paced : worker.Paced config window stop clock pacing) (stays : stop → later)
    (ordered : clock ≤ after) : worker.Paced config window later after pacing := by
  rw [Worker.Paced] at paced ⊢
  cases position : worker.position with
  | allocating count scheduled =>
      simp only [position] at paced ⊢
      exact ⟨paced.1, fun free => (paced.2 free).mono stays ordered⟩
  | sending batch offset =>
      simp only [position] at paced ⊢
      exact ⟨paced.1, paced.2.1, paced.2.2.mono stays ordered⟩
  | checking => trivial
  | leaving => trivial
  | finished => trivial

private theorem successful_le (result : Int) (error requested : Nat) :
    (classifySendmmsgResult result error requested).successful ≤ requested := by
  rw [classifySendmmsgResult]
  split
  · exact Nat.min_le_right _ _
  · split
    · exact Nat.zero_le _
    · exact Nat.zero_le _

private theorem workerStep_paced (host : Endianness) {state : State config} {clock : Nat}
    (paced : config.mode ≠ .flood) (index : Fin config.threads) (environment : Environment)
    (worker : (state.workers index).Paced config window state.stop clock false) :
    let next := (workerStep host config window state index environment).1.workers index
    next.Paced config window state.stop clock
      (entersPace config (state.workers index).position next.position) := by
  rw [Worker.Paced] at worker
  cases position : (state.workers index).position with
  | checking =>
      simp only [workerStep, position]
      split
      next wants =>
        have left : (state.workers index).packetIndex < window.packetLimit := by
          simpa [wantsBatch, paced] using (Bool.and_eq_true_iff.mp wants).2
        have positive := (chooseBatch_bounds paced left).1
        simp only [if_neg (Nat.ne_of_gt positive), Function.update_self, Worker.Paced, entersPace]
        exact ⟨⟨left, rfl⟩, fun free => absurd free (by simp [paced])⟩
      · simp [Worker.Paced]
  | allocating count scheduled =>
      simp only [position] at worker
      rcases worker with ⟨chosen, due⟩
      have positive := (chooseBatch_bounds paced chosen.1).1
      rw [chosen.2] at positive
      simp only [workerStep, position, Function.update_self, Worker.Paced]
      exact ⟨chosen, positive, due trivial⟩
  | sending batch offset =>
      simp only [position] at worker
      rcases worker with ⟨chosen, within, due⟩
      simp only [workerStep, position, Function.update_self]
      rcases sendStep_cases window index state.stop position environment with
        ⟨same, reached, stays, kept⟩ | ⟨_, done⟩
      · have inside : reached < batch.count := by
          rcases kept with still | more
          · rw [still]
            exact within
          · exact more
        rw [Worker.Paced, stays]
        simp only [same]
        exact ⟨chosen, inside, due⟩
      · rw [Worker.Paced, done]
        trivial
  | leaving => simp [workerStep, position, Worker.Paced]
  | finished =>
      simp only [workerStep, position, Worker.Paced]

theorem callOf_of_pos (index clock : Nat) (stop : Bool) {worker : Worker} {batch : Batch}
    {offset : Nat} (position : worker.position = .sending batch offset)
    (within : offset < batch.count) {environment : Environment}
    (positive : 0 < environment.result) :
    callOf index clock stop worker environment =
      [{ worker := index
         stopped := stop
         invocation := clock
         waited := batch.scheduled
         packetIndex := worker.packetIndex
         offset := offset
         successful := min environment.result.toNat (batch.count - offset) }] := by
  have some : 0 < min environment.result.toNat (batch.count - offset) := by omega
  simp only [callOf, position, classifySendmmsgResult_of_pos positive, some, if_true]

theorem callOf_of_nonpos (index clock : Nat) (stop : Bool) {worker : Worker} {batch : Batch}
    {offset : Nat} (position : worker.position = .sending batch offset)
    {environment : Environment} (nonpositive : ¬0 < environment.result) :
    callOf index clock stop worker environment = [] := by
  rcases classifySendmmsgResult_of_nonpos nonpositive environment.errno (batch.count - offset) with
    retried | ⟨reported, failed⟩
  · simp [callOf, position, retried]
  · simp [callOf, position, failed]

private theorem callOf_sound {index : Nat} {clock : Nat} {stop : Bool} {worker : Worker}
    (paced : worker.Paced config window stop clock false) (environment : Environment) :
    ∀ call ∈ callOf index clock stop worker environment, call.Sound config window := by
  intro call member
  rw [Worker.Paced] at paced
  rw [callOf] at member
  split at member
  next batch offset position =>
    simp only [position] at paced
    rcases paced with ⟨chosen, within, due⟩
    simp only at member
    split at member
    next positive =>
      have same := List.mem_singleton.mp member
      subst same
      refine ⟨⟨batch.count, chosen, ?_⟩, positive, due⟩
      have bounded := successful_le environment.result environment.errno (batch.count - offset)
      simp only
      omega
    · cases member
  · cases member

structure PacedInvariant (config : Config) (window : Window) (history : List Call)
    (state : PacedState config) : Prop where
  workers : ∀ index, (state.sender.workers index).Paced config window state.sender.stop state.clock
    (state.pacing index)
  calls : ∀ call ∈ history, call.Sound config window

theorem pacedStart_invariant (connect : Fin config.threads → Option Nat) (clock : Nat) :
    PacedInvariant config window [] (pacedStart config connect clock) where
  workers := fun _ => trivial
  calls := nofun

theorem PacedInvariant.worker {history : List Call} {state : PacedState config}
    (invariant : PacedInvariant config window history state) (paced : config.mode ≠ .flood)
    (index : Fin config.threads) (environment : Environment) :
    PacedInvariant config window
      (history ++ (pacedWorkerStep host config window state index environment).2)
      (pacedWorkerStep host config window state index environment).1 := by
  have worker := invariant.workers index
  rw [pacedWorkerStep]
  by_cases waiting : state.pacing index
  · rw [if_pos waiting]
    split
    next due =>
      refine ⟨?_, by simpa using invariant.calls⟩
      intro other
      by_cases same : other = index
      · subst same
        rw [Worker.Paced] at worker ⊢
        cases position : (state.sender.workers other).position with
        | allocating count scheduled =>
            simp only [position] at worker ⊢
            rw [position, Position.deadline] at due
            exact ⟨worker.1, fun _ => due.symm⟩
        | sending batch offset =>
            simp only [position] at worker ⊢
            exact worker
        | checking => trivial
        | leaving => trivial
        | finished => trivial
      · simp only [Function.update_of_ne same]
        exact invariant.workers other
    · exact ⟨invariant.workers, by simpa using invariant.calls⟩
  · have free : state.pacing index = false := by simpa using waiting
    rw [free] at worker
    rw [if_neg waiting]
    have frame := workerStep_frame host window state.sender index
      { environment with now := state.clock, invocation := state.clock }
    have next := workerStep_paced host paced index
      { environment with now := state.clock, invocation := state.clock } worker
    constructor
    · intro other
      simp only [frame.1]
      by_cases same : other = index
      · subst same
        rw [Function.update_self]
        exact next
      · rw [Function.update_of_ne same, frame.2 other same]
        exact invariant.workers other
    · intro call member
      rcases List.mem_append.mp member with old | new
      · exact invariant.calls call old
      · exact callOf_sound worker _ call new

theorem PacedInvariant.step {history : List Call} {state : PacedState config}
    (invariant : PacedInvariant config window history state) (paced : config.mode ≠ .flood)
    (action : PacedAction config) :
    PacedInvariant config window
      (history ++ ((pacedMachine host config window).step state action).2)
      ((pacedMachine host config window).step state action).1 := by
  cases action with
  | elapse ns =>
      refine ⟨?_, by simpa [pacedMachine, pacedStep] using invariant.calls⟩
      exact fun index => (invariant.workers index).mono id (Nat.le_add_right _ _)
  | signal =>
      refine ⟨?_, by simpa [pacedMachine, pacedStep] using invariant.calls⟩
      exact fun index => (invariant.workers index).mono (fun _ => rfl) (Nat.le_refl _)
  | worker index environment => exact invariant.worker paced index environment

private theorem run_paced (window : Window) (host : Endianness) (paced : config.mode ≠ .flood)
    (connect : Fin config.threads → Option Nat) (clock : Nat)
    (schedule : List (PacedAction config)) :
    let outcome := (pacedMachine host config window).run (pacedStart config connect clock) schedule
    PacedInvariant config window outcome.2 outcome.1 :=
  (pacedMachine host config window).run_invariant (PacedInvariant config window)
    (pacedStart_invariant connect clock) (fun _ _ action invariant => invariant.step paced action)
    schedule

end

/-! ## Steady batches -/

section

variable {startNs first other ratePps windowNs : Nat}

theorem deadlineNs_le_add (fits : startNs < 2 ^ 64)
    (near : other * nanosecondsPerSecond / ratePps ≤
      first * nanosecondsPerSecond / ratePps + windowNs) :
    deadlineNs startNs other ratePps ≤ deadlineNs startNs first ratePps + windowNs := by
  rw [deadlineNs, deadlineNs]
  generalize other * nanosecondsPerSecond / ratePps = late at near ⊢
  generalize first * nanosecondsPerSecond / ratePps = early at near ⊢
  split
  · split
    · omega
    · omega
  · split
    · omega
    · omega

theorem deadlineNs_mono (fits : startNs < 2 ^ 64) (ordered : first ≤ other) (ratePps : Nat) :
    deadlineNs startNs first ratePps ≤ deadlineNs startNs other ratePps := by
  have near := offset_le_offset ordered ratePps
  rw [← Nat.add_zero (other * nanosecondsPerSecond / ratePps)] at near
  have close := deadlineNs_le_add fits near
  rw [Nat.add_zero] at close
  exact close

end

/-- The packets of a call in steady mode. -/
structure Call.Steady (config : Config) (startNs : Nat) (call : Call) : Prop where
  /-- Not before the first deadline of the batch. -/
  batch : deadlineNs startNs call.packetIndex config.ratePps ≤ call.invocation
  /-- At most the window before the deadline of the packet. -/
  packet : ∀ offset, call.offset ≤ offset → offset < call.offset + call.successful →
    deadlineNs startNs (call.packetIndex + offset * config.threads) config.ratePps ≤
      call.invocation + config.batchWindowUs * 1000

theorem Call.Sound.steady {config : Config} {startNs : Nat} {call : Call}
    (sound : call.Sound config (config.window startNs)) (steady : config.mode = .steady)
    (fits : startNs < 2 ^ 64) (running : call.stopped = false) : call.Steady config startNs := by
  rcases sound.chosen with ⟨count, ⟨left, chosen⟩, within⟩
  simp only [chooseBatch, steady, Prod.mk.injEq] at chosen
  rcases chosen with ⟨size, deadline⟩
  have due : call.waited ≤ call.invocation := by
    rcases sound.due with stopped | due
    · rw [running] at stopped
      cases stopped
    · exact due
  rw [← deadline] at due
  refine ⟨due, ?_⟩
  intro offset _ inside
  have admits : Admits call.packetIndex (config.window startNs).packetLimit config.threads
      config.ratePps (config.batchWindowUs * 1000) count :=
    size ▸ (adaptiveBatchCount_isGreatest left config.threadRange.1 config.batchRange.1).1.2
  have near := deadlineNs_le_add fits (admits offset (by omega)).2
  exact near.trans (Nat.add_le_add_right due _)

/-- The size of a batch, which the worker takes, is the largest that the limit,
the maximum and the window allow, computed without wrapping, and steady packets
leave at most the window before their deadlines. -/
theorem adaptive_batches (firstPacketIndex packetLimit packetStride ratePps batchWindowNs : UInt64)
    (batchMax : UInt32) (left : firstPacketIndex < packetLimit) (striding : 1 ≤ packetStride)
    (_positive : 1 ≤ ratePps) (room : 1 ≤ batchMax) :
    IsGreatest {count | (1 ≤ count ∧ count ≤ batchMax.toNat) ∧
        Admits firstPacketIndex.toNat packetLimit.toNat packetStride.toNat ratePps.toNat
          batchWindowNs.toNat count}
      (adaptiveBatchCountWide firstPacketIndex.toNat packetLimit.toNat packetStride.toNat
        ratePps.toNat batchWindowNs.toNat batchMax.toNat) ∧
    adaptiveBatchCountWide firstPacketIndex.toNat packetLimit.toNat packetStride.toNat
        ratePps.toNat batchWindowNs.toNat batchMax.toNat =
      adaptiveBatchCount firstPacketIndex.toNat packetLimit.toNat packetStride.toNat
        ratePps.toNat batchWindowNs.toNat batchMax.toNat ∧
    (∀ count < batchMax.toNat, FitsWide firstPacketIndex.toNat packetLimit.toNat
      packetStride.toNat ratePps.toNat count) ∧
    ∀ (host : Endianness) (config : Config) (startNs : UInt64)
      (connect : Fin config.threads → Option Nat) (clock : Nat)
      (schedule : List (PacedAction config)), config.mode = .steady →
      ∀ call ∈ ((pacedMachine host config (config.window startNs.toNat)).run
        (pacedStart config connect clock) schedule).2,
          call.stopped = false → call.Steady config startNs.toNat := by
  have narrow : adaptiveBatchCountWide _ _ _ ratePps.toNat batchWindowNs.toNat _ = _ :=
    adaptiveBatchCountWide_eq firstPacketIndex.toNat_lt packetLimit.toNat_lt
      packetStride.toNat_lt batchMax.toNat_lt
  refine ⟨?_, narrow, ?_, ?_⟩
  · rw [narrow]
    exact adaptiveBatchCount_isGreatest left striding room
  · intro count small
    exact fitsWide firstPacketIndex.toNat_lt packetLimit.toNat_lt packetStride.toNat_lt
      ratePps.toNat (small.trans batchMax.toNat_lt)
  · intro host config startNs connect clock schedule steady call member running
    have paced : config.mode ≠ .flood := by
      rw [steady]
      nofun
    have invariant := run_paced (config.window startNs.toNat) host paced connect clock schedule
    exact (invariant.calls call member).steady steady startNs.toNat_lt running

/-- Ten packets at 950000 per second are due within ten microseconds. -/
theorem adaptive_batches_of_ten :
    (1 ≤ 10 ∧ 10 ≤ 64) ∧ Admits 0 1000 1 950000 10000 10 ∧ ¬ Admits 0 1000 1 950000 10000 11 := by
  have size : adaptiveBatchCountWide 0 1000 1 950000 10000 64 = 10 := by decide
  have greatest := (adaptive_batches 0 1000 1 950000 10000 64 (by decide) (by decide) (by decide)
    (by decide)).1
  have reduced : IsGreatest {count | (1 ≤ count ∧ count ≤ 64) ∧
      Admits 0 1000 1 950000 10000 count} 10 := size ▸ greatest
  refine ⟨reduced.1.1, reduced.1.2, ?_⟩
  intro more
  exact absurd (reduced.2 ⟨by decide, more⟩) (by decide)

end NetLatencyLab.Sender
