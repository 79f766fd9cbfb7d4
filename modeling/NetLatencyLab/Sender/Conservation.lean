import NetLatencyLab.Foundation.Tickets
import NetLatencyLab.Sender.Internal.WorkerAccounting

/-! # The books of all workers

Sequence numbers are drawn once and sent at most once, and the tallies that
`main` adds up describe exactly what is on the wire. -/

namespace NetLatencyLab.Sender

open Family (gather gather_gain sum_update)

structure Conserved (config : Config) (history : List Event) (state : State config) : Prop where
  partitioned : (allocations history).flatMap drawnNumbers = List.range state.nextSequence
  tickets : Tickets state.nextSequence (Worker.outstanding ∘ state.workers)
    ((wire history).map (·.sequence))
  attempted : ∑ index, (state.workers index).stats.attemptedSends = state.nextSequence
  successful : ∑ index, (state.workers index).stats.successfulSends = (wire history).length
  traced : config.tracing →
    ((gather ((·.stats.trace) ∘ state.workers)).flatMap TraceRecord.numbers).Perm
      ((wire history).map (·.sequence))
  balanced : ∀ index, Balanced config (state.workers index).stats
  wellFormed : ∀ index, (state.workers index).position.WellFormed config
  opened : ∀ index, (state.workers index).socketOpen = true

variable {host : Endianness} {config : Config} {window : Window} {history : List Event}
  {state : State config}

theorem start_conserved {connect : Fin config.threads → Option Nat}
    (opened : ∀ index, connect index = none) : Conserved config [] (start config connect) where
  partitioned := rfl
  tickets := .start fun _ => rfl
  attempted := by simp [start]
  successful := by simp [start, wire]
  traced := fun _ => by simp [start, gather, wire, Function.comp_def]
  balanced := fun index => .zero ⟨(connect index).getD 0, rfl⟩
  wellFormed := fun _ => trivial
  opened := fun index => by simp [start, opened index]

theorem wire_map_sent (transmissions : List Transmission) :
    wire (transmissions.map .sent) = transmissions := by
  induction transmissions with
  | nil => rfl
  | cons transmission transmissions induction => exact congrArg _ induction

private theorem allocations_map_sent (transmissions : List Transmission) :
    allocations (transmissions.map .sent) = [] := by
  induction transmissions with
  | nil => rfl
  | cons transmission transmissions induction => exact induction

theorem encodeBatch_sequences (host : Endianness) (config : Config) (firstSequence count : Nat)
    (realNs : Nat → UInt64) :
    (encodeBatch host config firstSequence count realNs).map (·.sequence) =
      List.range' firstSequence count := by
  rw [encodeBatch, List.map_map, List.range'_eq_map_range]
  rfl

theorem wire_append (first second : List Event) :
    (wire (first ++ second)).map (·.sequence) =
      (wire first).map (·.sequence) ++ (wire second).map (·.sequence) := by
  rw [wire, List.filterMap_append, List.map_append]
  rfl

theorem Conserved.step (conserved : Conserved config history state)
    (index : Fin config.threads) (drawn : Nat) {next : Worker} {events : List Event}
    (partitioned : (allocations (history ++ events)).flatMap drawnNumbers =
      List.range (state.nextSequence + drawn))
    (tickets : Tickets (state.nextSequence + drawn)
      (Function.update (Worker.outstanding ∘ state.workers) index next.outstanding)
      ((wire history).map (·.sequence) ++ (wire events).map (·.sequence)))
    (contributes : Contributes config (state.workers index) next drawn
      ((wire events).map (·.sequence))) :
    Conserved config (history ++ events)
      { state with
        nextSequence := state.nextSequence + drawn
        workers := Function.update state.workers index next } where
  partitioned := partitioned
  tickets := by
    rw [Function.comp_update, wire_append]
    exact tickets
  attempted := by
    have sum := sum_update (·.stats.attemptedSends) state.workers index next
    have gained := contributes.attempted
    have before := conserved.attempted
    dsimp only
    omega
  successful := by
    have sum := sum_update (·.stats.successfulSends) state.workers index next
    have gained := contributes.successful
    have before := conserved.successful
    rw [List.length_map] at gained
    rw [wire, List.filterMap_append, List.length_append, ← wire, ← wire]
    dsimp only
    omega
  traced := by
    intro tracing
    rcases contributes.traced tracing with ⟨records, extended, numbers⟩
    have gained := gather_gain ((·.stats.trace) ∘ state.workers) index records
    rw [Function.comp_update, extended, wire_append, ← numbers]
    refine (gained.flatMap_right TraceRecord.numbers).trans ?_
    rw [List.flatMap_append]
    exact (conserved.traced tracing).append_right _
  balanced := by
    rw [Function.forall_update_iff state.workers fun _ worker => Balanced config worker.stats]
    exact ⟨contributes.balanced, fun other _ => conserved.balanced other⟩
  wellFormed := by
    rw [Function.forall_update_iff state.workers fun _ worker =>
      worker.position.WellFormed config]
    exact ⟨contributes.wellFormed, fun other _ => conserved.wellFormed other⟩
  opened := by
    rw [Function.forall_update_iff state.workers fun _ worker => worker.socketOpen = true]
    exact ⟨contributes.socketOpen.trans (conserved.opened index),
      fun other _ => conserved.opened other⟩

theorem Conserved.proceed (conserved : Conserved config history state)
    (index : Fin config.threads) {next : Worker} {events : List Event} {rest : List Nat}
    (quiet : allocations events = [])
    (contributes : Contributes config (state.workers index) next 0
      ((wire events).map (·.sequence)))
    (split : (state.workers index).outstanding = (wire events).map (·.sequence) ++ rest)
    (kept : next.outstanding = rest ∨ next.outstanding = []) :
    Conserved config (history ++ events)
      { state with workers := Function.update state.workers index next } := by
  refine conserved.step index 0 ?_ ?_ contributes
  · rw [allocations, List.filterMap_append, ← allocations, ← allocations, quiet, List.append_nil]
    exact conserved.partitioned
  · have released := conserved.tickets.release index split
    rcases kept with remaining | nothing
    · rw [remaining]
      exact released
    · have dropped := released.giveUp index
      rw [Function.update_idem] at dropped
      rw [nothing]
      exact dropped

theorem Conserved.move (conserved : Conserved config history state)
    (index : Fin config.threads) {position : Position} {events : List Event}
    (quiet : allocations events = []) (silent : wire events = [])
    (idle : (state.workers index).outstanding = [])
    (wellFormed : position.WellFormed config)
    (free : { state.workers index with position := position }.outstanding = []) :
    Conserved config (history ++ events)
      { state with
        workers := Function.update state.workers index
          { state.workers index with position := position } } := by
  have contributes : Contributes config (state.workers index)
      { state.workers index with position := position } 0 ((wire events).map (·.sequence)) := by
    rw [silent]
    exact .move (conserved.balanced index) wellFormed _
  exact conserved.proceed index quiet contributes (by rw [idle, silent]; rfl) (.inl free)

theorem workerStep_conserved (conserved : Conserved config history state)
    (index : Fin config.threads) (environment : Environment) :
    Conserved config (history ++ (workerStep host config window state index environment).2)
      (workerStep host config window state index environment).1 := by
  have balanced := conserved.balanced index
  have wellFormed := conserved.wellFormed index
  cases position : (state.workers index).position with
  | checking =>
      have idle : (state.workers index).outstanding = [] := by rw [Worker.outstanding, position]
      simp only [workerStep, position]
      by_cases wants : wantsBatch config window (state.workers index) state.stop environment.now
      · rw [if_pos wants]
        by_cases none : (chooseBatch config window (state.workers index).packetIndex).1 = 0
        · rw [if_pos none]
          exact conserved.move index rfl rfl idle trivial rfl
        · rw [if_neg none]
          exact conserved.move index rfl rfl idle
            ⟨Nat.pos_of_ne_zero none, chooseBatch_le config window _⟩ rfl
      · rw [if_neg wants]
        exact conserved.move index rfl rfl idle trivial rfl
  | allocating count scheduled =>
      rw [position] at wellFormed
      rcases wellFormed with ⟨positive, fits⟩
      have idle : (state.workers index).outstanding = [] := by rw [Worker.outstanding, position]
      have drawn := conserved.tickets.draw index count
      simp only [Function.comp_apply, idle, List.nil_append] at drawn
      simp only [workerStep, position]
      refine conserved.step index count ?_ ?_ ?_
      · rw [allocations, List.filterMap_append, ← allocations]
        exact flatMap_drawn_concat conserved.partitioned count
      · change Tickets _ _ ((wire history).map (·.sequence) ++ [])
        rw [List.append_nil]
        exact drawn
      · exact {
          attempted := rfl
          successful := rfl
          traced := fun _ => ⟨[], (List.append_nil _).symm, rfl⟩
          balanced := balanced.of_stats rfl rfl rfl rfl rfl
          wellFormed := ⟨fits, positive, encodeBatch_sequences host config _ count _⟩
          socketOpen := rfl }
  | sending batch offset =>
      rcases sendStep_contributes window balanced position wellFormed index state.stop environment
          with ⟨contributes, rest, split, kept⟩
      simp only [workerStep, position]
      rw [← wire_map_sent (transmitted batch offset environment.result)] at contributes split
      exact conserved.proceed index (allocations_map_sent _) contributes split kept
  | leaving =>
      have idle : (state.workers index).outstanding = [] := by rw [Worker.outstanding, position]
      have done : Position.finished.WellFormed config := trivial
      simp only [workerStep, position]
      rw [leaveStats, if_pos (conserved.opened index)]
      exact conserved.move index rfl rfl idle done rfl
  | finished =>
      simp only [workerStep, position, List.append_nil]
      exact conserved

theorem run_conserved (host : Endianness) (config : Config) (window : Window)
    {connect : Fin config.threads → Option Nat} (opened : ∀ index, connect index = none)
    (schedule : List (Action config)) :
    let outcome := (machine host config window).run (start config connect) schedule
    Conserved config outcome.2 outcome.1 := by
  apply (machine host config window).run_invariant (Conserved config) (start_conserved opened)
  intro history state action conserved
  cases action with
  | signal =>
      change Conserved config (history ++ []) { state with stop := true }
      rw [List.append_nil]
      exact { conserved with }
  | worker index environment => exact workerStep_conserved conserved index environment

/-! ## The statistics that `main` reports -/

theorem State.stats_balanced (conserved : Conserved config history state) :
    Balanced config state.stats := by
  apply aggregate_balanced
  intro worker member
  rcases List.mem_ofFn.mp member with ⟨index, rfl⟩
  exact conserved.balanced index

theorem State.stats_trace (state : State config) :
    state.stats.trace = gather ((·.stats.trace) ∘ state.workers) := by
  rw [State.stats, aggregate_trace, List.ofFn_eq_map, List.flatMap_map]
  rfl

theorem State.stats_sum (field : WorkerStats → Nat)
    (additive : ∀ stats worker : WorkerStats,
      field (stats.add worker) = field stats + field worker)
    (zero : field { batchHistogram := List.replicate (config.sendBatchMax + 1) 0 } = 0)
    (state : State config) :
    field state.stats = ∑ index, field (state.workers index).stats := by
  rw [State.stats, aggregate_sum field additive zero, List.map_ofFn, List.sum_ofFn]
  rfl

theorem Conserved.trace (conserved : Conserved config history state)
    (tracing : config.tracing = true) :
    state.stats.trace.Pairwise (fun record other => record.numbers.Disjoint other.numbers) ∧
      ∀ number, number ∈ (wire history).map (·.sequence) ↔
        ∃ record ∈ state.stats.trace, record.firstSequence ≤ number ∧
          number < record.firstSequence + record.packetCount := by
  have traced := conserved.traced tracing
  rw [← State.stats_trace] at traced
  constructor
  · have distinct := traced.nodup_iff.mpr conserved.tickets.released_nodup
    exact (List.nodup_flatMap.mp distinct).2
  · intro number
    rw [← traced.mem_iff, List.mem_flatMap]
    simp only [TraceRecord.numbers, List.mem_range'_1]

/-! ## A short run -/

/-- Two traced workers that send up to two packets at a time. -/
def pairConfig : Config where
  ratePps := 1000000000
  durationNs := 100
  mode := .steady
  burstSize := 1
  payloadSize := 16
  timestampEvery := 0
  sendBatchMax := 2
  batchWindowUs := 10
  threads := 2
  tracing := true
  rateRange := by decide
  durationRange := by decide
  burstRange := by decide
  payloadRange := by decide
  batchRange := by decide
  windowRange := by decide
  threadRange := by decide
  steadyBurst := fun _ => rfl
  burstThreads := nofun

/-- A step at time zero whose call, if it makes one, returns `result`. -/
def answer (result : Int) (errno : Nat) : Environment where
  now := 0
  invocation := 0
  completion := 0
  realNs := fun _ => 0
  result := result
  errno := errno

/-- The first worker sends its batch in two calls, the second after an interrupted
call. -/
def pairSchedule : List (Action pairConfig) :=
  let first : Fin pairConfig.threads := ⟨0, by decide⟩
  let second : Fin pairConfig.threads := ⟨1, by decide⟩
  [.worker first (answer 0 0), .worker second (answer 0 0), .worker first (answer 0 0),
    .worker second (answer 0 0), .worker first (answer 1 0), .worker second (answer (-1) 4),
    .worker second (answer 2 0), .worker first (answer 1 0)]

end NetLatencyLab.Sender
