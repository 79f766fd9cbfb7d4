import NetLatencyLab.Sender.Conservation

/-! # What is on the wire

Every transmission is the encoding of a number that was drawn from the shared
counter, with a clock reading of its own, and the statistics describe them. -/

namespace NetLatencyLab.Sender

open Histogram (weightedSum)

variable {host : Endianness} {config : Config} {window : Window} {clock : UInt64 → Prop}

/-- What is known of the readings of `CLOCK_REALTIME` in an action. -/
def Action.Reads (clock : UInt64 → Prop) : Action config → Prop
  | .signal => True
  | .worker _ environment => ∀ index, clock (environment.realNs index)

/-- `CLOCK_REALTIME` has left its epoch behind. -/
def Action.ClockSet : Action config → Prop := Action.Reads (· ≠ 0)

/-- The encoding of one of the first `allocated` numbers. -/
def Encoded (host : Endianness) (config : Config) (clock : UInt64 → Prop) (allocated : Nat)
    (transmission : Transmission) : Prop :=
  ∃ sequence < allocated, ∃ realNs, clock realNs ∧
    transmission = encodeMessage host config sequence realNs

theorem Encoded.mono {allocated later : Nat} {transmission : Transmission}
    (encoded : Encoded host config clock allocated transmission) (grows : allocated ≤ later) :
    Encoded host config clock later transmission := by
  rcases encoded with ⟨sequence, drawn, realNs, set, same⟩
  exact ⟨sequence, drawn.trans_le grows, realNs, set, same⟩

private theorem encodeBatch_encoded (firstSequence count : Nat) {realNs : Nat → UInt64}
    (reads : ∀ index, clock (realNs index)) :
    ∀ transmission ∈ encodeBatch host config firstSequence count realNs,
      Encoded host config clock (firstSequence + count) transmission := by
  intro transmission member
  rcases List.mem_map.mp member with ⟨index, inside, rfl⟩
  have below := List.mem_range.mp inside
  exact ⟨firstSequence + index, by omega, realNs index, reads index, rfl⟩

def Position.Prepared (host : Endianness) (config : Config) (clock : UInt64 → Prop)
    (allocated : Nat) : Position → Prop
  | .sending batch _ =>
      ∀ transmission ∈ batch.messages, Encoded host config clock allocated transmission
  | _ => True

theorem Position.Prepared.mono {allocated later : Nat} {position : Position}
    (prepared : position.Prepared host config clock allocated) (grows : allocated ≤ later) :
    position.Prepared host config clock later := by
  cases position with
  | sending batch offset =>
      exact fun transmission member => (prepared transmission member).mono grows
  | checking => trivial
  | allocating count scheduled => trivial
  | leaving => trivial
  | finished => trivial

structure WireEncoded (host : Endianness) (config : Config) (clock : UInt64 → Prop)
    (history : List Event) (state : State config) : Prop where
  sent : ∀ transmission ∈ wire history, Encoded host config clock state.nextSequence transmission
  prepared : ∀ index,
    (state.workers index).position.Prepared host config clock state.nextSequence

variable {history : List Event} {state : State config}

private theorem start_wireEncoded (connect : Fin config.threads → Option Nat) :
    WireEncoded host config clock [] (start config connect) where
  sent := by simp [wire]
  prepared := fun _ => trivial

theorem WireEncoded.step (encoded : WireEncoded host config clock history state)
    (index : Fin config.threads) (drawn : Nat) {next : Worker} {events : List Event}
    (sent : ∀ transmission ∈ wire events,
      Encoded host config clock (state.nextSequence + drawn) transmission)
    (prepared : next.position.Prepared host config clock (state.nextSequence + drawn)) :
    WireEncoded host config clock (history ++ events)
      { state with
        nextSequence := state.nextSequence + drawn
        workers := Function.update state.workers index next } where
  sent := by
    intro transmission member
    rw [wire, List.filterMap_append] at member
    rcases List.mem_append.mp member with earlier | new
    · exact (encoded.sent transmission earlier).mono (Nat.le_add_right _ _)
    · exact sent transmission new
  prepared := by
    rw [Function.forall_update_iff state.workers fun _ worker =>
      worker.position.Prepared host config clock (state.nextSequence + drawn)]
    exact ⟨prepared, fun other _ => (encoded.prepared other).mono (Nat.le_add_right _ _)⟩

private theorem workerStep_wireEncoded (encoded : WireEncoded host config clock history state)
    (index : Fin config.threads) {environment : Environment}
    (reads : ∀ message, clock (environment.realNs message)) :
    WireEncoded host config clock
      (history ++ (workerStep host config window state index environment).2)
      (workerStep host config window state index environment).1 := by
  have silent : ∀ transmission ∈ wire [], Encoded host config clock (state.nextSequence + 0)
      transmission := by simp [wire]
  cases position : (state.workers index).position with
  | checking =>
      simp only [workerStep, position]
      by_cases wants : wantsBatch config window (state.workers index) state.stop environment.now
      · rw [if_pos wants]
        refine encoded.step index 0 (by simp [wire, Event.sent?]) ?_
        split <;> trivial
      · rw [if_neg wants]
        exact encoded.step index 0 silent trivial
  | allocating count scheduled =>
      simp only [workerStep, position]
      exact encoded.step index count (by simp [wire, Event.sent?])
        (encodeBatch_encoded state.nextSequence count reads)
  | sending batch offset =>
      have prepared := encoded.prepared index
      rw [position] at prepared
      simp only [workerStep, position]
      refine encoded.step index 0 ?_ ?_
      · rw [wire_map_sent]
        intro transmission member
        exact prepared transmission (List.mem_of_mem_drop (List.mem_of_mem_take member))
      · rcases sendStep_cases window index state.stop position environment with
          ⟨_, reached, stays, _⟩ | ⟨_, left⟩
        · rw [stays]
          exact prepared
        · rw [left]
          trivial
  | leaving =>
      simp only [workerStep, position]
      exact encoded.step index 0 silent trivial
  | finished =>
      simp only [workerStep, position, List.append_nil]
      exact encoded

/-- What is on the wire after any run of any number of workers. -/
theorem run_wireEncoded (host : Endianness) (config : Config) (window : Window)
    (connect : Fin config.threads → Option Nat) {schedule : List (Action config)}
    (reads : ∀ action ∈ schedule, action.Reads clock) :
    let outcome := (machine host config window).run (start config connect) schedule
    WireEncoded host config clock outcome.2 outcome.1 := by
  have always : (machine host config window).Always (fun _ action => action.Reads clock)
      (start config connect) schedule := Machine.always_of_forall reads
  refine (machine host config window).run_always ?_ (start_wireEncoded connect) always
  intro history state action reads encoded
  cases action with
  | signal =>
      change WireEncoded host config clock (history ++ []) { state with stop := true }
      rw [List.append_nil]
      exact { encoded with }
  | worker index environment => exact workerStep_wireEncoded encoded index reads

/-- What the reported statistics say about the wire, at any time in any run of
any number of workers whose sockets could be opened: the allocated ranges
partition the numbers drawn so far, each datagram encodes one of them and no two
the same, and the tallies, the histogram and the trace agree with what was sent. -/
theorem sender_conservation (host : Endianness) (config : Config) (window : Window)
    (connect : Fin config.threads → Option Nat) (opened : ∀ index, connect index = none)
    (schedule : List (Action config)) :
    let outcome := (machine host config window).run (start config connect) schedule
    let history := outcome.2
    let stats := outcome.1.stats
    let numbers := (wire history).map (·.sequence)
    (allocations history).flatMap drawnNumbers = List.range outcome.1.nextSequence ∧
      stats.attemptedSends = outcome.1.nextSequence ∧
      numbers.Nodup ∧
      (∀ transmission ∈ wire history, transmission.sequence < outcome.1.nextSequence ∧
        ∃ realNs, transmission = encodeMessage host config transmission.sequence realNs) ∧
      numbers.length = stats.successfulSends ∧
      stats.successfulBytes = config.payloadSize * stats.successfulSends ∧
      weightedSum stats.batchHistogram = stats.successfulSends ∧
      stats.batchHistogram.sum = stats.latenessSamples ∧
      stats.latenessSamples = stats.syscallCount - stats.errorReturns ∧
      stats.errorReturns ≤ stats.syscallCount ∧
      (config.tracing = true →
        stats.trace.Pairwise (fun record other => record.numbers.Disjoint other.numbers) ∧
        ∀ number, number ∈ numbers ↔
          ∃ record ∈ stats.trace, record.firstSequence ≤ number ∧
            number < record.firstSequence + record.packetCount) := by
  intro outcome history stats numbers
  have conserved : Conserved config history outcome.1 :=
    run_conserved host config window opened schedule
  have balanced : Balanced config stats := State.stats_balanced conserved
  have attempted : stats.attemptedSends = outcome.1.nextSequence :=
    (State.stats_sum (·.attemptedSends) (fun _ _ => rfl) rfl outcome.1).trans conserved.attempted
  have successful : stats.successfulSends = (wire history).length :=
    (State.stats_sum (·.successfulSends) (fun _ _ => rfl) rfl outcome.1).trans
      conserved.successful
  have encoded : WireEncoded host config (fun _ => True) history outcome.1 := by
    apply run_wireEncoded
    intro action _
    cases action with
    | signal => trivial
    | worker index environment => exact fun _ => trivial
  have calls := balanced.calls
  refine ⟨conserved.partitioned, attempted, conserved.tickets.released_nodup, ?_,
    (List.length_map _).trans successful.symm, balanced.bytes, balanced.weighted,
    balanced.samples, by omega, by omega, conserved.trace⟩
  intro transmission member
  cases encoded.sent transmission member with
  | intro sequence fact =>
      rcases fact with ⟨drawn, realNs, _, rfl⟩
      exact ⟨drawn, realNs, rfl⟩

theorem sender_conservation_of_two_workers :
    let outcome := (machine .little pairConfig ⟨0, 100, 8⟩).run
      (start pairConfig fun _ => none) pairSchedule
    let numbers := (wire outcome.2).map (·.sequence)
    numbers = [0, 2, 3, 1] ∧ numbers.Nodup ∧ numbers.length = outcome.1.stats.successfulSends := by
  have conservation := sender_conservation .little pairConfig ⟨0, 100, 8⟩ (fun _ => none)
    (fun _ => rfl) pairSchedule
  exact ⟨by decide, conservation.2.2.1, conservation.2.2.2.2.1⟩

end NetLatencyLab.Sender
