import NetLatencyLab.Bench.Handoff

/-! # `run_uncontended`

One thread pushes an item and pops it again, so it never meets a full or an
empty queue: the result may report no overflows, and every turn is a round trip. -/

namespace NetLatencyLab.Bench.Uncontended

open SpscQueue (accepted delivered pushes unpopped)

inductive Position where
  | starting
  | pushing (index : Nat)
  | front (index : Nat)
  | pop (index : Nat)
  | finished

structure State where
  queue : SpscQueue.State Item
  position : Position
  startedNs : UInt64
  elapsedNs : UInt64

/-- A turn whose `push` fails is over. -/
def Position.pushed (index : Nat) : Option (Item × Bool) → Position
  | none => .pushing index
  | some (_, false) => .pushing (index + 1)
  | some (_, true) => .front index

def step (elements : UInt64) (state : State) (monoNs : UInt64) :
    State × List (SpscQueue.Event Item) :=
  match state.position with
  | .starting => ({ state with position := .pushing 0, startedNs := monoNs }, [])
  | .pushing index =>
      if index < elements.toNat then
        let pushed := SpscQueue.producerStep queueCapacity state.queue (Item.numbered index)
        ({ state with
            queue := pushed.1
            position := .pushed index pushed.2.pushAnswer? }, [pushed.2])
      else
        ({ state with position := .finished, elapsedNs := monoNs - state.startedNs }, [])
  | .front index =>
      let fronted := SpscQueue.consumerStep queueCapacity true state.queue .front
      ({ state with
          queue := fronted.1
          position := if fronted.2.frontAnswer?.isSome then .pop index else .front index },
        [fronted.2])
  | .pop index =>
      let popped := SpscQueue.consumerStep queueCapacity true state.queue .pop
      ({ state with
          queue := popped.1
          position := if popped.2.popped?.isSome then .pushing (index + 1) else .pop index },
        [popped.2])
  | .finished => (state, [])

def machine (elements : UInt64) : Machine State UInt64 (SpscQueue.Event Item) where
  step := step elements

def start : State where
  queue := SpscQueue.initial fun _ => default
  position := .starting
  startedNs := 0
  elapsedNs := 0

/-- What `run_uncontended` returns; the source halves the time of a turn. -/
def result (state : State) : Result where
  producerElapsedNs := state.elapsedNs
  consumerElapsedNs := state.elapsedNs
  overflows := 0

/-! ## One thread never waits for itself -/

def queueActions (elements : UInt64) (state : State) (_ : UInt64) :
    List (SpscQueue.Action Item) :=
  match state.position with
  | .pushing index => if index < elements.toNat then [.produce (Item.numbered index)] else []
  | .front _ => [.consume .front]
  | .pop _ => [.consume .pop]
  | _ => []

def queueProjection (elements : UInt64) :
    Projection (machine elements) (SpscQueue.machine queueCapacity true) where
  state := State.queue
  actions := queueActions elements
  step := by
    intro state monoNs
    cases position : state.position with
    | pushing index =>
        simp only [queueActions, machine, step, position]
        split <;> simp [SpscQueue.machine, SpscQueue.step]
    | _ => simp [queueActions, machine, step, position, SpscQueue.machine, SpscQueue.step]

/-- The items that have been pushed, and those that have been popped. -/
def Position.sent (elements : UInt64) : Position → Nat
  | .starting => 0
  | .pushing index => index
  | .front index => index + 1
  | .pop index => index + 1
  | .finished => elements.toNat

def Position.taken (elements : UInt64) : Position → Nat
  | .starting => 0
  | .pushing index => index
  | .front index => index
  | .pop index => index
  | .finished => elements.toNat

structure Invariant (elements : UInt64) (history : List (SpscQueue.Event Item)) (state : State) :
    Prop where
  pushed : pushes history = (numberedItems (state.position.sent elements)).map fun item =>
    (item, true)
  popped : (delivered history).length = state.position.taken elements
  bounded : state.position.sent elements ≤ elements.toNat
  pending : ∀ item ∈ state.queue.producer.pending, ∃ index, state.position = .pushing index ∧
    index < elements.toNat ∧ item = Item.numbered index
  holds : ∀ index, state.position = .pop index → ∃ item, state.queue.consumer.held = some item
  between : (∀ index, state.position ≠ .pop index) → state.queue.consumer.isPopping = false

theorem start_invariant (elements : UInt64) : Invariant elements [] start where
  pushed := rfl
  popped := rfl
  bounded := Nat.zero_le _
  pending := nofun
  holds := nofun
  between := fun _ => rfl

section Steps

variable {elements : UInt64} {history : List (SpscQueue.Event Item)} {state : State}

theorem Invariant.popped_append_waiting (invariant : Invariant elements history state)
    (conserved : accepted history = delivered history ++ unpopped history) :
    (delivered history).map Prod.snd ++ (unpopped history).map Prod.snd =
      numberedItems (state.position.sent elements) := by
  rw [← List.map_append, ← conserved, SpscQueue.accepted_values_eq, invariant.pushed,
    List.filter_map, List.map_map]
  simp [Function.comp_def]

theorem Invariant.waiting (invariant : Invariant elements history state)
    (conserved : accepted history = delivered history ++ unpopped history) :
    state.position.taken elements + (unpopped history).length = state.position.sent elements := by
  have together := congrArg List.length (invariant.popped_append_waiting conserved)
  rw [List.length_append, List.length_map, List.length_map, numberedItems_length] at together
  rw [← invariant.popped]
  exact together

theorem Invariant.push (invariant : Invariant elements history state)
    (represents : SpscQueue.Represents queueCapacity state.queue (unpopped history))
    (conserved : accepted history = delivered history ++ unpopped history) {index : Nat}
    (position : state.position = .pushing index) (inside : index < elements.toNat)
    (monoNs : UInt64) :
    Invariant elements (history ++ (step elements state monoNs).2)
      (step elements state monoNs).1 := by
  have between := invariant.between (by rw [position]; nofun)
  have waiting := invariant.waiting conserved
  have already := invariant.pushed
  have poppedAlready := invariant.popped
  rw [position] at waiting already poppedAlready
  have empty : unpopped history = [] := by
    rw [← List.length_eq_zero_iff]
    exact Nat.add_left_cancel waiting
  have calling : ∀ pending ∈ state.queue.producer.pending, pending = Item.numbered index := by
    intro pending member
    rcases invariant.pending pending member with ⟨pushing, samePosition, _, equal⟩
    rw [position] at samePosition
    rw [equal, Position.pushing.inj samePosition]
  have refused := represents.not_full (by rw [empty]; decide) (Item.numbered index)
  have outcome := SpscQueue.producerStep_cases queueCapacity state.queue calling
  have consumer := SpscQueue.producerStep_consumer queueCapacity state.queue (Item.numbered index)
  have unread := SpscQueue.producerStep_popped? queueCapacity state.queue (Item.numbered index)
  simp only [step, position, if_pos inside]
  generalize SpscQueue.producerStep queueCapacity state.queue (Item.numbered index) = pushed at *
  have poppedEqual := SpscQueue.delivered_concat_of_none history unread
  rcases outcome with ⟨result, answer, idle⟩ | ⟨running, pending⟩
  · cases result with
    | false =>
        exact absurd (SpscQueue.eq_full_of_pushAnswer? answer) (refused _)
    | true =>
        simp only [answer, Position.pushed]
        exact {
          pushed := by
            rw [SpscQueue.pushes_concat, answer, already, Position.sent, Position.sent,
              numberedItems_succ, List.map_append]
            rfl
          popped := by
            rw [poppedEqual]
            exact poppedAlready
          bounded := inside
          pending := by
            rw [idle]
            nofun
          holds := nofun
          between := by
            intro _
            rw [consumer]
            exact between }
  · simp only [running, Position.pushed]
    exact {
      pushed := by
        rw [SpscQueue.pushes_concat_of_none history running]
        exact already
      popped := by
        rw [poppedEqual]
        exact poppedAlready
      bounded := Nat.le_of_lt inside
      pending := by
        intro item member
        rw [pending] at member
        exact ⟨index, rfl, inside, (Option.some.inj member).symm⟩
      holds := nofun
      between := by
        intro _
        rw [consumer]
        exact between }

theorem Invariant.silent (invariant : Invariant elements history state)
    (outside : ∀ index, state.position ≠ .pushing index) :
    state.queue.producer.pending = none := by
  cases pending : state.queue.producer.pending with
  | none => rfl
  | some item =>
      rcases invariant.pending item pending with ⟨index, position, _⟩
      exact absurd position (outside index)

theorem Invariant.front (invariant : Invariant elements history state)
    (represents : SpscQueue.Represents queueCapacity state.queue (unpopped history))
    (conserved : accepted history = delivered history ++ unpopped history) {index : Nat}
    (position : state.position = .front index) (monoNs : UInt64) :
    Invariant elements (history ++ (step elements state monoNs).2)
      (step elements state monoNs).1 := by
  have between := invariant.between (by rw [position]; nofun)
  have outside := invariant.silent (by rw [position]; nofun)
  have waiting := invariant.waiting conserved
  have already := invariant.pushed
  have poppedAlready := invariant.popped
  have bounded := invariant.bounded
  rw [position] at waiting already poppedAlready bounded
  have reported : (SpscQueue.consumerStep queueCapacity true state.queue .front).2 = .empty →
      unpopped history = [] := represents.eq_nil_of_front
  have outcome := SpscQueue.frontStep_unpopped queueCapacity state.queue true between
  have producer := SpscQueue.consumerStep_producer queueCapacity state.queue true .front
  have silent := SpscQueue.consumerStep_pushAnswer? queueCapacity state.queue true .front
  simp only [step, position]
  generalize SpscQueue.consumerStep queueCapacity true state.queue .front = fronted at *
  have pushedEqual := SpscQueue.pushes_concat_of_none history silent
  have poppedEqual := SpscQueue.delivered_concat_of_none history outcome.1
  have pending : fronted.1.producer.pending = none := by rw [producer, outside]
  cases answer : fronted.2.frontAnswer? with
  | none =>
      exact {
        pushed := pushedEqual.trans already
        popped := (congrArg List.length poppedEqual).trans poppedAlready
        bounded := bounded
        pending := by
          rw [pending]
          nofun
        holds := nofun
        between := fun _ => outcome.2.1 }
  | some found =>
      cases found with
      | none =>
          rw [reported (SpscQueue.eq_empty_of_frontAnswer? answer)] at waiting
          cases Nat.add_left_cancel waiting
      | some item =>
          exact {
            pushed := pushedEqual.trans already
            popped := (congrArg List.length poppedEqual).trans poppedAlready
            bounded := bounded
            pending := by
              rw [pending]
              nofun
            holds := fun _ _ => ⟨item, outcome.2.2 item answer⟩
            between := fun elsewhere => absurd rfl (elsewhere index) }

theorem Invariant.pop (invariant : Invariant elements history state) {index : Nat}
    (position : state.position = .pop index) (monoNs : UInt64) :
    Invariant elements (history ++ (step elements state monoNs).2)
      (step elements state monoNs).1 := by
  have outside := invariant.silent (by rw [position]; nofun)
  have already := invariant.pushed
  have poppedAlready := invariant.popped
  have bounded := invariant.bounded
  rw [position] at already poppedAlready bounded
  rcases invariant.holds index position with ⟨item, holding⟩
  rcases SpscQueue.popStep_cases queueCapacity state.queue holding with ⟨_, outcome⟩
  have producer := SpscQueue.consumerStep_producer queueCapacity state.queue true .pop
  have silent := SpscQueue.consumerStep_pushAnswer? queueCapacity state.queue true .pop
  simp only [step, position]
  generalize SpscQueue.consumerStep queueCapacity true state.queue .pop = popped at *
  have pushedEqual := SpscQueue.pushes_concat_of_none history silent
  have pending : popped.1.producer.pending = none := by rw [producer, outside]
  rcases outcome with ⟨slot, returned, idle⟩ | ⟨busy, held⟩
  · rw [returned, Option.isSome_some, if_pos rfl]
    exact {
      pushed := pushedEqual.trans already
      popped := by
        rw [SpscQueue.delivered_concat, returned, List.length_append, poppedAlready]
        rfl
      bounded := bounded
      pending := by
        rw [pending]
        nofun
      holds := nofun
      between := by
        intro _
        rw [idle]
        rfl }
  · rw [busy, Option.isSome_none, if_neg (by decide)]
    exact {
      pushed := pushedEqual.trans already
      popped := by
        rw [SpscQueue.delivered_concat_of_none history busy]
        exact poppedAlready
      bounded := bounded
      pending := by
        rw [pending]
        nofun
      holds := fun _ _ => ⟨item, held⟩
      between := fun elsewhere => absurd rfl (elsewhere index) }

theorem step_invariant (invariant : Invariant elements history state)
    (represents : SpscQueue.Represents queueCapacity state.queue (unpopped history))
    (conserved : accepted history = delivered history ++ unpopped history) (monoNs : UInt64) :
    Invariant elements (history ++ (step elements state monoNs).2)
      (step elements state monoNs).1 := by
  have already := invariant.pushed
  have poppedAlready := invariant.popped
  have bounded := invariant.bounded
  cases position : state.position with
  | starting =>
      rw [position] at already poppedAlready
      have outside := invariant.silent (by rw [position]; nofun)
      simp only [step, position, List.append_nil]
      exact {
        pushed := already
        popped := poppedAlready
        bounded := Nat.zero_le _
        pending := by
          rw [outside]
          nofun
        holds := nofun
        between := fun _ => invariant.between (by rw [position]; nofun) }
  | pushing index =>
      by_cases inside : index < elements.toNat
      · exact invariant.push represents conserved position inside monoNs
      · rw [position] at already poppedAlready bounded
        have sentAll : index = elements.toNat := Nat.le_antisymm bounded (Nat.le_of_not_lt inside)
        have outside : ∀ item, item ∉ state.queue.producer.pending := by
          intro item member
          rcases invariant.pending item member with ⟨pushing, samePosition, more, _⟩
          rw [position] at samePosition
          rw [← Position.pushing.inj samePosition] at more
          exact inside more
        simp only [step, position, if_neg inside, List.append_nil]
        exact {
          pushed := by
            rw [already, Position.sent, Position.sent, sentAll]
          popped := by
            rw [poppedAlready, Position.taken, Position.taken, sentAll]
          bounded := le_rfl
          pending := fun item member => absurd member (outside item)
          holds := nofun
          between := fun _ => invariant.between (by rw [position]; nofun) }
  | front index => exact invariant.front represents conserved position monoNs
  | pop index => exact invariant.pop position monoNs
  | finished =>
      simp only [step, position, List.append_nil]
      exact invariant

end Steps

/-- What holds after any number of steps. -/
theorem run_holds (elements : UInt64) (readings : List UInt64) :
    let outcome := (machine elements).run start readings
    (SpscQueue.Represents queueCapacity outcome.1.queue (unpopped outcome.2) ∧
        accepted outcome.2 = delivered outcome.2 ++ unpopped outcome.2) ∧
      Invariant elements outcome.2 outcome.1 := by
  apply (queueProjection elements).run_invariant
    fun history queue =>
      SpscQueue.Represents queueCapacity queue (unpopped history) ∧
        accepted history = delivered history ++ unpopped history
  · exact SpscQueue.run_represents queueCapacity true fun _ => default
  · exact start_invariant elements
  · intro history state action guarantee invariant
    exact step_invariant invariant guarantee.1 guarantee.2 action

/-! ## The loop ends -/

def rank (elements : UInt64) (state : State) : Nat :=
  match state.position with
  | .starting => 12 * elements.toNat + 6
  | .pushing index => 12 * (elements.toNat - index) + 1 + state.queue.producer.left
  | .front index => 12 * (elements.toNat - (index + 1)) + 8 + state.queue.consumer.frontLeft
  | .pop index => 12 * (elements.toNat - (index + 1)) + 6 + state.queue.consumer.popLeft
  | .finished => 0

section Ends

variable {elements : UInt64} {history : List (SpscQueue.Event Item)} {state : State}

private theorem step_lowers (invariant : Invariant elements history state)
    (unfinished : state.position ≠ .finished) (monoNs : UInt64) :
    rank elements (step elements state monoNs).1 < rank elements state := by
  have bounded := invariant.bounded
  have pushLeft := state.queue.producer.left_le
  cases position : state.position with
  | starting =>
      simp only [rank, step, position]
      omega
  | pushing index =>
      by_cases inside : index < elements.toNat
      · have outcome := SpscQueue.producerStep_advances queueCapacity state.queue
          (Item.numbered index)
        simp only [rank, step, position, if_pos inside]
        generalize SpscQueue.producerStep queueCapacity state.queue (Item.numbered index) = pushed
          at *
        have left := pushed.1.producer.left_le
        have front := pushed.1.consumer.frontLeft_le
        rcases outcome with ⟨item, full⟩ | ⟨slot, item, published⟩ | ⟨running, nearer⟩
        · simp only [full, SpscQueue.Event.pushAnswer?, Position.pushed]
          omega
        · simp only [published, SpscQueue.Event.pushAnswer?, Position.pushed]
          omega
        · simp only [running, Position.pushed]
          omega
      · simp only [rank, step, position, if_neg inside]
        omega
  | front index =>
      have between := invariant.between (by rw [position]; nofun)
      have outcome := SpscQueue.frontStep_advances queueCapacity state.queue true between
      simp only [rank, step, position]
      generalize SpscQueue.consumerStep queueCapacity true state.queue .front = fronted at *
      have pop := fronted.1.consumer.popLeft_le
      rcases outcome with empty | ⟨slot, item, read⟩ | ⟨running, nearer⟩
      · simp only [empty, SpscQueue.Event.frontAnswer?, Option.isSome_some, if_true]
        omega
      · simp only [read, SpscQueue.Event.frontAnswer?, Option.isSome_some, if_true]
        omega
      · simp only [running, Option.isSome_none, Bool.false_eq_true, if_false]
        omega
  | pop index =>
      rcases invariant.holds index position with ⟨item, held⟩
      rw [position, Position.sent] at bounded
      have producer := SpscQueue.consumerStep_producer queueCapacity state.queue true .pop
      have outcome := SpscQueue.popStep_advances queueCapacity state.queue held
      simp only [rank, step, position]
      generalize SpscQueue.consumerStep queueCapacity true state.queue .pop = popped at *
      rcases outcome with ⟨slot, value, returned⟩ | ⟨running, nearer⟩
      · simp only [returned, SpscQueue.Event.popped?, Option.isSome_some, if_true, producer]
        omega
      · simp only [running, Option.isSome_none, Bool.false_eq_true, if_false]
        omega
  | finished => exact absurd position unfinished

end Ends

/-- `run_uncontended` ends. No `push` is refused, as its result says, and every
item is popped, in order. -/
theorem run_uncontended_round_trips (elements : UInt64) (readings : List UInt64)
    (long : 12 * elements.toNat + 6 < readings.length) :
    let outcome := (machine elements).run start readings
    outcome.1.position = .finished ∧
      (delivered outcome.2).map Prod.snd = numberedItems elements.toNat ∧
      (pushes outcome.2).countP (fun push => !push.2) = 0 ∧
      (result outcome.1).overflows =
        UInt64.ofNat ((pushes outcome.2).countP fun push => !push.2) ∧
      outcome.1.queue.head = outcome.1.queue.tail := by
  intro outcome
  rcases run_holds elements readings with ⟨⟨represents, conserved⟩, invariant⟩
  have finished : outcome.1.position = .finished := by
    apply (machine elements).run_finishes (fun state => state.position = .finished)
      (rank elements) _ _ readings
      (show rank elements start < readings.length from long)
    · intro before monoNs unfinished
      exact step_lowers (run_holds elements before).2 unfinished monoNs
    · intro state monoNs ended
      simp only [machine, step, ended]
  have waiting := invariant.waiting conserved
  rw [finished] at waiting
  have empty : unpopped outcome.2 = [] := by
    rw [← List.length_eq_zero_iff]
    exact Nat.add_left_cancel waiting
  have together := invariant.popped_append_waiting conserved
  rw [empty, List.map_nil, List.append_nil, finished] at together
  rw [empty] at represents
  have all : (pushes outcome.2).countP (fun push => !push.2) = 0 := by
    rw [invariant.pushed, List.countP_map]
    simp
  refine ⟨finished, together, all, ?_, represents.head_eq_tail_iff.mpr rfl⟩
  rw [all]
  rfl

theorem uncontended_pair_round_trips :
    let outcome := (machine 2).run start (List.replicate 31 7)
    (delivered outcome.2).map Prod.snd = [Item.numbered 0, Item.numbered 1] :=
  (run_uncontended_round_trips 2 (List.replicate 31 7) (by decide)).2.1

end NetLatencyLab.Bench.Uncontended
