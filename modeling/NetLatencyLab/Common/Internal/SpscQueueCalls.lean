import NetLatencyLab.Common.SpscQueue

/-! # Whole calls of the queue

A call is a few steps of one side. Each step either leaves the call in progress
or returns from it, and the other side is not disturbed. -/

namespace NetLatencyLab.SpscQueue

variable {α : Type*}

/-- The argument of the `push` in progress. -/
def Producer.pending : Producer α → Option α
  | .idle => none
  | .loadedHead value _ => some value
  | .allocated value _ => some value
  | .wrote value _ => some value
  | .reloadedHead value _ _ => some value

def Consumer.held : Consumer α → Option α
  | .holding _ value => some value
  | .popping _ value _ => some value
  | .cleared _ value _ => some value
  | _ => none

/-- Inside `pop`. -/
def Consumer.isPopping : Consumer α → Bool
  | .popping _ _ _ => true
  | .cleared _ _ _ => true
  | _ => false

/-- The accesses of a `push` that follow its next one. -/
def Producer.left : Producer α → Nat
  | .idle => 4
  | .loadedHead _ _ => 3
  | .allocated _ _ => 2
  | .wrote _ _ => 1
  | .reloadedHead _ _ _ => 0

/-- The accesses of a `front` that follow its next one. -/
def Consumer.frontLeft : Consumer α → Nat
  | .idle => 2
  | .holding _ _ => 2
  | .loadedTail _ => 1
  | _ => 0

/-- The accesses of a `pop` that follow its next one. -/
def Consumer.popLeft : Consumer α → Nat
  | .holding _ _ => 1
  | _ => 0

theorem Producer.left_le (call : Producer α) : call.left ≤ 4 := by
  cases call <;> simp [left]

theorem Consumer.frontLeft_le (call : Consumer α) : call.frontLeft ≤ 2 := by
  cases call <;> simp [frontLeft]

theorem Consumer.popLeft_le (call : Consumer α) : call.popLeft ≤ 1 := by
  cases call <;> simp [popLeft]

variable (capacity : Capacity) (state : State α)

theorem producerStep_cases {value : α}
    (same : ∀ pending ∈ state.producer.pending, pending = value) :
    (∃ result, (producerStep capacity state value).2.pushAnswer? = some (value, result) ∧
      (producerStep capacity state value).1.producer = .idle) ∨
    ((producerStep capacity state value).2.pushAnswer? = none ∧
      (producerStep capacity state value).1.producer.pending = some value) := by
  rw [producerStep]
  cases position : state.producer <;> rw [position] at same
  case idle => exact .inr ⟨rfl, rfl⟩
  case loadedHead pushed head =>
    rcases same pushed rfl with rfl
    simp only
    split
    · exact .inl ⟨false, rfl, rfl⟩
    · exact .inr ⟨rfl, rfl⟩
  case allocated pushed slot =>
    rcases same pushed rfl with rfl
    exact .inr ⟨rfl, rfl⟩
  case wrote pushed slot =>
    rcases same pushed rfl with rfl
    exact .inr ⟨rfl, rfl⟩
  case reloadedHead pushed slot head =>
    rcases same pushed rfl with rfl
    exact .inl ⟨true, rfl, rfl⟩

theorem producerStep_advances (value : α) :
    let next := producerStep capacity state value
    (∃ refused, next.2 = .full refused) ∨ (∃ slot pushed, next.2 = .published slot pushed) ∨
      (next.2.pushAnswer? = none ∧ next.1.producer.left < state.producer.left) := by
  intro next
  simp only [next, producerStep]
  cases position : state.producer
  case idle => exact .inr (.inr ⟨rfl, Nat.lt_add_one _⟩)
  case loadedHead pushed head =>
    simp only
    split
    · exact .inl ⟨pushed, rfl⟩
    · exact .inr (.inr ⟨rfl, Nat.lt_add_one _⟩)
  case allocated pushed slot => exact .inr (.inr ⟨rfl, Nat.lt_add_one _⟩)
  case wrote pushed slot => exact .inr (.inr ⟨rfl, Nat.lt_add_one _⟩)
  case reloadedHead pushed slot head => exact .inr (.inl ⟨slot, pushed, rfl⟩)

theorem producerStep_consumer (value : α) :
    (producerStep capacity state value).1.consumer = state.consumer := by
  unfold producerStep
  split <;> (try split) <;> rfl

theorem producerStep_frontAnswer? (value : α) :
    (producerStep capacity state value).2.frontAnswer? = none := by
  unfold producerStep
  split <;> (try split) <;> rfl

theorem producerStep_popped? (value : α) :
    (producerStep capacity state value).2.popped? = none := by
  unfold producerStep
  split <;> (try split) <;> rfl

variable [Inhabited α]

theorem frontStep_cases (triviallyDestructible : Bool) (fresh : state.consumer.held = none) :
    let next := consumerStep capacity triviallyDestructible state .front
    next.2.popped? = none ∧ next.2.frontAnswer?.join = next.1.consumer.held := by
  intro next
  simp only [next, consumerStep]
  cases position : state.consumer <;> rw [position] at fresh
  case idle => exact ⟨rfl, rfl⟩
  case loadedTail tail =>
    simp only
    split
    · exact ⟨rfl, rfl⟩
    · exact ⟨rfl, rfl⟩
  case located slot => exact ⟨rfl, rfl⟩
  all_goals cases fresh

theorem frontStep_unpopped (triviallyDestructible : Bool)
    (between : state.consumer.isPopping = false) :
    let next := consumerStep capacity triviallyDestructible state .front
    next.2.popped? = none ∧ next.1.consumer.isPopping = false ∧
      ∀ value, next.2.frontAnswer? = some (some value) → next.1.consumer.held = some value := by
  intro next
  simp only [next, consumerStep]
  cases position : state.consumer <;> rw [position] at between
  case idle => exact ⟨rfl, rfl, nofun⟩
  case loadedTail tail =>
    simp only
    split
    · exact ⟨rfl, rfl, nofun⟩
    · exact ⟨rfl, rfl, nofun⟩
  case located slot =>
    refine ⟨rfl, rfl, ?_⟩
    intro value answer
    exact Option.some.inj answer
  case holding slot found => exact ⟨rfl, rfl, nofun⟩
  all_goals cases between

theorem frontStep_advances (triviallyDestructible : Bool)
    (between : state.consumer.isPopping = false) :
    let next := consumerStep capacity triviallyDestructible state .front
    next.2 = .empty ∨ (∃ slot value, next.2 = .slotRead slot value) ∨
      (next.2.frontAnswer? = none ∧ next.1.consumer.frontLeft < state.consumer.frontLeft) := by
  intro next
  simp only [next, consumerStep]
  cases position : state.consumer <;> rw [position] at between
  case idle => exact .inr (.inr ⟨rfl, Nat.lt_add_one _⟩)
  case loadedTail tail =>
    simp only
    split
    · exact .inl rfl
    · exact .inr (.inr ⟨rfl, Nat.lt_add_one _⟩)
  case located slot => exact .inr (.inl ⟨slot, _, rfl⟩)
  case holding slot found => exact .inr (.inr ⟨rfl, Nat.lt_add_one _⟩)
  all_goals cases between

theorem popStep_cases {value : α} (held : state.consumer.held = some value) :
    let next := consumerStep capacity true state .pop
    next.2.frontAnswer? = none ∧
      ((∃ slot, next.2.popped? = some (slot, value) ∧ next.1.consumer = .idle) ∨
        (next.2.popped? = none ∧ next.1.consumer.held = some value)) := by
  intro next
  simp only [next, consumerStep, storeTail]
  cases position : state.consumer <;> rw [position] at held
  case holding slot found =>
    cases held
    exact ⟨rfl, .inr ⟨rfl, rfl⟩⟩
  case popping slot found tail =>
    cases held
    exact ⟨rfl, .inl ⟨slot, rfl, rfl⟩⟩
  case cleared slot found tail =>
    cases held
    exact ⟨rfl, .inl ⟨slot, rfl, rfl⟩⟩
  all_goals cases held

theorem popStep_advances {value : α} (held : state.consumer.held = some value) :
    let next := consumerStep capacity true state .pop
    (∃ slot popped, next.2 = .popped slot popped) ∨
      (next.2.popped? = none ∧ next.1.consumer.popLeft < state.consumer.popLeft) := by
  intro next
  simp only [next, consumerStep, storeTail]
  cases position : state.consumer <;> rw [position] at held
  case holding slot found => exact .inr ⟨rfl, Nat.lt_add_one _⟩
  case popping slot found tail => exact .inl ⟨slot, found, rfl⟩
  case cleared slot found tail => exact .inl ⟨slot, found, rfl⟩
  all_goals cases held

theorem consumerStep_producer (triviallyDestructible : Bool) (call : ConsumerCall) :
    (consumerStep capacity triviallyDestructible state call).1.producer = state.producer := by
  unfold consumerStep storeTail
  split <;> (try split) <;> rfl

theorem consumerStep_pushAnswer? (triviallyDestructible : Bool) (call : ConsumerCall) :
    (consumerStep capacity triviallyDestructible state call).2.pushAnswer? = none := by
  unfold consumerStep storeTail
  split <;> (try split) <;> rfl

/-! ## Results and histories -/

omit [Inhabited α] in
theorem eq_empty_of_frontAnswer? {event : Event α} (answer : event.frontAnswer? = some none) :
    event = .empty := by
  cases event <;> cases answer
  rfl

omit [Inhabited α] in
theorem eq_full_of_pushAnswer? {event : Event α} {value : α}
    (answer : event.pushAnswer? = some (value, false)) : event = .full value := by
  cases event <;> cases answer
  rfl

section Histories

omit [Inhabited α]

variable (events : List (Event α)) (event : Event α)

theorem pushes_concat : pushes (events ++ [event]) = pushes events ++ event.pushAnswer?.toList := by
  cases answer : event.pushAnswer? <;> simp [pushes, answer]

theorem reads_concat :
    reads (events ++ [event]) = reads events ++ event.frontAnswer?.join.toList := by
  cases answer : event.frontAnswer?.join <;> simp [reads, answer]

theorem delivered_concat :
    delivered (events ++ [event]) = delivered events ++ event.popped?.toList := by
  cases answer : event.popped? <;> simp [delivered, answer]

variable {event}

theorem pushes_concat_of_none (silent : event.pushAnswer? = none) :
    pushes (events ++ [event]) = pushes events := by
  rw [pushes_concat, silent, Option.toList_none, List.append_nil]

theorem reads_concat_of_none (silent : event.frontAnswer?.join = none) :
    reads (events ++ [event]) = reads events := by
  rw [reads_concat, silent, Option.toList_none, List.append_nil]

theorem delivered_concat_of_none (silent : event.popped? = none) :
    delivered (events ++ [event]) = delivered events := by
  rw [delivered_concat, silent, Option.toList_none, List.append_nil]

variable (event) in
theorem accepted_concat :
    accepted (events ++ [event]) = accepted events ++ event.published?.toList := by
  cases answer : event.published? <;> simp [accepted, answer]

theorem unpopped_length_concat (conserved : accepted events = delivered events ++ unpopped events)
    (event : Event α) :
    (unpopped (events ++ [event])).length =
      (unpopped events).length + event.published?.toList.length - event.popped?.toList.length := by
  have total := congrArg List.length conserved
  rw [List.length_append] at total
  rw [unpopped, accepted_concat, delivered_concat, List.length_drop, List.length_append,
    List.length_append, total]
  omega

theorem published?_of_pushAnswer? (silent : event.pushAnswer? = none) :
    event.published? = none := by
  cases event with
  | published slot value => cases silent
  | _ => rfl

theorem unpopped_concat_empty : unpopped (events ++ [.empty]) = unpopped events := by
  rw [unpopped, accepted_concat, delivered_concat, unpopped]
  simp [Event.published?, Event.popped?]

end Histories

omit [Inhabited α] in
theorem accepted_values_eq (events : List (Event α)) :
    (accepted events).map Prod.snd =
      ((pushes events).filter fun pushed => pushed.2).map Prod.fst := by
  rw [accepted, pushes, List.map_filterMap, List.filter_filterMap, List.map_filterMap]
  congr 1
  funext event
  cases event <;> rfl

end NetLatencyLab.SpscQueue
