import NetLatencyLab.Foundation.BoundedQueue
import NetLatencyLab.Foundation.RingIndex
import NetLatencyLab.Common.SpscQueue

/-! The split queue simulates the atomic bounded queue. A push takes effect at
its head store or, when it fails, at its tail load; an empty answer takes effect
at the head load and a pop at its tail store. -/

namespace NetLatencyLab.SpscQueue

open RingIndex

/-! ## Masked indices -/

namespace Capacity

variable (capacity : Capacity)

theorem size_pos : 0 < capacity.size := by
  rcases capacity.singleBit with ⟨bit, _, equal⟩
  exact equal ▸ Nat.two_pow_pos bit

theorem size_dvd : capacity.size ∣ 2 ^ 64 := by
  rcases capacity.singleBit with ⟨bit, bound, equal⟩
  exact equal ▸ Nat.pow_dvd_pow 2 (Nat.le_of_lt bound)

theorem usable_add_one : capacity.usable + 1 = capacity.size :=
  Nat.sub_add_cancel capacity.size_pos

theorem and_mask (value : Nat) : value &&& capacity.mask = value % capacity.size := by
  rcases capacity.singleBit with ⟨bit, _, equal⟩
  rw [mask, equal, Nat.and_two_pow_sub_one_eq_mod]

theorem next_eq (index : Nat) : capacity.next index = (index + 1) % capacity.size := by
  rw [next, and_mask, Nat.mod_mod_of_dvd _ capacity.size_dvd]

end Capacity

/-! ## The representation -/

variable {α : Type*}

def Consumer.isCleared : Consumer α → Bool
  | .cleared _ _ _ => true
  | _ => false

/-- What the producer knows at each point of `push`: its own index is current,
and a free slot once seen stays free. -/
def ProducerAt (capacity : Capacity) (state : State α) (contents : List (Nat × α)) : Prop :=
  match state.producer with
  | .idle => True
  | .loadedHead _ head => head = state.head
  | .allocated _ slot => slot = state.head ∧ contents.length < capacity.usable
  | .wrote value slot =>
      slot = state.head ∧ contents.length < capacity.usable ∧ state.buffer slot = value
  | .reloadedHead value slot head =>
      slot = state.head ∧ contents.length < capacity.usable ∧ state.buffer slot = value ∧
        head = state.head

/-- What the consumer knows: its own index is current, and the element it holds
is the oldest one. -/
def ConsumerAt (state : State α) (contents : List (Nat × α)) : Prop :=
  match state.consumer with
  | .idle => True
  | .loadedTail tail => tail = state.tail
  | .located slot => slot = state.tail ∧ contents ≠ []
  | .holding slot value => contents.head? = some (slot, value)
  | .popping slot value tail => contents.head? = some (slot, value) ∧ tail = state.tail
  | .cleared slot value tail => contents.head? = some (slot, value) ∧ tail = state.tail

/-- The ring holds exactly `contents`, oldest first and paired with their
slots. Only an element being cleared by `pop` may differ from its slot. -/
structure Represents (capacity : Capacity) (state : State α) (contents : List (Nat × α)) :
    Prop where
  tailBound : state.tail < capacity.size
  lengthBound : contents.length ≤ capacity.usable
  headAt : state.head = slot capacity.size state.tail contents.length
  slotAt : ∀ {index element}, contents[index]? = some element →
    element.1 = slot capacity.size state.tail index
  stored : ∀ {index element}, contents[index]? = some element →
    (index = 0 → state.consumer.isCleared = false) → state.buffer element.1 = element.2
  producerAt : ProducerAt capacity state contents
  consumerAt : ConsumerAt state contents

theorem initial_represents (capacity : Capacity) (buffer : Nat → α) :
    Represents capacity (initial buffer) [] where
  tailBound := capacity.size_pos
  lengthBound := Nat.zero_le _
  headAt := (slot_zero capacity.size_pos).symm
  slotAt := by simp
  stored := by simp
  producerAt := trivial
  consumerAt := trivial

namespace Represents

variable {capacity : Capacity} {state : State α} {contents : List (Nat × α)}

theorem lengthLt (represents : Represents capacity state contents) :
    contents.length < capacity.size := by
  have := capacity.usable_add_one
  have := represents.lengthBound
  omega

theorem next_head_eq_tail_iff (represents : Represents capacity state contents) :
    capacity.next state.head = state.tail ↔ contents.length = capacity.usable := by
  have usable := capacity.usable_add_one
  rw [capacity.next_eq, represents.headAt, slot_succ,
    slot_succ_eq_base_iff represents.tailBound represents.lengthLt]
  omega

theorem head_eq_tail_iff (represents : Represents capacity state contents) :
    state.head = state.tail ↔ contents = [] := by
  rw [represents.headAt, slot_eq_base_iff represents.tailBound represents.lengthLt,
    List.length_eq_zero_iff]

theorem size_exact (represents : Represents capacity state contents) :
    size capacity state.head state.tail = contents.length := by
  rw [size, capacity.and_mask, represents.headAt]
  exact slot_distance represents.tailBound represents.lengthLt capacity.size_dvd
    (Nat.two_pow_pos 64)

theorem slot_ne_head (represents : Represents capacity state contents) {index : Nat}
    {element : Nat × α} (found : contents[index]? = some element) :
    element.1 ≠ state.head := by
  have bound : index < contents.length := (List.getElem?_eq_some_iff.mp found).1
  have lengthLt := represents.lengthLt
  rw [represents.slotAt found, represents.headAt]
  intro equal
  exact absurd (slot_injective (by omega) lengthLt equal) (by omega)

theorem read_oldest {element : Nat × α}
    (represents : Represents capacity state (element :: contents))
    (uncleared : state.consumer.isCleared = false) :
    (state.tail, state.buffer state.tail) = element := by
  have oldest : (element :: contents)[0]? = some element := rfl
  have slotAt := represents.slotAt oldest
  rw [slot_zero represents.tailBound] at slotAt
  rw [← slotAt, represents.stored oldest fun _ => uncleared]

end Represents

/-! ## One step of each side -/

def Event.visible : Event α → Option (BoundedQueue.Event (Nat × α))
  | .full _ => some .refused
  | .published slot value => some (.enqueued (slot, value))
  | .empty => some .foundEmpty
  | .popped slot value => some (.dequeued (slot, value))
  | _ => none

def StepSimulated (capacity : Capacity) (contents : List (Nat × α))
    (result : State α × Event α) : Prop :=
  ∃ next, Trace (BoundedQueue.Step capacity.usable) contents
    ([result.2].filterMap Event.visible) next ∧ Represents capacity result.1 next

theorem StepSimulated.silent {capacity : Capacity} {contents : List (Nat × α)}
    {result : State α × Event α} (hidden : result.2.visible = none)
    (represents : Represents capacity result.1 contents) :
    StepSimulated capacity contents result := by
  refine ⟨contents, ?_, represents⟩
  rw [List.filterMap_cons_none hidden]
  exact .nil contents

theorem StepSimulated.answered {capacity : Capacity} {contents next : List (Nat × α)}
    {result : State α × Event α} {event : BoundedQueue.Event (Nat × α)}
    (shown : result.2.visible = some event)
    (answer : BoundedQueue.Step capacity.usable contents event next)
    (represents : Represents capacity result.1 next) :
    StepSimulated capacity contents result := by
  refine ⟨next, ?_, represents⟩
  rw [List.filterMap_cons_some shown]
  exact .single answer

private theorem getElem?_concat_cases {values : List α} {value found : α} {index : Nat}
    (holds : (values ++ [value])[index]? = some found) :
    values[index]? = some found ∨ index = values.length ∧ found = value := by
  rcases Nat.lt_trichotomy index values.length with before | atEnd | beyond
  · rw [List.getElem?_append_left before] at holds
    exact .inl holds
  · subst atEnd
    rw [List.getElem?_concat_length] at holds
    exact .inr ⟨rfl, (Option.some.inj holds).symm⟩
  · rw [List.getElem?_eq_none (by simp; omega)] at holds
    cases holds

theorem Represents.publish {capacity : Capacity} {state : State α}
    {contents : List (Nat × α)} (represents : Represents capacity state contents) {value : α}
    (room : contents.length < capacity.usable) (written : state.buffer state.head = value) :
    Represents capacity
      { state with head := capacity.next state.head, producer := .idle }
      (contents ++ [(state.head, value)]) where
  tailBound := represents.tailBound
  lengthBound := by
    rw [List.length_append, List.length_singleton]
    exact room
  headAt := by
    rw [List.length_append, List.length_singleton, capacity.next_eq, represents.headAt, slot_succ]
  slotAt := by
    intro index element found
    rcases getElem?_concat_cases found with old | ⟨rfl, rfl⟩
    · exact represents.slotAt old
    · exact represents.headAt
  stored := by
    intro index element found uncleared
    rcases getElem?_concat_cases found with old | ⟨rfl, rfl⟩
    · exact represents.stored old uncleared
    · exact written
  producerAt := trivial
  consumerAt := by
    have consumerAt := represents.consumerAt
    rw [ConsumerAt] at consumerAt ⊢
    cases position : state.consumer <;> simp_all [List.head?_append]

private theorem producerStep_simulated {capacity : Capacity} {state : State α}
    {contents : List (Nat × α)} (represents : Represents capacity state contents) (next : α) :
    StepSimulated capacity contents (producerStep capacity state next) := by
  have atProducer := represents.producerAt
  have consumerAt := represents.consumerAt
  rw [ProducerAt] at atProducer
  rw [producerStep]
  cases position : state.producer with
  | idle =>
      exact .silent rfl { represents with producerAt := rfl, consumerAt := consumerAt }
  | loadedHead value head =>
      simp only [position] at atProducer
      subst atProducer
      by_cases full : capacity.next state.head = state.tail
      · simp only [full, if_true]
        refine .answered rfl (.refuse (represents.next_head_eq_tail_iff.mp full)) ?_
        exact { represents with producerAt := trivial, consumerAt := consumerAt }
      · have room : contents.length < capacity.usable := by
          have different := mt represents.next_head_eq_tail_iff.mpr full
          have bound := represents.lengthBound
          omega
        simp only [full, if_false]
        exact .silent rfl
          { represents with producerAt := ⟨rfl, room⟩, consumerAt := consumerAt }
  | allocated value slot =>
      simp only [position] at atProducer
      rcases atProducer with ⟨rfl, room⟩
      refine .silent rfl
        { represents with stored := ?_, producerAt := ?_, consumerAt := consumerAt }
      · intro index element found uncleared
        simpa [Function.update_of_ne (represents.slot_ne_head found)] using
          represents.stored found uncleared
      · exact ⟨rfl, room, Function.update_self ..⟩
  | wrote value slot =>
      simp only [position] at atProducer
      rcases atProducer with ⟨current, room, written⟩
      exact .silent rfl
        { represents with
          producerAt := ⟨current, room, written, rfl⟩
          consumerAt := consumerAt }
  | reloadedHead value slot head =>
      simp only [position] at atProducer
      rcases atProducer with ⟨rfl, room, written, rfl⟩
      exact .answered rfl (.enqueue room) (represents.publish room written)

theorem Represents.release {capacity : Capacity} {state : State α}
    {contents : List (Nat × α)} {element : Nat × α}
    (represents : Represents capacity state (element :: contents)) :
    Represents capacity
      { state with tail := capacity.next state.tail, consumer := .idle } contents where
  tailBound := by
    rw [capacity.next_eq]
    exact Nat.mod_lt _ capacity.size_pos
  lengthBound := Nat.le_of_succ_le represents.lengthBound
  headAt := by
    rw [capacity.next_eq, slot_advance]
    exact represents.headAt
  slotAt := by
    intro index other found
    rw [capacity.next_eq, slot_advance]
    have later : (element :: contents)[index + 1]? = some other := found
    exact represents.slotAt later
  stored := by
    intro index other found _
    have later : (element :: contents)[index + 1]? = some other := found
    exact represents.stored later (by simp)
  producerAt := by
    have shorter : contents.length < (element :: contents).length := Nat.lt_succ_self _
    have producerAt := represents.producerAt
    rw [ProducerAt] at producerAt ⊢
    cases position : state.producer <;> simp only [position] at producerAt ⊢
    case loadedHead value head => exact producerAt
    case allocated value slot => exact ⟨producerAt.1, by omega⟩
    case wrote value slot => exact ⟨producerAt.1, by omega, producerAt.2.2⟩
    case reloadedHead value slot head => exact ⟨producerAt.1, by omega, producerAt.2.2⟩
  consumerAt := trivial

/-- Clearing the oldest slot disturbs neither another element nor the slot the
producer is filling. -/
theorem Represents.clear {capacity : Capacity} {state : State α}
    {contents : List (Nat × α)} {element : Nat × α} {filler : α}
    (represents : Represents capacity state (element :: contents)) :
    Represents capacity
      { state with
          buffer := Function.update state.buffer state.tail filler
          consumer := .cleared element.1 element.2 state.tail } (element :: contents) where
  tailBound := represents.tailBound
  lengthBound := represents.lengthBound
  headAt := represents.headAt
  slotAt := represents.slotAt
  stored := by
    intro index other found uncleared
    have notOldest : index ≠ 0 := fun oldest => by simpa [Consumer.isCleared] using uncleared oldest
    have bound : index < (element :: contents).length := (List.getElem?_eq_some_iff.mp found).1
    have lengthLt := represents.lengthLt
    have different : other.1 ≠ state.tail := by
      rw [represents.slotAt found, Ne, slot_eq_base_iff represents.tailBound (by omega)]
      exact notOldest
    simp only [Function.update_of_ne different]
    exact represents.stored found fun oldest => absurd oldest notOldest
  producerAt := by
    have headNeTail : state.head ≠ state.tail :=
      mt represents.head_eq_tail_iff.mp (List.cons_ne_nil _ _)
    have producerAt := represents.producerAt
    rw [ProducerAt] at producerAt ⊢
    cases position : state.producer <;> simp only [position] at producerAt ⊢
    case loadedHead value head => exact producerAt
    case allocated value slot => exact producerAt
    case wrote value slot =>
      rcases producerAt with ⟨rfl, room, written⟩
      exact ⟨rfl, room, by rwa [Function.update_of_ne headNeTail]⟩
    case reloadedHead value slot head =>
      rcases producerAt with ⟨rfl, room, written, current⟩
      exact ⟨rfl, room, by rwa [Function.update_of_ne headNeTail], current⟩
  consumerAt := ⟨rfl, rfl⟩

theorem storeTail_simulated {capacity : Capacity} {state : State α}
    {contents : List (Nat × α)} (represents : Represents capacity state contents)
    {slot : Nat} {value : α} (oldest : contents.head? = some (slot, value)) :
    StepSimulated capacity contents (storeTail capacity state slot value state.tail) := by
  rcases List.head?_eq_some_iff.mp oldest with ⟨rest, rfl⟩
  exact .answered rfl .dequeue represents.release

theorem Represents.moveConsumer {capacity : Capacity} {state : State α}
    {contents : List (Nat × α)} (represents : Represents capacity state contents)
    {next : Consumer α} (uncleared : state.consumer.isCleared = false)
    (consumerAt : ConsumerAt { state with consumer := next } contents) :
    Represents capacity { state with consumer := next } contents :=
  { represents with
    stored := fun found _ => represents.stored found fun _ => uncleared
    producerAt := represents.producerAt
    consumerAt := consumerAt }

private theorem consumerStep_simulated [Inhabited α] {capacity : Capacity}
    {triviallyDestructible : Bool} {state : State α} {contents : List (Nat × α)}
    (represents : Represents capacity state contents) (call : ConsumerCall) :
    StepSimulated capacity contents
      (consumerStep capacity triviallyDestructible state call) := by
  have atConsumer := represents.consumerAt
  rw [ConsumerAt] at atConsumer
  cases position : state.consumer with
  | idle =>
      have uncleared : state.consumer.isCleared = false := by simp [position, Consumer.isCleared]
      simp only [consumerStep, position]
      exact .silent rfl (represents.moveConsumer uncleared rfl)
  | loadedTail tail =>
      have uncleared : state.consumer.isCleared = false := by simp [position, Consumer.isCleared]
      simp only [position] at atConsumer
      subst atConsumer
      simp only [consumerStep, position]
      split
      · rename_i empty
        rcases represents.head_eq_tail_iff.mp empty with rfl
        exact .answered rfl .findEmpty (represents.moveConsumer uncleared trivial)
      · rename_i nonempty
        exact .silent rfl (represents.moveConsumer uncleared
          ⟨rfl, mt represents.head_eq_tail_iff.mpr nonempty⟩)
  | located slot =>
      have uncleared : state.consumer.isCleared = false := by simp [position, Consumer.isCleared]
      simp only [position] at atConsumer
      rcases atConsumer with ⟨rfl, nonempty⟩
      rcases List.exists_cons_of_ne_nil nonempty with ⟨element, rest, rfl⟩
      simp only [consumerStep, position]
      exact .silent rfl (represents.moveConsumer uncleared
        (congrArg some (represents.read_oldest uncleared).symm))
  | holding slot value =>
      have uncleared : state.consumer.isCleared = false := by simp [position, Consumer.isCleared]
      simp only [position] at atConsumer
      cases call with
      | front =>
          simp only [consumerStep, position]
          exact .silent rfl (represents.moveConsumer uncleared rfl)
      | pop =>
          simp only [consumerStep, position]
          exact .silent rfl (represents.moveConsumer uncleared ⟨atConsumer, rfl⟩)
  | popping slot value tail =>
      simp only [position] at atConsumer
      rcases atConsumer with ⟨oldest, rfl⟩
      simp only [consumerStep, position]
      cases triviallyDestructible with
      | true => exact storeTail_simulated represents oldest
      | false =>
          rcases List.head?_eq_some_iff.mp oldest with ⟨rest, rfl⟩
          exact .silent rfl represents.clear
  | cleared slot value tail =>
      simp only [position] at atConsumer
      rcases atConsumer with ⟨oldest, rfl⟩
      simp only [consumerStep, position]
      exact storeTail_simulated represents oldest

def simulation [Inhabited α] (capacity : Capacity) (triviallyDestructible : Bool) :
    Simulation (machine (α := α) capacity triviallyDestructible)
      (BoundedQueue.Step capacity.usable) Event.visible where
  Relates := Represents capacity
  step := by
    intro state contents represents action
    cases action with
    | produce value => exact producerStep_simulated represents value
    | consume call => exact consumerStep_simulated represents call

end NetLatencyLab.SpscQueue
