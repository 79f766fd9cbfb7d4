import NetLatencyLab.Common.Internal.SpscQueueCalls
import NetLatencyLab.Common.Internal.SpscQueueRefinement

/-! # What the queue guarantees under every schedule -/

namespace NetLatencyLab.SpscQueue

variable {α : Type*}

private theorem accepted_eq_enqueued (events : List (Event α)) :
    accepted events = BoundedQueue.enqueued (events.filterMap Event.visible) := by
  rw [accepted, BoundedQueue.enqueued, List.filterMap_filterMap]
  congr 1
  funext event
  cases event <;> rfl

private theorem delivered_eq_dequeued (events : List (Event α)) :
    delivered events = BoundedQueue.dequeued (events.filterMap Event.visible) := by
  rw [delivered, BoundedQueue.dequeued, List.filterMap_filterMap]
  congr 1
  funext event
  cases event <;> rfl

variable [Inhabited α]

/-- After every run the ring holds exactly the unpopped elements, and together
with the delivered ones they are the accepted ones in order. -/
theorem run_represents (capacity : Capacity) (triviallyDestructible : Bool)
    (buffer : Nat → α) (schedule : List (Action α)) :
    let outcome := (machine capacity triviallyDestructible).run (initial buffer) schedule
    Represents capacity outcome.1 (unpopped outcome.2) ∧
      accepted outcome.2 = delivered outcome.2 ++ unpopped outcome.2 := by
  intro outcome
  rcases (simulation capacity triviallyDestructible).run schedule
    (initial_represents capacity buffer) with ⟨final, trace, represents⟩
  have conserved := BoundedQueue.conservation trace
  rw [List.nil_append, ← accepted_eq_enqueued, ← delivered_eq_dequeued] at conserved
  have waiting : unpopped outcome.2 = final := by
    rw [unpopped, conserved, List.drop_left]
  exact ⟨waiting ▸ represents, waiting ▸ conserved⟩

section NextAccess

variable {capacity : Capacity} {triviallyDestructible : Bool} {state : State α}
  {contents : List (Nat × α)}

theorem Represents.slotWritten_free (represents : Represents capacity state contents)
    {action : Action α} {slot : Nat}
    (writes : (step capacity triviallyDestructible state action).2 = .slotWritten slot) :
    slot < capacity.size ∧ slot ∉ contents.map Prod.fst := by
  have producerAt := represents.producerAt
  rw [ProducerAt] at producerAt
  cases action with
  | consume call =>
      simp only [step, consumerStep, storeTail] at writes
      split at writes <;> (try split at writes) <;> cases writes
  | produce next =>
      have atHead : slot = state.head := by
        simp only [step, producerStep] at writes
        cases position : state.producer <;> simp only [position] at writes producerAt
        case allocated value free =>
          cases writes
          exact producerAt.1
        case loadedHead value head => split at writes <;> cases writes
        all_goals cases writes
      subst atHead
      constructor
      · rw [represents.headAt]
        exact RingIndex.slot_lt represents.tailBound
      · intro member
        rcases List.mem_map.mp member with ⟨element, waiting, equal⟩
        rcases List.mem_iff_getElem?.mp waiting with ⟨index, found⟩
        exact represents.slot_ne_head found equal

theorem Represents.full_exact (represents : Represents capacity state contents)
    {action : Action α} {value : α}
    (fails : (step capacity triviallyDestructible state action).2 = .full value) :
    contents.length = capacity.usable := by
  have producerAt := represents.producerAt
  rw [ProducerAt] at producerAt
  cases action with
  | consume call =>
      simp only [step, consumerStep, storeTail] at fails
      split at fails <;> (try split at fails) <;> cases fails
  | produce next =>
      simp only [step, producerStep] at fails
      cases position : state.producer <;> simp only [position] at fails producerAt
      case loadedHead pushed head =>
        subst producerAt
        split at fails
        · rename_i full
          exact represents.next_head_eq_tail_iff.mp full
        · cases fails
      all_goals cases fails

theorem Represents.empty_exact (represents : Represents capacity state contents)
    {action : Action α}
    (reports : (step capacity triviallyDestructible state action).2 = .empty) :
    contents = [] := by
  have consumerAt := represents.consumerAt
  rw [ConsumerAt] at consumerAt
  cases action with
  | produce next =>
      simp only [step, producerStep] at reports
      split at reports <;> (try split at reports) <;> cases reports
  | consume call =>
      simp only [step, consumerStep, storeTail] at reports
      cases position : state.consumer <;> simp only [position] at reports consumerAt
      case loadedTail tail =>
        subst consumerAt
        split at reports
        · rename_i empty
          exact represents.head_eq_tail_iff.mp empty
        · cases reports
      case holding slot value => cases call <;> cases reports
      case popping slot value tail => split at reports <;> cases reports
      all_goals cases reports

theorem Represents.not_full (represents : Represents capacity state contents)
    (room : contents.length < capacity.usable) (value refused : α) :
    (producerStep capacity state value).2 ≠ .full refused := by
  intro full
  have fails : (step capacity true state (.produce value)).2 = .full refused := full
  exact absurd (represents.full_exact fails) (Nat.ne_of_lt room)

theorem Represents.eq_nil_of_front (represents : Represents capacity state contents)
    (empty : (consumerStep capacity triviallyDestructible state .front).2 = .empty) :
    contents = [] := by
  have reports : (step capacity triviallyDestructible state (.consume .front)).2 = .empty := empty
  exact represents.empty_exact reports

theorem Represents.slotRead_oldest (represents : Represents capacity state contents)
    {action : Action α} {slot : Nat} {value : α}
    (reads : (step capacity triviallyDestructible state action).2 = .slotRead slot value) :
    contents.head? = some (slot, value) := by
  have consumerAt := represents.consumerAt
  rw [ConsumerAt] at consumerAt
  cases action with
  | produce next =>
      simp only [step, producerStep] at reads
      split at reads <;> (try split at reads) <;> cases reads
  | consume call =>
      simp only [step, consumerStep, storeTail] at reads
      cases position : state.consumer <;> simp only [position] at reads consumerAt
      case located tail =>
        rcases consumerAt with ⟨rfl, nonempty⟩
        rcases List.exists_cons_of_ne_nil nonempty with ⟨element, rest, rfl⟩
        have uncleared : state.consumer.isCleared = false := by
          simp [position, Consumer.isCleared]
        cases reads
        rw [represents.read_oldest uncleared]
        rfl
      case loadedTail tail => split at reads <;> cases reads
      case holding slot value => cases call <;> cases reads
      case popping slot value tail => split at reads <;> cases reads
      all_goals cases reads

omit [Inhabited α] in
theorem Represents.length_ne_zero (represents : Represents capacity state contents) {value : α}
    (held : state.consumer.held = some value) : contents.length ≠ 0 := by
  have consumerAt := represents.consumerAt
  rw [ConsumerAt] at consumerAt
  intro nothing
  rw [List.length_eq_zero_iff.mp nothing] at consumerAt
  cases position : state.consumer <;> simp only [position] at held consumerAt
  case holding slot found => cases consumerAt
  case popping slot found tail => cases consumerAt.1
  case cleared slot found tail => cases consumerAt.1
  all_goals cases held

end NextAccess

/-- The queue contract. Along every schedule the popped values are a prefix of
the accepted ones, at most `Capacity - 1` elements wait, and the next access
neither overwrites a waiting slot nor reports full or empty without cause. -/
theorem spsc_contract (capacity : Capacity) (triviallyDestructible : Bool)
    (buffer : Nat → α) (schedule : List (Action α)) :
    let outcome := (machine capacity triviallyDestructible).run (initial buffer) schedule
    let answer := fun action => (step capacity triviallyDestructible outcome.1 action).2
    let history := outcome.2
    (delivered history).map Prod.snd <+: (accepted history).map Prod.snd ∧
      (unpopped history).length ≤ capacity.size - 1 ∧
      (∀ action slot, answer action = .slotWritten slot →
        slot ∉ (unpopped history).map Prod.fst) ∧
      (∀ action value, answer action = .full value →
        (unpopped history).length = capacity.size - 1) ∧
      (∀ action, answer action = .empty → accepted history = delivered history) ∧
      (∀ action slot value, answer action = .slotRead slot value →
        (delivered history).map Prod.snd ++ [value] <+: (accepted history).map Prod.snd) := by
  intro outcome answer history
  obtain ⟨represents, conserved⟩ : Represents capacity outcome.1 (unpopped history) ∧
      accepted history = delivered history ++ unpopped history :=
    run_represents capacity triviallyDestructible buffer schedule
  refine ⟨?_, represents.lengthBound, ?_, ?_, ?_, ?_⟩
  · rw [conserved, List.map_append]
    exact List.prefix_append _ _
  · intro action slot writes
    exact (represents.slotWritten_free writes).2
  · intro action value fails
    exact represents.full_exact fails
  · intro action reports
    have nothing := represents.empty_exact reports
    simpa [nothing] using conserved
  · intro action slot value reads
    rcases List.head?_eq_some_iff.mp (represents.slotRead_oldest reads) with ⟨rest, waiting⟩
    refine ⟨rest.map Prod.snd, ?_⟩
    rw [conserved, waiting]
    simp

/-- A ring of two slots takes one element, refuses a second, and takes it after
the first has been popped. -/
example :
    let outcome := (machine ⟨2, 1, by decide, rfl⟩ true).run (initial fun _ => 0)
      (List.replicate 5 (.produce 7) ++ List.replicate 2 (.produce 8) ++
        List.replicate 3 (.consume .front) ++ List.replicate 2 (.consume .pop) ++
        List.replicate 5 (.produce 8))
    accepted outcome.2 = [(0, 7), (1, 8)] ∧ delivered outcome.2 = [(0, 7)] := by
  decide

end NetLatencyLab.SpscQueue
