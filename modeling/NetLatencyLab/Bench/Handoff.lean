import NetLatencyLab.Common.Internal.SpscQueueCalls
import NetLatencyLab.Common.SpscQueueContract
import NetLatencyLab.Bench.SpscBench

/-! # What `run_once` hands over

The consumer leaves on an empty queue that it finds after `producer_done`. By
then the producer has left its loop, so nothing can arrive behind the consumer's
back, and retries neither lose an item nor hand one over twice. -/

namespace NetLatencyLab.Bench

open SpscQueue (accepted delivered pushes unpopped)

def queueActions (elements : UInt64) (state : State) : Action → List (SpscQueue.Action Item)
  | .producer _ =>
      match state.producer.position with
      | .pushing index => if index < elements.toNat then [.produce (Item.numbered index)] else []
      | _ => []
  | .consumer _ =>
      match state.consumer.position with
      | .front => [.consume .front]
      | .rechecking => [.consume .front]
      | .pop => [.consume .pop]
      | _ => []

def queueProjection (elements : UInt64) :
    Projection (machine elements) (SpscQueue.machine queueCapacity true) where
  state := State.queue
  actions := queueActions elements
  step := by
    intro state action
    cases action with
    | producer monoNs =>
        cases position : state.producer.position with
        | pushing index =>
            simp only [queueActions, machine, step, producerStep, position]
            split <;> simp [SpscQueue.machine, SpscQueue.step]
        | joining =>
            simp only [queueActions, machine, step, producerStep, position]
            split <;> rfl
        | _ => simp [queueActions, machine, step, producerStep, position]
    | consumer monoNs =>
        cases position : state.consumer.position with
        | _ =>
            simp [queueActions, machine, step, consumerStep, position, SpscQueue.machine,
              SpscQueue.step]

/-! ## The two sides -/

/-- The items `0, …, count - 1`. -/
def numberedItems (count : Nat) : List Item := (List.range count).map Item.numbered

theorem numberedItems_succ (count : Nat) :
    numberedItems (count + 1) = numberedItems count ++ [Item.numbered count] := by
  rw [numberedItems, List.range_succ, List.map_append]
  rfl

theorem numberedItems_length (count : Nat) : (numberedItems count).length = count := by
  rw [numberedItems, List.length_map, List.length_range]

private theorem numberedItems_mono {fewer count : Nat} (le : fewer ≤ count) :
    numberedItems fewer <+: numberedItems count := by
  induction count, le using Nat.le_induction with
  | base => exact List.prefix_rfl
  | succ count _ induction =>
      rw [numberedItems_succ]
      exact induction.trans (List.prefix_append _ _)

/-- How many items have been pushed with success. -/
def Producer.sent (elements : UInt64) : Producer → Nat
  | .starting => 0
  | .pushing index => index
  | _ => elements.toNat

def Producer.isDone : Producer → Bool
  | .joining => true
  | .finished => true
  | _ => false

/-- After `producer_done` was seen. -/
def Consumer.isLeaving : Consumer → Bool
  | .rechecking => true
  | .exited => true
  | _ => false

/-- The producer against the results of its calls of `push`. -/
structure ProducerSide (elements : UInt64) (pushed : List (Item × Bool)) (pending : Option Item)
    (thread : ProducerThread) : Prop where
  sent : (pushed.filter fun push => push.2).map Prod.fst =
    numberedItems (thread.position.sent elements)
  dropped : thread.dropped = UInt64.ofNat (pushed.countP fun push => !push.2)
  bounded : thread.position.sent elements ≤ elements.toNat
  pending : ∀ item ∈ pending, ∃ index, thread.position = .pushing index ∧
    index < elements.toNat ∧ item = Item.numbered index

structure ConsumerSide (popped : List (Nat × Item)) (call : SpscQueue.Consumer Item)
    (thread : ConsumerThread) : Prop where
  consumed : thread.consumed = UInt64.ofNat popped.length
  holds : thread.position = .pop → ∃ item, call.held = some item
  between : thread.position ≠ .pop → call.isPopping = false

structure Invariant (elements : UInt64) (history : List (SpscQueue.Event Item)) (state : State) :
    Prop where
  producer : ProducerSide elements (pushes history) state.queue.producer.pending state.producer
  consumer : ConsumerSide (delivered history) state.queue.consumer state.consumer
  announced : state.producerDone = state.producer.position.isDone
  leaving : state.consumer.position.isLeaving → state.producerDone
  exited : state.consumer.position = .exited → unpopped history = []
  finished : state.producer.position = .finished → state.consumer.position = .exited

theorem start_invariant (elements : UInt64) : Invariant elements [] start where
  producer := {
    sent := rfl
    dropped := rfl
    bounded := Nat.zero_le _
    pending := nofun }
  consumer := {
    consumed := rfl
    holds := nofun
    between := fun _ => rfl }
  announced := rfl
  leaving := nofun
  exited := nofun
  finished := nofun

section Steps

variable {elements : UInt64} {history : List (SpscQueue.Event Item)} {state : State}

/-! ### The producer -/

theorem ProducerSide.move {pushed : List (Item × Bool)} {pending : Option Item}
    {thread moved : ProducerThread} (side : ProducerSide elements pushed pending thread)
    (outside : ∀ index, thread.position = .pushing index → ¬ index < elements.toNat)
    (sent : moved.position.sent elements = thread.position.sent elements)
    (dropped : moved.dropped = thread.dropped) :
    ProducerSide elements pushed pending moved where
  sent := by rw [sent, side.sent]
  dropped := by rw [dropped, side.dropped]
  bounded := by rw [sent]; exact side.bounded
  pending := by
    intro item member
    rcases side.pending item member with ⟨index, position, inside, _⟩
    exact absurd inside (outside index position)

theorem ProducerSide.returned {pushed : List (Item × Bool)} {pending : Option Item}
    {thread : ProducerThread} (side : ProducerSide elements pushed pending thread)
    {index : Nat} (position : thread.position = .pushing index) (inside : index < elements.toNat)
    (result : Bool) :
    ProducerSide elements (pushed ++ [(Item.numbered index, result)]) none
      (thread.pushed index result) := by
  have sent := side.sent
  have dropped := side.dropped
  rw [position, Producer.sent] at sent
  cases result with
  | true =>
      exact {
        sent := by
          rw [List.filter_append, List.map_append, sent]
          exact (numberedItems_succ index).symm
        dropped := by
          rw [List.countP_append]
          exact dropped
        bounded := inside
        pending := nofun }
  | false =>
      exact {
        sent := by
          rw [List.filter_append, List.map_append, sent, ProducerThread.pushed, if_neg (by decide),
            position]
          exact List.append_nil _
        dropped := by
          rw [List.countP_append, UInt64.ofNat_add, ← dropped]
          rfl
        bounded := by
          rw [ProducerThread.pushed, if_neg (by decide)]
          exact side.bounded
        pending := nofun }

theorem Invariant.of_producer (invariant : Invariant elements history state)
    (busy : state.producer.position.isDone = false)
    {events : List (SpscQueue.Event Item)} {queue : SpscQueue.State Item} {thread : ProducerThread}
    (poppedEqual : delivered (history ++ events) = delivered history)
    (consumer : queue.consumer = state.queue.consumer)
    (side : ProducerSide elements (pushes (history ++ events)) queue.producer.pending thread)
    (unannounced : thread.position.isDone = false) :
    Invariant elements (history ++ events) { state with queue := queue, producer := thread } := by
  have working : state.producerDone = false := by rw [invariant.announced, busy]
  exact {
    producer := side
    consumer := by
      rw [poppedEqual, consumer]
      exact invariant.consumer
    announced := working.trans unannounced.symm
    leaving := invariant.leaving
    exited := by
      intro ended
      have leaving := invariant.leaving
      rw [ended, working] at leaving
      cases leaving rfl
    finished := by
      intro ended
      rw [ended] at unannounced
      cases unannounced }

theorem Invariant.push (invariant : Invariant elements history state) {index : Nat}
    (position : state.producer.position = .pushing index) (inside : index < elements.toNat)
    (monoNs : UInt64) :
    Invariant elements (history ++ (producerStep elements state monoNs).2)
      (producerStep elements state monoNs).1 := by
  have side := invariant.producer
  have busy : state.producer.position.isDone = false := by rw [position]; rfl
  have calling : ∀ pending ∈ state.queue.producer.pending, pending = Item.numbered index := by
    intro pending member
    rcases side.pending pending member with ⟨pushing, samePosition, _, equal⟩
    rw [position] at samePosition
    rw [equal, Producer.pushing.inj samePosition]
  have outcome := SpscQueue.producerStep_cases queueCapacity state.queue calling
  have consumer := SpscQueue.producerStep_consumer queueCapacity state.queue (Item.numbered index)
  have unpopped := SpscQueue.producerStep_popped? queueCapacity state.queue (Item.numbered index)
  simp only [producerStep, position, if_pos inside]
  generalize SpscQueue.producerStep queueCapacity state.queue (Item.numbered index) = pushed at *
  have poppedEqual := SpscQueue.delivered_concat_of_none history unpopped
  rcases outcome with ⟨result, answer, idle⟩ | ⟨running, pending⟩
  · simp only [answer]
    apply invariant.of_producer busy poppedEqual consumer
    · rw [SpscQueue.pushes_concat, answer, idle]
      exact side.returned position inside result
    · cases result <;> rw [ProducerThread.pushed]
      · rw [if_neg (by decide), position]
        rfl
      · rfl
  · simp only [running]
    apply invariant.of_producer busy poppedEqual consumer
    · rw [SpscQueue.pushes_concat_of_none history running, pending]
      exact { side with
        pending := by
          intro item member
          exact ⟨index, position, inside, (Option.some.inj member).symm⟩ }
    · rw [position]
      rfl

theorem Invariant.announce (invariant : Invariant elements history state)
    (position : state.producer.position = .announcing) :
    Invariant elements history
      { state with
        producerDone := true
        producer := { state.producer with position := .joining } } where
  producer := invariant.producer.move (by rw [position]; nofun) (by rw [position]; rfl) rfl
  consumer := invariant.consumer
  announced := rfl
  leaving := fun _ => rfl
  exited := invariant.exited
  finished := nofun

theorem Invariant.join (invariant : Invariant elements history state)
    (position : state.producer.position = .joining) (exited : state.consumer.position = .exited) :
    Invariant elements history
      { state with producer := { state.producer with position := .finished } } where
  producer := invariant.producer.move (by rw [position]; nofun) (by rw [position]; rfl) rfl
  consumer := invariant.consumer
  announced := by rw [invariant.announced, position]; rfl
  leaving := invariant.leaving
  exited := invariant.exited
  finished := fun _ => exited

private theorem producerStep_invariant (invariant : Invariant elements history state)
    (monoNs : UInt64) :
    Invariant elements (history ++ (producerStep elements state monoNs).2)
      (producerStep elements state monoNs).1 := by
  have side := invariant.producer
  have same : history ++ [] = history := List.append_nil history
  cases position : state.producer.position with
  | starting =>
      simp only [producerStep, position]
      apply invariant.of_producer (by rw [position]; rfl) (by rw [same]) rfl
      · rw [same]
        exact side.move (by rw [position]; nofun) (by rw [position]; rfl) rfl
      · rfl
  | pushing index =>
      by_cases inside : index < elements.toNat
      · exact invariant.push position inside monoNs
      · have sentAll : index = elements.toNat := by
          have bounded := side.bounded
          rw [position, Producer.sent] at bounded
          exact Nat.le_antisymm bounded (Nat.le_of_not_lt inside)
        simp only [producerStep, position, if_neg inside]
        apply invariant.of_producer (by rw [position]; rfl) (by rw [same]) rfl
        · rw [same]
          apply side.move
          · intro pushing samePosition
            rw [position] at samePosition
            rw [← Producer.pushing.inj samePosition]
            exact inside
          · rw [position]
            exact sentAll.symm
          · rfl
        · rfl
  | announcing =>
      simp only [producerStep, position, same]
      exact invariant.announce position
  | joining =>
      simp only [producerStep, position]
      split
      · rename_i exited
        rw [same]
        exact invariant.join position exited
      · rw [same]
        exact invariant
  | finished =>
      simp only [producerStep, position, same]
      exact invariant

/-! ### The consumer -/

theorem Invariant.of_consumer (invariant : Invariant elements history state)
    (running : state.consumer.position ≠ .exited)
    {events : List (SpscQueue.Event Item)} {queue : SpscQueue.State Item} {thread : ConsumerThread}
    (pushedEqual : pushes (history ++ events) = pushes history)
    (producer : queue.producer = state.queue.producer)
    (side : ConsumerSide (delivered (history ++ events)) queue.consumer thread)
    (leaving : thread.position.isLeaving → state.producerDone)
    (exited : thread.position = .exited → unpopped (history ++ events) = []) :
    Invariant elements (history ++ events) { state with queue := queue, consumer := thread } where
  producer := by
    rw [pushedEqual, producer]
    exact invariant.producer
  consumer := side
  announced := invariant.announced
  leaving := leaving
  exited := exited
  finished := fun ended => absurd (invariant.finished ended) running

theorem ConsumerSide.move {popped : List (Nat × Item)} {call next : SpscQueue.Consumer Item}
    {thread moved : ConsumerThread} (side : ConsumerSide popped call thread)
    (consumed : moved.consumed = thread.consumed) (between : next.isPopping = false)
    (holds : moved.position = .pop → ∃ item, next.held = some item) :
    ConsumerSide popped next moved where
  consumed := by rw [consumed, side.consumed]
  holds := holds
  between := fun _ => between

theorem ConsumerThread.fronted_position {thread : ConsumerThread}
    (position : thread.position = .front) (answer : Option (Option Item)) :
    (thread.fronted answer).position = .front ∨ (thread.fronted answer).position = .checking ∨
      (thread.fronted answer).position = .pop ∧ ∃ item, answer = some (some item) := by
  cases answer with
  | none => exact .inl position
  | some found =>
      cases found with
      | none => exact .inr (.inl rfl)
      | some item => exact .inr (.inr ⟨rfl, item, rfl⟩)

theorem ConsumerThread.fronted_consumed (thread : ConsumerThread)
    (answer : Option (Option Item)) : (thread.fronted answer).consumed = thread.consumed := by
  cases answer with
  | none => rfl
  | some found => cases found <;> rfl

theorem ConsumerThread.rechecked_position {thread : ConsumerThread}
    (position : thread.position = .rechecking) (answer : Option (Option Item))
    (monoNs : UInt64) :
    (thread.rechecked answer monoNs).position = .rechecking ∨
      (thread.rechecked answer monoNs).position = .front ∨
      (thread.rechecked answer monoNs).position = .exited ∧ answer = some none := by
  cases answer with
  | none => exact .inl position
  | some found =>
      cases found with
      | none => exact .inr (.inr ⟨rfl, rfl⟩)
      | some item => exact .inr (.inl rfl)

theorem ConsumerThread.rechecked_consumed (thread : ConsumerThread)
    (answer : Option (Option Item)) (monoNs : UInt64) :
    (thread.rechecked answer monoNs).consumed = thread.consumed := by
  cases answer with
  | none => rfl
  | some found => cases found <;> rfl

theorem Invariant.fronted (invariant : Invariant elements history state)
    (between : state.queue.consumer.isPopping = false)
    (running : state.consumer.position ≠ .exited) {moved : ConsumerThread}
    (consumed : moved.consumed = state.consumer.consumed)
    (holds : moved.position = .pop → ∃ item,
      (SpscQueue.consumerStep queueCapacity true state.queue .front).2.frontAnswer? =
        some (some item))
    (leaving : moved.position.isLeaving → state.producerDone)
    (exited : moved.position = .exited →
      unpopped (history ++ [(SpscQueue.consumerStep queueCapacity true state.queue .front).2]) =
        []) :
    Invariant elements
      (history ++ [(SpscQueue.consumerStep queueCapacity true state.queue .front).2])
      { state with
        queue := (SpscQueue.consumerStep queueCapacity true state.queue .front).1
        consumer := moved } := by
  have outcome := SpscQueue.frontStep_unpopped queueCapacity state.queue true between
  have producer := SpscQueue.consumerStep_producer queueCapacity state.queue true .front
  have silent := SpscQueue.consumerStep_pushAnswer? queueCapacity state.queue true .front
  have pushedEqual := SpscQueue.pushes_concat_of_none history silent
  have poppedEqual := SpscQueue.delivered_concat_of_none history outcome.1
  apply invariant.of_consumer running pushedEqual producer _ leaving exited
  rw [poppedEqual]
  apply invariant.consumer.move consumed outcome.2.1
  intro popping
  rcases holds popping with ⟨item, found⟩
  exact ⟨item, outcome.2.2 item found⟩

theorem Invariant.front (invariant : Invariant elements history state)
    (position : state.consumer.position = .front) (monoNs : UInt64) :
    Invariant elements (history ++ (consumerStep state monoNs).2)
      (consumerStep state monoNs).1 := by
  have between := invariant.consumer.between (by rw [position]; nofun)
  have reaches := ConsumerThread.fronted_position position
    (SpscQueue.consumerStep queueCapacity true state.queue .front).2.frontAnswer?
  have stays : (state.consumer.fronted
      (SpscQueue.consumerStep queueCapacity true state.queue .front).2.frontAnswer?
        ).position.isLeaving = false := by
    rcases reaches with again | empty | ⟨pop, _⟩
    · rw [again]
      rfl
    · rw [empty]
      rfl
    · rw [pop]
      rfl
  simp only [consumerStep, position]
  apply invariant.fronted between (by rw [position]; nofun) (state.consumer.fronted_consumed _)
  · intro popping
    rcases reaches with again | empty | ⟨_, found⟩
    · rw [again] at popping
      cases popping
    · rw [empty] at popping
      cases popping
    · exact found
  · rw [stays]
    nofun
  · intro exited
    rw [exited] at stays
    cases stays

theorem Invariant.recheck (invariant : Invariant elements history state)
    (represents : SpscQueue.Represents queueCapacity state.queue (unpopped history))
    (position : state.consumer.position = .rechecking) (monoNs : UInt64) :
    Invariant elements (history ++ (consumerStep state monoNs).2)
      (consumerStep state monoNs).1 := by
  have between := invariant.consumer.between (by rw [position]; nofun)
  have done : state.producerDone := invariant.leaving (by rw [position]; rfl)
  have reaches := ConsumerThread.rechecked_position position
    (SpscQueue.consumerStep queueCapacity true state.queue .front).2.frontAnswer? monoNs
  simp only [consumerStep, position]
  apply invariant.fronted between (by rw [position]; nofun)
    (state.consumer.rechecked_consumed _ monoNs)
  · intro popping
    rcases reaches with again | found | ⟨exited, _⟩
    · rw [again] at popping
      cases popping
    · rw [found] at popping
      cases popping
    · rw [exited] at popping
      cases popping
  · exact fun _ => done
  · intro exited
    rcases reaches with again | found | ⟨_, nothing⟩
    · rw [again] at exited
      cases exited
    · rw [found] at exited
      cases exited
    · have empty := SpscQueue.eq_empty_of_frontAnswer? nothing
      rw [empty, SpscQueue.unpopped_concat_empty]
      exact represents.eq_nil_of_front empty

theorem Invariant.pop (invariant : Invariant elements history state)
    (position : state.consumer.position = .pop) (monoNs : UInt64) :
    Invariant elements (history ++ (consumerStep state monoNs).2)
      (consumerStep state monoNs).1 := by
  have side := invariant.consumer
  have running : state.consumer.position ≠ .exited := by rw [position]; nofun
  rcases side.holds position with ⟨item, holding⟩
  rcases SpscQueue.popStep_cases queueCapacity state.queue holding with ⟨_, outcome⟩
  have producer := SpscQueue.consumerStep_producer queueCapacity state.queue true .pop
  have silent := SpscQueue.consumerStep_pushAnswer? queueCapacity state.queue true .pop
  simp only [consumerStep, position]
  generalize SpscQueue.consumerStep queueCapacity true state.queue .pop = popped at *
  have pushedEqual := SpscQueue.pushes_concat_of_none history silent
  rcases outcome with ⟨slot, returned, idle⟩ | ⟨busy, held⟩
  · rw [returned, Option.isSome_some, ConsumerThread.popped, if_pos rfl]
    refine invariant.of_consumer running pushedEqual producer ?_ nofun nofun
    rw [SpscQueue.delivered_concat, returned, idle]
    exact {
      consumed := by
        rw [List.length_append, UInt64.ofNat_add, ← side.consumed]
        rfl
      holds := nofun
      between := fun _ => rfl }
  · rw [busy, Option.isSome_none, ConsumerThread.popped, if_neg (by decide)]
    apply invariant.of_consumer running pushedEqual producer
    · rw [SpscQueue.delivered_concat_of_none history busy]
      exact {
        consumed := side.consumed
        holds := fun _ => ⟨item, held⟩
        between := fun elsewhere => absurd position elsewhere }
    · rw [position]
      nofun
    · rw [position]
      nofun

private theorem consumerStep_invariant (invariant : Invariant elements history state)
    (represents : SpscQueue.Represents queueCapacity state.queue (unpopped history))
    (monoNs : UInt64) :
    Invariant elements (history ++ (consumerStep state monoNs).2)
      (consumerStep state monoNs).1 := by
  have side := invariant.consumer
  cases position : state.consumer.position with
  | starting =>
      simp only [consumerStep, position]
      refine invariant.of_consumer (by rw [position]; nofun) (by rw [List.append_nil]) rfl ?_
        nofun nofun
      rw [List.append_nil]
      exact side.move rfl (side.between (by rw [position]; nofun)) nofun
  | front => exact invariant.front position monoNs
  | checking =>
      simp only [consumerStep, position]
      apply invariant.of_consumer (by rw [position]; nofun) (by rw [List.append_nil]) rfl
      · rw [List.append_nil]
        refine side.move rfl (side.between (by rw [position]; nofun)) ?_
        cases state.producerDone <;> nofun
      · cases state.producerDone <;> simp [Consumer.isLeaving]
      · cases state.producerDone <;> nofun
  | rechecking => exact invariant.recheck represents position monoNs
  | pop => exact invariant.pop position monoNs
  | exited =>
      simp only [consumerStep, position, List.append_nil]
      exact invariant

theorem step_invariant (invariant : Invariant elements history state)
    (represents : SpscQueue.Represents queueCapacity state.queue (unpopped history))
    (action : Action) :
    Invariant elements (history ++ (step elements state action).2)
      (step elements state action).1 := by
  cases action with
  | producer monoNs => exact producerStep_invariant invariant monoNs
  | consumer monoNs => exact consumerStep_invariant invariant represents monoNs

/-! ## Whole runs -/

theorem Invariant.popped_append_waiting (invariant : Invariant elements history state)
    (conserved : accepted history = delivered history ++ unpopped history) :
    (delivered history).map Prod.snd ++ (unpopped history).map Prod.snd =
      numberedItems (state.producer.position.sent elements) := by
  rw [← List.map_append, ← conserved, SpscQueue.accepted_values_eq]
  exact invariant.producer.sent

end Steps

/-- What holds after any schedule. -/
theorem run_holds (elements : UInt64) (schedule : List Action) :
    let outcome := (machine elements).run start schedule
    (SpscQueue.Represents queueCapacity outcome.1.queue (unpopped outcome.2) ∧
        accepted outcome.2 = delivered outcome.2 ++ unpopped outcome.2) ∧
      Invariant elements outcome.2 outcome.1 := by
  apply (queueProjection elements).run_invariant
    fun history queue =>
      SpscQueue.Represents queueCapacity queue (unpopped history) ∧
        accepted history = delivered history ++ unpopped history
  · exact SpscQueue.run_represents queueCapacity true fun _ => default
  · exact start_invariant elements
  · intro history state action guarantee invariant
    exact step_invariant invariant guarantee.1 action

/-- The two threads of `run_once` under every interleaving. At any time the
consumer has taken a prefix of the items in order, and once the producer has
joined it has taken all of them and the queue is empty. The reported overflows
are the calls of `push` that failed. -/
theorem run_once_hands_over (elements : UInt64) (schedule : List Action) :
    let outcome := (machine elements).run start schedule
    let popped := (delivered outcome.2).map Prod.snd
    let consumed := outcome.1.consumer.consumed
    popped <+: numberedItems elements.toNat ∧
      consumed = UInt64.ofNat popped.length ∧
      (result outcome.1).overflows =
        UInt64.ofNat ((pushes outcome.2).countP fun push => !push.2) ∧
      (outcome.1.producer.position = .finished →
        popped = numberedItems elements.toNat ∧ consumed = elements ∧
          outcome.1.queue.head = outcome.1.queue.tail) := by
  intro outcome popped consumed
  rcases run_holds elements schedule with ⟨⟨represents, conserved⟩, invariant⟩
  have together := invariant.popped_append_waiting conserved
  have counted : consumed = UInt64.ofNat popped.length := by
    rw [List.length_map]
    exact invariant.consumer.consumed
  refine ⟨?_, counted, invariant.producer.dropped, ?_⟩
  · apply List.IsPrefix.trans _ (numberedItems_mono invariant.producer.bounded)
    rw [← together]
    exact List.prefix_append _ _
  · intro finished
    have empty := invariant.exited (invariant.finished finished)
    have all : popped = numberedItems elements.toNat := by
      rw [empty, List.map_nil, List.append_nil, finished] at together
      exact together
    rw [empty] at represents
    refine ⟨all, ?_, represents.head_eq_tail_iff.mpr rfl⟩
    rw [counted, all, numberedItems_length]
    exact UInt64.ofNat_toNat

/-! ## A short run -/

/-- The consumer finds the queue empty just before the last push and
`producer_done`; its second look finds the item. -/
def lateSchedule : List Action :=
  [.producer 100, .consumer 100] ++ List.replicate 5 (.producer 0) ++
    List.replicate 7 (.consumer 0) ++ List.replicate 5 (.producer 0) ++
    [.producer 180, .producer 0] ++ List.replicate 13 (.consumer 0) ++
    [.consumer 200, .producer 0]

theorem late_item_is_handed_over :
    let outcome := (machine 2).run start lateSchedule
    (result outcome.1).consumerElapsedNs = 100 ∧
      (delivered outcome.2).map Prod.snd = numberedItems 2 :=
  ⟨rfl, ((run_once_hands_over 2 lateSchedule).2.2.2 rfl).1⟩

end NetLatencyLab.Bench
