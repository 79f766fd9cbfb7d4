import NetLatencyLab.Bench.Handoff

/-! # `run_once` can always be brought to its end

A rank counts the accesses that are left when the producer moves only while the
queue is empty and the consumer in all other cases. No retry and no idle look of
the consumer is needed then, so each of these steps lowers the rank. -/

namespace NetLatencyLab.Bench

open SpscQueue (accepted delivered unpopped)

/-- An unsent item costs the producer five accesses; the rest of its share pays
for what the consumer does with it. -/
def Producer.rank (elements : UInt64) (call : SpscQueue.Producer Item) : Producer → Nat
  | .starting => 30 * elements.toNat + 8
  | .pushing index => 30 * (elements.toNat - index) + 3 + call.left
  | .announcing => 2
  | .joining => 1
  | .finished => 0

/-- A `front` leads to `pop` while something waits, and to the exit otherwise. -/
def Consumer.rank (waiting : Nat) (call : SpscQueue.Consumer Item) : Consumer → Nat
  | .starting => 20
  | .front => (if waiting = 0 then 16 else 8) + call.frontLeft
  | .checking => 15
  | .rechecking => 12 + call.frontLeft
  | .pop => 4 + call.popLeft
  | .exited => 0

def rank (elements : UInt64) (history : List (SpscQueue.Event Item)) (state : State) : Nat :=
  state.producer.position.rank elements state.queue.producer + 21 * (unpopped history).length +
    state.consumer.position.rank (unpopped history).length state.queue.consumer

theorem Consumer.rank_le (waiting : Nat) (call : SpscQueue.Consumer Item) (position : Consumer) :
    position.rank waiting call ≤ position.rank 0 call := by
  cases position with
  | front =>
      rw [rank, rank]
      split <;> simp
  | _ => rfl

section Steps

variable {elements : UInt64} {history : List (SpscQueue.Event Item)} {state : State}

private theorem push_lowers
    (represents : SpscQueue.Represents queueCapacity state.queue (unpopped history))
    (conserved : accepted history = delivered history ++ unpopped history)
    (empty : unpopped history = []) {index : Nat}
    (position : state.producer.position = .pushing index) (inside : index < elements.toNat)
    (monoNs : UInt64) :
    rank elements (history ++ (producerStep elements state monoNs).2)
      (producerStep elements state monoNs).1 < rank elements history state := by
  have outcome := SpscQueue.producerStep_advances queueCapacity state.queue (Item.numbered index)
  have consumer := SpscQueue.producerStep_consumer queueCapacity state.queue (Item.numbered index)
  have unpopped := SpscQueue.producerStep_popped? queueCapacity state.queue (Item.numbered index)
  have refused := represents.not_full (by rw [empty]; decide) (Item.numbered index)
  have waiting := SpscQueue.unpopped_length_concat history conserved
    (SpscQueue.producerStep queueCapacity state.queue (Item.numbered index)).2
  rw [unpopped, Option.toList_none, List.length_nil, Nat.sub_zero] at waiting
  simp only [rank, producerStep, position, if_pos inside, consumer, Producer.rank]
  generalize SpscQueue.producerStep queueCapacity state.queue (Item.numbered index) = pushed at *
  rcases outcome with ⟨item, full⟩ | ⟨slot, item, published⟩ | ⟨running, nearer⟩
  · exact absurd full (refused item)
  · have more : (SpscQueue.unpopped (history ++ [pushed.2])).length = 1 := by
      rw [waiting, published, empty]
      rfl
    have left := pushed.1.producer.left_le
    have nearer := state.consumer.position.rank_le 1 state.queue.consumer
    rw [more, empty, published]
    simp only [SpscQueue.Event.pushAnswer?, ProducerThread.pushed, if_true, List.length_nil]
    omega
  · have same : (SpscQueue.unpopped (history ++ [pushed.2])).length =
        (SpscQueue.unpopped history).length := by
      rw [waiting, SpscQueue.published?_of_pushAnswer? running]
      rfl
    rw [same]
    simp only [running, position]
    omega

private theorem producer_lowers
    (represents : SpscQueue.Represents queueCapacity state.queue (unpopped history))
    (conserved : accepted history = delivered history ++ unpopped history)
    (empty : unpopped history = []) (busy : state.producer.position.isDone = false)
    (monoNs : UInt64) :
    rank elements (history ++ (producerStep elements state monoNs).2)
      (producerStep elements state monoNs).1 < rank elements history state := by
  have left := state.queue.producer.left_le
  cases position : state.producer.position with
  | starting =>
      simp only [rank, producerStep, position, List.append_nil, Producer.rank]
      omega
  | pushing index =>
      by_cases inside : index < elements.toNat
      · exact push_lowers represents conserved empty position inside monoNs
      · simp only [rank, producerStep, position, if_neg inside, List.append_nil, Producer.rank]
        omega
  | announcing =>
      simp only [rank, producerStep, position, List.append_nil, Producer.rank]
      omega
  | joining =>
      rw [position] at busy
      cases busy
  | finished =>
      rw [position] at busy
      cases busy

theorem front_waiting (conserved : accepted history = delivered history ++ unpopped history)
    (between : state.queue.consumer.isPopping = false) :
    (unpopped (history ++
      [(SpscQueue.consumerStep queueCapacity true state.queue .front).2])).length =
        (unpopped history).length := by
  have kept := (SpscQueue.frontStep_unpopped queueCapacity state.queue true between).1
  have silent := SpscQueue.consumerStep_pushAnswer? queueCapacity state.queue true .front
  rw [SpscQueue.unpopped_length_concat history conserved, kept,
    SpscQueue.published?_of_pushAnswer? silent]
  rfl

theorem front_outcome
    (represents : SpscQueue.Represents queueCapacity state.queue (unpopped history))
    (between : state.queue.consumer.isPopping = false) :
    let next := SpscQueue.consumerStep queueCapacity true state.queue .front
    (next.2.frontAnswer? = some none ∧ (unpopped history).length = 0) ∨
      (∃ item, next.2.frontAnswer? = some (some item) ∧ (unpopped history).length ≠ 0) ∨
      (next.2.frontAnswer? = none ∧
        next.1.consumer.frontLeft < state.queue.consumer.frontLeft) := by
  intro next
  have first : ∀ slot item, (SpscQueue.step queueCapacity true state.queue (.consume .front)).2 =
      .slotRead slot item → (unpopped history).head? = some (slot, item) :=
    fun _ _ read => represents.slotRead_oldest read
  rcases SpscQueue.frontStep_advances queueCapacity state.queue true between with
    empty | ⟨slot, item, read⟩ | ⟨silent, nearer⟩
  · have nothing := represents.eq_nil_of_front empty
    exact .inl ⟨congrArg SpscQueue.Event.frontAnswer? empty, by rw [nothing]; rfl⟩
  · have oldest := first slot item read
    refine .inr (.inl ⟨item, congrArg SpscQueue.Event.frontAnswer? read, ?_⟩)
    intro nothing
    rw [List.length_eq_zero_iff.mp nothing] at oldest
    cases oldest
  · exact .inr (.inr ⟨silent, nearer⟩)

private theorem front_lowers
    (represents : SpscQueue.Represents queueCapacity state.queue (unpopped history))
    (conserved : accepted history = delivered history ++ unpopped history)
    (between : state.queue.consumer.isPopping = false)
    (position : state.consumer.position = .front) (monoNs : UInt64) :
    rank elements (history ++ (consumerStep state monoNs).2) (consumerStep state monoNs).1 <
      rank elements history state := by
  have waiting := front_waiting conserved between
  have outcome := front_outcome represents between
  have producer := SpscQueue.consumerStep_producer queueCapacity state.queue true .front
  simp only [rank, consumerStep, position, producer, waiting, Consumer.rank]
  generalize SpscQueue.consumerStep queueCapacity true state.queue .front = fronted at *
  have pop := fronted.1.consumer.popLeft_le
  rcases outcome with ⟨answer, nothing⟩ | ⟨item, answer, waits⟩ | ⟨answer, nearer⟩
  · simp only [answer, ConsumerThread.fronted, nothing, if_true]
    omega
  · simp only [answer, ConsumerThread.fronted, if_neg waits]
    omega
  · simp only [answer, ConsumerThread.fronted, position]
    omega

private theorem recheck_lowers
    (represents : SpscQueue.Represents queueCapacity state.queue (unpopped history))
    (conserved : accepted history = delivered history ++ unpopped history)
    (between : state.queue.consumer.isPopping = false)
    (position : state.consumer.position = .rechecking) (monoNs : UInt64) :
    rank elements (history ++ (consumerStep state monoNs).2) (consumerStep state monoNs).1 <
      rank elements history state := by
  have waiting := front_waiting conserved between
  have outcome := front_outcome represents between
  have producer := SpscQueue.consumerStep_producer queueCapacity state.queue true .front
  simp only [rank, consumerStep, position, producer, waiting, Consumer.rank]
  generalize SpscQueue.consumerStep queueCapacity true state.queue .front = fronted at *
  have front := fronted.1.consumer.frontLeft_le
  rcases outcome with ⟨answer, nothing⟩ | ⟨item, answer, waits⟩ | ⟨answer, nearer⟩
  · simp only [answer, ConsumerThread.rechecked]
    omega
  · simp only [answer, ConsumerThread.rechecked, if_neg waits]
    omega
  · simp only [answer, ConsumerThread.rechecked, position]
    omega

private theorem pop_lowers
    (represents : SpscQueue.Represents queueCapacity state.queue (unpopped history))
    (conserved : accepted history = delivered history ++ unpopped history)
    {item : Item} (held : state.queue.consumer.held = some item)
    (position : state.consumer.position = .pop) (monoNs : UInt64) :
    rank elements (history ++ (consumerStep state monoNs).2) (consumerStep state monoNs).1 <
      rank elements history state := by
  have waits := represents.length_ne_zero held
  have outcome := SpscQueue.popStep_advances queueCapacity state.queue held
  have producer := SpscQueue.consumerStep_producer queueCapacity state.queue true .pop
  have silent := SpscQueue.consumerStep_pushAnswer? queueCapacity state.queue true .pop
  have waiting := SpscQueue.unpopped_length_concat history conserved
    (SpscQueue.consumerStep queueCapacity true state.queue .pop).2
  rw [SpscQueue.published?_of_pushAnswer? silent, Option.toList_none, List.length_nil,
    Nat.add_zero] at waiting
  simp only [rank, consumerStep, position, producer, waiting, Consumer.rank]
  generalize SpscQueue.consumerStep queueCapacity true state.queue .pop = popped at *
  have front := popped.1.consumer.frontLeft_le
  rcases outcome with ⟨slot, value, returned⟩ | ⟨busy, nearer⟩
  · simp only [returned, SpscQueue.Event.popped?, Option.isSome_some, ConsumerThread.popped,
      if_true, Option.toList_some, List.length_singleton]
    split <;> omega
  · simp only [busy, Option.isSome_none, ConsumerThread.popped, Bool.false_eq_true, if_false,
      position, Option.toList_none, List.length_nil, Nat.sub_zero]
    omega

private theorem consumer_lowers (invariant : Invariant elements history state)
    (represents : SpscQueue.Represents queueCapacity state.queue (unpopped history))
    (conserved : accepted history = delivered history ++ unpopped history)
    (running : state.consumer.position ≠ .exited)
    (needed : unpopped history = [] → state.producerDone = true) (monoNs : UInt64) :
    rank elements (history ++ (consumerStep state monoNs).2) (consumerStep state monoNs).1 <
      rank elements history state := by
  have side := invariant.consumer
  have front := state.queue.consumer.frontLeft_le
  cases position : state.consumer.position with
  | starting =>
      simp only [rank, consumerStep, position, List.append_nil, Consumer.rank]
      split <;> omega
  | front =>
      exact front_lowers represents conserved (side.between (by rw [position]; nofun)) position
        monoNs
  | checking =>
      simp only [rank, consumerStep, position, List.append_nil]
      by_cases done : state.producerDone = true
      · simp only [if_pos done, Consumer.rank]
        omega
      · have waits : (unpopped history).length ≠ 0 :=
          fun nothing => done (needed (List.length_eq_zero_iff.mp nothing))
        simp only [if_neg done, Consumer.rank, if_neg waits]
        omega
  | rechecking =>
      exact recheck_lowers represents conserved (side.between (by rw [position]; nofun)) position
        monoNs
  | pop =>
      rcases side.holds position with ⟨item, held⟩
      exact pop_lowers represents conserved held position monoNs
  | exited => exact absurd position running

private theorem exists_lowering (invariant : Invariant elements history state)
    (represents : SpscQueue.Represents queueCapacity state.queue (unpopped history))
    (conserved : accepted history = delivered history ++ unpopped history)
    (unfinished : state.producer.position ≠ .finished) :
    ∃ action, rank elements (history ++ (step elements state action).2)
      (step elements state action).1 < rank elements history state := by
  by_cases exited : state.consumer.position = .exited
  · have joining : state.producer.position = .joining := by
      have done := invariant.leaving (by rw [exited]; rfl)
      rw [invariant.announced] at done
      cases position : state.producer.position with
      | joining => rfl
      | finished => exact absurd position unfinished
      | _ =>
          rw [position] at done
          cases done
    refine ⟨.producer 0, ?_⟩
    simp only [rank, step, producerStep, joining, if_pos exited, List.append_nil, Producer.rank]
    omega
  · by_cases needed : unpopped history = [] → state.producerDone = true
    · exact ⟨.consumer 0, consumer_lowers invariant represents conserved exited needed 0⟩
    · rw [Classical.not_imp, Bool.not_eq_true, invariant.announced] at needed
      exact ⟨.producer 0, producer_lowers represents conserved needed.1 needed.2 0⟩

end Steps

/-- The benchmark never gets stuck. Whatever the threads have done so far, they
can go on so that the producer joins the consumer. -/
theorem run_once_completes (elements : UInt64) (schedule : List Action) :
    ∃ rest, ((machine elements).run start (schedule ++ rest)).1.producer.position =
      .finished := by
  apply (machine elements).exists_completion (fun state => state.producer.position = .finished)
    (rank elements)
  intro actions outcome unfinished
  rcases run_holds elements actions with ⟨⟨represents, conserved⟩, invariant⟩
  exact exists_lowering invariant represents conserved unfinished

end NetLatencyLab.Bench
