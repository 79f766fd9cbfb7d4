import Mathlib.Data.List.Induction
import NetLatencyLab.Foundation.Histogram
import NetLatencyLab.Sender.Worker

/-! # The books of one worker

The tallies of a worker agree with each other after every step, whatever the
results of its system calls are, and they still agree after `main` has added up
the workers. -/

namespace NetLatencyLab.Sender

open Histogram (sum_modify sum_zipWith weightedFrom weightedFrom_modify weightedFrom_zipWith
  weightedSum)

structure Balanced (config : Config) (stats : WorkerStats) : Prop where
  bytes : stats.successfulBytes = config.payloadSize * stats.successfulSends
  histogramLength : stats.batchHistogram.length = config.sendBatchMax + 1
  noEmptyCall : stats.batchHistogram.head? = some 0
  weighted : weightedSum stats.batchHistogram = stats.successfulSends
  samples : stats.batchHistogram.sum = stats.latenessSamples
  calls : stats.latenessSamples + stats.errorReturns = stats.syscallCount

variable {config : Config}

theorem Balanced.zero {stats : WorkerStats}
    (fresh : ∃ error, stats =
      { lastError := error, batchHistogram := List.replicate (config.sendBatchMax + 1) 0 }) :
    Balanced config stats := by
  rcases fresh with ⟨error, rfl⟩
  exact {
    bytes := rfl
    histogramLength := List.length_replicate
    noEmptyCall := rfl
    weighted := by
      rw [weightedSum, weightedFrom, List.sum_eq_zero]
      intro product member
      rcases List.mem_map.mp member with ⟨entry, zipped, rfl⟩
      have count := List.eq_of_mem_replicate (List.fst_mem_of_mem_zipIdx zipped)
      rw [count, Nat.mul_zero]
    samples := by simp
    calls := rfl }

theorem Balanced.of_stats {stats next : WorkerStats} (balanced : Balanced config stats)
    (bytes : next.successfulBytes = stats.successfulBytes)
    (successful : next.successfulSends = stats.successfulSends)
    (histogram : next.batchHistogram = stats.batchHistogram)
    (samples : next.latenessSamples = stats.latenessSamples)
    (calls : next.syscallCount + stats.errorReturns = stats.syscallCount + next.errorReturns) :
    Balanced config next where
  bytes := by rw [bytes, successful, balanced.bytes]
  histogramLength := by rw [histogram, balanced.histogramLength]
  noEmptyCall := by rw [histogram, balanced.noEmptyCall]
  weighted := by rw [histogram, successful, balanced.weighted]
  samples := by rw [histogram, samples, balanced.samples]
  calls := by
    have before := balanced.calls
    rw [samples]
    omega

theorem head?_modify_succ (counts : List Nat) (size : Nat) :
    (counts.modify (size + 1) (· + 1)).head? = counts.head? := by
  cases counts <;> rfl

theorem Balanced.recordSuccess {stats : WorkerStats} (balanced : Balanced config stats)
    (window : Window) (index packetIndex : Nat) (batch : Batch) (offset : Nat)
    (outcome : SendResult) (environment : Environment) (positive : 0 < outcome.successful)
    (fits : outcome.successful ≤ config.sendBatchMax) :
    Balanced config (recordSuccess config window index packetIndex
      { stats with syscallCount := stats.syscallCount + 1 } batch offset outcome environment) := by
  have inside : outcome.successful < stats.batchHistogram.length := by
    rw [balanced.histogramLength]
    omega
  exact {
    bytes := by
      simp only [Sender.recordSuccess, balanced.bytes, Nat.mul_add,
        Nat.mul_comm outcome.successful]
    histogramLength := by
      simp only [Sender.recordSuccess, List.length_modify, balanced.histogramLength]
    noEmptyCall := by
      rcases Nat.exists_eq_add_of_lt positive with ⟨size, same⟩
      rw [Nat.zero_add] at same
      simp only [Sender.recordSuccess, same, head?_modify_succ, balanced.noEmptyCall]
    weighted := by
      have before := balanced.weighted
      rw [weightedSum] at before ⊢
      simp only [Sender.recordSuccess, weightedFrom_modify _ 0 inside, before, Nat.zero_add]
    samples := by
      simp only [Sender.recordSuccess, sum_modify _ inside, balanced.samples]
    calls := by
      have before := balanced.calls
      simp only [Sender.recordSuccess]
      omega }

/-! ## One step of a worker -/

def Worker.outstanding (worker : Worker) : List Nat :=
  match worker.position with
  | .sending batch offset => List.range' (batch.firstSequence + offset) (batch.count - offset)
  | _ => []

def Position.WellFormed (config : Config) : Position → Prop
  | .allocating count _ => 0 < count ∧ count ≤ config.sendBatchMax
  | .sending batch offset => batch.count ≤ config.sendBatchMax ∧ offset < batch.count ∧
      batch.messages.map (·.sequence) = List.range' batch.firstSequence batch.count
  | _ => True

def TraceRecord.numbers (record : TraceRecord) : List Nat :=
  List.range' record.firstSequence record.packetCount

structure Contributes (config : Config) (worker next : Worker) (drawn : Nat) (sent : List Nat) :
    Prop where
  attempted : next.stats.attemptedSends = worker.stats.attemptedSends + drawn
  successful : next.stats.successfulSends = worker.stats.successfulSends + sent.length
  traced : config.tracing → ∃ records, next.stats.trace = worker.stats.trace ++ records ∧
    records.flatMap TraceRecord.numbers = sent
  balanced : Balanced config next.stats
  wellFormed : next.position.WellFormed config
  socketOpen : next.socketOpen = worker.socketOpen

section WorkerSteps

variable {window : Window}

theorem chooseBatch_le (config : Config) (window : Window) (packetIndex : Nat) :
    (chooseBatch config window packetIndex).1 ≤ config.sendBatchMax := by
  rw [chooseBatch]
  split
  · exact Nat.le_refl _
  · exact Nat.min_le_left _ _
  · exact adaptiveBatchCount_le _ _ _ _ _ _

theorem Contributes.move {worker : Worker} (balanced : Balanced config worker.stats)
    {position : Position} (wellFormed : position.WellFormed config) (packetIndex : Nat) :
    Contributes config worker { worker with position := position, packetIndex := packetIndex }
      0 [] where
  attempted := rfl
  successful := rfl
  traced := fun _ => ⟨[], (List.append_nil _).symm, rfl⟩
  balanced := balanced
  wellFormed := wellFormed
  socketOpen := rfl

theorem Contributes.failedCall {worker : Worker} (balanced : Balanced config worker.stats)
    {position : Position} (wellFormed : position.WellFormed config)
    (packetIndex failed error : Nat) :
    Contributes config worker
      { worker with
        position := position
        packetIndex := packetIndex
        stats :=
          { worker.stats with
            syscallCount := worker.stats.syscallCount + 1
            errorReturns := worker.stats.errorReturns + 1
            failedSends := failed
            lastError := error } } 0 [] where
  attempted := rfl
  successful := rfl
  traced := fun _ => ⟨[], (List.append_nil _).symm, rfl⟩
  balanced := balanced.of_stats rfl rfl rfl rfl (by simp only; omega)
  wellFormed := wellFormed
  socketOpen := rfl

theorem Contributes.sentCall {worker : Worker} (balanced : Balanced config worker.stats)
    {position : Position} (wellFormed : position.WellFormed config) (packetIndex index : Nat)
    (batch : Batch) (offset : Nat) (outcome : SendResult) (environment : Environment)
    (positive : 0 < outcome.successful) (fits : outcome.successful ≤ config.sendBatchMax) :
    Contributes config worker
      { worker with
        position := position
        packetIndex := packetIndex
        stats := recordSuccess config window index worker.packetIndex
          { worker.stats with syscallCount := worker.stats.syscallCount + 1 }
          batch offset outcome environment }
      0 (List.range' (batch.firstSequence + offset) outcome.successful) where
  attempted := rfl
  successful := by simp [recordSuccess]
  traced := by
    intro tracing
    refine ⟨_, if_pos tracing, ?_⟩
    simp [TraceRecord.numbers]
  balanced := balanced.recordSuccess window index worker.packetIndex batch offset outcome
    environment positive fits
  wellFormed := wellFormed
  socketOpen := rfl

private theorem transmitted_sequences {batch : Batch}
    (numbered : batch.messages.map (·.sequence) = List.range' batch.firstSequence batch.count)
    (offset : Nat) (result : Int) :
    (transmitted batch offset result).map (·.sequence) =
      List.range' (batch.firstSequence + offset) (min result.toNat (batch.count - offset)) := by
  rw [transmitted, List.map_take, List.map_drop, numbered, List.drop_range', Nat.mul_one]
  by_cases short : result.toNat ≤ batch.count - offset
  · rw [List.take_range'_of_length_ge short, Nat.min_eq_left short]
  · have long := Nat.le_of_not_le short
    rw [List.take_range'_of_length_le long, Nat.min_eq_right long]

theorem sendStep_contributes (window : Window) {worker : Worker} {batch : Batch} {offset : Nat}
    (balanced : Balanced config worker.stats) (position : worker.position = .sending batch offset)
    (wellFormed : worker.position.WellFormed config) (index : Nat) (stop : Bool)
    (environment : Environment) :
    let next := sendStep config window index stop worker batch offset environment
    let sent := (transmitted batch offset environment.result).map (·.sequence)
    Contributes config worker next 0 sent ∧
      ∃ rest, worker.outstanding = sent ++ rest ∧
        (next.outstanding = rest ∨ next.outstanding = []) := by
  have placed := wellFormed
  rw [position] at placed
  rcases placed with ⟨fits, inside, numbered⟩
  have sequences := transmitted_sequences numbered offset environment.result
  have checking : Position.checking.WellFormed config := trivial
  simp only [sequences]
  rw [show worker.outstanding = List.range' (batch.firstSequence + offset) (batch.count - offset) by
    rw [Worker.outstanding, position]]
  by_cases positive : 0 < environment.result
  · rw [sendStep_of_pos window index stop worker batch offset positive]
    dsimp only
    have some : 0 < min environment.result.toNat (batch.count - offset) := by omega
    have within : min environment.result.toNat (batch.count - offset) ≤ batch.count - offset :=
      Nat.min_le_right _ _
    generalize min environment.result.toNat (batch.count - offset) = sent at some within
    have most : sent ≤ config.sendBatchMax := by omega
    have split : List.range' (batch.firstSequence + offset) (batch.count - offset) =
        List.range' (batch.firstSequence + offset) sent ++
          List.range' (batch.firstSequence + (offset + sent)) (batch.count - (offset + sent)) := by
      rw [← Nat.add_assoc, List.range'_append_1]
      congr 1
      omega
    by_cases more : offset + sent < batch.count
    · rw [if_pos more]
      have sending : (Position.sending batch (offset + sent)).WellFormed config :=
        ⟨fits, more, numbered⟩
      exact ⟨.sentCall balanced sending worker.packetIndex index batch offset _ environment some
        most, _, split, .inl rfl⟩
    · rw [if_neg more]
      exact ⟨.sentCall balanced checking _ index batch offset _ environment some most, _, split,
        .inr rfl⟩
  · have nothing : environment.result.toNat = 0 := Int.toNat_of_nonpos (not_lt.mp positive)
    rw [nothing, Nat.zero_min]
    by_cases interrupted : environment.result < 0 ∧ environment.errno = interruptedCall
    · rw [sendStep_of_interrupted window index stop worker batch offset interrupted]
      dsimp only
      by_cases stopped : stop = true
      · rw [if_pos stopped]
        exact ⟨.failedCall balanced checking _ _ _, _, rfl, .inr rfl⟩
      · rw [if_neg stopped]
        refine ⟨.failedCall balanced wellFormed _ _ _, _, rfl, .inl ?_⟩
        rw [Worker.outstanding, position]
    · rcases sendStep_of_failed window index stop worker batch offset positive interrupted inside
        with ⟨reported, failed⟩
      rw [failed]
      exact ⟨.failedCall balanced checking _ _ _, _, rfl, .inr rfl⟩

end WorkerSteps

/-! ## Adding up the workers -/

theorem addHistogram_eq {total worker : List Nat} (same : total.length = worker.length)
    (first : worker.head? = some 0) :
    addHistogram total worker = List.zipWith (· + ·) total worker := by
  cases worker with
  | nil => cases first
  | cons count worker =>
      cases total with
      | nil => cases same
      | cons sum total =>
          obtain rfl : count = 0 := Option.some.inj first
          rfl

theorem Balanced.add {stats worker : WorkerStats} (balanced : Balanced config stats)
    (workerBalanced : Balanced config worker) : Balanced config (stats.add worker) := by
  have same : stats.batchHistogram.length = worker.batchHistogram.length := by
    rw [balanced.histogramLength, workerBalanced.histogramLength]
  have histogram := addHistogram_eq same workerBalanced.noEmptyCall
  exact {
    bytes := by
      simp only [WorkerStats.add, balanced.bytes, workerBalanced.bytes, Nat.mul_add]
    histogramLength := by
      simp only [WorkerStats.add, histogram, List.length_zipWith, balanced.histogramLength,
        workerBalanced.histogramLength, Nat.min_self]
    noEmptyCall := by
      rcases List.head?_eq_some_iff.mp balanced.noEmptyCall with ⟨rest, equal⟩
      rcases List.head?_eq_some_iff.mp workerBalanced.noEmptyCall with ⟨other, otherEqual⟩
      simp only [WorkerStats.add, equal, otherEqual]
      rfl
    weighted := by
      have left := balanced.weighted
      have right := workerBalanced.weighted
      rw [weightedSum] at left right ⊢
      simp only [WorkerStats.add, histogram, weightedFrom_zipWith 0 same, left, right]
    samples := by
      simp only [WorkerStats.add, histogram, sum_zipWith same, balanced.samples,
        workerBalanced.samples]
    calls := by
      have left := balanced.calls
      have right := workerBalanced.calls
      simp only [WorkerStats.add]
      omega }

theorem aggregate_balanced {workers : List WorkerStats}
    (balanced : ∀ worker ∈ workers, Balanced config worker) :
    Balanced config (aggregate config workers) := by
  induction workers using List.reverseRecOn with
  | nil => exact .zero ⟨0, rfl⟩
  | append_singleton workers worker induction =>
      rw [aggregate, List.foldl_concat]
      apply Balanced.add
      · exact induction fun other member => balanced other (List.mem_append_left _ member)
      · exact balanced worker (by simp)

theorem aggregate_sum (field : WorkerStats → Nat)
    (additive : ∀ stats worker : WorkerStats,
      field (stats.add worker) = field stats + field worker)
    (zero : field { batchHistogram := List.replicate (config.sendBatchMax + 1) 0 } = 0)
    (workers : List WorkerStats) :
    field (aggregate config workers) = (workers.map field).sum := by
  induction workers using List.reverseRecOn with
  | nil => exact zero
  | append_singleton workers worker induction =>
      rw [aggregate] at induction ⊢
      rw [List.foldl_concat, additive, induction, List.map_append, List.sum_append]
      simp

theorem aggregate_trace (workers : List WorkerStats) :
    (aggregate config workers).trace = workers.flatMap (·.trace) := by
  induction workers using List.reverseRecOn with
  | nil => rfl
  | append_singleton workers worker induction =>
      rw [aggregate] at induction ⊢
      rw [List.foldl_concat, WorkerStats.add, induction, List.flatMap_append,
        List.flatMap_singleton]

end NetLatencyLab.Sender
