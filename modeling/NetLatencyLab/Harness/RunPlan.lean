import NetLatencyLab.Harness.Internal.CampaignNotes
import Mathlib.Data.List.Nodup

/-! # Run plans

A configuration that repeats nothing in its lists plans every tuple once, so a
campaign starts no tuple twice. -/

namespace NetLatencyLab.Harness

/-- No rate, burst size or batch size is listed twice. -/
structure Benchmark.Distinct (benchmark : Benchmark) : Prop where
  rates : benchmark.rates.Nodup
  bursts : benchmark.bursts.Nodup
  batches : benchmark.batches.Nodup

theorem mem_benchmarkTuples {index : Nat} {benchmark : Benchmark} {item : RunTuple}
    (member : item ∈ benchmarkTuples index benchmark) :
    item.benchmarkIndex = index ∧ item.campaign = benchmark.campaign := by
  simp only [benchmarkTuples, List.mem_flatMap, List.mem_map] at member
  rcases member with ⟨repetition, -, rate, -, burst, -, batch, -, rfl⟩
  exact ⟨rfl, rfl⟩

theorem mem_benchmarkTuples_iff {index : Nat} {benchmark : Benchmark} {item : RunTuple} :
    item ∈ benchmarkTuples index benchmark ↔
      (item.benchmarkIndex = index ∧ item.benchmarkName = benchmark.name ∧
        item.campaign = benchmark.campaign) ∧
      (1 ≤ item.repetition ∧ item.repetition ≤ benchmark.repetitions) ∧
      item.rate ∈ benchmark.rates ∧ item.burst ∈ benchmark.bursts ∧
      item.batch ∈ benchmark.batches := by
  have counted : ∀ repetition, repetition ∈ List.range' 1 benchmark.repetitions ↔
      1 ≤ repetition ∧ repetition ≤ benchmark.repetitions := by
    intro repetition
    rw [List.mem_range'_1]
    omega
  simp only [benchmarkTuples, List.mem_flatMap, List.mem_map, counted]
  constructor
  · intro member
    rcases member with ⟨repetition, counted, rate, rates, burst, bursts, batch, batches, same⟩
    subst same
    exact ⟨⟨rfl, rfl, rfl⟩, counted, rates, bursts, batches⟩
  · intro described
    cases item with
    | mk itsIndex name campaign repetition rate burst batch =>
        rcases described with ⟨⟨rfl, rfl, rfl⟩, counted, rates, bursts, batches⟩
        exact ⟨repetition, counted, rate, rates, burst, bursts, batch, batches, rfl⟩

/-- The benchmark has a tuple at all. -/
def Benchmark.Plans (benchmark : Benchmark) : Prop :=
  0 < benchmark.repetitions ∧ benchmark.rates ≠ [] ∧ benchmark.bursts ≠ [] ∧ benchmark.batches ≠ []

theorem nodup_flatMap_of_key {α β γ : Type} {list : List α} {members : α → List β}
    (label : α → γ) (key : β → γ) (labels : (list.map label).Nodup)
    (keyed : ∀ x ∈ list, ∀ y ∈ members x, key y = label x)
    (each : ∀ x ∈ list, (members x).Nodup) : (list.flatMap members).Nodup := by
  apply List.nodup_flatMap.mpr
  refine ⟨each, ?_⟩
  apply (List.pairwise_map.mp labels).imp_of_mem
  intro first second inFirst inSecond different
  show List.Disjoint (members first) (members second)
  intro member left right
  apply different
  exact (keyed first inFirst member left).symm.trans (keyed second inSecond member right)

private theorem benchmarkTuples_nodup (index : Nat) {benchmark : Benchmark}
    (distinct : benchmark.Distinct) : (benchmarkTuples index benchmark).Nodup := by
  have repetitions : (List.range' 1 benchmark.repetitions).Nodup := List.nodup_range'
  apply nodup_flatMap_of_key id RunTuple.repetition (by simpa using repetitions)
  · simp only [List.mem_flatMap, List.mem_map]
    rintro repetition - item ⟨rate, -, burst, -, batch, -, rfl⟩
    rfl
  intro repetition _
  apply nodup_flatMap_of_key id RunTuple.rate (by simpa using distinct.rates)
  · simp only [List.mem_flatMap, List.mem_map]
    rintro rate - item ⟨burst, -, batch, -, rfl⟩
    rfl
  intro rate _
  apply nodup_flatMap_of_key id RunTuple.burst (by simpa using distinct.bursts)
  · simp only [List.mem_map]
    rintro burst - item ⟨batch, -, rfl⟩
    rfl
  intro burst _
  apply distinct.batches.map
  intro first second same
  exact congrArg RunTuple.batch same

theorem nodup_of_nodup_flatMap {α β : Type} {list : List α} {members : α → List β}
    (nonempty : ∀ x ∈ list, members x ≠ []) (nodup : (list.flatMap members).Nodup) :
    list.Nodup := by
  apply (List.nodup_flatMap.mp nodup).2.imp_of_mem
  intro first second inFirst _ disjoint same
  subst same
  rcases List.exists_mem_of_ne_nil _ (nonempty first inFirst) with ⟨member, inside⟩
  exact disjoint inside inside

private theorem flatMap_ne_nil {α β : Type} {list : List α} {members : α → List β}
    (some : list ≠ []) (nonempty : ∀ x, members x ≠ []) : list.flatMap members ≠ [] := by
  rcases List.exists_mem_of_ne_nil _ some with ⟨x, inside⟩
  rcases List.exists_mem_of_ne_nil _ (nonempty x) with ⟨member, inMembers⟩
  exact List.ne_nil_of_mem (List.mem_flatMap.mpr ⟨x, inside, inMembers⟩)

theorem benchmarkTuples_nodup_iff (index : Nat) {benchmark : Benchmark} :
    (benchmarkTuples index benchmark).Nodup ↔ (benchmark.Plans → benchmark.Distinct) := by
  constructor
  · intro nodup plans
    rcases plans with ⟨repetitions, rates, bursts, batches⟩
    rcases List.exists_mem_of_ne_nil _ rates with ⟨rate, inRates⟩
    rcases List.exists_mem_of_ne_nil _ bursts with ⟨burst, inBursts⟩
    have first : 1 ∈ List.range' 1 benchmark.repetitions := List.mem_range'_1.mpr (by omega)
    have ofRepetition := (List.nodup_flatMap.mp nodup).1 1 first
    have ofRate := (List.nodup_flatMap.mp ofRepetition).1 rate inRates
    have ofBurst := (List.nodup_flatMap.mp ofRate).1 burst inBursts
    have someBatch : ∀ build : Int → RunTuple, benchmark.batches.map build ≠ [] :=
      fun build empty => batches (List.map_eq_nil_iff.mp empty)
    constructor
    · apply nodup_of_nodup_flatMap _ ofRepetition
      exact fun rate _ => flatMap_ne_nil bursts fun burst => someBatch _
    · apply nodup_of_nodup_flatMap _ ofRate
      exact fun burst _ => someBatch _
    · exact ofBurst.of_map
  · intro distinct
    by_cases plans : benchmark.Plans
    · exact benchmarkTuples_nodup index (distinct plans)
    · have nothing : benchmarkTuples index benchmark = [] := by
        rw [List.eq_nil_iff_forall_not_mem]
        intro item member
        rw [mem_benchmarkTuples_iff] at member
        rcases member with ⟨_, counted, rates, bursts, batches⟩
        exact plans ⟨by omega, List.ne_nil_of_mem rates, List.ne_nil_of_mem bursts,
          List.ne_nil_of_mem batches⟩
      rw [nothing]
      exact List.nodup_nil

theorem mem_plannedTuples {config : Config} {qualifies : Bool} {item : RunTuple}
    (member : item ∈ plannedTuples config qualifies) :
    (item.campaign == "sender_qualification") = qualifies := by
  rcases List.mem_flatMap.mp member with ⟨⟨benchmark, index⟩, -, inside⟩
  split at inside
  next chosen =>
    rw [(mem_benchmarkTuples inside).2]
    exact beq_iff_eq.mp (Bool.and_eq_true_iff.mp chosen).2
  next => cases inside

theorem mem_plannedTuples_iff {config : Config} {qualifies : Bool} {item : RunTuple} :
    item ∈ plannedTuples config qualifies ↔
      ∃ benchmark, config.benchmarks[item.benchmarkIndex]? = some benchmark ∧ benchmark.enabled ∧
        benchmark.qualifies = qualifies ∧ item ∈ benchmarkTuples item.benchmarkIndex benchmark := by
  rw [plannedTuples, List.mem_flatMap]
  constructor
  · intro member
    rcases member with ⟨⟨benchmark, index⟩, listed, inside⟩
    split at inside
    next chosen =>
      rw [Bool.and_eq_true_iff, beq_iff_eq] at chosen
      have position := (mem_benchmarkTuples inside).1
      rw [List.mem_zipIdx_iff_getElem?] at listed
      rw [position]
      exact ⟨benchmark, listed, chosen.1, chosen.2, inside⟩
    next => cases inside
  · intro described
    rcases described with ⟨benchmark, listed, enabled, qualifies, inside⟩
    refine ⟨(benchmark, item.benchmarkIndex), List.mem_zipIdx_iff_getElem?.mpr listed, ?_⟩
    rw [if_pos]
    · exact inside
    · rw [Bool.and_eq_true_iff, beq_iff_eq]
      exact ⟨enabled, qualifies⟩

theorem mem_plan_iff {shuffle : List RunTuple → List RunTuple}
    (shuffles : ∀ items, (shuffle items).Perm items) {config : Config} {item : RunTuple} :
    item ∈ plan shuffle config ↔
      ∃ benchmark, config.benchmarks[item.benchmarkIndex]? = some benchmark ∧ benchmark.enabled ∧
        item ∈ benchmarkTuples item.benchmarkIndex benchmark := by
  rw [plan, makeRunTuples, List.mem_append, (shuffles _).mem_iff, (shuffles _).mem_iff,
    mem_plannedTuples_iff, mem_plannedTuples_iff]
  constructor
  · intro member
    rcases member with qualifying | comparing
    · rcases qualifying with ⟨benchmark, listed, enabled, _, inside⟩
      exact ⟨benchmark, listed, enabled, inside⟩
    · rcases comparing with ⟨benchmark, listed, enabled, _, inside⟩
      exact ⟨benchmark, listed, enabled, inside⟩
  · intro described
    rcases described with ⟨benchmark, listed, enabled, inside⟩
    cases phase : benchmark.qualifies with
    | true => exact Or.inl ⟨benchmark, listed, enabled, phase, inside⟩
    | false => exact Or.inr ⟨benchmark, listed, enabled, phase, inside⟩

theorem plannedTuples_nodup {config : Config} {qualifies : Bool}
    (once : ∀ benchmark ∈ config.benchmarks, benchmark.enabled → benchmark.Plans →
      benchmark.Distinct) : (plannedTuples config qualifies).Nodup := by
  apply nodup_flatMap_of_key Prod.snd RunTuple.benchmarkIndex
  · rw [List.zipIdx_map_snd]
    exact List.nodup_range'
  · intro entry _ item member
    split at member
    · exact (mem_benchmarkTuples member).1
    · cases member
  · intro entry inside
    split
    next chosen =>
      have enabled := (Bool.and_eq_true_iff.mp chosen).1
      exact (benchmarkTuples_nodup_iff _).mpr
        (once _ (List.fst_mem_of_mem_zipIdx inside) enabled)
    next => exact List.nodup_nil

private theorem plannedTuples_disjoint (config : Config) :
    (plannedTuples config true).Disjoint (plannedTuples config false) := by
  intro item qualifying comparing
  have first := mem_plannedTuples qualifying
  rw [mem_plannedTuples comparing] at first
  cases first

theorem plan_nodup_iff {shuffle : List RunTuple → List RunTuple}
    (shuffles : ∀ items, (shuffle items).Perm items) {config : Config} :
    (plan shuffle config).Nodup ↔
      ∀ benchmark ∈ config.benchmarks, benchmark.enabled → benchmark.Plans →
        benchmark.Distinct := by
  rw [plan, makeRunTuples, List.nodup_append', (shuffles _).nodup_iff, (shuffles _).nodup_iff]
  constructor
  · intro nodup benchmark member enabled
    rcases List.mem_iff_getElem?.mp member with ⟨index, listed⟩
    have planned : (plannedTuples config benchmark.qualifies).Nodup := by
      cases benchmark.qualifies with
      | true => exact nodup.1
      | false => exact nodup.2.1
    have its := (List.nodup_flatMap.mp planned).1 (benchmark, index)
      (List.mem_zipIdx_iff_getElem?.mpr listed)
    rw [if_pos (by rw [enabled]; simp), benchmarkTuples_nodup_iff] at its
    exact its
  · intro once
    refine ⟨plannedTuples_nodup once, plannedTuples_nodup once, ?_⟩
    intro item qualifying comparing
    exact plannedTuples_disjoint config ((shuffles _).mem_iff.mp qualifying)
      ((shuffles _).mem_iff.mp comparing)

theorem plan_nodup {shuffle : List RunTuple → List RunTuple}
    (shuffles : ∀ items, (shuffle items).Perm items) {config : Config}
    (distinct : ∀ benchmark ∈ config.benchmarks, benchmark.enabled → benchmark.Distinct) :
    (plan shuffle config).Nodup :=
  (plan_nodup_iff shuffles).mpr fun benchmark member enabled _ =>
    distinct benchmark member enabled

end NetLatencyLab.Harness
