import NetLatencyLab.Foundation.Strides
import NetLatencyLab.Sender.Conservation

/-! # The batches cover the schedule

Paced workers take the packet indices below the limit exactly once, whatever the
sizes of their batches are. -/

namespace NetLatencyLab.Sender

open Family (gather)
open Strides (gather_strided_gain gather_strided_perm strided)

/-- The size of the batch in progress, whose indices `packet_index` does not
count yet. -/
def Worker.pending (worker : Worker) : Nat :=
  match worker.position with
  | .allocating count _ => count
  | .sending batch _ => batch.count
  | _ => 0

/-- `packet_index + j * threads` for the packets `j` of a batch. -/
def coveredIndices (config : Config) (batch : Nat × Nat) : List Nat :=
  strided config.threads batch.1 batch.2

/-! ## The choice of a batch -/

section Choice

variable {config : Config} {window : Window} {packetIndex : Nat}

/-- A paced worker with packets left takes at least one and none at or beyond
the limit. -/
theorem chooseBatch_bounds (paced : config.mode ≠ .flood)
    (left : packetIndex < window.packetLimit) :
    let count := (chooseBatch config window packetIndex).1
    0 < count ∧ packetIndex + (count - 1) * config.threads < window.packetLimit := by
  have room := config.batchRange
  rw [chooseBatch]
  cases mode : config.mode with
  | flood => exact absurd mode paced
  | burst =>
      have burst := config.burstRange
      have remainder := Nat.mod_lt packetIndex burst.1
      simp only [config.burstThreads mode, Nat.mul_one]
      omega
  | steady =>
      have threads := config.threadRange
      exact adaptiveBatchCount_bounds _ _ _ _ _ left (by omega) (by omega)

private theorem chooseBatch_within_burst (burst : config.mode = .burst)
    (positive : 0 < (chooseBatch config window packetIndex).1) :
    let count := (chooseBatch config window packetIndex).1
    packetIndex / config.burstSize = (packetIndex + count - 1) / config.burstSize := by
  intro count
  have some : 0 < count := positive
  have bound : count ≤ config.burstSize - packetIndex % config.burstSize := by
    simp only [count, chooseBatch, burst]
    exact (Nat.min_le_right _ _).trans (Nat.min_le_left _ _)
  have size := config.burstRange.1
  have remainder := Nat.mod_lt packetIndex size
  have decomposed := Nat.div_add_mod packetIndex config.burstSize
  have last : packetIndex + count - 1 =
      config.burstSize * (packetIndex / config.burstSize) +
        (packetIndex % config.burstSize + count - 1) := by
    omega
  have within : (packetIndex % config.burstSize + count - 1) / config.burstSize = 0 :=
    Nat.div_eq_of_lt (by omega)
  rw [last, Nat.mul_add_div size, within, Nat.add_zero]

end Choice

/-! ## What one worker has covered -/

theorem batches_map_sent (transmissions : List Transmission) :
    batches (transmissions.map .sent) = [] := by
  induction transmissions with
  | nil => rfl
  | cons transmission transmissions induction => exact induction

/-- `taken` counts the packets that each worker has taken so far. -/
structure Covers (config : Config) (window : Window) (history : List Event)
    (workers : Fin config.threads → Worker) (taken : Fin config.threads → Nat) : Prop where
  reached : ∀ index, (workers index).packetIndex + (workers index).pending * config.threads =
    index + taken index * config.threads
  inside : ∀ index, taken index ≠ 0 →
    index + (taken index - 1) * config.threads < window.packetLimit
  covered : ((batches history).flatMap (coveredIndices config)).Perm
    (gather fun index => strided config.threads index (taken index))
  nonempty : ∀ batch ∈ batches history, 0 < batch.2
  withinBurst : config.mode = .burst → ∀ batch ∈ batches history,
    batch.1 / config.burstSize = (batch.1 + batch.2 - 1) / config.burstSize

section Steps

variable {host : Endianness} {config : Config} {window : Window} {history : List Event}
  {workers : Fin config.threads → Worker} {taken : Fin config.threads → Nat}

theorem Covers.reached_lt (covers : Covers config window history workers taken)
    (bounded : window.packetLimit ≤ 2 ^ 64 - 2 ^ 17) (index : Fin config.threads) :
    (index : Nat) + taken index * config.threads < 2 ^ 64 := by
  have threads := config.threadRange
  have below := index.isLt
  cases count : taken index with
  | zero => omega
  | succ count' =>
      have last := covers.inside index (by omega)
      rw [count, Nat.succ_sub_one] at last
      rw [Nat.succ_mul]
      omega

theorem Covers.keep (covers : Covers config window history workers taken)
    (index : Fin config.threads) {next : Worker} {events : List Event}
    (quiet : batches events = [])
    (same : next.packetIndex + next.pending * config.threads =
      (workers index).packetIndex + (workers index).pending * config.threads) :
    Covers config window (history ++ events) (Function.update workers index next) taken := by
  have unchanged : batches (history ++ events) = batches history := by
    rw [batches, List.filterMap_append, ← batches, ← batches, quiet, List.append_nil]
  exact {
    reached := by
      rw [Function.forall_update_iff workers fun other worker =>
        worker.packetIndex + worker.pending * config.threads =
          other + taken other * config.threads]
      exact ⟨same.trans (covers.reached index), fun other _ => covers.reached other⟩
    inside := covers.inside
    covered := by rw [unchanged]; exact covers.covered
    nonempty := by rw [unchanged]; exact covers.nonempty
    withinBurst := by rw [unchanged]; exact covers.withinBurst }

theorem Covers.choose (covers : Covers config window history workers taken)
    (index : Fin config.threads) {next : Worker} {count : Nat}
    (free : (workers index).pending = 0)
    (same : next.packetIndex = (workers index).packetIndex) (chosen : next.pending = count)
    (positive : 0 < count)
    (inside : (workers index).packetIndex + (count - 1) * config.threads < window.packetLimit)
    (withinBurst : config.mode = .burst → (workers index).packetIndex / config.burstSize =
      ((workers index).packetIndex + count - 1) / config.burstSize) :
    Covers config window (history ++ [.chosen (workers index).packetIndex count])
      (Function.update workers index next)
      (Function.update taken index (taken index + count)) := by
  have start := covers.reached index
  rw [free, Nat.zero_mul, Nat.add_zero] at start
  have extended : batches (history ++ [.chosen (workers index).packetIndex count]) =
      batches history ++ [((workers index).packetIndex, count)] := by
    rw [batches, List.filterMap_append]
    rfl
  exact {
    reached := by
      intro other
      by_cases equal : other = index
      · subst equal
        rw [Function.update_self, Function.update_self, same, chosen, start, Nat.add_mul,
          Nat.add_assoc]
      · rw [Function.update_of_ne equal, Function.update_of_ne equal]
        exact covers.reached other
    inside := by
      intro other some
      by_cases equal : other = index
      · subst equal
        rw [Function.update_self, Nat.add_sub_assoc positive, Nat.add_mul, ← Nat.add_assoc,
          ← start]
        exact inside
      · rw [Function.update_of_ne equal] at some ⊢
        exact covers.inside other some
    covered := by
      rw [extended, List.flatMap_append, List.flatMap_singleton]
      have gained := gather_strided_gain taken index count
      rw [← start] at gained
      exact (covers.covered.append_right _).trans gained.symm
    nonempty := by
      rw [extended]
      intro batch member
      rcases List.mem_append.mp member with old | new
      · exact covers.nonempty batch old
      · rcases List.mem_singleton.mp new with rfl
        exact positive
    withinBurst := by
      rw [extended]
      intro burst batch member
      rcases List.mem_append.mp member with old | new
      · exact covers.withinBurst burst batch old
      · rcases List.mem_singleton.mp new with rfl
        exact withinBurst burst }

private theorem workerStep_covers {state : State config}
    (covers : Covers config window history state.workers taken)
    (paced : config.mode ≠ .flood) (bounded : window.packetLimit ≤ 2 ^ 64 - 2 ^ 17)
    (index : Fin config.threads) (environment : Environment) :
    let outcome := workerStep host config window state index environment
    ∃ next, Covers config window (history ++ outcome.2) outcome.1.workers next := by
  cases position : (state.workers index).position with
  | checking =>
      have free : (state.workers index).pending = 0 := by rw [Worker.pending, position]
      simp only [workerStep, position]
      by_cases wants : wantsBatch config window (state.workers index) state.stop environment.now
      · have left : (state.workers index).packetIndex < window.packetLimit := by
          simpa [wantsBatch, paced] using (Bool.and_eq_true_iff.mp wants).2
        rcases chooseBatch_bounds paced left with ⟨positive, inside⟩
        rw [if_pos wants, if_neg (Nat.ne_of_gt positive)]
        exact ⟨_, covers.choose index free rfl rfl positive inside
          fun burst => chooseBatch_within_burst burst positive⟩
      · rw [if_neg wants]
        exact ⟨taken, covers.keep index rfl (by rw [free]; rfl)⟩
  | allocating count scheduled =>
      simp only [workerStep, position]
      refine ⟨taken, covers.keep index rfl ?_⟩
      rw [show (state.workers index).pending = count by rw [Worker.pending, position]]
      rfl
  | sending batch offset =>
      have quiet : batches ((transmitted batch offset environment.result).map .sent) = [] :=
        batches_map_sent _
      have pending : (state.workers index).pending = batch.count := by
        rw [Worker.pending, position]
      simp only [workerStep, position]
      refine ⟨taken, covers.keep index quiet ?_⟩
      rw [pending]
      rcases sendStep_cases window index state.stop position environment with
        ⟨same, reached, stays, _⟩ | ⟨advanced, left⟩
      · rw [same, Worker.pending, stays]
      · have total := covers.reached index
        have done : (sendStep config window index state.stop (state.workers index) batch offset
            environment).pending = 0 := by
          rw [Worker.pending, left]
        have fits := covers.reached_lt bounded index
        rw [pending] at total
        rw [advanced, done, total, Nat.mod_eq_of_lt fits, Nat.zero_mul, Nat.add_zero]
  | leaving =>
      simp only [workerStep, position]
      refine ⟨taken, covers.keep index rfl ?_⟩
      rw [show (state.workers index).pending = 0 by rw [Worker.pending, position]]
      rfl
  | finished =>
      simp only [workerStep, position, List.append_nil]
      exact ⟨taken, covers⟩

private theorem start_covers (connect : Fin config.threads → Option Nat) :
    Covers config window [] (start config connect).workers fun _ => 0 where
  reached := fun _ => by simp [start, Worker.pending]
  inside := fun _ some => absurd rfl some
  covered := by simp [batches, gather, strided]
  nonempty := by simp [batches]
  withinBurst := by simp [batches]

private theorem run_covers (host : Endianness) (paced : config.mode ≠ .flood)
    (bounded : window.packetLimit ≤ 2 ^ 64 - 2 ^ 17) (connect : Fin config.threads → Option Nat)
    (schedule : List (Action config)) :
    let outcome := (machine host config window).run (start config connect) schedule
    ∃ taken, Covers config window outcome.2 outcome.1.workers taken := by
  apply (machine host config window).run_invariant
    fun history state => ∃ taken, Covers config window history state.workers taken
  · exact ⟨_, start_covers connect⟩
  · rintro history state action ⟨taken, covers⟩
    cases action with
    | signal =>
        refine ⟨taken, ?_⟩
        change Covers config window (history ++ []) state.workers taken
        rw [List.append_nil]
        exact covers
    | worker index environment =>
        exact workerStep_covers covers paced bounded index environment

end Steps

/-- Workers that are never stopped before the limit cover the packet indices
below it exactly once, in nonempty batches, and no batch of the burst mode spans
two bursts. -/
theorem batches_cover_schedule (host : Endianness) (config : Config) (window : Window)
    (paced : config.mode ≠ .flood) (bounded : window.packetLimit ≤ 2 ^ 64 - 2 ^ 17)
    (connect : Fin config.threads → Option Nat) (schedule : List (Action config))
    (exhausted : ∀ index, window.packetLimit ≤ (((machine host config window).run
      (start config connect) schedule).1.workers index).packetIndex) :
    let taken := batches ((machine host config window).run (start config connect) schedule).2
    (taken.flatMap fun batch => (List.range batch.2).map fun offset =>
        batch.1 + offset * config.threads).Perm (List.range window.packetLimit) ∧
      (∀ batch ∈ taken, 0 < batch.2) ∧
      (config.mode = .burst → ∀ batch ∈ taken,
        batch.1 / config.burstSize = (batch.1 + batch.2 - 1) / config.burstSize) := by
  rcases run_covers host paced bounded connect schedule with ⟨taken, covers⟩
  refine ⟨covers.covered.trans ?_, covers.nonempty, covers.withinBurst⟩
  apply gather_strided_perm taken config.threadRange.1 _ covers.inside
  intro index
  have passed := exhausted index
  have reached := covers.reached index
  omega

theorem batches_cover_schedule_of_two_workers :
    let window : Window := ⟨0, 100, 4⟩
    let first : Fin pairConfig.threads := ⟨0, by decide⟩
    let second : Fin pairConfig.threads := ⟨1, by decide⟩
    let schedule : List (Action pairConfig) :=
      List.replicate 3 (.worker first (answer 2 0)) ++ List.replicate 3 (.worker second (answer 2 0))
    let taken := batches ((machine .little pairConfig window).run
      (start pairConfig fun _ => none) schedule).2
    taken = [(0, 2), (1, 2)] ∧
      (taken.flatMap fun batch => (List.range batch.2).map fun offset =>
        batch.1 + offset * 2).Perm (List.range 4) := by
  intro window first second schedule taken
  exact ⟨by decide, (batches_cover_schedule .little pairConfig window nofun (by decide)
    (fun _ => none) schedule (by decide)).1⟩

end NetLatencyLab.Sender
