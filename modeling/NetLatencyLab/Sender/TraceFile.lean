import NetLatencyLab.Foundation.CsvText
import NetLatencyLab.Foundation.DecimalText
import NetLatencyLab.Sender.Conservation

/-! # The pacing trace of the sender

`write_trace` of `sender.cpp`, and the records that the workers leave for it. -/

namespace NetLatencyLab.Sender

open CsvText (PlainCell PlainRow writeRow)
open PythonText (Text decimal)

/-! ## The file -/

def traceHeader : List Text :=
  ["actual_mono_ns".toList, "scheduled_mono_ns".toList, "first_sequence".toList,
    "packet_count".toList, "thread_index".toList]

/-- `%llu,%llu,%llu,%u,%u`. -/
def TraceRecord.cells (record : TraceRecord) : List Text :=
  [decimal record.actualMonoNs, decimal record.scheduledMonoNs, decimal record.firstSequence,
    decimal record.packetCount, decimal record.threadIndex]

/-- `std::sort` may leave the records of one time in any order. -/
structure InTraceOrder (records sorted : List TraceRecord) : Prop where
  perm : sorted.Perm records
  ordered : sorted.Pairwise fun left right => left.actualMonoNs ≤ right.actualMonoNs

def writeTrace (sorted : List TraceRecord) : Text :=
  (traceHeader :: sorted.map TraceRecord.cells).flatMap writeRow

structure TraceRecord.Fits (record : TraceRecord) : Prop where
  actual : record.actualMonoNs < 2 ^ 64
  scheduled : record.scheduledMonoNs < 2 ^ 64
  first : record.firstSequence < 2 ^ 64
  count : record.packetCount < 2 ^ 32
  thread : record.threadIndex < 2 ^ 32

/-! ## What is read back -/

/-- The limit of `csv` is far away. -/
def fieldSizeLimit : Nat := 131072

theorem decimal_plain_cell {number : Nat} (fits : number < 2 ^ 64) :
    PlainCell fieldSizeLimit (decimal number) where
  chars := by
    intro char member
    have digit := PythonText.isDigit_of_mem_decimal member
    refine ⟨?_, ?_, ?_⟩
    · by_contra ending
      rw [Bool.not_eq_false, CsvText.isLineEnd, Bool.or_eq_true, beq_iff_eq, beq_iff_eq] at ending
      rcases ending with same | same
      · subst same
        cases digit
      · subst same
        cases digit
    · intro same
      subst same
      cases digit
    · intro same
      subst same
      cases digit
  short := by
    have digits : (decimal number).length ≤ 20 :=
      Nat.toDigits_length 10 number 20 (by decide) (by omega)
    exact digits.trans (by decide)

theorem TraceRecord.Fits.plain {record : TraceRecord} (fits : record.Fits) :
    PlainRow fieldSizeLimit record.cells where
  plain := by
    have count := fits.count
    have thread := fits.thread
    simp only [cells, List.forall_mem_cons, List.not_mem_nil, false_implies, implies_true, and_true]
    exact ⟨decimal_plain_cell fits.actual, decimal_plain_cell fits.scheduled,
      decimal_plain_cell fits.first, decimal_plain_cell (by omega), decimal_plain_cell (by omega)⟩
  visible := by
    rw [cells, List.intercalate_cons_cons]
    simp

private theorem traceHeader_plain : PlainRow fieldSizeLimit traceHeader where
  plain := by
    have chars : ∀ cell ∈ traceHeader,
        (cell.all fun char => ! CsvText.isLineEnd char && char != ',' && char != '"') = true ∧
          cell.length ≤ fieldSizeLimit := by decide +kernel
    intro cell member
    rcases chars cell member with ⟨all, short⟩
    refine ⟨?_, short⟩
    intro char inside
    simpa [and_assoc] using List.all_eq_true.mp all char inside
  visible := by decide

theorem read_writeTrace {sorted : List TraceRecord} (fits : ∀ record ∈ sorted, record.Fits) :
    CsvText.read fieldSizeLimit (writeTrace sorted) =
      some (traceHeader :: sorted.map TraceRecord.cells) := by
  apply CsvText.read_rows
  intro cells member
  cases List.mem_cons.mp member with
  | inl same => exact same ▸ traceHeader_plain
  | inr listed =>
      rcases List.mem_map.mp listed with ⟨record, inside, rfl⟩
      exact (fits record inside).plain

/-! ## The records of a run -/

structure Traced (config : Config) (stats : WorkerStats) : Prop where
  length : stats.trace.length = if config.tracing then stats.latenessSamples else 0
  occupied : ∀ record ∈ stats.trace, 0 < record.packetCount

variable {host : Endianness} {config : Config} {window : Window}

theorem Traced.of_stats {stats next : WorkerStats} (traced : Traced config stats)
    (trace : next.trace = stats.trace) (samples : next.latenessSamples = stats.latenessSamples) :
    Traced config next where
  length := by rw [trace, samples, traced.length]
  occupied := trace ▸ traced.occupied

theorem Traced.recordSuccess {stats : WorkerStats} (traced : Traced config stats)
    (window : Window) (index packetIndex : Nat) (batch : Batch) (offset : Nat)
    (outcome : SendResult) (environment : Environment) (positive : 0 < outcome.successful) :
    Traced config (recordSuccess config window index packetIndex stats batch offset outcome
      environment) := by
  have length := traced.length
  by_cases tracing : config.tracing
  · simp only [tracing, if_true] at length
    constructor
    · simp only [Sender.recordSuccess, tracing, if_true, List.length_append, List.length_singleton]
      omega
    · simp only [Sender.recordSuccess, tracing, if_true]
      intro record member
      cases List.mem_append.mp member with
      | inl old => exact traced.occupied record old
      | inr new =>
          rw [List.mem_singleton.mp new]
          exact positive
  · simp only [tracing, if_false, Bool.false_eq_true] at length
    constructor
    · simp only [Sender.recordSuccess, tracing, if_false, Bool.false_eq_true]
      exact length
    · simp only [Sender.recordSuccess, tracing, if_false, Bool.false_eq_true]
      exact traced.occupied

private theorem sendStep_traced {worker : Worker} (traced : Traced config worker.stats)
    {batch : Batch} {offset : Nat} (within : offset < batch.count) (index : Nat) (stop : Bool)
    (environment : Environment) :
    Traced config
      (sendStep config window index stop worker batch offset environment).stats := by
  by_cases positive : 0 < environment.result
  · have sent : 0 < min environment.result.toNat (batch.count - offset) := by omega
    have called : Traced config { worker.stats with syscallCount := worker.stats.syscallCount + 1 } :=
      traced.of_stats rfl rfl
    rw [sendStep_of_pos window index stop worker batch offset positive]
    dsimp only
    split
    · exact called.recordSuccess window index _ batch offset _ environment sent
    · exact called.recordSuccess window index _ batch offset _ environment sent
  · by_cases interrupted : environment.result < 0 ∧ environment.errno = interruptedCall
    · rw [sendStep_of_interrupted window index stop worker batch offset interrupted]
      dsimp only
      split
      · exact traced.of_stats rfl rfl
      · exact traced.of_stats rfl rfl
    · rcases sendStep_of_failed window index stop worker batch offset positive interrupted within
        with ⟨reported, failed⟩
      rw [failed]
      exact traced.of_stats rfl rfl

private theorem workerStep_traced {state : State config}
    (traced : ∀ index, Traced config (state.workers index).stats)
    (wellFormed : ∀ index, (state.workers index).position.WellFormed config)
    (mover : Fin config.threads) (environment : Environment) (index : Fin config.threads) :
    Traced config
      ((workerStep host config window state mover environment).1.workers index).stats := by
  by_cases same : index = mover
  · subst same
    have before := traced index
    cases position : (state.workers index).position with
    | checking =>
        simp only [workerStep, position]
        split
        · simp only [Function.update_self]
          exact before
        · simp only [Function.update_self]
          exact before
    | allocating count scheduled =>
        simp only [workerStep, position, Function.update_self]
        exact before.of_stats rfl rfl
    | sending batch offset =>
        have placed := wellFormed index
        rw [position] at placed
        simp only [workerStep, position, Function.update_self]
        exact sendStep_traced before placed.2.1 index state.stop environment
    | leaving =>
        simp only [workerStep, position, Function.update_self, leaveStats]
        split
        · exact before
        · exact before.of_stats rfl rfl
    | finished =>
        simp only [workerStep, position]
        exact before
  · rw [(workerStep_frame host window state mover environment).2 index same]
    exact traced index

private theorem stats_traced {state : State config}
    (each : ∀ index, Traced config (state.workers index).stats) : Traced config state.stats where
  length := by
    have records := State.stats_sum (·.trace.length) (fun _ _ => List.length_append) rfl state
    have samples : state.stats.latenessSamples = _ :=
      State.stats_sum (·.latenessSamples) (fun _ _ => rfl) rfl state
    rw [records]
    by_cases tracing : config.tracing
    · rw [if_pos tracing, samples]
      apply Finset.sum_congr rfl
      intro index _
      rw [(each index).length, if_pos tracing]
    · rw [if_neg tracing]
      apply Finset.sum_eq_zero
      intro index _
      rw [(each index).length, if_neg tracing]
  occupied := by
    intro record member
    rw [State.stats_trace, Family.gather, List.mem_flatMap] at member
    rcases member with ⟨index, _, inside⟩
    exact (each index).occupied record inside

theorem run_traced (host : Endianness) (window : Window)
    {connect : Fin config.threads → Option Nat} (opened : ∀ index, connect index = none)
    (schedule : List (Action config)) :
    Traced config ((machine host config window).run (start config connect) schedule).1.stats := by
  have both := @Machine.run_invariant _ _ _ (machine host config window)
    (fun history state => Conserved config history state ∧
      ∀ index, Traced config (state.workers index).stats)
    (start config connect) ?_ ?_ schedule
  · exact stats_traced both.2
  · exact ⟨start_conserved opened, fun _ => ⟨by simp [start], nofun⟩⟩
  · intro history state action holds
    cases action with
    | signal =>
        change Conserved config (history ++ []) { state with stop := true } ∧ _
        rw [List.append_nil]
        exact ⟨{ holds.1 with }, holds.2⟩
    | worker mover environment =>
        exact ⟨workerStep_conserved holds.1 mover environment,
          workerStep_traced holds.2 holds.1.wellFormed mover environment⟩

end NetLatencyLab.Sender
