import NetLatencyLab.Harness.PacingTrace
import NetLatencyLab.Sender.RunReport

/-! # The trace of a run, analyzed

`analyze_pacing_trace` of the two files that one run of the sender leaves: its
pacing trace and its statistics. -/

namespace NetLatencyLab.Harness

open Fallible (mapM_map_pure)
open JsonFiles (Json JsonObject)
open PythonText (Text decimal)
open Sender (Conserved FloatText InTraceOrder Surroundings fieldSizeLimit machine reportOf start
  traceHeader wire writeStats writeTrace)
open Statistics (Program safeReadJson)

/-! ## The files, as the controller reads them -/

/-- `csv.DictReader(handle)` of a file in UTF-8: the names are the first row. -/
def TraceTable.ofBytes (path : Text) (bytes : List UInt8) : Option TraceTable :=
  ((Utf8.decode bytes).bind (CsvText.read fieldSizeLimit)).map fun rows =>
    ⟨path, rows.headD [], rows.tail⟩

def PacingSender.ofObject (sender : JsonObject) : Option PacingSender := do
  let start ← (sender.lookup "start_mono_ns".toList).bind Json.integer?
  let finish ← (sender.lookup "scheduled_end_mono_ns".toList).bind Json.integer?
  let successful ← (sender.lookup "successful_sends".toList).bind Json.integer?
  pure ⟨start, finish, successful⟩

/-! ## Records -/

def TraceRecord.ofSender (record : Sender.TraceRecord) : TraceRecord where
  actualMonoNs := record.actualMonoNs
  scheduledMonoNs := record.scheduledMonoNs
  packetCount := record.packetCount

theorem integerCell_decimal (number : Nat) : integerCell (some (decimal number)) = .ok number := by
  rw [integerCell, PythonText.toInt?_decimal]

private theorem readRecord_cells (path : Text) (rows : List (List Text))
    {record : Sender.TraceRecord} (occupied : 0 < record.packetCount) :
    readRecord ⟨path, traceHeader, rows⟩ record.cells = .ok (.ofSender record) := by
  have actual : cell traceHeader record.cells "actual_mono_ns" =
      some (decimal record.actualMonoNs) := rfl
  have scheduled : cell traceHeader record.cells "scheduled_mono_ns" =
      some (decimal record.scheduledMonoNs) := rfl
  have count : cell traceHeader record.cells "packet_count" =
      some (decimal record.packetCount) := rfl
  have valid : ¬((record.actualMonoNs : Int) < 0 ∨ (record.scheduledMonoNs : Int) < 0 ∨
      (record.packetCount : Int) ≤ 0) := by omega
  rw [readRecord, actual, scheduled, count, integerCell_decimal, integerCell_decimal,
    integerCell_decimal]
  exact if_neg valid

private theorem readTrace_cells (path : Text) {records : List Sender.TraceRecord}
    (occupied : ∀ record ∈ records, 0 < record.packetCount) :
    readTrace ⟨path, traceHeader, records.map Sender.TraceRecord.cells⟩ =
      .ok (records.map .ofSender) := by
  have named : requiredColumns ⊆ traceHeader := by decide
  have kept : (records.map Sender.TraceRecord.cells).filter (fun row => row ≠ []) =
      records.map Sender.TraceRecord.cells := by
    apply List.filter_eq_self.mpr
    intro row member
    rcases List.mem_map.mp member with ⟨record, _, rfl⟩
    rfl
  rw [readTrace, if_pos named, kept]
  exact mapM_map_pure fun record member => readRecord_cells path _ (occupied record member)

/-! ## The analysis -/

theorem rankOrZero_ok (counts : List Int) (quantile : ℚ) :
    ∃ rank, rankOrZero counts quantile = .ok rank := by
  rw [rankOrZero]
  split
  · exact ⟨0, rfl⟩
  next some =>
    rw [nearestRank, if_neg some]
    exact ⟨_, rfl⟩

def reconcileReason : String :=
  "pacing trace packet count does not reconcile with successful sends"

private theorem reconcileReason_mem (sender : PacingSender) (batchWindowUs : Int) (target : ℚ)
    (counts : List Int) (p1 p99 tracePackets maxUnexplained : Int) :
    reconcileReason ∈ pacingReasons sender batchWindowUs target counts p1 p99 tracePackets
        maxUnexplained ↔ tracePackets ≠ sender.successfulSends := by
  have short : reconcileReason ≠ "pacing interval is too short after edge exclusion" := by decide
  have band : reconcileReason ≠
      "pacing trace 1 ms p1/p99 is outside the 90-110% target band" := by decide
  have gap : reconcileReason ≠
      "pacing trace has an unexplained enqueue gap over two batch windows" := by decide
  simp only [pacingReasons, List.mem_append, List.mem_ite_nil_right, List.mem_singleton, short,
    band, gap, and_false, false_or, or_false]
  exact and_iff_left rfl

private theorem analyzePacingTrace_ok {trace : TraceTable} {records : List TraceRecord}
    (read : readTrace trace = .ok records) (sender : PacingSender) (ratePps batchWindowUs : Int) :
    ∃ analysis, analyzePacingTrace trace sender ratePps batchWindowUs = .ok analysis ∧
      analysis.records = records.length ∧
      analysis.tracePackets = (records.map TraceRecord.packetCount).sum ∧
      (reconcileReason ∈ analysis.reasons ↔ analysis.tracePackets ≠ sender.successfulSends) := by
  rcases rankOrZero_ok (fillWindows sender (inTimeOrder records)).counts (1 / 100) with ⟨p1, first⟩
  rcases rankOrZero_ok (fillWindows sender (inTimeOrder records)).counts (99 / 100)
    with ⟨p99, last⟩
  have order := inTimeOrder_perm records
  rw [analyzePacingTrace, read]
  simp only [Fallible.ok_bind, first, last]
  exact ⟨_, rfl, order.length_eq, (order.map _).sum_eq, reconcileReason_mem ..⟩

/-! ## The two files of one run -/

section

variable {config : Sender.Config} {history : List Sender.Event} {state : Sender.State config}

private theorem sum_packetCount (conserved : Conserved config history state)
    (tracing : config.tracing)
    {sorted : List Sender.TraceRecord} (order : InTraceOrder state.stats.trace sorted) :
    ((sorted.map TraceRecord.ofSender).map TraceRecord.packetCount).sum =
      ((wire history).length : Int) := by
  have numbers := (conserved.traced tracing).length_eq
  rw [← Sender.State.stats_trace, List.length_flatMap, List.length_map] at numbers
  have lengths : state.stats.trace.map (fun record => record.numbers.length) =
      state.stats.trace.map Sender.TraceRecord.packetCount :=
    List.map_congr_left fun record _ => List.length_range'
  have total := (order.perm.map Sender.TraceRecord.packetCount).sum_eq
  rw [lengths, ← total] at numbers
  rw [← numbers, Nat.cast_list_sum, List.map_map, List.map_map]
  rfl

private theorem ofObject_reportOf {floats : FloatText} {options : Sender.Options.Config}
    {surroundings : Surroundings config} {object : JsonObject}
    (found : ∀ field ∈ Sender.statsFields floats (reportOf options surroundings state),
      object.lookup field.name = some field.item) :
    PacingSender.ofObject object =
      some ⟨surroundings.startNs, (config.window surroundings.startNs).finish,
        state.stats.successfulSends⟩ := by
  have scalar : ∀ field ∈ Sender.scalarFields floats (reportOf options surroundings state),
      object.lookup field.name = some field.item := fun field member =>
    found field (List.mem_append_left _ (List.mem_append_left _ (List.mem_append_left _ member)))
  have first : object.lookup "start_mono_ns".toList = some (.integer surroundings.startNs) :=
    scalar (.natural "start_mono_ns" surroundings.startNs)
      (by simp [Sender.scalarFields, reportOf])
  have last : object.lookup "scheduled_end_mono_ns".toList =
      some (.integer (config.window surroundings.startNs).finish) :=
    scalar (.natural "scheduled_end_mono_ns" (config.window surroundings.startNs).finish)
      (by simp [Sender.scalarFields, reportOf])
  have successful : object.lookup "successful_sends".toList =
      some (.integer state.stats.successfulSends) :=
    scalar (.natural "successful_sends" state.stats.successfulSends)
      (by simp [Sender.scalarFields, reportOf])
  rw [PacingSender.ofObject, first, last, successful]
  rfl

end

/-- However a traced run goes, its trace is read back record by record, the
analysis of its files does not raise, and it never finds that the trace does not
reconcile with the successful sends. -/
theorem trace_of_run_reconciles (floats : FloatText) (fixed : floats.Fixed)
    (platform : Sender.Options.FloatingPoint)
    (bounded : ∀ seconds, platform.nanoseconds seconds < 2 ^ 64) {arguments : List Text}
    {options : Sender.Options.Config}
    (accepted : Sender.Options.main platform arguments = .ok options)
    (path : Program.sender.Prints options.pacingTracePath) (given : options.pacingTracePath ≠ [])
    (host : Endianness) (ratePps batchWindowUs : Int) :
    let config := Sender.Options.launch platform bounded options accepted
    ∀ (connect : Fin config.threads → Option Nat) (schedule : List (Sender.Action config))
      (surroundings : Surroundings config), (∀ index, connect index = none) →
      (∀ code, Program.sender.Prints (surroundings.strerror code)) →
      let outcome := (machine host config (config.window surroundings.startNs)).run
        (start config connect) schedule
      ∀ sorted, InTraceOrder outcome.1.stats.trace sorted → (∀ record ∈ sorted, record.Fits) →
      ∃ object sender table analysis,
        safeReadJson floats.toFloat
          (Utf8.encode (writeStats floats (reportOf options surroundings outcome.1))) =
            some object ∧
        PacingSender.ofObject object = some sender ∧
        TraceTable.ofBytes options.pacingTracePath (Utf8.encode (writeTrace sorted)) =
          some table ∧
        readTrace table = .ok (sorted.map .ofSender) ∧
        analyzePacingTrace table sender ratePps batchWindowUs = .ok analysis ∧
        analysis.records = outcome.1.stats.syscallCount - outcome.1.stats.errorReturns ∧
        analysis.tracePackets = (wire outcome.2).length ∧
        reconcileReason ∉ analysis.reasons := by
  intro config connect schedule surroundings opened errors outcome sorted order fits
  have tracing : config.tracing = true := decide_eq_true given
  have conserved : Conserved config outcome.2 outcome.1 :=
    Sender.run_conserved host config _ opened schedule
  have traced : Sender.Traced config outcome.1.stats := Sender.run_traced host _ opened schedule
  have balanced := (Sender.State.stats_balanced conserved).calls
  have successful : outcome.1.stats.successfulSends = (wire outcome.2).length :=
    (Sender.State.stats_sum (·.successfulSends) (fun _ _ => rfl) rfl outcome.1).trans
      conserved.successful
  rcases Sender.writeStats_read_back fixed
    (Sender.reportOf_prints accepted path surroundings errors outcome.1)
    with ⟨object, readObject, found⟩
  have occupied : ∀ record ∈ sorted, 0 < record.packetCount := fun record member =>
    traced.occupied record (order.perm.mem_iff.mp member)
  have read := readTrace_cells options.pacingTracePath occupied
  rcases analyzePacingTrace_ok read ⟨surroundings.startNs,
    (config.window surroundings.startNs).finish, outcome.1.stats.successfulSends⟩ ratePps
    batchWindowUs with ⟨analysis, analyzed, records, packets, reason⟩
  have sum := sum_packetCount conserved tracing order
  refine ⟨object, _, _, analysis, readObject, ofObject_reportOf found, ?_, read, analyzed, ?_, ?_, ?_⟩
  · rw [TraceTable.ofBytes, Utf8.decode_encode, Option.bind_some, Sender.read_writeTrace fits]
    rfl
  · have length := traced.length
    rw [if_pos tracing] at length
    rw [records, List.length_map, order.perm.length_eq]
    omega
  · exact packets.trans sum
  · rw [reason, packets, sum, successful]
    exact fun different => different rfl

/-- The files of two traced workers. -/
theorem traced_run_reconciles :
    let outcome := (machine .little Sender.tracedConfig (Sender.tracedConfig.window 0)).run
      (start Sender.tracedConfig fun _ => none) Sender.tracedSchedule
    let sorted := outcome.1.stats.trace.reverse
    ∃ object sender table analysis, safeReadJson Sender.exactText.toFloat (Utf8.encode
        (writeStats Sender.exactText (reportOf Sender.tracedOptions Sender.tracedSurroundings
          outcome.1))) = some object ∧
      PacingSender.ofObject object = some sender ∧
      TraceTable.ofBytes "trace.csv".toList (Utf8.encode (writeTrace sorted)) = some table ∧
      analyzePacingTrace table sender 1000000000 10 = .ok analysis ∧
      analysis.records = 2 ∧ analysis.tracePackets = 3 ∧ reconcileReason ∉ analysis.reasons := by
  intro outcome sorted
  have sent : (wire outcome.2).length = 3 := by decide +kernel
  have calls : outcome.1.stats.syscallCount - outcome.1.stats.errorReturns = 2 := by
    decide +kernel
  have ordered : sorted.Pairwise fun left right => left.actualMonoNs ≤ right.actualMonoNs := by
    decide +kernel
  have fits : ∀ record ∈ sorted, record.actualMonoNs < 2 ^ 64 ∧ record.scheduledMonoNs < 2 ^ 64 ∧
      record.firstSequence < 2 ^ 64 ∧ record.packetCount < 2 ^ 32 ∧
        record.threadIndex < 2 ^ 32 := by decide +kernel
  rcases trace_of_run_reconciles Sender.exactText Sender.exactText_fixed Sender.wholePlatform
    Sender.wholePlatform_bounded Sender.tracedOptions_accepted
    ((Thread.printable_of_all rfl).prints _) (by decide) .little 1000000000 10 (fun _ => none)
    Sender.tracedSchedule Sender.tracedSurroundings (fun _ => rfl)
    (fun _ => (Thread.printable_of_all rfl).prints _) sorted ⟨List.reverse_perm _, ordered⟩
    (fun record member => ⟨(fits record member).1, (fits record member).2.1,
      (fits record member).2.2.1, (fits record member).2.2.2.1, (fits record member).2.2.2.2⟩)
    with ⟨object, sender, table, analysis, written, told, read, _, analyzed, records, packets,
      reason⟩
  refine ⟨object, sender, table, analysis, written, told, read, analyzed, ?_, ?_, reason⟩
  · exact records.trans calls
  · have counted : analysis.tracePackets = (wire outcome.2).length := packets
    rw [counted, sent]
    rfl

end NetLatencyLab.Harness
