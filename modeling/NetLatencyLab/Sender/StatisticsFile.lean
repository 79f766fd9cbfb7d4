import Mathlib.Algebra.Order.Field.Rat
import Mathlib.Data.Rat.Floor
import NetLatencyLab.Common.ThreadOutcomes
import NetLatencyLab.Sender.Conservation
import NetLatencyLab.Sender.Options

/-! # The statistics file of the sender

`write_stats` of `sender.cpp`, and what the controller reads back of it. -/

namespace NetLatencyLab.Sender

open JsonDocument (Element joinElements)
open PythonText (Text decimal)
open Statistics (Field inlineObject writeLines writeLines_concat)
open Thread (AffinityOutcome)

structure WorkerReport where
  stats : WorkerStats
  affinity : AffinityOutcome

/-- What `main` hands to `write_stats`. -/
structure Report where
  options : Options.Config
  stats : WorkerStats
  elapsedNs : Nat
  requestedSocketBuffer : Int
  observedSocketBuffer : Int
  workers : List WorkerReport
  startNs : Nat
  endNs : Nat
  interrupted : Bool

/-- `percentile`; the sample is sorted. -/
def percentile (sorted : List Nat) (quantile : ℚ) : Nat :=
  if sorted = [] then 0
  else
    let index := (⌈quantile * sorted.length⌉ - 1).toNat
    sorted.getD (min index (sorted.length - 1)) 0

section

/-- `%.*f` of the `double` nearest to a number, and the `float` of its text. -/
structure FloatText where
  print : (places : Nat) → ℚ → Text
  toFloat : Text → Text

variable (floats : FloatText)

def fixedField (name : String) (places : Nat) (value : ℚ) : Field where
  name := name.toList
  printed := floats.print places value
  item := .float (floats.toFloat (floats.print places value))

def latenessFields (stats : WorkerStats) : List Field :=
  let sorted := stats.latenessNs.insertionSort (· ≤ ·)
  [.natural "samples" stats.latenessSamples,
    fixedField floats "mean" 3
      (if stats.latenessSamples ≠ 0 then (stats.latenessSumNs : ℚ) / stats.latenessSamples else 0),
    .natural "p50" (percentile sorted (1 / 2)), .natural "p90" (percentile sorted (9 / 10)),
    .natural "p99" (percentile sorted (99 / 100)), .natural "max" stats.latenessMaxNs]

def traceFields (options : Options.Config) (stats : WorkerStats) : List Field :=
  [.boolean "enabled" (options.pacingTracePath ≠ []),
    .string .sender "path" options.pacingTracePath, .string .sender "format" "csv-v1".toList,
    .natural "records" stats.trace.length]

def sizeField (entry : Nat × Nat) : Field where
  name := decimal entry.2
  printed := decimal entry.1
  item := .integer entry.1

def histogramFields (histogram : List Nat) : List Field :=
  ((histogram.zipIdx.drop 1).filter fun entry => entry.1 ≠ 0).map sizeField

def workerFields (index : Nat) (worker : WorkerReport) : List Field :=
  [.natural "thread_index" index, .natural "attempted_sends" worker.stats.attemptedSends,
    .natural "successful_sends" worker.stats.successfulSends,
    .natural "failed_sends" worker.stats.failedSends,
    .natural "syscall_count" worker.stats.syscallCount,
    .natural "partial_returns" worker.stats.partialReturns,
    .natural "error_returns" worker.stats.errorReturns,
    .integer "requested_cpu" worker.affinity.requested,
    .integer "observed_cpu" worker.affinity.observed,
    .string .sender "observed_cpu_set" worker.affinity.observedCpuSet,
    .boolean "affinity_success" worker.affinity.success,
    .string .sender "affinity_error" worker.affinity.error]

def modeField (options : Options.Config) : Field where
  name := "mode".toList
  printed := '"' :: options.mode ++ ['"']
  item := .string options.mode

def objectField (name : String) (fields : List Field) : Field where
  name := name.toList
  printed := inlineObject fields
  item := .object (fields.map Field.entry)

/-- The first call of `fprintf`. -/
def scalarFields (report : Report) : List Field :=
  let options := report.options
  let stats := report.stats
  let elapsedSeconds := (report.elapsedNs : ℚ) / 1000000000
  let achieved := if 0 < elapsedSeconds then (stats.successfulSends : ℚ) / elapsedSeconds else 0
  [.natural "schema_version" 2, .string .sender "destination_ip" options.destination,
    .natural "port" options.port, .natural "requested_rate_pps" options.ratePps,
    fixedField floats "requested_duration_seconds" 9 options.durationSeconds, modeField options,
    .natural "burst_size" options.burstSize, .natural "payload_size" options.payloadSize,
    .natural "timestamp_every" options.timestampEvery,
    .natural "send_batch_max" options.sendBatchMax,
    .natural "batch_window_us" options.batchWindowUs, .natural "threads" options.threads,
    .natural "attempted_sends" stats.attemptedSends,
    .natural "successful_sends" stats.successfulSends,
    .natural "failed_sends" stats.failedSends, .natural "successful_bytes" stats.successfulBytes,
    .natural "syscall_count" stats.syscallCount, .natural "partial_returns" stats.partialReturns,
    .natural "error_returns" stats.errorReturns, .natural "elapsed_ns" report.elapsedNs,
    fixedField floats "elapsed_seconds" 9 elapsedSeconds,
    fixedField floats "achieved_successful_send_pps" 6 achieved,
    .natural "start_mono_ns" report.startNs, .natural "scheduled_end_mono_ns" report.endNs,
    .boolean "interrupted" report.interrupted, .natural "last_errno" stats.lastError,
    .integer "requested_socket_buffer_bytes" report.requestedSocketBuffer,
    .integer "observed_socket_buffer_bytes" report.observedSocketBuffer,
    objectField "pacing_lateness_ns" (latenessFields floats stats),
    objectField "pacing_trace" (traceFields options stats)]

/-- One line of `thread_outcomes`. -/
def workerLine (comma : Bool) (index : Nat) (worker : WorkerReport) : Text :=
  [' ', ' ', ' ', ' '] ++ inlineObject (workerFields index worker) ++
    (if comma then [','] else []) ++ ['\n']

def workerLines (count : Nat) (workers : List (WorkerReport × Nat)) : Text :=
  workers.flatMap fun worker => workerLine (worker.2 + 1 ≠ count) worker.2 worker.1

/-- `workers.front().affinity`. -/
def frontAffinity (workers : List WorkerReport) : AffinityOutcome :=
  (workers.head?.map WorkerReport.affinity).getD {}

def writeStats (report : Report) : Text :=
  ['{', '\n'] ++ (scalarFields floats report).flatMap (·.line true) ++
    [' ', ' '] ++ Field.label "effective_batch_size_histogram".toList ++
    inlineObject (histogramFields report.stats.batchHistogram) ++ [',', '\n'] ++
    [' ', ' '] ++ Field.label "thread_outcomes".toList ++ ['[', '\n'] ++
    workerLines report.workers.length report.workers.zipIdx ++ [' ', ' ', ']', ',', '\n'] ++
    (objectField "cpu_affinity" ((frontAffinity report.workers).fields .sender)).line false ++
    ['}', '\n']

end

/-! ## The fields of the file -/

section

variable {floats : FloatText} {report : Report}

def outcomesField (workers : List WorkerReport) : Field where
  name := "thread_outcomes".toList
  printed := ['[', '\n'] ++ workerLines workers.length workers.zipIdx ++ [' ', ' ', ']']
  item := .array (workers.zipIdx.map fun worker =>
    .object ((workerFields worker.2 worker.1).map Field.entry))

def statsFields (floats : FloatText) (report : Report) : List Field :=
  scalarFields floats report ++
    [objectField "effective_batch_size_histogram" (histogramFields report.stats.batchHistogram)] ++
    [outcomesField report.workers] ++
    [objectField "cpu_affinity" ((frontAffinity report.workers).fields .sender)]

private theorem lines_eq (front sizes affinity : List Field) (workers : List WorkerReport) :
    ['{', '\n'] ++ front.flatMap (·.line true) ++
        [' ', ' '] ++ Field.label "effective_batch_size_histogram".toList ++ inlineObject sizes ++
        [',', '\n'] ++ [' ', ' '] ++ Field.label "thread_outcomes".toList ++ ['[', '\n'] ++
        workerLines workers.length workers.zipIdx ++ [' ', ' ', ']', ',', '\n'] ++
        (objectField "cpu_affinity" affinity).line false ++ ['}', '\n'] =
      ['{', '\n'] ++ writeLines (front ++ [objectField "effective_batch_size_histogram" sizes] ++
        [outcomesField workers] ++ [objectField "cpu_affinity" affinity]) ++ ['}', '\n'] := by
  have first : (objectField "effective_batch_size_histogram" sizes).line true =
      [' ', ' '] ++ Field.label "effective_batch_size_histogram".toList ++ inlineObject sizes ++
        [',', '\n'] :=
    Field.line_comma _
  have second : (outcomesField workers).line true =
      [' ', ' '] ++ Field.label "thread_outcomes".toList ++ ['[', '\n'] ++
        workerLines workers.length workers.zipIdx ++ [' ', ' ', ']', ',', '\n'] := by
    have whole : (outcomesField workers).line true =
        [' ', ' '] ++ Field.label "thread_outcomes".toList ++
          (['[', '\n'] ++ workerLines workers.length workers.zipIdx ++ [' ', ' ', ']']) ++
            [',', '\n'] := Field.line_comma _
    rw [whole]
    simp only [List.append_assoc, List.cons_append, List.nil_append]
  rw [writeLines_concat, List.flatMap_append, List.flatMap_append, List.flatMap_singleton,
    List.flatMap_singleton, first, second]
  simp only [List.append_assoc]

theorem writeStats_eq (floats : FloatText) (report : Report) :
    writeStats floats report =
      ['{', '\n'] ++ writeLines (statsFields floats report) ++ ['}', '\n'] :=
  lines_eq _ _ _ _

theorem statsFields_distinct (floats : FloatText) (report : Report) :
    ((statsFields floats report).map Field.name).Nodup := by
  have names : ((statsFields ⟨fun _ _ => [], id⟩
      { options := {}
        stats := { batchHistogram := [] }
        elapsedNs := 0
        requestedSocketBuffer := 0
        observedSocketBuffer := 0
        workers := []
        startNs := 0
        endNs := 0
        interrupted := false }).map Field.name).Nodup := by decide +kernel
  exact names

/-! ## Arrays of objects -/

def workerElement (before after : Text) (worker : WorkerReport × Nat) : Element where
  before := before
  text := inlineObject (workerFields worker.2 worker.1)
  item := .object ((workerFields worker.2 worker.1).map Field.entry)
  after := after

def workerElements : List (WorkerReport × Nat) → List Element
  | [] => []
  | [worker] => [workerElement ['\n', ' ', ' ', ' ', ' '] ['\n', ' ', ' '] worker]
  | worker :: next :: later =>
      workerElement ['\n', ' ', ' ', ' ', ' '] [] worker :: workerElements (next :: later)

theorem joinElements_workerElements {workers : List WorkerReport} (occupied : workers ≠ [])
    (first : Nat) :
    joinElements (workerElements (workers.zipIdx first)) =
      '\n' :: workerLines (first + workers.length) (workers.zipIdx first) ++ [' ', ' '] := by
  induction workers generalizing first with
  | nil => exact absurd rfl occupied
  | cons worker later induction =>
      cases later with
      | nil =>
          simp [joinElements, workerElements, workerElement, workerLines, workerLine, Element.write]
      | cons next later =>
          have rest := induction (List.cons_ne_nil _ _) (first + 1)
          have shape : ∃ second third,
              workerElements ((next :: later).zipIdx (first + 1)) = second :: third := by
            cases later with
            | nil => exact ⟨_, _, rfl⟩
            | cons third later => exact ⟨_, _, rfl⟩
          have total : first + 1 + (next :: later).length =
              first + (worker :: next :: later).length := by
            simp only [List.length_cons]
            omega
          rw [total] at rest
          rcases shape with ⟨second, third, shape⟩
          rw [List.zipIdx_cons, workerLines, List.flatMap_cons, ← workerLines]
          rw [List.zipIdx_cons] at rest shape ⊢
          rw [workerElements, shape, JsonDocument.joinElements_cons, ← shape, rest]
          simp [workerElement, workerLine, Element.write]

end

end NetLatencyLab.Sender
