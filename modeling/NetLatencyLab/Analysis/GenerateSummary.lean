import NetLatencyLab.Analysis.ClockDrift
import NetLatencyLab.Analysis.PacketAccounting
import NetLatencyLab.Analysis.PerRunSummary

/-! # Run summaries

`generate_summary.py`: the row of the per-run table that the metadata and the
trace of one run yield. -/

namespace NetLatencyLab.GenerateSummary

open LatencyUtils (Row removeClockDrift)
open LeastSquares (Line)

/-- `metadata["run"]`. -/
structure RunSettings where
  campaign : Option String
  receiverVariant : String
  requestedRatePps : Int
  durationSeconds : ℚ
  payloadSize : Int
  mode : String
  burstSize : Int
  batchSize : Int
  workNs : Int
  sampleEvery : Option Int

/-- `metadata["validity"]`. -/
structure Validity where
  valid : Option Bool

structure Metadata where
  schemaVersion : Int
  runId : String
  topology : String
  run : RunSettings
  /-- The integer fields of `sender_stats`. -/
  senderStats : Fields
  elapsedSeconds : Option ℚ
  achievedSuccessfulSendPps : Option ℚ
  receiverStats : Fields
  validity : Option Validity

/-- `key in metadata["sender_stats"]`. -/
def Metadata.senderHas (metadata : Metadata) (key : String) : Bool :=
  if key = "elapsed_seconds" then metadata.elapsedSeconds.isSome
  else if key = "achieved_successful_send_pps" then metadata.achievedSuccessfulSendPps.isSome
  else (metadata.senderStats.lookup key).isSome

def topologies : List String := ["local_loopback", "distributed_ethernet", "external_generator"]

def senderRequired : List String :=
  ["achieved_successful_send_pps", "attempted_sends", "elapsed_seconds", "failed_sends",
    "successful_sends"]

def receiverRequired : List String :=
  ["datagrams_received", "invalid_magic", "processed_packets", "short_packets", "spsc_overflow",
    "valid_packets"]

def receiverRequiredV2 : List String :=
  ["unique_valid_packets", "unique_processed_packets", "receive_sequence_gaps",
    "receive_duplicates", "receive_reordered"]

/-- `int(fields[key])` with the exception of the analysis scripts. -/
def item (fields : Fields) (key : String) : Except AnalysisError Int :=
  match fields.item key with
  | .ok value => .ok value
  | .error (.keyError key) => .error (.keyError key)

def validateV2 (metadata : Metadata) (processed overflow valid : Int) : Except AnalysisError Unit :=
  match receiverRequiredV2.find? fun field => (metadata.receiverStats.lookup field).isNone with
  | some field => .error (.valueError s!"receiver_stats missing v2 field: {field}")
  | none =>
      if metadata.validity.isNone then
        .error (.valueError "v2 metadata requires validity verdict")
      else if processed + overflow ≠ valid then
        .error (.valueError "v2 processed plus SPSC overflow must equal valid received packets")
      else .ok ()

def validateMetadata (metadata : Metadata) : Except AnalysisError Unit :=
  let senderMissing := senderRequired.filter fun key => ! metadata.senderHas key
  let receiverMissing := receiverRequired.filter fun key =>
    (metadata.receiverStats.lookup key).isNone
  if metadata.topology ∉ topologies then
    .error (.valueError
      "topology must be local_loopback, distributed_ethernet, or external_generator")
  else if senderMissing ≠ [] then
    .error (.valueError ("sender_stats missing fields: " ++ ", ".intercalate senderMissing))
  else if receiverMissing ≠ [] then
    .error (.valueError ("receiver_stats missing fields: " ++ ", ".intercalate receiverMissing))
  else do
    let attempted ← item metadata.senderStats "attempted_sends"
    let successful ← item metadata.senderStats "successful_sends"
    let failed ← item metadata.senderStats "failed_sends"
    let processed ← item metadata.receiverStats "processed_packets"
    let overflow ← item metadata.receiverStats "spsc_overflow"
    let valid ← item metadata.receiverStats "valid_packets"
    if attempted ≠ successful + failed then
      .error (.valueError "sender attempts must equal successes plus failures")
    else if processed + overflow > valid then
      .error (.valueError "processed plus SPSC overflow exceeds valid received packets")
    else if metadata.schemaVersion ≥ 2 then validateV2 metadata processed overflow valid
    else .ok ()

structure LatencyFields where
  latencySampleCount : Nat
  clockDriftSlopeUsPerS : Option ℚ
  clockCorrectionApplied : Bool
  receiveLatencyMinUs : Option ℚ
  receiveLatencyMeanUs : Option ℚ
  receiveLatencyMaxUs : Option ℚ

def latencyFields (polyfit : List (ℚ × ℚ) → Line ℚ) (frame : List Row) : LatencyFields :=
  if frame = [] then
    { latencySampleCount := 0
      clockDriftSlopeUsPerS := none
      clockCorrectionApplied := false
      receiveLatencyMinUs := none
      receiveLatencyMeanUs := none
      receiveLatencyMaxUs := none }
  else
    let clean := removeClockDrift polyfit frame
    let latency := clean.latencyCorrectedUs
    { latencySampleCount := latency.length
      clockDriftSlopeUsPerS := some clean.slope
      clockCorrectionApplied := clean.clockCorrectionApplied
      receiveLatencyMinUs := some (latency.min?.getD 0)
      receiveLatencyMeanUs := some (latency.sum / latency.length)
      receiveLatencyMaxUs := some (latency.max?.getD 0) }

structure RunSummary extends RunRow, LatencyFields where
  receivedPps : ℚ
  achievedSenderRatePps : ℚ
  senderRuntimeSeconds : ℚ
  sendAttempts : Int
  sendSuccesses : Int
  sendFailures : Int
  receivedPackets : Int
  processedPackets : Int
  applicationLoss : Int
  ingressLossPct : ℚ
  zeroLossRun : Bool
  clockOffsetSuspect : Bool

/-- `count / elapsed if elapsed > 0 else 0.0`. -/
def perSecond (count : Int) (elapsed : ℚ) : ℚ := if elapsed > 0 then count / elapsed else 0

/-- `100.0 * loss / successful if successful else 0.0`. -/
def lossPct (loss successful : Int) : ℚ := if successful ≠ 0 then 100 * loss / successful else 0

/-- The columns of `CONFIGURATION_KEYS`. -/
def configurationCell (run : RunSettings) : String → Cell
  | "mode" => .text run.mode
  | "burst_size" => .number run.burstSize
  | "payload_size" => .number run.payloadSize
  | "duration_seconds" => .number run.durationSeconds
  | "work_ns" => .number run.workNs
  | _ => .number (run.sampleEvery.getD 1)

/-- `minimum is not None and float(minimum) < 0`. -/
def offsetSuspect : Option ℚ → Bool
  | none => false
  | some minimum => minimum < 0

def required (key : String) : Option ℚ → Except AnalysisError ℚ
  | some value => .ok value
  | none => .error (.keyError key)

def summarizeRun (polyfit : List (ℚ × ℚ) → Line ℚ) (metadata : Metadata) (frame : List Row) :
    Except AnalysisError RunSummary := do
  validateMetadata metadata
  let run := metadata.run
  let successful ← item metadata.senderStats "successful_sends"
  let valid ← item metadata.receiverStats "valid_packets"
  let received := (metadata.receiverStats.lookup "unique_valid_packets").getD valid
  let processedPackets ← item metadata.receiverStats "processed_packets"
  let processed := (metadata.receiverStats.lookup "unique_processed_packets").getD processedPackets
  let elapsed ← required "elapsed_seconds" metadata.elapsedSeconds
  let achieved ← required "achieved_successful_send_pps" metadata.achievedSuccessfulSendPps
  let attempted ← item metadata.senderStats "attempted_sends"
  let failed ← item metadata.senderStats "failed_sends"
  let overflow ← item metadata.receiverStats "spsc_overflow"
  let ingressLoss := successful - received
  let applicationLoss := successful - processed
  let runValid := ((metadata.validity.bind Validity.valid).getD true)
  let offeredPps := perSecond successful elapsed
  let applicationLossPct := lossPct applicationLoss successful
  let fields := latencyFields polyfit frame
  pure
    { fields with
      runId := metadata.runId
      campaign := run.campaign.getD "legacy"
      topology := metadata.topology
      receiver := run.receiverVariant
      batchSize := run.batchSize
      requestedRatePps := run.requestedRatePps
      offeredPps := offeredPps
      processedPps := perSecond processed elapsed
      ingressLoss := some ingressLoss
      spscOverflow := some overflow
      applicationLossPct := applicationLossPct
      runValid := runValid
      -- A run qualifies only when it carried traffic.
      sustainableRun :=
        runValid ∧ failed = 0 ∧ run.requestedRatePps > 0 ∧ successful > 0 ∧ processed > 0 ∧
          elapsed > 0 ∧ offeredPps ≥ 99 / 100 * run.requestedRatePps ∧
          0 ≤ applicationLossPct ∧ applicationLossPct ≤ 1 / 10
      configuration := configurationCell run
      receivedPps := perSecond received elapsed
      achievedSenderRatePps := achieved
      senderRuntimeSeconds := elapsed
      sendAttempts := attempted
      sendSuccesses := successful
      sendFailures := failed
      receivedPackets := received
      processedPackets := processed
      applicationLoss := applicationLoss
      ingressLossPct := lossPct ingressLoss successful
      zeroLossRun := applicationLoss = 0 ∧ ingressLoss = 0
      clockOffsetSuspect := offsetSuspect fields.receiveLatencyMinUs }

/-! ## Valid metadata -/

/-- What `validate_metadata` has checked of the fields that are read without a
default. -/
structure Complete (metadata : Metadata) : Prop where
  sender : ∀ key ∈ senderRequired, metadata.senderHas key
  receiver : ∀ key ∈ receiverRequired, (metadata.receiverStats.lookup key).isSome

private theorem validateMetadata_complete {metadata : Metadata}
    (valid : validateMetadata metadata = .ok ()) : Complete metadata := by
  rw [validateMetadata] at valid
  split at valid
  · cases valid
  split at valid
  · cases valid
  next senderPresent =>
    split at valid
    · cases valid
    next receiverPresent =>
      simp only [ne_eq, not_not, List.filter_eq_nil_iff] at senderPresent receiverPresent
      constructor
      · intro key member
        simpa using senderPresent key member
      · intro key member
        simpa using receiverPresent key member

theorem exists_item {fields : Fields} {key : String} (present : (fields.lookup key).isSome) :
    ∃ value, item fields key = .ok value := by
  rcases Option.isSome_iff_exists.mp present with ⟨value, found⟩
  exact ⟨value, by simp [item, Fields.item, found]⟩

theorem exists_required {key : String} {field : Option ℚ} (present : field.isSome) :
    ∃ value, required key field = .ok value := by
  rcases Option.isSome_iff_exists.mp present with ⟨value, rfl⟩
  exact ⟨value, rfl⟩

theorem exists_summarizeRun (polyfit : List (ℚ × ℚ) → Line ℚ) {metadata : Metadata}
    (valid : validateMetadata metadata = .ok ()) (frame : List Row) :
    ∃ row, summarizeRun polyfit metadata frame = .ok row ∧
      row.toLatencyFields = latencyFields polyfit frame ∧
      row.clockOffsetSuspect = offsetSuspect (latencyFields polyfit frame).receiveLatencyMinUs := by
  have complete := validateMetadata_complete valid
  have sender : ∀ key ∈ senderRequired, key ≠ "elapsed_seconds" →
      key ≠ "achieved_successful_send_pps" →
        ∃ value, item metadata.senderStats key = .ok value := by
    intro key member notElapsed notAchieved
    apply exists_item
    simpa [Metadata.senderHas, notElapsed, notAchieved] using complete.sender key member
  have receiver : ∀ key ∈ receiverRequired, ∃ value, item metadata.receiverStats key = .ok value :=
    fun key member => exists_item (complete.receiver key member)
  rcases sender "successful_sends" (by decide) (by decide) (by decide) with ⟨successful, first⟩
  rcases sender "attempted_sends" (by decide) (by decide) (by decide) with ⟨attempted, second⟩
  rcases sender "failed_sends" (by decide) (by decide) (by decide) with ⟨failed, third⟩
  rcases receiver "valid_packets" (by decide) with ⟨received, fourth⟩
  rcases receiver "processed_packets" (by decide) with ⟨processed, fifth⟩
  rcases receiver "spsc_overflow" (by decide) with ⟨overflow, sixth⟩
  have elapsed : ∃ value, required "elapsed_seconds" metadata.elapsedSeconds = .ok value := by
    apply exists_required
    simpa [Metadata.senderHas] using complete.sender "elapsed_seconds" (by decide)
  have achieved : ∃ value, required "achieved_successful_send_pps"
      metadata.achievedSuccessfulSendPps = .ok value := by
    apply exists_required
    simpa [Metadata.senderHas] using complete.sender "achieved_successful_send_pps" (by decide)
  rcases elapsed with ⟨elapsed, seventh⟩
  rcases achieved with ⟨achieved, eighth⟩
  simp only [summarizeRun, valid, first, second, third, fourth, fifth, sixth, seventh, eighth, bind,
    Except.bind]
  exact ⟨_, rfl, rfl, rfl⟩

end NetLatencyLab.GenerateSummary
