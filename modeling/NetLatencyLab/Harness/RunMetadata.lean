import NetLatencyLab.Analysis.GenerateSummary
import NetLatencyLab.Harness.RunIdentifiers
import NetLatencyLab.Harness.Validity

/-! # The metadata of a run

What `execute_run` makes of the two statistics files, as `generate_summary.py` reads
it back. -/

namespace NetLatencyLab.Harness

open CommandLine (Double)
open Counters (Delta)
open Fallible (bind_unit_eq_ok)
open GenerateSummary (RunSettings)
open JsonFiles (Json JsonObject count)
open PythonText (Text)

section

variable (float : Text → Option Double)

/-- `int(value)` of every item that allows it. -/
def integers (object : JsonObject) : Fields :=
  object.filterMap fun entry =>
    (entry.2.toInt float).map fun value => (String.ofList entry.1, value)

/-- `float(object[name])`, unless that is not finite. -/
def numberAt (object : JsonObject) (name : String) : Option ℚ :=
  match (object.lookup name.toList).bind (Json.toDouble float) with
  | some (.finite value) => some value
  | _ => none

/-- `metadata["packet_accounting"]`. -/
structure PacketAccounting where
  requestedRatePps : Int
  offeredPps : ℚ
  receivedPps : ℚ
  processedPps : ℚ
  ingressLoss : Int
  applicationLoss : Int
  ingressLossPct : ℚ
  applicationLossPct : ℚ
deriving DecidableEq

def packetAccounting (rate : Int) (sender receiver : JsonObject) : Option PacketAccounting := do
  let successful ← count float sender "successful_sends"
  let uniqueReceived ← count float receiver "unique_valid_packets"
  let uniqueProcessed ← count float receiver "unique_processed_packets"
  let elapsed ← numberAt float sender "elapsed_seconds"
  let ingressLoss := successful - uniqueReceived
  let applicationLoss := successful - uniqueProcessed
  pure
    { requestedRatePps := rate
      offeredPps := if elapsed > 0 then successful / elapsed else 0
      receivedPps := if elapsed > 0 then uniqueReceived / elapsed else 0
      processedPps := if elapsed > 0 then uniqueProcessed / elapsed else 0
      ingressLoss := ingressLoss
      applicationLoss := applicationLoss
      ingressLossPct := if successful ≠ 0 then 100 * ingressLoss / successful else 0
      applicationLossPct := if successful ≠ 0 then 100 * applicationLoss / successful else 0 }

end

/-- `metadata["run"]`. -/
def runSettings (item : RunTuple) (settings : BenchmarkSettings) (duration : ℚ) (variant : Text) :
    RunSettings where
  campaign := some item.campaign
  receiverVariant := String.ofList variant
  requestedRatePps := item.rate
  durationSeconds := duration
  payloadSize := settings.sender.payloadSize
  mode := String.ofList settings.sender.mode
  burstSize := item.burst
  batchSize := item.batch
  workNs := settings.receiver.workNs
  sampleEvery := some settings.receiver.sampleEvery

structure RunRecord where
  metadata : GenerateSummary.Metadata
  packetAccounting : PacketAccounting

/-- `none` is an exception. -/
def runRecord (float : Text → Option Double) (config : GlobalConfig) (item : RunTuple)
    (settings : BenchmarkSettings) (sender receiver : JsonObject)
    (counters : List (String × Delta)) (states : NodeStates) : Option RunRecord := do
  let accounting ← packetAccounting float item.rate sender receiver
  let reasons ← validityReasons float sender receiver counters config.topology states
  let variant ← (receiver.lookup "variant".toList).bind Json.string?
  let duration ←
    match settings.sender.durationSeconds.seconds with
    | some (.finite duration) => some duration
    | _ => none
  pure
    { metadata :=
        { schemaVersion := 2
          runId := String.ofList item.runId
          topology := String.ofList config.topology
          run := runSettings item settings duration variant
          senderStats := integers float sender
          elapsedSeconds := numberAt float sender "elapsed_seconds"
          achievedSuccessfulSendPps := numberAt float sender "achieved_successful_send_pps"
          receiverStats := integers float receiver
          validity := some ⟨some (reasons = [])⟩ }
      packetAccounting := accounting }

/-! ## Reading it back -/

theorem lookup_integers {float : Text → Option Double} {object : JsonObject} {name : String}
    {item : Json} {value : Int} (found : object.lookup name.toList = some item)
    (converts : item.toInt float = some value) :
    (integers float object).lookup name = some value := by
  induction object with
  | nil => cases found
  | cons entry object induction =>
      rw [List.lookup_cons] at found
      by_cases same : name.toList = entry.1
      · have here : (name.toList == entry.1) = true := beq_iff_eq.mpr same
        rw [here] at found
        cases found
        simp [integers, converts, ← same]
      · have other : (name.toList == entry.1) = false := beq_eq_false_iff_ne.mpr same
        rw [other] at found
        have later := induction found
        cases converted : entry.2.toInt float with
        | none => simpa [integers, converted] using later
        | some number =>
            have apart : (name == String.ofList entry.1) = false := by
              apply beq_eq_false_iff_ne.mpr
              intro equal
              apply same
              rw [equal, String.toList_ofList]
            simp only [integers, List.filterMap_cons, converted, Option.map_some,
              List.lookup_cons, apart]
            exact later

theorem topology_mem {config : Configuration} (accepted : validateConfig config = .ok ()) :
    String.ofList config.globalConfig.topology ∈ GenerateSummary.topologies := by
  simp only [validateConfig, validateNodes, bind_unit_eq_ok, check_eq_ok] at accepted
  have known := List.mem_map_of_mem (f := String.ofList) accepted.1.1
  exact known

end NetLatencyLab.Harness
