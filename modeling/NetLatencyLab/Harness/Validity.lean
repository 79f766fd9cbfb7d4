import NetLatencyLab.Foundation.JsonNumbers
import NetLatencyLab.Harness.Counters
import NetLatencyLab.Harness.NodeState

/-! # The validity of a run

`validity_reasons` of `main.py`: what is wrong with a run, by the two statistics
files, the counters of the receiver and the states of the nodes. -/

namespace NetLatencyLab.Harness

open CommandLine (Double)
open Counters (Delta)
open JsonFiles (JsonObject count countOr flag)
open PythonText (Text)

/-- `if condition: reasons.append(reason)`. -/
def objection (condition : Prop) [Decidable condition] (reason : String) : List String :=
  if condition then [reason] else []

theorem objection_eq_nil {condition : Prop} [Decidable condition] {reason : String} :
    objection condition reason = [] ↔ ¬condition := by
  rw [objection]
  split
  next given => exact iff_of_false (List.cons_ne_nil _ _) (not_not_intro given)
  next absent => exact iff_of_true rfl absent

/-! ## Reasons -/

section

variable (float : Text → Option Double)

def accountingReasons (sender receiver : JsonObject) : Option (List String) := do
  let successful ← count float sender "successful_sends"
  let uniqueReceived ← count float receiver "unique_valid_packets"
  let uniqueProcessed ← count float receiver "unique_processed_packets"
  let processed ← count float receiver "processed_packets"
  let overflow ← count float receiver "spsc_overflow"
  let valid ← count float receiver "valid_packets"
  pure (objection (successful < uniqueReceived) "unique receives exceed successful submissions" ++
    objection (successful < uniqueProcessed) "unique processed exceeds successful submissions" ++
    objection (processed + overflow ≠ valid) "SPSC/processing accounting does not reconcile")

def outcomeReasons (receiver : JsonObject) (name : String) : Option (List String) :=
  match receiver.lookup name.toList with
  | none => some []
  | some .null => some []
  | some (.object outcome) =>
      some (objection (flag outcome "success" = false) s!"{name} was not applied")
  | some _ => none

def outcomeNames : List String :=
  ["receiver_affinity", "receiver_scheduler", "worker_affinity", "worker_scheduler"]

def senderAffinityReasons (sender : JsonObject) : Option (List String) :=
  match sender.lookup "cpu_affinity".toList with
  | none => some ["sender affinity was not applied"]
  | some (.object outcome) =>
      some (objection (flag outcome "success" = false) "sender affinity was not applied")
  | some _ => none

def bufferReasons (side : String) (stats : JsonObject) : Option (List String) := do
  let requested ← countOr float 0 stats "requested_socket_buffer_bytes"
  let observed ← countOr float (-1) stats "observed_socket_buffer_bytes"
  pure (objection (0 < requested ∧ observed < requested)
    s!"observed {side} socket buffer is below the request")

def windowReasons (receiver : JsonObject) (packets first last reason : String) :
    Option (List String) := do
  let packets ← count float receiver packets
  if packets = 0 then pure []
  else
    let first ← countOr float 0 receiver first
    if first = 0 then pure [reason]
    else
      let last ← countOr float 0 receiver last
      pure (objection (last = 0) reason)

def backlogReasons (receiver : JsonObject) : Option (List String) := do
  let depth ← countOr float 0 receiver "queue_depth_at_shutdown"
  let pending ← countOr float 0 receiver "socket_pending_bytes_at_shutdown"
  pure (objection (depth ≠ 0) "application backlog remained after the post-sender drain" ++
    objection (pending ≠ 0) "kernel socket backlog remained after the post-sender drain")

end

def isNegative (delta : Delta) : Bool := (delta.delta.map fun value => decide (value < 0)).getD false

def counterReasons (counters : List (String × Delta)) : List String :=
  objection (counters.any fun entry => isNegative entry.2) "negative kernel or NIC counter delta"

def pauseReasons (counters : List (String × Delta)) (name : String) : List String :=
  match (counters.lookup name).bind Delta.delta with
  | none => [s!"{name} counter was unavailable"]
  | some delta =>
      objection (delta ≠ 0) s!"802.3x pause frames were exchanged ({name} delta {delta})"

/-- `sorted` names of the probes with errors. -/
def missingReasons (label : String) (state : NodeState) : List String :=
  let missing := ((state.filter fun entry => entry.2.failed).map Prod.fst).insertionSort (· ≤ ·)
  let names := ", ".intercalate missing
  objection (missing ≠ []) s!"{label} metadata unavailable: {names}"

/-- The states of the two nodes before and after a run. -/
structure NodeStates where
  before : NodeState
  after : NodeState
  senderBefore : NodeState
  senderAfter : NodeState

def ethernetReasons (counters : List (String × Delta)) (states : NodeStates) : List String :=
  pauseReasons counters "nic_rx_pause" ++ pauseReasons counters "nic_tx_pause" ++
    objection (throttled states.before ∨ throttled states.after)
      "thermal/power throttling flag was nonzero" ++
    objection (states.senderBefore ≠ [] ∧ states.senderAfter ≠ [] ∧
        (throttled states.senderBefore ∨ throttled states.senderAfter))
      "sender thermal/power throttling flag was nonzero" ++
    missingReasons "receiver before" states.before ++ missingReasons "receiver after" states.after ++
    missingReasons "sender before" states.senderBefore ++
    missingReasons "sender after" states.senderAfter

/-- `none` is an exception: a field that is missing or of another type. -/
def validityReasons (float : Text → Option Double) (sender receiver : JsonObject)
    (counters : List (String × Delta)) (topology : Text) (states : NodeStates) :
    Option (List String) := do
  let accounting ← accountingReasons float sender receiver
  let outcomes ← outcomeNames.mapM (outcomeReasons receiver)
  let affinity ← senderAffinityReasons sender
  let receiveBuffer ← bufferReasons float "receive" receiver
  let sendBuffer ← bufferReasons float "send" sender
  let receiving ← windowReasons float receiver "valid_packets" "first_receive_mono_ns"
    "last_receive_mono_ns" "receive monotonic window is missing"
  let processing ← windowReasons float receiver "processed_packets" "first_processing_mono_ns"
    "last_processing_mono_ns" "processing monotonic window is missing"
  let backlog ← backlogReasons float receiver
  pure (accounting ++ outcomes.flatten ++ affinity ++ receiveBuffer ++ sendBuffer ++ receiving ++
    processing ++ backlog ++ counterReasons counters ++
    if topology = "local_loopback".toList then [] else ethernetReasons counters states)

end NetLatencyLab.Harness
