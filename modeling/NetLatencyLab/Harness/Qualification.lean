import Mathlib.Algebra.Order.Field.Rat
import Mathlib.Tactic.Linarith
import NetLatencyLab.Harness.Validity

/-! # The qualification of a run

`qualification_reasons` of `main.py`: what keeps a sender from being trusted at
the rate of a run. -/

namespace NetLatencyLab.Harness

open CommandLine (Double)
open Counters (Delta)
open JsonFiles (Json JsonObject count countOr flag)
open PythonText (Text)

/-- What is read of the metadata of a run. -/
structure Metadata where
  requestedRatePps : Int
  payloadSize : Int
  senderStats : JsonObject
  receiverStats : JsonObject
  counters : List (String × Delta)
  senderCounters : List (String × Delta)
  states : NodeStates
  /-- The reasons of the analysis of the pacing trace, if there is one. -/
  pacing : Option (List String)
  /-- The reasons of the validity. -/
  validity : List String

/-- `not .99 * rate <= achieved <= 1.01 * rate`. -/
def isOffRate (rate : Int) : Double → Bool
  | .finite achieved => ¬((99 / 100 : ℚ) * rate ≤ achieved ∧ achieved ≤ (101 / 100 : ℚ) * rate)
  | _ => true

def changeReasons (side : String) (counter : String × Delta) : List String :=
  let name := counter.1
  if counter.2.error.getD "" ≠ "" then [s!"{side}.{name} is unavailable"]
  else
    match counter.2.delta with
    | none => [s!"{side}.{name} is unavailable"]
    | some delta => objection (delta ≠ 0) s!"{side}.{name} changed"

def stateReasons (role : String) (before after : NodeState) : List String :=
  objection (¬(linkIsGigabitFull before ∧ linkIsGigabitFull after))
      s!"{role} link was not stably 1 Gb/s full duplex" ++
    objection (¬(throttlingIsClear before ∧ throttlingIsClear after))
      s!"{role} throttling state was unavailable or nonzero"

section

variable (float : Text → Option Double)

def nonzeroReasons (receiver : JsonObject) (fields : List String) : Option (List String) :=
  (fields.mapM fun field => do
    let value ← countOr float 0 receiver field
    pure (objection (value ≠ 0) s!"receiver reported nonzero {field}")).map List.flatten

def items? : Json → Option (List Json)
  | .array values => some values
  | .string text => some (text.map fun char => .string [char])
  | .object fields => some (fields.map fun field => .string field.1)
  | _ => none

/-- `any(not outcome.get("affinity_success", False) for outcome in outcomes)`. -/
def anyUnplaced : List Json → Option Bool
  | [] => some false
  | outcome :: later => do
      let fields ← outcome.object?
      if flag fields "affinity_success" then anyUnplaced later else some true

def threadReasons (sender : JsonObject) : Option (List String) := do
  let outcomes ← items? ((sender.lookup "thread_outcomes".toList).getD (.array []))
  let threads ← countOr float 1 sender "threads"
  let unsuccessful ←
    if (outcomes.length : Int) ≠ threads then some true else anyUnplaced outcomes
  pure (objection (unsuccessful = true)
    "sender thread/CPU outcomes are incomplete or unsuccessful")

def pacingReason (pacing : Option (List String)) : List String :=
  match pacing with
  | none => ["pacing trace analysis is missing"]
  | some reasons => reasons

def sequenceFields : List String := ["receive_sequence_gaps", "receive_duplicates"]

def packetFields : List String :=
  ["processed_sequence_gaps", "processed_duplicates", "short_packets", "invalid_magic",
    "unsupported_version", "spsc_overflow"]

def packetReasons (metadata : Metadata) : Option (List String) := do
  let sender := metadata.senderStats
  let receiver := metadata.receiverStats
  let achieved ← (sender.lookup "achieved_successful_send_pps".toList).bind (Json.toDouble float)
  let failed ← count float sender "failed_sends"
  let attempted ← count float sender "attempted_sends"
  let successful ← count float sender "successful_sends"
  let bytes ← countOr float 0 sender "successful_bytes"
  let unique ← count float receiver "unique_valid_packets"
  let uniqueProcessed ← countOr float 0 receiver "unique_processed_packets"
  pure (objection (isOffRate metadata.requestedRatePps achieved)
      "achieved/requested pps is outside 99-101%" ++
    objection (failed ≠ 0) "sender reported failed sends" ++
    objection (attempted ≠ successful + failed) "sender packet accounting does not reconcile" ++
    objection (bytes ≠ successful * metadata.payloadSize)
      "sender byte accounting does not reconcile" ++
    objection (unique ≠ successful) "sender and receiver unique packet counts do not reconcile" ++
    objection (uniqueProcessed ≠ successful)
      "sender and receiver processed packet counts do not reconcile")

def reorderingReasons (receiver : JsonObject) : Option (List String) := do
  let reordered ← countOr float 0 receiver "receive_reordered"
  let unique ← count float receiver "unique_valid_packets"
  pure (objection (1 / 10000 ≤ (reordered : ℚ) / (max 1 unique : Int))
    "receiver reordering is not below 0.01%")

/-- `none` is an exception; each reason is given once, in the order of the checks. -/
def qualificationReasons (metadata : Metadata) : Option (List String) := do
  let receiver := metadata.receiverStats
  let packets ← packetReasons float metadata
  let sequences ← nonzeroReasons float receiver sequenceFields
  let reordering ← reorderingReasons float receiver
  let others ← nonzeroReasons float receiver packetFields
  let threads ← threadReasons float metadata.senderStats
  pure (packets ++ sequences ++ reordering ++ others ++
    metadata.counters.flatMap (changeReasons "counters") ++
    metadata.senderCounters.flatMap (changeReasons "sender_counters") ++
    stateReasons "receiver" metadata.states.before metadata.states.after ++
    stateReasons "sender" metadata.states.senderBefore metadata.states.senderAfter ++ threads ++
    pacingReason metadata.pacing ++ metadata.validity).eraseDups

end

/-! ## Qualified runs -/

structure Qualified (float : Text → Option Double) (metadata : Metadata) : Prop where
  failed : count float metadata.senderStats "failed_sends" = some 0
  packets : ∃ successful, count float metadata.senderStats "successful_sends" = some successful ∧
    count float metadata.senderStats "attempted_sends" = some successful ∧
    count float metadata.receiverStats "unique_valid_packets" = some successful ∧
    countOr float 0 metadata.receiverStats "unique_processed_packets" = some successful
  zero : ∀ field ∈ sequenceFields ++ packetFields,
    countOr float 0 metadata.receiverStats field = some 0
  reordered : ∃ reordered unique,
    countOr float 0 metadata.receiverStats "receive_reordered" = some reordered ∧
    count float metadata.receiverStats "unique_valid_packets" = some unique ∧
    10000 * reordered < max 1 unique
  valid : metadata.validity = []

variable {float : Text → Option Double}

theorem nonzeroReasons_eq_nil {receiver : JsonObject} {fields : List String}
    (passed : nonzeroReasons float receiver fields = some []) :
    ∀ field ∈ fields, countOr float 0 receiver field = some 0 := by
  induction fields with
  | nil => simp
  | cons field fields induction =>
      rw [nonzeroReasons, List.mapM_cons] at passed
      cases read : countOr float 0 receiver field with
      | none =>
          rw [read] at passed
          cases passed
      | some value =>
          rw [read] at passed
          cases others : fields.mapM fun field => do
              let value ← countOr float 0 receiver field
              pure (objection (value ≠ 0) s!"receiver reported nonzero {field}") with
          | none =>
              rw [others] at passed
              cases passed
          | some later =>
              rw [others] at passed
              have empty : objection (value ≠ 0) s!"receiver reported nonzero {field}" ++
                  later.flatten = [] := Option.some.inj passed
              rw [List.append_eq_nil_iff, objection_eq_nil, not_not] at empty
              have rest := induction (by rw [nonzeroReasons, others, Option.map_some, empty.2])
              intro other member
              cases List.mem_cons.mp member with
              | inl same => rw [same, read, empty.1]
              | inr inside => exact rest other inside

private theorem eraseDups_eq_nil {reasons : List String} (none : reasons.eraseDups = []) :
    reasons = [] := by
  cases reasons with
  | nil => rfl
  | cons reason reasons =>
      rw [List.eraseDups_cons] at none
      cases none

private theorem packetReasons_eq_nil {metadata : Metadata}
    (passed : packetReasons float metadata = some []) :
    count float metadata.senderStats "failed_sends" = some 0 ∧
    ∃ successful, count float metadata.senderStats "successful_sends" = some successful ∧
      count float metadata.senderStats "attempted_sends" = some successful ∧
      count float metadata.receiverStats "unique_valid_packets" = some successful ∧
      countOr float 0 metadata.receiverStats "unique_processed_packets" = some successful := by
  simp only [packetReasons, Option.bind_eq_bind, Option.bind_eq_some_iff, Option.pure_def,
    Option.some.injEq, List.append_eq_nil_iff, objection_eq_nil, not_not] at passed
  rcases passed with ⟨_, _, failed, readFailed, attempted, readAttempted, successful,
    readSuccessful, _, _, unique, readUnique, processed, readProcessed,
    ⟨⟨⟨⟨⟨_, failedZero⟩, reconciles⟩, _⟩, uniqueSame⟩, processedSame⟩⟩
  rw [failedZero, Int.add_zero] at reconciles
  rw [failedZero] at readFailed
  rw [reconciles] at readAttempted
  rw [uniqueSame] at readUnique
  rw [processedSame] at readProcessed
  exact ⟨readFailed, successful, readSuccessful, readAttempted, readUnique, readProcessed⟩

private theorem reorderingReasons_eq_nil {receiver : JsonObject}
    (passed : reorderingReasons float receiver = some []) :
    ∃ reordered unique, countOr float 0 receiver "receive_reordered" = some reordered ∧
      count float receiver "unique_valid_packets" = some unique ∧
      10000 * reordered < max 1 unique := by
  simp only [reorderingReasons, Option.bind_eq_bind, Option.bind_eq_some_iff, Option.pure_def,
    Option.some.injEq, objection_eq_nil] at passed
  rcases passed with ⟨reordered, readReordered, unique, readUnique, below⟩
  refine ⟨reordered, unique, readReordered, readUnique, ?_⟩
  have positive : (0 : ℚ) < (max 1 unique : Int) := by
    have one : (1 : Int) ≤ max 1 unique := le_max_left _ _
    exact_mod_cast one
  rw [not_le, div_lt_iff₀ positive] at below
  have scaled : (10000 : ℚ) * reordered < (max 1 unique : Int) := by linarith
  exact_mod_cast scaled

theorem qualified_of_no_reasons {metadata : Metadata}
    (passed : qualificationReasons float metadata = some []) : Qualified float metadata := by
  simp only [qualificationReasons, Option.bind_eq_bind, Option.bind_eq_some_iff, Option.pure_def,
    Option.some.injEq] at passed
  rcases passed with ⟨packets, readPackets, sequences, readSequences, reordering, readReordering,
    others, readOthers, threads, _, none⟩
  have empty := eraseDups_eq_nil none
  simp only [List.append_eq_nil_iff] at empty
  rcases empty with ⟨⟨⟨⟨⟨⟨⟨⟨⟨⟨rfl, rfl⟩, rfl⟩, rfl⟩, _⟩, _⟩, _⟩, _⟩, _⟩, _⟩, valid⟩
  have counted := packetReasons_eq_nil readPackets
  exact {
    failed := counted.1
    packets := counted.2
    zero := by
      intro field member
      cases List.mem_append.mp member with
      | inl sequence => exact nonzeroReasons_eq_nil readSequences field sequence
      | inr packet => exact nonzeroReasons_eq_nil readOthers field packet
    reordered := reorderingReasons_eq_nil readReordering
    valid := valid }

end NetLatencyLab.Harness
