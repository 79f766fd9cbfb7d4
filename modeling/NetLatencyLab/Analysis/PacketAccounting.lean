import Mathlib.Algebra.Order.Ring.Int

/-! # Packet losses in the run metadata

`execute_run` and `summarize_run` compute the two losses of a run from the
statistics files of the sender and the receiver. -/

namespace NetLatencyLab

/-- The integer fields of a statistics file. -/
abbrev Fields := List (String × Int)

/-- `KeyError` with the missing key. -/
inductive LookupError where
  | keyError (key : String)
deriving DecidableEq

/-- `int(fields[key])`. -/
def Fields.item (fields : Fields) (key : String) : Except LookupError Int :=
  match fields.lookup key with
  | some value => .ok value
  | none => .error (.keyError key)

/-- `int(fields.get(key, fields[fallback]))`; the fallback is evaluated first. -/
def Fields.itemOr (fields : Fields) (key fallback : String) : Except LookupError Int := do
  let default ← fields.item fallback
  pure ((fields.lookup key).getD default)

structure Losses where
  ingressLoss : Int
  applicationLoss : Int
deriving DecidableEq

/-- The losses in the metadata that `execute_run` writes. -/
def executeRunLosses (sender receiver : Fields) : Except LookupError Losses := do
  let successful ← sender.item "successful_sends"
  let uniqueReceived ← receiver.item "unique_valid_packets"
  let uniqueProcessed ← receiver.item "unique_processed_packets"
  pure
    { ingressLoss := successful - uniqueReceived
      applicationLoss := successful - uniqueProcessed }

/-- The losses in the row that `summarize_run` builds. -/
def summarizeRunLosses (sender receiver : Fields) : Except LookupError Losses := do
  let successful ← sender.item "successful_sends"
  let received ← receiver.itemOr "unique_valid_packets" "valid_packets"
  let processed ← receiver.itemOr "unique_processed_packets" "processed_packets"
  pure
    { ingressLoss := successful - received
      applicationLoss := successful - processed }

end NetLatencyLab
