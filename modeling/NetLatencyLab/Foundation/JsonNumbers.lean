import NetLatencyLab.Foundation.CommandLine
import NetLatencyLab.Foundation.JsonFiles

/-! # Values of JSON as conditions and numbers

`bool`, `int` and `float` of what `json.loads` returns, and of the items of an
object. -/

namespace NetLatencyLab.JsonFiles

open CommandLine (Double)
open PythonText (Text)

/-- `bool(value)`. -/
def Json.truthy : Json → Bool
  | .null => false
  | .bool value => value
  | .integer value => value ≠ 0
  | .float text => text ∉ ["0.0".toList, "-0.0".toList]
  | .string text => text ≠ []
  | .array values => ! values.isEmpty
  | .object fields => ! fields.isEmpty

section

variable (float : Text → Option Double)

/-- `int(value)`: floats are cut off, and those that are not finite raise. -/
def Json.toInt : Json → Option Int
  | .bool value => some value.toInt
  | .integer value => some value
  | .float text =>
      match float text with
      | some (.finite value) => some (value.num.tdiv value.den)
      | _ => none
  | .string text => PythonText.toInt? text
  | _ => none

/-- `float(value)`; integers are exact. -/
def Json.toDouble : Json → Option Double
  | .bool value => some (.finite value.toInt)
  | .integer value => some (.finite value)
  | .float text => float text
  | .string text => float text
  | _ => none

/-- `int(fields[name])`. -/
def count (fields : JsonObject) (name : String) : Option Int :=
  (fields.lookup name.toList).bind (Json.toInt float)

/-- `int(fields.get(name, default))`. -/
def countOr (default : Int) (fields : JsonObject) (name : String) : Option Int :=
  match fields.lookup name.toList with
  | some value => value.toInt float
  | none => some default

variable {float} {fields : JsonObject} {name : String} {number : Int}

theorem count_of_lookup (found : fields.lookup name.toList = some (.integer number)) :
    count float fields name = some number := by
  rw [count, found]
  rfl

theorem countOr_of_lookup (found : fields.lookup name.toList = some (.integer number))
    (default : Int) : countOr float default fields name = some number := by
  rw [countOr, found]
  rfl

end

/-- `fields.get(name, False)`, as a condition. -/
def flag (fields : JsonObject) (name : String) : Bool :=
  ((fields.lookup name.toList).map Json.truthy).getD false

theorem flag_of_lookup {fields : JsonObject} {name : String} {value : Bool}
    (found : fields.lookup name.toList = some (.bool value)) : flag fields name = value := by
  rw [flag, found]
  rfl

end NetLatencyLab.JsonFiles
