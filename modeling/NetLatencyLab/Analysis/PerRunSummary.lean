import Mathlib.Algebra.Order.Ring.Rat

/-! # The per-run table

`per_run_summary.csv` as the analysis scripts read it back. -/

namespace NetLatencyLab

inductive Cell where
  | text (value : String)
  | number (value : ℚ)
deriving DecidableEq

namespace Cell

def before : Cell → Cell → Bool
  | .text left, .text right => decide (left ≤ right)
  | .number left, .number right => decide (left ≤ right)
  | .text _, .number _ => true
  | .number _, .text _ => false

def keyBefore : List Cell → List Cell → Bool
  | [], _ => true
  | _ :: _, [] => false
  | left :: lefts, right :: rights =>
      if left = right then keyBefore lefts rights else left.before right

end Cell

/-- `CONFIGURATION_KEYS`. -/
def configurationKeys : List String :=
  ["mode", "burst_size", "payload_size", "duration_seconds", "work_ns", "sample_every"]

/-- One run. Cells of `ingress_loss` and `spsc_overflow` may be missing. -/
structure RunRow where
  runId : String
  campaign : String
  topology : String
  receiver : String
  batchSize : Int
  requestedRatePps : Int
  offeredPps : ℚ
  processedPps : ℚ
  ingressLoss : Option Int
  spscOverflow : Option Int
  applicationLossPct : ℚ
  runValid : Bool
  sustainableRun : Bool
  /-- The value in a column of `CONFIGURATION_KEYS`. -/
  configuration : String → Cell

/-- A table may lack the columns that not every version wrote: `topology`,
`run_valid`, `ingress_loss`, `spsc_overflow` and the configuration keys. What a
row holds for an absent column is never read. -/
structure PerRun where
  columns : List String
  rows : List RunRow

namespace PerRun

/-- `[key for key in CONFIGURATION_KEYS if key in data.columns]`. -/
def configuration (perRun : PerRun) : List String :=
  configurationKeys.filter fun key => key ∈ perRun.columns

end PerRun

inductive AnalysisError where
  | valueError (text : String)
  | attributeError (name : String)
  | keyError (key : String)
  | indexError
  | zeroDivisionError
deriving DecidableEq

end NetLatencyLab
