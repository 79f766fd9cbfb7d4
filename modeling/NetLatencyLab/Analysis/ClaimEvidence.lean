import NetLatencyLab.Analysis.ProfileTools

/-! # The claim gate

`generate_claim_evidence.py`: what stands between a selected configuration and
a published sentence. -/

namespace NetLatencyLab.ClaimEvidence

open Fallible (bind_eq_ok pure_eq_ok)
open ProfileTools

def minImprovementRatio : ℚ := 105 / 100

def maxCandidateSyscallFraction : ℚ := 95 / 100

def maxApplicationLossPct : ℚ := 1 / 10

def roundHalfEven (value : ℚ) : Int :=
  let below := value.floor
  let rest := value - below
  if rest < 1 / 2 ∨ rest = 1 / 2 ∧ below % 2 = 0 then below else below + 1

/-- `{value:.4f}`, with the number of digits as a parameter. -/
def fixedText (digits : Nat) (value : ℚ) : String :=
  let sign := if value < 0 then "-" else ""
  let scaled := (roundHalfEven (|value| * 10 ^ digits)).toNat
  let fraction := toString (scaled % 10 ^ digits)
  let padding := String.ofList (List.replicate (digits - fraction.length) '0')
  sign ++ toString (scaled / 10 ^ digits) ++ "." ++ padding ++ fraction

example : fixedText 4 (21 / 20) = "1.0500" ∧ fixedText 4 (-1 / 32) = "-0.0312" := by decide +kernel

/-- The part of `_throughput_blockers` about one of the two rows. -/
def rowBlockers (name : String) (row : SustainableGroup) : List String :=
  (if row.repetitions ≠ requiredRepetitions then
    [s!"{name} does not have {requiredRepetitions} repetitions"] else []) ++
  (if row.applicationLossPctMax > maxApplicationLossPct then
    [s!"{name} exceeds the 0.1% application-loss rule"] else []) ++
  (if ¬ row.saturated then
    [s!"{name} never lost a higher offered rate, so the sweep is " ++
      "sender-limited rather than receiver-limited"] else [])

def throughputBlockers (baseline candidate : SustainableGroup) (improvement : ℚ) : List String :=
  rowBlockers "baseline" baseline ++ rowBlockers "candidate" candidate ++
  (if improvement < minImprovementRatio then
    [s!"improvement {fixedText 4 improvement}x is below the 1.05x minimum effect size"] else []) ++
  (if candidate.processedPpsMin ≤ baseline.processedPpsMax then
    ["candidate and baseline repetition ranges overlap"] else [])

/-- A row of `profile_summary.csv`; counters may be missing. -/
structure ProfileRow where
  receiver : String
  batchSize : Option ℚ
  receiveSyscallsPerPacket : Option ℚ
  cyclesPerPacket : Option ℚ

/-- A row of `profiles.groupby("receiver").median()`. -/
structure ProfileMedians where
  batchSize : Option ℚ
  receiveSyscallsPerPacket : Option ℚ
  cyclesPerPacket : Option ℚ
deriving DecidableEq

def medianOf (values : List (Option ℚ)) : Option ℚ :=
  let present := values.filterMap id
  if present = [] then none else some (median present)

def profileMedians (profiles : List ProfileRow) (receiver : String) : Option ProfileMedians :=
  let rows := profiles.filter fun row => row.receiver = receiver
  if rows = [] then none
  else some
    { batchSize := medianOf (rows.map ProfileRow.batchSize)
      receiveSyscallsPerPacket := medianOf (rows.map ProfileRow.receiveSyscallsPerPacket)
      cyclesPerPacket := medianOf (rows.map ProfileRow.cyclesPerPacket) }

/-- `int(value)` of a float. -/
def truncate (value : ℚ) : Int := value.num.tdiv value.den

/-- `set(str(candidate.get("run_ids", "")).split("|"))`. -/
def identifiers (candidate : SustainableGroup) : List String :=
  (candidate.runIds.toList.splitOn '|').map String.ofList

/-- The rows of the repetitions that make up the candidate. -/
def selectedRuns (candidate : SustainableGroup) (runs : PerRun) : List RunRow :=
  runs.rows.filter fun run => run.runId ∈ identifiers candidate

def columnBlockers (columns : List String) (selected : List RunRow) (column : String)
    (value : RunRow → Option Int) (description : String) : List String :=
  if column ∉ columns then [s!"{column} unavailable, cannot verify the overlap mechanism"]
  else if (selected.map fun run => (value run).getD (-1)).max?.getD 0 ≠ 0 then
    [s!"pipelined repetitions show {description}"]
  else []

def overlapBlockers (candidate : SustainableGroup) (runs : PerRun) : List String :=
  let selected := selectedRuns candidate runs
  if selected.length ≠ requiredRepetitions then
    [s!"only {selected.length} of {requiredRepetitions} pipelined " ++
      "repetitions could be matched back to per-run rows"]
  else
    columnBlockers runs.columns selected "ingress_loss" RunRow.ingressLoss "kernel ingress loss" ++
    columnBlockers runs.columns selected "spsc_overflow" RunRow.spscOverflow "queue overflow"

def batchBlockers (name : String) (profile : ProfileMedians) (selected : SustainableGroup) :
    List String :=
  match profile.batchSize with
  | none => []
  | some batchSize =>
      if truncate batchSize ≠ selected.batchSize then
        [s!"{name} was profiled at batch {truncate batchSize} but " ++
          s!"measured at batch {selected.batchSize}"]
      else []

def syscallBlockers (baseProfile candidateProfile : ProfileMedians) : List String :=
  match baseProfile.receiveSyscallsPerPacket, candidateProfile.receiveSyscallsPerPacket with
  | some base, some candidate =>
      if candidate > maxCandidateSyscallFraction * base then
        ["receive syscalls per packet not meaningfully reduced"]
      else []
  | _, _ => ["receive syscalls per packet unavailable"]

def cycleBlockers (baseProfile candidateProfile : ProfileMedians) : List String :=
  match baseProfile.cyclesPerPacket, candidateProfile.cyclesPerPacket with
  | some base, some candidate => if candidate ≥ base then ["cycles per packet not reduced"] else []
  | _, _ => ["cycles per packet unavailable"]

def mechanismBlockers (baseProfile candidateProfile : ProfileMedians)
    (baseline candidate : SustainableGroup) (receiver : String) (runs : PerRun) : List String :=
  batchBlockers "baseline" baseProfile baseline ++
  batchBlockers "candidate" candidateProfile candidate ++
  syscallBlockers baseProfile candidateProfile ++
  if receiver = "threaded" then overlapBlockers candidate runs
  else cycleBlockers baseProfile candidateProfile

/-- A row of the evidence table. -/
structure Evidence where
  candidate : String
  campaign : String
  baselineConfiguration : String
  candidateConfiguration : String
  baselineRunIds : String
  candidateRunIds : String
  baselineRepetitions : Nat
  candidateRepetitions : Nat
  baselineApplicationLossPctMax : ℚ
  candidateApplicationLossPctMax : ℚ
  baselineSaturated : Bool
  candidateSaturated : Bool
  baselineProcessedPpsMedian : ℚ
  candidateProcessedPpsMedian : ℚ
  baselineProcessedPpsMax : ℚ
  candidateProcessedPpsMin : ℚ
  improvementRatio : ℚ
  minimumImprovementRatio : ℚ
  baselineReceiveSyscallsPerPacket : Option ℚ
  candidateReceiveSyscallsPerPacket : Option ℚ
  baselineCyclesPerPacket : Option ℚ
  candidateCyclesPerPacket : Option ℚ
  profileMechanismPasses : Bool
  claimPasses : Bool
  claimBlockers : String

/-- `selected[receiver]`. -/
def representativeOf (selected : List SustainableGroup) (receiver : String) :
    Except AnalysisError SustainableGroup :=
  match selected.find? fun row => row.receiver = receiver with
  | some row => .ok row
  | none => .error (.keyError receiver)

/-- `mechanism_blockers`, with or without profiles of the two receivers. -/
def profileBlockers (runs : PerRun) (profiles : List ProfileRow)
    (baseline candidate : SustainableGroup) (receiver : String) : List String :=
  match profileMedians profiles "baseline", profileMedians profiles receiver with
  | some base, some profile => mechanismBlockers base profile baseline candidate receiver runs
  | _, _ => [s!"profile summary has no rows for baseline and {receiver}"]

def evidence (runs : PerRun) (profiles : List ProfileRow) (campaign : String)
    (selected : List SustainableGroup) (baseline : SustainableGroup) (receiver : String) :
    Except AnalysisError Evidence := do
  let candidate ← representativeOf selected receiver
  if baseline.processedPpsMedian = 0 then .error .zeroDivisionError
  else
    let improvement := candidate.processedPpsMedian / baseline.processedPpsMedian
    let blockers := throughputBlockers baseline candidate improvement
    let baseProfile := profileMedians profiles "baseline"
    let candidateProfile := profileMedians profiles receiver
    let mechanism := profileBlockers runs profiles baseline candidate receiver
    let profiled := baseProfile.isSome ∧ candidateProfile.isSome
    let read (profile : Option ProfileMedians) (counter : ProfileMedians → Option ℚ) :=
      if profiled then profile.bind counter else none
    pure
      { candidate := receiver
        campaign := campaign
        baselineConfiguration := s!"baseline/batch={baseline.batchSize}"
        candidateConfiguration := s!"{receiver}/batch={candidate.batchSize}"
        baselineRunIds := baseline.runIds
        candidateRunIds := candidate.runIds
        baselineRepetitions := baseline.repetitions
        candidateRepetitions := candidate.repetitions
        baselineApplicationLossPctMax := baseline.applicationLossPctMax
        candidateApplicationLossPctMax := candidate.applicationLossPctMax
        baselineSaturated := baseline.saturated
        candidateSaturated := candidate.saturated
        baselineProcessedPpsMedian := baseline.processedPpsMedian
        candidateProcessedPpsMedian := candidate.processedPpsMedian
        baselineProcessedPpsMax := baseline.processedPpsMax
        candidateProcessedPpsMin := candidate.processedPpsMin
        improvementRatio := improvement
        minimumImprovementRatio := minImprovementRatio
        baselineReceiveSyscallsPerPacket := read baseProfile ProfileMedians.receiveSyscallsPerPacket
        candidateReceiveSyscallsPerPacket :=
          read candidateProfile ProfileMedians.receiveSyscallsPerPacket
        baselineCyclesPerPacket := read baseProfile ProfileMedians.cyclesPerPacket
        candidateCyclesPerPacket := read candidateProfile ProfileMedians.cyclesPerPacket
        profileMechanismPasses := mechanism = []
        claimPasses := blockers = [] ∧ mechanism = []
        claimBlockers := "; ".intercalate (blockers ++ mechanism) }

def generate (runs : PerRun) (profiles : List ProfileRow) (campaign : String)
    (workNs : Option Int) : Except AnalysisError (List Evidence) := do
  let selected ← selectRepresentatives runs campaign workNs
  let baseline ← representativeOf selected "baseline"
  ["batched", "threaded"].mapM (evidence runs profiles campaign selected baseline)

theorem exists_evidence (runs : PerRun) (profiles : List ProfileRow) (campaign : String)
    {selected : List SustainableGroup} {baseline candidate : SustainableGroup} {receiver : String}
    (found : representativeOf selected receiver = .ok candidate)
    (divisible : baseline.processedPpsMedian ≠ 0) :
    ∃ row, evidence runs profiles campaign selected baseline receiver = .ok row := by
  simp only [evidence, found, bind, Except.bind]
  rw [if_neg divisible]
  exact ⟨_, rfl⟩

theorem verdicts_of_evidence {runs : PerRun} {profiles : List ProfileRow} {campaign : String}
    {selected : List SustainableGroup} {baseline : SustainableGroup} {receiver : String}
    {row : Evidence}
    (computed : evidence runs profiles campaign selected baseline receiver = .ok row) :
    row.candidate = receiver ∧ baseline.processedPpsMedian ≠ 0 ∧
      ∃ candidate, representativeOf selected receiver = .ok candidate ∧
        (row.profileMechanismPasses ↔
          profileBlockers runs profiles baseline candidate receiver = []) ∧
        (row.claimPasses ↔
          throughputBlockers baseline candidate
            (candidate.processedPpsMedian / baseline.processedPpsMedian) = [] ∧
          profileBlockers runs profiles baseline candidate receiver = []) := by
  rw [evidence] at computed
  rcases bind_eq_ok.mp computed with ⟨candidate, found, rest⟩
  split at rest
  · cases rest
  next divisible =>
    cases rest
    exact ⟨rfl, divisible, candidate, found, decide_eq_true_iff, decide_eq_true_iff⟩

theorem generate_eq_ok_iff {runs : PerRun} {profiles : List ProfileRow} {campaign : String}
    {workNs : Option Int} {selected : List SustainableGroup} {rows : List Evidence}
    (succeeds : selectRepresentatives runs campaign workNs = .ok selected) :
    generate runs profiles campaign workNs = .ok rows ↔
      ∃ baseline batched threaded,
        representativeOf selected "baseline" = .ok baseline ∧
        evidence runs profiles campaign selected baseline "batched" = .ok batched ∧
        evidence runs profiles campaign selected baseline "threaded" = .ok threaded ∧
        rows = [batched, threaded] := by
  rw [generate, succeeds]
  simp only [bind_eq_ok, List.mapM_cons, List.mapM_nil, pure_eq_ok]
  constructor
  · rintro ⟨_, same, baseline, found, batched, first, _, ⟨threaded, second, _, rfl, rfl⟩, rfl⟩
    cases same
    exact ⟨baseline, batched, threaded, found, first, second, rfl⟩
  · rintro ⟨baseline, batched, threaded, found, first, second, rfl⟩
    exact ⟨selected, rfl, baseline, found, batched, first, _, ⟨threaded, second, _, rfl, rfl⟩, rfl⟩

end NetLatencyLab.ClaimEvidence
