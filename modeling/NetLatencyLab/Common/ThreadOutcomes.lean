import NetLatencyLab.Common.StatisticsFile

/-! # Affinity and scheduling

`thread_utils.hpp`: what is asked of the kernel, what it answers, and the
outcomes that the statistics files report. -/

namespace NetLatencyLab.Thread

open JsonString (isControl)
open PythonText (Text decimal)
open Statistics (Field Program)

structure AffinityOutcome where
  requested : Int := -1
  observed : Int := -1
  observedCpuSet : Text := []
  success : Bool := false
  error : Text := []

structure SchedulerOutcome where
  requestedPolicy : Text := "other".toList
  requestedPriority : Int := 0
  observedPolicy : Text := "unknown".toList
  observedPriority : Int := -1
  success : Bool := false
  error : Text := []

/-- The results of `pthread_setaffinity_np`, `pthread_getaffinity_np` and
`sched_getcpu`. -/
structure AffinityCalls where
  setResult : Int
  getResult : Int
  isSet : Nat → Bool
  cpu : Int

/-- The results of `pthread_setschedparam` and `pthread_getschedparam`. -/
structure SchedulerCalls where
  setResult : Int
  getResult : Int
  policy : Int
  priority : Int

def cpuSetSize : Nat := 1024

def appendCpu (isSet : Nat → Bool) (value : Text) (cpu : Nat) : Text :=
  if isSet cpu then (if value = [] then value else value ++ [',']) ++ decimal cpu else value

def currentAffinitySet (calls : AffinityCalls) : Text :=
  if calls.getResult ≠ 0 then "unknown".toList
  else (List.range cpuSetSize).foldl (appendCpu calls.isSet) []

section

variable (strerror : Int → Text)

def pinToCore (coreId : Int) (calls : AffinityCalls) : AffinityOutcome :=
  if coreId < 0 ∨ (cpuSetSize : Int) ≤ coreId then
    { requested := coreId
      observedCpuSet := "unknown".toList
      error := "CPU id is outside CPU_SETSIZE".toList }
  else
    { requested := coreId
      observed := calls.cpu
      observedCpuSet := currentAffinitySet calls
      success := calls.setResult = 0
      error := if calls.setResult ≠ 0 then strerror calls.setResult else [] }

/-- `apply_affinity` of the receivers, which the sender's workers repeat. -/
def applyAffinity (cpu : Int) (calls : AffinityCalls) : AffinityOutcome :=
  if 0 ≤ cpu then pinToCore strerror cpu calls
  else
    { observed := calls.cpu
      observedCpuSet := currentAffinitySet calls
      success := true }

def policyName (policy : Int) : Text :=
  if policy = 0 then "other".toList
  else if policy = 1 then "fifo".toList
  else if policy = 2 then "rr".toList
  else "unknown".toList

def setScheduler (requested : Text) (priority : Int) (calls : SchedulerCalls) : SchedulerOutcome :=
  let failure := if calls.setResult ≠ 0 then strerror calls.setResult else []
  { requestedPolicy := requested
    requestedPriority := priority
    observedPolicy := if calls.getResult = 0 then policyName calls.policy else "unknown".toList
    observedPriority := if calls.getResult = 0 then calls.priority else -1
    success := calls.setResult = 0
    error := if calls.getResult ≠ 0 ∧ failure = [] then strerror calls.getResult else failure }

end

/-! ## Outcomes in the files -/

def AffinityOutcome.fields (program : Program) (outcome : AffinityOutcome) : List Field :=
  [.integer "requested_cpu" outcome.requested, .integer "observed_cpu" outcome.observed,
    .string program "observed_cpu_set" outcome.observedCpuSet, .boolean "success" outcome.success,
    .string program "error" outcome.error]

def SchedulerOutcome.fields (program : Program) (outcome : SchedulerOutcome) : List Field :=
  [.string program "requested_policy" outcome.requestedPolicy,
    .integer "requested_priority" outcome.requestedPriority,
    .string program "observed_policy" outcome.observedPolicy,
    .integer "observed_priority" outcome.observedPriority, .boolean "success" outcome.success,
    .string program "error" outcome.error]

/-! ## What can be printed -/

def Printable (text : Text) : Prop := ∀ char ∈ text, isControl char = false

theorem Printable.prints {text : Text} (printable : Printable text) (program : Program) :
    program.Prints text := by
  intro char member control
  rw [printable char member] at control
  cases control

theorem printable_of_all {text : Text} (all : (text.all fun char => ! isControl char) = true) :
    Printable text := by
  intro char member
  simpa using List.all_eq_true.mp all char member

theorem prints_ite {program : Program} {condition : Prop} [Decidable condition] {first second : Text}
    (left : program.Prints first) (right : program.Prints second) :
    program.Prints (if condition then first else second) := by
  split
  · exact left
  · exact right

theorem printable_decimal (number : Nat) : Printable (decimal number) := by
  intro char member
  have digit := PythonText.isDigit_of_mem_decimal member
  have bounds : 48 ≤ char.toNat ∧ char.toNat ≤ 57 := by
    simpa [Char.isDigit, UInt32.le_iff_toNat_le] using digit
  exact decide_eq_false (by omega)

theorem Printable.append {first second : Text} (left : Printable first) (right : Printable second) :
    Printable (first ++ second) := by
  intro char member
  cases List.mem_append.mp member with
  | inl inside => exact left char inside
  | inr inside => exact right char inside

private theorem printable_appendCpu {isSet : Nat → Bool} {value : Text}
    (printable : Printable value) (cpu : Nat) : Printable (appendCpu isSet value cpu) := by
  rw [appendCpu]
  split
  · apply Printable.append _ (printable_decimal cpu)
    split
    · exact printable
    · exact printable.append (printable_of_all rfl)
  · exact printable

private theorem printable_currentAffinitySet (calls : AffinityCalls) :
    Printable (currentAffinitySet calls) := by
  rw [currentAffinitySet]
  split
  · exact printable_of_all rfl
  · have start : Printable [] := nofun
    generalize List.range cpuSetSize = cpus
    revert start
    generalize ([] : Text) = value
    intro start
    induction cpus generalizing value with
    | nil => exact start
    | cons cpu cpus induction => exact induction _ (printable_appendCpu start cpu)

/-- Every string of an affinity outcome can be printed, as far as the errors of
the library can. -/
theorem applyAffinity_prints {strerror : Int → Text} {program : Program}
    (errors : ∀ code, program.Prints (strerror code)) (cpu : Int) (calls : AffinityCalls) :
    let outcome := applyAffinity strerror cpu calls
    program.Prints outcome.observedCpuSet ∧ program.Prints outcome.error := by
  have set := (printable_currentAffinitySet calls).prints program
  have none : program.Prints [] := nofun
  simp only [applyAffinity, pinToCore]
  split
  · split
    · exact ⟨(printable_of_all rfl).prints program, (printable_of_all rfl).prints program⟩
    · exact ⟨set, prints_ite (errors _) none⟩
  · exact ⟨set, none⟩

private theorem printable_policyName (policy : Int) : Printable (policyName policy) := by
  rw [policyName]
  split
  · exact printable_of_all rfl
  · split
    · exact printable_of_all rfl
    · split
      · exact printable_of_all rfl
      · exact printable_of_all rfl

theorem setScheduler_prints {strerror : Int → Text} {program : Program}
    (errors : ∀ code, program.Prints (strerror code)) {requested : Text}
    (policy : program.Prints requested) (priority : Int) (calls : SchedulerCalls) :
    let outcome := setScheduler strerror requested priority calls
    program.Prints outcome.requestedPolicy ∧ program.Prints outcome.observedPolicy ∧
      program.Prints outcome.error := by
  have none : program.Prints [] := nofun
  refine ⟨policy, ?_, ?_⟩
  · exact prints_ite ((printable_policyName _).prints program)
      ((printable_of_all rfl).prints program)
  · exact prints_ite (errors _) (prints_ite (errors _) none)

section

variable {toFloat : Text → Text} {program : Program}

theorem AffinityOutcome.readable {outcome : AffinityOutcome}
    (set : program.Prints outcome.observedCpuSet) (error : program.Prints outcome.error) :
    ∀ field ∈ outcome.fields program, field.Readable toFloat := by
  intro field member
  simp only [fields, List.mem_cons, List.not_mem_nil, or_false] at member
  rcases member with rfl | rfl | rfl | rfl | rfl
  · exact Field.readable_integer (by decide +kernel) _
  · exact Field.readable_integer (by decide +kernel) _
  · exact Field.readable_string (by decide +kernel) set
  · exact Field.readable_boolean (by decide +kernel) _
  · exact Field.readable_string (by decide +kernel) error

theorem SchedulerOutcome.readable {outcome : SchedulerOutcome}
    (requested : program.Prints outcome.requestedPolicy)
    (observed : program.Prints outcome.observedPolicy) (error : program.Prints outcome.error) :
    ∀ field ∈ outcome.fields program, field.Readable toFloat := by
  intro field member
  simp only [fields, List.mem_cons, List.not_mem_nil, or_false] at member
  rcases member with rfl | rfl | rfl | rfl | rfl | rfl
  · exact Field.readable_string (by decide +kernel) requested
  · exact Field.readable_integer (by decide +kernel) _
  · exact Field.readable_string (by decide +kernel) observed
  · exact Field.readable_integer (by decide +kernel) _
  · exact Field.readable_boolean (by decide +kernel) _
  · exact Field.readable_string (by decide +kernel) error

end

end NetLatencyLab.Thread
