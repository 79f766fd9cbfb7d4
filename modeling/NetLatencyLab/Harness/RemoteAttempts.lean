import NetLatencyLab.Harness.Internal.RemoteInvariant

/-! # Attempts that share their files

A retried run starts its processes over the files of the attempt before. These
files do no harm exactly if they do not read as numbers, and what an attempt
leaves in a file is nothing or one number. -/

namespace NetLatencyLab.RemoteNode

open PythonText (Text strip decimal numbers toInt?)

variable {profiled : Bool} {pids : Pids}

/-! ## Files that mislead -/

def Pids.above (bound : Nat) : Pids where
  monitor := bound + 1
  child := bound + 2
  workload := bound + 3
  positive := by omega
  distinct := by simp

theorem occupied_of_numbers {file : Option Text} {value : Int} {values : List Int}
    (read : numbers (content file) = some (value :: values)) : occupied file := by
  apply decide_eq_true
  intro empty
  rw [empty] at read
  cases read

section

variable {files : Files} {monitor : Monitor} {child : Child} {shim : Shim}

theorem step_awaiting (ready : occupied (readyFile profiled files)) :
    (machine profiled pids).step ⟨files, monitor, child, shim, .awaiting⟩ (.controller true) =
      (⟨files, monitor, child, shim, .readingPid⟩, []) := by
  show (State.mk files monitor child shim (if _ then _ else _), _) = _
  rw [if_pos ready]
  rfl

private theorem step_polling {handle : ProcessHandle} (ready : occupied files.status) :
    (machine profiled pids).step ⟨files, monitor, child, shim, .polling handle⟩
        (.controller true) =
      (⟨files, monitor, child, shim, .readingStatus handle⟩, []) := by
  show (State.mk files monitor child shim (if _ then _ else _), _) = _
  rw [if_pos ready]
  rfl

theorem launched_of_parsed {printed : Text} {handle : ProcessHandle}
    (parsed : parseHandle profiled printed = some handle) :
    launched profiled printed = (.polling handle, [.started handle]) := by
  rw [launched, parsed]

/-- The launching shell finds a PID and prints it. -/
theorem run_plain {value : Int} (read : numbers (content files.pid) = some [value]) :
    (machine false pids).run ⟨files, monitor, child, shim, .awaiting⟩
        [.controller true, .controller true] =
      (⟨files, monitor, child, shim, .polling ⟨value, pids.monitor, none⟩⟩,
        [.started ⟨value, pids.monitor, none⟩]) := by
  have parsed : parseHandle false (launchLine false pids.monitor (content files.pid) []) =
      some ⟨value, pids.monitor, none⟩ := parse_plain.mpr ⟨value, read, rfl⟩
  have last : (machine false pids).step ⟨files, monitor, child, shim, .readingPid⟩
      (.controller true) =
        (⟨files, monitor, child, shim, .polling ⟨value, pids.monitor, none⟩⟩,
          [.started ⟨value, pids.monitor, none⟩]) := by
    show (State.mk files monitor child shim (launched false _).1, (launched false _).2) = _
    rw [launched_of_parsed parsed]
  have first : occupied (readyFile false files) := occupied_of_numbers read
  rw [Machine.run_cons, step_awaiting first, Machine.run_cons, last]
  rfl

theorem run_profiled {first second : List Int} {childPid workloadPid : Int}
    (ready : occupied files.workloadPid) (readPid : numbers (content files.pid) = some first)
    (readWorkload : numbers (content files.workloadPid) = some second)
    (both : first ++ second = [childPid, workloadPid]) :
    (machine true pids).run ⟨files, monitor, child, shim, .awaiting⟩
        [.controller true, .controller true, .controller true] =
      (⟨files, monitor, child, shim, .polling ⟨childPid, pids.monitor, some workloadPid⟩⟩,
        [.started ⟨childPid, pids.monitor, some workloadPid⟩]) := by
  have parsed : parseHandle true (launchLine true pids.monitor (content files.pid)
      (content files.workloadPid)) = some ⟨childPid, pids.monitor, some workloadPid⟩ :=
    parse_profiled.mpr ⟨first, second, childPid, workloadPid, readPid, readWorkload, both, rfl⟩
  have middle : (machine true pids).step ⟨files, monitor, child, shim, .readingPid⟩
      (.controller true) =
        (⟨files, monitor, child, shim, .readingWorkloadPid (content files.pid)⟩, []) := rfl
  have last : (machine true pids).step
      ⟨files, monitor, child, shim, .readingWorkloadPid (content files.pid)⟩ (.controller true) =
        (⟨files, monitor, child, shim, .polling ⟨childPid, pids.monitor, some workloadPid⟩⟩,
          [.started ⟨childPid, pids.monitor, some workloadPid⟩]) := by
    show (State.mk files monitor child shim (launched true _).1, (launched true _).2) = _
    rw [launched_of_parsed parsed]
  have start : occupied (readyFile true files) := ready
  rw [Machine.run_cons, step_awaiting start, Machine.run_cons, middle, Machine.run_cons, last]
  rfl

/-- The poller finds a status and returns it. -/
theorem run_polling {handle : ProcessHandle} {status : Int}
    (read : toInt? (strip (content files.status)) = some status) :
    (machine profiled pids).run ⟨files, monitor, child, shim, .polling handle⟩
        [.controller true, .controller true] =
      (⟨files, monitor, child, shim, .polling handle⟩, [.waited status]) := by
  have ready : occupied files.status := by
    apply decide_eq_true
    intro empty
    rw [empty] at read
    cases read
  have last : (machine profiled pids).step ⟨files, monitor, child, shim, .readingStatus handle⟩
      (.controller true) =
        (⟨files, monitor, child, shim, .polling handle⟩, [.waited status]) := by
    show (State.mk files monitor child shim (conclude handle _).1, (conclude handle _).2) = _
    rw [conclude_of_status read]
  rw [Machine.run_cons, step_polling ready, Machine.run_cons, last]
  rfl

end

theorem not_right {files : Files} {schedule : List Action} {final : State} {history : List Event}
    {event : Event} (run : attempt profiled pids files schedule = (final, history))
    (member : event ∈ history) (wrong : ¬ event.Right profiled pids final) :
    ∃ schedule, ¬ Right profiled pids (attempt profiled pids files schedule) := by
  refine ⟨schedule, fun right => wrong ?_⟩
  rw [run] at right
  exact right event member

section

variable (files : Files)

private theorem misleading_status {status : Int}
    (read : toInt? (strip (content files.status)) = some status) :
    ∃ schedule, ¬ Right profiled pids (attempt profiled pids files schedule) := by
  have running : ∀ {final : State}, final.child = .running →
      ¬ (Event.waited status).Right profiled pids final := by
    rintro final running ⟨code, -, exited⟩
    rw [running] at exited
    cases exited
  cases profiled with
  | false =>
      have printed : attempt false pids files [.controller true, .monitor, .monitor, .monitor] =
        (⟨{ files with pid := some (decimal pids.child) }, .waiting, .running, .unborn, .awaiting⟩,
          []) := rfl
      have started := Machine.run_trans _ printed (run_plain (PythonText.numbers_decimal pids.child))
      exact not_right (Machine.run_trans _ started (run_polling read))
        (List.mem_append_right _ (List.mem_singleton.mpr rfl)) (running rfl)
  | true =>
      have printed : attempt true pids files
          [.controller true, .monitor, .monitor, .monitor, .shim, .shim, .shim] =
        (⟨{ files with
              pid := some (decimal pids.child)
              workloadPid := some (decimal pids.workload)
              temporary := none }, .waiting, .running, .executing, .awaiting⟩, []) := rfl
      have ready : occupied (some (decimal pids.workload)) :=
        decide_eq_true (PythonText.decimal_ne_nil _)
      have started := Machine.run_trans _ printed
        (run_profiled ready (PythonText.numbers_decimal pids.child)
          (PythonText.numbers_decimal pids.workload) rfl)
      exact not_right (Machine.run_trans _ started (run_polling read))
        (List.mem_append_right _ (List.mem_singleton.mpr rfl)) (running rfl)

private theorem misleading_pid {value : Int} (read : numbers (content files.pid) = some [value])
    (other : value ≠ pids.child) :
    ∃ schedule, ¬ Right profiled pids (attempt profiled pids files schedule) := by
  cases profiled with
  | false =>
      have launched : attempt false pids files [.controller true] =
        (⟨files, .forking, .unborn, .unborn, .awaiting⟩, []) := rfl
      apply not_right (Machine.run_trans _ launched (run_plain read))
        (List.mem_singleton.mpr rfl)
      rintro ⟨same, -⟩
      exact other (congrArg ProcessHandle.pid same)
  | true =>
      have moved : attempt true pids files [.controller true, .monitor, .shim, .shim, .shim] =
        (⟨{ files with workloadPid := some (decimal pids.workload), temporary := none },
          .openingPid, .running, .executing, .awaiting⟩, []) := rfl
      have ready : occupied (some (decimal pids.workload)) :=
        decide_eq_true (PythonText.decimal_ne_nil _)
      apply not_right (Machine.run_trans _ moved
        (run_profiled ready read (PythonText.numbers_decimal pids.workload) rfl))
        (List.mem_singleton.mpr rfl)
      rintro ⟨same, -⟩
      exact other (congrArg ProcessHandle.pid same)

private theorem misleading_workload {value : Int}
    (read : numbers (content files.workloadPid) = some [value]) (other : value ≠ pids.workload) :
    ∃ schedule, ¬ Right true pids (attempt true pids files schedule) := by
  have printed : attempt true pids files [.controller true, .monitor, .monitor, .monitor] =
    (⟨{ files with pid := some (decimal pids.child) }, .waiting, .running, .unborn, .awaiting⟩,
      []) := rfl
  apply not_right (Machine.run_trans _ printed
    (run_profiled (occupied_of_numbers read) (PythonText.numbers_decimal pids.child) read rfl))
    (List.mem_singleton.mpr rfl)
  rintro ⟨same, -⟩
  exact other (Option.some.inj (congrArg ProcessHandle.workloadPid same))

private theorem misleading_pair {first second : Int}
    (read : numbers (content files.workloadPid) = some [first, second])
    (other : first ≠ pids.child) :
    ∃ schedule, ¬ Right true pids (attempt true pids files schedule) := by
  have emptied : attempt true pids files [.controller true, .monitor, .monitor] =
    (⟨{ files with pid := some [] }, .printingPid, .running, .unborn, .awaiting⟩, []) := rfl
  apply not_right (Machine.run_trans _ emptied
    (run_profiled (occupied_of_numbers read) PythonText.numbers_nil read rfl))
    (List.mem_singleton.mpr rfl)
  rintro ⟨same, -⟩
  exact other (congrArg ProcessHandle.pid same)

private theorem misleading_blank {first second : Int} (ready : occupied files.workloadPid)
    (blank : numbers (content files.workloadPid) = some [])
    (read : numbers (content files.pid) = some [first, second]) (other : first ≠ pids.child) :
    ∃ schedule, ¬ Right true pids (attempt true pids files schedule) := by
  have launched : attempt true pids files [.controller true] =
    (⟨files, .forking, .unborn, .unborn, .awaiting⟩, []) := rfl
  apply not_right (Machine.run_trans _ launched (run_profiled ready read blank rfl))
    (List.mem_singleton.mpr rfl)
  rintro ⟨same, -⟩
  exact other (congrArg ProcessHandle.pid same)

end

theorem ne_child_above (value : Int) : value ≠ (Pids.above value.toNat).child := by
  show value ≠ ((value.toNat + 2 : Nat) : Int)
  omega

private theorem ne_workload_above (value : Int) : value ≠ (Pids.above value.toNat).workload := by
  show value ≠ ((value.toNat + 3 : Nat) : Int)
  omega

/-- Handles and statuses of a call are its own, whatever its processes are
numbered and however they interleave, exactly if no file misleads. -/
theorem attempts_are_apart_iff (profiled : Bool) (files : Files) :
    (∀ pids schedule, Right profiled pids (attempt profiled pids files schedule)) ↔
      files.Harmless profiled := by
  constructor
  · intro right
    have apart : ∀ pids : Pids,
        ¬ ∃ schedule, ¬ Right profiled pids (attempt profiled pids files schedule) :=
      fun pids ⟨schedule, wrong⟩ => wrong (right pids schedule)
    refine ⟨?_, ?_, ?_, ?_, ?_⟩
    · rw [Option.eq_none_iff_forall_ne_some]
      intro status read
      exact apart (Pids.above 0) (misleading_status files read)
    · intro value read
      exact apart _ (misleading_pid files read (ne_child_above value))
    · rintro rfl value read
      exact apart _ (misleading_workload files read (ne_workload_above value))
    · rintro rfl first second read
      exact apart _ (misleading_pair files read (ne_child_above first))
    · rintro rfl ready blank first second read
      exact apart _ (misleading_blank files ready blank read (ne_child_above first))
  · intro harmless pids schedule
    exact attempt_right harmless schedule

/-- The first attempt was cut off after its monitor had printed a PID. The next
one reads it, and signals what has that PID now. -/
def cutOff : List Action := [.controller true, .monitor, .monitor, .monitor]

/-- Attempts that ended before the connection was lost leave a status, too. -/
def ended : List Action := cutOff ++ [.exit 0, .monitor, .monitor, .monitor]

theorem earlier_attempt_misleads :
    ¬ Right false (.above 50) (attempt false (.above 50)
        (attempt false (.above 40) {} cutOff).1.files (List.replicate 3 (.controller true))) ∧
      ¬ Right false (.above 50) (attempt false (.above 50)
        (attempt false (.above 40) {} ended).1.files
        (cutOff ++ List.replicate 4 (.controller true))) := by
  constructor
  · intro right
    have started := right (.started ⟨42, 51, none⟩) (List.mem_singleton.mpr rfl)
    cases started.1
  · intro right
    rcases right (.waited 0) (List.mem_cons_of_mem _ (List.mem_singleton.mpr rfl)) with
      ⟨code, -, exited⟩
    cases exited

/-! ## What attempts leave -/

def Remnant (text : Text) : Prop := text = [] ∨ ∃ value, text = decimal value

structure Files.Remnants (files : Files) : Prop where
  pid : Remnant (content files.pid)
  status : Remnant (content files.status)
  workloadPid : Remnant (content files.workloadPid)

inductive LeftBehind (profiled : Bool) : Files → Prop
  | none : LeftBehind profiled {}
  | after {files : Files} (pids : Pids) (schedule : List Action) :
      LeftBehind profiled files → LeftBehind profiled (attempt profiled pids files schedule).1.files

section

variable {left : Files} {state : State} {text : Text}

theorem PidReading.remnant (reading : PidReading pids left state text)
    (remnants : left.Remnants) : Remnant text := by
  cases reading with
  | left => exact remnants.pid
  | emptied => exact Or.inl rfl
  | printed _ => exact Or.inr ⟨pids.child, rfl⟩

theorem StatusReading.remnant (reading : StatusReading left state text)
    (remnants : left.Remnants) : Remnant text := by
  cases reading with
  | left => exact remnants.status
  | emptied => exact Or.inl rfl
  | printed code _ => exact Or.inr ⟨code, rfl⟩

theorem WorkloadReading.remnant (reading : WorkloadReading pids left state text)
    (remnants : left.Remnants) : Remnant text := by
  cases reading with
  | left => exact remnants.workloadPid
  | printed _ => exact Or.inr ⟨pids.workload, rfl⟩

end

theorem LeftBehind.remnants {files : Files} (left : LeftBehind profiled files) :
    files.Remnants := by
  induction left with
  | none => exact ⟨Or.inl rfl, Or.inl rfl, Or.inl rfl⟩
  | @after files pids schedule left remnants =>
      have consistent : Consistent pids files (attempt profiled pids files schedule).1 :=
        attempt_consistent files schedule
      exact ⟨consistent.pid.remnant remnants, consistent.status.remnant remnants,
        consistent.workloadPid.remnant remnants⟩

theorem LeftBehind.harmless_iff {files : Files} (left : LeftBehind profiled files) :
    files.Harmless profiled ↔
      content files.pid = [] ∧ content files.status = [] ∧
        (profiled → content files.workloadPid = []) := by
  have remnants := left.remnants
  constructor
  · intro harmless
    refine ⟨?_, ?_, ?_⟩
    · rcases remnants.pid with empty | ⟨value, number⟩
      · exact empty
      · exact absurd (number ▸ PythonText.numbers_decimal value) (harmless.pid value)
    · rcases remnants.status with empty | ⟨value, number⟩
      · exact empty
      · have nothing := harmless.status
        rw [number, PythonText.strip_decimal, PythonText.toInt?_decimal] at nothing
        cases nothing
    · intro tracked
      rcases remnants.workloadPid with empty | ⟨value, number⟩
      · exact empty
      · exact absurd (number ▸ PythonText.numbers_decimal value)
          (harmless.workloadPid tracked value)
  · rintro ⟨pid, status, workloadPid⟩
    refine ⟨?_, ?_, ?_, ?_, ?_⟩
    · rw [status]
      rfl
    · rw [pid]
      nofun
    · intro tracked
      rw [workloadPid tracked]
      nofun
    · intro tracked
      rw [workloadPid tracked]
      nofun
    · intro tracked ready
      exact absurd (workloadPid tracked) (of_decide_eq_true ready)

end NetLatencyLab.RemoteNode
