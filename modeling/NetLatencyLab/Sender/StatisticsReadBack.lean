import NetLatencyLab.Sender.StatisticsFile

/-! # The sender's statistics, read back

Every field of the file reads as the value that was printed, so the sums that the
loopback tests take of it are those of the run. -/

namespace NetLatencyLab.Sender

open JsonDocument (Blank Element Plain)
open PythonText (Text decimal toInt?)
open Statistics (Field Program lookup_entry safeReadJson safeReadJson_lines)
open Thread (AffinityOutcome)

variable {floats : FloatText}

/-- Numbers that are not negative are printed with a point between digits. -/
def FloatText.Fixed (floats : FloatText) : Prop :=
  ∀ places value, 0 < places → 0 ≤ value →
    ∃ number digits, floats.print places value = decimal number ++ '.' :: digits ∧ digits ≠ [] ∧
      ∀ char ∈ digits, char.isDigit

/-! ## Single fields -/

theorem fixedField_readable (fixed : floats.Fixed) {name : String} (plain : Plain name.toList)
    {places : Nat} (some : 0 < places) {value : ℚ} (nonneg : 0 ≤ value) :
    (fixedField floats name places value).Readable floats.toFloat where
  name := plain
  printed := by
    rcases fixed places value some nonneg with ⟨number, digits, printed, occupied, all⟩
    rw [fixedField, printed]
    exact JsonDocument.denotes_fixed floats.toFloat number all occupied

theorem objectField_readable {toFloat : Text → Text} {name : String} (plain : Plain name.toList)
    {fields : List Field} (readable : ∀ field ∈ fields, field.Readable toFloat)
    (distinct : (fields.map Field.name).Nodup) : (objectField name fields).Readable toFloat where
  name := plain
  printed := Statistics.denotes_inlineObject readable distinct

private theorem latenessFields_readable (fixed : floats.Fixed) (stats : WorkerStats) :
    ∀ field ∈ latenessFields floats stats, field.Readable floats.toFloat := by
  have mean : (0 : ℚ) ≤
      if stats.latenessSamples ≠ 0 then (stats.latenessSumNs : ℚ) / stats.latenessSamples
      else 0 := by
    split
    · positivity
    · exact le_refl 0
  intro field member
  simp only [latenessFields, List.mem_cons, List.not_mem_nil, or_false] at member
  rcases member with rfl | rfl | rfl | rfl | rfl | rfl
  · exact Field.readable_natural (by decide +kernel) _
  · exact fixedField_readable fixed (by decide +kernel) (by decide) mean
  all_goals exact Field.readable_natural (by decide +kernel) _

private theorem traceFields_readable {toFloat : Text → Text} {options : Options.Config}
    (path : Program.sender.Prints options.pacingTracePath) (stats : WorkerStats) :
    ∀ field ∈ traceFields options stats, field.Readable toFloat := by
  intro field member
  simp only [traceFields, List.mem_cons, List.not_mem_nil, or_false] at member
  rcases member with rfl | rfl | rfl | rfl
  · exact Field.readable_boolean (by decide +kernel) _
  · exact Field.readable_string (by decide +kernel) path
  · have format : Thread.Printable "csv-v1".toList := Thread.printable_of_all rfl
    exact Field.readable_string (by decide +kernel) (format.prints _)
  · exact Field.readable_natural (by decide +kernel) _

private theorem decimal_plain (number : Nat) : Plain (decimal number) := by
  intro char member
  have digit := PythonText.isDigit_of_mem_decimal member
  refine ⟨?_, ?_, Thread.printable_decimal number char member⟩
  · intro same
    subst same
    cases digit
  · intro same
    subst same
    cases digit

private theorem histogramFields_readable (toFloat : Text → Text) (histogram : List Nat) :
    ∀ field ∈ histogramFields histogram, field.Readable toFloat := by
  intro field member
  rcases List.mem_map.mp member with ⟨entry, _, rfl⟩
  exact ⟨decimal_plain entry.2, JsonDocument.denotes_decimal toFloat entry.1⟩

private theorem decimal_injective : Function.Injective decimal := by
  intro first second same
  have read := congrArg toInt? same
  rw [PythonText.toInt?_decimal, PythonText.toInt?_decimal] at read
  exact Int.ofNat.inj (Option.some.inj read)

private theorem histogramFields_distinct (histogram : List Nat) :
    ((histogramFields histogram).map Field.name).Nodup := by
  have sizes : (histogram.zipIdx.map Prod.snd).Nodup := by
    rw [List.zipIdx_map_snd]
    exact List.nodup_range'
  have occurring := (List.filter_sublist (p := fun entry : Nat × Nat => entry.1 ≠ 0)).trans
    (List.drop_sublist 1 histogram.zipIdx)
  have names : (histogramFields histogram).map Field.name =
      (((histogram.zipIdx.drop 1).filter fun entry => entry.1 ≠ 0).map Prod.snd).map decimal := by
    rw [histogramFields, List.map_map, List.map_map]
    rfl
  rw [names]
  exact (sizes.sublist (occurring.map Prod.snd)).map decimal_injective

/-! ## Workers -/

/-- The strings of a worker can be printed. -/
def WorkerReport.Prints (worker : WorkerReport) : Prop :=
  Program.sender.Prints worker.affinity.observedCpuSet ∧
    Program.sender.Prints worker.affinity.error

private theorem workerFields_readable (toFloat : Text → Text) (index : Nat) {worker : WorkerReport}
    (prints : worker.Prints) : ∀ field ∈ workerFields index worker, field.Readable toFloat := by
  intro field member
  simp only [workerFields, List.mem_cons, List.not_mem_nil, or_false] at member
  rcases member with rfl | rfl | rfl | rfl | rfl | rfl | rfl | rfl | rfl | rfl | rfl | rfl
  · exact Field.readable_natural (by decide +kernel) _
  · exact Field.readable_natural (by decide +kernel) _
  · exact Field.readable_natural (by decide +kernel) _
  · exact Field.readable_natural (by decide +kernel) _
  · exact Field.readable_natural (by decide +kernel) _
  · exact Field.readable_natural (by decide +kernel) _
  · exact Field.readable_natural (by decide +kernel) _
  · exact Field.readable_integer (by decide +kernel) _
  · exact Field.readable_integer (by decide +kernel) _
  · exact Field.readable_string (by decide +kernel) prints.1
  · exact Field.readable_boolean (by decide +kernel) _
  · exact Field.readable_string (by decide +kernel) prints.2

def workerNames : List Text :=
  (workerFields 0 ⟨{ batchHistogram := [] }, {}⟩).map Field.name

private theorem workerNames_distinct : workerNames.Nodup := by decide +kernel

theorem workerFields_distinct (index : Nat) (worker : WorkerReport) :
    ((workerFields index worker).map Field.name).Nodup := workerNames_distinct

private theorem workerElements_wellFormed {toFloat : Text → Text}
    {workers : List (WorkerReport × Nat)} (prints : ∀ worker ∈ workers, worker.1.Prints) :
    ∀ element ∈ workerElements workers, element.WellFormed toFloat := by
  have inner : ∀ worker ∈ workers, ∀ before after : Text, Blank before → Blank after →
      (workerElement before after worker).WellFormed toFloat := by
    intro worker member before after first last
    exact {
      before := first
      text := Statistics.denotes_inlineObject
        (workerFields_readable toFloat worker.2 (prints worker member))
        (workerFields_distinct worker.2 worker.1)
      after := last }
  induction workers with
  | nil =>
      intro element inside
      cases inside
  | cons worker later induction =>
      have here := inner worker List.mem_cons_self
      cases later with
      | nil =>
          intro element inside
          rw [workerElements, List.mem_singleton] at inside
          subst inside
          exact here _ _ (by decide) (by decide)
      | cons next later =>
          intro element inside
          rw [workerElements] at inside
          cases List.mem_cons.mp inside with
          | inl same =>
              subst same
              exact here _ _ (by decide) (by decide)
          | inr other =>
              exact induction (fun other member => prints other (List.mem_cons_of_mem _ member))
                (fun other member => inner other (List.mem_cons_of_mem _ member)) element other

theorem workerElements_item (workers : List (WorkerReport × Nat)) :
    (workerElements workers).map Element.item =
      workers.map fun worker => .object ((workerFields worker.2 worker.1).map Field.entry) := by
  induction workers with
  | nil => rfl
  | cons worker later induction =>
      cases later with
      | nil => rfl
      | cons next later => exact congrArg (_ :: ·) induction

private theorem outcomesField_readable {toFloat : Text → Text} {workers : List WorkerReport}
    (occupied : workers ≠ []) (prints : ∀ worker ∈ workers, worker.Prints) :
    (outcomesField workers).Readable toFloat where
  name := show Plain "thread_outcomes".toList by decide +kernel
  printed := by
    have some : workerElements workers.zipIdx ≠ [] := by
      intro none
      have items := workerElements_item workers.zipIdx
      rw [none] at items
      exact occupied (List.zipIdx_eq_nil_iff.mp (List.map_eq_nil_iff.mp items.symm))
    have wellFormed : ∀ element ∈ workerElements workers.zipIdx, element.WellFormed toFloat :=
      workerElements_wellFormed fun worker member => prints _ (List.fst_mem_of_mem_zipIdx member)
    have denotes := JsonDocument.denotes_array wellFormed some
    rw [joinElements_workerElements occupied, workerElements_item, Nat.zero_add] at denotes
    have text : ∀ lines : Text, '[' :: ('\n' :: lines ++ [' ', ' ']) ++ [']'] =
        ['[', '\n'] ++ lines ++ [' ', ' ', ']'] := by simp
    rw [text] at denotes
    exact denotes

/-! ## The whole file -/

/-- What a file needs in order to be read. -/
structure Report.Prints (report : Report) : Prop where
  destination : Program.sender.Prints report.options.destination
  mode : Plain report.options.mode
  duration : 0 ≤ report.options.durationSeconds
  path : Program.sender.Prints report.options.pacingTracePath
  occupied : report.workers ≠ []
  workers : ∀ worker ∈ report.workers, worker.Prints

variable {report : Report}

private theorem scalarFields_readable (fixed : floats.Fixed) (prints : report.Prints) :
    ∀ field ∈ scalarFields floats report, field.Readable floats.toFloat := by
  have seconds : (0 : ℚ) ≤ (report.elapsedNs : ℚ) / 1000000000 := by positivity
  have achieved : (0 : ℚ) ≤ if 0 < (report.elapsedNs : ℚ) / 1000000000 then
      (report.stats.successfulSends : ℚ) / ((report.elapsedNs : ℚ) / 1000000000) else 0 := by
    split
    · positivity
    · exact le_refl 0
  simp only [scalarFields, List.forall_mem_cons, List.not_mem_nil, false_implies, implies_true,
    and_true]
  refine ⟨Field.readable_natural (by decide +kernel) _,
    Field.readable_string (by decide +kernel) prints.destination,
    Field.readable_natural (by decide +kernel) _, Field.readable_natural (by decide +kernel) _,
    fixedField_readable fixed (by decide +kernel) (by decide) prints.duration, ?_,
    Field.readable_natural (by decide +kernel) _, Field.readable_natural (by decide +kernel) _,
    Field.readable_natural (by decide +kernel) _, Field.readable_natural (by decide +kernel) _,
    Field.readable_natural (by decide +kernel) _, Field.readable_natural (by decide +kernel) _,
    Field.readable_natural (by decide +kernel) _, Field.readable_natural (by decide +kernel) _,
    Field.readable_natural (by decide +kernel) _, Field.readable_natural (by decide +kernel) _,
    Field.readable_natural (by decide +kernel) _, Field.readable_natural (by decide +kernel) _,
    Field.readable_natural (by decide +kernel) _, Field.readable_natural (by decide +kernel) _,
    fixedField_readable fixed (by decide +kernel) (by decide) seconds,
    fixedField_readable fixed (by decide +kernel) (by decide) achieved,
    Field.readable_natural (by decide +kernel) _, Field.readable_natural (by decide +kernel) _,
    Field.readable_boolean (by decide +kernel) _, Field.readable_natural (by decide +kernel) _,
    Field.readable_integer (by decide +kernel) _, Field.readable_integer (by decide +kernel) _,
    ?_, ?_⟩
  · exact ⟨show Plain "mode".toList by decide +kernel,
      JsonDocument.denotes_string floats.toFloat (JsonDocument.quotes_plain prints.mode)⟩
  · apply objectField_readable (by decide +kernel) (latenessFields_readable fixed report.stats)
    change (["samples".toList, "mean".toList, "p50".toList, "p90".toList, "p99".toList,
      "max".toList] : List Text).Nodup
    decide +kernel
  · apply objectField_readable (by decide +kernel) (traceFields_readable prints.path report.stats)
    change (["enabled".toList, "path".toList, "format".toList, "records".toList] :
      List Text).Nodup
    decide +kernel

private theorem frontAffinity_readable {toFloat : Text → Text} {workers : List WorkerReport}
    (prints : ∀ worker ∈ workers, worker.Prints) :
    ∀ field ∈ (frontAffinity workers).fields .sender, field.Readable toFloat := by
  cases workers with
  | nil => exact AffinityOutcome.readable nofun nofun
  | cons worker workers =>
      have first := prints worker List.mem_cons_self
      exact AffinityOutcome.readable first.1 first.2

theorem statsFields_readable (fixed : floats.Fixed) (prints : report.Prints) :
    ∀ field ∈ statsFields floats report, field.Readable floats.toFloat := by
  intro field member
  simp only [statsFields, List.mem_append, List.mem_singleton] at member
  rcases member with ((scalar | rfl) | rfl) | rfl
  · exact scalarFields_readable fixed prints field scalar
  · exact objectField_readable (by decide +kernel) (histogramFields_readable floats.toFloat _)
      (histogramFields_distinct _)
  · exact outcomesField_readable prints.occupied prints.workers
  · apply objectField_readable (by decide +kernel) (frontAffinity_readable prints.workers)
    change (["requested_cpu".toList, "observed_cpu".toList, "observed_cpu_set".toList,
      "success".toList, "error".toList] : List Text).Nodup
    decide +kernel

theorem read_writeStats (fixed : floats.Fixed) (prints : report.Prints) :
    safeReadJson floats.toFloat (Utf8.encode (writeStats floats report)) =
      some ((statsFields floats report).map Field.entry) := by
  rw [writeStats_eq]
  apply safeReadJson_lines (statsFields_readable fixed prints) _ (statsFields_distinct floats report)
  have affinity : objectField "cpu_affinity" ((frontAffinity report.workers).fields .sender) ∈
      statsFields floats report := List.mem_append_right _ List.mem_cons_self
  exact List.ne_nil_of_mem affinity

theorem writeStats_read_back (fixed : floats.Fixed) (prints : report.Prints) :
    ∃ object, safeReadJson floats.toFloat (Utf8.encode (writeStats floats report)) = some object ∧
      ∀ field ∈ statsFields floats report, object.lookup field.name = some field.item :=
  ⟨_, read_writeStats fixed prints, fun _ => lookup_entry (statsFields_distinct floats report)⟩

end NetLatencyLab.Sender
