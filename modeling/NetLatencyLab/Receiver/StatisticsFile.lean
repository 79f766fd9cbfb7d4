import NetLatencyLab.Common.ThreadOutcomes
import NetLatencyLab.Receiver.LossAccounting
import NetLatencyLab.Receiver.Options

/-! # The statistics file of a receiver

`write_stats` of `receiver_common.hpp`, and what the controller reads back. -/

namespace NetLatencyLab.Receiver

open JsonDocument (Plain)
open JsonFiles (JsonObject)
open PythonText (Text)
open Statistics (Field Program inlineObject lookup_entry safeReadJson safeReadJson_lines writeLines
  writeLines_concat)
open Thread (AffinityCalls AffinityOutcome SchedulerCalls SchedulerOutcome applyAffinity
  setScheduler)

/-- `requested_socket_buffer_bytes` and `observed_socket_buffer_bytes`. -/
structure SocketBuffer where
  requested : Int := 0
  observed : Int := 0

/-- The outcomes that `write_stats` is given; those of the worker are pointers. -/
structure Outcomes where
  rxAffinity : AffinityOutcome
  rxScheduler : SchedulerOutcome
  workerAffinity : Option AffinityOutcome := none
  workerScheduler : Option SchedulerOutcome := none

/-- `write_outcome` of an affinity. -/
def affinityField (name : String) (outcome : AffinityOutcome) : Field where
  name := name.toList
  printed := inlineObject (outcome.fields .receiver)
  item := .object ((outcome.fields .receiver).map Field.entry)

/-- `write_outcome` of a scheduler. -/
def schedulerField (name : String) (outcome : SchedulerOutcome) : Field where
  name := name.toList
  printed := inlineObject (outcome.fields .receiver)
  item := .object ((outcome.fields .receiver).map Field.entry)

def variantField (config : Options.Config) : Field where
  name := "variant".toList
  printed := '"' :: config.variant ++ ['"']
  item := .string config.variant

def headerFields (config : Options.Config) : List Field :=
  [.natural "schema_version" 2, variantField config,
    .natural "port" config.port, .natural "batch_size" config.batchSize,
    .natural "work_ns" config.workNs, .natural "sample_every" config.sampleEvery]

/-- `NLL_U64(name)` for every counter. -/
def Stats.lines (stats : Stats) : List Field :=
  stats.fields.map fun field => .natural field.1 field.2.toNat

def socketFields (stats : Stats) (buffer : SocketBuffer) : List Field :=
  [.integer "requested_socket_buffer_bytes" buffer.requested,
    .integer "observed_socket_buffer_bytes" buffer.observed,
    .boolean "interrupted" stats.interrupted]

def writeStats (config : Options.Config) (stats : Stats) (buffer : SocketBuffer)
    (outcomes : Outcomes) : Text :=
  ['{', '\n'] ++
    (headerFields config ++ stats.lines ++ socketFields stats buffer).flatMap (·.line true) ++
    (affinityField "receiver_affinity" outcomes.rxAffinity).line true ++
    (match outcomes.workerAffinity with
      | some outcome => (affinityField "worker_affinity" outcome).line true
      | none => []) ++
    (schedulerField "receiver_scheduler" outcomes.rxScheduler).line
      outcomes.workerScheduler.isSome ++
    (match outcomes.workerScheduler with
      | some outcome => (schedulerField "worker_scheduler" outcome).line false
      | none => []) ++
    ['}', '\n']

/-- The kernel's answers to one thread. -/
structure ThreadCalls where
  affinity : AffinityCalls
  scheduler : SchedulerCalls

def outcomesOf (strerror : Int → Text) (config : Options.Config) (receiver : ThreadCalls)
    (worker : Option ThreadCalls) : Outcomes where
  rxAffinity := applyAffinity strerror config.cpu receiver.affinity
  rxScheduler := setScheduler strerror config.scheduler config.priority receiver.scheduler
  workerAffinity := worker.map fun calls => applyAffinity strerror config.workerCpu calls.affinity
  workerScheduler := worker.map fun calls =>
    setScheduler strerror config.scheduler config.priority calls.scheduler

/-! ## The fields of the file -/

def statsFields (config : Options.Config) (stats : Stats) (buffer : SocketBuffer)
    (outcomes : Outcomes) : List Field :=
  headerFields config ++ stats.lines ++ socketFields stats buffer ++
    [affinityField "receiver_affinity" outcomes.rxAffinity] ++
    outcomes.workerAffinity.toList.map (affinityField "worker_affinity") ++
    [schedulerField "receiver_scheduler" outcomes.rxScheduler] ++
    outcomes.workerScheduler.toList.map (schedulerField "worker_scheduler")

variable {config : Options.Config} {stats : Stats} {buffer : SocketBuffer} {outcomes : Outcomes}
  {toFloat : Text → Text}

theorem writeStats_eq (config : Options.Config) (stats : Stats) (buffer : SocketBuffer)
    (outcomes : Outcomes) :
    writeStats config stats buffer outcomes =
      ['{', '\n'] ++ writeLines (statsFields config stats buffer outcomes) ++ ['}', '\n'] := by
  rcases outcomes with ⟨rxAffinity, rxScheduler, workerAffinity, workerScheduler⟩
  have step : ∀ fields : List Field, ∀ field : Field,
      (fields ++ [field]).flatMap (·.line true) =
        fields.flatMap (·.line true) ++ field.line true := by
    intro fields field
    rw [List.flatMap_append, List.flatMap_singleton]
  unfold statsFields
  delta writeStats
  generalize headerFields config ++ stats.lines ++ socketFields stats buffer = front
  cases workerScheduler with
  | none =>
      cases workerAffinity with
      | none =>
          simp only [Option.toList_none, List.map_nil, List.append_nil, writeLines_concat, step,
            Option.isSome_none]
          simp only [List.append_assoc]
      | some affinity =>
          simp only [Option.toList_none, Option.toList_some, List.map_nil, List.map_cons,
            List.append_nil, writeLines_concat, step, Option.isSome_none]
          simp only [List.append_assoc]
  | some scheduler =>
      cases workerAffinity with
      | none =>
          simp only [Option.toList_none, Option.toList_some, List.map_nil, List.map_cons,
            List.append_nil, writeLines_concat, step, Option.isSome_some]
          simp only [List.append_assoc]
      | some affinity =>
          simp only [Option.toList_some, List.map_nil, List.map_cons, writeLines_concat, step,
            Option.isSome_some]
          simp only [List.append_assoc]

def frontNames : List Text :=
  (headerFields { variant := [] } ++ Stats.lines {} ++ socketFields {} {}).map Field.name ++
    ["receiver_affinity".toList]

theorem statsFields_names (config : Options.Config) (stats : Stats) (buffer : SocketBuffer)
    (outcomes : Outcomes) :
    (statsFields config stats buffer outcomes).map Field.name =
      frontNames ++ outcomes.workerAffinity.toList.map (fun _ => "worker_affinity".toList) ++
        ["receiver_scheduler".toList] ++
        outcomes.workerScheduler.toList.map (fun _ => "worker_scheduler".toList) := by
  simp only [statsFields, List.map_append, List.map_map]
  rfl

theorem toList_map_sublist {α : Type} (given : Option α) (name : Text) :
    (given.toList.map fun _ => name).Sublist [name] := by
  cases given with
  | none => exact List.nil_sublist _
  | some value => exact List.Sublist.refl _

theorem statsFields_distinct (config : Options.Config) (stats : Stats) (buffer : SocketBuffer)
    (outcomes : Outcomes) : ((statsFields config stats buffer outcomes).map Field.name).Nodup := by
  have all : (frontNames ++ ["worker_affinity".toList] ++ ["receiver_scheduler".toList] ++
      ["worker_scheduler".toList]).Nodup := by decide +kernel
  rw [statsFields_names]
  apply List.Nodup.sublist _ all
  exact (((List.Sublist.refl _).append (toList_map_sublist _ _)).append (List.Sublist.refl _)).append
    (toList_map_sublist _ _)

private theorem fields_plain (stats : Stats) : ∀ field ∈ stats.fields, Plain field.1.toList := by
  have names : ∀ name ∈ ({} : Stats).fields.map Prod.fst, Plain name.toList := by decide +kernel
  have same : stats.fields.map Prod.fst = ({} : Stats).fields.map Prod.fst := rfl
  rw [← same] at names
  intro field member
  exact names field.1 (List.mem_map_of_mem member)

private theorem fields_nonneg (stats : Stats) : ∀ field ∈ stats.fields, 0 ≤ field.2 := by
  simp only [Stats.fields, List.forall_mem_cons, Int.natCast_nonneg, true_and, List.not_mem_nil,
    false_implies, implies_true]

/-- Every string can be printed. -/
structure Outcomes.Prints (toFloat : Text → Text) (outcomes : Outcomes) : Prop where
  rxAffinity : ∀ field ∈ outcomes.rxAffinity.fields .receiver, field.Readable toFloat
  rxScheduler : ∀ field ∈ outcomes.rxScheduler.fields .receiver, field.Readable toFloat
  workerAffinity : ∀ outcome ∈ outcomes.workerAffinity,
    ∀ field ∈ outcome.fields .receiver, field.Readable toFloat
  workerScheduler : ∀ outcome ∈ outcomes.workerScheduler,
    ∀ field ∈ outcome.fields .receiver, field.Readable toFloat

theorem affinityField_readable {name : String} (plain : Plain name.toList) {outcome : AffinityOutcome}
    (readable : ∀ field ∈ outcome.fields .receiver, field.Readable toFloat) :
    (affinityField name outcome).Readable toFloat where
  name := plain
  printed := Statistics.denotes_inlineObject readable <| by
    change (["requested_cpu".toList, "observed_cpu".toList, "observed_cpu_set".toList,
      "success".toList, "error".toList] : List Text).Nodup
    decide +kernel

theorem schedulerField_readable {name : String} (plain : Plain name.toList)
    {outcome : SchedulerOutcome}
    (readable : ∀ field ∈ outcome.fields .receiver, field.Readable toFloat) :
    (schedulerField name outcome).Readable toFloat where
  name := plain
  printed := Statistics.denotes_inlineObject readable <| by
    change (["requested_policy".toList, "requested_priority".toList, "observed_policy".toList,
      "observed_priority".toList, "success".toList, "error".toList] : List Text).Nodup
    decide +kernel

private theorem headerFields_readable (variant : Plain config.variant) :
    ∀ field ∈ headerFields config, field.Readable toFloat := by
  intro field member
  simp only [headerFields, List.mem_cons, List.not_mem_nil, or_false] at member
  rcases member with rfl | rfl | rfl | rfl | rfl | rfl
  · exact Field.readable_natural (by decide +kernel) _
  · exact ⟨show Plain "variant".toList by decide +kernel,
      JsonDocument.denotes_string toFloat (JsonDocument.quotes_plain variant)⟩
  all_goals exact Field.readable_natural (by decide +kernel) _

theorem statsFields_readable (variant : Plain config.variant) (prints : outcomes.Prints toFloat) :
    ∀ field ∈ statsFields config stats buffer outcomes, field.Readable toFloat := by
  intro field member
  simp only [statsFields, List.mem_append, List.mem_singleton, List.mem_map, Option.mem_toList]
    at member
  rcases member with (((((header | counter) | socket) | rfl) | worker) | rfl) | worker
  · exact headerFields_readable variant field header
  · rcases List.mem_map.mp counter with ⟨given, inside, rfl⟩
    exact Field.readable_natural (fields_plain stats given inside) _
  · simp only [socketFields, List.mem_cons, List.not_mem_nil, or_false] at socket
    rcases socket with rfl | rfl | rfl
    · exact Field.readable_integer (by decide +kernel) _
    · exact Field.readable_integer (by decide +kernel) _
    · exact Field.readable_boolean (by decide +kernel) _
  · exact affinityField_readable (by decide +kernel) prints.rxAffinity
  · rcases worker with ⟨outcome, given, rfl⟩
    exact affinityField_readable (by decide +kernel) (prints.workerAffinity outcome given)
  · exact schedulerField_readable (by decide +kernel) prints.rxScheduler
  · rcases worker with ⟨outcome, given, rfl⟩
    exact schedulerField_readable (by decide +kernel) (prints.workerScheduler outcome given)

/-- What the controller finds in the file of a receiver: every counter under its
name, and the outcomes of the worker only where there is one. -/
structure ReadBack (config : Options.Config) (stats : Stats) (buffer : SocketBuffer)
    (outcomes : Outcomes) (object : JsonObject) : Prop where
  variant : object.lookup "variant".toList = some (.string config.variant)
  counters : ∀ field ∈ stats.fields, object.lookup field.1.toList = some (.integer field.2)
  requested : object.lookup "requested_socket_buffer_bytes".toList = some (.integer buffer.requested)
  observed : object.lookup "observed_socket_buffer_bytes".toList = some (.integer buffer.observed)
  interrupted : object.lookup "interrupted".toList = some (.bool stats.interrupted)
  receiverAffinity : object.lookup "receiver_affinity".toList =
    some (affinityField "receiver_affinity" outcomes.rxAffinity).item
  receiverScheduler : object.lookup "receiver_scheduler".toList =
    some (schedulerField "receiver_scheduler" outcomes.rxScheduler).item
  workerAffinity : object.lookup "worker_affinity".toList =
    outcomes.workerAffinity.map fun outcome => (affinityField "worker_affinity" outcome).item
  workerScheduler : object.lookup "worker_scheduler".toList =
    outcomes.workerScheduler.map fun outcome => (schedulerField "worker_scheduler" outcome).item

theorem lookup_worker {name : String} {fields : List Field} {worker : Option Field}
    (distinct : (fields.map Field.name).Nodup) (given : ∀ field ∈ worker, field ∈ fields)
    (named : ∀ field ∈ worker, field.name = name.toList)
    (absent : worker = none → name.toList ∉ fields.map Field.name) :
    (fields.map Field.entry).lookup name.toList = worker.map Field.item := by
  cases worker with
  | none =>
      rw [Option.map_none, List.lookup_eq_none_iff]
      intro entry member
      rcases List.mem_map.mp member with ⟨field, inside, rfl⟩
      apply bne_iff_ne.mpr
      intro same
      apply absent rfl
      rw [same]
      exact List.mem_map_of_mem inside
  | some field =>
      rw [← named field rfl]
      exact lookup_entry distinct (given field rfl)

private theorem worker_absent (config : Options.Config) (stats : Stats) (buffer : SocketBuffer)
    (outcomes : Outcomes) :
    (outcomes.workerAffinity = none → "worker_affinity".toList ∉
      (statsFields config stats buffer outcomes).map Field.name) ∧
    (outcomes.workerScheduler = none → "worker_scheduler".toList ∉
      (statsFields config stats buffer outcomes).map Field.name) := by
  have affinity : "worker_affinity".toList ∉
      frontNames ++ ["receiver_scheduler".toList] ++ ["worker_scheduler".toList] := by
    decide +kernel
  have scheduler : "worker_scheduler".toList ∉
      frontNames ++ ["worker_affinity".toList] ++ ["receiver_scheduler".toList] := by
    decide +kernel
  rw [statsFields_names]
  constructor
  · intro absent member
    rw [absent, Option.toList_none, List.map_nil, List.append_nil] at member
    exact affinity (((List.Sublist.refl _).append (toList_map_sublist _ _)).subset member)
  · intro absent member
    rw [absent, Option.toList_none, List.map_nil, List.append_nil] at member
    exact scheduler ((((List.Sublist.refl _).append (toList_map_sublist _ _)).append
      (List.Sublist.refl _)).subset member)

theorem read_writeStats (stats : Stats) (buffer : SocketBuffer) (variant : Plain config.variant)
    (prints : outcomes.Prints toFloat) :
    safeReadJson toFloat (Utf8.encode (writeStats config stats buffer outcomes)) =
      some ((statsFields config stats buffer outcomes).map Field.entry) := by
  rw [writeStats_eq]
  apply safeReadJson_lines (statsFields_readable variant prints) _
    (statsFields_distinct config stats buffer outcomes)
  have affinity : affinityField "receiver_affinity" outcomes.rxAffinity ∈
      statsFields config stats buffer outcomes :=
    List.mem_append_left _ (List.mem_append_left _ (List.mem_append_left _
      (List.mem_append_right _ List.mem_cons_self)))
  exact List.ne_nil_of_mem affinity

theorem exists_readBack (stats : Stats) (buffer : SocketBuffer) (variant : Plain config.variant)
    (prints : outcomes.Prints toFloat) :
    ∃ object, safeReadJson toFloat (Utf8.encode (writeStats config stats buffer outcomes)) =
      some object ∧ ReadBack config stats buffer outcomes object := by
  have distinct := statsFields_distinct config stats buffer outcomes
  have absent := worker_absent config stats buffer outcomes
  have found : ∀ field ∈ statsFields config stats buffer outcomes,
      ((statsFields config stats buffer outcomes).map Field.entry).lookup field.name =
        some field.item := fun field member => lookup_entry distinct member
  have front : ∀ field ∈ headerFields config ++ stats.lines ++ socketFields stats buffer,
      field ∈ statsFields config stats buffer outcomes := by
    intro field member
    rw [statsFields]
    exact List.mem_append_left _ (List.mem_append_left _ (List.mem_append_left _
      (List.mem_append_left _ member)))
  have header : ∀ field ∈ headerFields config, field ∈ statsFields config stats buffer outcomes :=
    fun field member => front field (List.mem_append_left _ (List.mem_append_left _ member))
  have counter : ∀ field ∈ stats.lines, field ∈ statsFields config stats buffer outcomes :=
    fun field member => front field (List.mem_append_left _ (List.mem_append_right _ member))
  have socket : ∀ field ∈ socketFields stats buffer,
      field ∈ statsFields config stats buffer outcomes :=
    fun field member => front field (List.mem_append_right _ member)
  refine ⟨_, read_writeStats stats buffer variant prints, ?_⟩
  · exact {
      variant := found (variantField config) (header _ (List.mem_cons_of_mem _ List.mem_cons_self))
      counters := by
        intro field member
        have line : Field.natural field.1 field.2.toNat ∈ stats.lines :=
          List.mem_map_of_mem (f := fun field => Field.natural field.1 field.2.toNat) member
        have value : ((field.2.toNat : Nat) : Int) = field.2 :=
          Int.toNat_of_nonneg (fields_nonneg stats field member)
        rw [← value]
        exact found _ (counter _ line)
      requested := found (.integer "requested_socket_buffer_bytes" buffer.requested)
        (socket _ List.mem_cons_self)
      observed := found (.integer "observed_socket_buffer_bytes" buffer.observed)
        (socket _ (List.mem_cons_of_mem _ List.mem_cons_self))
      interrupted := found (.boolean "interrupted" stats.interrupted)
        (socket _ (List.mem_cons_of_mem _ (List.mem_cons_of_mem _ List.mem_cons_self)))
      receiverAffinity := found (affinityField "receiver_affinity" outcomes.rxAffinity)
        (List.mem_append_left _ (List.mem_append_left _ (List.mem_append_left _
          (List.mem_append_right _ List.mem_cons_self))))
      receiverScheduler := found (schedulerField "receiver_scheduler" outcomes.rxScheduler)
        (List.mem_append_left _ (List.mem_append_right _ List.mem_cons_self))
      workerAffinity := by
        have found := @lookup_worker "worker_affinity" _
          (outcomes.workerAffinity.map (affinityField "worker_affinity")) distinct
        rw [Option.map_map] at found
        apply found
        · intro field member
          rcases Option.mem_map.mp member with ⟨outcome, given, rfl⟩
          exact List.mem_append_left _ (List.mem_append_left _ (List.mem_append_right _
            (List.mem_map_of_mem (Option.mem_toList.mpr given))))
        · intro field member
          rcases Option.mem_map.mp member with ⟨outcome, _, rfl⟩
          rfl
        · exact fun none => absent.1 (Option.map_eq_none_iff.mp none)
      workerScheduler := by
        have found := @lookup_worker "worker_scheduler" _
          (outcomes.workerScheduler.map (schedulerField "worker_scheduler")) distinct
        rw [Option.map_map] at found
        apply found
        · intro field member
          rcases Option.mem_map.mp member with ⟨outcome, given, rfl⟩
          exact List.mem_append_right _ (List.mem_map_of_mem (Option.mem_toList.mpr given))
        · intro field member
          rcases Option.mem_map.mp member with ⟨outcome, _, rfl⟩
          rfl
        · exact fun none => absent.2 (Option.map_eq_none_iff.mp none) }

/-! ## The files of the three receivers -/

/-- `config.variant` as the mains set it. -/
def variants : List Text := ["baseline".toList, "batched".toList, "threaded".toList]

private theorem scheduler_printable (accepted : Options.validateScheduler config = .ok ()) :
    Thread.Printable config.scheduler := by
  rw [Options.validateScheduler] at accepted
  split at accepted
  · cases accepted
  next known =>
    simp only [not_and_or, not_not] at known
    rcases known with other | fifo | rr
    · rw [other]
      exact Thread.printable_of_all rfl
    · rw [fifo]
      exact Thread.printable_of_all rfl
    · rw [rr]
      exact Thread.printable_of_all rfl

theorem outcomesOf_prints {strerror : Int → Text}
    (errors : ∀ code, Program.receiver.Prints (strerror code))
    (accepted : Options.validateScheduler config = .ok ()) (receiver : ThreadCalls)
    (worker : Option ThreadCalls) : (outcomesOf strerror config receiver worker).Prints toFloat := by
  have policy := (scheduler_printable accepted).prints Program.receiver
  constructor
  · have prints := Thread.applyAffinity_prints errors config.cpu receiver.affinity
    exact AffinityOutcome.readable prints.1 prints.2
  · have prints := Thread.setScheduler_prints errors policy config.priority receiver.scheduler
    exact SchedulerOutcome.readable prints.1 prints.2.1 prints.2.2
  · intro outcome given
    rcases Option.mem_map.mp given with ⟨calls, _, rfl⟩
    have prints := Thread.applyAffinity_prints errors config.workerCpu calls.affinity
    exact AffinityOutcome.readable prints.1 prints.2
  · intro outcome given
    rcases Option.mem_map.mp given with ⟨calls, _, rfl⟩
    have prints := Thread.setScheduler_prints errors policy config.priority calls.scheduler
    exact SchedulerOutcome.readable prints.1 prints.2.1 prints.2.2

/-- The file that a receiver writes is read back as an object with every counter
of its statistics, whatever the kernel answered to its threads. -/
theorem receiver_file_read_back (toFloat : Text → Text) (strerror : Int → Text)
    (errors : ∀ code, Program.receiver.Prints (strerror code)) (config : Options.Config)
    (variant : config.variant ∈ variants) (accepted : Options.validateScheduler config = .ok ())
    (stats : Stats) (buffer : SocketBuffer) (receiver : ThreadCalls) (worker : Option ThreadCalls) :
    let outcomes := outcomesOf strerror config receiver worker
    ∃ object, safeReadJson toFloat (Utf8.encode (writeStats config stats buffer outcomes)) =
      some object ∧ ReadBack config stats buffer outcomes object := by
  have plain : ∀ name ∈ variants, Plain name := by decide +kernel
  exact exists_readBack stats buffer (plain _ variant)
    (outcomesOf_prints errors accepted receiver worker)

/-- A threaded receiver whose worker could not be scheduled. -/
theorem threaded_file_read_back :
    let config : Options.Config :=
      { variant := "threaded".toList, cpu := 3, workerCpu := 2, scheduler := "fifo".toList,
        priority := 80 }
    let placed : AffinityCalls := ⟨0, 0, fun cpu => cpu == 3, 3⟩
    let outcomes := outcomesOf (fun _ => "Operation not permitted".toList) config
      ⟨placed, 0, 0, 1, 80⟩ (some ⟨placed, 1, 0, 0, 0⟩)
    ∃ object, safeReadJson id (Utf8.encode (writeStats config
        { validPackets := 7, processedPackets := 4, spscOverflow := 3 } {} outcomes)) =
          some object ∧
      object.lookup "spsc_overflow".toList = some (.integer 3) := by
  intro config placed outcomes
  rcases receiver_file_read_back id (fun _ => "Operation not permitted".toList)
    (fun _ => (Thread.printable_of_all rfl).prints _) config (by decide) rfl
    { validPackets := 7, processedPackets := 4, spscOverflow := 3 } {} ⟨placed, 0, 0, 1, 80⟩
    (some ⟨placed, 1, 0, 0, 0⟩) with ⟨object, read, found⟩
  exact ⟨object, read, found.counters ("spsc_overflow", 3) (by simp [Stats.fields])⟩

end NetLatencyLab.Receiver
