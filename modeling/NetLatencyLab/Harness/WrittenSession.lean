import NetLatencyLab.Analysis.ProfileSession
import NetLatencyLab.Harness.RunMetadata

/-! # The session of a profile campaign

The files that `execute_run` leaves for a profiled run, as `validate_profile_session`
finds them. -/

namespace NetLatencyLab.Harness

open Fallible (ok_bind)
open JsonFiles (File FileSystem IsName Json JsonObject Path get)
open ProfileSession (Evidence Mode Seen artifactsOf evidenceOf metadataSuffix readJsonObject
  requireNonempty requireObject requirePid requireText
  require_eq_ok validateArtifacts validateProcesses validateProfile validateRun validateRuns
  validateStats validateStatus)
open PythonText (Text)

/-! ## A run -/

def IsFilled (files : FileSystem) (path : Path) : Prop :=
  ∃ file, files.file path = some file ∧ file.size ≠ 0

def HasObject (files : FileSystem) (path : Path) (fields : JsonObject) : Prop :=
  ∃ file, files.file path = some file ∧ file.size ≠ 0 ∧ file.json = .ok (.object fields)

def Profile.mode : Profile → Mode
  | .stat => .stat
  | .record => .record

/-- The keys of `metadata["profile"]` that name files, and the ends of the names. -/
def Profile.artifacts : Profile → List (String × Text)
  | .stat => [("artifact", "_perf_stat.csv".toList)]
  | .record => [("perf_data", ".perf.data".toList), ("report", "_perf_report.txt".toList)]

/-- The metadata of a valid run under a profiler. -/
structure Documents (item : RunTuple) (profile : Profile) (variant : Text)
    (metadata : JsonObject) : Prop where
  runId : get metadata "run_id" = .string item.runId
  run : ∃ run, get metadata "run" = .object run ∧
    get run "campaign" = .string item.campaign.toList ∧
    get run "receiver_variant" = .string variant
  validity : ∃ validity, get metadata "validity" = .object validity ∧
    get validity "valid" = .bool true
  processes : ∃ processes receiver wrapper, get metadata "processes" = .object processes ∧
    get processes "receiver_pid" = .integer receiver ∧
    get processes "profile_wrapper_pid" = .integer wrapper ∧
    0 < receiver ∧ 0 < wrapper ∧ receiver ≠ wrapper
  stats : ∃ stats, get metadata "receiver_stats" = .object stats
  profile : ∃ profiled, get metadata "profile" = .object profiled ∧
    get profiled "mode" = .string (match profile with
      | .stat => "stat".toList
      | .record => "record".toList) ∧
    ∀ artifact ∈ profile.artifacts,
      get profiled artifact.1 = .string (item.runId ++ artifact.2)

/-- `metadata["profile"]`, as far as it is read again. -/
def profileFields (item : RunTuple) : Profile → JsonObject
  | .stat => [("mode".toList, .string "stat".toList),
      ("artifact".toList, .string (item.runId ++ "_perf_stat.csv".toList))]
  | .record => [("mode".toList, .string "record".toList),
      ("report".toList, .string (item.runId ++ "_perf_report.txt".toList)),
      ("perf_data".toList, .string (item.runId ++ ".perf.data".toList))]

def metadataFields (runId campaign variant : Text) (receiverPid wrapperPid : Int)
    (receiverStats : JsonObject) (valid : Bool) (profiled : JsonObject) : JsonObject :=
  [("run_id".toList, .string runId),
    ("run".toList, .object [("campaign".toList, .string campaign),
      ("receiver_variant".toList, .string variant)]),
    ("processes".toList, .object [("receiver_pid".toList, .integer receiverPid),
      ("profile_wrapper_pid".toList, .integer wrapperPid)]),
    ("receiver_stats".toList, .object receiverStats),
    ("validity".toList, .object [("valid".toList, .bool valid)]),
    ("profile".toList, .object profiled)]

/-- What `execute_run` writes of the record of a profiled run. -/
def RunRecord.fields (record : RunRecord) (item : RunTuple) (profile : Profile)
    (receiver : JsonObject) (receiverPid wrapperPid : Int) : JsonObject :=
  metadataFields record.metadata.runId.toList (record.metadata.run.campaign.getD "").toList
    record.metadata.run.receiverVariant.toList receiverPid wrapperPid receiver
    ((record.metadata.validity.bind GenerateSummary.Validity.valid).getD false)
    (profileFields item profile)

theorem documents_metadataFields (item : RunTuple) (profile : Profile) (variant : Text)
    {receiverPid wrapperPid : Int} (receiver : 0 < receiverPid) (wrapper : 0 < wrapperPid)
    (apart : receiverPid ≠ wrapperPid) (stats : JsonObject) :
    Documents item profile variant (metadataFields item.runId item.campaign.toList variant
      receiverPid wrapperPid stats true (profileFields item profile)) := by
  refine ⟨rfl, ⟨_, rfl, rfl, rfl⟩, ⟨_, rfl, rfl⟩,
    ⟨_, receiverPid, wrapperPid, rfl, rfl, rfl, receiver, wrapper, apart⟩, ⟨_, rfl⟩,
    ⟨_, rfl, ?_, ?_⟩⟩
  · cases profile with
    | stat => rfl
    | record => rfl
  · cases profile with
    | stat =>
        rw [Profile.artifacts, List.forall_mem_singleton]
        rfl
    | record =>
        rw [Profile.artifacts, List.forall_mem_cons, List.forall_mem_singleton]
        exact ⟨rfl, rfl⟩

theorem documents_of_runRecord {float : Text → Option CommandLine.Double} {config : GlobalConfig}
    {item : RunTuple} {settings : BenchmarkSettings} {sender receiver : JsonObject}
    {counters : List (String × Counters.Delta)} {states : NodeStates} {record : RunRecord}
    (made : runRecord float config item settings sender receiver counters states = some record)
    (valid : record.metadata.validity.bind GenerateSummary.Validity.valid = some true)
    (profile : Profile) {receiverPid wrapperPid : Int} (running : 0 < receiverPid)
    (wrapped : 0 < wrapperPid) (apart : receiverPid ≠ wrapperPid) :
    ∃ variant, (receiver.lookup "variant".toList).bind Json.string? = some variant ∧
      Documents item profile variant
        (record.fields item profile receiver receiverPid wrapperPid) := by
  simp only [runRecord, Option.bind_eq_bind, Option.bind_eq_some_iff] at made
  rcases made with ⟨accounting, _, reasons, _, variant, named, made⟩
  refine ⟨variant, Option.bind_eq_some_iff.mpr named, ?_⟩
  rw [RunRecord.fields, valid]
  split at made
  next duration _ =>
    rw [← Option.some.inj made]
    simp only [runSettings, String.toList_ofList, Option.getD_some]
    exact documents_metadataFields item profile variant running wrapped apart receiver
  next => cases made

structure WrittenRun (files : FileSystem) (session : Path) (item : RunTuple) (profile : Profile)
    (variant : Text) : Prop where
  trace : IsFilled files (session.join (artifactPath item ".bin".toList))
  stats : ∃ stats, HasObject files (session.join (artifactPath item "_rx_stats.json".toList)) stats
  artifacts : ∀ artifact ∈ profile.artifacts,
    IsFilled files (session.join (artifactPath item artifact.2))
  metadata : ∃ metadata,
    HasObject files (session.join (artifactPath item metadataSuffix)) metadata ∧
      Documents item profile variant metadata

namespace ManifestEntry

/-- The entry as it is in the file. -/
def fields (entry : ManifestEntry) : JsonObject :=
  [("run_id".toList, .string entry.runId), ("metadata".toList, .string entry.metadata),
    ("trace".toList, .string entry.trace)]

private theorem get_runId (entry : ManifestEntry) :
    get entry.fields "run_id" = .string entry.runId := rfl

private theorem get_metadata (entry : ManifestEntry) :
    get entry.fields "metadata" = .string entry.metadata := rfl

private theorem get_trace (entry : ManifestEntry) :
    get entry.fields "trace" = .string entry.trace := rfl

end ManifestEntry

def inodeOf (files : FileSystem) (path : Path) : Nat := ((files.file path).map File.inode).getD 0

def writtenEvidence (files : FileSystem) (session : Path) (item : RunTuple) (profile : Profile)
    (variant : Text) : Evidence where
  runId := item.runId
  receiver := some variant
  mode := profile.mode
  files := (".bin".toList :: profile.artifacts.map Prod.snd).map fun suffix =>
    inodeOf files (session.join (artifactPath item suffix))

/-! ## The checks of a run -/

theorem requireText_string {text message : Text} (occupied : text ≠ []) :
    requireText (.string text) message = .ok text := by
  rw [requireText]
  exact if_neg occupied

theorem requirePid_integer {pid : Int} (positive : 0 < pid) (message : Text) :
    requirePid (.integer pid) message = .ok pid := by
  rw [requirePid]
  exact if_neg (not_le.mpr positive)

section

variable {files : FileSystem} {session : Path} {item : RunTuple} {profile : Profile}
  {variant : Text}

theorem IsFilled.exists_file {path : Path} (filled : IsFilled files path) (description : Text) :
    ∃ file, requireNonempty files path description = .ok file := by
  rcases filled with ⟨file, found, size⟩
  refine ⟨file, ?_⟩
  rw [requireNonempty, found]
  exact if_neg size

theorem HasObject.read {path : Path} {fields : JsonObject} (holds : HasObject files path fields)
    (description : Text) : readJsonObject files path description = .ok fields := by
  rcases holds with ⟨file, found, size, json⟩
  have nonempty : requireNonempty files path description = .ok file := by
    rw [requireNonempty, found]
    exact if_neg size
  rw [readJsonObject, nonempty, ok_bind, json]
  rfl

theorem isName_file {suffix : Text} (simple : '/' ∉ suffix)
    (name : '/' ∉ item.benchmarkName.toList) : IsName (item.runId ++ suffix) := by
  have long : 2 ≤ (item.runId ++ suffix).length := by
    simp only [RunTuple.runId, List.length_append]
    have fixed : "burst".toList.length = 5 := rfl
    omega
  refine ⟨?_, ?_, ?_⟩
  · intro empty
    rw [empty] at long
    cases long
  · intro dot
    rw [dot] at long
    exact absurd long (by decide)
  · intro member
    cases List.mem_append.mp member with
    | inl inside => exact slash_notMem_runId name inside
    | inr inside => exact simple inside

private theorem validateStatus_written {metadata : JsonObject}
    (documents : Documents item profile variant metadata) (campaign : item.campaign = "profile")
    (runId : Text) : validateStatus metadata runId = .ok () := by
  rcases documents.run with ⟨run, isRun, itsCampaign, _⟩
  rcases documents.validity with ⟨validity, isValidity, valid⟩
  rw [validateStatus, isValidity, isRun]
  simp only [requireObject, Json.object?, ok_bind, valid, itsCampaign, campaign]
  rfl

private theorem validateProcesses_written {metadata : JsonObject}
    (documents : Documents item profile variant metadata) (runId : Text) :
    validateProcesses metadata runId = .ok () := by
  rcases documents.processes with ⟨processes, receiver, wrapper, isProcesses, itsReceiver,
    itsWrapper, receiverPositive, wrapperPositive, apart⟩
  rw [validateProcesses, isProcesses]
  simp only [requireObject, Json.object?, ok_bind, itsReceiver, itsWrapper,
    requirePid_integer receiverPositive, requirePid_integer wrapperPositive]
  exact require_eq_ok.mpr apart

private theorem validateStats_written {metadata : JsonObject}
    (written : WrittenRun files session item profile variant)
    (documents : Documents item profile variant metadata)
    (directory : IsName item.benchmarkName.toList) (runId : Text) :
    validateStats files (session.join (artifactPath item metadataSuffix)) metadata runId =
      .ok () := by
  have isMeta : IsName (item.runId ++ metadataSuffix) :=
    isName_file (by decide +kernel) directory.simple
  have isStats : IsName (item.runId ++ "_rx_stats.json".toList) :=
    isName_file (by decide +kernel) directory.simple
  rcases documents.stats with ⟨recorded, isRecorded⟩
  rcases written.stats with ⟨stats, hasStats⟩
  have name : (session.join (artifactPath item metadataSuffix)).name =
      item.runId ++ metadataSuffix := JsonFiles.name_join_file session directory isMeta
  have stem : (item.runId ++ metadataSuffix).rdrop metadataSuffix.length = item.runId :=
    List.rdrop_append_length
  have beside : (session.join (artifactPath item metadataSuffix)).withName
      (item.runId ++ "_rx_stats.json".toList) =
        session.join (artifactPath item "_rx_stats.json".toList) :=
    JsonFiles.withName_join_file session directory isMeta isStats
  have ends : ProfileSession.require (metadataSuffix <:+ item.runId ++ metadataSuffix)
      ("Unexpected metadata filename: ".toList ++
        (session.join (artifactPath item metadataSuffix)).text) = .ok () :=
    require_eq_ok.mpr (List.suffix_append _ _)
  rw [validateStats, name, ends, ok_bind, stem, beside]
  simp only [hasStats.read, ok_bind, isRecorded, requireObject, Json.object?]
  rfl

theorem isName_artifact (directory : IsName item.benchmarkName.toList) {artifact : String × Text}
    (listed : artifact ∈ profile.artifacts) : IsName (item.runId ++ artifact.2) := by
  apply isName_file _ directory.simple
  revert artifact
  cases profile with
  | stat => decide +kernel
  | record => decide +kernel

private theorem validateArtifacts_written {profiled : JsonObject}
    (written : WrittenRun files session item profile variant)
    (named : ∀ artifact ∈ profile.artifacts,
      get profiled artifact.1 = .string (item.runId ++ artifact.2))
    (directory : IsName item.benchmarkName.toList) (runId : Text) :
    validateArtifacts files (session.join (artifactPath item metadataSuffix)).parent profiled runId
      profile.mode = .ok () := by
  have isMeta : IsName (item.runId ++ metadataSuffix) :=
    isName_file (by decide +kernel) directory.simple
  have text : ∀ artifact ∈ profile.artifacts, ∀ message : Text,
      requireText (get profiled artifact.1) message = .ok (item.runId ++ artifact.2) := by
    intro artifact listed message
    rw [named artifact listed]
    exact requireText_string (isName_artifact directory listed).some
  have file : ∀ artifact ∈ profile.artifacts, ∀ description : Text, ∃ file,
      requireNonempty files ((session.join (artifactPath item metadataSuffix)).parent.join
        (item.runId ++ artifact.2)) description = .ok file := by
    intro artifact listed description
    have beside : (session.join (artifactPath item metadataSuffix)).parent.join
        (item.runId ++ artifact.2) = session.join (artifactPath item artifact.2) :=
      JsonFiles.parent_join_file session directory isMeta (isName_artifact directory listed)
    rw [beside]
    exact (written.artifacts artifact listed).exists_file description
  cases profile with
  | stat =>
      have listed : ("artifact", "_perf_stat.csv".toList) ∈ Profile.stat.artifacts :=
        List.mem_cons_self
      rcases file _ listed ("perf stat artifact for ".toList ++ runId) with ⟨artifact, found⟩
      rw [Profile.mode, validateArtifacts]
      simp only [text _ listed, ok_bind, found]
      rfl
  | record =>
      have data : ("perf_data", ".perf.data".toList) ∈ Profile.record.artifacts :=
        List.mem_cons_self
      have report : ("report", "_perf_report.txt".toList) ∈ Profile.record.artifacts :=
        List.mem_cons_of_mem _ List.mem_cons_self
      rcases file _ data ("perf record artifact for ".toList ++ runId) with ⟨dataFile, dataFound⟩
      rcases file _ report ("perf record report for ".toList ++ runId) with
        ⟨reportFile, reportFound⟩
      rw [Profile.mode, validateArtifacts]
      simp only [text _ data, text _ report, ok_bind, dataFound, reportFound]
      rfl

private theorem validateProfile_written {metadata : JsonObject}
    (written : WrittenRun files session item profile variant)
    (documents : Documents item profile variant metadata)
    (directory : IsName item.benchmarkName.toList) (runId : Text) :
    validateProfile files (session.join (artifactPath item metadataSuffix)).parent metadata
      runId = .ok profile.mode := by
  rcases documents.profile with ⟨profiled, isProfile, mode, named⟩
  have isMode : ProfileSession.requireMode runId (get profiled "mode") = .ok profile.mode := by
    rw [mode]
    cases profile with
    | stat => rfl
    | record => rfl
  rw [validateProfile, isProfile]
  simp only [requireObject, Json.object?, ok_bind, isMode,
    validateArtifacts_written written named directory]
  rfl

def seenWith (session : Path) (item : RunTuple) (profile : Profile) (seen : Seen) : Seen where
  modes := seen.modes ++ [profile.mode]
  runIds := seen.runIds ++ [item.runId]
  metadataPaths := seen.metadataPaths ++ [session.join (artifactPath item metadataSuffix)]

private theorem validateRun_written (written : WrittenRun files session item profile variant)
    (campaign : item.campaign = "profile") (directory : IsName item.benchmarkName.toList)
    (index : Nat) {seen : Seen}
    (freshPath : session.join (artifactPath item metadataSuffix) ∉ seen.metadataPaths)
    (freshId : item.runId ∉ seen.runIds) :
    validateRun files session index (.object (manifestEntry item).fields) seen =
      .ok (seenWith session item profile seen) := by
  have isMeta : IsName (item.runId ++ metadataSuffix) :=
    isName_file (by decide +kernel) directory.simple
  have someId : item.runId ≠ [] := by
    rcases runId_eq_concat item with ⟨start, last, ends, _⟩
    rw [ends]
    exact List.concat_ne_nil last start
  have somePath : ∀ suffix, artifactPath item suffix ≠ [] :=
    fun suffix => List.append_ne_nil_of_right_ne_nil _ (List.cons_ne_nil _ _)
  have metadataName : ∀ message, requireText (get (manifestEntry item).fields "metadata") message =
      .ok (artifactPath item metadataSuffix) := by
    intro message
    rw [ManifestEntry.get_metadata]
    exact requireText_string (somePath _)
  have traceName : ∀ message, requireText (get (manifestEntry item).fields "trace") message =
      .ok (artifactPath item ".bin".toList) := by
    intro message
    rw [ManifestEntry.get_trace]
    exact requireText_string (somePath _)
  rcases written.metadata with ⟨metadata, hasMetadata, documents⟩
  rcases written.trace.exists_file ("trace for ".toList ++ item.runId) with ⟨trace, traceFound⟩
  have identified : ∀ message, requireText (get metadata "run_id") message = .ok item.runId := by
    intro message
    rw [documents.runId]
    exact requireText_string someId
  have agrees : (get (manifestEntry item).fields "run_id").string? = some item.runId := by
    rw [ManifestEntry.get_runId]
    rfl
  rw [validateRun]
  simp only [requireObject, Json.object?, ok_bind, metadataName, traceName,
    require_eq_ok.mpr freshPath, hasMetadata.read, identified, require_eq_ok.mpr freshId,
    require_eq_ok.mpr agrees, validateStatus_written documents campaign,
    validateProcesses_written documents, traceFound,
    validateStats_written written documents directory,
    validateProfile_written written documents directory]
  rfl

/-! ## All runs -/

theorem runId_of_metadataPath {other : RunTuple} (directory : IsName item.benchmarkName.toList)
    (otherDirectory : IsName other.benchmarkName.toList)
    (same : session.join (artifactPath item metadataSuffix) =
      session.join (artifactPath other metadataSuffix)) : item.runId = other.runId := by
  have isMeta : IsName (item.runId ++ metadataSuffix) :=
    isName_file (by decide +kernel) directory.simple
  have isOther : IsName (other.runId ++ metadataSuffix) :=
    isName_file (by decide +kernel) otherDirectory.simple
  rw [artifactPath, artifactPath, JsonFiles.join_file session directory isMeta,
    JsonFiles.join_file session otherDirectory isOther] at same
  have parts := List.append_cancel_left (JsonFiles.Path.mk.inj same).2
  simp only [List.cons.injEq] at parts
  exact List.append_cancel_right parts.2.1

theorem validateRuns_written {items : List RunTuple} {profile : RunTuple → Profile}
    {variant : RunTuple → Text}
    (written : ∀ item ∈ items, WrittenRun files session item (profile item) (variant item))
    (campaign : ∀ item ∈ items, item.campaign = "profile")
    (directory : ∀ item ∈ items, IsName item.benchmarkName.toList)
    (distinct : (items.map RunTuple.runId).Nodup) (index : Nat) {seen : Seen}
    (freshPath : ∀ item ∈ items,
      session.join (artifactPath item metadataSuffix) ∉ seen.metadataPaths)
    (freshId : ∀ item ∈ items, item.runId ∉ seen.runIds) :
    ∃ after, validateRuns files session index
        (items.map fun item => .object (manifestEntry item).fields) seen = .ok after ∧
      after.modes = seen.modes ++ items.map fun item => (profile item).mode := by
  induction items generalizing index seen with
  | nil => exact ⟨seen, rfl, (List.append_nil _).symm⟩
  | cons item rest induction =>
      rw [List.forall_mem_cons] at written campaign directory freshPath freshId
      rw [List.map_cons, List.nodup_cons] at distinct
      have step := validateRun_written written.1 campaign.1 directory.1 index freshPath.1 freshId.1
      have paths : ∀ later ∈ rest, session.join (artifactPath later metadataSuffix) ∉
          (seenWith session item (profile item) seen).metadataPaths := by
        intro later member inside
        cases List.mem_append.mp inside with
        | inl before => exact freshPath.2 later member before
        | inr here =>
            apply distinct.1
            rw [← runId_of_metadataPath (directory.2 later member) directory.1
              (List.mem_singleton.mp here)]
            exact List.mem_map_of_mem member
      have ids : ∀ later ∈ rest,
          later.runId ∉ (seenWith session item (profile item) seen).runIds := by
        intro later member inside
        cases List.mem_append.mp inside with
        | inl before => exact freshId.2 later member before
        | inr here =>
            apply distinct.1
            rw [← List.mem_singleton.mp here]
            exact List.mem_map_of_mem member
      rcases induction written.2 campaign.2 directory.2 distinct.2 (index + 1) paths ids with
        ⟨after, validated, modes⟩
      refine ⟨after, ?_, ?_⟩
      · rw [List.map_cons, validateRuns, step]
        exact validated
      · rw [modes, seenWith, List.map_cons, List.append_assoc, List.singleton_append]

/-! ## The evidence -/

theorem HasObject.object?_eq {path : Path} {fields : JsonObject}
    (holds : HasObject files path fields) : (files.file path).bind File.object? = some fields := by
  rcases holds with ⟨file, found, _, json⟩
  rw [found, Option.bind_some, File.object?, json]
  rfl

theorem IsFilled.file_eq {path : Path} (filled : IsFilled files path) :
    ∃ file, files.file path = some file ∧ file.inode = inodeOf files path := by
  rcases filled with ⟨file, found, _⟩
  refine ⟨file, found, ?_⟩
  rw [inodeOf, found]
  rfl

private theorem artifactsOf_written {profiled : JsonObject}
    (written : WrittenRun files session item profile variant)
    (named : ∀ artifact ∈ profile.artifacts,
      get profiled artifact.1 = .string (item.runId ++ artifact.2))
    (directory : IsName item.benchmarkName.toList) :
    ∃ found, artifactsOf files (session.join (artifactPath item metadataSuffix)).parent profiled
        profile.mode = some found ∧
      found.map File.inode = profile.artifacts.map fun artifact =>
        inodeOf files (session.join (artifactPath item artifact.2)) := by
  have isMeta : IsName (item.runId ++ metadataSuffix) :=
    isName_file (by decide +kernel) directory.simple
  have file : ∀ artifact ∈ profile.artifacts, ∃ file,
      files.file ((session.join (artifactPath item metadataSuffix)).parent.join
        (item.runId ++ artifact.2)) = some file ∧
      file.inode = inodeOf files (session.join (artifactPath item artifact.2)) := by
    intro artifact listed
    have beside : (session.join (artifactPath item metadataSuffix)).parent.join
        (item.runId ++ artifact.2) = session.join (artifactPath item artifact.2) :=
      JsonFiles.parent_join_file session directory isMeta (isName_artifact directory listed)
    rw [beside]
    exact (written.artifacts artifact listed).file_eq
  cases profile with
  | stat =>
      have listed : ("artifact", "_perf_stat.csv".toList) ∈ Profile.stat.artifacts :=
        List.mem_cons_self
      rcases file _ listed with ⟨artifact, found, inode⟩
      refine ⟨[artifact], ?_, ?_⟩
      · rw [Profile.mode, artifactsOf, named _ listed]
        simp only [Json.string?, Fallible.bind_some, found]
        rfl
      · rw [List.map_cons, inode]
        rfl
  | record =>
      have data : ("perf_data", ".perf.data".toList) ∈ Profile.record.artifacts :=
        List.mem_cons_self
      have report : ("report", "_perf_report.txt".toList) ∈ Profile.record.artifacts :=
        List.mem_cons_of_mem _ List.mem_cons_self
      rcases file _ data with ⟨dataFile, dataFound, dataInode⟩
      rcases file _ report with ⟨reportFile, reportFound, reportInode⟩
      refine ⟨[dataFile, reportFile], ?_, ?_⟩
      · rw [Profile.mode, artifactsOf, named _ data, named _ report]
        simp only [Json.string?, Fallible.bind_some, dataFound, reportFound]
        rfl
      · rw [List.map_cons, List.map_cons, dataInode, reportInode]
        rfl

theorem evidenceOf_written (written : WrittenRun files session item profile variant)
    (directory : IsName item.benchmarkName.toList) :
    evidenceOf files session (.object (manifestEntry item).fields) =
      some (writtenEvidence files session item profile variant) := by
  rcases written.metadata with ⟨metadata, hasMetadata, documents⟩
  rcases documents.run with ⟨run, isRun, _, receiver⟩
  rcases documents.profile with ⟨profiled, isProfile, mode, named⟩
  rcases written.trace.file_eq with ⟨trace, traceFound, traceInode⟩
  rcases artifactsOf_written written named directory with ⟨found, artifactsFound, inodes⟩
  have isMode : (get profiled "mode").string?.bind Mode.ofText? = some profile.mode := by
    rw [mode]
    cases profile with
    | stat => rfl
    | record => rfl
  have metadataName : (get (manifestEntry item).fields "metadata").string? =
      some (artifactPath item metadataSuffix) := rfl
  have traceName : (get (manifestEntry item).fields "trace").string? =
      some (artifactPath item ".bin".toList) := rfl
  have runId : (get metadata "run_id").string? = some item.runId := by
    rw [documents.runId]
    rfl
  have its : (get run "receiver_variant").string? = some variant := by
    rw [receiver]
    rfl
  rw [evidenceOf]
  simp only [Json.object?, Fallible.bind_some, metadataName, traceName, hasMetadata.object?_eq,
    runId, isRun, traceFound, isProfile, isMode, artifactsFound, its]
  rw [writtenEvidence, List.map_cons, inodes, traceInode, List.map_cons, List.map_map]
  rfl

end

end NetLatencyLab.Harness
