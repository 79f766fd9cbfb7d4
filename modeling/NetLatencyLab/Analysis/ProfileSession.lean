import NetLatencyLab.Foundation.Fallible
import NetLatencyLab.Foundation.Grouping
import NetLatencyLab.Foundation.JsonFiles

/-! # Profile sessions

`validate_profile_session` of `profile_tools.py`. It counts the runs of each mode
over the whole session; the receivers and the names of the artifacts are not
compared between the runs. -/

namespace NetLatencyLab.ProfileSession

open Fallible (bind_eq_ok toOption_eq_some)
open Grouping (countOf counts_eq_iff)
open JsonFiles (JsonObject File FileSystem Json Path get)
open PythonText (Text)

inductive Mode
  | stat
  | record
deriving DecidableEq

def Mode.ofText? (text : Text) : Option Mode :=
  if text = "stat".toList then some .stat
  else if text = "record".toList then some .record
  else none

inductive ProfileError
  | valueError (message : Text)
  /-- `Unexpected profile mode for {run_id}: {mode!r}`. -/
  | unexpectedMode (runId : Text) (mode : Json)
  /-- A `TypeError`: the value cannot be looked up in a set. -/
  | unhashable (value : Json)

/-! ## Checks -/

def require (condition : Prop) [Decidable condition] (message : Text) : Except ProfileError Unit :=
  if condition then .ok () else .error (.valueError message)

def requireText (value : Json) (message : Text) : Except ProfileError Text :=
  match value.string? with
  | none => .error (.valueError message)
  | some text => if text = [] then .error (.valueError message) else .ok text

def requireObject (value : Json) (message : Text) : Except ProfileError JsonObject :=
  match value.object? with
  | none => .error (.valueError message)
  | some fields => .ok fields

def requirePid (value : Json) (message : Text) : Except ProfileError Int :=
  match value.integer? with
  | none => .error (.valueError message)
  | some pid => if pid ≤ 0 then .error (.valueError message) else .ok pid

/-- The file is returned for `readJsonObject`. -/
def requireNonempty (files : FileSystem) (path : Path) (description : Text) :
    Except ProfileError File :=
  let message := "Missing or empty ".toList ++ description ++ ": ".toList ++ path.text
  match files.file path with
  | none => .error (.valueError message)
  | some file => if file.size = 0 then .error (.valueError message) else .ok file

def readJsonObject (files : FileSystem) (path : Path) (description : Text) :
    Except ProfileError JsonObject := do
  let file ← requireNonempty files path description
  let malformed := "Malformed ".toList ++ description ++ ": ".toList ++ path.text ++ ": ".toList
  match file.json with
  | .error exception => .error (.valueError (malformed ++ exception))
  | .ok value => requireObject value (malformed ++ "expected a JSON object".toList)

/-- `mode not in {"stat", "record"}`. -/
def requireMode (runId : Text) : Json → Except ProfileError Mode
  | .string text =>
      match Mode.ofText? text with
      | some mode => .ok mode
      | none => .error (.unexpectedMode runId (.string text))
  | .array values => .error (.unhashable (.array values))
  | .object fields => .error (.unhashable (.object fields))
  | value => .error (.unexpectedMode runId value)

/-! ## `validate_profile_session` -/

def validateStatus (metadata : JsonObject) (runId : Text) : Except ProfileError Unit := do
  let invalid := "Profile run is invalid: ".toList ++ runId
  let validity ← requireObject (get metadata "validity") invalid
  require (get validity "valid").isTrue invalid
  let run ← requireObject (get metadata "run") ("Run is missing run metadata: ".toList ++ runId)
  require ((get run "campaign").string? = some "profile".toList)
    ("Run is not in the profile campaign: ".toList ++ runId)

def validateProcesses (metadata : JsonObject) (runId : Text) : Except ProfileError Unit := do
  let processes ← requireObject (get metadata "processes")
    ("Run is missing process metadata: ".toList ++ runId)
  let invalid := "Run has invalid receiver/profile-wrapper PIDs: ".toList ++ runId
  let receiverPid ← requirePid (get processes "receiver_pid") invalid
  let wrapperPid ← requirePid (get processes "profile_wrapper_pid") invalid
  require (receiverPid ≠ wrapperPid)
    ("Receiver and profile-wrapper PIDs alias in ".toList ++ runId)

def metadataSuffix : Text := "_meta.json".toList

def validateStats (files : FileSystem) (metadataPath : Path) (metadata : JsonObject) (runId : Text) :
    Except ProfileError Unit := do
  require (metadataSuffix <:+ metadataPath.name)
    ("Unexpected metadata filename: ".toList ++ metadataPath.text)
  let statsPath := metadataPath.withName
    (metadataPath.name.rdrop metadataSuffix.length ++ "_rx_stats.json".toList)
  let _ ← readJsonObject files statsPath ("receiver stats for ".toList ++ runId)
  let _ ← requireObject (get metadata "receiver_stats")
    ("Run metadata is missing receiver stats: ".toList ++ runId)

def validateArtifacts (files : FileSystem) (directory : Path) (profile : JsonObject) (runId : Text) :
    Mode → Except ProfileError Unit
  | .stat => do
      let artifact ← requireText (get profile "artifact")
        ("Stat run is missing its perf artifact: ".toList ++ runId)
      let _ ← requireNonempty files (directory.join artifact)
        ("perf stat artifact for ".toList ++ runId)
  | .record => do
      let perfData ← requireText (get profile "perf_data")
        ("Record run is missing its perf artifact: ".toList ++ runId)
      let report ← requireText (get profile "report")
        ("Record run is missing its perf report: ".toList ++ runId)
      let _ ← requireNonempty files (directory.join perfData)
        ("perf record artifact for ".toList ++ runId)
      let _ ← requireNonempty files (directory.join report)
        ("perf record report for ".toList ++ runId)

def validateProfile (files : FileSystem) (directory : Path) (metadata : JsonObject) (runId : Text) :
    Except ProfileError Mode := do
  let profile ← requireObject (get metadata "profile")
    ("Run is missing profile metadata: ".toList ++ runId)
  let mode ← requireMode runId (get profile "mode")
  validateArtifacts files directory profile runId mode
  pure mode

structure Seen where
  modes : List Mode := []
  runIds : List Text := []
  metadataPaths : List Path := []

def validateRun (files : FileSystem) (session : Path) (index : Nat) (runEntry : Json)
    (seen : Seen) : Except ProfileError Seen := do
  let run := "Run ".toList ++ (toString index).toList
  let withoutMetadata := run ++ " is missing manifest metadata".toList
  let runEntry ← requireObject runEntry withoutMetadata
  let metadataName ← requireText (get runEntry "metadata") withoutMetadata
  let traceName ← requireText (get runEntry "trace") (run ++ " is missing its trace path".toList)
  let metadataPath := session.join metadataName
  require (metadataPath ∉ seen.metadataPaths)
    ("Duplicate metadata path in manifest: ".toList ++ metadataName)
  let metadata ← readJsonObject files metadataPath "run metadata".toList
  let runId ← requireText (get metadata "run_id")
    ("Run metadata is missing run_id: ".toList ++ metadataPath.text)
  require (runId ∉ seen.runIds) ("Duplicate run_id: ".toList ++ runId)
  require ((get runEntry "run_id").string? = some runId)
    ("Manifest and metadata run_id disagree for ".toList ++ metadataPath.text)
  validateStatus metadata runId
  validateProcesses metadata runId
  let _ ← requireNonempty files (session.join traceName) ("trace for ".toList ++ runId)
  validateStats files metadataPath metadata runId
  let mode ← validateProfile files metadataPath.parent metadata runId
  pure
    { modes := seen.modes ++ [mode]
      runIds := seen.runIds ++ [runId]
      metadataPaths := seen.metadataPaths ++ [metadataPath] }

def validateRuns (files : FileSystem) (session : Path) : Nat → List Json → Seen →
    Except ProfileError Seen
  | _, [], seen => .ok seen
  | index, runEntry :: runs, seen => do
      let seen ← validateRun files session index runEntry seen
      validateRuns files session (index + 1) runs seen

def validateProfileSession (files : FileSystem) (session : Path) : Except ProfileError Path := do
  require (files.isDirectory session)
    ("Profile session is not a directory: ".toList ++ session.text)
  let manifest ← readJsonObject files (session.join "session_manifest.json".toList)
    "session manifest".toList
  let expected := "Expected exactly 12 profile runs, found ".toList
  match (get manifest "runs").array? with
  | none => .error (.valueError (expected ++ "missing".toList))
  | some runs => do
      require (runs.length = 12) (expected ++ (toString runs.length).toList)
      let seen ← validateRuns files session 1 runs {}
      let stats := seen.modes.count .stat
      let records := seen.modes.count .record
      require (stats = 9 ∧ records = 3)
        ("Expected 9 stat and 3 record runs, found ".toList ++ (toString stats).toList ++
          " stat and ".toList ++ (toString records).toList ++ " record".toList)
      pure (files.resolve session)

/-! ## What the checks leave -/

theorem require_eq_ok {condition : Prop} [Decidable condition] {message : Text} :
    require condition message = .ok () ↔ condition := by
  rw [require]
  split
  next holds => exact ⟨fun _ => holds, fun _ => rfl⟩
  next fails => exact ⟨nofun, fun holds => absurd holds fails⟩

theorem requireText_eq_ok {value : Json} {message text : Text}
    (accepted : requireText value message = .ok text) : value.string? = some text := by
  rw [requireText] at accepted
  split at accepted
  · cases accepted
  next other isText =>
    split at accepted
    · cases accepted
    · cases accepted
      exact isText

theorem requireObject_eq_ok {value : Json} {message : Text} {fields : JsonObject}
    (accepted : requireObject value message = .ok fields) : value.object? = some fields := by
  rw [requireObject] at accepted
  split at accepted
  · cases accepted
  next isObject =>
    cases accepted
    exact isObject

private theorem requireMode_eq_ok {runId : Text} {value : Json} {mode : Mode}
    (accepted : requireMode runId value = .ok mode) :
    value.string?.bind Mode.ofText? = some mode := by
  cases value with
  | string text =>
      rw [requireMode] at accepted
      split at accepted
      next isMode =>
        cases accepted
        exact isMode
      · cases accepted
  | _ => cases accepted

section

variable {files : FileSystem} {session : Path}

theorem requireNonempty_eq_ok {path : Path} {description : Text} {file : File}
    (accepted : requireNonempty files path description = .ok file) :
    files.file path = some file := by
  rw [requireNonempty] at accepted
  split at accepted
  · cases accepted
  next other found =>
    split at accepted
    · cases accepted
    · cases accepted
      exact found

theorem readJsonObject_eq_ok {path : Path} {description : Text} {fields : JsonObject}
    (accepted : readJsonObject files path description = .ok fields) :
    (files.file path).bind File.object? = some fields := by
  rw [readJsonObject, bind_eq_ok] at accepted
  rcases accepted with ⟨file, found, accepted⟩
  rw [requireNonempty_eq_ok found, Option.bind_some, File.object?]
  split at accepted
  · cases accepted
  next value isJson =>
    rw [isJson]
    exact requireObject_eq_ok accepted

/-! ## Evidence -/

/-- What an entry of the manifest stands for: a run with its files. -/
structure Evidence where
  runId : Text
  receiver : Option Text
  mode : Mode
  /-- The trace and the files of the profiler, by their inodes. -/
  files : List Nat
deriving DecidableEq

def artifactsOf (files : FileSystem) (directory : Path) (profile : JsonObject) :
    Mode → Option (List File)
  | .stat => do
      let artifact ← (get profile "artifact").string?
      let artifact ← files.file (directory.join artifact)
      pure [artifact]
  | .record => do
      let perfData ← (get profile "perf_data").string?
      let report ← (get profile "report").string?
      let perfData ← files.file (directory.join perfData)
      let report ← files.file (directory.join report)
      pure [perfData, report]

def evidenceOf (files : FileSystem) (session : Path) (runEntry : Json) : Option Evidence := do
  let runEntry ← runEntry.object?
  let metadataName ← (get runEntry "metadata").string?
  let traceName ← (get runEntry "trace").string?
  let metadata ← (files.file (session.join metadataName)).bind File.object?
  let runId ← (get metadata "run_id").string?
  let run ← (get metadata "run").object?
  let trace ← files.file (session.join traceName)
  let profile ← (get metadata "profile").object?
  let mode ← (get profile "mode").string?.bind Mode.ofText?
  let artifacts ← artifactsOf files (session.join metadataName).parent profile mode
  pure
    { runId := runId
      receiver := (get run "receiver_variant").string?
      mode := mode
      files := (trace :: artifacts).map File.inode }

/-- The runs that the manifest of a session lists. -/
def sessionEvidence (files : FileSystem) (session : Path) : Option (List Evidence) := do
  let manifest ← (files.file (session.join "session_manifest.json".toList)).bind File.object?
  let runs ← (get manifest "runs").array?
  runs.mapM (evidenceOf files session)

/-- The ends of the names that the harness gives the trace and the files of the
profiler. -/
def artifactSuffixes : List Text :=
  [".bin".toList, "_perf_stat.csv".toList, ".perf.data".toList, "_perf_report.txt".toList]

def artifactPaths (directory : Path) (profile : JsonObject) : Mode → Option (List Path)
  | .stat => do
      let artifact ← (get profile "artifact").string?
      pure [directory.join artifact]
  | .record => do
      let perfData ← (get profile "perf_data").string?
      let report ← (get profile "report").string?
      pure [directory.join perfData, directory.join report]

structure Naming where
  metadataPath : Path
  /-- The trace and the files of the profiler. -/
  paths : List Path
deriving DecidableEq

def namingOf (files : FileSystem) (session : Path) (runEntry : Json) : Option Naming := do
  let runEntry ← runEntry.object?
  let metadataName ← (get runEntry "metadata").string?
  let traceName ← (get runEntry "trace").string?
  let metadataPath := session.join metadataName
  let metadata ← (files.file metadataPath).bind File.object?
  let profile ← (get metadata "profile").object?
  let mode ← (get profile "mode").string?.bind Mode.ofText?
  let artifacts ← artifactPaths metadataPath.parent profile mode
  pure { metadataPath := metadataPath, paths := session.join traceName :: artifacts }

def sessionNamings (files : FileSystem) (session : Path) : Option (List Naming) := do
  let manifest ← (files.file (session.join "session_manifest.json".toList)).bind File.object?
  let runs ← (get manifest "runs").array?
  runs.mapM (namingOf files session)

def beside (metadataPath : Path) (suffix : Text) : Path :=
  metadataPath.withName (metadataPath.name.rdrop metadataSuffix.length ++ suffix)

private theorem exists_run_of_validateStatus {metadata : JsonObject} {runId : Text}
    (accepted : validateStatus metadata runId = .ok ()) :
    ∃ run, (get metadata "run").object? = some run := by
  simp only [validateStatus, bind_eq_ok] at accepted
  rcases accepted with ⟨_, _, _, _, run, isObject, _⟩
  exact ⟨run, requireObject_eq_ok isObject⟩

private theorem named_of_validateStats {metadataPath : Path} {metadata : JsonObject} {runId : Text}
    (accepted : validateStats files metadataPath metadata runId = .ok ()) :
    metadataSuffix <:+ metadataPath.name := by
  simp only [validateStats, bind_eq_ok] at accepted
  rcases accepted with ⟨_, named, _⟩
  exact require_eq_ok.mp named

private theorem exists_artifacts_of_validateArtifacts {directory : Path} {profile : JsonObject}
    {runId : Text}
    {mode : Mode} (accepted : validateArtifacts files directory profile runId mode = .ok ()) :
    ∃ artifacts paths, artifactsOf files directory profile mode = some artifacts ∧
      artifactPaths directory profile mode = some paths ∧
      paths.map files.file = artifacts.map some := by
  cases mode with
  | stat =>
      simp only [validateArtifacts, bind_eq_ok] at accepted
      rcases accepted with ⟨artifact, named, file, found, _⟩
      refine ⟨[file], [directory.join artifact], ?_⟩
      simp [artifactsOf, artifactPaths, requireText_eq_ok named, requireNonempty_eq_ok found]
  | record =>
      simp only [validateArtifacts, bind_eq_ok] at accepted
      rcases accepted with ⟨perfData, dataNamed, report, reportNamed, dataFile, dataFound,
        reportFile, reportFound, _⟩
      refine ⟨[dataFile, reportFile], [directory.join perfData, directory.join report], ?_⟩
      simp [artifactsOf, artifactPaths, requireText_eq_ok dataNamed,
        requireText_eq_ok reportNamed, requireNonempty_eq_ok dataFound,
        requireNonempty_eq_ok reportFound]

private theorem exists_profile_of_validateProfile {directory : Path} {metadata : JsonObject}
    {runId : Text}
    {mode : Mode} (accepted : validateProfile files directory metadata runId = .ok mode) :
    ∃ profile artifacts paths, (get metadata "profile").object? = some profile ∧
      (get profile "mode").string?.bind Mode.ofText? = some mode ∧
      artifactsOf files directory profile mode = some artifacts ∧
      artifactPaths directory profile mode = some paths ∧
      paths.map files.file = artifacts.map some := by
  simp only [validateProfile, bind_eq_ok] at accepted
  rcases accepted with ⟨profile, isObject, _, isMode, _, artifacts, same⟩
  cases same
  rcases exists_artifacts_of_validateArtifacts artifacts with ⟨artifacts, paths, found⟩
  exact ⟨profile, artifacts, paths, requireObject_eq_ok isObject, requireMode_eq_ok isMode, found⟩

structure Checked (files : FileSystem) (session : Path) (runEntry : Json) (seen after : Seen)
    (evidence : Evidence) (naming : Naming) : Prop where
  reads : evidenceOf files session runEntry = some evidence
  names : namingOf files session runEntry = some naming
  inodes : naming.paths.map (fun path => (files.file path).map File.inode) = evidence.files.map some
  modes : after.modes = seen.modes ++ [evidence.mode]
  freshId : evidence.runId ∉ seen.runIds
  runIds : after.runIds = seen.runIds ++ [evidence.runId]
  named : metadataSuffix <:+ naming.metadataPath.name
  freshPath : naming.metadataPath ∉ seen.metadataPaths
  metadataPaths : after.metadataPaths = seen.metadataPaths ++ [naming.metadataPath]

private theorem exists_checked_of_validateRun {index : Nat} {runEntry : Json} {seen after : Seen}
    (accepted : validateRun files session index runEntry seen = .ok after) :
    ∃ evidence naming, Checked files session runEntry seen after evidence naming := by
  simp only [validateRun, bind_eq_ok] at accepted
  rcases accepted with ⟨entry, isEntry, metadataName, metadataNamed, traceName, traceNamed, _,
    freshPath, metadata, metadataRead, runId, identified, _, freshId, _, _, _, status, _, _, trace,
    traceFound, _, stats, mode, profiled, grown⟩
  rcases exists_run_of_validateStatus status with ⟨run, isRun⟩
  rcases exists_profile_of_validateProfile profiled with
    ⟨profile, artifacts, paths, isProfile, isMode, artifactsFound, pathsFound, found⟩
  cases grown
  refine ⟨⟨runId, (get run "receiver_variant").string?, mode,
    (trace :: artifacts).map File.inode⟩,
    ⟨session.join metadataName, session.join traceName :: paths⟩, ?_⟩
  constructor
  · rw [evidenceOf, requireObject_eq_ok isEntry, Fallible.bind_some,
      requireText_eq_ok metadataNamed, Fallible.bind_some, requireText_eq_ok traceNamed,
      Fallible.bind_some, readJsonObject_eq_ok metadataRead, Fallible.bind_some,
      requireText_eq_ok identified, Fallible.bind_some, isRun, Fallible.bind_some,
      requireNonempty_eq_ok traceFound, Fallible.bind_some, isProfile, Fallible.bind_some, isMode,
      Fallible.bind_some, artifactsFound]
    rfl
  · simp only [namingOf, requireObject_eq_ok isEntry, Fallible.bind_some,
      requireText_eq_ok metadataNamed, requireText_eq_ok traceNamed,
      readJsonObject_eq_ok metadataRead, isProfile, isMode, pathsFound]
    rfl
  · have inodes := congrArg (List.map (Option.map File.inode)) found
    rw [List.map_map, List.map_map] at inodes
    rw [List.map_cons, requireNonempty_eq_ok traceFound, List.map_map, List.map_cons]
    exact congrArg _ inodes
  · rfl
  · exact require_eq_ok.mp freshId
  · rfl
  · exact named_of_validateStats stats
  · exact require_eq_ok.mp freshPath
  · rfl

structure CheckedRuns (files : FileSystem) (session : Path) (runs : List Json)
    (seen after : Seen) (evidences : List Evidence) (namings : List Naming) : Prop where
  reads : runs.mapM (evidenceOf files session) = some evidences
  names : runs.mapM (namingOf files session) = some namings
  inodes : (namings.map fun naming => naming.paths.map fun path =>
      (files.file path).map File.inode) =
    evidences.map fun evidence => evidence.files.map some
  modes : after.modes = seen.modes ++ evidences.map Evidence.mode
  runIds : after.runIds = seen.runIds ++ evidences.map Evidence.runId
  distinctIds : seen.runIds.Nodup → after.runIds.Nodup
  named : ∀ naming ∈ namings, metadataSuffix <:+ naming.metadataPath.name
  metadataPaths : after.metadataPaths = seen.metadataPaths ++ namings.map Naming.metadataPath
  distinctPaths : seen.metadataPaths.Nodup → after.metadataPaths.Nodup

private theorem exists_checked_of_validateRuns {index : Nat} {runs : List Json} {seen after : Seen}
    (accepted : validateRuns files session index runs seen = .ok after) :
    ∃ evidences namings, CheckedRuns files session runs seen after evidences namings := by
  induction runs generalizing index seen with
  | nil =>
      cases accepted
      exact ⟨[], [], rfl, rfl, rfl, (List.append_nil _).symm, (List.append_nil _).symm, id,
        nofun, (List.append_nil _).symm, id⟩
  | cons runEntry runs induction =>
      rw [validateRuns, bind_eq_ok] at accepted
      rcases accepted with ⟨between, first, later⟩
      rcases exists_checked_of_validateRun first with ⟨evidence, naming, here⟩
      rcases induction later with ⟨evidences, namings, there⟩
      refine ⟨evidence :: evidences, naming :: namings, ?_⟩
      constructor
      · simp [here.reads, there.reads]
      · simp [here.names, there.names]
      · rw [List.map_cons, List.map_cons, here.inodes, there.inodes]
      · rw [there.modes, here.modes, List.map_cons, List.append_assoc, List.singleton_append]
      · rw [there.runIds, here.runIds, List.map_cons, List.append_assoc, List.singleton_append]
      · intro before
        apply there.distinctIds
        rw [here.runIds, ← List.concat_eq_append]
        exact before.concat here.freshId
      · exact List.forall_mem_cons.mpr ⟨here.named, there.named⟩
      · rw [there.metadataPaths, here.metadataPaths, List.map_cons, List.append_assoc,
          List.singleton_append]
      · intro before
        apply there.distinctPaths
        rw [here.metadataPaths, ← List.concat_eq_append]
        exact before.concat here.freshPath

structure Accepted (evidences : List Evidence) : Prop where
  stats : (evidences.map Evidence.mode).count .stat = 9
  records : (evidences.map Evidence.mode).count .record = 3
  runIds : (evidences.map Evidence.runId).Nodup

structure AcceptedNames (files : FileSystem) (evidences : List Evidence)
    (namings : List Naming) : Prop where
  inodes : (namings.map fun naming => naming.paths.map fun path =>
      (files.file path).map File.inode) =
    evidences.map fun evidence => evidence.files.map some
  named : ∀ naming ∈ namings, metadataSuffix <:+ naming.metadataPath.name
  distinct : (namings.map Naming.metadataPath).Nodup

theorem exists_evidence_of_validateProfileSession {resolved : Path}
    (accepted : validateProfileSession files session = .ok resolved) :
    ∃ evidences namings, sessionEvidence files session = some evidences ∧
      sessionNamings files session = some namings ∧ Accepted evidences ∧
      AcceptedNames files evidences namings := by
  rw [validateProfileSession, bind_eq_ok] at accepted
  rcases accepted with ⟨_, _, accepted⟩
  rw [bind_eq_ok] at accepted
  rcases accepted with ⟨manifest, manifestRead, accepted⟩
  split at accepted
  · cases accepted
  next runs isList =>
    rw [bind_eq_ok] at accepted
    rcases accepted with ⟨_, _, accepted⟩
    rw [bind_eq_ok] at accepted
    rcases accepted with ⟨seen, validated, accepted⟩
    rw [bind_eq_ok] at accepted
    rcases accepted with ⟨_, counted, _⟩
    rcases exists_checked_of_validateRuns validated with ⟨evidences, namings, checked⟩
    have counts := require_eq_ok.mp counted
    have runIds := checked.distinctIds List.nodup_nil
    have metadataPaths := checked.distinctPaths List.nodup_nil
    rw [checked.modes] at counts
    rw [checked.runIds] at runIds
    rw [checked.metadataPaths] at metadataPaths
    refine ⟨evidences, namings, ?_, ?_, ⟨counts.1, counts.2, runIds⟩,
      ⟨checked.inodes, checked.named, metadataPaths⟩⟩
    · rw [sessionEvidence, readJsonObject_eq_ok manifestRead, Fallible.bind_some, isList,
        Fallible.bind_some]
      exact checked.reads
    · rw [sessionNamings, readJsonObject_eq_ok manifestRead, Fallible.bind_some, isList,
        Fallible.bind_some]
      exact checked.names

/-! ## Completeness -/

def receivers : List Text := ["baseline".toList, "batched".toList, "threaded".toList]

def Evidence.hasMode (mode : Mode) (evidence : Evidence) : Bool := evidence.mode = mode

/-- The runs of a receiver in a mode. -/
def runCount (evidences : List Evidence) (mode : Mode) (receiver : Text) : Nat :=
  countOf Evidence.receiver (Evidence.hasMode mode) evidences (some receiver)

/-- Three counting runs and one recording for each receiver, and every file of one run. -/
structure Complete (evidences : List Evidence) : Prop where
  runs : ∀ receiver ∈ receivers,
    runCount evidences .stat receiver = 3 ∧ runCount evidences .record receiver = 1
  files : evidences.Pairwise fun left right => List.Disjoint left.files right.files

/-- No receiver is unknown or has runs of another. -/
def WithinShares (evidences : List Evidence) : Prop :=
  (∀ evidence ∈ evidences, evidence.receiver ∈ receivers.map some) ∧
    ∀ receiver ∈ receivers,
      runCount evidences .stat receiver ≤ 3 ∧ runCount evidences .record receiver ≤ 1

/-- The trace and the profiler's files of every run are named after its metadata,
and no two of these names are links to one file. -/
structure OwnFiles (files : FileSystem) (namings : List Naming) : Prop where
  named : ∀ naming ∈ namings, ∀ path ∈ naming.paths,
    ∃ suffix ∈ artifactSuffixes, path = beside naming.metadataPath suffix
  unlinked : ∀ left ∈ namings.flatMap Naming.paths, ∀ right ∈ namings.flatMap Naming.paths,
    (files.file left).map File.inode = (files.file right).map File.inode → left = right

instance (evidences : List Evidence) : Decidable (WithinShares evidences) :=
  inferInstanceAs (Decidable (_ ∧ _))

theorem nodup_receivers : (receivers.map some).Nodup := by decide +kernel

theorem Accepted.countP_hasMode {evidences : List Evidence} (accepted : Accepted evidences) :
    evidences.countP (Evidence.hasMode .stat) = (receivers.map some).length * 3 ∧
      evidences.countP (Evidence.hasMode .record) = (receivers.map some).length * 1 := by
  have counted : ∀ mode, (evidences.map Evidence.mode).count mode =
      evidences.countP (Evidence.hasMode mode) := by
    intro mode
    rw [List.count, List.countP_map]
    rfl
  rw [← counted, ← counted]
  exact ⟨accepted.stats, accepted.records⟩

theorem Accepted.length_eq {evidences : List Evidence} (accepted : Accepted evidences) :
    evidences.length = 12 := by
  have totals := accepted.countP_hasMode
  have others : (evidences.countP fun evidence => ¬ evidence.hasMode .stat) =
      evidences.countP (Evidence.hasMode .record) := by
    apply List.countP_congr
    intro evidence _
    cases mode : evidence.mode with
    | stat => simp [Evidence.hasMode, mode]
    | record => simp [Evidence.hasMode, mode]
  rw [List.length_eq_countP_add_countP (Evidence.hasMode .stat), others, totals.1, totals.2]
  rfl

private theorem complete_runs_iff {evidences : List Evidence} (accepted : Accepted evidences) :
    (∀ receiver ∈ receivers,
      runCount evidences .stat receiver = 3 ∧ runCount evidences .record receiver = 1) ↔
        WithinShares evidences := by
  have totals := accepted.countP_hasMode
  have stats := counts_eq_iff nodup_receivers Evidence.receiver totals.1
  have records := counts_eq_iff nodup_receivers Evidence.receiver totals.2
  rw [List.forall_mem_map, List.forall_mem_map] at stats records
  rw [WithinShares, forall₂_and, forall₂_and]
  constructor
  · intro exactly
    rcases stats.mp exactly.1 with ⟨statKnown, statShares⟩
    rcases records.mp exactly.2 with ⟨recordKnown, recordShares⟩
    refine ⟨?_, statShares, recordShares⟩
    intro evidence member
    cases mode : evidence.mode with
    | stat => exact statKnown evidence member (decide_eq_true mode)
    | record => exact recordKnown evidence member (decide_eq_true mode)
  · intro shares
    exact ⟨stats.mpr ⟨fun evidence member _ => shares.1 evidence member, shares.2.1⟩,
      records.mpr ⟨fun evidence member _ => shares.1 evidence member, shares.2.2⟩⟩

theorem eq_of_suffix : ∀ left ∈ artifactSuffixes, ∀ right ∈ artifactSuffixes,
    left <:+ right → left = right := by
  decide +kernel

private theorem beside_inj {left right : Path} (leftNamed : metadataSuffix <:+ left.name)
    (rightNamed : metadataSuffix <:+ right.name) {first second : Text}
    (firstKnown : first ∈ artifactSuffixes) (secondKnown : second ∈ artifactSuffixes)
    (same : beside left first = beside right second) : left = right := by
  simp only [beside, JsonFiles.Path.withName, JsonFiles.Path.mk.injEq] at same
  rcases same with ⟨root, parts⟩
  rcases List.append_inj' parts rfl with ⟨directory, names⟩
  have names := List.singleton_inj.mp names
  have firstEnds := List.suffix_append (left.name.rdrop metadataSuffix.length) first
  have secondEnds := List.suffix_append (right.name.rdrop metadataSuffix.length) second
  rw [← names] at secondEnds
  have sameEnd : first = second := by
    cases List.suffix_or_suffix_of_suffix firstEnds secondEnds with
    | inl ends => exact eq_of_suffix first firstKnown second secondKnown ends
    | inr ends => exact (eq_of_suffix second secondKnown first firstKnown ends).symm
  rw [sameEnd] at names
  have stems := List.append_cancel_right names
  have whole : ∀ path : Path, metadataSuffix <:+ path.name →
      path.name = path.name.rdrop metadataSuffix.length ++ metadataSuffix ∧
        path.parts = path.parts.dropLast ++ [path.name] := by
    intro path named
    constructor
    · rcases named with ⟨stem, split⟩
      rw [← split, List.rdrop_append_length]
    · have occupied : path.parts ≠ [] := by
        intro empty
        rw [Path.name, empty] at named
        exact absurd (List.suffix_nil.mp named) (by decide +kernel)
      rw [Path.name, List.getLast?_eq_some_getLast occupied, Option.getD_some,
        List.dropLast_append_getLast occupied]
  have name : left.name = right.name := by
    rw [(whole left leftNamed).1, (whole right rightNamed).1, stems]
  have allParts : left.parts = right.parts := by
    rw [(whole left leftNamed).2, (whole right rightNamed).2, directory, name]
  cases left
  cases right
  simp only [JsonFiles.Path.mk.injEq]
  exact ⟨root, allParts⟩

private theorem disjoint_of_ownFiles {evidences : List Evidence} {namings : List Naming}
    (accepted : AcceptedNames files evidences namings) (own : OwnFiles files namings) :
    evidences.Pairwise fun left right => List.Disjoint left.files right.files := by
  have distinct := List.pairwise_map.mp accepted.distinct
  have apart : (namings.map fun naming => naming.paths.map fun path =>
      (files.file path).map File.inode).Pairwise List.Disjoint := by
    apply List.pairwise_map.mpr
    apply distinct.imp_of_mem
    intro left right leftMember rightMember different inode inLeft inRight
    rcases List.mem_map.mp inLeft with ⟨path, pathMember, isInode⟩
    rcases List.mem_map.mp inRight with ⟨other, otherMember, otherIsInode⟩
    have same := own.unlinked path (List.mem_flatMap.mpr ⟨left, leftMember, pathMember⟩) other
      (List.mem_flatMap.mpr ⟨right, rightMember, otherMember⟩) (isInode.trans otherIsInode.symm)
    rcases own.named left leftMember path pathMember with ⟨suffix, known, isPath⟩
    rcases own.named right rightMember other otherMember with ⟨otherSuffix, otherKnown, isOther⟩
    apply different
    apply beside_inj (accepted.named left leftMember) (accepted.named right rightMember) known
      otherKnown
    rw [← isPath, ← isOther, same]
  rw [accepted.inodes] at apart
  apply (List.pairwise_map.mp apart).imp
  intro left right disjoint inode inLeft inRight
  exact disjoint (List.mem_map_of_mem inLeft) (List.mem_map_of_mem inRight)

/-- In an accepted session the receivers have their runs exactly when none has more
than its share, and under their own names the runs share no file. -/
theorem complete_when {resolved : Path}
    (accepted : validateProfileSession files session = .ok resolved) :
    ∃ evidences namings, sessionEvidence files session = some evidences ∧
      sessionNamings files session = some namings ∧ evidences.length = 12 ∧
      (evidences.map Evidence.runId).Nodup ∧
      (Complete evidences → WithinShares evidences) ∧
      (OwnFiles files namings → (Complete evidences ↔ WithinShares evidences)) := by
  rcases exists_evidence_of_validateProfileSession accepted with
    ⟨evidences, namings, found, namesFound, counts, names⟩
  have runs := complete_runs_iff counts
  refine ⟨evidences, namings, found, namesFound, counts.length_eq, counts.runIds, ?_, ?_⟩
  · exact fun complete => runs.mp complete.runs
  · intro own
    exact ⟨fun complete => runs.mp complete.runs,
      fun shares => ⟨runs.mpr shares, disjoint_of_ownFiles names own⟩⟩

end

/-! ## Sessions as the harness writes them -/

structure SampleRun where
  letter : Char
  mode : Mode
  receiver : Text
  trace : Text

def SampleRun.profile (run : SampleRun) : JsonObject :=
  match run.mode with
  | .stat =>
      [("mode".toList, .string "stat".toList),
        ("artifact".toList, .string "r_perf_stat.csv".toList)]
  | .record =>
      [("mode".toList, .string "record".toList),
        ("perf_data".toList, .string "r.perf.data".toList),
        ("report".toList, .string "r_perf_report.txt".toList)]

def SampleRun.metadata (run : SampleRun) : JsonObject :=
  [("run_id".toList, .string [run.letter]),
    ("run".toList, .object [("campaign".toList, .string "profile".toList),
      ("receiver_variant".toList, .string run.receiver)]),
    ("validity".toList, .object [("valid".toList, .bool true)]),
    ("processes".toList, .object [("receiver_pid".toList, .integer 1000),
      ("profile_wrapper_pid".toList, .integer 1001)]),
    ("receiver_stats".toList, .object []),
    ("profile".toList, .object run.profile)]

def SampleRun.entry (run : SampleRun) : Json :=
  .object [("run_id".toList, .string [run.letter]),
    ("metadata".toList, .string (run.letter :: "/r_meta.json".toList)),
    ("trace".toList, .string run.trace)]

/-- The files beside a run, each with a number of its own. -/
def SampleRun.files (run : SampleRun) : List (Path × File) :=
  let inode := 10 * run.letter.toNat
  let other := fun name number => (Path.ofText (run.letter :: name),
    ({ inode := inode + number, size := 1, json := .error [] } : File))
  [(Path.ofText (run.letter :: "/r_meta.json".toList), ⟨inode, 1, .ok (.object run.metadata)⟩),
    (Path.ofText (run.letter :: "/r_rx_stats.json".toList), ⟨inode + 1, 1, .ok (.object [])⟩),
    other "/r.bin".toList 2, other "/r_perf_stat.csv".toList 3, other "/r.perf.data".toList 4,
    other "/r_perf_report.txt".toList 5]

def sampleSession (runs : List SampleRun) : FileSystem where
  isDirectory path := path = Path.ofText []
  file path :=
    ((Path.ofText "session_manifest.json".toList,
      ⟨0, 1, .ok (.object [("runs".toList, .array (runs.map SampleRun.entry))])⟩) ::
        runs.flatMap SampleRun.files).lookup path
  resolve := id

def sampleRun (receiver : Text) (trace : Text → Text) (number : Nat) : SampleRun :=
  let letter := Char.ofNat ('a'.toNat + number)
  { letter := letter
    mode := if number < 9 then .stat else .record
    receiver := receiver
    trace := trace [letter] }

def completeRuns : List SampleRun :=
  (List.range 12).map fun number =>
    sampleRun (receivers.getD (number % 3) []) (fun letter => letter ++ "/r.bin".toList) number

/-- The accepted session is complete. -/
theorem complete_session_accepted :
    ∃ evidences, sessionEvidence (sampleSession completeRuns) (Path.ofText []) = some evidences ∧
      Complete evidences := by
  have accepted : validateProfileSession (sampleSession completeRuns) (Path.ofText []) =
      .ok (Path.ofText []) := toOption_eq_some.mp (by decide +kernel)
  rcases complete_when accepted with ⟨evidences, namings, found, namesFound, _, _, _, complete⟩
  have same : evidences =
      (sessionEvidence (sampleSession completeRuns) (Path.ofText [])).getD [] := by rw [found]; rfl
  have sameNames : namings =
      (sessionNamings (sampleSession completeRuns) (Path.ofText [])).getD [] := by
    rw [namesFound]
    rfl
  have own : OwnFiles (sampleSession completeRuns) namings := by
    rw [sameNames]
    constructor
    · decide +kernel
    · decide +kernel
  refine ⟨evidences, found, (complete own).mpr ?_⟩
  rw [same]
  decide +kernel

/-- Twelve runs of one receiver that share the trace of the first. -/
def skewedRuns : List SampleRun :=
  (List.range 12).map (sampleRun "baseline".toList fun _ => "a/r.bin".toList)

theorem skewed_session_accepted :
    ∃ evidences,
      validateProfileSession (sampleSession skewedRuns) (Path.ofText []) = .ok (Path.ofText []) ∧
      sessionEvidence (sampleSession skewedRuns) (Path.ofText []) = some evidences ∧
      runCount evidences .stat "threaded".toList = 0 ∧
      ¬ evidences.Pairwise fun left right => List.Disjoint left.files right.files := by
  have accepted : validateProfileSession (sampleSession skewedRuns) (Path.ofText []) =
      .ok (Path.ofText []) := toOption_eq_some.mp (by decide +kernel)
  rcases exists_evidence_of_validateProfileSession accepted with ⟨evidences, _, found, _⟩
  have same : evidences =
      (sessionEvidence (sampleSession skewedRuns) (Path.ofText [])).getD [] := by rw [found]; rfl
  refine ⟨evidences, accepted, found, ?_, ?_⟩
  · rw [same]
    decide +kernel
  · intro apart
    have separate : evidences.Pairwise fun left right =>
        ∀ inode ∈ left.files, inode ∉ right.files :=
      apart.imp fun disjoint inode inLeft inRight => disjoint inLeft inRight
    rw [same] at separate
    revert separate
    decide +kernel

end NetLatencyLab.ProfileSession
