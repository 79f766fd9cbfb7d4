import NetLatencyLab.Foundation.Dictionary
import NetLatencyLab.Harness.ProfileCampaign
import NetLatencyLab.Harness.WrittenSession

/-! # The evidence of a profile campaign

A session of a prepared campaign whose runs are all valid is accepted and complete. -/

namespace NetLatencyLab.Harness

open Fallible (ok_bind)
open JsonFiles (File FileSystem IsName Json JsonObject Path get)
open ProfileSession (Complete Evidence Mode Seen evidenceOf metadataSuffix require_eq_ok runCount
  sessionEvidence)
open PythonText (Text)

/-! ## The runs of a profile campaign -/

def profileOf (config : Configuration) (item : RunTuple) : Profile :=
  (config.benchmarks[item.benchmarkIndex]?.bind BenchmarkSettings.profile).getD .stat

def variantOf (config : Configuration) (item : RunTuple) : Text :=
  (config.benchmarks[item.benchmarkIndex]?.map fun settings =>
    settings.receiver.binary.drop "receiver_".toList.length).getD []

/-- A session directory after the last run of a campaign. -/
structure WrittenSession (files : FileSystem) (session : Path) (config : Configuration)
    (items : List RunTuple) : Prop where
  directory : files.isDirectory session
  manifest : ∃ manifest,
    HasObject files (session.join "session_manifest.json".toList) manifest ∧
      get manifest "runs" = .array (items.map fun item => .object (manifestEntry item).fields)
  runs : ∀ item ∈ items,
    WrittenRun files session item (profileOf config item) (variantOf config item)
  /-- Nothing is linked to something else. -/
  apart : ∀ first ∈ items.flatMap (artifacts config.campaign),
    ∀ second ∈ items.flatMap (artifacts config.campaign),
      inodeOf files (session.join first) = inodeOf files (session.join second) → first = second

def nameProfile (name : Text) : Profile :=
  if Profile.stat.kind <+: name then .stat else .record

def nameReceiver (name : Text) : Text := name.drop (nameProfile name).kind.length

def profileNames : List (Text × Nat) :=
  ["baseline".toList, "batched".toList, "threaded".toList].flatMap fun receiver =>
    [(Profile.stat.kind ++ receiver, 1), (Profile.stat.kind ++ receiver, 2),
      (Profile.stat.kind ++ receiver, 3), (Profile.record.kind ++ receiver, 1)]

theorem nameProfile_kind (profile : Profile) (receiver : Text) :
    nameProfile (profile.kind ++ receiver) = profile := by
  cases profile with
  | stat => rw [nameProfile, if_pos (List.prefix_append _ _)]
  | record =>
      rw [nameProfile, if_neg]
      intro leads
      have shorter : Profile.stat.kind.length ≤ Profile.record.kind.length := by decide +kernel
      have nested := List.prefix_of_prefix_length_le leads (List.prefix_append _ receiver) shorter
      revert nested
      decide +kernel

private theorem nameReceiver_kind (profile : Profile) (receiver : Text) :
    nameReceiver (profile.kind ++ receiver) = receiver := by
  rw [nameReceiver, nameProfile_kind, List.drop_left]

private theorem profileRuns_names {selected : List ProfileTools.SustainableGroup}
    (receivers : selected.map ProfileTools.SustainableGroup.receiver =
      ["baseline", "batched", "threaded"]) (rate : Int) :
    (profileRuns rate selected).map (fun item => (item.benchmarkName.toList, item.repetition)) =
      profileNames := by
  have each : ∀ entry : ProfileTools.SustainableGroup × Nat,
      (profileTuples rate entry.2 entry.1).map
          (fun item => (item.benchmarkName.toList, item.repetition)) =
        [(Profile.stat.kind ++ entry.1.receiver.toList, 1),
          (Profile.stat.kind ++ entry.1.receiver.toList, 2),
          (Profile.stat.kind ++ entry.1.receiver.toList, 3),
          (Profile.record.kind ++ entry.1.receiver.toList, 1)] := by
    intro entry
    have stat : ("profile_stat_" ++ entry.1.receiver).toList =
        Profile.stat.kind ++ entry.1.receiver.toList := String.toList_append
    have record : ("profile_record_" ++ entry.1.receiver).toList =
        Profile.record.kind ++ entry.1.receiver.toList := String.toList_append
    rw [profileTuples, List.map_cons, List.map_cons, List.map_cons, List.map_cons, List.map_nil,
      stat, record]
  have names : profileNames = (selected.map ProfileTools.SustainableGroup.receiver).flatMap
      fun receiver => [(Profile.stat.kind ++ receiver.toList, 1),
        (Profile.stat.kind ++ receiver.toList, 2), (Profile.stat.kind ++ receiver.toList, 3),
        (Profile.record.kind ++ receiver.toList, 1)] := by
    rw [receivers]
    rfl
  rw [profileRuns, List.map_flatMap, names, List.flatMap_map]
  simp only [each]
  conv_rhs => rw [← List.zipIdx_map_fst 0 selected]
  rw [List.flatMap_map]

section

variable {config : Configuration} {shuffle : List RunTuple → List RunTuple}
  {selected : List ProfileTools.SustainableGroup} {planned : ProfilePlan}

theorem profile_of_planned (shuffles : ∀ items, (shuffle items).Perm items)
    (profiles : Profiles shuffle selected config planned) {item : RunTuple}
    (member : item ∈ plan shuffle config.campaign) :
    profileOf config item = nameProfile item.benchmarkName.toList ∧
      variantOf config item = nameReceiver item.benchmarkName.toList ∧
      item.campaign = "profile" ∧
      ∃ benchmark, config.campaign.benchmarks[item.benchmarkIndex]? = some benchmark ∧
        benchmark.profile = some (profileOf config item) := by
  rcases benchmark_of_planned shuffles member with ⟨settings, its, _, listed, name, campaign⟩
  rcases profiles.receivers settings (List.mem_of_getElem? its) with ⟨row, _, profile, receiver⟩
  have same : profileOf config item = profile := by
    rw [profileOf, its, Option.bind_some, receiver.profile, Option.getD_some]
  have variant : variantOf config item = row.receiver.toList := by
    rw [variantOf, its, Option.map_some, Option.getD_some, receiver.binary, List.drop_left]
  rw [same, variant, name, receiver.name, nameProfile_kind, nameReceiver_kind]
  refine ⟨rfl, rfl, ?_, _, listed, receiver.profile⟩
  rw [campaign, receiver.campaign]
  rfl

theorem isName_of_planned (valid : config.Valid) (shuffles : ∀ items, (shuffle items).Perm items)
    {item : RunTuple} (member : item ∈ plan shuffle config.campaign) :
    IsName item.benchmarkName.toList := by
  rcases benchmark_of_planned shuffles member with ⟨settings, its, enabled, _, name, _⟩
  have identifier := (valid.benchmarks settings (List.mem_of_getElem? its) enabled).name
  simp only [isIdentifier, decide_eq_true_eq, List.all_eq_true] at identifier
  rw [name]
  refine ⟨identifier.1, ?_, ?_⟩
  · intro dot
    rw [dot] at identifier
    cases identifier.2 '.' List.mem_cons_self
  · intro slash
    cases identifier.2 '/' slash

theorem planned_names (profiles : Profiles shuffle selected config planned)
    (receivers : selected.map ProfileTools.SustainableGroup.receiver =
      ["baseline", "batched", "threaded"]) :
    ((plan shuffle config.campaign).map fun item =>
      (item.benchmarkName.toList, item.repetition)).Perm profileNames := by
  rw [← profileRuns_names receivers planned.profileRatePps]
  exact profiles.runs.map _

theorem planned_nodup (profiles : Profiles shuffle selected config planned)
    (receivers : selected.map ProfileTools.SustainableGroup.receiver =
      ["baseline", "batched", "threaded"]) : (plan shuffle config.campaign).Nodup := by
  have names : profileNames.Nodup := by decide +kernel
  exact ((planned_names profiles receivers).nodup_iff.mpr names).of_map

theorem countP_planned (profiles : Profiles shuffle selected config planned)
    (receivers : selected.map ProfileTools.SustainableGroup.receiver =
      ["baseline", "batched", "threaded"]) (test : Text → Bool) :
    (plan shuffle config.campaign).countP (fun item => test item.benchmarkName.toList) =
      profileNames.countP fun entry => test entry.1 := by
  rw [← (planned_names profiles receivers).countP_eq, List.countP_map]
  rfl

theorem artifactPath_mem_artifacts (shuffles : ∀ items, (shuffle items).Perm items)
    (profiles : Profiles shuffle selected config planned) {item : RunTuple}
    (member : item ∈ plan shuffle config.campaign) {suffix : Text}
    (listed : suffix ∈ ".bin".toList :: (profileOf config item).artifacts.map Prod.snd) :
    artifactPath item suffix ∈ artifacts config.campaign item := by
  rcases profile_of_planned shuffles profiles member with ⟨_, _, _, benchmark, its, profile⟩
  rw [artifacts, its]
  apply List.mem_map_of_mem
  rw [artifactSuffixes, profile]
  cases List.mem_cons.mp listed with
  | inl trace =>
      rw [trace]
      exact List.mem_append_left _ (List.mem_append_left _ (List.mem_append_left _
        List.mem_cons_self))
  | inr artifact =>
      apply List.mem_append_left
      apply List.mem_append_right
      revert artifact
      generalize profileOf config item = profile
      intro artifact
      cases profile with
      | stat => exact artifact
      | record =>
          cases List.mem_cons.mp artifact with
          | inl data => exact List.mem_cons_of_mem _ (List.mem_singleton.mpr data)
          | inr report => exact List.mem_singleton.mp report ▸ List.mem_cons_self

/-! ## The session -/

/-- The evidence of the runs, by the names of their benchmarks. -/
def evidences (files : FileSystem) (session : Path) (config : Configuration)
    (items : List RunTuple) : List Evidence :=
  items.map fun item =>
    writtenEvidence files session item (profileOf config item) (variantOf config item)

variable {files : FileSystem} {session : Path}

theorem runCount_evidences (shuffles : ∀ items, (shuffle items).Perm items)
    (profiles : Profiles shuffle selected config planned)
    (receivers : selected.map ProfileTools.SustainableGroup.receiver =
      ["baseline", "batched", "threaded"]) (mode : Mode) (receiver : Text) :
    runCount (evidences files session config (plan shuffle config.campaign)) mode receiver =
      profileNames.countP fun entry =>
        decide ((nameProfile entry.1).mode = mode) && decide (nameReceiver entry.1 = receiver) := by
  rw [runCount, Grouping.countOf, evidences, List.countP_map,
    ← countP_planned profiles receivers fun name =>
      decide ((nameProfile name).mode = mode) && decide (nameReceiver name = receiver)]
  apply List.countP_congr
  intro item member
  rcases profile_of_planned shuffles profiles member with ⟨profile, variant, _, _⟩
  simp [writtenEvidence, Evidence.hasMode, profile, variant]

private theorem files_disjoint (accepted : validateConfig config = .ok ())
    (shuffles : ∀ items, (shuffle items).Perm items)
    (profiles : Profiles shuffle selected config planned)
    (written : WrittenSession files session config (plan shuffle config.campaign))
    {first second : RunTuple} (planned : first ∈ plan shuffle config.campaign)
    (alsoPlanned : second ∈ plan shuffle config.campaign) (different : first ≠ second) :
    List.Disjoint
      (writtenEvidence files session first (profileOf config first) (variantOf config first)).files
      (writtenEvidence files session second (profileOf config second)
        (variantOf config second)).files := by
  have separate := (separate_iff (validateConfig_valid accepted) shuffles planned
    alsoPlanned).mpr different
  intro inode its others
  rcases List.mem_map.mp its with ⟨suffix, listed, same⟩
  rcases List.mem_map.mp others with ⟨other, otherListed, otherSame⟩
  have mine := artifactPath_mem_artifacts shuffles profiles planned listed
  have yours := artifactPath_mem_artifacts shuffles profiles alsoPlanned otherListed
  have path := written.apart _ (List.mem_flatMap.mpr ⟨first, planned, mine⟩) _
    (List.mem_flatMap.mpr ⟨second, alsoPlanned, yours⟩) (same.trans otherSame.symm)
  rw [← path] at yours
  exact separate.artifacts mine yours

private theorem validateProfileSession_written (accepted : validateConfig config = .ok ())
    (shuffles : ∀ items, (shuffle items).Perm items)
    (profiles : Profiles shuffle selected config planned)
    (receivers : selected.map ProfileTools.SustainableGroup.receiver =
      ["baseline", "batched", "threaded"])
    (written : WrittenSession files session config (plan shuffle config.campaign)) :
    ProfileSession.validateProfileSession files session = .ok (files.resolve session) := by
  have valid := validateConfig_valid accepted
  rcases written.manifest with ⟨manifest, holds, lists⟩
  have nodup := planned_nodup profiles receivers
  have ids : ((plan shuffle config.campaign).map RunTuple.runId).Nodup := by
    apply nodup.map_on
    intro first planned second alsoPlanned same
    exact eq_of_runId valid shuffles planned alsoPlanned same
  have campaign : ∀ item ∈ plan shuffle config.campaign, item.campaign = "profile" :=
    fun item member => (profile_of_planned shuffles profiles member).2.2.1
  have directory : ∀ item ∈ plan shuffle config.campaign, IsName item.benchmarkName.toList :=
    fun item member => isName_of_planned valid shuffles member
  have counted : ∀ mode, ((plan shuffle config.campaign).map fun item =>
      (profileOf config item).mode).count mode =
        profileNames.countP fun entry => decide ((nameProfile entry.1).mode = mode) := by
    intro mode
    rw [← countP_planned profiles receivers fun name => decide ((nameProfile name).mode = mode),
      List.count, List.countP_map]
    apply List.countP_congr
    intro item member
    rw [(profile_of_planned shuffles profiles member).1.symm]
    simp
  have length : (plan shuffle config.campaign).length = 12 := by
    have names := (planned_names profiles receivers).length_eq
    rw [List.length_map] at names
    exact names
  have noPath : ∀ item ∈ plan shuffle config.campaign,
      session.join (artifactPath item metadataSuffix) ∉ ({} : Seen).metadataPaths :=
    fun _ _ => List.not_mem_nil
  have noId : ∀ item ∈ plan shuffle config.campaign, item.runId ∉ ({} : Seen).runIds :=
    fun _ _ => List.not_mem_nil
  rcases validateRuns_written written.runs campaign directory ids 1 noPath noId with
    ⟨after, validated, modes⟩
  have total : after.modes = (plan shuffle config.campaign).map fun item =>
      (profileOf config item).mode := modes
  have counts : after.modes.count .stat = 9 ∧ after.modes.count .record = 3 := by
    rw [total, counted, counted]
    decide +kernel
  have directoryFound : ∀ message, ProfileSession.require (files.isDirectory session) message =
      .ok () := fun message => require_eq_ok.mpr written.directory
  have twelve : ∀ message, ProfileSession.require
      (((plan shuffle config.campaign).map fun item =>
        Json.object (manifestEntry item).fields).length = 12) message = .ok () := by
    intro message
    rw [require_eq_ok, List.length_map, length]
  rw [ProfileSession.validateProfileSession, directoryFound, ok_bind, holds.read, ok_bind, lists]
  simp only [Json.array?, twelve, ok_bind, validated, require_eq_ok.mpr counts]
  rfl

/-- When the representatives of measured runs are profiled and every run of the campaign is
valid, the session is accepted, with three counting runs and one recording for each
receiver, each with files of its own. The records of valid runs are such documents as the
session has. -/
theorem profile_session_is_complete (float : Text → Option CommandLine.Double)
    (repr : CommandLine.Double → Text) {measured source : Configuration}
    (accepted : validateConfig measured = .ok ()) (based : validateConfig source = .ok ())
    {perRun : PerRun} (rows : ∀ run ∈ perRun.rows, Measured measured run) {campaign : String}
    {workNs : Option Int} {sourcePath : String}
    (prepared : prepareProfileConfig float repr perRun (some source.globalConfig) sourcePath
      campaign workNs = .ok (config, planned))
    (runs : validateConfig config = .ok ()) (shuffles : ∀ items, (shuffle items).Perm items)
    (written : WrittenSession files session config (plan shuffle config.campaign)) :
    ProfileSession.validateProfileSession files session = .ok (files.resolve session) ∧
      sessionEvidence files session =
        some (evidences files session config (plan shuffle config.campaign)) ∧
      Complete (evidences files session config (plan shuffle config.campaign)) ∧
      ∀ (toDouble : Text → Option CommandLine.Double) (item : RunTuple)
        (settings : BenchmarkSettings) (sender receiver : JsonObject)
        (counters : List (String × Counters.Delta)) (states : NodeStates) (record : RunRecord),
        runRecord toDouble config.globalConfig item settings sender receiver counters states =
          some record →
        record.metadata.validity.bind GenerateSummary.Validity.valid = some true →
        ∀ (profile : Profile) (receiverPid wrapperPid : Int), 0 < receiverPid → 0 < wrapperPid →
          receiverPid ≠ wrapperPid →
          ∃ variant, (receiver.lookup "variant".toList).bind Json.string? = some variant ∧
            Documents item profile variant
              (record.fields item profile receiver receiverPid wrapperPid) := by
  have selects := selects_of_prepared prepared
  rcases described_of_selected accepted rows selects with ⟨receivers, described⟩
  have profiles : Profiles shuffle planned.selected config planned := by
    rcases exists_preparation float repr based selects receivers described sourcePath shuffles with
      ⟨other, otherPlanned, made, profiles⟩
    have same := Except.ok.inj (made.symm.trans prepared)
    cases same
    exact profiles
  refine ⟨validateProfileSession_written runs shuffles profiles receivers written, ?_, ⟨?_, ?_⟩,
    fun _ _ _ _ _ _ _ _ made valid profile _ _ running wrapped apart =>
      documents_of_runRecord made valid profile running wrapped apart⟩
  · rcases written.manifest with ⟨manifest, holds, lists⟩
    have each : ∀ item ∈ plan shuffle config.campaign,
        evidenceOf files session (.object (manifestEntry item).fields) =
          pure (writtenEvidence files session item (profileOf config item)
            (variantOf config item)) := by
      intro item member
      exact evidenceOf_written (written.runs item member)
        (isName_of_planned (validateConfig_valid runs) shuffles member)
    rw [sessionEvidence, holds.object?_eq, Fallible.bind_some, lists]
    exact Fallible.mapM_map_pure each
  · intro receiver known
    rw [runCount_evidences shuffles profiles receivers,
      runCount_evidences shuffles profiles receivers]
    revert receiver
    decide +kernel
  · rw [evidences, List.pairwise_map]
    apply (planned_nodup profiles receivers).imp_of_mem
    intro first second mine yours different
    exact files_disjoint runs shuffles profiles written mine yours different

end

/-! ## A session of a campaign -/

def campaignMetadata (config : Configuration) (item : RunTuple) : JsonObject :=
  metadataFields item.runId item.campaign.toList (variantOf config item) 1001 1000 [] true
    (profileFields item (profileOf config item))

private theorem campaignMetadata_documents (config : Configuration) (item : RunTuple) :
    Documents item (profileOf config item) (variantOf config item) (campaignMetadata config item) :=
  documents_metadataFields item _ _ (by decide) (by decide) (by decide) []

def campaignContents (config : Configuration) (items : List RunTuple) : List (Text × Json) :=
  items.flatMap fun item => (artifacts config.campaign item).map fun path =>
    (path, .object (if path = artifactPath item metadataSuffix then campaignMetadata config item
      else []))

def campaignManifest (items : List RunTuple) : JsonObject :=
  [("runs".toList, .array (items.map fun item => .object (manifestEntry item).fields))]

def campaignFiles (session : Path) (config : Configuration) (items : List RunTuple) : FileSystem where
  isDirectory path := path = session
  file path :=
    if path = session.join "session_manifest.json".toList then
      some ⟨0, 1, .ok (.object (campaignManifest items))⟩
    else
      ((campaignContents config items).zipIdx.map fun entry =>
        (session.join entry.1.1, (⟨entry.2 + 1, 1, .ok entry.1.2⟩ : File))).lookup path
  resolve := id

section

variable {config : Configuration} {shuffle : List RunTuple → List RunTuple} (session : Path)

private theorem isName_suffix {benchmark : Benchmark} {item : RunTuple} {suffix : Text}
    (member : suffix ∈ artifactSuffixes benchmark) (directory : IsName item.benchmarkName.toList) :
    IsName (item.runId ++ suffix) := by
  apply isName_file _ directory.simple
  revert suffix
  rw [artifactSuffixes]
  cases benchmark.pacingTrace with
  | false =>
      rcases benchmark.profile with _ | _ | _
      · decide +kernel
      · decide +kernel
      · decide +kernel
  | true =>
      rcases benchmark.profile with _ | _ | _
      · decide +kernel
      · decide +kernel
      · decide +kernel

private theorem artifactSuffixes_nodup (benchmark : Benchmark) :
    (artifactSuffixes benchmark).Nodup := by
  rw [artifactSuffixes]
  cases benchmark.pacingTrace with
  | false =>
      rcases benchmark.profile with _ | _ | _
      · decide +kernel
      · decide +kernel
      · decide +kernel
  | true =>
      rcases benchmark.profile with _ | _ | _
      · decide +kernel
      · decide +kernel
      · decide +kernel

theorem join_artifact (valid : config.Valid) (shuffles : ∀ items, (shuffle items).Perm items)
    {item : RunTuple} (planned : item ∈ plan shuffle config.campaign) {path : Text}
    (listed : path ∈ artifacts config.campaign item) :
    ∃ directory name, path = directory ++ '/' :: name ∧
      session.join path = { session with parts := session.parts ++ [directory, name] } := by
  rcases artifacts_of_planned shuffles planned with ⟨benchmark, files⟩
  rw [files] at listed
  rcases List.mem_map.mp listed with ⟨suffix, member, same⟩
  have directory := isName_of_planned valid shuffles planned
  refine ⟨item.benchmarkName.toList, item.runId ++ suffix, same.symm, ?_⟩
  rw [← same]
  exact JsonFiles.join_file session directory (isName_suffix member directory)

private theorem artifacts_nodup (valid : config.Valid)
    (shuffles : ∀ items, (shuffle items).Perm items)
    (nodup : (plan shuffle config.campaign).Nodup) :
    (((plan shuffle config.campaign).flatMap (artifacts config.campaign)).map
      session.join).Nodup := by
  have texts : ((plan shuffle config.campaign).flatMap (artifacts config.campaign)).Nodup := by
    rw [List.nodup_flatMap]
    constructor
    · intro item planned
      rcases artifacts_of_planned shuffles planned with ⟨benchmark, files⟩
      rw [files]
      apply (artifactSuffixes_nodup benchmark).map
      intro first second same
      have names := List.append_cancel_left same
      exact List.append_cancel_left (List.cons.inj names).2
    · apply nodup.imp_of_mem
      intro first second planned alsoPlanned different
      exact ((separate_iff valid shuffles planned alsoPlanned).mpr different).artifacts
  apply texts.map_on
  intro first its second others same
  rcases List.mem_flatMap.mp its with ⟨item, planned, listed⟩
  rcases List.mem_flatMap.mp others with ⟨other, alsoPlanned, otherListed⟩
  rcases join_artifact session valid shuffles planned listed with ⟨directory, name, text, path⟩
  rcases join_artifact session valid shuffles alsoPlanned otherListed with
    ⟨otherDirectory, otherName, otherText, otherPath⟩
  rw [path, otherPath] at same
  have parts := List.append_cancel_left (JsonFiles.Path.mk.inj same).2
  simp only [List.cons.injEq] at parts
  rw [text, otherText, parts.1, parts.2.1]

theorem exists_campaignFile (valid : config.Valid)
    (shuffles : ∀ items, (shuffle items).Perm items) (nodup : (plan shuffle config.campaign).Nodup)
    {item : RunTuple} (planned : item ∈ plan shuffle config.campaign) {path : Text}
    (listed : path ∈ artifacts config.campaign item) :
    ∃ index : Nat,
      ((plan shuffle config.campaign).flatMap (artifacts config.campaign))[index]? = some path ∧
      (campaignFiles session config (plan shuffle config.campaign)).file (session.join path) =
        some ⟨index + 1, 1, .ok (.object (if path = artifactPath item metadataSuffix then
          campaignMetadata config item else []))⟩ := by
  let items := plan shuffle config.campaign
  have member : (path, Json.object (if path = artifactPath item metadataSuffix then
      campaignMetadata config item else [])) ∈ campaignContents config items :=
    List.mem_flatMap.mpr ⟨item, planned, List.mem_map.mpr ⟨path, listed, rfl⟩⟩
  rcases List.mem_iff_getElem?.mp member with ⟨index, found⟩
  have names : (campaignContents config items).map Prod.fst =
      items.flatMap (artifacts config.campaign) := by
    rw [campaignContents, List.map_flatMap]
    simp only [List.map_map, Function.comp_def, List.map_id']
  refine ⟨index, ?_, ?_⟩
  · rw [← names, List.getElem?_map, found]
    rfl
  · have other : session.join path ≠ session.join "session_manifest.json".toList := by
      rcases join_artifact session valid shuffles planned listed with ⟨_, _, _, joined⟩
      have manifest : IsName "session_manifest.json".toList :=
        ⟨by decide +kernel, by decide +kernel, by decide +kernel⟩
      rw [joined, JsonFiles.join_name session manifest]
      intro same
      have lengths := congrArg List.length (JsonFiles.Path.mk.inj same).2
      simp only [List.length_append, List.length_cons, List.length_nil] at lengths
      omega
    have keys : (((campaignContents config items).zipIdx.map fun entry =>
        (session.join entry.1.1, (⟨entry.2 + 1, 1, .ok entry.1.2⟩ : File))).map Prod.fst).Nodup := by
      have joined := artifacts_nodup session valid shuffles nodup
      have same : ((campaignContents config items).zipIdx.map fun entry =>
          (session.join entry.1.1, (⟨entry.2 + 1, 1, .ok entry.1.2⟩ : File))).map Prod.fst =
            (items.flatMap (artifacts config.campaign)).map session.join := by
        rw [← names, List.map_map, List.map_map]
        conv_rhs => rw [← List.zipIdx_map_fst 0 (campaignContents config items)]
        rw [List.map_map]
        rfl
      rw [same]
      exact joined
    rw [campaignFiles]
    simp only [if_neg other]
    apply Dictionary.lookup_of_mem keys
    exact List.mem_map.mpr ⟨(_, index), List.mem_zipIdx_iff_getElem?.mpr found, rfl⟩

theorem inodeOf_campaignFiles (valid : config.Valid)
    (shuffles : ∀ items, (shuffle items).Perm items) (nodup : (plan shuffle config.campaign).Nodup)
    {path : Text}
    (listed : path ∈ (plan shuffle config.campaign).flatMap (artifacts config.campaign)) :
    ∃ index : Nat,
      ((plan shuffle config.campaign).flatMap (artifacts config.campaign))[index]? = some path ∧
      inodeOf (campaignFiles session config (plan shuffle config.campaign)) (session.join path) =
        index + 1 := by
  rcases List.mem_flatMap.mp listed with ⟨item, planned, inside⟩
  rcases exists_campaignFile session valid shuffles nodup planned inside with ⟨index, its, found⟩
  refine ⟨index, its, ?_⟩
  rw [inodeOf, found]
  rfl

private theorem artifacts_of_suffixes (shuffles : ∀ items, (shuffle items).Perm items)
    {item : RunTuple} (planned : item ∈ plan shuffle config.campaign) :
    artifactPath item "_rx_stats.json".toList ∈ artifacts config.campaign item ∧
      artifactPath item metadataSuffix ∈ artifacts config.campaign item := by
  rcases artifacts_of_planned shuffles planned with ⟨benchmark, files⟩
  rw [files]
  constructor
  · apply List.mem_map_of_mem
    exact List.mem_append_left _ (List.mem_append_left _ (List.mem_append_left _
      (List.mem_cons_of_mem _ List.mem_cons_self)))
  · apply List.mem_map_of_mem
    exact List.mem_append_right _ (List.mem_singleton.mpr rfl)

private theorem writtenSession_campaignFiles {selected : List ProfileTools.SustainableGroup}
    {planned : ProfilePlan} (accepted : validateConfig config = .ok ())
    (shuffles : ∀ items, (shuffle items).Perm items)
    (profiles : Profiles shuffle selected config planned)
    (receivers : selected.map ProfileTools.SustainableGroup.receiver =
      ["baseline", "batched", "threaded"]) :
    WrittenSession (campaignFiles session config (plan shuffle config.campaign)) session config
      (plan shuffle config.campaign) := by
  have valid := validateConfig_valid accepted
  have nodup := planned_nodup profiles receivers
  have filled : ∀ item ∈ plan shuffle config.campaign, ∀ path ∈ artifacts config.campaign item,
      HasObject (campaignFiles session config (plan shuffle config.campaign)) (session.join path)
        (if path = artifactPath item metadataSuffix then campaignMetadata config item else []) := by
    intro item member path listed
    rcases exists_campaignFile session valid shuffles nodup member listed with ⟨index, _, found⟩
    exact ⟨_, found, Nat.one_ne_zero, rfl⟩
  have occupied : ∀ item ∈ plan shuffle config.campaign, ∀ suffix,
      suffix ∈ ".bin".toList :: (profileOf config item).artifacts.map Prod.snd →
        IsFilled (campaignFiles session config (plan shuffle config.campaign))
          (session.join (artifactPath item suffix)) := by
    intro item member suffix listed
    rcases filled item member _ (artifactPath_mem_artifacts shuffles profiles member listed) with
      ⟨file, found, size, _⟩
    exact ⟨file, found, size⟩
  refine ⟨decide_eq_true rfl, ⟨campaignManifest (plan shuffle config.campaign), ?_, rfl⟩, ?_, ?_⟩
  · exact ⟨_, if_pos rfl, Nat.one_ne_zero, rfl⟩
  · intro item member
    rcases artifacts_of_suffixes shuffles member with ⟨stats, metadata⟩
    have metadataFile := filled item member _ metadata
    rw [if_pos rfl] at metadataFile
    exact {
      trace := occupied item member _ List.mem_cons_self
      stats := ⟨_, filled item member _ stats⟩
      artifacts := fun artifact listed =>
        occupied item member _ (List.mem_cons_of_mem _ (List.mem_map_of_mem listed))
      metadata := ⟨_, metadataFile, campaignMetadata_documents config item⟩ }
  · intro first its second others same
    rcases inodeOf_campaignFiles session valid shuffles nodup its with ⟨index, found, inode⟩
    rcases inodeOf_campaignFiles session valid shuffles nodup others with
      ⟨otherIndex, otherFound, otherInode⟩
    rw [inode, otherInode] at same
    have position : index = otherIndex := Nat.succ.inj same
    rw [position, otherFound] at found
    exact (Option.some.inj found).symm

end

theorem sweep_profile_is_complete :
    ∃ config planned files,
      prepareProfileConfig (fun _ => none) (fun _ => []) sweepRuns (some sweepConfig.globalConfig)
        "configs/sweep.yaml" "raw" none = .ok (config, planned) ∧
      ProfileSession.validateProfileSession files ⟨[], []⟩ = .ok ⟨[], []⟩ ∧
      ∃ evidences, sessionEvidence files ⟨[], []⟩ = some evidences ∧ Complete evidences := by
  have unshuffled : ∀ items : List RunTuple, (id items).Perm items := fun _ => List.Perm.refl _
  rcases exists_sweep_selection with ⟨baseline, batched, threaded, selects, rates⟩
  rcases described_of_selected sweepConfig_accepted sweepRuns_measured selects with
    ⟨receivers, described⟩
  rcases exists_preparation (fun _ => none) (fun _ => []) sweepConfig_accepted selects receivers
    described "configs/sweep.yaml" unshuffled with ⟨config, planned, made, profiles⟩
  have accepted := profiles.accepted.mpr rates
  have written := writtenSession_campaignFiles ⟨[], []⟩ accepted unshuffled profiles receivers
  rcases profile_session_is_complete (fun _ => none) (fun _ => []) sweepConfig_accepted
    sweepConfig_accepted sweepRuns_measured made accepted unshuffled written with
    ⟨validated, found, complete, _⟩
  exact ⟨config, planned, _, made, validated, _, found, complete⟩

end NetLatencyLab.Harness
