import NetLatencyLab.Harness.NetworkRun
import NetLatencyLab.Harness.Validity

/-! # The validity of real runs

`validity_reasons` of the files that a sender and a receiver leave. -/

namespace NetLatencyLab.Harness

open CommandLine (Double)
open Counters (Delta)
open JsonFiles (Json JsonObject count countOr count_of_lookup countOr_of_lookup flag
  flag_of_lookup)
open PythonText (Text)
open Receiver (Outcomes ReadBack)
open Sender (FloatText wire)
open Statistics (Field lookup_entry safeReadJson)
open Thread (AffinityOutcome SchedulerOutcome)

def Decides (reasons : Option (List String)) (condition : Prop) : Prop :=
  ∃ found, reasons = some found ∧ (found = [] ↔ condition)

theorem decides_objection {condition : Prop} [Decidable condition] (reason : String) :
    Decides (some (objection condition reason)) (¬condition) :=
  ⟨_, rfl, objection_eq_nil⟩

theorem Decides.iff {reasons : Option (List String)} {condition other : Prop}
    (decides : Decides reasons condition) (same : condition ↔ other) : Decides reasons other := by
  rcases decides with ⟨found, computed, none⟩
  exact ⟨found, computed, none.trans same⟩

/-! ## The receiver's file -/

section

variable {float : Text → Option Double} {options : Receiver.Options.Config}
  {stats : Receiver.Stats} {buffer : Receiver.SocketBuffer} {outcomes : Outcomes}
  {receiver : JsonObject}

theorem receiver_count (float : Text → Option Double)
    (heard : ReadBack options stats buffer outcomes receiver) (name : String) (value : Int)
    (listed : (name, value) ∈ stats.fields) :
    count float receiver name = some value ∧
      ∀ default, countOr float default receiver name = some value := by
  have found : receiver.lookup name.toList = some (.integer value) := heard.counters _ listed
  exact ⟨count_of_lookup found, countOr_of_lookup found⟩

theorem affinity_flag (outcome : AffinityOutcome) (program : Statistics.Program) :
    flag ((outcome.fields program).map Field.entry) "success" = outcome.success := by
  apply flag_of_lookup
  have distinct : ((outcome.fields program).map Field.name).Nodup := by
    change (["requested_cpu".toList, "observed_cpu".toList, "observed_cpu_set".toList,
      "success".toList, "error".toList] : List Text).Nodup
    decide +kernel
  have member : Field.boolean "success" outcome.success ∈ outcome.fields program := by
    simp [AffinityOutcome.fields]
  exact lookup_entry distinct member

private theorem scheduler_flag (outcome : SchedulerOutcome) (program : Statistics.Program) :
    flag ((outcome.fields program).map Field.entry) "success" = outcome.success := by
  apply flag_of_lookup
  have distinct : ((outcome.fields program).map Field.name).Nodup := by
    change (["requested_policy".toList, "requested_priority".toList, "observed_policy".toList,
      "observed_priority".toList, "success".toList, "error".toList] : List Text).Nodup
    decide +kernel
  have member : Field.boolean "success" outcome.success ∈ outcome.fields program := by
    simp [SchedulerOutcome.fields]
  exact lookup_entry distinct member

theorem outcomeReasons_decides (name : String) (given : Option JsonObject)
    (found : receiver.lookup name.toList = given.map Json.object) :
    Decides (outcomeReasons receiver name) (∀ outcome ∈ given, flag outcome "success" = true) := by
  cases given with
  | none =>
      rw [outcomeReasons, found]
      exact ⟨[], rfl, iff_of_true rfl nofun⟩
  | some outcome =>
      rw [outcomeReasons, found]
      apply (decides_objection _).iff
      rw [Bool.not_eq_false]
      exact ⟨fun applied other same => Option.some.inj same ▸ applied, fun all => all _ rfl⟩

structure Applied (outcomes : Outcomes) : Prop where
  rxAffinity : outcomes.rxAffinity.success = true
  rxScheduler : outcomes.rxScheduler.success = true
  workerAffinity : ∀ outcome ∈ outcomes.workerAffinity, outcome.success = true
  workerScheduler : ∀ outcome ∈ outcomes.workerScheduler, outcome.success = true

private theorem outcomes_decide (heard : ReadBack options stats buffer outcomes receiver) :
    Decides ((outcomeNames.mapM (outcomeReasons receiver)).map List.flatten)
      (Applied outcomes) := by
  have first := outcomeReasons_decides "receiver_affinity" (some _) heard.receiverAffinity
  have second := outcomeReasons_decides "receiver_scheduler" (some _) heard.receiverScheduler
  have third := outcomeReasons_decides "worker_affinity"
    (outcomes.workerAffinity.map fun outcome => (outcome.fields .receiver).map Field.entry)
    (by rw [heard.workerAffinity, Option.map_map]; rfl)
  have fourth := outcomeReasons_decides "worker_scheduler"
    (outcomes.workerScheduler.map fun outcome => (outcome.fields .receiver).map Field.entry)
    (by rw [heard.workerScheduler, Option.map_map]; rfl)
  rcases first with ⟨first, readFirst, noneFirst⟩
  rcases second with ⟨second, readSecond, noneSecond⟩
  rcases third with ⟨third, readThird, noneThird⟩
  rcases fourth with ⟨fourth, readFourth, noneFourth⟩
  refine ⟨[first, second, third, fourth].flatten, ?_, ?_⟩
  · simp only [outcomeNames, List.mapM_cons, List.mapM_nil, readFirst, readSecond, readThird,
      readFourth]
    rfl
  · simp only [List.flatten_cons, List.flatten_nil, List.append_nil, List.append_eq_nil_iff,
      noneFirst, noneSecond, noneThird, noneFourth, Option.mem_def, Option.some.injEq,
      Option.map_eq_some_iff, forall_eq', forall_exists_index, and_imp, forall_apply_eq_imp_iff₂,
      affinity_flag, scheduler_flag]
    exact ⟨fun all => ⟨all.1, all.2.1, all.2.2.1, all.2.2.2⟩,
      fun applied => ⟨applied.rxAffinity, applied.rxScheduler, applied.workerAffinity,
        applied.workerScheduler⟩⟩

private theorem windowReasons_decides {packets first last : String} (reason : String)
    {counted opened closed : Int} (readPackets : count float receiver packets = some counted)
    (readFirst : countOr float 0 receiver first = some opened)
    (readLast : countOr float 0 receiver last = some closed) :
    Decides (windowReasons float receiver packets first last reason)
      (counted ≠ 0 → opened ≠ 0 ∧ closed ≠ 0) := by
  rw [windowReasons, readPackets, readFirst, readLast]
  simp only [Option.bind_eq_bind, Option.bind_some]
  by_cases empty : counted = 0
  · rw [if_pos empty]
    exact ⟨[], rfl, iff_of_true rfl fun some => absurd empty some⟩
  · rw [if_neg empty]
    by_cases unopened : opened = 0
    · rw [if_pos unopened]
      exact ⟨[reason], rfl, iff_of_false (List.cons_ne_nil _ _) fun all => (all empty).1 unopened⟩
    · rw [if_neg unopened]
      apply (decides_objection _).iff
      exact ⟨fun shut _ => ⟨unopened, shut⟩, fun all => (all empty).2⟩

theorem bufferReasons_decides (float : Text → Option Double) (side : String) {stats : JsonObject}
    {requested observed : Int}
    (readRequested : countOr float 0 stats "requested_socket_buffer_bytes" = some requested)
    (readObserved : countOr float (-1) stats "observed_socket_buffer_bytes" = some observed) :
    Decides (bufferReasons float side stats) (0 < requested → requested ≤ observed) := by
  rw [bufferReasons, readRequested, readObserved]
  apply (decides_objection _).iff
  rw [not_and, not_lt]

private theorem backlogReasons_decides (float : Text → Option Double)
    (heard : ReadBack options stats buffer outcomes receiver) :
    Decides (backlogReasons float receiver)
      (stats.queueDepthAtShutdown = 0 ∧ stats.socketPendingBytesAtShutdown = 0) := by
  have depth := (receiver_count float heard "queue_depth_at_shutdown" stats.queueDepthAtShutdown
    (by simp [Receiver.Stats.fields])).2 0
  have pending := (receiver_count float heard "socket_pending_bytes_at_shutdown"
    stats.socketPendingBytesAtShutdown (by simp [Receiver.Stats.fields])).2 0
  rw [backlogReasons, depth, pending]
  refine ⟨_, rfl, ?_⟩
  rw [List.append_eq_nil_iff, objection_eq_nil, objection_eq_nil]
  omega

end

/-! ## The sender's file -/

section

variable {float : Text → Option Double} {floats : FloatText} {report : Sender.Report}
  {sender : JsonObject}

def Holds (object : JsonObject) (fields : List Field) : Prop :=
  ∀ field ∈ fields, object.lookup field.name = some field.item

theorem Holds.scalar (holds : Holds sender (Sender.statsFields floats report)) (field : Field)
    (listed : field ∈ Sender.scalarFields floats report) :
    sender.lookup field.name = some field.item :=
  holds field (List.mem_append_left _ (List.mem_append_left _ (List.mem_append_left _ listed)))

theorem Holds.count (holds : Holds sender (Sender.statsFields floats report))
    (float : Text → Option Double) (name : String) (value : Nat)
    (listed : Field.natural name value ∈ Sender.scalarFields floats report) :
    JsonFiles.count float sender name = some (value : Int) ∧
      ∀ default, countOr float default sender name = some (value : Int) := by
  have found : sender.lookup name.toList = some (.integer value) := holds.scalar _ listed
  exact ⟨count_of_lookup found, countOr_of_lookup found⟩

private theorem senderAffinityReasons_decides
    (holds : Holds sender (Sender.statsFields floats report)) :
    Decides (senderAffinityReasons sender)
      ((Sender.frontAffinity report.workers).success = true) := by
  have printed : sender.lookup "cpu_affinity".toList = some (.object
      (((Sender.frontAffinity report.workers).fields .sender).map Field.entry)) :=
    holds (Sender.objectField "cpu_affinity" ((Sender.frontAffinity report.workers).fields .sender))
      (List.mem_append_right _ List.mem_cons_self)
  rw [senderAffinityReasons, printed]
  apply (decides_objection _).iff
  rw [affinity_flag, Bool.not_eq_false]

end

/-! ## Counters and states -/

theorem counterReasons_eq_nil {counters : List (String × Delta)} :
    counterReasons counters = [] ↔ ∀ entry ∈ counters, ∀ delta ∈ entry.2.delta, 0 ≤ delta := by
  rw [counterReasons, objection_eq_nil, Bool.not_eq_true, List.any_eq_false]
  apply forall₂_congr
  intro entry _
  rw [isNegative]
  cases entry.2.delta with
  | none => simp
  | some delta => simp

/-- What the network and the nodes have to show outside the loopback topology. -/
structure Undisturbed (counters : List (String × Delta)) (states : NodeStates) : Prop where
  unpaused : ∀ name ∈ ["nic_rx_pause", "nic_tx_pause"],
    (counters.lookup name).bind Delta.delta = some 0
  unthrottled : throttled states.before = false ∧ throttled states.after = false
  senderUnthrottled : states.senderBefore ≠ [] → states.senderAfter ≠ [] →
    throttled states.senderBefore = false ∧ throttled states.senderAfter = false
  complete : ∀ state ∈ [states.before, states.after, states.senderBefore, states.senderAfter],
    ∀ entry ∈ state, entry.2.failed = false

private theorem pauseReasons_eq_nil {counters : List (String × Delta)} {name : String} :
    pauseReasons counters name = [] ↔ (counters.lookup name).bind Delta.delta = some 0 := by
  rw [pauseReasons]
  cases (counters.lookup name).bind Delta.delta with
  | none => exact iff_of_false (List.cons_ne_nil _ _) nofun
  | some delta => rw [objection_eq_nil, not_not, Option.some.injEq]

private theorem missingReasons_eq_nil {label : String} {state : NodeState} :
    missingReasons label state = [] ↔ ∀ entry ∈ state, entry.2.failed = false := by
  have sorted := (List.perm_insertionSort (· ≤ ·)
    ((state.filter fun entry => entry.2.failed).map Prod.fst)).length_eq
  rw [missingReasons, objection_eq_nil, not_not, ← List.length_eq_zero_iff, sorted,
    List.length_eq_zero_iff, List.map_eq_nil_iff, List.filter_eq_nil_iff]
  simp only [Bool.not_eq_true]

private theorem ethernetReasons_eq_nil {counters : List (String × Delta)} {states : NodeStates} :
    ethernetReasons counters states = [] ↔ Undisturbed counters states := by
  simp only [ethernetReasons, List.append_eq_nil_iff, objection_eq_nil, pauseReasons_eq_nil,
    missingReasons_eq_nil, not_or, not_and, Bool.not_eq_true]
  constructor
  · intro all
    rcases all with ⟨⟨⟨⟨⟨⟨⟨rx, tx⟩, receiver⟩, sender⟩, first⟩, second⟩, third⟩, fourth⟩
    exact {
      unpaused := by simp [rx, tx]
      unthrottled := receiver
      senderUnthrottled := sender
      complete := by
        simp only [List.forall_mem_cons, List.not_mem_nil, false_implies, implies_true, and_true]
        exact ⟨first, second, third, fourth⟩ }
  · intro quiet
    have unpaused := quiet.unpaused
    have complete := quiet.complete
    simp only [List.forall_mem_cons, List.not_mem_nil, false_implies, implies_true, and_true]
      at unpaused complete
    exact ⟨⟨⟨⟨⟨⟨⟨unpaused.1, unpaused.2⟩, quiet.unthrottled⟩, quiet.senderUnthrottled⟩,
      complete.1⟩, complete.2.1⟩, complete.2.2.1⟩, complete.2.2.2⟩

/-! ## The verdict -/

/-- What the surroundings of a run have to be; nothing of it is about packets. -/
structure Clean {datagrams : List Receiver.Datagram} (run : SenderRun)
    (receiver : ReceiverRun datagrams) (counters : List (String × Delta)) (topology : Text)
    (states : NodeStates) : Prop where
  applied : Applied receiver.outcomes
  placed : (Sender.frontAffinity run.report.workers).success = true
  receiveBuffer : 0 < receiver.options.socketBufferBytes →
    receiver.options.socketBufferBytes ≤ receiver.observedSocketBuffer
  sendBuffer : 0 < run.options.socketBufferBytes →
    run.options.socketBufferBytes ≤ run.surroundings.observedSocketBuffer
  receiveWindow : receiver.outcome.stats.validPackets ≠ 0 →
    receiver.outcome.stats.firstReceiveMonoNs ≠ 0 ∧ receiver.outcome.stats.lastReceiveMonoNs ≠ 0
  processingWindow : receiver.outcome.stats.processedPackets ≠ 0 →
    receiver.outcome.stats.firstProcessingMonoNs ≠ 0 ∧
      receiver.outcome.stats.lastProcessingMonoNs ≠ 0
  drained : receiver.outcome.stats.queueDepthAtShutdown = 0 ∧
    receiver.outcome.stats.socketPendingBytesAtShutdown = 0
  growing : ∀ entry ∈ counters, ∀ delta ∈ entry.2.delta, 0 ≤ delta
  network : topology ≠ "local_loopback".toList → Undisturbed counters states

section

variable {datagrams : List Receiver.Datagram} {float : Text → Option Double} {floats : FloatText}
  {run : SenderRun} {receiver : ReceiverRun datagrams} {sender heard : JsonObject}

/-- Of the packet accounting of a run, the controller can only doubt whether there
are more unique packets than were sent. -/
theorem accountingReasons_decides (float : Text → Option Double)
    (sent : Holds sender (Sender.statsFields floats run.report))
    (told : ReadBack receiver.options receiver.outcome.stats receiver.buffer receiver.outcomes heard) :
    Decides (accountingReasons float sender heard)
      (receiver.outcome.stats.uniqueValidPackets ≤ (wire run.outcome.2).length) := by
  rcases receiver.ends.books with ⟨received, used, _, books, _⟩
  have processedLess := uniqueProcessed_le books
  have overflow := books.overflow
  have counted := receiver_count float told
  have successful := (sent.count float "successful_sends" run.report.stats.successfulSends
    (by simp [Sender.scalarFields])).1
  have unique := (counted "unique_valid_packets" receiver.outcome.stats.uniqueValidPackets
    (by simp [Receiver.Stats.fields])).1
  have uniqueProcessed := (counted "unique_processed_packets"
    receiver.outcome.stats.uniqueProcessedPackets (by simp [Receiver.Stats.fields])).1
  have processed := (counted "processed_packets" receiver.outcome.stats.processedPackets
    (by simp [Receiver.Stats.fields])).1
  have spsc := (counted "spsc_overflow" receiver.outcome.stats.spscOverflow
    (by simp [Receiver.Stats.fields])).1
  have valid := (counted "valid_packets" receiver.outcome.stats.validPackets
    (by simp [Receiver.Stats.fields])).1
  rw [run.successful] at successful
  rw [accountingReasons, successful, unique, uniqueProcessed, processed, spsc, valid]
  refine ⟨_, rfl, ?_⟩
  simp only [List.append_eq_nil_iff, objection_eq_nil]
  omega

theorem clock_ne_zero_iff (value : UInt64) : ((value.toNat : Nat) : Int) ≠ 0 ↔ value ≠ 0 := by
  rw [Nat.cast_ne_zero]
  exact not_congr (UInt64.toNat_inj (b := 0))

theorem clockWindow_decides (float : Text → Option Double) {options : Receiver.Options.Config}
    {stats : Receiver.Stats} {buffer : Receiver.SocketBuffer} {outcomes : Outcomes}
    (told : ReadBack options stats buffer outcomes heard) (packets first last reason : String)
    (counted : Nat) (opened closed : UInt64) (listed : (packets, (counted : Int)) ∈ stats.fields)
    (listedFirst : (first, (opened.toNat : Int)) ∈ stats.fields)
    (listedLast : (last, (closed.toNat : Int)) ∈ stats.fields) :
    Decides (windowReasons float heard packets first last reason)
      (counted ≠ 0 → opened ≠ 0 ∧ closed ≠ 0) := by
  apply (windowReasons_decides reason (receiver_count float told _ _ listed).1
    ((receiver_count float told _ _ listedFirst).2 0)
    ((receiver_count float told _ _ listedLast).2 0)).iff
  rw [clock_ne_zero_iff, clock_ne_zero_iff, Nat.cast_ne_zero]

theorem validityReasons_decides (float : Text → Option Double)
    (sent : Holds sender (Sender.statsFields floats run.report))
    (told : ReadBack receiver.options receiver.outcome.stats receiver.buffer receiver.outcomes heard)
    (counters : List (String × Delta)) (topology : Text) (states : NodeStates) :
    Decides (validityReasons float sender heard counters topology states)
      (receiver.outcome.stats.uniqueValidPackets ≤ (wire run.outcome.2).length ∧
        Clean run receiver counters topology states) := by
  have accounting := accountingReasons_decides float sent told
  have outcomes := outcomes_decide told
  have affinity := senderAffinityReasons_decides sent
  have receiveBuffer := bufferReasons_decides float "receive"
    (countOr_of_lookup told.requested 0) (countOr_of_lookup told.observed (-1))
  have requested := sent.scalar
    (.integer "requested_socket_buffer_bytes" run.options.socketBufferBytes)
    (by simp [Sender.scalarFields, SenderRun.report, Sender.reportOf])
  have observed := sent.scalar
    (.integer "observed_socket_buffer_bytes" run.surroundings.observedSocketBuffer)
    (by simp [Sender.scalarFields, SenderRun.report, Sender.reportOf])
  have sendBuffer := bufferReasons_decides float "send" (countOr_of_lookup requested 0)
    (countOr_of_lookup observed (-1))
  have receiving := clockWindow_decides float told "valid_packets" "first_receive_mono_ns"
    "last_receive_mono_ns" "receive monotonic window is missing"
    receiver.outcome.stats.validPackets receiver.outcome.stats.firstReceiveMonoNs
    receiver.outcome.stats.lastReceiveMonoNs (by simp [Receiver.Stats.fields])
    (by simp [Receiver.Stats.fields]) (by simp [Receiver.Stats.fields])
  have processing := clockWindow_decides float told "processed_packets" "first_processing_mono_ns"
    "last_processing_mono_ns" "processing monotonic window is missing"
    receiver.outcome.stats.processedPackets receiver.outcome.stats.firstProcessingMonoNs
    receiver.outcome.stats.lastProcessingMonoNs (by simp [Receiver.Stats.fields])
    (by simp [Receiver.Stats.fields]) (by simp [Receiver.Stats.fields])
  have backlog := backlogReasons_decides float told
  rcases accounting with ⟨accounting, foundAccounting, noneAccounting⟩
  rcases outcomes with ⟨outcomes, foundOutcomes, noneOutcomes⟩
  rcases affinity with ⟨affinity, foundAffinity, noneAffinity⟩
  rcases receiveBuffer with ⟨receiveBuffer, foundReceiveBuffer, noneReceiveBuffer⟩
  rcases sendBuffer with ⟨sendBuffer, foundSendBuffer, noneSendBuffer⟩
  rcases receiving with ⟨receiving, foundReceiving, noneReceiving⟩
  rcases processing with ⟨processing, foundProcessing, noneProcessing⟩
  rcases backlog with ⟨backlog, foundBacklog, noneBacklog⟩
  rcases Option.map_eq_some_iff.mp foundOutcomes with ⟨lists, foundLists, rfl⟩
  refine ⟨accounting ++ lists.flatten ++ affinity ++ receiveBuffer ++ sendBuffer ++
    receiving ++ processing ++ backlog ++ counterReasons counters ++
      if topology = "local_loopback".toList then [] else ethernetReasons counters states,
    ?computed, ?none⟩
  case computed =>
    rw [validityReasons, foundAccounting, foundLists, foundAffinity, foundReceiveBuffer,
      foundSendBuffer, foundReceiving, foundProcessing, foundBacklog]
    rfl
  case none =>
    simp only [List.append_eq_nil_iff, noneAccounting, noneOutcomes, noneAffinity,
      noneReceiveBuffer, noneSendBuffer, noneReceiving, noneProcessing, noneBacklog,
      counterReasons_eq_nil, ite_eq_left_iff, ethernetReasons_eq_nil]
    constructor
    · intro all
      rcases all with ⟨⟨⟨⟨⟨⟨⟨⟨⟨unique, applied⟩, placed⟩, receiveBuffer⟩, sendBuffer⟩,
        receiveWindow⟩, processingWindow⟩, drained⟩, growing⟩, network⟩
      exact ⟨unique, {
        applied := applied
        placed := placed
        receiveBuffer := receiveBuffer
        sendBuffer := sendBuffer
        receiveWindow := receiveWindow
        processingWindow := processingWindow
        drained := drained
        growing := growing
        network := network }⟩
    · intro both
      rcases both with ⟨unique, clean⟩
      exact ⟨⟨⟨⟨⟨⟨⟨⟨⟨unique, clean.applied⟩, clean.placed⟩, clean.receiveBuffer⟩,
        clean.sendBuffer⟩, clean.receiveWindow⟩, clean.processingWindow⟩, clean.drained⟩,
        clean.growing⟩, clean.network⟩
end

/-- Whatever the network loses, repeats or reorders, the files of a sender and a
receiver are judged without an exception, and by the surroundings of the run
alone: the packet accounting is only doubted when the receiver has counted more
unique packets than were sent, which takes arrivals outside its window. -/
theorem validity_of_run {floats : FloatText} (fixed : floats.Fixed) (run : SenderRun)
    {datagrams : List Receiver.Datagram} (receiver : ReceiverRun datagrams)
    (carries : Carries receiver.host run.outcome.2 datagrams) (float : Text → Option Double)
    (counters : List (String × Delta)) (topology : Text) (states : NodeStates) :
    ∃ sender heard reasons, safeReadJson floats.toFloat (run.file floats) = some sender ∧
      safeReadJson floats.toFloat receiver.file = some heard ∧
      validityReasons float sender heard counters topology states = some reasons ∧
      (reasons = [] ↔
        receiver.outcome.stats.uniqueValidPackets ≤ (wire run.outcome.2).length ∧
          Clean run receiver counters topology states) ∧
      (receiver.outcome.stats.receiveOutOfWindow = 0 →
        receiver.outcome.stats.uniqueValidPackets ≤ (wire run.outcome.2).length) := by
  rcases run.file_read_back fixed with ⟨sender, readSender, sent⟩
  rcases receiver.file_read_back floats.toFloat with ⟨heard, readHeard, told⟩
  rcases validityReasons_decides float sent told counters topology states with
    ⟨reasons, computed, none⟩
  refine ⟨sender, heard, reasons, readSender, readHeard, computed, none, ?_⟩
  intro exact
  rcases receiver.ends.books with ⟨received, used, split, books, _⟩
  have counted := lost_add_unique_le run.encoded carries split books
  omega

/-- Both packets arrive twice, in the wrong order first, with a datagram that is none. -/
theorem disordered_run_is_valid :
    let datagrams := twoPackets.reverse ++ twoPackets ++ [[1, 2]]
    ∃ ended sender heard, safeReadJson Sender.exactText.toFloat
        (twoPacketRun.file Sender.exactText) = some sender ∧
      safeReadJson Sender.exactText.toFloat (baselineRun datagrams ended).file = some heard ∧
      validityReasons (fun _ => none) sender heard [] "local_loopback".toList ⟨[], [], [], []⟩ =
        some [] := by
  intro datagrams
  have ended : (baselineEnd datagrams).position = .finished := by decide +kernel
  have inside : (baselineEnd datagrams).outcome.stats.receiveOutOfWindow = 0 := by decide +kernel
  have timed : ((baselineEnd datagrams).outcome.stats.firstReceiveMonoNs ≠ 0 ∧
      (baselineEnd datagrams).outcome.stats.lastReceiveMonoNs ≠ 0) ∧
        (baselineEnd datagrams).outcome.stats.firstProcessingMonoNs ≠ 0 ∧
          (baselineEnd datagrams).outcome.stats.lastProcessingMonoNs ≠ 0 := by decide +kernel
  have drained : (baselineEnd datagrams).outcome.stats.queueDepthAtShutdown = 0 ∧
      (baselineEnd datagrams).outcome.stats.socketPendingBytesAtShutdown = 0 := by decide +kernel
  have carries : Carries .big twoPacketRun.outcome.2 datagrams := by
    intro datagram member message valid
    rcases List.mem_append.mp member with packet | other
    · have sent : datagram ∈ twoPackets := by simpa using packet
      rcases List.mem_map.mp sent with ⟨transmission, onWire, payload⟩
      exact ⟨transmission, onWire, payload⟩
    · rw [List.mem_singleton.mp other] at valid
      cases valid
  rcases validity_of_run Sender.exactText_fixed twoPacketRun (baselineRun datagrams ended) carries
    (fun _ => none) [] "local_loopback".toList ⟨[], [], [], []⟩
    with ⟨sender, heard, reasons, readSender, readHeard, computed, none, bounded⟩
  have clean : Clean twoPacketRun (baselineRun datagrams ended) [] "local_loopback".toList
      ⟨[], [], [], []⟩ := {
    applied := ⟨rfl, rfl, nofun, nofun⟩
    placed := by decide +kernel
    receiveBuffer := fun positive => absurd positive (Int.lt_irrefl 0)
    sendBuffer := fun positive => absurd positive (Int.lt_irrefl 0)
    receiveWindow := fun _ => timed.1
    processingWindow := fun _ => timed.2
    drained := drained
    growing := nofun
    network := fun distributed => absurd rfl distributed }
  refine ⟨ended, sender, heard, readSender, readHeard, ?_⟩
  rw [computed, none.mpr ⟨bounded inside, clean⟩]

end NetLatencyLab.Harness
