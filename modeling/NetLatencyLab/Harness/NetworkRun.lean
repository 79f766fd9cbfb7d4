import NetLatencyLab.Receiver.Books
import NetLatencyLab.Receiver.Launch
import NetLatencyLab.Receiver.SampledTransmissions
import NetLatencyLab.Receiver.StatisticsFile
import NetLatencyLab.Sender.RunReport

/-! # Runs of a sender and a receiver

Both programs from their command lines to the files that they leave, and the
network between them. -/

namespace NetLatencyLab.Harness

open BinaryLogger (completeFwrite)
open Deduplication (countP_missing_add_card_le)
open PythonText (Text)
open Receiver (Books Datagram Ends Outcomes ThreadCalls arrival messages)
open Sender (Conserved FloatText Surroundings WireEncoded wire)
open Statistics (Program safeReadJson)

/-! ## The two programs -/

/-- A run of the sender from its command line; all sockets can be opened. -/
structure SenderRun where
  platform : Sender.Options.FloatingPoint
  bounded : ∀ seconds, platform.nanoseconds seconds < 2 ^ 64
  arguments : List Text
  options : Sender.Options.Config
  accepted : Sender.Options.main platform arguments = .ok options
  path : Program.sender.Prints options.pacingTracePath
  host : Endianness
  surroundings : Surroundings (Sender.Options.launch platform bounded options accepted)
  errors : ∀ code, Program.sender.Prints (surroundings.strerror code)
  schedule : List (Sender.Action (Sender.Options.launch platform bounded options accepted))
  clockSet : ∀ action ∈ schedule, action.ClockSet

namespace SenderRun

variable (run : SenderRun)

def config : Sender.Config :=
  Sender.Options.launch run.platform run.bounded run.options run.accepted

def outcome : Sender.State run.config × List Sender.Event :=
  (Sender.machine run.host run.config (run.config.window run.surroundings.startNs)).run
    (Sender.start run.config fun _ => none) run.schedule

def report : Sender.Report := Sender.reportOf run.options run.surroundings run.outcome.1

/-- The bytes of the statistics file. -/
def file (floats : FloatText) : List UInt8 := Utf8.encode (Sender.writeStats floats run.report)

theorem conserved : Conserved run.config run.outcome.2 run.outcome.1 :=
  Sender.run_conserved run.host run.config _ (fun _ => rfl) run.schedule

theorem encoded : WireEncoded run.host run.config (· ≠ 0) run.outcome.2 run.outcome.1 :=
  Sender.run_wireEncoded run.host run.config _ _ run.clockSet

theorem successful : run.report.stats.successfulSends = (wire run.outcome.2).length :=
  (Sender.State.stats_sum (·.successfulSends) (fun _ _ => rfl) rfl run.outcome.1).trans
    run.conserved.successful

theorem attempted : run.report.stats.attemptedSends = run.outcome.1.nextSequence :=
  (Sender.State.stats_sum (·.attemptedSends) (fun _ _ => rfl) rfl run.outcome.1).trans
    run.conserved.attempted

theorem prints : run.report.Prints :=
  Sender.reportOf_prints run.accepted run.path run.surroundings run.errors run.outcome.1

theorem file_read_back {floats : FloatText} (fixed : floats.Fixed) :
    ∃ object, safeReadJson floats.toFloat (run.file floats) = some object ∧
      ∀ field ∈ Sender.statsFields floats run.report, object.lookup field.name = some field.item :=
  Sender.writeStats_read_back fixed run.prints

end SenderRun

/-- A run of a receiver from its command line to its end; `datagrams` are all that
reach its socket. -/
structure ReceiverRun (datagrams : List Datagram) where
  variant : Receiver.Variant
  arguments : List Text
  options : Receiver.Options.Config
  accepted : Receiver.Options.mainOf variant arguments = .ok options
  host : Endianness
  outcome : Receiver.Outcome
  ends : Ends host (Receiver.Options.launch options accepted) datagrams outcome variant
  observedSocketBuffer : Int
  strerror : Int → Text
  errors : ∀ code, Program.receiver.Prints (strerror code)
  calls : ThreadCalls
  worker : Option ThreadCalls

namespace ReceiverRun

variable {datagrams : List Datagram} (run : ReceiverRun datagrams)

def buffer : Receiver.SocketBuffer := ⟨run.options.socketBufferBytes, run.observedSocketBuffer⟩

def outcomes : Outcomes := Receiver.outcomesOf run.strerror run.options run.calls run.worker

/-- The bytes of the statistics file. -/
def file : List UInt8 :=
  Utf8.encode (Receiver.writeStats run.options run.outcome.stats run.buffer run.outcomes)

theorem variant_plain : JsonDocument.Plain run.options.variant := by
  rw [(Receiver.Options.main_inRange run.accepted).1.variant]
  cases run.variant with
  | baseline => exact show JsonDocument.Plain "baseline".toList by decide +kernel
  | batched => exact show JsonDocument.Plain "batched".toList by decide +kernel
  | threaded => exact show JsonDocument.Plain "threaded".toList by decide +kernel

theorem prints (toFloat : Text → Text) : run.outcomes.Prints toFloat :=
  Receiver.outcomesOf_prints run.errors (Receiver.Options.main_inRange run.accepted).2 run.calls
    run.worker

theorem file_read_back (toFloat : Text → Text) :
    ∃ object, safeReadJson toFloat run.file = some object ∧
      Receiver.ReadBack run.options run.outcome.stats run.buffer run.outcomes object :=
  Receiver.exists_readBack _ _ run.variant_plain (run.prints toFloat)

end ReceiverRun

/-! ## The network between them -/

/-- Packets may be lost, repeated and reordered, and what is no packet may arrive
beside them; a packet that nobody has sent does not. -/
def Carries (host : Endianness) (history : List Sender.Event) (datagrams : List Datagram) : Prop :=
  ∀ datagram ∈ datagrams, ∀ message, arrival host datagram = .valid message →
    ∃ transmission ∈ wire history, transmission.payload = datagram

def sentNumbers (history : List Sender.Event) : List UInt32 :=
  (wire history).map fun transmission => UInt32.ofNat transmission.sequence

def arrivedNumbers (host : Endianness) (received : List Datagram) : List UInt32 :=
  (messages host received).map (·.seqIdx)

/-- Packets on the wire whose number never arrives. -/
def lost (host : Endianness) (history : List Sender.Event) (received : List Datagram) : Nat :=
  (sentNumbers history).countP (· ∉ arrivedNumbers host received)

def unprocessed (history : List Sender.Event) (used : List MessageHeader) : Nat :=
  (sentNumbers history).countP (· ∉ used.map (·.seqIdx))

section

variable {host receiverHost : Endianness} {config : Sender.Config} {history : List Sender.Event}
  {state : Sender.State config} {datagrams received rest : List Datagram}

theorem arrivedNumbers_subset (encoded : WireEncoded host config (· ≠ 0) history state)
    (carries : Carries receiverHost history datagrams) (split : datagrams = received ++ rest) :
    arrivedNumbers receiverHost received ⊆ sentNumbers history := by
  intro number member
  rcases List.mem_map.mp member with ⟨message, inside, rfl⟩
  rcases Receiver.exists_arrival inside with ⟨datagram, arrived, valid⟩
  have present : datagram ∈ datagrams := by
    rw [split]
    exact List.mem_append_left _ arrived
  rcases carries datagram present message valid with ⟨transmission, sent, rfl⟩
  rcases encoded.sent transmission sent with ⟨sequence, _, realNs, _, same⟩
  rcases Receiver.arrival_payload host receiverHost config sequence realNs with
    ⟨other, carried, seqIdx⟩
  rw [same, carried] at valid
  cases valid
  rw [seqIdx]
  refine List.mem_map.mpr ⟨transmission, sent, ?_⟩
  rw [same]
  rfl

/-- Sent numbers that a tracker counts are not missing from what it has observed, and
those that it counts twice are out of its window. -/
theorem missing_add_unique_le {numbers : List UInt32} (known : numbers ⊆ sentNumbers history) :
    (sentNumbers history).countP (· ∉ numbers) +
        (SequenceTracker.fresh.observeAll numbers).unique ≤
      (wire history).length + (SequenceTracker.fresh.observeAll numbers).outOfWindow := by
  have missing := countP_missing_add_card_le known
  have counted := (SequenceTracker.observeAll_accounts numbers).unique_le_card_add
  have length : (sentNumbers history).length = (wire history).length := List.length_map _
  omega

/-- Packets that are not lost are counted, and those that are counted twice are
out of the window. -/
theorem lost_add_unique_le (encoded : WireEncoded host config (· ≠ 0) history state)
    (carries : Carries receiverHost history datagrams) (split : datagrams = received ++ rest)
    {used : List MessageHeader} {stats : Receiver.Stats}
    (books : Books receiverHost received used stats) :
    lost receiverHost history received + stats.uniqueValidPackets ≤
      (wire history).length + stats.receiveOutOfWindow := by
  rw [books.receiveSide.1, books.receiveSide.2.2.2.2]
  exact missing_add_unique_le (arrivedNumbers_subset encoded carries split)

theorem unprocessed_add_unique_le (encoded : WireEncoded host config (· ≠ 0) history state)
    (carries : Carries receiverHost history datagrams) (split : datagrams = received ++ rest)
    {used : List MessageHeader} {stats : Receiver.Stats}
    (books : Books receiverHost received used stats) :
    unprocessed history used + stats.uniqueProcessedPackets ≤
      (wire history).length + stats.receiveOutOfWindow := by
  have some : used.map (·.seqIdx) ⊆ arrivedNumbers receiverHost received :=
    (books.processedFrom.map (·.seqIdx)).subset
  have missing := missing_add_unique_le
    (List.Subset.trans some (arrivedNumbers_subset encoded carries split))
  have outside : (SequenceTracker.fresh.observeAll (used.map (·.seqIdx))).outOfWindow ≤
      (SequenceTracker.fresh.observeAll (arrivedNumbers receiverHost received)).outOfWindow :=
    SequenceTracker.outOfWindow_le_of_sublist (books.processedFrom.map (·.seqIdx))
  rw [books.processingSide.1, books.receiveSide.2.2.2.2]
  exact missing.trans (Nat.add_le_add_left outside _)

theorem uniqueProcessed_le {used : List MessageHeader} {stats : Receiver.Stats}
    (books : Books receiverHost received used stats) :
    stats.uniqueProcessedPackets ≤ stats.uniqueValidPackets := by
  rw [books.receiveSide.1, books.processingSide.1]
  exact SequenceTracker.unique_le_of_sublist (books.processedFrom.map _)

end

theorem sequences_perm {config : Sender.Config} {history : List Sender.Event}
    {state : Sender.State config} (conserved : Conserved config history state)
    (all : (wire history).length = state.nextSequence) :
    ((wire history).map (·.sequence)).Perm (List.range state.nextSequence) := by
  have tickets := conserved.tickets
  have below : (wire history).map (·.sequence) ⊆ List.range state.nextSequence := by
    intro sequence member
    exact List.mem_range.mpr (tickets.drawn sequence (List.mem_append_right _ member))
  apply (tickets.released_nodup.subperm below).perm_of_length_le
  rw [List.length_range, List.length_map, all]

/-! ## Two packets -/

def twoPacketOptions : Sender.Options.Config where
  ratePps := 2
  mode := "flood".toList
  sendBatchMax := 2

theorem twoPacketOptions_accepted :
    Sender.Options.main Sender.wholePlatform
      ["--rate".toList, "2".toList, "--mode".toList, "flood".toList, "--send-batch-max".toList,
        "2".toList] = .ok twoPacketOptions := by decide +kernel

def twoPacketSchedule :
    List (Sender.Action (Sender.Options.launch Sender.wholePlatform Sender.wholePlatform_bounded
      twoPacketOptions twoPacketOptions_accepted)) :=
  List.replicate 3 (.worker (0 : Fin 1) { Sender.answer 2 0 with realNs := fun _ => 1 })

private theorem twoPacketSchedule_clockSet :
    ∀ action ∈ twoPacketSchedule, action.ClockSet := by
  intro action member
  rw [List.eq_of_mem_replicate member]
  exact fun _ => (by decide : (1 : UInt64) ≠ 0)

def twoPacketRun : SenderRun where
  platform := Sender.wholePlatform
  bounded := Sender.wholePlatform_bounded
  arguments := _
  options := twoPacketOptions
  accepted := twoPacketOptions_accepted
  path := (Thread.printable_of_all rfl).prints _
  host := .little
  surroundings :=
    { strerror _ := "Invalid argument".toList
      calls _ := ⟨0, 0, fun cpu => cpu == 1, 1⟩
      observedSocketBuffer := 212992
      startNs := 0
      completionNs := 1000000000 }
  errors _ := (Thread.printable_of_all rfl).prints _
  schedule := twoPacketSchedule
  clockSet := twoPacketSchedule_clockSet

def twoPackets : List Datagram := (wire twoPacketRun.outcome.2).map (·.payload)

def onePass : Receiver.Environment where
  reply := .delivered 1
  realNs := 1
  monoNs := 1
  process _ := ⟨1, 1, 1, 1⟩
  pendingBytes := 0

def baselineOptions : Receiver.Options.Config := { variant := "baseline".toList }

theorem baselineOptions_accepted :
    Receiver.Options.mainOf .baseline [] = .ok baselineOptions := by decide +kernel

def baselineSchedule (datagrams : List Datagram) : List Receiver.LoopAction :=
  datagrams.map (fun _ => .proceed onePass) ++ [.signal, .proceed onePass, .proceed onePass]

def baselineEnd (datagrams : List Datagram) : Receiver.LoopState :=
  ((Receiver.baselineMachine completeFwrite .big
    (Receiver.Options.launch baselineOptions baselineOptions_accepted)).run
      (Receiver.loopStart completeFwrite datagrams) (baselineSchedule datagrams)).1

def baselineRun (datagrams : List Datagram)
    (ended : (baselineEnd datagrams).position = .finished) : ReceiverRun datagrams where
  variant := .baseline
  arguments := []
  options := baselineOptions
  accepted := baselineOptions_accepted
  host := .big
  outcome := (baselineEnd datagrams).outcome
  ends := ⟨baselineSchedule datagrams, _, rfl, ended, rfl⟩
  observedSocketBuffer := 212992
  strerror _ := "Invalid argument".toList
  errors _ := (Thread.printable_of_all rfl).prints _
  calls := ⟨⟨0, 0, fun cpu => cpu == 2, 2⟩, 0, 0, 0, 0⟩
  worker := none

end NetLatencyLab.Harness
