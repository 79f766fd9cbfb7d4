import NetLatencyLab.Receiver.TransmittedSequences
import NetLatencyLab.Sender.Encoding

/-! # Samples and timestamps

The sender decides by the number it has drawn whether a packet gets a timestamp,
the receiver by the low 32 bits of that number whether the packet is sampled. -/

namespace NetLatencyLab.Receiver

open LatencyUtils (loadBinaryFile loadBinaryFile_logFile logFile versionedRow)
open MessageHeader (probe)
open Sender (Encoded encodeMessage)
open SpscQueue (pushes reads)

/-! ## Remainders -/

/-- Cutting a number to 32 bits keeps its divisibility as long as nothing is cut
off or the divisor is a power of two that fits. -/
theorem dvd_mod_iff {every allocated sequence : Nat} (drawn : sequence < allocated)
    (fits : allocated ≤ 2 ^ 32 ∨ every ∣ 2 ^ 32) :
    sequence % 2 ^ 32 % every = 0 ↔ sequence % every = 0 := by
  rcases fits with small | divides
  · rw [Nat.mod_eq_of_lt (drawn.trans_le small)]
  · rw [Nat.mod_mod_of_dvd sequence divides]

/-! ## What is logged -/

variable {host : Endianness} {config : Config} {datagrams received : List Datagram}
  {packets : List ReceivedPacket} {outcome : Outcome} {variant : Variant}

def RecordOf (host : Endianness) (config : Config) (datagrams : List Datagram) (entry : LogEntry) :
    Prop :=
  ∃ datagram ∈ datagrams, ∃ message, arrival host datagram = .valid message ∧
    isSampled config.sampleEvery message = true ∧ entry.txTs = message.sendUnixNs

theorem exists_arrival {message : MessageHeader} (member : message ∈ messages host received) :
    ∃ datagram ∈ received, arrival host datagram = .valid message := by
  rcases List.mem_filterMap.mp member with ⟨datagram, inside, carried⟩
  refine ⟨datagram, inside, ?_⟩
  cases arrived : arrival host datagram with
  | valid other =>
      rw [arrived] at carried
      rw [Option.some.inj carried]
  | short => simp [arrived, Arrival.message?] at carried
  | invalidMagic => simp [arrived, Arrival.message?] at carried
  | unsupportedVersion => simp [arrived, Arrival.message?] at carried

theorem recordOf_of_keys {entries : List LogEntry} {rest : List Datagram}
    (split : datagrams = received ++ rest)
    (keys : entries.map entryKey = (packets.filter (·.sampled)).map packetKey)
    (valid : ∀ packet ∈ packets, packet.message ∈ messages host received)
    (sampled : ∀ packet ∈ packets,
      packet.sampled = isSampled config.sampleEvery packet.message) :
    ∀ entry ∈ entries, RecordOf host config datagrams entry := by
  intro entry member
  have key : entryKey entry ∈ (packets.filter (·.sampled)).map packetKey := by
    rw [← keys]
    exact List.mem_map_of_mem member
  rcases List.mem_map.mp key with ⟨packet, kept, same⟩
  rcases List.mem_filter.mp kept with ⟨processed, chosen⟩
  rcases exists_arrival (valid packet processed) with ⟨datagram, inside, arrived⟩
  refine ⟨datagram, ?_, packet.message, arrived, ?_, ?_⟩
  · rw [split]
    exact List.mem_append_left _ inside
  · rw [← sampled packet processed]
    exact chosen
  · exact (congrArg (fun key => key.2.1) same).symm

theorem LoopInvariant.recordOf {truncates : Datagram → Bool} {state : LoopState}
    (invariant : LoopInvariant host config truncates datagrams packets state)
    (finished : state.position = .finished) :
    ∃ entries, state.outcome.file = logFile entries ∧
      ∀ entry ∈ entries, RecordOf host config datagrams entry := by
  rcases invariant.consistent with ⟨received, split, consistent⟩
  rcases invariant.finished finished with ⟨_, _, entries, contents, keys⟩
  refine ⟨entries, contents, recordOf_of_keys split keys ?_ consistent.sampled⟩
  intro packet member
  rw [← consistent.messagesEqual]
  exact List.mem_map_of_mem member

theorem Drained.recordOf {history : List (SpscQueue.Event ReceivedPacket)} {state : ThreadedState}
    {rest : List Datagram} (drained : Drained host config received history state)
    (split : datagrams = received ++ rest) :
    ∃ entries, state.outcome.file = logFile entries ∧
      ∀ entry ∈ entries, RecordOf host config datagrams entry := by
  rcases drained.logged with ⟨entries, contents, keys⟩
  have pushed : ∀ packet ∈ reads history, packet ∈ (pushes history).map Prod.fst := by
    rw [drained.readsEqual]
    exact (List.filter_sublist.map Prod.fst).subset
  refine ⟨entries, contents, recordOf_of_keys split keys ?_ ?_⟩
  · intro packet member
    rw [← drained.pushedEqual]
    exact List.mem_map_of_mem (pushed packet member)
  · intro packet member
    exact drained.sampled packet (pushed packet member)

theorem Ends.recordOf (ends : Ends host config datagrams outcome variant) :
    ∃ entries, outcome.file = logFile entries ∧
      ∀ entry ∈ entries, RecordOf host config datagrams entry := by
  cases variant with
  | baseline =>
      rcases ends with ⟨schedule, final, reaches, finished, rfl⟩
      subst reaches
      exact (loop_run_invariant (baselineHandler_handles host config) datagrams schedule).recordOf
        finished
  | batched =>
      rcases ends with ⟨schedule, final, reaches, finished, rfl⟩
      subst reaches
      exact (loop_run_invariant (batchedHandler_handles host config) datagrams schedule).recordOf
        finished
  | threaded =>
      rcases ends with ⟨schedule, final, reaches, finished, rfl⟩
      subst reaches
      rcases threaded_run_drained host config datagrams schedule finished with
        ⟨received, split, drained⟩
      exact drained.recordOf split

/-! ## Both decisions -/

section

variable {senderHost receiverHost : Endianness} {senderConfig : Sender.Config}
  {allocated sequence : Nat} {realNs : UInt64}

theorem arrival_encodeMessage (senderHost receiverHost : Endianness)
    (senderConfig : Sender.Config) (sequence : Nat) (realNs : UInt64) :
    arrival receiverHost (encodeMessage senderHost senderConfig sequence realNs).payload =
      .valid (probe (UInt32.ofNat sequence)
        (if sequence % senderConfig.timestampEvery = 0 ∧ senderConfig.timestampEvery ≠ 0
          then realNs else 0)) := by
  rw [encodeMessage_payload, encodeDatagram_eq]
  exact arrival_header senderHost receiverHost rfl rfl _

theorem isSampled_probe_iff (sampleEvery sequence : Nat) (sendUnixNs : UInt64) :
    isSampled sampleEvery (probe (UInt32.ofNat sequence) sendUnixNs) = true ↔
      sampleEvery ≠ 0 ∧ sequence % 2 ^ 32 % sampleEvery = 0 := by
  simp [isSampled, probe]

/-- A packet has a timestamp exactly when it is sampled, and every record that
is logged of the transmitted packets has one. -/
structure SamplingAgrees (senderHost receiverHost : Endianness) (senderConfig : Sender.Config)
    (config : Config) (allocated : Nat) (sent : List Sender.Transmission) : Prop where
  carried : ∀ sequence < allocated, ∀ realNs : UInt64, realNs ≠ 0 → ∃ message,
    arrival receiverHost (encodeMessage senderHost senderConfig sequence realNs).payload =
      .valid message ∧
    (message.sendUnixNs ≠ 0 ↔ isSampled config.sampleEvery message = true)
  logged : ∀ datagrams : List Datagram,
    (∀ datagram ∈ datagrams, ∃ transmission ∈ sent, transmission.payload = datagram) →
    ∀ variant outcome, Ends receiverHost config datagrams outcome variant →
    ∀ path, ∃ rows, loadBinaryFile path (some outcome.file) = .ok rows ∧
      ∀ row ∈ rows, row.txNs ≠ 0

theorem fits_of_agrees {sent : List Sender.Transmission} (positive : 1 ≤ config.sampleEvery)
    (matching : senderConfig.timestampEvery = config.sampleEvery)
    (agrees : SamplingAgrees senderHost receiverHost senderConfig config allocated sent) :
    allocated ≤ 2 ^ 32 ∨ config.sampleEvery ∣ 2 ^ 32 := by
  by_cases small : allocated ≤ 2 ^ 32
  · exact .inl small
  · rcases agrees.carried (2 ^ 32) (not_le.mp small) 1 (by decide) with
      ⟨message, arrived, carried⟩
    rw [arrival_encodeMessage, Arrival.valid.injEq] at arrived
    subst arrived
    have sampled := (isSampled_probe_iff config.sampleEvery (2 ^ 32)
      (if 2 ^ 32 % senderConfig.timestampEvery = 0 ∧ senderConfig.timestampEvery ≠ 0
        then 1 else 0)).mpr ⟨by omega, by rw [Nat.mod_self, Nat.zero_mod]⟩
    have stamped := carried.mpr sampled
    right
    by_contra indivisible
    have unstamped : ¬ (2 ^ 32 % senderConfig.timestampEvery = 0 ∧
        senderConfig.timestampEvery ≠ 0) := by
      intro both
      rw [matching] at both
      exact indivisible (Nat.dvd_of_mod_eq_zero both.1)
    rw [if_neg unstamped] at stamped
    exact stamped rfl

theorem carried_of_fits (receiverHost : Endianness) (positive : 1 ≤ config.sampleEvery)
    (matching : senderConfig.timestampEvery = config.sampleEvery)
    (fits : allocated ≤ 2 ^ 32 ∨ config.sampleEvery ∣ 2 ^ 32) (drawn : sequence < allocated)
    (set : realNs ≠ 0) :
    ∃ message, arrival receiverHost (encodeMessage senderHost senderConfig sequence realNs).payload =
        .valid message ∧
      (message.sendUnixNs ≠ 0 ↔ isSampled config.sampleEvery message = true) := by
  have nonzero : config.sampleEvery ≠ 0 := by omega
  refine ⟨_, arrival_encodeMessage senderHost receiverHost senderConfig sequence realNs, ?_⟩
  rw [isSampled_probe_iff, dvd_mod_iff drawn fits, matching]
  by_cases stamped : sequence % config.sampleEvery = 0
  · simp [probe, stamped, nonzero, set]
  · simp [probe, stamped]

private theorem agrees_of_fits {sent : List Sender.Transmission} (positive : 1 ≤ config.sampleEvery)
    (matching : senderConfig.timestampEvery = config.sampleEvery)
    (encoded : ∀ transmission ∈ sent, Encoded senderHost senderConfig (· ≠ 0) allocated transmission)
    (fits : allocated ≤ 2 ^ 32 ∨ config.sampleEvery ∣ 2 ^ 32) :
    SamplingAgrees senderHost receiverHost senderConfig config allocated sent where
  carried := fun _ drawn _ set => carried_of_fits receiverHost positive matching fits drawn set
  logged := by
    intro datagrams transmitted variant outcome ends path
    rcases ends.recordOf with ⟨entries, contents, recorded⟩
    refine ⟨entries.map versionedRow, by rw [contents, loadBinaryFile_logFile], ?_⟩
    intro row member
    rcases List.mem_map.mp member with ⟨entry, logged, rfl⟩
    rcases recorded entry logged with ⟨datagram, inside, message, arrived, sampled, stamp⟩
    rcases transmitted datagram inside with ⟨transmission, onWire, rfl⟩
    rcases encoded transmission onWire with ⟨sequence, drawn, realNs, set, rfl⟩
    rcases carried_of_fits receiverHost positive matching fits drawn set with
      ⟨other, otherArrived, carried⟩
    rw [arrived, Arrival.valid.injEq] at otherArrived
    subst otherArrived
    have stamped := carried.mpr sampled
    rw [← stamp] at stamped
    exact fun zero => stamped (UInt64.toNat_inj.mp zero)

end

/-- Along any run of the sender, the two decisions agree if and only if no more
than 2^32 numbers have been drawn or the sampling interval divides 2^32. The
real time clock is taken to be set. -/
theorem samplingAgrees_iff (senderHost receiverHost : Endianness) (senderConfig : Sender.Config)
    (config : Config) (positive : 1 ≤ config.sampleEvery)
    (matching : senderConfig.timestampEvery = config.sampleEvery) (window : Sender.Window)
    (connect : Fin senderConfig.threads → Option Nat)
    (schedule : List (Sender.Action senderConfig)) (set : ∀ action ∈ schedule, action.ClockSet) :
    let outcome := (Sender.machine senderHost senderConfig window).run
      (Sender.start senderConfig connect) schedule
    SamplingAgrees senderHost receiverHost senderConfig config outcome.1.nextSequence
        (Sender.wire outcome.2) ↔
      outcome.1.nextSequence ≤ 2 ^ 32 ∨ config.sampleEvery ∣ 2 ^ 32 := by
  intro outcome
  constructor
  · exact fits_of_agrees positive matching
  · exact agrees_of_fits positive matching
      (Sender.run_wireEncoded senderHost senderConfig window connect set).sent

/-! ## A long run -/

def thirdsSender : Sender.Config := { floodConfig with timestampEvery := 3 }

def thirdsReceiver : Config := { shortConfig with sampleEvery := 3 }

def onlyWorker : Fin thirdsSender.threads := ⟨0, Nat.one_pos⟩

structure Ready (allocated : Nat) (position : Sender.Position) (state : Sender.State thirdsSender) :
    Prop where
  position : (state.workers onlyWorker).position = position
  socketOpen : (state.workers onlyWorker).socketOpen = true
  running : state.stop = false
  allocated : state.nextSequence = allocated

def thirdsMachine : Machine (Sender.State thirdsSender) (Sender.Action thirdsSender) Sender.Event :=
  Sender.machine .little thirdsSender (thirdsSender.window 0)

def fullCall : Sender.Action thirdsSender :=
  .worker onlyWorker { Sender.answer 64 0 with realNs := fun _ => 1 }

section

variable {state : Sender.State thirdsSender} {allocated : Nat}

theorem Ready.choose (ready : Ready allocated .checking state) :
    Ready allocated (.allocating 64 0) (thirdsMachine.step state fullCall).1 := by
  have wants : Sender.wantsBatch thirdsSender (thirdsSender.window 0)
      (state.workers onlyWorker) state.stop 0 = true := by
    rw [Sender.wantsBatch, ready.socketOpen, ready.running]
    rfl
  have chosen : Sender.chooseBatch thirdsSender (thirdsSender.window 0)
      (state.workers onlyWorker).packetIndex = (64, 0) := rfl
  simp only [thirdsMachine, Sender.machine, Sender.step, fullCall, Sender.workerStep,
    ready.position, Sender.answer, wants, chosen, if_true]
  exact {
    position := by simp
    socketOpen := by simpa using ready.socketOpen
    running := ready.running
    allocated := ready.allocated }

theorem Ready.allocate (ready : Ready allocated (.allocating 64 0) state) :
    ∃ batch, batch.count = 64 ∧
      Ready (allocated + 64) (.sending batch 0) (thirdsMachine.step state fullCall).1 := by
  simp only [thirdsMachine, Sender.machine, Sender.step, fullCall, Sender.workerStep,
    ready.position, Sender.allocateSequenceRange]
  let batch : Sender.Batch :=
    { count := 64
      scheduled := 0
      firstSequence := state.nextSequence
      messages := Sender.encodeBatch .little thirdsSender state.nextSequence 64 fun _ => 1 }
  refine ⟨batch, rfl, {
    position := by simp [batch]
    socketOpen := by simpa using ready.socketOpen
    running := ready.running
    allocated := congrArg (· + 64) ready.allocated }⟩

theorem Ready.send {batch : Sender.Batch} (whole : batch.count = 64)
    (ready : Ready allocated (.sending batch 0) state) :
    Ready allocated .checking (thirdsMachine.step state fullCall).1 := by
  simp only [thirdsMachine, Sender.machine, Sender.step, fullCall, Sender.workerStep,
    ready.position, Sender.answer]
  have sent : Sender.classifySendmmsgResult 64 0 64 = { successful := 64 } := rfl
  simp only [Sender.sendStep, whole, Nat.sub_zero, sent]
  exact {
    position := by simp [Sender.Worker.advance]
    socketOpen := by simpa [Sender.Worker.advance] using ready.socketOpen
    running := ready.running
    allocated := ready.allocated }

theorem Ready.batch (ready : Ready allocated .checking state) :
    Ready (allocated + 64) .checking (thirdsMachine.run state (List.replicate 3 fullCall)).1 := by
  rcases ready.choose.allocate with ⟨batch, whole, sending⟩
  exact sending.send whole

end

def manyBatches (count : Nat) : List (Sender.Action thirdsSender) :=
  (List.replicate count (List.replicate 3 fullCall)).flatten

theorem manyBatches_ready (count : Nat) :
    Ready (64 * count) .checking (thirdsMachine.run (Sender.start thirdsSender fun _ => none)
      (manyBatches count)).1 := by
  induction count with
  | zero => exact ⟨rfl, rfl, rfl, rfl⟩
  | succ count induction =>
      rw [manyBatches, List.replicate_succ', List.flatten_concat, Machine.run_append]
      exact induction.batch

theorem manyBatches_clockSet (count : Nat) : ∀ action ∈ manyBatches count, action.ClockSet := by
  intro action member
  rcases List.mem_flatten.mp member with ⟨batch, listed, inside⟩
  rw [List.eq_of_mem_replicate listed] at inside
  rw [List.eq_of_mem_replicate inside]
  exact fun _ => (by decide : (1 : UInt64) ≠ 0)

/-- The packet number 2^32 is sampled but has no timestamp. -/
theorem sampled_packet_lacks_timestamp :
    let outcome := thirdsMachine.run (Sender.start thirdsSender fun _ => none)
      (manyBatches (2 ^ 26 + 1))
    (∀ action ∈ manyBatches (2 ^ 26 + 1), action.ClockSet) ∧
      ¬ SamplingAgrees .little .little thirdsSender thirdsReceiver outcome.1.nextSequence
        (Sender.wire outcome.2) := by
  intro outcome
  refine ⟨manyBatches_clockSet _, ?_⟩
  intro agrees
  have positive : 1 ≤ thirdsReceiver.sampleEvery := by decide
  have allocated : outcome.1.nextSequence = 64 * (2 ^ 26 + 1) :=
    (manyBatches_ready (2 ^ 26 + 1)).allocated
  rcases fits_of_agrees positive rfl agrees with small | divides
  · omega
  · exact absurd divides (by decide)

theorem short_run_agrees :
    let outcome := thirdsMachine.run (Sender.start thirdsSender fun _ => none) (manyBatches 1)
    SamplingAgrees .little .big thirdsSender thirdsReceiver outcome.1.nextSequence
      (Sender.wire outcome.2) := by
  intro outcome
  have allocated : outcome.1.nextSequence = 64 := (manyBatches_ready 1).allocated
  apply (samplingAgrees_iff .little .big thirdsSender thirdsReceiver (by decide) rfl
    (thirdsSender.window 0) (fun _ => none) (manyBatches 1) (manyBatches_clockSet 1)).mpr
  exact .inl (allocated.trans_le (by decide))

end NetLatencyLab.Receiver
