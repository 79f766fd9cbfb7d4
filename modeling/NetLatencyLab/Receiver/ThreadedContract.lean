import NetLatencyLab.Receiver.Internal.ThreadedInvariant

/-! # What `receiver_threaded` guarantees

After the worker has joined, every received packet has been processed or
counted as an overflow, whatever the interleaving was. -/

namespace NetLatencyLab.Receiver

open BinaryLogger (completeFwrite)
open SpscQueue (accepted delivered pushes reads unpopped)

/-- A run after `worker.join()`; `received` are the datagrams it has received. -/
structure Drained (host : Endianness) (config : Config) (received : List Datagram)
    (history : List (SpscQueue.Event ReceivedPacket)) (state : ThreadedState) : Prop where
  queueEmpty : state.queue.head = state.queue.tail ∧ unpopped history = []
  counted : Received host config isTruncated state.ingress.stats state.ingress.sequences received
  pushedEqual : ((pushes history).map Prod.fst).map (·.message) = messages host received
  sampled : ∀ packet ∈ (pushes history).map Prod.fst,
    packet.sampled = isSampled config.sampleEvery packet.message
  overflow : state.ingress.stats.spscOverflow = (pushes history).countP fun push => !push.2
  readsEqual : reads history = ((pushes history).filter fun push => push.2).map Prod.fst
  processed : Processed state.worker.processing state.logger (reads history)
  reported : Reported state.ingress.stats state.ingress.sequences state.worker.processing
  logged : ∃ entries, state.logger.contents = LatencyUtils.logFile entries ∧
    entries.map entryKey = ((reads history).filter (·.sampled)).map packetKey
  limited : config.maxPackets ≠ 0 → state.ingress.stats.datagramsReceived ≤ config.maxPackets
  reason : HasReason config state.ingress.stats state.ingress.stats.interrupted

variable {host : Endianness} {config : Config} {datagrams received : List Datagram}
  {history : List (SpscQueue.Event ReceivedPacket)} {state : ThreadedState}

theorem ThreadedInvariant.reads_eq
    (invariant : ThreadedInvariant host config datagrams history state)
    (conserved : accepted history = delivered history ++ unpopped history)
    (exited : state.worker.position = .exited) :
    reads history = ((pushes history).filter fun push => push.2).map Prod.fst := by
  have free : state.queue.consumer.held = none :=
    invariant.worker.held_eq_none fun round => by rw [exited]; nofun
  have readEqual := invariant.worker.readEqual
  rw [free, Option.toList_none, List.append_nil] at readEqual
  rw [invariant.exited exited, List.append_nil] at conserved
  rw [readEqual, ← conserved, SpscQueue.accepted_values_eq]

theorem ThreadedInvariant.drained
    (invariant : ThreadedInvariant host config datagrams history state)
    (represents : SpscQueue.Represents queueCapacity state.queue (unpopped history))
    (conserved : accepted history = delivered history ++ unpopped history)
    (finished : state.ingress.position = .finished) :
    ∃ received, datagrams = received ++ state.ingress.socket ∧
      Drained host config received history state := by
  rcases invariant.finished finished with ⟨exited, reported, logged⟩
  have side := invariant.ingress
  rcases side.received with ⟨received, split, counted, pushedEqual⟩
  have sampled := side.sampled
  have limited := side.limited
  have reason := side.left (by rw [finished]; rfl)
  have empty := invariant.exited exited
  rw [empty] at represents
  simp only [finished, Ingress.batch, Ingress.inFlight, Option.toList_none, List.append_nil,
    List.nil_append, List.length_nil, Nat.add_zero] at split pushedEqual sampled limited
  exact ⟨received, split, {
    queueEmpty := ⟨represents.head_eq_tail_iff.mpr rfl, empty⟩
    counted := counted
    pushedEqual := pushedEqual
    sampled := sampled
    overflow := side.overflow
    readsEqual := invariant.reads_eq conserved exited
    processed := invariant.worker.processed
    reported := reported
    logged := logged
    limited := limited
    reason := reason }⟩

theorem threaded_run_drained (host : Endianness) (config : Config) (datagrams : List Datagram)
    (schedule : List ThreadedAction) :
    let outcome := (threadedMachine completeFwrite host config).run
      (threadedStart completeFwrite datagrams) schedule
    outcome.1.ingress.position = .finished →
      ∃ received, datagrams = received ++ outcome.1.ingress.socket ∧
        Drained host config received outcome.2 outcome.1 := by
  intro outcome finished
  rcases threaded_run_invariant host config datagrams schedule with
    ⟨⟨represents, conserved⟩, invariant⟩
  exact invariant.drained represents conserved finished

theorem Drained.processed_add_overflow (drained : Drained host config received history state) :
    state.ingress.stats.processedPackets + state.ingress.stats.spscOverflow =
      state.ingress.stats.validPackets := by
  have processed : state.ingress.stats.processedPackets = (reads history).length :=
    (congrArg Stats.processedPackets drained.reported).symm.trans
      drained.processed.processedPackets
  have valid : state.ingress.stats.validPackets = (pushes history).length := by
    rw [drained.counted.validPackets, ← drained.pushedEqual, List.length_map, List.length_map]
  have answers := List.length_eq_countP_add_countP Prod.snd (l := pushes history)
  simp only [Bool.not_eq_true, Bool.decide_eq_false] at answers
  rw [processed, drained.overflow, valid, answers, drained.readsEqual, List.length_map,
    ← List.countP_eq_length_filter]

theorem Drained.log_contents (drained : Drained host config received history state) :
    ∃ entries, state.logger.contents = LatencyUtils.logFile entries ∧
      entries.map entryKey = ((reads history).filter fun packet =>
        config.sampleEvery ≠ 0 ∧ packet.message.seqIdx.toNat % config.sampleEvery = 0).map
          packetKey := by
  rcases drained.logged with ⟨entries, contents, keys⟩
  refine ⟨entries, contents, keys.trans (congrArg _ (List.filter_congr ?_))⟩
  intro packet member
  rw [drained.readsEqual] at member
  have pushed : packet ∈ (pushes history).map Prod.fst :=
    (List.filter_sublist.map Prod.fst).subset member
  rw [drained.sampled packet pushed, isSampled]
  grind

/-- The end of `receiver_threaded`. For every stream, batching and interleaving
the worker processes exactly the valid packets whose push succeeded, in order of
arrival, and logs the sampled ones among them. -/
theorem threaded_drains (host : Endianness) (config : Config) (datagrams : List Datagram)
    (schedule : List ThreadedAction)
    (finished : ((threadedMachine completeFwrite host config).run
      (threadedStart completeFwrite datagrams) schedule).1.ingress.position = .finished) :
    let outcome := (threadedMachine completeFwrite host config).run
      (threadedStart completeFwrite datagrams) schedule
    let history := outcome.2
    let stats := outcome.1.ingress.stats
    (outcome.1.queue.head = outcome.1.queue.tail ∧ unpopped history = []) ∧
      stats.datagramsReceived = stats.validPackets + stats.shortPackets + stats.invalidMagic +
        stats.unsupportedVersion ∧
      stats.processedPackets + stats.spscOverflow = stats.validPackets ∧
      (∃ received, datagrams = received ++ outcome.1.ingress.socket ∧
        stats.datagramsReceived = received.length ∧
        ((pushes history).map Prod.fst).map (·.message) = messages host received) ∧
      reads history = ((pushes history).filter fun push => push.2).map Prod.fst ∧
      stats.processedPackets = (reads history).length ∧
      ∃ entries, outcome.1.logger.contents = LatencyUtils.logFile entries ∧
        entries.map entryKey = ((reads history).filter fun packet =>
          config.sampleEvery ≠ 0 ∧ packet.message.seqIdx.toNat % config.sampleEvery = 0).map
            packetKey := by
  intro outcome history stats
  rcases threaded_run_drained host config datagrams schedule finished with
    ⟨received, split, drained⟩
  have processed : stats.processedPackets = (reads history).length :=
    (congrArg Stats.processedPackets drained.reported).symm.trans
      drained.processed.processedPackets
  exact ⟨drained.queueEmpty, drained.counted.partition, drained.processed_add_overflow,
    ⟨received, split, drained.counted.datagramsReceived, drained.pushedEqual⟩,
    drained.readsEqual, processed, drained.log_contents⟩

/-! ## A short run -/

/-- A probe with sequence number 7 and a datagram that is too short. -/
def shortStream : List Datagram :=
  [[0x65, 0x84, 1, 0, 0, 0, 0, 7, 0, 0, 0, 0, 0, 0, 0, 9] ++ List.replicate 16 0, [0x65, 0x84]]

def shortConfig : Config where
  maxPackets := 2
  batchSize := 8
  workNs := 0
  sampleEvery := 1
  batchRange := by decide

/-- A pass whose call, if it makes one, is answered by `reply`. -/
def shortPass (reply : Reply) : Environment where
  reply := reply
  realNs := 100
  monoNs := 100
  process := fun _ => default
  pendingBytes := 0

/-- The worker looks before the first datagram is pushed, and again only after
the ingress thread has left its loop. -/
def shortSchedule : List ThreadedAction :=
  List.replicate 3 (.worker default) ++
    [.ingress (shortPass (.failed 11))] ++
    List.replicate 15 (.ingress (shortPass (.delivered 1))) ++
    List.replicate 8 (.worker default) ++
    [.ingress (shortPass (.failed 4))]

theorem threaded_drains_short_stream :
    let stats := ((threadedMachine completeFwrite .little shortConfig).run
      (threadedStart completeFwrite shortStream) shortSchedule).1.ingress.stats
    stats.validPackets = 1 ∧ stats.processedPackets + stats.spscOverflow = stats.validPackets :=
  ⟨rfl, (threaded_drains .little shortConfig shortStream shortSchedule rfl).2.2.1⟩

end NetLatencyLab.Receiver
