import NetLatencyLab.Common.Internal.SpscQueueCalls
import NetLatencyLab.Common.SpscQueueContract
import NetLatencyLab.Receiver.Threaded

/-! # The invariant of `receiver_threaded`

The queue is driven exactly as `SpscQueue.machine` allows, so its contract holds
in every state. Beside it stand one invariant for each thread; a step of one
thread leaves the other's invariant alone. -/

namespace NetLatencyLab.Receiver

open BinaryLogger (completeFwrite)
open SpscQueue (accepted delivered pushes reads unpopped)

def queueActions (state : ThreadedState) :
    ThreadedAction → List (SpscQueue.Action ReceivedPacket)
  | .signal => []
  | .ingress _ =>
      match state.ingress.position with
      | .pushing packet _ _ _ => [.produce packet]
      | _ => []
  | .worker _ =>
      match state.worker.position with
      | .front _ => [.consume .front]
      | .pop _ => [.consume .pop]
      | _ => []

def queueProjection (fwrite : List UInt8 → Nat) (host : Endianness) (config : Config) :
    Projection (threadedMachine fwrite host config) (SpscQueue.machine queueCapacity true) where
  state := ThreadedState.queue
  actions := queueActions
  step := by
    intro state action
    cases action with
    | signal => rfl
    | ingress environment =>
        cases position : state.ingress.position with
        | handling batch receiveTs receiveMonoTs =>
            cases batch <;> simp [queueActions, threadedMachine, threadedStep, ingressStep, position]
        | joining drainStart =>
            simp only [queueActions, threadedMachine, threadedStep, ingressStep, position]
            split <;> rfl
        | _ =>
            simp [queueActions, threadedMachine, threadedStep, ingressStep, position,
              SpscQueue.machine, SpscQueue.step]
    | worker readings =>
        cases position : state.worker.position with
        | front round =>
            simp only [queueActions, threadedMachine, threadedStep, workerStep, position]
            split <;> simp [SpscQueue.machine, SpscQueue.step]
        | pop round =>
            simp only [queueActions, threadedMachine, threadedStep, workerStep, position]
            split <;> simp [SpscQueue.machine, SpscQueue.step]
        | _ => simp [queueActions, threadedMachine, threadedStep, workerStep, position]

/-! ## The two sides -/

def Ingress.batch : Ingress → List Datagram
  | handling batch _ _ => batch
  | pushing _ batch _ _ => batch
  | _ => []

/-- The packet that is accounted but whose `push` has not returned. -/
def Ingress.inFlight : Ingress → Option ReceivedPacket
  | pushing packet _ _ _ => some packet
  | _ => none

def Ingress.hasLeft : Ingress → Bool
  | measuring | announcing _ | joining _ | finished => true
  | _ => false

def Ingress.isDone : Ingress → Bool
  | joining _ | finished => true
  | _ => false

def Worker.isDraining : Worker → Bool
  | front .drain | pop .drain | exited => true
  | _ => false

/-- The ingress thread against the results of its calls of `push`. -/
structure IngressSide (host : Endianness) (config : Config) (datagrams : List Datagram)
    (pushed : List (ReceivedPacket × Bool)) (pending : Option ReceivedPacket) (stop : Bool)
    (thread : IngressThread) : Prop where
  received : ∃ taken, datagrams = taken ++ (thread.position.batch ++ thread.socket) ∧
    Received host config isTruncated thread.stats thread.sequences taken ∧
    (pushed.map Prod.fst ++ thread.position.inFlight.toList).map (·.message) =
      messages host taken
  sampled : ∀ packet ∈ pushed.map Prod.fst ++ thread.position.inFlight.toList,
    packet.sampled = isSampled config.sampleEvery packet.message
  overflow : thread.stats.spscOverflow = pushed.countP fun push => !push.2
  pending : ∀ packet ∈ pending, thread.position.inFlight = some packet
  limited : config.maxPackets ≠ 0 →
    thread.stats.datagramsReceived + thread.position.batch.length ≤ config.maxPackets
  leaving : thread.position = .leaving → HasReason config thread.stats stop
  left : thread.position.hasLeft → HasReason config thread.stats thread.stats.interrupted

structure WorkerSide (packets popped : List ReceivedPacket) (held : Option ReceivedPacket)
    (thread : WorkerThread) (logger : BinaryLogger) : Prop where
  processed : Processed thread.processing logger packets
  readEqual : packets = popped ++ held.toList
  holds : held.isSome ↔ ∃ round, thread.position = .pop round

structure ThreadedInvariant (host : Endianness) (config : Config) (datagrams : List Datagram)
    (history : List (SpscQueue.Event ReceivedPacket)) (state : ThreadedState) : Prop where
  ingress : IngressSide host config datagrams (pushes history) state.queue.producer.pending
    state.stop state.ingress
  worker : WorkerSide (reads history) ((delivered history).map Prod.snd)
    state.queue.consumer.held state.worker state.logger
  announced : state.producerDone → state.ingress.position.isDone
  draining : state.worker.position.isDraining → state.producerDone
  exited : state.worker.position = .exited → unpopped history = []
  finished : state.ingress.position = .finished →
    state.worker.position = .exited ∧
      Reported state.ingress.stats state.ingress.sequences state.worker.processing ∧
      ∃ entries, state.logger.contents = LatencyUtils.logFile entries ∧
        entries.map entryKey = ((reads history).filter (·.sampled)).map packetKey

private theorem threadedStart_invariant (host : Endianness) (config : Config)
    (datagrams : List Datagram) :
    ThreadedInvariant host config datagrams [] (threadedStart completeFwrite datagrams) where
  ingress := {
    received := ⟨[], rfl, .start, rfl⟩
    sampled := by simp [pushes, threadedStart, Ingress.inFlight]
    overflow := rfl
    pending := nofun
    limited := fun _ => Nat.zero_le _
    leaving := nofun
    left := nofun }
  worker := {
    processed := .start
    readEqual := rfl
    holds := by simp [threadedStart, SpscQueue.initial, SpscQueue.Consumer.held] }
  announced := nofun
  draining := nofun
  exited := nofun
  finished := nofun

variable {host : Endianness} {config : Config} {datagrams : List Datagram}

section IngressSteps

variable {pushed : List (ReceivedPacket × Bool)} {pending : Option ReceivedPacket} {stop : Bool}
  {thread : IngressThread}

theorem IngressSide.move (side : IngressSide host config datagrams pushed pending stop thread)
    {position : Ingress} {stats : Stats} (batch : position.batch = thread.position.batch)
    (inFlight : position.inFlight = thread.position.inFlight)
    (received : ∀ taken, Received host config isTruncated thread.stats thread.sequences taken →
      Received host config isTruncated stats thread.sequences taken)
    (overflow : stats.spscOverflow = thread.stats.spscOverflow)
    (leaving : position = .leaving → HasReason config stats stop)
    (left : position.hasLeft → HasReason config stats stats.interrupted) :
    IngressSide host config datagrams pushed pending stop
      { thread with position := position, stats := stats } := by
  rcases side.received with ⟨taken, split, before, messagesEqual⟩
  exact {
    received := ⟨taken, by rw [batch]; exact split, received taken before,
      by rw [inFlight]; exact messagesEqual⟩
    sampled := by
      rw [inFlight]
      exact side.sampled
    overflow := overflow.trans side.overflow
    pending := by
      rw [inFlight]
      exact side.pending
    limited := by
      intro nonzero
      have limit := side.limited nonzero
      have countBefore := before.datagramsReceived
      have countAfter := (received taken before).datagramsReceived
      rw [batch]
      simp only [countAfter, ← countBefore]
      exact limit
    leaving := leaving
    left := left }

theorem IngressSide.measure (side : IngressSide host config datagrams pushed pending stop thread)
    (position : thread.position = .measuring) (drainStart : UInt64) (depth : Nat) :
    IngressSide host config datagrams pushed pending stop
      { thread with
        position := .announcing drainStart
        stats := { thread.stats with queueDepthAtShutdown := depth } } :=
  side.move (by rw [position]; rfl) (by rw [position]; rfl)
    (fun _ received => received.of_stats rfl rfl rfl rfl rfl rfl rfl) rfl nofun
    (fun _ => side.left (by rw [position]; rfl))

theorem IngressSide.receive (side : IngressSide host config datagrams pushed pending stop thread)
    (position : thread.position = .receiving) (environment : Environment) :
    IngressSide host config datagrams pushed pending stop
      (ingressReceive config stop thread environment) := by
  have counted : ∀ taken, Received host config isTruncated thread.stats thread.sequences taken →
      Received host config isTruncated thread.stats.countSyscall thread.sequences taken :=
    fun taken received => received.of_stats rfl rfl rfl rfl rfl rfl rfl
  rw [ingressReceive]
  by_cases leave : (stop || !wantsMore config thread.stats) = true
  · rw [if_pos leave]
    exact side.move (by rw [position]; rfl) (by rw [position]; rfl) (fun _ same => same) rfl
      (fun _ => .of_leave leave) nofun
  · rw [if_neg leave]
    have wants := wantsMore_of_stay leave
    cases environment.reply with
    | failed errno =>
        by_cases transient : isTransient errno = true
        · simp only [transient, if_true]
          exact side.move rfl rfl counted rfl (fun left => absurd (position.symm.trans left) nofun)
            (by rw [position]; nofun)
        · simp only [transient, if_false, Bool.false_eq_true]
          exact side.move (by rw [position]; rfl) (by rw [position]; rfl)
            (fun taken received => (counted taken received).of_stats rfl rfl rfl rfl rfl rfl rfl)
            rfl (fun _ => .inr (.inr (Nat.succ_ne_zero _))) nofun
    | delivered count =>
        rcases side.received with ⟨taken, split, received, messagesEqual⟩
        have sampled := side.sampled
        have busy := side.pending
        rw [position] at split messagesEqual sampled busy
        have batchLength : (thread.socket.take (min count (requested config thread.stats))).length ≤
            requested config thread.stats :=
          (List.length_take_le _ _).trans (Nat.min_le_right _ _)
        exact {
          received := ⟨taken, by rw [split]; simp [Ingress.batch], counted taken received,
            messagesEqual⟩
          sampled := sampled
          overflow := side.overflow
          pending := busy
          limited := by
            intro nonzero
            have limit := add_requested_le wants nonzero
            exact (Nat.add_le_add_left batchLength _).trans limit
          leaving := nofun
          left := nofun }

private theorem ingressReceive_position_ne_finished (position : thread.position = .receiving)
    (environment : Environment) :
    (ingressReceive config stop thread environment).position ≠ .finished := by
  rw [ingressReceive]
  split
  · nofun
  · cases environment.reply with
    | failed errno =>
        by_cases transient : isTransient errno = true
        · simp only [transient, if_true, position]
          nofun
        · simp only [transient, if_false, Bool.false_eq_true]
          nofun
    | delivered count => nofun

private theorem ingressHandle_position_ne_finished (datagram : Datagram) (batch : List Datagram)
    (receiveTs receiveMonoTs : UInt64) :
    (ingressHandle host config thread datagram batch receiveTs receiveMonoTs).position ≠
      .finished := by
  rw [ingressHandle]
  dsimp only
  split <;> nofun

theorem IngressSide.handle (side : IngressSide host config datagrams pushed pending stop thread)
    {datagram : Datagram} {batch : List Datagram} {receiveTs receiveMonoTs : UInt64}
    (position : thread.position = .handling (datagram :: batch) receiveTs receiveMonoTs) :
    IngressSide host config datagrams pushed pending stop
      (ingressHandle host config thread datagram batch receiveTs receiveMonoTs) := by
  rcases side.received with ⟨taken, split, received, messagesEqual⟩
  have sampled := side.sampled
  have busy := side.pending
  have limited := side.limited
  rw [position] at split messagesEqual sampled busy limited
  have counted := received.record datagram receiveTs receiveMonoTs
  have packet := record_packet config (isTruncated datagram) thread.stats thread.sequences
    receiveTs receiveMonoTs (arrival host datagram)
  rw [← receiveMessage_eq] at counted packet
  have overflow : (receiveMessage host config thread.stats thread.sequences receiveTs receiveMonoTs
      datagram).1.spscOverflow = thread.stats.spscOverflow := by
    rw [receiveMessage_eq]
    exact record_spscOverflow ..
  have idle : ∀ packet, packet ∉ pending := fun packet member => absurd (busy packet member) nofun
  rw [ingressHandle]
  generalize receiveMessage host config thread.stats thread.sequences receiveTs receiveMonoTs
    datagram = outcome at counted packet overflow
  rcases outcome with ⟨stats, sequences, packet?⟩
  have stream : datagrams = (taken ++ [datagram]) ++ (batch ++ thread.socket) := by
    simpa [Ingress.batch] using split
  have headers : (pushed.map Prod.fst).map (·.message) = messages host taken := by
    simpa [Ingress.inFlight] using messagesEqual
  have limit : config.maxPackets ≠ 0 → stats.datagramsReceived + batch.length ≤
      config.maxPackets := by
    intro nonzero
    have before := limited nonzero
    have countBefore := received.datagramsReceived
    have countAfter := counted.datagramsReceived
    simp only [Ingress.batch, List.length_cons, List.length_append,
      List.length_nil] at before countAfter
    omega
  cases message : (arrival host datagram).message? with
  | none =>
      rw [message] at packet
      obtain rfl : packet? = none := packet
      exact {
        received := ⟨taken ++ [datagram], stream, counted, by
          simpa [Ingress.inFlight, message] using headers⟩
        sampled := sampled
        overflow := overflow.trans side.overflow
        pending := busy
        limited := limit
        leaving := nofun
        left := nofun }
  | some header =>
      rw [message] at packet
      obtain rfl : packet? = some _ := packet
      exact {
        received := ⟨taken ++ [datagram], stream, counted, by
          simpa [Ingress.inFlight, message] using headers⟩
        sampled := by
          intro given member
          rcases List.mem_append.mp member with old | new
          · exact sampled given (List.mem_append_left _ old)
          · rcases List.mem_singleton.mp new with rfl
            rfl
        overflow := overflow.trans side.overflow
        pending := fun given member => absurd member (idle given)
        limited := limit
        leaving := nofun
        left := nofun }

theorem IngressSide.returned (side : IngressSide host config datagrams pushed pending stop thread)
    {packet : ReceivedPacket} {batch : List Datagram} {receiveTs receiveMonoTs : UInt64}
    (position : thread.position = .pushing packet batch receiveTs receiveMonoTs) (result : Bool) :
    IngressSide host config datagrams (pushed ++ [(packet, result)]) none stop
      (ingressPushed thread batch receiveTs receiveMonoTs result) := by
  rcases side.received with ⟨taken, split, received, messagesEqual⟩
  have sampled := side.sampled
  have limited := side.limited
  rw [position] at split messagesEqual sampled limited
  exact {
    received := ⟨taken, split, by
      cases result
      · exact received.of_stats rfl rfl rfl rfl rfl rfl rfl
      · exact received, by simpa [ingressPushed, Ingress.inFlight] using messagesEqual⟩
    sampled := by simpa [ingressPushed, Ingress.inFlight] using sampled
    overflow := by
      cases result <;> simp [ingressPushed, Stats.countOverflow, side.overflow]
    pending := nofun
    limited := by
      cases result
      · exact limited
      · exact limited
    leaving := nofun
    left := nofun }

theorem IngressSide.stillPushing
    (side : IngressSide host config datagrams pushed pending stop thread)
    {packet : ReceivedPacket} {batch : List Datagram} {receiveTs receiveMonoTs : UInt64}
    (position : thread.position = .pushing packet batch receiveTs receiveMonoTs) :
    IngressSide host config datagrams pushed (some packet) stop thread :=
  { side with
    pending := by
      intro given member
      rw [position]
      exact member }

end IngressSteps

section WorkerSteps

variable {packets popped : List ReceivedPacket} {held : Option ReceivedPacket}
  {thread : WorkerThread} {logger : BinaryLogger}

theorem WorkerSide.held_eq_none (side : WorkerSide packets popped held thread logger)
    (notPop : ∀ round, thread.position ≠ .pop round) : held = none := by
  by_contra occupied
  rcases side.holds.mp (Option.isSome_iff_ne_none.mpr occupied) with ⟨round, position⟩
  exact notPop round position

theorem WorkerSide.move (side : WorkerSide packets popped none thread logger) {position : Worker}
    (notPop : ∀ round, position ≠ .pop round) :
    WorkerSide packets popped none { thread with position := position } logger :=
  { side with holds := by simpa using notPop }

theorem WorkerSide.process (side : WorkerSide packets popped none thread logger)
    (packet : ReceivedPacket) (workNs : Nat) (readings : ProcessReadings) (round : Round) :
    let processed :=
      processPacket completeFwrite logger thread.processing packet workNs readings
    WorkerSide (packets ++ [packet]) popped (some packet)
      { position := .pop round, processing := processed.2 } processed.1 where
  processed := side.processed.processPacket packet workNs readings
  readEqual := by simp [side.readEqual]
  holds := by simp

theorem WorkerSide.release {packet : ReceivedPacket}
    (side : WorkerSide packets popped (some packet) thread logger) {position : Worker}
    (notPop : ∀ round, position ≠ .pop round) :
    WorkerSide packets (popped ++ [packet]) none { thread with position := position } logger where
  processed := side.processed
  readEqual := by simp [side.readEqual]
  holds := by simpa using notPop

end WorkerSteps

theorem Round.afterEmpty_ne_pop (round other : Round) : round.afterEmpty ≠ .pop other := by
  cases round <;> nofun

theorem Round.afterEmpty_isDraining {round : Round}
    (draining : round.afterEmpty.isDraining) : (Worker.front round).isDraining := by
  cases round with
  | batch index => cases draining
  | drain => rfl

theorem Round.afterPop_ne_pop (config : Config) (round other : Round) :
    round.afterPop config ≠ .pop other := by
  cases round with
  | batch index =>
      rw [afterPop]
      split <;> nofun
  | drain => nofun

theorem Round.afterPop_ne_exited (config : Config) (round : Round) :
    round.afterPop config ≠ .exited := by
  cases round with
  | batch index =>
      rw [afterPop]
      split <;> nofun
  | drain => nofun

theorem Round.afterPop_isDraining {config : Config} {round : Round}
    (draining : (round.afterPop config).isDraining) : (Worker.pop round).isDraining := by
  cases round with
  | batch index =>
      rw [afterPop] at draining
      split at draining <;> cases draining
  | drain => rfl

theorem Worker.isDraining_pop (round : Round) :
    (Worker.pop round).isDraining = (Worker.front round).isDraining := by
  cases round <;> rfl

/-! ## One step of the receiver -/

section Steps

variable {history : List (SpscQueue.Event ReceivedPacket)} {state : ThreadedState}

theorem ThreadedInvariant.of_worker (invariant : ThreadedInvariant host config datagrams history state)
    (running : state.worker.position ≠ .exited)
    {events : List (SpscQueue.Event ReceivedPacket)}
    {queue : SpscQueue.State ReceivedPacket} {thread : WorkerThread} {logger : BinaryLogger}
    (pushed : pushes (history ++ events) = pushes history)
    (producer : queue.producer = state.queue.producer)
    (side : WorkerSide (reads (history ++ events)) ((delivered (history ++ events)).map Prod.snd)
      queue.consumer.held thread logger)
    (draining : thread.position.isDraining → state.producerDone)
    (exited : thread.position = .exited → unpopped (history ++ events) = []) :
    ThreadedInvariant host config datagrams (history ++ events)
      { state with queue := queue, worker := thread, logger := logger } where
  ingress := by
    rw [pushed, producer]
    exact invariant.ingress
  worker := side
  announced := invariant.announced
  draining := draining
  exited := exited
  finished := fun ended => absurd (invariant.finished ended).1 running

theorem ThreadedInvariant.front
    (invariant : ThreadedInvariant host config datagrams history state)
    (represents : SpscQueue.Represents queueCapacity state.queue (unpopped history))
    {round : Round} (position : state.worker.position = .front round)
    (readings : ProcessReadings) :
    ThreadedInvariant host config datagrams
      (history ++ (workerStep completeFwrite config state readings).2)
      (workerStep completeFwrite config state readings).1 := by
  have side := invariant.worker
  have draining := invariant.draining
  have running : state.worker.position ≠ .exited := by rw [position]; nofun
  have free := side.held_eq_none fun round => by rw [position]; nofun
  rcases SpscQueue.frontStep_cases queueCapacity state.queue true free with ⟨kept, answer⟩
  have producer := SpscQueue.consumerStep_producer queueCapacity state.queue true .front
  have silent := SpscQueue.consumerStep_pushAnswer? queueCapacity state.queue true .front
  have reported : (SpscQueue.step queueCapacity true state.queue (.consume .front)).2 = .empty →
      unpopped history = [] := fun empty => represents.empty_exact empty
  rw [SpscQueue.step] at reported
  rw [free] at side
  simp only [workerStep, position]
  generalize SpscQueue.consumerStep queueCapacity true state.queue .front = fronted at *
  have pushed := SpscQueue.pushes_concat_of_none history silent
  have poppedEqual := SpscQueue.delivered_concat_of_none history kept
  have readsEqual := SpscQueue.reads_concat history fronted.2
  cases front : fronted.2.frontAnswer? with
  | none =>
      rw [front, Option.join_none] at answer readsEqual
      refine invariant.of_worker running pushed producer ?_ draining (by rw [position]; nofun)
      rw [poppedEqual, readsEqual, ← answer, Option.toList_none, List.append_nil]
      exact side
  | some answered =>
      rw [position] at draining
      cases answered with
      | none =>
          rw [front, Option.join_some] at answer readsEqual
          have empty := SpscQueue.eq_empty_of_frontAnswer? front
          dsimp only
          refine invariant.of_worker running pushed producer ?_
            (draining ∘ Round.afterEmpty_isDraining) ?_
          · rw [poppedEqual, readsEqual, ← answer, Option.toList_none, List.append_nil]
            exact side.move round.afterEmpty_ne_pop
          · intro _
            rw [empty, SpscQueue.unpopped_concat_empty]
            exact reported empty
      | some packet =>
          rw [front, Option.join_some] at answer readsEqual
          rw [← Worker.isDraining_pop] at draining
          refine invariant.of_worker running pushed producer ?_ draining nofun
          rw [poppedEqual, readsEqual, ← answer]
          exact side.process packet config.workNs readings round

theorem ThreadedInvariant.pop
    (invariant : ThreadedInvariant host config datagrams history state)
    {round : Round} (position : state.worker.position = .pop round)
    (readings : ProcessReadings) :
    ThreadedInvariant host config datagrams
      (history ++ (workerStep completeFwrite config state readings).2)
      (workerStep completeFwrite config state readings).1 := by
  have side := invariant.worker
  have draining := invariant.draining
  have running : state.worker.position ≠ .exited := by rw [position]; nofun
  rcases Option.isSome_iff_exists.mp (side.holds.mpr ⟨round, position⟩) with ⟨packet, holding⟩
  rcases SpscQueue.popStep_cases queueCapacity state.queue holding with ⟨unread, outcome⟩
  have producer := SpscQueue.consumerStep_producer queueCapacity state.queue true .pop
  have silent := SpscQueue.consumerStep_pushAnswer? queueCapacity state.queue true .pop
  rw [holding] at side
  simp only [workerStep, position]
  generalize SpscQueue.consumerStep queueCapacity true state.queue .pop = popped at *
  have pushed := SpscQueue.pushes_concat_of_none history silent
  have readsEqual : reads (history ++ [popped.2]) = reads history :=
    SpscQueue.reads_concat_of_none history (by rw [unread, Option.join_none])
  rcases outcome with ⟨slot, returned, idle⟩ | ⟨busy, held⟩
  · simp only [returned]
    rw [position] at draining
    refine invariant.of_worker running pushed producer ?_ (draining ∘ Round.afterPop_isDraining)
      fun exited => absurd exited (round.afterPop_ne_exited config)
    rw [readsEqual, SpscQueue.delivered_concat, returned, idle, List.map_append]
    exact side.release (round.afterPop_ne_pop config)
  · simp only [busy]
    refine invariant.of_worker running pushed producer ?_ draining (by rw [position]; nofun)
    rw [readsEqual, SpscQueue.delivered_concat_of_none history busy, held]
    exact side

private theorem workerStep_invariant
    (invariant : ThreadedInvariant host config datagrams history state)
    (represents : SpscQueue.Represents queueCapacity state.queue (unpopped history))
    (readings : ProcessReadings) :
    ThreadedInvariant host config datagrams
      (history ++ (workerStep completeFwrite config state readings).2)
      (workerStep completeFwrite config state readings).1 := by
  cases position : state.worker.position with
  | checking =>
      have side := invariant.worker
      have free := side.held_eq_none fun round => by rw [position]; nofun
      rw [free] at side
      simp only [workerStep, position]
      refine invariant.of_worker (by rw [position]; nofun) (by rw [List.append_nil]) rfl ?_ ?_ ?_
      · rw [List.append_nil, free]
        exact side.move nofun
      · cases state.producerDone <;> simp [Worker.isDraining]
      · cases state.producerDone <;> nofun
  | front round => exact invariant.front represents position readings
  | pop round => exact invariant.pop position readings
  | exited =>
      simp only [workerStep, position, List.append_nil]
      exact invariant

theorem ThreadedInvariant.of_ingress
    (invariant : ThreadedInvariant host config datagrams history state)
    (busy : state.ingress.position.isDone = false)
    {events : List (SpscQueue.Event ReceivedPacket)}
    {queue : SpscQueue.State ReceivedPacket} {thread : IngressThread}
    (readsEqual : reads (history ++ events) = reads history)
    (poppedEqual : delivered (history ++ events) = delivered history)
    (consumer : queue.consumer = state.queue.consumer)
    (side : IngressSide host config datagrams (pushes (history ++ events)) queue.producer.pending
      state.stop thread)
    (unfinished : thread.position ≠ .finished) :
    ThreadedInvariant host config datagrams (history ++ events)
      { state with queue := queue, ingress := thread } := by
  have working : state.producerDone = true → False := by
    intro done
    rw [invariant.announced done] at busy
    cases busy
  exact {
    ingress := side
    worker := by
      rw [readsEqual, poppedEqual, consumer]
      exact invariant.worker
    announced := fun done => (working done).elim
    draining := invariant.draining
    exited := by
      intro ended
      have draining := invariant.draining
      rw [ended] at draining
      exact (working (draining rfl)).elim
    finished := fun ended => absurd ended unfinished }

theorem ThreadedInvariant.push
    (invariant : ThreadedInvariant host config datagrams history state)
    {packet : ReceivedPacket} {batch : List Datagram} {receiveTs receiveMonoTs : UInt64}
    (position : state.ingress.position = .pushing packet batch receiveTs receiveMonoTs)
    (environment : Environment) :
    ThreadedInvariant host config datagrams
      (history ++ (ingressStep completeFwrite host config state environment).2)
      (ingressStep completeFwrite host config state environment).1 := by
  have side := invariant.ingress
  have undone : state.ingress.position.isDone = false := by rw [position]; rfl
  have calling : ∀ pending ∈ state.queue.producer.pending, pending = packet := by
    intro pending member
    have inFlight := side.pending pending member
    rw [position] at inFlight
    exact (Option.some.inj inFlight).symm
  have outcome := SpscQueue.producerStep_cases queueCapacity state.queue calling
  have consumer := SpscQueue.producerStep_consumer queueCapacity state.queue packet
  have unread := SpscQueue.producerStep_frontAnswer? queueCapacity state.queue packet
  have unpopped := SpscQueue.producerStep_popped? queueCapacity state.queue packet
  simp only [ingressStep, position]
  generalize SpscQueue.producerStep queueCapacity state.queue packet = pushed at *
  have readsEqual : reads (history ++ [pushed.2]) = reads history :=
    SpscQueue.reads_concat_of_none history (by rw [unread, Option.join_none])
  have poppedEqual := SpscQueue.delivered_concat_of_none history unpopped
  rcases outcome with ⟨result, answer, idle⟩ | ⟨busy, pending⟩
  · simp only [answer]
    refine invariant.of_ingress undone readsEqual poppedEqual consumer ?_ nofun
    rw [SpscQueue.pushes_concat, answer, idle]
    exact side.returned position result
  · simp only [busy]
    refine invariant.of_ingress undone readsEqual poppedEqual consumer ?_ (by rw [position]; nofun)
    rw [SpscQueue.pushes_concat_of_none history busy, pending]
    exact side.stillPushing position

theorem ThreadedInvariant.announce
    (invariant : ThreadedInvariant host config datagrams history state) {drainStart : UInt64}
    (position : state.ingress.position = .announcing drainStart) :
    ThreadedInvariant host config datagrams history
      { state with
        producerDone := true
        ingress := { state.ingress with position := .joining drainStart } } where
  ingress := invariant.ingress.move (by rw [position]; rfl) (by rw [position]; rfl)
    (fun _ same => same) rfl nofun (fun _ => invariant.ingress.left (by rw [position]; rfl))
  worker := invariant.worker
  announced := fun _ => rfl
  draining := fun _ => rfl
  exited := invariant.exited
  finished := nofun

theorem ThreadedInvariant.join
    (invariant : ThreadedInvariant host config datagrams history state)
    {drainStart drainNs : UInt64} (position : state.ingress.position = .joining drainStart)
    (exited : state.worker.position = .exited) :
    ThreadedInvariant host config datagrams history
      { state with
        ingress :=
          { state.ingress with
            position := .finished
            stats := joinedStats state.ingress state.worker.processing drainNs }
        logger := state.logger.flush completeFwrite } where
  ingress := invariant.ingress.move (by rw [position]; rfl) (by rw [position]; rfl)
    (fun _ received => received.of_stats rfl rfl rfl rfl rfl rfl rfl) rfl nofun
    (fun _ => invariant.ingress.left (by rw [position]; rfl))
  worker := { invariant.worker with processed := invariant.worker.processed.flushed }
  announced := fun _ => rfl
  draining := invariant.draining
  exited := invariant.exited
  finished := fun _ => ⟨exited, rfl, invariant.worker.processed.flush⟩

private theorem ingressStep_invariant
    (invariant : ThreadedInvariant host config datagrams history state)
    (environment : Environment) :
    ThreadedInvariant host config datagrams
      (history ++ (ingressStep completeFwrite host config state environment).2)
      (ingressStep completeFwrite host config state environment).1 := by
  have side := invariant.ingress
  have quiet := invariant.of_ingress
  have same : history ++ [] = history := List.append_nil history
  cases position : state.ingress.position with
  | receiving =>
      simp only [ingressStep, position]
      refine quiet (by rw [position]; rfl) (by rw [same]) (by rw [same]) rfl ?_ ?_
      · rw [same]
        exact side.receive position environment
      · exact ingressReceive_position_ne_finished position environment
  | handling batch receiveTs receiveMonoTs =>
      cases batch with
      | nil =>
          simp only [ingressStep, position]
          refine quiet (by rw [position]; rfl) (by rw [same]) (by rw [same]) rfl ?_ nofun
          rw [same]
          exact side.move (by rw [position]; rfl) (by rw [position]; rfl) (fun _ same => same) rfl
            nofun nofun
      | cons datagram batch =>
          simp only [ingressStep, position]
          refine quiet (by rw [position]; rfl) (by rw [same]) (by rw [same]) rfl ?_ ?_
          · rw [same]
            exact side.handle position
          · exact ingressHandle_position_ne_finished datagram batch receiveTs receiveMonoTs
  | pushing packet batch receiveTs receiveMonoTs => exact invariant.push position environment
  | leaving =>
      simp only [ingressStep, position]
      refine quiet (by rw [position]; rfl) (by rw [same]) (by rw [same]) rfl ?_ nofun
      rw [same]
      exact side.move (by rw [position]; rfl) (by rw [position]; rfl)
        (fun _ received => received.of_stats rfl rfl rfl rfl rfl rfl rfl) rfl nofun
        (fun _ => side.leaving position)
  | measuring =>
      simp only [ingressStep, position, measuredStats]
      refine quiet (by rw [position]; rfl) (by rw [same]) (by rw [same]) rfl ?_ nofun
      rw [same]
      exact side.measure position _ _
  | announcing drainStart =>
      simp only [ingressStep, position, same]
      exact invariant.announce position
  | joining drainStart =>
      simp only [ingressStep, position]
      split
      · rename_i exited
        rw [same]
        exact invariant.join position exited
      · rw [same]
        exact invariant
  | finished =>
      simp only [ingressStep, position, same]
      exact invariant

theorem ThreadedInvariant.signal
    (invariant : ThreadedInvariant host config datagrams history state) :
    ThreadedInvariant host config datagrams history { state with stop := true } :=
  { invariant with
    ingress := { invariant.ingress with leaving := fun _ => .inr (.inl rfl) } }

private theorem threadedStep_invariant
    (invariant : ThreadedInvariant host config datagrams history state)
    (represents : SpscQueue.Represents queueCapacity state.queue (unpopped history))
    (action : ThreadedAction) :
    ThreadedInvariant host config datagrams
      (history ++ (threadedStep completeFwrite host config state action).2)
      (threadedStep completeFwrite host config state action).1 := by
  cases action with
  | signal =>
      rw [threadedStep, List.append_nil]
      exact invariant.signal
  | ingress environment => exact ingressStep_invariant invariant environment
  | worker readings => exact workerStep_invariant invariant represents readings

end Steps

/-! ## Whole runs -/

theorem threaded_run_invariant (host : Endianness) (config : Config) (datagrams : List Datagram)
    (schedule : List ThreadedAction) :
    let outcome := (threadedMachine completeFwrite host config).run
      (threadedStart completeFwrite datagrams) schedule
    (SpscQueue.Represents queueCapacity outcome.1.queue (unpopped outcome.2) ∧
        accepted outcome.2 = delivered outcome.2 ++ unpopped outcome.2) ∧
      ThreadedInvariant host config datagrams outcome.2 outcome.1 := by
  apply (queueProjection completeFwrite host config).run_invariant
    fun history queue =>
      SpscQueue.Represents queueCapacity queue (unpopped history) ∧
        accepted history = delivered history ++ unpopped history
  · exact SpscQueue.run_represents queueCapacity true fun _ => default
  · exact threadedStart_invariant host config datagrams
  · intro history state action guarantee invariant
    exact threadedStep_invariant invariant guarantee.1 action

end NetLatencyLab.Receiver
