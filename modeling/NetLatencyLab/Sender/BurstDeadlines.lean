import NetLatencyLab.Sender.Pacing

/-! # Deadlines of bursts

The packets of a burst are released at the deadline of its first packet. What is
recorded for a call is the deadline of the first packet that the call sent. -/

namespace NetLatencyLab.Sender

def Call.firstPacket (call : Call) : Nat := call.packetIndex + call.offset

def burstStart (config : Config) (packetIndex : Nat) : Nat :=
  packetIndex - packetIndex % config.burstSize

/-- `offset_deadline` of a call in burst mode. -/
def Call.recorded (config : Config) (startNs : Nat) (call : Call) : Nat :=
  deadlineNs startNs call.firstPacket config.ratePps

def Call.lateness (config : Config) (startNs : Nat) (call : Call) : Nat :=
  call.invocation - call.recorded config startNs

structure Lists (config : Config) (startNs : Nat) (history : List Call) (stats : WorkerStats) :
    Prop where
  lateness : stats.latenessNs = history.map (Call.lateness config startNs)
  trace : config.tracing →
    stats.trace.map TraceRecord.scheduledMonoNs = history.map (Call.recorded config startNs)

section

variable {host : Endianness} {config : Config} {startNs : Nat} {history : List Call}

theorem Lists.quiet {stats next : WorkerStats} (lists : Lists config startNs history stats)
    (lateness : next.latenessNs = stats.latenessNs) (trace : next.trace = stats.trace) :
    Lists config startNs history next where
  lateness := by rw [lateness]; exact lists.lateness
  trace := by rw [trace]; exact lists.trace

theorem Lists.sendStep {index : Nat} {clock : Nat} {stop : Bool} {worker : Worker} {batch : Batch}
    {offset : Nat} (lists : Lists config startNs history worker.stats)
    (burst : config.mode = .burst) (position : worker.position = .sending batch offset)
    (within : offset < batch.count)
    (inside : worker.packetIndex + batch.count ≤ 2 ^ 64) (environment : Environment) :
    Lists config startNs
      (history ++ callOf index clock stop worker { environment with invocation := clock })
      (sendStep config (config.window startNs) index stop worker batch offset
        { environment with invocation := clock }).stats := by
  have threads := config.burstThreads burst
  have index64 : (worker.packetIndex + offset * config.threads) % 2 ^ 64 =
      worker.packetIndex + offset := by
    rw [threads, Nat.mul_one, Nat.mod_eq_of_lt (by omega)]
  generalize called : { environment with invocation := clock } = call
  have invoked : call.invocation = clock := by rw [← called]
  by_cases positive : 0 < call.result
  · rw [callOf_of_pos index clock stop position within positive,
      sendStep_of_pos (config.window startNs) index stop worker batch offset positive]
    dsimp only
    generalize min call.result.toNat (batch.count - offset) = sent
    have recorded : Lists config startNs (history ++
        [{ worker := index
           stopped := stop
           invocation := clock
           waited := batch.scheduled
           packetIndex := worker.packetIndex
           offset := offset
           successful := sent }])
        (recordSuccess config (config.window startNs) index worker.packetIndex
          { worker.stats with syscallCount := worker.stats.syscallCount + 1 } batch offset
          { successful := sent, isPartial := sent < batch.count - offset } call) := by
      constructor
      · simp only [recordSuccess, offsetDeadline, burst, index64, invoked, List.map_append,
          lists.lateness]
        rfl
      · intro tracing
        simp only [recordSuccess, offsetDeadline, burst, index64, tracing, if_true,
          List.map_append, lists.trace tracing]
        rfl
    split
    · exact recorded
    · exact recorded
  · rw [callOf_of_nonpos index clock stop position positive, List.append_nil]
    by_cases interrupted : call.result < 0 ∧ call.errno = interruptedCall
    · rw [sendStep_of_interrupted _ index stop worker batch offset interrupted]
      dsimp only
      split
      · exact lists.quiet rfl rfl
      · exact lists.quiet rfl rfl
    · rcases sendStep_of_failed (config.window startNs) index stop worker batch offset positive
        interrupted within with ⟨reported, failed⟩
      rw [failed]
      exact lists.quiet rfl rfl

theorem Chosen.burst {packetIndex count scheduled : Nat} (burst : config.mode = .burst)
    (chosen : Chosen config (config.window startNs) packetIndex count scheduled) :
    packetIndex + count < 2 ^ 64 ∧ packetIndex % config.burstSize + count ≤ config.burstSize ∧
      scheduled = deadlineNs startNs (burstStart config packetIndex) config.ratePps := by
  rcases chosen with ⟨left, chosen⟩
  simp only [chooseBatch, burst, Prod.mk.injEq] at chosen
  rcases chosen with ⟨size, deadline⟩
  have limit : (config.window startNs).packetLimit < 2 ^ 64 := Nat.mod_lt _ (by decide)
  have remainder := Nat.mod_lt packetIndex config.burstRange.1
  exact ⟨by omega, by omega, deadline.symm⟩

theorem Lists.workerStep {state : State config} {index : Fin config.threads} {clock : Nat}
    (lists : Lists config startNs history (state.workers index).stats)
    (burst : config.mode = .burst)
    (paced : (state.workers index).Paced config (config.window startNs) state.stop clock false)
    (environment : Environment) :
    Lists config startNs
      (history ++ callOf index clock state.stop (state.workers index) environment)
      ((Sender.workerStep host config (config.window startNs) state index
        { environment with now := clock, invocation := clock }).1.workers index).stats := by
  rw [Worker.Paced] at paced
  cases position : (state.workers index).position with
  | sending batch offset =>
      simp only [position] at paced
      rcases paced with ⟨chosen, within, _⟩
      have range := (chosen.burst burst).1
      simp only [Sender.workerStep, position, Function.update_self]
      exact lists.sendStep burst position within range.le { environment with now := clock }
  | checking =>
      simp only [callOf, position, List.append_nil, Sender.workerStep]
      split
      · simpa using lists
      · simpa using lists
  | allocating count scheduled =>
      simp only [callOf, position, List.append_nil, Sender.workerStep, Function.update_self]
      exact lists.quiet rfl rfl
  | leaving =>
      simp only [callOf, position, List.append_nil, Sender.workerStep, Function.update_self]
      rw [leaveStats]
      split
      · exact lists
      · exact lists.quiet rfl rfl
  | finished =>
      simp only [callOf, position, List.append_nil, Sender.workerStep]
      exact lists

private theorem run_lists (host : Endianness) (burst : config.mode = .burst)
    (connect : Fin config.threads → Option Nat) (clock : Nat)
    (schedule : List (PacedAction config)) :
    let outcome := (pacedMachine host config (config.window startNs)).run
      (pacedStart config connect clock) schedule
    PacedInvariant config (config.window startNs) outcome.2 outcome.1 ∧
      ∀ index, Lists config startNs outcome.2 (outcome.1.sender.workers index).stats := by
  have paced : config.mode ≠ .flood := by rw [burst]; nofun
  have single : ∀ index other : Fin config.threads, index = other := by
    intro index other
    have threads := config.burstThreads burst
    exact Fin.ext (by omega)
  apply (pacedMachine host config (config.window startNs)).run_invariant
    fun history state => PacedInvariant config (config.window startNs) history state ∧
      ∀ index, Lists config startNs history (state.sender.workers index).stats
  · exact ⟨pacedStart_invariant connect clock, fun _ => ⟨rfl, fun _ => rfl⟩⟩
  · intro history state action invariant
    rcases invariant with ⟨invariant, lists⟩
    refine ⟨invariant.step paced action, ?_⟩
    cases action with
    | elapse ns => simpa [pacedMachine, pacedStep] using lists
    | signal => simpa [pacedMachine, pacedStep] using lists
    | worker index environment =>
        intro other
        rw [single other index]
        change Lists config startNs (history ++ (pacedWorkerStep host config
          (config.window startNs) state index environment).2) _
        simp only [pacedMachine, pacedStep]
        have worker := invariant.workers index
        rw [pacedWorkerStep]
        by_cases waiting : state.pacing index
        · rw [if_pos waiting]
          split
          · simpa using lists index
          · simpa using lists index
        · have free : state.pacing index = false := by simpa using waiting
          rw [free] at worker
          rw [if_neg waiting]
          exact (lists index).workerStep burst worker environment

theorem Call.Sound.waited_eq {call : Call} (sound : call.Sound config (config.window startNs))
    (burst : config.mode = .burst) :
    call.waited = deadlineNs startNs (burstStart config call.firstPacket) config.ratePps := by
  rcases sound.chosen with ⟨count, chosen, within⟩
  rcases chosen.burst burst with ⟨_, fits, deadline⟩
  have some := sound.some
  have remainder : (call.packetIndex + call.offset) % config.burstSize =
      call.packetIndex % config.burstSize + call.offset := by
    rw [Nat.add_mod, Nat.mod_eq_of_lt (show call.offset < config.burstSize by omega),
      Nat.mod_eq_of_lt (by omega)]
  have same : burstStart config call.firstPacket = burstStart config call.packetIndex := by
    rw [burstStart, burstStart, Call.firstPacket, remainder]
    omega
  rw [same]
  exact deadline

end

/-- In burst mode the statistics record for every call the deadline of the first
packet that it sent. The call had waited for the deadline of the burst, which is
no later, and the same where the call begins the burst. -/
theorem burst_records (host : Endianness) {config : Config} (burst : config.mode = .burst)
    (startNs : UInt64) (connect : Fin config.threads → Option Nat) (clock : Nat)
    (schedule : List (PacedAction config)) (index : Fin config.threads) :
    let outcome := (pacedMachine host config (config.window startNs.toNat)).run
      (pacedStart config connect clock) schedule
    let stats := (outcome.1.sender.workers index).stats
    stats.latenessNs = outcome.2.map (Call.lateness config startNs.toNat) ∧
      (config.tracing → stats.trace.map TraceRecord.scheduledMonoNs =
        outcome.2.map (Call.recorded config startNs.toNat)) ∧
      ∀ call ∈ outcome.2,
        call.waited = deadlineNs startNs.toNat (burstStart config call.firstPacket) config.ratePps ∧
        (call.stopped ∨ call.waited ≤ call.invocation) ∧
        call.waited ≤ call.recorded config startNs.toNat ∧
        (burstStart config call.firstPacket = call.firstPacket →
          call.recorded config startNs.toNat = call.waited) := by
  intro outcome stats
  rcases run_lists host burst connect clock schedule with ⟨invariant, lists⟩
  refine ⟨(lists index).lateness, (lists index).trace, ?_⟩
  intro call member
  have sound := invariant.calls call member
  have waited := sound.waited_eq burst
  refine ⟨waited, sound.due, ?_, ?_⟩
  · rw [waited]
    exact deadlineNs_mono startNs.toNat_lt (Nat.sub_le _ _) config.ratePps
  · intro first
    rw [waited, first, Call.recorded]

theorem burstSize_two_inRange : 1 ≤ 2 ∧ 2 < 2 ^ 32 := by decide

theorem threads_one_inRange : 1 ≤ 1 ∧ 1 ≤ 128 := by decide

def burstConfig : Config where
  ratePps := 1000
  durationNs := 10000000
  mode := .burst
  burstSize := 2
  payloadSize := 16
  timestampEvery := 0
  sendBatchMax := 1
  batchWindowUs := 10
  threads := 1
  tracing := true
  rateRange := by decide
  durationRange := by decide
  burstRange := burstSize_two_inRange
  payloadRange := pairConfig.payloadRange
  batchRange := by decide
  windowRange := pairConfig.windowRange
  threadRange := threads_one_inRange
  steadyBurst := nofun
  burstThreads := fun _ => rfl

/-- For each packet a choice, the end of `pace_until`, an allocation and a call. -/
def burstSchedule : List (PacedAction burstConfig) :=
  List.replicate 8 (.worker ⟨0, by decide⟩ (answer 1 0))

/-- Both packets of the burst were due at its start, and the second is recorded
a millisecond later. -/
theorem second_packet_is_recorded_later :
    let outcome := (pacedMachine .little burstConfig (burstConfig.window 0)).run
      (pacedStart burstConfig (fun _ => none) 0) burstSchedule
    outcome.2.map Call.waited = [0, 0] ∧
      (outcome.1.sender.workers ⟨0, by decide⟩).stats.trace.map TraceRecord.scheduledMonoNs =
        [0, 1000000] := by
  decide

theorem burst_records_of_two_packets :
    let outcome := (pacedMachine .little burstConfig (burstConfig.window 0)).run
      (pacedStart burstConfig (fun _ => none) 0) burstSchedule
    outcome.2.length = 2 ∧ ∀ call ∈ outcome.2,
      call.waited = deadlineNs 0 (burstStart burstConfig call.firstPacket) 1000 ∧
        call.waited ≤ call.recorded burstConfig 0 := by
  intro outcome
  have records := burst_records .little (show burstConfig.mode = .burst from rfl) 0 (fun _ => none) 0
    burstSchedule ⟨0, by decide⟩
  exact ⟨by decide, fun call member =>
    ⟨(records.2.2 call member).1, (records.2.2 call member).2.2.1⟩⟩

end NetLatencyLab.Sender
