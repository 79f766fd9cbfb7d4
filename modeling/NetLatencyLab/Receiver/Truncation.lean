import NetLatencyLab.Receiver.Agreement

/-! # Truncated datagrams

`receiver_batched` and `receiver_threaded` read a flag of the kernel, while
`receiver_baseline` takes a full slot for a truncated datagram. -/

namespace NetLatencyLab.Receiver

open BinaryLogger (completeFwrite)

def Variant.truncates : Variant → Datagram → Bool
  | .baseline => fillsSlot
  | .batched => isTruncated
  | .threaded => isTruncated

/-- The part of the stream that a receiver has taken from its socket. -/
def Outcome.received (outcome : Outcome) (datagrams : List Datagram) : List Datagram :=
  datagrams.take (datagrams.length - outcome.socket.length)

private theorem isTruncated_iff {datagram : Datagram} :
    isTruncated datagram = true ↔ receiveSlotBytes < datagram.length := by
  simp [isTruncated]

private theorem fillsSlot_iff {datagram : Datagram} :
    fillsSlot datagram = true ↔ receiveSlotBytes ≤ datagram.length := by
  simp [fillsSlot, copied]

/-! ## What is counted -/

theorem countP_fillsSlot (datagrams : List Datagram) :
    datagrams.countP fillsSlot = datagrams.countP isTruncated +
      datagrams.countP fun datagram => datagram.length = receiveSlotBytes := by
  induction datagrams with
  | nil => rfl
  | cons datagram datagrams induction =>
      simp only [List.countP_cons, fillsSlot_iff, isTruncated_iff, decide_eq_true_eq, induction]
      split <;> split <;> split <;> omega

variable {host : Endianness} {config : Config} {datagrams : List Datagram} {outcome : Outcome}
  {variant : Variant}

theorem Outcome.received_eq {received : List Datagram}
    (split : datagrams = received ++ outcome.socket) : outcome.received datagrams = received := by
  rw [Outcome.received, split, List.length_append, Nat.add_sub_cancel, List.take_left]

theorem Ends.truncatedPackets_eq (ends : Ends host config datagrams outcome variant) :
    outcome.stats.truncatedPackets =
      (outcome.received datagrams).countP variant.truncates := by
  cases variant with
  | baseline =>
      rcases ends with ⟨schedule, final, reaches, finished, rfl⟩
      have invariant := loop_run_invariant (baselineHandler_handles host config) datagrams schedule
      rcases invariant.consistent with ⟨received, split, consistent⟩
      subst reaches
      rw [Outcome.received_eq split]
      exact consistent.received.truncatedPackets
  | batched =>
      rcases ends with ⟨schedule, final, reaches, finished, rfl⟩
      have invariant := loop_run_invariant (batchedHandler_handles host config) datagrams schedule
      rcases invariant.consistent with ⟨received, split, consistent⟩
      subst reaches
      rw [Outcome.received_eq split]
      exact consistent.received.truncatedPackets
  | threaded =>
      rcases ends with ⟨schedule, final, reaches, finished, rfl⟩
      subst reaches
      rcases threaded_run_drained host config datagrams schedule finished with
        ⟨received, split, drained⟩
      rw [Outcome.received_eq split]
      exact drained.counted.truncatedPackets

theorem Ends.exact_of_flag (ends : Ends host config datagrams outcome variant)
    (flag : variant ≠ .baseline) :
    outcome.stats.truncatedPackets = (outcome.received datagrams).countP isTruncated := by
  rw [ends.truncatedPackets_eq]
  cases variant with
  | baseline => exact absurd rfl flag
  | batched => rfl
  | threaded => rfl

theorem Ends.baseline_exact_iff (ends : Ends host config datagrams outcome .baseline) :
    outcome.stats.truncatedPackets = (outcome.received datagrams).countP isTruncated ↔
      ∀ datagram ∈ outcome.received datagrams, datagram.length ≠ receiveSlotBytes := by
  rw [ends.truncatedPackets_eq, Variant.truncates, countP_fillsSlot, Nat.add_eq_left,
    List.countP_eq_zero]
  simp only [decide_eq_true_eq, ne_eq]

/-! ## The three receivers -/

/-- Each receiver reports the number of datagrams longer than the slot, and two
that have received the same part of the stream report the same. -/
structure TruncationExact (datagrams : List Datagram) (outcomes : Variant → Outcome) : Prop where
  counted : ∀ variant, (outcomes variant).stats.truncatedPackets =
    ((outcomes variant).received datagrams).countP fun datagram =>
      receiveSlotBytes < datagram.length
  agree : ∀ first second,
    (outcomes first).received datagrams = (outcomes second).received datagrams →
      (outcomes first).stats.truncatedPackets = (outcomes second).stats.truncatedPackets

/-- The reports are exact if and only if the baseline has received no datagram of
exactly the size of the slot, whatever the schedules, batch sizes and limits. -/
theorem truncationExact_iff (hosts : Variant → Endianness) (configs : Variant → Config)
    (datagrams : List Datagram) (outcomes : Variant → Outcome)
    (ends : ∀ variant, Ends (hosts variant) (configs variant) datagrams (outcomes variant) variant) :
    TruncationExact datagrams outcomes ↔
      ∀ datagram ∈ (outcomes .baseline).received datagrams,
        datagram.length ≠ receiveSlotBytes := by
  constructor
  · intro exact
    exact (ends .baseline).baseline_exact_iff.mp (exact.counted .baseline)
  · intro apart
    have counted : ∀ variant, (outcomes variant).stats.truncatedPackets =
        ((outcomes variant).received datagrams).countP isTruncated := by
      intro variant
      by_cases flag : variant = .baseline
      · subst flag
        exact (ends .baseline).baseline_exact_iff.mpr apart
      · exact (ends variant).exact_of_flag flag
    refine ⟨counted, ?_⟩
    intro first second same
    rw [counted first, counted second, same]

/-! ## One datagram -/

def singleSchedule : List LoopAction :=
  [.proceed (shortPass (.delivered 1)), .signal, .proceed (shortPass (.failed 4)),
    .proceed (shortPass (.failed 4))]

def singleThreadedSchedule : List ThreadedAction :=
  List.replicate 3 (.ingress (shortPass (.delivered 1))) ++ [.signal] ++
    List.replicate 4 (.ingress (shortPass (.failed 4))) ++
    List.replicate 8 (.worker default) ++
    [.ingress (shortPass (.failed 4))]

/-- A stream of one datagram of zeros. -/
def zeros (bytes : Nat) : List Datagram := [List.replicate bytes 0]

def zerosOutcome (bytes : Nat) : Variant → Outcome
  | .baseline => ((baselineMachine completeFwrite .little shortConfig).run
      (loopStart completeFwrite (zeros bytes)) singleSchedule).1.outcome
  | .batched => ((batchedMachine completeFwrite .little shortConfig).run
      (loopStart completeFwrite (zeros bytes)) singleSchedule).1.outcome
  | .threaded => ((threadedMachine completeFwrite .little shortConfig).run
      (threadedStart completeFwrite (zeros bytes)) singleThreadedSchedule).1.outcome

instance (position : Ingress) : Decidable (position = .finished) :=
  match position with
  | .finished => isTrue rfl
  | .receiving => isFalse nofun
  | .handling _ _ _ => isFalse nofun
  | .pushing _ _ _ _ => isFalse nofun
  | .leaving => isFalse nofun
  | .measuring => isFalse nofun
  | .announcing _ => isFalse nofun
  | .joining _ => isFalse nofun

private theorem fullSlot_ends : ∀ variant,
    Ends .little shortConfig (zeros 2048) (zerosOutcome 2048 variant) variant
  | .baseline => ⟨singleSchedule, _, rfl, by decide +kernel, rfl⟩
  | .batched => ⟨singleSchedule, _, rfl, by decide +kernel, rfl⟩
  | .threaded => ⟨singleThreadedSchedule, _, rfl, by decide +kernel, rfl⟩

private theorem longDatagram_ends : ∀ variant,
    Ends .little shortConfig (zeros 2049) (zerosOutcome 2049 variant) variant
  | .baseline => ⟨singleSchedule, _, rfl, by decide +kernel, rfl⟩
  | .batched => ⟨singleSchedule, _, rfl, by decide +kernel, rfl⟩
  | .threaded => ⟨singleThreadedSchedule, _, rfl, by decide +kernel, rfl⟩

/-- A datagram that fits exactly is truncated to the baseline alone. -/
theorem fullSlot_is_miscounted :
    (∀ variant, Ends .little shortConfig (zeros 2048) (zerosOutcome 2048 variant) variant) ∧
      ¬ TruncationExact (zeros 2048) (zerosOutcome 2048) := by
  refine ⟨fullSlot_ends, ?_⟩
  intro exact
  have same : (zerosOutcome 2048 .baseline).received (zeros 2048) =
      (zerosOutcome 2048 .batched).received (zeros 2048) := by decide +kernel
  have different : (zerosOutcome 2048 .baseline).stats.truncatedPackets ≠
      (zerosOutcome 2048 .batched).stats.truncatedPackets := by decide +kernel
  exact different (exact.agree .baseline .batched same)

theorem longDatagram_is_counted : TruncationExact (zeros 2049) (zerosOutcome 2049) := by
  apply (truncationExact_iff (fun _ => .little) (fun _ => shortConfig) (zeros 2049)
    (zerosOutcome 2049) longDatagram_ends).mpr
  decide +kernel

end NetLatencyLab.Receiver
