import NetLatencyLab.Sender.Common

/-! # The packet limit and the deadlines

The limit is the number of packets whose deadline falls inside the run, as long
as that number fits in 64 bits: `deadline_ns` saturates, `scheduled_packet_count`
drops the high bits. -/

namespace NetLatencyLab.Sender

variable {startNs packetIndex durationNs ratePps : Nat}

private theorem lt_ceil_iff (positive : 0 < ratePps) :
    packetIndex < (durationNs * ratePps + 999999999) / nanosecondsPerSecond ↔
      packetIndex * nanosecondsPerSecond / ratePps < durationNs := by
  have second : 0 < nanosecondsPerSecond := by decide
  rw [Nat.div_lt_iff_lt_mul positive, Nat.lt_div_iff_mul_lt second]
  simp only [nanosecondsPerSecond]
  omega

private theorem deadlineNs_lt_iff (fits : startNs + durationNs < 2 ^ 64) :
    deadlineNs startNs packetIndex ratePps < startNs + durationNs ↔
      packetIndex * nanosecondsPerSecond / ratePps < durationNs := by
  rw [deadlineNs]
  generalize packetIndex * nanosecondsPerSecond / ratePps = offset
  split <;> omega

private theorem ceil_lt_iff (durationNs ratePps : Nat) :
    (durationNs * ratePps + 999999999) / nanosecondsPerSecond < 2 ^ 64 ↔
      durationNs * ratePps ≤ (2 ^ 64 - 1) * nanosecondsPerSecond := by
  rw [Nat.div_lt_iff_lt_mul (by decide)]
  simp only [nanosecondsPerSecond]
  omega

/-- The limit separates the deadlines inside the run from those after it exactly
when the number of packets due in the run fits in 64 bits. -/
theorem packet_limit_exact_iff (startNs durationNs ratePps : Nat) (positive : 1 ≤ ratePps)
    (fits : startNs + durationNs < 2 ^ 64) :
    (∀ packetIndex < 2 ^ 64,
      (packetIndex < scheduledPacketCount durationNs ratePps ↔
        deadlineNs startNs packetIndex ratePps < startNs + durationNs)) ↔
      durationNs * ratePps ≤ (2 ^ 64 - 1) * 1000000000 := by
  have representable := ceil_lt_iff durationNs ratePps
  simp only [deadlineNs_lt_iff fits, ← lt_ceil_iff positive, scheduledPacketCount]
  rw [show 1000000000 = nanosecondsPerSecond from rfl, ← representable]
  generalize (durationNs * ratePps + 999999999) / nanosecondsPerSecond = count
  constructor
  · intro exact
    -- The last index is below every count that does not fit.
    by_contra large
    have last := exact (2 ^ 64 - 1) (by decide)
    have narrowed : count % 2 ^ 64 < 2 ^ 64 := Nat.mod_lt _ (by decide)
    omega
  · intro small packetIndex _
    rw [Nat.mod_eq_of_lt small]

/-- The rate and the duration of the unit test. -/
theorem packet_limit_exact_at_950_kpps :
    scheduledPacketCount 10000000000 950000 = 9500000 ∧
      ∀ packetIndex < 2 ^ 64,
        (packetIndex < scheduledPacketCount 10000000000 950000 ↔
          deadlineNs 123456789 packetIndex 950000 < 123456789 + 10000000000) := by
  have exact := packet_limit_exact_iff 123456789 10000000000 950000 (by decide) (by decide)
  exact ⟨by decide, exact.mpr (by decide)⟩

/-- Half of the largest rate for two seconds: the limit is 2 to the 64, narrowed
to zero. -/
theorem packet_limit_wraps_to_zero :
    scheduledPacketCount 2000000000 (2 ^ 63) = 0 ∧
      deadlineNs 0 0 (2 ^ 63) < 0 + 2000000000 := by
  decide

end NetLatencyLab.Sender
