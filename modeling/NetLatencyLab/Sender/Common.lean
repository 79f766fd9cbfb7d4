import NetLatencyLab.Common.Packet
import Mathlib.Algebra.Group.Nat.Defs

/-! # Helpers of the sender

`sender_common.hpp`. The products are computed in 128 bits, where none of them
overflows, so they are natural numbers here. -/

namespace NetLatencyLab.Sender

structure SendResult where
  successful : Nat := 0
  failed : Nat := 0
  retry : Bool := false
  isPartial : Bool := false
  error : Nat := 0
deriving DecidableEq

/-- `EINTR`. -/
def interruptedCall : Nat := 4

/-- `EIO`. -/
def inputOutputError : Nat := 5

def classifySendmmsgResult (result : Int) (error requested : Nat) : SendResult :=
  if result > 0 then
    let successful := min result.toNat requested
    { successful := successful, isPartial := successful < requested }
  else if result < 0 ∧ error = interruptedCall then { retry := true, error := error }
  else { failed := requested, error := if result < 0 then error else inputOutputError }

def allocateSequenceRange (next count : Nat) : Nat × Nat := (next, next + count)

def nanosecondsPerSecond : Nat := 1000000000

def deadlineNs (startNs packetIndex ratePps : Nat) : Nat :=
  let offset := packetIndex * nanosecondsPerSecond / ratePps
  let maximum := 2 ^ 64 - 1
  if offset > maximum - startNs then maximum else startNs + offset

def scheduledPacketCount (durationNs ratePps : Nat) : Nat :=
  (durationNs * ratePps + 999999999) / nanosecondsPerSecond % 2 ^ 64

section AdaptiveBatch

variable (firstPacketIndex packetLimit packetStride ratePps batchWindowNs : Nat)

/-- The loop of `adaptive_batch_count`; `remaining` is `batch_max - count`. -/
def adaptiveLoop : (remaining count : Nat) → Nat
  | 0, count => count
  | remaining + 1, count =>
      let firstOffset := firstPacketIndex * nanosecondsPerSecond / ratePps
      let index := firstPacketIndex + count * packetStride
      if index ≥ packetLimit then count
      else
        let offset := index * nanosecondsPerSecond / ratePps
        if offset - firstOffset > batchWindowNs then count
        else adaptiveLoop remaining (count + 1)

def adaptiveBatchCount (batchMax : Nat) : Nat :=
  if firstPacketIndex ≥ packetLimit ∨ packetStride = 0 ∨ batchMax = 0 then 0
  else
    adaptiveLoop firstPacketIndex packetLimit packetStride ratePps batchWindowNs (batchMax - 1) 1

end AdaptiveBatch

/-! ## What the helpers guarantee -/

theorem classifySendmmsgResult_of_pos {result : Int} (positive : 0 < result)
    (error requested : Nat) :
    classifySendmmsgResult result error requested =
      { successful := min result.toNat requested
        isPartial := min result.toNat requested < requested } :=
  if_pos positive

theorem classifySendmmsgResult_of_nonpos {result : Int} (nonpositive : ¬0 < result)
    (error requested : Nat) :
    classifySendmmsgResult result error requested = { retry := true, error := error } ∨
      ∃ reported, classifySendmmsgResult result error requested =
        { failed := requested, error := reported } := by
  rw [classifySendmmsgResult, if_neg nonpositive]
  split
  · exact .inl rfl
  · exact .inr ⟨_, rfl⟩

section AdaptiveBatch

variable (firstPacketIndex packetLimit packetStride ratePps batchWindowNs : Nat)

private theorem adaptiveLoop_le (remaining count : Nat) :
    adaptiveLoop firstPacketIndex packetLimit packetStride ratePps batchWindowNs remaining count ≤
      count + remaining := by
  induction remaining generalizing count with
  | zero => exact Nat.le_refl count
  | succ remaining induction =>
      simp only [adaptiveLoop]
      split
      · exact Nat.le_add_right _ _
      · split
        · exact Nat.le_add_right _ _
        · have rest := induction (count + 1)
          omega

theorem adaptiveBatchCount_le (batchMax : Nat) :
    adaptiveBatchCount firstPacketIndex packetLimit packetStride ratePps batchWindowNs batchMax ≤
      batchMax := by
  rw [adaptiveBatchCount]
  split
  · exact Nat.zero_le _
  · have bound := adaptiveLoop_le firstPacketIndex packetLimit packetStride ratePps batchWindowNs
      (batchMax - 1) 1
    omega

private theorem adaptiveLoop_bounds (remaining : Nat) {count : Nat} (positive : 0 < count)
    (inside : firstPacketIndex + (count - 1) * packetStride < packetLimit) :
    let result :=
      adaptiveLoop firstPacketIndex packetLimit packetStride ratePps batchWindowNs remaining count
    count ≤ result ∧ firstPacketIndex + (result - 1) * packetStride < packetLimit := by
  induction remaining generalizing count with
  | zero => exact ⟨Nat.le_refl count, inside⟩
  | succ remaining induction =>
      simp only [adaptiveLoop]
      split
      · exact ⟨Nat.le_refl count, inside⟩
      · rename_i below
        split
        · exact ⟨Nat.le_refl count, inside⟩
        · rcases induction (Nat.succ_pos count) (Nat.lt_of_not_le below) with ⟨lower, last⟩
          exact ⟨Nat.le_of_succ_le lower, last⟩

/-- A batch of a worker that has packets left is nonempty and ends before the
limit. -/
theorem adaptiveBatchCount_bounds {batchMax : Nat} (left : firstPacketIndex < packetLimit)
    (stride : packetStride ≠ 0) (room : batchMax ≠ 0) :
    let count := adaptiveBatchCount firstPacketIndex packetLimit packetStride ratePps
      batchWindowNs batchMax
    0 < count ∧ firstPacketIndex + (count - 1) * packetStride < packetLimit := by
  have guard : ¬(firstPacketIndex ≥ packetLimit ∨ packetStride = 0 ∨ batchMax = 0) := by omega
  rw [adaptiveBatchCount, if_neg guard]
  exact adaptiveLoop_bounds firstPacketIndex packetLimit packetStride ratePps batchWindowNs
    (batchMax - 1) Nat.one_pos (by simpa using left)

end AdaptiveBatch

end NetLatencyLab.Sender
