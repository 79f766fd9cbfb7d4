import Mathlib.Algebra.Group.Nat.Defs
import Mathlib.Logic.Function.Basic

/-! # Online sequence accounting

`SequenceTracker`: a direct-mapped ring of bitmap blocks that recognises
duplicate sequence numbers, together with the counters it maintains. -/

namespace NetLatencyLab

def blockShift : Nat := 12

def blockSize : Nat := 1 <<< blockShift

def blockCount : Nat := 16

/-- `std::array<std::uint64_t, block_size / 64>`. -/
abbrev Block := Fin (blockSize / 64) → BitVec 64

structure SequenceTracker where
  blocks : Fin blockCount → Block
  /-- Resident epoch per slot, biased by one so that zero means empty. -/
  epochs : Fin blockCount → Nat
  unique : Nat
  duplicates : Nat
  reordered : Nat
  outOfWindow : Nat
  minimum : UInt32
  highWatermark : UInt32

namespace SequenceTracker

def fresh : SequenceTracker where
  blocks := fun _ _ => 0
  epochs := fun _ => 0
  unique := 0
  duplicates := 0
  reordered := 0
  outOfWindow := 0
  minimum := 0xffffffff
  highWatermark := 0

/-- `std::uint64_t{sequence >> block_shift} + 1`. -/
def epochOf (sequence : UInt32) : Nat := (sequence.toNat >>> blockShift) + 1

/-- `(sequence >> block_shift) & (block_count - 1)`. -/
def slotOf (sequence : UInt32) : Fin blockCount :=
  ⟨(sequence.toNat >>> blockShift) &&& (blockCount - 1), Nat.lt_succ_of_le Nat.and_le_right⟩

def within (sequence : UInt32) : Nat := sequence.toNat &&& (blockSize - 1)

/-- `within >> 6`. -/
def wordOf (sequence : UInt32) : Fin (blockSize / 64) :=
  ⟨within sequence >>> 6, by
    have bound : within sequence ≤ blockSize - 1 := Nat.and_le_right
    simp only [blockSize, blockShift] at bound ⊢
    omega⟩

/-- `std::uint64_t{1} << (within & 63U)`. -/
def maskOf (sequence : UInt32) : BitVec 64 := 1#64 <<< (within sequence &&& 63)

def claimSlot (tracker : SequenceTracker) (slot : Fin blockCount) (epoch : Nat) :
    SequenceTracker :=
  { tracker with
    blocks := Function.update tracker.blocks slot fun _ => 0
    epochs := Function.update tracker.epochs slot epoch }

def setBit (tracker : SequenceTracker) (sequence : UInt32) : SequenceTracker :=
  let block := tracker.blocks (slotOf sequence)
  { tracker with
    blocks := Function.update tracker.blocks (slotOf sequence)
      (Function.update block (wordOf sequence) (block (wordOf sequence) ||| maskOf sequence)) }

/-- The tail of `observe`, reached by every arrival not recognised as a
duplicate. -/
def countUnique (tracker : SequenceTracker) (sequence : UInt32) : SequenceTracker :=
  let minimum := if tracker.unique = 0 then sequence else tracker.minimum
  { tracker with
    reordered := tracker.reordered +
      if tracker.unique ≠ 0 ∧ sequence < tracker.highWatermark then 1 else 0
    minimum := if sequence < minimum then sequence else minimum
    highWatermark :=
      if sequence > tracker.highWatermark then sequence else tracker.highWatermark
    unique := tracker.unique + 1 }

def observe (tracker : SequenceTracker) (sequence : UInt32) : SequenceTracker × Bool :=
  let epoch := epochOf sequence
  let slot := slotOf sequence
  let resident := tracker.epochs slot
  if resident > epoch then
    -- Older than everything the ring still holds: no block, no duplicate test.
    (({ tracker with outOfWindow := tracker.outOfWindow + 1 }).countUnique sequence, true)
  else
    let current := if resident ≠ epoch then tracker.claimSlot slot epoch else tracker
    if current.blocks slot (wordOf sequence) &&& maskOf sequence ≠ 0#64 then
      ({ current with duplicates := current.duplicates + 1 }, false)
    else
      ((current.setBit sequence).countUnique sequence, true)

/-- `std::uint64_t` subtraction. -/
def wrappingSub (left right : Nat) : Nat := (left + 2 ^ 64 - right) % 2 ^ 64

/-- `gaps()`, with the wrapping subtractions of the source. -/
def gaps (tracker : SequenceTracker) : Nat :=
  if tracker.unique = 0 then 0
  else
    let span := (wrappingSub tracker.highWatermark.toNat tracker.minimum.toNat + 1) % 2 ^ 64
    if tracker.unique ≥ span then 0
    else wrappingSub span tracker.unique

def observeAll (tracker : SequenceTracker) (sequences : List UInt32) : SequenceTracker :=
  sequences.foldl (fun current sequence => (current.observe sequence).1) tracker

@[simp] theorem observeAll_nil (tracker : SequenceTracker) : tracker.observeAll [] = tracker := rfl

@[simp] theorem observeAll_concat (tracker : SequenceTracker) (sequences : List UInt32)
    (sequence : UInt32) :
    tracker.observeAll (sequences ++ [sequence]) =
      ((tracker.observeAll sequences).observe sequence).1 := by
  simp [observeAll]

end SequenceTracker

end NetLatencyLab
