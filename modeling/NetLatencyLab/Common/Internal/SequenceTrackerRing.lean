import NetLatencyLab.Common.SequenceTracker
import NetLatencyLab.Foundation.Deduplication

/-! The ring of blocks implements duplicate detection with a bounded memory: a
number of a newer epoch in the same slot retires every older one there. -/

namespace NetLatencyLab.SequenceTracker

open Deduplication

/-! ## Coordinates of a sequence number -/

theorem within_eq (sequence : UInt32) : within sequence = sequence.toNat % 4096 := by
  simpa [within, blockSize, blockShift] using Nat.and_two_pow_sub_one_eq_mod sequence.toNat 12

theorem epochOf_eq (sequence : UInt32) : epochOf sequence = sequence.toNat / 4096 + 1 := by
  simp [epochOf, blockShift, Nat.shiftRight_eq_div_pow]

theorem slotOf_val (sequence : UInt32) : (slotOf sequence).val = sequence.toNat / 4096 % 16 := by
  have masked := Nat.and_two_pow_sub_one_eq_mod (sequence.toNat >>> 12) 4
  simpa [slotOf, blockShift, blockCount, Nat.shiftRight_eq_div_pow] using masked

theorem wordOf_val (sequence : UInt32) : (wordOf sequence).val = within sequence / 64 := by
  simp [wordOf, Nat.shiftRight_eq_div_pow]

def position (sequence : UInt32) : Nat := within sequence % 64

theorem maskOf_eq (sequence : UInt32) : maskOf sequence = BitVec.twoPow 64 (position sequence) := by
  have masked := Nat.and_two_pow_sub_one_eq_mod (within sequence) 6
  rw [BitVec.twoPow_eq, maskOf, position]
  exact congrArg (1#64 <<< ·) masked

private theorem eq_of_coordinates {left right : UInt32} (epoch : epochOf left = epochOf right)
    (word : wordOf left = wordOf right) (bit : position left = position right) :
    left = right := by
  have wordEqual := congrArg Fin.val word
  rw [wordOf_val, wordOf_val] at wordEqual
  rw [epochOf_eq, epochOf_eq] at epoch
  simp only [position] at bit
  rw [within_eq, within_eq] at wordEqual bit
  apply UInt32.toNat_inj.mp
  omega

/-! ## Single bits -/

/-- The duplicate test of `observe`. -/
abbrev HasBit (tracker : SequenceTracker) (sequence : UInt32) : Prop :=
  tracker.blocks (slotOf sequence) (wordOf sequence) &&& maskOf sequence ≠ 0#64

theorem hasBit_iff (tracker : SequenceTracker) (sequence : UInt32) :
    tracker.HasBit sequence ↔
      (tracker.blocks (slotOf sequence) (wordOf sequence)).getLsbD (position sequence) = true := by
  have inside : position sequence < 64 := Nat.mod_lt _ (by decide)
  have nonzero : BitVec.twoPow 64 (position sequence) ≠ 0#64 := by
    intro equal
    have bit := congrArg (fun word => BitVec.getLsbD word (position sequence)) equal
    simp [inside] at bit
  rw [HasBit, maskOf_eq, BitVec.and_twoPow]
  split <;> rename_i bit <;> simp [bit, nonzero]

private theorem hasBit_claimSlot {tracker : SequenceTracker} {epoch : Nat} {sequence : UInt32} :
    ¬(tracker.claimSlot (slotOf sequence) epoch).HasBit sequence := by
  simp [claimSlot]

theorem hasBit_setBit_self (tracker : SequenceTracker) (sequence : UInt32) :
    (tracker.setBit sequence).HasBit sequence := by
  have inside : position sequence < 64 := Nat.mod_lt _ (by decide)
  rw [hasBit_iff]
  simp [setBit, maskOf_eq, inside]

theorem hasBit_setBit_of_ne {tracker : SequenceTracker} {sequence other : UInt32}
    (sameEpoch : epochOf other = epochOf sequence) (different : other ≠ sequence) :
    (tracker.setBit sequence).HasBit other ↔ tracker.HasBit other := by
  rw [hasBit_iff, hasBit_iff]
  by_cases slot : slotOf other = slotOf sequence
  · by_cases word : wordOf other = wordOf sequence
    · have bit : position sequence ≠ position other := fun equal =>
        different (eq_of_coordinates sameEpoch word equal.symm)
      simp [setBit, slot, word, maskOf_eq, BitVec.getLsbD_twoPow, bit]
    · simp [setBit, slot, Function.update_of_ne word]
  · simp [setBit, Function.update_of_ne slot]

/-! ## Memory of the ring -/

def Retires (other sequence : UInt32) : Prop :=
  slotOf other = slotOf sequence ∧ epochOf sequence < epochOf other

instance : DecidableRel Retires := fun _ _ => inferInstanceAs (Decidable (_ ∧ _))

/-- The ring knows exactly those of the numbers `seen` that belong to the
newest epoch of their slot. -/
structure Remembers (tracker : SequenceTracker) (seen : Finset UInt32) : Prop where
  newest : ∀ sequence ∈ seen, epochOf sequence ≤ tracker.epochs (slotOf sequence)
  attained : ∀ slot, tracker.epochs slot ≠ 0 →
    ∃ sequence ∈ seen, slotOf sequence = slot ∧ epochOf sequence = tracker.epochs slot
  recorded : ∀ sequence, tracker.epochs (slotOf sequence) = epochOf sequence →
    (tracker.HasBit sequence ↔ sequence ∈ seen)

theorem fresh_remembers : fresh.Remembers ∅ where
  newest := by simp
  attained := fun slot occupied => absurd rfl occupied
  recorded := by
    intro sequence resident
    simp [fresh]

namespace Remembers

variable {tracker : SequenceTracker} {seen : Finset UInt32}

/-- An arrival is out of the window exactly when a newer epoch of its slot has
been seen. -/
theorem resident_gt_iff (remembers : tracker.Remembers seen) (sequence : UInt32) :
    tracker.epochs (slotOf sequence) > epochOf sequence ↔ Retired Retires seen sequence := by
  constructor
  · intro older
    obtain ⟨other, member, slot, epoch⟩ := remembers.attained (slotOf sequence) (by omega)
    exact ⟨other, member, slot, epoch ▸ older⟩
  · rintro ⟨other, member, slot, epoch⟩
    have newest := remembers.newest other member
    rw [slot] at newest
    omega

theorem of_ring {other : SequenceTracker} (remembers : tracker.Remembers seen)
    (blocks : other.blocks = tracker.blocks) (epochs : other.epochs = tracker.epochs) :
    other.Remembers seen where
  newest := epochs ▸ remembers.newest
  attained := epochs ▸ remembers.attained
  recorded := by simpa only [HasBit, blocks, epochs] using remembers.recorded

theorem insert_retired (remembers : tracker.Remembers seen) {sequence : UInt32}
    (older : tracker.epochs (slotOf sequence) > epochOf sequence) :
    tracker.Remembers (insert sequence seen) where
  newest := by
    intro other member
    rcases Finset.mem_insert.mp member with rfl | member
    · exact Nat.le_of_lt older
    · exact remembers.newest other member
  attained := by
    intro slot occupied
    rcases remembers.attained slot occupied with ⟨other, member, found⟩
    exact ⟨other, Finset.mem_insert_of_mem member, found⟩
  recorded := by
    intro other resident
    have different : other ≠ sequence := by
      rintro rfl
      omega
    rw [remembers.recorded other resident, Finset.mem_insert]
    simp [different]

private theorem insert_resident (remembers : tracker.Remembers seen) {sequence : UInt32}
    (resident : tracker.epochs (slotOf sequence) = epochOf sequence) :
    (tracker.setBit sequence).Remembers (insert sequence seen) where
  newest := by
    intro other member
    rcases Finset.mem_insert.mp member with rfl | member
    · exact Nat.le_of_eq resident.symm
    · exact remembers.newest other member
  attained := by
    intro slot occupied
    rcases remembers.attained slot occupied with ⟨other, member, found⟩
    exact ⟨other, Finset.mem_insert_of_mem member, found⟩
  recorded := by
    intro other otherResident
    by_cases same : other = sequence
    · subst same
      simp [hasBit_setBit_self]
    · have kept : (tracker.setBit sequence).HasBit other ↔ tracker.HasBit other := by
        by_cases slot : slotOf other = slotOf sequence
        · refine hasBit_setBit_of_ne ?_ same
          rw [← otherResident, slot]
          exact resident
        · simp [hasBit_iff, setBit, Function.update_of_ne slot]
      rw [kept, remembers.recorded other otherResident, Finset.mem_insert]
      simp [same]

private theorem insert_newer (remembers : tracker.Remembers seen) {sequence : UInt32}
    (newer : tracker.epochs (slotOf sequence) < epochOf sequence) :
    ((tracker.claimSlot (slotOf sequence) (epochOf sequence)).setBit sequence).Remembers
      (insert sequence seen) where
  newest := by
    intro other member
    simp only [setBit, claimSlot]
    rcases Finset.mem_insert.mp member with rfl | member
    · simp
    · have newest := remembers.newest other member
      by_cases slot : slotOf other = slotOf sequence
      · rw [slot] at newest ⊢
        rw [Function.update_self]
        omega
      · rwa [Function.update_of_ne slot]
  attained := by
    intro slot occupied
    by_cases same : slot = slotOf sequence
    · subst same
      exact ⟨sequence, Finset.mem_insert_self _ _, rfl, by simp [setBit, claimSlot]⟩
    · simp only [setBit, claimSlot, Function.update_of_ne same] at occupied ⊢
      rcases remembers.attained slot occupied with ⟨other, member, found⟩
      exact ⟨other, Finset.mem_insert_of_mem member, found⟩
  recorded := by
    intro other resident
    by_cases same : other = sequence
    · subst same
      simp [hasBit_setBit_self]
    · by_cases slot : slotOf other = slotOf sequence
      · have epoch : epochOf other = epochOf sequence := by
          rw [← resident]
          simp [setBit, claimSlot, slot]
        have unseen : other ∉ seen := by
          intro member
          have newest := remembers.newest other member
          rw [slot] at newest
          omega
        rw [hasBit_setBit_of_ne epoch same, ← slot]
        simp [hasBit_claimSlot, same, unseen]
      · have kept : tracker.epochs (slotOf other) = epochOf other := by
          simpa [setBit, claimSlot, Function.update_of_ne slot] using resident
        have bit := remembers.recorded other kept
        rw [Finset.mem_insert, or_iff_right same, ← bit]
        simp [hasBit_iff, setBit, claimSlot, Function.update_of_ne slot]

end Remembers

/-! ## What one arrival does -/

theorem observe_cases {tracker : SequenceTracker} {seen : Finset UInt32}
    (remembers : tracker.Remembers seen) (sequence : UInt32) :
    (verdict Retires seen sequence = .retired ∧
      tracker.observe sequence =
        (({ tracker with outOfWindow := tracker.outOfWindow + 1 }).countUnique sequence, true)) ∨
    (verdict Retires seen sequence = .duplicate ∧
      tracker.observe sequence =
        ({ tracker with duplicates := tracker.duplicates + 1 }, false)) ∨
    (verdict Retires seen sequence = .fresh ∧
      ∃ blocks epochs, tracker.observe sequence =
        (({ tracker with blocks := blocks, epochs := epochs }).countUnique sequence, true) ∧
        ({ tracker with blocks := blocks, epochs := epochs }).Remembers
          (insert sequence seen)) := by
  by_cases older : tracker.epochs (slotOf sequence) > epochOf sequence
  · refine .inl ⟨verdict_eq_retired_iff.mpr ((remembers.resident_gt_iff sequence).mp older), ?_⟩
    simp [observe, older]
  · have kept : ¬Retired Retires seen sequence := mt (remembers.resident_gt_iff sequence).mpr older
    by_cases resident : tracker.epochs (slotOf sequence) = epochOf sequence
    · by_cases bit : tracker.HasBit sequence
      · refine .inr (.inl ⟨verdict_eq_duplicate_iff.mpr
          ⟨kept, (remembers.recorded sequence resident).mp bit⟩, ?_⟩)
        simp [observe, resident, bit]
      · have unseen := mt (remembers.recorded sequence resident).mpr bit
        refine .inr (.inr ⟨verdict_eq_fresh_iff.mpr ⟨kept, unseen⟩,
          (tracker.setBit sequence).blocks, tracker.epochs, ?_,
          remembers.insert_resident resident⟩)
        simp [observe, resident, bit, setBit]
    · have newer : tracker.epochs (slotOf sequence) < epochOf sequence := by omega
      have unseen : sequence ∉ seen := by
        intro member
        have newest := remembers.newest sequence member
        omega
      refine .inr (.inr ⟨verdict_eq_fresh_iff.mpr ⟨kept, unseen⟩, _, _, ?_,
        remembers.insert_newer newer⟩)
      simp [observe, older, resident, setBit, claimSlot]

end NetLatencyLab.SequenceTracker
