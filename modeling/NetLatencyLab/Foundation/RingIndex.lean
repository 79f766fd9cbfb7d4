import Mathlib.Data.Nat.ModEq

/-! # Positions in a ring

Elements of a ring of `size` slots are addressed by their distance from a base
slot. Distances below `size` name distinct slots, whatever the base. -/

namespace NetLatencyLab.RingIndex

/-- The slot `offset` places after `base`. -/
def slot (size base offset : Nat) : Nat := (base + offset) % size

variable {size base offset : Nat}

theorem slot_zero (inside : base < size) : slot size base 0 = base :=
  Nat.mod_eq_of_lt inside

theorem slot_lt (inside : base < size) : slot size base offset < size :=
  Nat.mod_lt _ (by omega)

theorem slot_succ : (slot size base offset + 1) % size = slot size base (offset + 1) := by
  simp [slot, Nat.add_assoc]

theorem slot_advance : slot size ((base + 1) % size) offset = slot size base (offset + 1) := by
  simp [slot, Nat.add_assoc, Nat.add_comm 1 offset]

theorem slot_injective {left right : Nat} (leftBound : left < size) (rightBound : right < size)
    (equal : slot size base left = slot size base right) : left = right := by
  have congruent : left ≡ right [MOD size] := Nat.ModEq.add_left_cancel' base equal
  exact Nat.ModEq.eq_of_lt_of_lt congruent leftBound rightBound

theorem slot_succ_eq_base_iff (inside : base < size) (offsetBound : offset < size) :
    slot size base (offset + 1) = base ↔ offset + 1 = size := by
  constructor
  · intro equal
    by_contra different
    have turned : slot size base (offset + 1) = slot size base 0 := by
      rw [slot_zero inside, equal]
    exact absurd (slot_injective (by omega) (by omega) turned) (by omega)
  · intro full
    simp [slot, full, Nat.mod_eq_of_lt inside]

theorem slot_eq_base_iff (inside : base < size) (offsetBound : offset < size) :
    slot size base offset = base ↔ offset = 0 := by
  constructor
  · intro equal
    exact slot_injective offsetBound (by omega) (equal.trans (slot_zero inside).symm)
  · rintro rfl
    exact slot_zero inside

/-- The distance is recovered from the two slots by wrapping subtraction in any
modulus that the ring size divides. -/
theorem slot_distance {modulus : Nat} (inside : base < size) (offsetBound : offset < size)
    (divides : size ∣ modulus) (positive : 0 < modulus) :
    (slot size base offset + modulus - base) % modulus % size = offset := by
  have sizeLe : size ≤ modulus := Nat.le_of_dvd positive divides
  rw [Nat.mod_mod_of_dvd _ divides]
  have congruent : (slot size base offset + modulus - base) + base ≡ offset + base [MOD size] := by
    rw [Nat.sub_add_cancel (by omega)]
    calc slot size base offset + modulus
        ≡ (base + offset) + 0 [MOD size] :=
          Nat.ModEq.add (Nat.mod_modEq _ _) ((Nat.modEq_zero_iff_dvd).mpr divides)
      _ ≡ offset + base [MOD size] := by rw [Nat.add_zero, Nat.add_comm]
  have cancelled := Nat.ModEq.add_right_cancel' base congruent
  rw [cancelled, Nat.mod_eq_of_lt offsetBound]

end NetLatencyLab.RingIndex
