import NetLatencyLab.Foundation.Family
import Mathlib.Data.List.Nodup

/-! # Strided runs of indices

Each of several parties takes the indices of its own residue class, in order.
Once all of them have passed a limit, every index below it has been taken once. -/

namespace NetLatencyLab.Strides

open Family (gather gather_gain)

/-- `count` indices from `first` on, `stride` apart. -/
def strided (stride first count : Nat) : List Nat :=
  (List.range count).map fun offset => first + offset * stride

theorem mem_strided {stride first count index : Nat} :
    index ∈ strided stride first count ↔ ∃ offset < count, first + offset * stride = index := by
  simp [strided]

private theorem strided_append (stride first count more : Nat) :
    strided stride first (count + more) =
      strided stride first count ++ strided stride (first + count * stride) more := by
  rw [strided, List.range_add, List.map_append, List.map_map, strided, strided]
  congr 2
  funext offset
  simp only [Function.comp_apply, Nat.add_mul, Nat.add_assoc]

private theorem strided_nodup {stride : Nat} (positive : 0 < stride) (first count : Nat) :
    (strided stride first count).Nodup := by
  apply List.Nodup.map _ List.nodup_range
  intro left right same
  exact Nat.eq_of_mul_eq_mul_right positive (Nat.add_left_cancel same)

section Parties

variable {parties : Nat} (taken : Fin parties → Nat)

theorem gather_strided_gain (party : Fin parties) (more : Nat) :
    (gather fun other => strided parties other
      (Function.update taken party (taken party + more) other)).Perm
      ((gather fun other => strided parties other (taken other)) ++
        strided parties (party + taken party * parties) more) := by
  have updated : (fun other : Fin parties => strided parties other
      (Function.update taken party (taken party + more) other)) =
      Function.update (fun other : Fin parties => strided parties other (taken other)) party
        (strided parties party (taken party + more)) := by
    funext other
    exact Function.apply_update (fun (index : Fin parties) => strided parties index) taken party
      (taken party + more) other
  rw [updated, strided_append]
  exact gather_gain (fun other : Fin parties => strided parties other (taken other)) party _

private theorem gather_strided_nodup :
    (gather fun party => strided parties party (taken party)).Nodup := by
  rw [gather, List.nodup_flatMap]
  constructor
  · intro party _
    exact strided_nodup (Nat.lt_of_le_of_lt (Nat.zero_le _) party.isLt) _ _
  · apply (List.nodup_finRange parties).imp
    intro left right different index inLeft inRight
    rcases mem_strided.mp inLeft with ⟨offset, -, rfl⟩
    rcases mem_strided.mp inRight with ⟨other, -, same⟩
    have residues := congrArg (· % parties) same
    simp only [Nat.add_mul_mod_self_right, Nat.mod_eq_of_lt left.isLt,
      Nat.mod_eq_of_lt right.isLt] at residues
    exact different (Fin.ext residues.symm)

theorem gather_strided_perm {limit : Nat} (some : 0 < parties)
    (passed : ∀ party : Fin parties, limit ≤ party + taken party * parties)
    (inside : ∀ party : Fin parties, taken party ≠ 0 →
      party + (taken party - 1) * parties < limit) :
    (gather fun party => strided parties party (taken party)).Perm (List.range limit) := by
  rw [List.perm_ext_iff_of_nodup (gather_strided_nodup taken) List.nodup_range]
  intro index
  rw [gather, List.mem_flatMap, List.mem_range]
  constructor
  · rintro ⟨party, -, member⟩
    rcases mem_strided.mp member with ⟨offset, early, rfl⟩
    have last := inside party (by omega)
    have earlier := Nat.mul_le_mul_right parties (Nat.le_sub_one_of_lt early)
    omega
  · intro below
    let party : Fin parties := ⟨index % parties, Nat.mod_lt index some⟩
    refine ⟨party, List.mem_finRange party, mem_strided.mpr ⟨index / parties, ?_, ?_⟩⟩
    · have enough := passed party
      have decomposed := Nat.mod_add_div' index parties
      by_contra late
      have more := Nat.mul_le_mul_right parties (Nat.le_of_not_lt late)
      simp only [party] at enough more
      omega
    · exact Nat.mod_add_div' index parties

end Parties

end NetLatencyLab.Strides
