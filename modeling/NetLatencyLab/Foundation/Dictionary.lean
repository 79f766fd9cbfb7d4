import Mathlib.Data.List.Nodup

/-! # Dictionaries

Lists of keys with their values, as `dict` has them: no key occurs twice. -/

namespace NetLatencyLab.Dictionary

variable {Key Value Entry : Type*} [BEq Key] [LawfulBEq Key]

theorem lookup_of_mem {entries : List (Key × Value)} (distinct : (entries.map Prod.fst).Nodup)
    {key : Key} {value : Value} (member : (key, value) ∈ entries) :
    entries.lookup key = some value := by
  induction entries with
  | nil => cases member
  | cons entry rest induction =>
      rw [List.map_cons, List.nodup_cons] at distinct
      cases List.mem_cons.mp member with
      | inl same => rw [← same, List.lookup_cons_self]
      | inr later =>
          have other : (key == entry.1) = false := by
            apply beq_eq_false_iff_ne.mpr
            intro same
            exact distinct.1 (same ▸ List.mem_map_of_mem later)
          rw [List.lookup_cons, other]
          exact induction distinct.2 later

theorem lookup_map {entries : List Entry} {name : Entry → Key} {value : Entry → Value}
    (distinct : (entries.map name).Nodup) {entry : Entry} (member : entry ∈ entries) :
    (entries.map fun entry => (name entry, value entry)).lookup (name entry) =
      some (value entry) := by
  apply lookup_of_mem
  · rw [List.map_map]
    exact distinct
  · exact List.mem_map_of_mem member

end NetLatencyLab.Dictionary
