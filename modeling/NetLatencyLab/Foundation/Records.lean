import Mathlib.Data.List.Basic

/-! # Byte strings made of fixed-size records -/

namespace NetLatencyLab.Records

variable {Byte Entry : Type}

/-- The `count` bytes at an offset. -/
def slice (offset count : Nat) (string : List Byte) : List Byte :=
  (string.drop offset).take count

def place (offset : Nat) (piece string : List Byte) : List Byte :=
  string.take offset ++ piece ++ string.drop (offset + piece.length)

def split (size : Nat) (string : List Byte) : List (List Byte) :=
  (List.range (string.length / size)).map fun index => slice (index * size) size string

theorem slice_append_drop (offset count : Nat) (string : List Byte) :
    slice offset count string ++ string.drop (offset + count) = string.drop offset := by
  rw [slice, ← List.drop_drop, List.take_append_drop]

theorem slice_append (before piece after : List Byte) :
    slice before.length piece.length (before ++ (piece ++ after)) = piece := by
  rw [slice, List.drop_left, List.take_left]

theorem place_replicate (written piece : List Byte) (zero : Byte) (room : Nat) :
    place written.length piece (written ++ List.replicate room zero) =
      (written ++ piece) ++ List.replicate (room - piece.length) zero := by
  simp [place, List.drop_append]

private theorem split_append (size : Nat) (first rest : List Byte) (length : first.length = size)
    (positive : 0 < size) :
    split size (first ++ rest) = first :: split size rest := by
  have count : (first ++ rest).length / size = rest.length / size + 1 := by
    rw [List.length_append, length, Nat.add_div_left _ positive]
  rw [split, count, List.range_succ_eq_map, List.map_cons, List.map_map, split]
  congr 1
  · simp [slice, ← length]
  · apply List.map_congr_left
    intro index _
    rw [Function.comp, Nat.succ_mul, Nat.add_comm, slice, ← length, List.drop_length_add_append]
    rfl

theorem length_of_mem_split {size : Nat} {string record : List Byte}
    (member : record ∈ split size string) : record.length = size := by
  rcases List.mem_map.mp member with ⟨index, inside, rfl⟩
  have later : index + 1 ≤ string.length / size := List.mem_range.mp inside
  have fits : (index + 1) * size ≤ string.length :=
    Nat.le_trans (Nat.mul_le_mul_right size later) (Nat.div_mul_le_self string.length size)
  rw [Nat.succ_mul] at fits
  rw [slice, List.length_take, List.length_drop]
  omega

section Encoding

variable (encode : Entry → List Byte) (size : Nat)

theorem flatMap_length (length : ∀ entry, (encode entry).length = size) (entries : List Entry) :
    (entries.flatMap encode).length = entries.length * size := by
  induction entries with
  | nil => simp
  | cons entry entries induction =>
      rw [List.flatMap_cons, List.length_append, induction, length, List.length_cons,
        Nat.succ_mul, Nat.add_comm]

theorem split_flatMap (length : ∀ entry, (encode entry).length = size) (positive : 0 < size)
    (entries : List Entry) : split size (entries.flatMap encode) = entries.map encode := by
  induction entries with
  | nil => simp [split]
  | cons entry entries induction =>
      rw [List.flatMap_cons, split_append size _ _ (length entry) positive, induction,
        List.map_cons]

theorem take_flatMap (length : ∀ entry, (encode entry).length = size) (entries : List Entry)
    (count : Nat) :
    (entries.flatMap encode).take (count * size) = (entries.take count).flatMap encode := by
  induction entries generalizing count with
  | nil => simp
  | cons entry entries induction =>
      cases count with
      | zero => simp
      | succ count =>
          rw [List.take_succ_cons, List.flatMap_cons, List.flatMap_cons, ← induction,
            Nat.succ_mul, Nat.add_comm, ← length entry, List.take_length_add_append]

end Encoding

end NetLatencyLab.Records
