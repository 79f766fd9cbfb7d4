import Mathlib.Data.Nat.Digits.Defs

/-! # Fixed-width little-endian integers

A number is written as exactly `width` bytes, the byte of index `i` having
weight `256 ^ i`. -/

namespace NetLatencyLab.LittleEndian

def value (bytes : List UInt8) : Nat := Nat.ofDigits 256 (bytes.map UInt8.toNat)

/-- The low `width` bytes of a number. -/
def bytes : (width number : Nat) → List UInt8
  | 0, _ => []
  | width + 1, number => UInt8.ofNat number :: bytes width (number / 256)

@[simp] theorem value_nil : value [] = 0 := rfl

@[simp] theorem value_cons (byte : UInt8) (rest : List UInt8) :
    value (byte :: rest) = byte.toNat + 256 * value rest := Nat.ofDigits_cons

theorem value_lt (bytes : List UInt8) : value bytes < 256 ^ bytes.length := by
  have bound := Nat.ofDigits_lt_base_pow_length (b := 256) (l := bytes.map UInt8.toNat)
    (by decide) (by
      intro digit member
      rcases List.mem_map.mp member with ⟨byte, _, rfl⟩
      exact byte.toNat_lt)
  rwa [List.length_map] at bound

@[simp] theorem bytes_length (width number : Nat) : (bytes width number).length = width := by
  induction width generalizing number with
  | zero => rfl
  | succ width induction => simp [bytes, induction]

private theorem value_bytes (width number : Nat) :
    value (bytes width number) = number % 256 ^ width := by
  induction width generalizing number with
  | zero => simp [bytes, Nat.mod_one]
  | succ width induction =>
      rw [bytes, value_cons, induction, pow_succ', Nat.mod_mul]
      rfl

theorem value_bytes_of_lt {width number : Nat} (fits : number < 256 ^ width) :
    value (bytes width number) = number := by
  rw [value_bytes, Nat.mod_eq_of_lt fits]

private theorem bytes_value (string : List UInt8) :
    bytes string.length (value string) = string := by
  induction string with
  | nil => rfl
  | cons byte rest induction =>
      have small := byte.toNat_lt
      have quotient : (byte.toNat + 256 * value rest) / 256 = value rest := by omega
      have low : UInt8.ofNat (byte.toNat + 256 * value rest) = byte := by
        apply UInt8.toNat_inj.mp
        rw [UInt8.toNat_ofNat']
        omega
      rw [List.length_cons, bytes, value_cons, quotient, induction, low]

theorem bytes_value_of_length {width : Nat} {string : List UInt8}
    (length : string.length = width) : bytes width (value string) = string := by
  rw [← length, bytes_value]

/-! ## Shifts and masks -/

theorem bytes_eq_map (width number : Nat) :
    bytes width number =
      (List.range width).map fun index =>
        UInt8.ofNat ((number >>> (index * 8)) &&& 0xff) := by
  induction width generalizing number with
  | zero => rfl
  | succ width induction =>
      rw [bytes, induction, List.range_succ_eq_map, List.map_cons, List.map_map]
      congr 1
      · apply UInt8.toNat_inj.mp
        simp [Nat.and_two_pow_sub_one_eq_mod number 8]
      · apply List.map_congr_left
        intro index _
        rw [Function.comp, Nat.succ_mul, Nat.add_comm, Nat.shiftRight_add,
          Nat.shiftRight_eq_div_pow number 8]

theorem foldl_zipIdx (string : List UInt8) (low start : Nat) (fits : low < 2 ^ (start * 8)) :
    (string.zipIdx start).foldl
        (fun number byte => number ||| byte.1.toNat <<< (byte.2 * 8)) low =
      low + 2 ^ (start * 8) * value string := by
  induction string generalizing low start with
  | nil => simp
  | cons byte rest induction =>
      have joined : low ||| byte.toNat <<< (start * 8) =
          low + 2 ^ (start * 8) * byte.toNat := by
        rw [Nat.or_comm, ← Nat.shiftLeft_add_eq_or_of_lt fits, Nat.shiftLeft_eq]
        ring
      have wider : 2 ^ ((start + 1) * 8) = 2 ^ (start * 8) * 256 := by
        rw [Nat.succ_mul, pow_add]
        rfl
      have small := byte.toNat_lt
      rw [List.zipIdx_cons, List.foldl_cons, joined, induction, wider, value_cons]
      · ring
      · rw [wider]
        nlinarith

end NetLatencyLab.LittleEndian
