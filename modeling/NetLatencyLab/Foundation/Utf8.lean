import NetLatencyLab.Foundation.PythonText

/-! # Text in UTF-8

Programs that replace single bytes of a text without looking at its characters
are right about it as long as they replace ASCII only. -/

namespace NetLatencyLab.Utf8

open PythonText (Text)

def encode (text : Text) : List UInt8 := text.flatMap String.utf8EncodeChar

def decode (bytes : List UInt8) : Option Text := bytes.toByteArray.utf8Decode?.map Array.toList

def ascii (char : Char) : UInt8 := UInt8.ofNat char.toNat

theorem decode_encode (text : Text) : decode (encode text) = some text := by
  have decoded : (encode text).toByteArray.utf8Decode? = some text.toArray :=
    List.utf8Decode?_utf8Encode
  rw [decode, decoded]
  rfl

@[simp] theorem encode_nil : encode [] = [] := rfl

@[simp] theorem encode_append (first second : Text) :
    encode (first ++ second) = encode first ++ encode second := List.flatMap_append

theorem encode_singleton_of_ascii {char : Char} (small : char.toNat < 128) :
    encode [char] = [ascii char] := by
  have one : char.val.toNat ≤ 0x7f := Nat.le_of_lt_succ small
  rw [encode, List.flatMap_singleton, String.utf8EncodeChar]
  simp only [one, if_true]
  rfl

private theorem high_of_mem_encode {char : Char} (wide : 128 ≤ char.toNat) {byte : UInt8}
    (member : byte ∈ String.utf8EncodeChar char) : 128 ≤ byte.toNat := by
  have beyond : ¬ char.val.toNat ≤ 0x7f := Nat.not_le_of_lt wide
  rw [String.utf8EncodeChar] at member
  simp only [beyond, if_false] at member
  split at member
  · simp only [List.mem_cons, List.not_mem_nil, or_false] at member
    rcases member with rfl | rfl <;> rw [UInt8.toNat_ofNat'] <;> omega
  · split at member
    · simp only [List.mem_cons, List.not_mem_nil, or_false] at member
      rcases member with rfl | rfl | rfl <;> rw [UInt8.toNat_ofNat'] <;> omega
    · simp only [List.mem_cons, List.not_mem_nil, or_false] at member
      rcases member with rfl | rfl | rfl | rfl <;> rw [UInt8.toNat_ofNat'] <;> omega

theorem flatMap_encode {replaceByte : UInt8 → List UInt8} {replace : Char → Text}
    (high : ∀ byte : UInt8, 128 ≤ byte.toNat → replaceByte byte = [byte])
    (wide : ∀ char, 128 ≤ char.toNat → replace char = [char])
    (small : ∀ char, char.toNat < 128 → replaceByte (ascii char) = encode (replace char))
    (text : Text) : (encode text).flatMap replaceByte = encode (text.flatMap replace) := by
  induction text with
  | nil => rfl
  | cons char text induction =>
      have single : encode (char :: text) = encode [char] ++ encode text := encode_append [char] text
      rw [single, List.flatMap_append, induction, List.flatMap_cons, encode_append]
      congr 1
      by_cases inside : char.toNat < 128
      · rw [encode_singleton_of_ascii inside, List.flatMap_singleton, small char inside]
      · have outside : 128 ≤ char.toNat := Nat.le_of_not_lt inside
        rw [wide char outside]
        have kept : ∀ byte ∈ encode [char], replaceByte byte = [byte] := by
          intro byte member
          rw [encode, List.flatMap_singleton] at member
          exact high byte (high_of_mem_encode outside member)
        rw [List.flatMap_congr kept, List.flatMap_singleton']

end NetLatencyLab.Utf8
