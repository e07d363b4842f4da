import Mathlib.Data.List.Basic

/-! The bytes of a text, character by character. A line feed is the only character with its byte. -/
namespace Inquiry.Utf8

theorem toList_loop (bytes : ByteArray) (i : Nat) (known : List UInt8) :
    ByteArray.toList.loop bytes i known = known.reverse ++ bytes.data.toList.drop i := by
  induction i, known using ByteArray.toList.loop.induct bytes with
  | case1 i known inside ih =>
    have bound : i < bytes.data.toList.length := by simpa using inside
    have byte : bytes.get! i = bytes.data.toList[i] := by
      simp [ByteArray.get!, getElem!_pos bytes.data i inside]
    rw [ByteArray.toList.loop, if_pos inside, ih, List.drop_eq_getElem_cons bound, byte]
    simp
  | case2 i known outside =>
    have past : bytes.data.toList.length ≤ i := by simpa using outside
    rw [ByteArray.toList.loop, if_neg outside, List.drop_eq_nil_of_le past, List.append_nil]

theorem toList_data (bytes : ByteArray) : bytes.toList = bytes.data.toList := by
  simp [ByteArray.toList, toList_loop]

theorem bytes_text (text : String) :
    text.toUTF8.toList = text.toList.flatMap String.utf8EncodeChar := by
  have encoded : text.toUTF8 = text.toList.utf8Encode := (String.utf8Encode_toList).symm
  rw [toList_data, encoded]
  simp [List.utf8Encode]

theorem bytes_inj {first second : String} (same : first.toUTF8.toList = second.toUTF8.toList) :
    first = second := by
  rw [toList_data, toList_data] at same
  exact String.toByteArray_inj.1 (ByteArray.ext (Array.toList_inj.1 same))

theorem feed_value {n : Nat} (byte : 10 = UInt8.ofNat n) : n % 256 = 10 := by
  have value := congrArg UInt8.toNat byte
  rw [UInt8.toNat_ofNat'] at value
  exact value.symm

theorem feed_low {n : Nat} (high : 128 ≤ n) (bound : n < 256) : 10 ≠ UInt8.ofNat n := by
  intro byte
  have value := feed_value byte
  omega

/-- All bytes of a longer encoding are at least 128. -/
theorem feed_char {c : Char} (byte : 10 ∈ String.utf8EncodeChar c) : c = '\n' := by
  have value : c.val.toNat = 10 := by
    unfold String.utf8EncodeChar at byte
    dsimp only at byte
    split at byte
    next small =>
      have value := feed_value (List.mem_singleton.1 byte)
      omega
    next =>
      split at byte
      next =>
        simp only [List.mem_cons, List.not_mem_nil, or_false] at byte
        rcases byte with byte | byte <;> exact absurd byte (feed_low (by omega) (by omega))
      next =>
        split at byte
        all_goals simp only [List.mem_cons, List.not_mem_nil, or_false] at byte
        · rcases byte with byte | byte | byte <;> exact absurd byte (feed_low (by omega) (by omega))
        · rcases byte with byte | byte | byte | byte <;>
            exact absurd byte (feed_low (by omega) (by omega))
  exact Char.ext (UInt32.toNat_inj.1 value)

theorem feed_text {text : String} (plain : '\n' ∉ text.toList) : 10 ∉ text.toUTF8.toList := by
  rw [bytes_text]
  intro byte
  obtain ⟨c, member, inside⟩ := List.mem_flatMap.1 byte
  exact plain (feed_char inside ▸ member)

end Inquiry.Utf8
