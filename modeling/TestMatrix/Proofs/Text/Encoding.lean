import TestMatrix.Text.Utf8
namespace TestMatrix.Text.Utf8

variable {a c : Char} {b : UInt8} {s : String}

theorem toNat_ofNat {n : Nat} (h : n.isValidChar) : (Char.ofNat n).toNat = n := by
  rw [Char.ofNat, dif_pos h]
  rfl

theorem encode_eq_flatMap (s : String) : encode s = s.toList.flatMap String.utf8EncodeChar := by
  rw [encode, String.toUTF8_eq_toByteArray, ← String.utf8Encode_toList, List.utf8Encode]
  simp

theorem encodeChar_ascii (h : c.toNat < 0x80) :
    String.utf8EncodeChar c = [UInt8.ofNat c.toNat] := by
  have hc : c.val.toNat ≤ 0x7f := Nat.le_of_lt_succ h
  simp only [String.utf8EncodeChar, if_pos hc]
  rfl

theorem le_of_mem_encodeChar (h : 0x80 ≤ c.toNat) (hb : b ∈ String.utf8EncodeChar c) :
    0x80 ≤ b := by
  have hc : ¬c.val.toNat ≤ 0x7f := Nat.not_le_of_lt h
  simp only [String.utf8EncodeChar, if_neg hc] at hb
  rw [UInt8.le_iff_toNat_le]
  split at hb
  · simp only [List.mem_cons, List.not_mem_nil, or_false] at hb
    rcases hb with rfl | rfl <;> rw [UInt8.toNat_ofNat'] <;> simp <;> omega
  split at hb
  · simp only [List.mem_cons, List.not_mem_nil, or_false] at hb
    rcases hb with rfl | rfl | rfl <;> rw [UInt8.toNat_ofNat'] <;> simp <;> omega
  · simp only [List.mem_cons, List.not_mem_nil, or_false] at hb
    rcases hb with rfl | rfl | rfl | rfl <;> rw [UInt8.toNat_ofNat'] <;> simp <;> omega

/-- No byte of a longer character looks like a character of one byte. -/
theorem mem_encodeChar_iff (ha : a.toNat < 0x80) :
    UInt8.ofNat a.toNat ∈ String.utf8EncodeChar c ↔ c = a := by
  constructor
  · intro h
    by_cases hc : c.toNat < 0x80
    · rw [encodeChar_ascii hc, List.mem_singleton] at h
      have same := congrArg UInt8.toNat h
      simp only [UInt8.toNat_ofNat'] at same
      have same : c.toNat = a.toNat := by omega
      exact Char.toNat_inj.1 same
    · have high := UInt8.le_iff_toNat_le.1 (le_of_mem_encodeChar (Nat.not_lt.1 hc) h)
      simp only [UInt8.toNat_ofNat', UInt8.reduceToNat] at high
      omega
  · intro h
    rw [h, encodeChar_ascii ha]
    exact List.mem_singleton_self _

theorem mem_encode_iff (ha : a.toNat < 0x80) :
    UInt8.ofNat a.toNat ∈ encode s ↔ a ∈ s.toList := by
  simp only [encode_eq_flatMap, List.mem_flatMap, mem_encodeChar_iff ha, exists_eq_right]

theorem encode_inj {t : String} : encode s = encode t ↔ s = t :=
  ⟨encode_injective, congrArg encode⟩

theorem encode_eq_nil_iff : encode s = [] ↔ s = "" := encode_inj (t := "")

theorem head?_encode_iff (ha : a.toNat < 0x80) :
    (encode s).head? = some (UInt8.ofNat a.toNat) ↔ s.toList.head? = some a := by
  rw [encode_eq_flatMap]
  cases s.toList with
  | nil => simp
  | cons c rest =>
    have first := List.head?_eq_some_head (String.utf8EncodeChar_ne_nil (c := c))
    rw [List.flatMap_cons, List.head?_append, first, Option.some_or, ← first, List.head?_cons,
      Option.some_inj]
    constructor
    · intro h
      exact (mem_encodeChar_iff ha).1 (List.mem_of_head? h)
    · intro h
      rw [h, encodeChar_ascii ha, List.head?_cons]

theorem getLast?_encode_iff (ha : a.toNat < 0x80) :
    (encode s).getLast? = some (UInt8.ofNat a.toNat) ↔ s.toList.getLast? = some a := by
  rw [encode_eq_flatMap]
  rcases List.eq_nil_or_concat s.toList with h | ⟨front, c, h⟩
  · simp [h]
  · have last := List.getLast?_eq_some_getLast (String.utf8EncodeChar_ne_nil (c := c))
    rw [h, List.concat_eq_append, List.flatMap_append, List.flatMap_singleton, List.getLast?_append,
      last, Option.some_or, ← last, List.getLast?_concat, Option.some_inj]
    constructor
    · intro h
      exact (mem_encodeChar_iff ha).1 (List.mem_of_getLast? h)
    · intro h
      rw [h, encodeChar_ascii ha]
      rfl

end TestMatrix.Text.Utf8
