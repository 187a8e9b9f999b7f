import TestMatrix.Proofs.Text.Encoding
import TestMatrix.Proofs.Text.Splitting
namespace TestMatrix.Text.Utf8

variable {a b c d : UInt8} {r : Range} {due : List Range} {begun bytes : Bytes} {p : Progress}

theorem exists_char {v : Nat} (h : v.isValidChar) : ∃ c : Char, c.val.toNat = v :=
  ⟨Char.ofNatAux v h, rfl⟩

theorem exists_encodeChar_one (ha : a.toNat ≤ 0x7f) : ∃ c, [a] = String.utf8EncodeChar c := by
  have valid : a.toNat.isValidChar := .inl (by omega)
  obtain ⟨c, hc⟩ := exists_char valid
  refine ⟨c, ?_⟩
  rw [String.utf8EncodeChar, hc, if_pos ha, UInt8.ofNat_toNat]

theorem exists_encodeChar_two (ha : 0xc2 ≤ a.toNat ∧ a.toNat ≤ 0xdf)
    (hb : 0x80 ≤ b.toNat ∧ b.toNat ≤ 0xbf) : ∃ c, [a, b] = String.utf8EncodeChar c := by
  have valid : ((a.toNat - 0xc0) * 64 + (b.toNat - 0x80)).isValidChar := .inl (by omega)
  obtain ⟨c, hc⟩ := exists_char valid
  refine ⟨c, ?_⟩
  rw [String.utf8EncodeChar, hc, if_neg (by omega), if_pos (by omega)]
  simp only [List.cons.injEq, ← UInt8.toNat_inj, UInt8.toNat_ofNat', and_true]
  omega

theorem exists_encodeChar_three (ha : 0xe0 ≤ a.toNat ∧ a.toNat ≤ 0xef)
    (hb : 0x80 ≤ b.toNat ∧ b.toNat ≤ 0xbf) (hc : 0x80 ≤ c.toNat ∧ c.toNat ≤ 0xbf)
    (long : a.toNat = 0xe0 → 0xa0 ≤ b.toNat) (scalar : a.toNat = 0xed → b.toNat ≤ 0x9f) :
    ∃ x, [a, b, c] = String.utf8EncodeChar x := by
  have valid : ((a.toNat - 0xe0) * 4096 + (b.toNat - 0x80) * 64 + (c.toNat - 0x80)).isValidChar := by
    unfold Nat.isValidChar
    omega
  obtain ⟨x, hx⟩ := exists_char valid
  refine ⟨x, ?_⟩
  rw [String.utf8EncodeChar, hx, if_neg (by omega), if_neg (by omega), if_pos (by omega)]
  simp only [List.cons.injEq, ← UInt8.toNat_inj, UInt8.toNat_ofNat', and_true]
  omega

theorem exists_encodeChar_four (ha : 0xf0 ≤ a.toNat ∧ a.toNat ≤ 0xf4)
    (hb : 0x80 ≤ b.toNat ∧ b.toNat ≤ 0xbf) (hc : 0x80 ≤ c.toNat ∧ c.toNat ≤ 0xbf)
    (hd : 0x80 ≤ d.toNat ∧ d.toNat ≤ 0xbf) (long : a.toNat = 0xf0 → 0x90 ≤ b.toNat)
    (scalar : a.toNat = 0xf4 → b.toNat ≤ 0x8f) : ∃ x, [a, b, c, d] = String.utf8EncodeChar x := by
  have valid : ((a.toNat - 0xf0) * 262144 + (b.toNat - 0x80) * 4096 + (c.toNat - 0x80) * 64 +
      (d.toNat - 0x80)).isValidChar := by
    unfold Nat.isValidChar
    omega
  obtain ⟨x, hx⟩ := exists_char valid
  refine ⟨x, ?_⟩
  rw [String.utf8EncodeChar, hx, if_neg (by omega), if_neg (by omega), if_neg (by omega)]
  simp only [List.cons.injEq, ← UInt8.toNat_inj, UInt8.toNat_ofNat', and_true]
  omega

def Completes (begun : Bytes) : List Range → Prop
  | [] => ∃ c, begun = String.utf8EncodeChar c
  | r :: due => ∀ b, r.contains b → Completes (begun ++ [b]) due

theorem contains_iff : r.contains b ↔ r.1.toNat ≤ b.toNat ∧ b.toNat ≤ r.2.toNat := by
  simp [Range.contains, UInt8.le_iff_toNat_le]

theorem completes_three (ha : 0xe0 ≤ a.toNat ∧ a.toNat ≤ 0xef)
    (hr : 0x80 ≤ r.1.toNat ∧ r.2.toNat ≤ 0xbf) (long : a.toNat = 0xe0 → 0xa0 ≤ r.1.toNat)
    (scalar : a.toNat = 0xed → r.2.toNat ≤ 0x9f) : Completes [a] [r, tail] := by
  intro b hb c hc
  have hb := contains_iff.1 hb
  exact exists_encodeChar_three ha (by omega) (contains_iff.1 hc) (by omega) (by omega)

theorem completes_four (ha : 0xf0 ≤ a.toNat ∧ a.toNat ≤ 0xf4)
    (hr : 0x80 ≤ r.1.toNat ∧ r.2.toNat ≤ 0xbf) (long : a.toNat = 0xf0 → 0x90 ≤ r.1.toNat)
    (scalar : a.toNat = 0xf4 → r.2.toNat ≤ 0x8f) : Completes [a] [r, tail, tail] := by
  intro b hb c hc d hd
  have hb := contains_iff.1 hb
  exact exists_encodeChar_four ha (by omega) (contains_iff.1 hc) (contains_iff.1 hd) (by omega)
    (by omega)

theorem completes_of_following (h : following? a = some due) : Completes [a] due := by
  simp only [following?, UInt8.le_iff_toNat_le, UInt8.lt_iff_toNat_lt, ← UInt8.toNat_inj,
    UInt8.reduceToNat] at h
  split at h
  · next small =>
    cases h
    exact exists_encodeChar_one small
  split at h
  · cases h
  split at h
  · cases h
    intro b hb
    exact exists_encodeChar_two (by omega) (contains_iff.1 hb)
  split at h
  · cases h
    exact completes_three (by omega) (by decide) (fun _ ↦ by decide) (by omega)
  split at h
  · cases h
    exact completes_three (by omega) (by decide) (by omega) (fun _ ↦ by decide)
  split at h
  · cases h
    exact completes_three (by omega) (by decide) (by omega) (by omega)
  split at h
  · cases h
    exact completes_four (by omega) (by decide) (fun _ ↦ by decide) (by omega)
  split at h
  · cases h
    exact completes_four (by omega) (by decide) (by omega) (by omega)
  split at h
  · cases h
    exact completes_four (by omega) (by decide) (by omega) (fun _ ↦ by decide)
  · cases h

def Progress.Begins (p : Progress) : Prop := p.due ≠ [] → Completes p.begun p.due

def Piece.Sound (piece : Piece) : Prop := piece.whole → ∃ c, piece.bytes = String.utf8EncodeChar c

namespace Progress

theorem start_sound (b : UInt8) : (∀ piece ∈ (start b).1, piece.Sound) ∧ (start b).2.Begins := by
  rw [start]
  split
  · exact ⟨by simp [Piece.Sound], fun h ↦ absurd rfl h⟩
  · next h =>
    refine ⟨fun piece hp _ ↦ ?_, fun h ↦ absurd rfl h⟩
    rw [List.mem_singleton.1 hp]
    exact completes_of_following h
  · next h => exact ⟨by simp, fun _ ↦ completes_of_following h⟩

theorem step_sound (hp : p.Begins) (b : UInt8) :
    (∀ piece ∈ (p.step b).1, piece.Sound) ∧ (p.step b).2.Begins := by
  obtain ⟨whole, begins⟩ := start_sound b
  rw [step]
  split
  · exact ⟨whole, begins⟩
  · next r due hd =>
    have completes := hp (by simp [hd])
    rw [hd] at completes
    split
    · next hb =>
      split
      · next last =>
        have done := completes b hb
        rw [List.isEmpty_iff.1 last] at done
        refine ⟨fun piece hp _ ↦ ?_, fun h ↦ absurd rfl h⟩
        rw [List.mem_singleton.1 hp]
        exact done
      · exact ⟨by simp, fun _ ↦ completes b hb⟩
    · refine ⟨fun piece hp ↦ ?_, begins⟩
      rcases List.mem_cons.1 hp with rfl | hp
      · exact fun h ↦ absurd h Bool.false_ne_true
      · exact whole piece hp

theorem run_sound (hp : p.Begins) (bytes : Bytes) : ∀ piece ∈ p.run bytes, piece.Sound := by
  induction bytes generalizing p with
  | nil =>
    rw [run]
    split
    · simp
    · simp [Piece.Sound]
  | cons b rest ih =>
    obtain ⟨whole, begins⟩ := step_sound hp b
    rw [run]
    intro piece hm
    rcases List.mem_append.1 hm with hm | hm
    · exact whole piece hm
    · exact ih begins piece hm

end Progress

theorem exists_encode (pieces : List Piece) (h : ∀ piece ∈ pieces, ∃ c, piece.bytes =
    String.utf8EncodeChar c) : ∃ s, pieces.flatMap (·.bytes) = encode s := by
  induction pieces with
  | nil => exact ⟨"", rfl⟩
  | cons piece rest ih =>
    obtain ⟨c, hc⟩ := h piece List.mem_cons_self
    obtain ⟨s, hs⟩ := ih fun other ho ↦ h other (List.mem_cons_of_mem piece ho)
    refine ⟨c.toString ++ s, ?_⟩
    rw [List.flatMap_cons, hc, hs, encode_append, encode_eq_flatMap c.toString]
    simp

theorem exists_splitValid (bytes : Bytes) : ∃ s, (splitValid bytes).1 = encode s := by
  refine exists_encode _ fun piece hp ↦ ?_
  have whole : piece.whole := by
    have all := List.all_takeWhile (l := pieces bytes) (p := (·.whole))
    exact List.all_eq_true.1 all piece hp
  have begins : ({} : Progress).Begins := fun h ↦ absurd rfl h
  exact Progress.run_sound begins bytes piece ((List.takeWhile_sublist _).subset hp) whole

theorem splitValid_cons (hb : b.toNat ≤ 0x7f) (bytes : Bytes) :
    splitValid (b :: bytes) = (b :: (splitValid bytes).1, (splitValid bytes).2) := by
  have first : pieces (b :: bytes) = ⟨[b], true⟩ :: pieces bytes := by
    have small : b ≤ 0x7f := UInt8.le_iff_toNat_le.2 hb
    have alone : Progress.start b = ([⟨[b], true⟩], {}) := by
      rw [Progress.start, following?, if_pos small]
    rw [pieces, Progress.run, Progress.step, alone]
    rfl
  rw [splitValid, first]
  rfl

end TestMatrix.Text.Utf8
