import TestMatrix.Proofs.Text.Encoding
import TestMatrix.Text.Lowercase
namespace TestMatrix.Text

/-- Equal but for the case of letters, which is that of ASCII letters alone. -/
def SameLetters (s t : String) : Prop := s.toList.map Char.toLower = t.toList.map Char.toLower

instance (s t : String) : Decidable (SameLetters s t) :=
  inferInstanceAs (Decidable (s.toList.map Char.toLower = t.toList.map Char.toLower))

namespace Lowercase

/-- A text and its small letters. A sigma has one of its own for the end of a word. -/
inductive Lowers : List Char → List Char → Prop
  | nil : Lowers [] []
  | cons (c : Char) {cs ds : List Char} (more : Lowers cs ds) : Lowers (c :: cs) (ofChar c ++ ds)
  | sigma {cs ds : List Char} (more : Lowers cs ds) : Lowers ('\u03a3' :: cs) ('\u03c2' :: ds)

variable {c d : Char} {cs ds : List Char} {r : Run}

theorem lowers_flatMap (cs : List Char) : Lowers cs (cs.flatMap ofChar) := by
  induction cs with
  | nil => exact .nil
  | cons c cs ih => exact .cons c ih

theorem toLower_beyond (h : 0x80 ≤ c.toNat) : c.toLower = c := by
  have last : ¬c.val ≤ 'Z'.val := by
    rw [UInt32.le_iff_toNat_le]
    exact Nat.not_le_of_lt (Nat.lt_of_lt_of_le (by decide) h)
  exact dif_neg fun upper ↦ last upper.2

def capitals : Run := ⟨0x41, 0x5a, 1, 32⟩

theorem find_ascii (h : c.toNat < 0x80) :
    runs.find? (·.holds c.toNat) = if capitals.holds c.toNat then some capitals else none := by
  have beyond : ∀ r ∈ runs.tail, 0x80 ≤ r.first := by decide +kernel
  have others : runs.tail.find? (·.holds c.toNat) = none := by
    rw [List.find?_eq_none]
    intro r hr
    have first := beyond r hr
    simp only [Run.holds, Bool.and_eq_true, decide_eq_true_eq]
    omega
  have split : runs = [capitals] ++ runs.tail := rfl
  rw [split, List.find?_append, others, Option.or_none, List.find?_singleton]

theorem ofChar_ascii (h : c.toNat < 0x80) : ofChar c = [c.toLower] := by
  have lowered : ∀ n < 0x80, capitals.holds n →
      Char.ofNat (n + capitals.shift).toNat = (Char.ofNat n).toLower := by decide
  have kept : ∀ n < 0x80, ¬capitals.holds n → Char.ofNat n = (Char.ofNat n).toLower := by decide
  have other : c ≠ '\u0130' := by
    intro dotted
    rw [dotted] at h
    exact absurd h (by decide)
  rw [ofChar, if_neg other, find_ascii h]
  by_cases capital : capitals.holds c.toNat
  · have small := lowered _ h capital
    rw [c.ofNat_toNat] at small
    rw [if_pos capital, ← small]
  · have same := kept _ h capital
    rw [c.ofNat_toNat] at same
    rw [if_neg capital, ← same]

/-- Of all runs beyond ASCII just one leads into it, and none leads to where no character is. -/
theorem run_beyond : ∀ r ∈ runs, 0x80 ≤ r.last →
    (r.first = 0x212a ∧ r.last = 0x212a ∧ r.shift = -8383) ∨
      (0x80 ≤ r.first + r.shift ∧ (r.last + r.shift < 0xd800 ∨
        0xe000 ≤ r.first + r.shift ∧ r.last + r.shift < 0x110000)) := by
  decide +kernel

/-- A character beyond ASCII keeps out of it but for the Kelvin sign and the dotted I. -/
theorem ofChar_beyond (h : 0x80 ≤ c.toNat) :
    (c = '\u212a' ∧ ofChar c = ['k']) ∨ (c = '\u0130' ∧ ofChar c = ['i', '\u0307']) ∨
      ∃ d, ofChar c = [d] ∧ 0x80 ≤ d.toNat := by
  by_cases dotted : c = '\u0130'
  · exact .inr (.inl ⟨dotted, by rw [ofChar, if_pos dotted]⟩)
  cases found : runs.find? (·.holds c.toNat) with
  | none =>
    refine .inr (.inr ⟨c, ?_, h⟩)
    rw [ofChar, if_neg dotted, found]
  | some r =>
    have holds := List.find?_some found
    simp only [Run.holds, Bool.and_eq_true, decide_eq_true_eq] at holds
    have small : ofChar c = [Char.ofNat (c.toNat + r.shift).toNat] := by
      rw [ofChar, if_neg dotted, found]
    rcases run_beyond r (List.mem_of_find?_eq_some found) (by omega) with ⟨first, last, -⟩ | within
    · left
      have kelvin : c = '\u212a' := Char.toNat_inj.1 (show c.toNat = 0x212a by omega)
      subst kelvin
      exact ⟨rfl, by decide +kernel⟩
    · have valid : (c.toNat + r.shift).toNat.isValidChar := by
        unfold Nat.isValidChar
        omega
      refine .inr (.inr ⟨_, small, ?_⟩)
      rw [Utf8.toNat_ofNat valid]
      omega

/-- The characters beyond ASCII with an ASCII letter in their small form. -/
theorem ascii_mem_ofChar_iff (h : 0x80 ≤ c.toNat) :
    (∃ d ∈ ofChar c, d.toNat < 0x80) ↔ c = '\u212a' ∨ c = '\u0130' := by
  constructor
  · intro found
    obtain ⟨d, hd, ascii⟩ := found
    rcases ofChar_beyond h with ⟨kelvin, -⟩ | ⟨dotted, -⟩ | ⟨e, he, beyond⟩
    · exact .inl kelvin
    · exact .inr dotted
    · rw [he, List.mem_singleton] at hd
      subst hd
      omega
  · intro either
    rcases either with rfl | rfl
    · exact ⟨'k', by decide +kernel, by decide⟩
    · exact ⟨'i', by decide, by decide⟩

namespace Lowers

/-- Small letters of ASCII, but for the one that the Kelvin sign has too, come from ASCII alone. -/
theorem ascii (h : Lowers cs ds) (plain : ∀ d ∈ ds, d.toNat < 0x80 ∧ d ≠ 'k') :
    ∀ c ∈ cs, c.toNat < 0x80 := by
  induction h with
  | nil => exact List.forall_mem_nil _
  | cons c _ ih =>
    rw [List.forall_mem_append] at plain
    refine List.forall_mem_cons.2 ⟨?_, ih plain.2⟩
    apply Nat.lt_of_not_le
    intro beyond
    rcases ofChar_beyond beyond with ⟨-, small⟩ | ⟨-, small⟩ | ⟨d, small, high⟩
    · exact (plain.1 'k' (by simp [small])).2 rfl
    · exact absurd (plain.1 '\u0307' (by simp [small])).1 (by decide)
    · have low := (plain.1 d (by simp [small])).1
      omega
  | sigma _ _ => exact absurd (List.forall_mem_cons.1 plain).1.1 (by decide)

theorem eq_map (h : Lowers cs ds) (ascii : ∀ c ∈ cs, c.toNat < 0x80) :
    ds = cs.map Char.toLower := by
  induction h with
  | nil => rfl
  | cons c _ ih =>
    obtain ⟨first, rest⟩ := List.forall_mem_cons.1 ascii
    rw [ofChar_ascii first, List.map_cons, ← ih rest]
    rfl
  | sigma _ _ => exact absurd (List.forall_mem_cons.1 ascii).1 (by decide)

/-- Over such letters the small form is the one that ASCII alone makes. -/
theorem eq_iff {word : List Char} (h : Lowers cs ds)
    (plain : ∀ d ∈ word, d.toNat < 0x80 ∧ d ≠ 'k') : ds = word ↔ cs.map Char.toLower = word := by
  constructor
  · intro same
    subst same
    exact (h.eq_map (h.ascii plain)).symm
  · intro same
    rw [← same]
    apply h.eq_map
    intro c hc
    apply Nat.lt_of_not_le
    intro beyond
    have kept := plain c.toLower (same ▸ List.mem_map_of_mem hc)
    rw [toLower_beyond beyond] at kept
    omega

end Lowers

end Lowercase

end TestMatrix.Text
