import TestMatrix.Json.Token
namespace TestMatrix.Json.Token

def Numeral (s : List Char) : Prop := s ≠ [] ∧ ∀ c ∈ s, c.isDigit

/-- The digits before the point: no zero stands in front of another digit. -/
def Whole (s : List Char) : Prop := s = ['0'] ∨ Numeral s ∧ s.head? ≠ some '0'

def Fraction (s : List Char) : Prop := s = [] ∨ ∃ digits, s = '.' :: digits ∧ Numeral digits

def Exponent (s : List Char) : Prop :=
  s = [] ∨ ∃ e sign digits, s = e :: (sign ++ digits) ∧ e ∈ ['e', 'E'] ∧
    sign ∈ [[], ['+'], ['-']] ∧ Numeral digits

def Unsigned (s : List Char) : Prop :=
  ∃ whole fraction exponent, s = whole ++ (fraction ++ exponent) ∧ Whole whole ∧
    Fraction fraction ∧ Exponent exponent

def Number (s : List Char) : Prop :=
  ∃ sign rest, s = sign ++ rest ∧ sign ∈ [[], ['-']] ∧ Unsigned rest

namespace Digits

def Due : Digits → List Char → Prop
  | sign, s => Unsigned s
  | zero, s => ∃ fraction exponent, s = fraction ++ exponent ∧ Fraction fraction ∧ Exponent exponent
  | whole, s => ∃ digits fraction exponent, s = digits ++ (fraction ++ exponent) ∧
      (∀ c ∈ digits, c.isDigit) ∧ Fraction fraction ∧ Exponent exponent
  | point, s => ∃ digits exponent, s = digits ++ exponent ∧ Numeral digits ∧ Exponent exponent
  | fraction, s => ∃ digits exponent, s = digits ++ exponent ∧ (∀ c ∈ digits, c.isDigit) ∧
      Exponent exponent
  | exponent, s => ∃ sign digits, s = sign ++ digits ∧ sign ∈ [[], ['+'], ['-']] ∧ Numeral digits
  | exponentSign, s => Numeral s
  | power, s => ∀ c ∈ s, c.isDigit

variable {c : Char} {s : List Char}

theorem numeral_cons : Numeral (c :: s) ↔ c.isDigit ∧ ∀ d ∈ s, d.isDigit := by
  simp [Numeral]

theorem exponent_cons : Exponent (c :: s) ↔ c ∈ ['e', 'E'] ∧ exponent.Due s := by
  constructor
  · rintro (h | ⟨e, sign, digits, h, he, hs, hd⟩)
    · cases h
    · cases h
      exact ⟨he, sign, digits, rfl, hs, hd⟩
  · rintro ⟨he, sign, digits, rfl, hs, hd⟩
    exact .inr ⟨c, sign, digits, rfl, he, hs, hd⟩

theorem exponent_due_cons :
    exponent.Due (c :: s) ↔ c ∈ ['+', '-'] ∧ exponentSign.Due s ∨ exponentSign.Due (c :: s) := by
  simp only [Due, List.mem_cons, List.not_mem_nil, or_false]
  constructor
  · rintro ⟨sign, digits, h, rfl | rfl | rfl, hd⟩
    · rw [h]
      exact .inr hd
    · cases h
      exact .inl ⟨.inl rfl, hd⟩
    · cases h
      exact .inl ⟨.inr rfl, hd⟩
  · rintro (⟨rfl | rfl, hd⟩ | hd)
    · exact ⟨['+'], s, rfl, .inr (.inl rfl), hd⟩
    · exact ⟨['-'], s, rfl, .inr (.inr rfl), hd⟩
    · exact ⟨[], c :: s, rfl, .inl rfl, hd⟩

theorem fraction_due_cons :
    fraction.Due (c :: s) ↔ c.isDigit ∧ fraction.Due s ∨ Exponent (c :: s) := by
  constructor
  · rintro ⟨digits, exponent, h, hd, he⟩
    cases digits with
    | nil => exact .inr (h ▸ he)
    | cons d digits =>
      cases h
      obtain ⟨first, rest⟩ := List.forall_mem_cons.1 hd
      exact .inl ⟨first, digits, exponent, rfl, rest, he⟩
  · rintro (⟨hc, digits, exponent, rfl, hd, he⟩ | he)
    · exact ⟨c :: digits, exponent, rfl, List.forall_mem_cons.2 ⟨hc, hd⟩, he⟩
    · exact ⟨[], c :: s, rfl, by simp, he⟩

theorem point_due_cons : point.Due (c :: s) ↔ c.isDigit ∧ fraction.Due s := by
  constructor
  · rintro ⟨digits, exponent, h, ⟨filled, hd⟩, he⟩
    cases digits with
    | nil => exact absurd rfl filled
    | cons d digits =>
      cases h
      obtain ⟨first, rest⟩ := List.forall_mem_cons.1 hd
      exact ⟨first, digits, exponent, rfl, rest, he⟩
  · rintro ⟨hc, digits, exponent, rfl, hd, he⟩
    exact ⟨c :: digits, exponent, rfl, numeral_cons.2 ⟨hc, hd⟩, he⟩

theorem zero_due_cons : zero.Due (c :: s) ↔ c = '.' ∧ point.Due s ∨ Exponent (c :: s) := by
  constructor
  · rintro ⟨fraction, exponent, h, rfl | ⟨digits, rfl, hd⟩, he⟩
    · exact .inr (h ▸ he)
    · cases h
      exact .inl ⟨rfl, digits, exponent, rfl, hd, he⟩
  · rintro (⟨rfl, digits, exponent, rfl, hd, he⟩ | he)
    · exact ⟨'.' :: digits, exponent, rfl, .inr ⟨digits, rfl, hd⟩, he⟩
    · exact ⟨[], c :: s, rfl, .inl rfl, he⟩

theorem whole_due_cons : whole.Due (c :: s) ↔ c.isDigit ∧ whole.Due s ∨ zero.Due (c :: s) := by
  constructor
  · rintro ⟨digits, fraction, exponent, h, hd, hf, he⟩
    cases digits with
    | nil => exact .inr ⟨fraction, exponent, h, hf, he⟩
    | cons d digits =>
      cases h
      obtain ⟨first, rest⟩ := List.forall_mem_cons.1 hd
      exact .inl ⟨first, digits, fraction, exponent, rfl, rest, hf, he⟩
  · rintro (⟨hc, digits, fraction, exponent, rfl, hd, hf, he⟩ | ⟨fraction, exponent, h, hf, he⟩)
    · exact ⟨c :: digits, fraction, exponent, rfl, List.forall_mem_cons.2 ⟨hc, hd⟩, hf, he⟩
    · exact ⟨[], fraction, exponent, h, by simp, hf, he⟩

theorem sign_due_cons :
    sign.Due (c :: s) ↔ c = '0' ∧ zero.Due s ∨ c ≠ '0' ∧ c.isDigit ∧ whole.Due s := by
  constructor
  · rintro ⟨whole, fraction, exponent, h, rfl | ⟨⟨filled, hd⟩, first⟩, hf, he⟩
    · cases h
      exact .inl ⟨rfl, fraction, exponent, rfl, hf, he⟩
    · cases whole with
      | nil => exact absurd rfl filled
      | cons d digits =>
        cases h
        obtain ⟨digit, rest⟩ := List.forall_mem_cons.1 hd
        have other : c ≠ '0' := fun zero ↦ first (congrArg _ zero)
        exact .inr ⟨other, digit, digits, fraction, exponent, rfl, rest, hf, he⟩
  · rintro (⟨rfl, fraction, exponent, rfl, hf, he⟩ |
      ⟨other, digit, digits, fraction, exponent, rfl, hd, hf, he⟩)
    · exact ⟨['0'], fraction, exponent, rfl, .inl rfl, hf, he⟩
    · refine ⟨c :: digits, fraction, exponent, rfl, .inr ⟨numeral_cons.2 ⟨digit, hd⟩, ?_⟩, hf, he⟩
      simpa using other

theorem raised_iff : (∃ d, next?.raised c = some d ∧ d.Due s) ↔ Exponent (c :: s) := by
  rw [next?.raised, exponent_cons]
  by_cases raised : c = 'e' ∨ c = 'E' <;> simp [raised]

theorem pointed_iff : (∃ d, next?.pointed c = some d ∧ d.Due s) ↔ zero.Due (c :: s) := by
  rw [next?.pointed, zero_due_cons, ← raised_iff]
  by_cases pointed : c = '.'
  · subst pointed
    simp [next?.raised]
  · simp [pointed]

/-- A digit goes on with the digits before it and begins no other part of a number. -/
theorem not_exponent_of_isDigit (digit : c.isDigit) : ¬Exponent (c :: s) := by
  rw [exponent_cons]
  rintro ⟨he, -⟩
  simp only [List.mem_cons, List.not_mem_nil, or_false] at he
  rcases he with rfl | rfl <;> cases digit

theorem not_zero_due_of_isDigit (digit : c.isDigit) : ¬zero.Due (c :: s) := by
  rw [zero_due_cons]
  rintro (⟨rfl, -⟩ | he)
  · cases digit
  · exact not_exponent_of_isDigit digit he

/-- The characters of a number are those that its reader takes, one after the other. -/
theorem due_cons_iff {d : Digits} : d.Due (c :: s) ↔ ∃ d', d.next? c = some d' ∧ d'.Due s := by
  cases d with
  | sign =>
    rw [sign_due_cons, next?]
    by_cases zero : c = '0' <;> by_cases digit : c.isDigit <;> simp [zero, digit]
  | zero => rw [← pointed_iff, next?]
  | whole =>
    rw [whole_due_cons, next?]
    by_cases digit : c.isDigit
    · simp [digit, not_zero_due_of_isDigit digit]
    · simp [digit, pointed_iff]
  | point =>
    rw [point_due_cons, next?]
    by_cases digit : c.isDigit <;> simp [digit]
  | fraction =>
    rw [fraction_due_cons, next?]
    by_cases digit : c.isDigit
    · simp [digit, not_exponent_of_isDigit digit]
    · simp [digit, raised_iff]
  | exponent =>
    rw [exponent_due_cons, next?]
    by_cases signed : c = '+' ∨ c = '-'
    · have digit : c.isDigit = Bool.false := by rcases signed with rfl | rfl <;> rfl
      simp [signed, Due, numeral_cons, digit]
    · by_cases digit : c.isDigit <;> simp [signed, digit, Due, numeral_cons]
  | exponentSign | power =>
    rw [next?]
    by_cases digit : c.isDigit <;> simp [digit, Due, numeral_cons]

theorem due_nil_iff {d : Digits} : d.Due [] ↔ d.isComplete := by
  have empty : ¬Numeral [] := fun h ↦ h.1 rfl
  have exponent : Exponent [] := .inl rfl
  cases d with
  | sign =>
    refine iff_of_false ?_ (by decide)
    rintro ⟨_, _, _, h, first | ⟨first, -⟩, -⟩ <;>
      rw [(List.append_eq_nil_iff.1 h.symm).1] at first
    · cases first
    · exact empty first
  | zero => exact iff_of_true ⟨[], [], rfl, .inl rfl, exponent⟩ rfl
  | whole => exact iff_of_true ⟨[], [], [], rfl, by simp, .inl rfl, exponent⟩ rfl
  | point =>
    refine iff_of_false ?_ (by decide)
    rintro ⟨_, _, h, first, -⟩
    rw [(List.append_eq_nil_iff.1 h.symm).1] at first
    exact empty first
  | fraction => exact iff_of_true ⟨[], [], rfl, by simp, exponent⟩ rfl
  | exponent =>
    refine iff_of_false ?_ (by decide)
    rintro ⟨_, _, h, -, last⟩
    rw [(List.append_eq_nil_iff.1 h.symm).2] at last
    exact empty last
  | exponentSign => exact iff_of_false empty (by decide)
  | power => exact iff_of_true (by simp [Due]) rfl

theorem number_iff : Number s ↔ (∃ rest, s = '-' :: rest ∧ sign.Due rest) ∨ sign.Due s := by
  constructor
  · rintro ⟨first, rest, rfl, h, hr⟩
    simp only [List.mem_cons, List.not_mem_nil, or_false] at h
    rcases h with rfl | rfl
    · exact .inr hr
    · exact .inl ⟨rest, rfl, hr⟩
  · rintro (⟨rest, rfl, hr⟩ | hr)
    · exact ⟨['-'], rest, rfl, by simp, hr⟩
    · exact ⟨[], s, rfl, by simp, hr⟩

end Digits

end TestMatrix.Json.Token
