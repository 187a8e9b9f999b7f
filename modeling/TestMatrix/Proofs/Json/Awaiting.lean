import TestMatrix.Proofs.Json.Lexemes
namespace TestMatrix.Json

open Token Token.Mode

namespace Token.Mode

def Ends : Mode → Token → List Char → Prop
  | between, _, _ => False
  | word token due, t, s => t = token ∧ s = due
  | number digits, t, s => t = Token.number ∧ digits.Due s
  | string acc, t, s => ∃ pieces body, t = Token.string (acc.reverse ++ pieces) ∧
      s = body ++ ['"'] ∧ Body pieces body
  | escape acc, t, s => ∃ pieces body, t = Token.string (acc.reverse ++ pieces) ∧
      s = body ++ ['"'] ∧ Body pieces ('\\' :: body)
  | unit acc value due, t, s => ∃ n digits pieces body,
      t = Token.string (acc.reverse ++ Piece.ofUnit n :: pieces) ∧ s = digits ++ (body ++ ['"']) ∧
      digits.length = max due 1 ∧ Hex value digits n ∧ Body pieces body

/-- The text `s` finishes what the mode is in the middle of and goes on with the other tokens. -/
def Awaits (m : Mode) (ts : List Token) (s : List Char) : Prop :=
  m = between ∧ Lexemes ts s ∨
    ∃ t later front rest, ts = t :: later ∧ s = front ++ rest ∧ m.Ends t front ∧ Lexemes later rest

variable {m next : Mode} {c : Char} {out ts : List Token} {s : List Char}

theorem awaits_between : between.Awaits ts s ↔ Lexemes ts s := by
  simp [Awaits, Ends]

theorem awaits_of_ends {t : Token} {later : List Token} {front rest : List Char}
    (h : m.Ends t front) (hl : Lexemes later rest) : m.Awaits (t :: later) (front ++ rest) :=
  .inr ⟨t, later, front, rest, rfl, rfl, h, hl⟩

/-- What ends the next token ends this one too, once `c` is put in front of it. -/
theorem Awaits.cons (h : next.Awaits ts s) (inside : next ≠ between)
    (ends : ∀ t front, next.Ends t front → m.Ends t (c :: front)) : m.Awaits ts (c :: s) := by
  rcases h with ⟨rfl, -⟩ | ⟨t, later, front, rest, rfl, rfl, h, hl⟩
  · exact absurd rfl inside
  · exact awaits_of_ends (ends t front h) hl

inductive Begins (c : Char) : List Token → Mode → Prop
  | mark {t : Token} (h : t.fixed? = some [c]) : Begins c [t] between
  | word {t : Token} {due : List Char} (h : t.fixed? = some (c :: due)) : Begins c [] (word t due)
  | quote (h : c = '"') : Begins c [] (string [])
  | number {digits : Digits} (h : ∀ s, digits.Due s → Number (c :: s)) : Begins c [] (number digits)
  | space (h : isSpace c) : Begins c [] between

theorem begins_of_begin? (h : begin? c = some (out, next)) : Begins c out next := by
  unfold begin? at h
  split at h
  case h_1 => cases h; exact .mark (t := openObject) rfl
  case h_2 => cases h; exact .mark (t := closeObject) rfl
  case h_3 => cases h; exact .mark (t := openArray) rfl
  case h_4 => cases h; exact .mark (t := closeArray) rfl
  case h_5 => cases h; exact .mark (t := comma) rfl
  case h_6 => cases h; exact .mark (t := colon) rfl
  case h_7 => cases h; exact .quote rfl
  case h_8 => cases h; exact .word rfl
  case h_9 => cases h; exact .word rfl
  case h_10 => cases h; exact .word rfl
  case h_11 => cases h; exact .number fun s due ↦ Digits.number_iff.2 (.inl ⟨s, rfl, due⟩)
  case h_12 =>
    cases h
    exact .number fun s due ↦ Digits.number_iff.2 (.inr (Digits.sign_due_cons.2 (.inl ⟨rfl, due⟩)))
  case h_13 zero =>
    split at h
    · next digit =>
      cases h
      exact .number fun s due ↦
        Digits.number_iff.2 (.inr (Digits.sign_due_cons.2 (.inr ⟨zero, digit, due⟩)))
    · split at h
      · next space => cases h; exact .space space
      · cases h

theorem begin?_sound (h : begin? c = some (out, next)) (hn : next.Awaits ts s) :
    Lexemes (out ++ ts) (c :: s) := by
  cases begins_of_begin? h with
  | mark fixed => exact .cons (.fixed fixed) (awaits_between.1 hn)
  | word fixed =>
    obtain ⟨⟨⟩, -⟩ | ⟨_, later, _, rest, rfl, rfl, ⟨rfl, rfl⟩, hl⟩ := hn
    exact .cons (.fixed fixed) hl
  | quote same =>
    obtain ⟨⟨⟩, -⟩ | ⟨_, later, _, rest, rfl, rfl, ⟨pieces, body, rfl, rfl, hb⟩, hl⟩ := hn
    subst same
    exact .cons (.string hb) hl
  | number number =>
    obtain ⟨⟨⟩, -⟩ | ⟨_, later, front, rest, rfl, rfl, ⟨rfl, due⟩, hl⟩ := hn
    exact .cons (.number (number front due)) hl
  | space space => exact .space space (awaits_between.1 hn)

section

variable {acc : List Piece} (hn : next.Awaits ts s)

include hn

theorem word_sound {t : Token} {due : List Char}
    (h : (word t due).step? c = some (out, next)) : (word t due).Awaits (out ++ ts) (c :: s) := by
  rcases due with _ | ⟨d, _ | ⟨d', due⟩⟩ <;> simp only [step?] at h
  · cases h
  · split at h
    · next same =>
      cases h
      have ends : (word t [d]).Ends t [c] := ⟨rfl, congrArg (· :: []) same⟩
      exact awaits_of_ends ends (awaits_between.1 hn)
    · cases h
  · split at h
    · next same =>
      cases h
      refine hn.cons (by simp) ?_
      rintro t front ⟨ht, rest⟩
      exact ⟨ht, by rw [same, rest]⟩
    · cases h

theorem number_sound {digits : Digits} (h : (number digits).step? c = some (out, next)) :
    (number digits).Awaits (out ++ ts) (c :: s) := by
  rw [step?] at h
  split at h
  · next digits' step =>
    cases h
    refine hn.cons (by simp) ?_
    rintro t front ⟨ht, due⟩
    exact ⟨ht, Digits.due_cons_iff.2 ⟨_, step, due⟩⟩
  · split at h
    · next complete =>
      obtain ⟨⟨out', next'⟩, begin, same⟩ := Option.map_eq_some_iff.1 h
      cases same
      have ends : (number digits).Ends Token.number [] := ⟨rfl, Digits.due_nil_iff.2 complete⟩
      exact awaits_of_ends ends (begin?_sound begin hn)
    · cases h

theorem string_sound (h : (string acc).step? c = some (out, next)) :
    (string acc).Awaits (out ++ ts) (c :: s) := by
  rw [step?] at h
  split at h
  · next quote =>
    cases h
    have ends : (string acc).Ends (Token.string acc.reverse) ['"'] :=
      ⟨[], [], by rw [List.append_nil], rfl, .nil⟩
    rw [quote]
    exact awaits_of_ends ends (awaits_between.1 hn)
  split at h
  · next backslash =>
    cases h
    subst backslash
    refine hn.cons (by simp) ?_
    rintro t front ⟨pieces, body, ht, hs, hb⟩
    exact ⟨pieces, '\\' :: body, ht, congrArg _ hs, hb⟩
  split at h
  · cases h
  · next quote backslash control =>
    cases h
    refine hn.cons (by simp) ?_
    rintro t front ⟨pieces, body, ht, hs, hb⟩
    refine ⟨.char c :: pieces, c :: body, ?_, congrArg _ hs,
      .raw quote backslash (Nat.not_lt.1 control) hb⟩
    rw [ht, List.reverse_cons, ← List.append_cons]

theorem escape_sound (h : (escape acc).step? c = some (out, next)) :
    (escape acc).Awaits (out ++ ts) (c :: s) := by
  rw [step?] at h
  split at h
  · next isUnit =>
    cases h
    subst isUnit
    refine hn.cons (by simp) ?_
    rintro t front ⟨n, digits, pieces, body, ht, hs, four, value, hb⟩
    have small : n < 0x10000 := by
      have bound := value.lt
      rwa [four] at bound
    refine ⟨Piece.ofUnit n :: pieces, 'u' :: (digits ++ body), ht, ?_,
      .unit four value (Piece.named_ofUnit small) hb⟩
    rw [hs, List.cons_append, List.append_assoc]
  · obtain ⟨d, letter, same⟩ := Option.map_eq_some_iff.1 h
    cases same
    refine hn.cons (by simp) ?_
    rintro t front ⟨pieces, body, ht, hs, hb⟩
    refine ⟨.char d :: pieces, c :: body, ?_, congrArg _ hs,
      .short (lookup_shortEscapes.1 letter) hb⟩
    rw [ht, List.reverse_cons, ← List.append_cons]

theorem unit_sound {value due : Nat} (h : (unit acc value due).step? c = some (out, next)) :
    (unit acc value due).Awaits (out ++ ts) (c :: s) := by
  obtain ⟨k, digit, h⟩ := Option.bind_eq_some_iff.1 h
  have first := hexDigit?_eq_some_iff.1 digit
  split at h
  · next last =>
    cases h
    refine hn.cons (by simp) ?_
    rintro t front ⟨pieces, body, ht, hs, hb⟩
    refine ⟨_, [c], pieces, body, ?_, congrArg _ hs, by simp [last], .cons first .nil, hb⟩
    rw [ht, List.reverse_cons, ← List.append_cons]
  · next more =>
    cases h
    refine hn.cons (by simp) ?_
    rintro t front ⟨n, digits, pieces, body, ht, hs, length, rest, hb⟩
    refine ⟨n, c :: digits, pieces, body, ht, congrArg _ hs, ?_, .cons first rest, hb⟩
    rw [List.length_cons, length]
    omega

/-- A step takes what its character ends off what is awaited. -/
theorem step?_sound (h : m.step? c = some (out, next)) : m.Awaits (out ++ ts) (c :: s) := by
  cases m with
  | between => exact awaits_between.2 (begin?_sound h hn)
  | word t due => exact word_sound hn h
  | number digits => exact number_sound hn h
  | string acc => exact string_sound hn h
  | escape acc => exact escape_sound hn h
  | unit acc value due => exact unit_sound hn h

end

theorem finish?_sound (h : m.finish? = some ts) : m.Awaits ts [] := by
  cases m with
  | between => cases h; exact awaits_between.2 .nil
  | number digits =>
    rw [finish?] at h
    split at h
    · next complete =>
      cases h
      have ends : (number digits).Ends Token.number [] := ⟨rfl, Digits.due_nil_iff.2 complete⟩
      exact awaits_of_ends ends .nil
    · cases h
  | word | string | escape | unit => cases h

theorem run?_sound (h : m.run? s = some ts) : m.Awaits ts s := by
  -- From the end of the text back, so that each step finds what the mode behind it awaits.
  induction s generalizing m ts with
  | nil => exact finish?_sound h
  | cons c s ih =>
    obtain ⟨⟨out, next⟩, step, h⟩ := Option.bind_eq_some_iff.1 h
    obtain ⟨later, rest, h⟩ := Option.bind_eq_some_iff.1 h
    cases h
    exact step?_sound (ih rest) step

end Token.Mode

/-- A text is read as tokens only if it is written as them. -/
theorem Token.lexemes_of_ofText? {ts : List Token} {s : List Char} (h : Token.ofText? s = some ts) :
    Lexemes ts s := awaits_between.1 (run?_sound h)

end TestMatrix.Json
