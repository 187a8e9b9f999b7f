import Mathlib.Algebra.Group.Nat.Defs
import TestMatrix.Proofs.Json.Scanning
import TestMatrix.Proofs.Text.Encoding
namespace TestMatrix.Json

def HexDigit (k : Nat) (c : Char) : Prop :=
  k < 16 ∧ (c = Nat.digitChar k ∨ c = (Nat.digitChar k).toUpper)

inductive Hex : Nat → List Char → Nat → Prop
  | nil {n : Nat} : Hex n [] n
  | cons {value k n : Nat} {c : Char} {s : List Char} (first : HexDigit k c)
      (rest : Hex (value * 16 + k) s n) : Hex value (c :: s) n

/-- The number of a character names it, and the numbers in between name halves of pairs. -/
inductive Piece.Named : Piece → Nat → Prop
  | char {c : Char} : Named (.char c) c.toNat
  | half {n : Nat} (surrogate : 0xd800 ≤ n ∧ n ≤ 0xdfff) : Named (.half n) n

/-- How the inside of a string may be written: most characters as they are, some by a backslash and
one letter, and any by its number. -/
inductive Body : List Piece → List Char → Prop
  | nil : Body [] []
  | raw {c : Char} {pieces : List Piece} {s : List Char} (quote : c ≠ '"') (backslash : c ≠ '\\')
      (control : 0x20 ≤ c.toNat) (rest : Body pieces s) : Body (.char c :: pieces) (c :: s)
  | short {c d : Char} {pieces : List Piece} {s : List Char} (letter : (d, c) ∈ shortEscapes)
      (rest : Body pieces s) : Body (.char c :: pieces) ('\\' :: d :: s)
  | unit {n : Nat} {digits : List Char} {piece : Piece} {pieces : List Piece} {s : List Char}
      (four : digits.length = 4) (value : Hex 0 digits n) (named : piece.Named n)
      (rest : Body pieces s) : Body (piece :: pieces) ('\\' :: 'u' :: (digits ++ s))

/-- The text that pieces make: two halves are one character beyond the first plane. -/
inductive Piece.Tells : List Piece → List Char → Prop
  | nil : Tells [] []
  | char {c : Char} {pieces : List Piece} {s : List Char} (rest : Tells pieces s) :
      Tells (.char c :: pieces) (c :: s)
  | pair {high low : Nat} {c : Char} {pieces : List Piece} {s : List Char}
      (first : 0xd800 ≤ high ∧ high ≤ 0xdbff) (second : 0xdc00 ≤ low ∧ low ≤ 0xdfff)
      (value : c.toNat = 0x10000 + (high - 0xd800) * 0x400 + (low - 0xdc00))
      (rest : Tells pieces s) : Tells (.half high :: .half low :: pieces) (c :: s)

/-- No digit is beyond the first 128 characters, and there they are looked through. -/
theorem hexDigit?_eq_some_iff {c : Char} {k : Nat} : hexDigit? c = some k ↔ HexDigit k c := by
  constructor
  · have small : ∀ n < 128, ∀ k ∈ hexDigit? (Char.ofNat n), k < 16 ∧
        (Char.ofNat n = Nat.digitChar k ∨ Char.ofNat n = (Nat.digitChar k).toUpper) := by decide
    intro h
    have bound : c.toNat < 128 := by
      apply Nat.lt_of_not_le
      intro large
      have last : ¬c ≤ '9' ∧ ¬c ≤ 'f' ∧ ¬c ≤ 'F' := by
        simp only [Char.le_def, UInt32.le_iff_toNat_le]
        have : c.val.toNat = c.toNat := rfl
        refine ⟨?_, ?_, ?_⟩ <;> simp <;> omega
      simp [hexDigit?, last] at h
    have found := small c.toNat bound
    rw [Char.ofNat_toNat] at found
    exact found k h
  · have back : ∀ k < 16, hexDigit? (Nat.digitChar k) = some k ∧
        hexDigit? (Nat.digitChar k).toUpper = some k := by decide
    rintro ⟨bound, rfl | rfl⟩
    · exact (back k bound).1
    · exact (back k bound).2

theorem lookup_shortEscapes {c d : Char} :
    shortEscapes.lookup d = some c ↔ (d, c) ∈ shortEscapes := by
  have found : ∀ p ∈ shortEscapes, shortEscapes.lookup p.1 = some p.2 := by decide
  refine ⟨fun h ↦ ?_, found (d, c)⟩
  obtain ⟨before, after, split, -⟩ := List.lookup_eq_some_iff.1 h
  simp [split]

namespace Piece

theorem isHalf_iff {n : Nat} : (isHigh n || isLow n) ↔ 0xd800 ≤ n ∧ n ≤ 0xdfff := by
  simp only [isHigh, isLow, Bool.or_eq_true, Bool.and_eq_true, decide_eq_true_eq]
  omega

theorem Named.ofUnit_eq {piece : Piece} {n : Nat} (h : piece.Named n) : ofUnit n = piece := by
  cases h with
  | @char c =>
    rw [ofUnit, if_neg, Char.ofNat_toNat]
    rw [isHalf_iff]
    have valid : c.toNat.isValidChar := c.valid
    unfold Nat.isValidChar at valid
    omega
  | half surrogate => exact if_pos (isHalf_iff.2 surrogate)

theorem named_ofUnit {n : Nat} (h : n < 0x10000) : (ofUnit n).Named n := by
  unfold ofUnit
  split
  · next surrogate => exact .half (isHalf_iff.1 surrogate)
  · next other =>
    rw [isHalf_iff] at other
    have value : (Char.ofNat n).toNat = n := Text.Utf8.toNat_ofNat (by unfold Nat.isValidChar; omega)
    have named : Named (.char (Char.ofNat n)) (Char.ofNat n).toNat := .char
    rwa [value] at named

theorem text?_eq_some_iff {pieces : List Piece} {s : List Char} :
    text? pieces = some s ↔ Tells pieces s := by
  constructor
  · intro h
    fun_induction text? pieces generalizing s with
    | case1 => cases h; exact .nil
    | case2 c rest ih =>
      obtain ⟨s, later, rfl⟩ := Option.map_eq_some_iff.1 h
      exact .char (ih later)
    | case3 high low rest halves ih =>
      obtain ⟨s, later, rfl⟩ := Option.map_eq_some_iff.1 h
      simp only [isHigh, isLow, Bool.and_eq_true, decide_eq_true_eq] at halves
      refine .pair halves.1 halves.2 (Text.Utf8.toNat_ofNat ?_) (ih later)
      unfold Nat.isValidChar
      omega
    | case4 | case5 => cases h
  · intro h
    induction h with
    | nil => rfl
    | char _ ih => rw [text?, ih, Option.map_eq_map, Option.map_some]
    | @pair high low c _ _ first second value _ ih =>
      have halves : isHigh high && isLow low := by
        simp only [isHigh, isLow, Bool.and_eq_true, decide_eq_true_eq]
        exact ⟨first, second⟩
      rw [text?, if_pos halves, ih, pair, ← value, Char.ofNat_toNat, Option.map_eq_map,
        Option.map_some]

theorem Tells.unique {pieces : List Piece} {s s' : List Char} (h : Tells pieces s)
    (h' : Tells pieces s') : s = s' := by
  have text := text?_eq_some_iff.2 h
  rw [text?_eq_some_iff.2 h'] at text
  exact (Option.some.inj text).symm

end Piece

theorem Hex.lt {value n : Nat} {s : List Char} (h : Hex value s n) :
    n < (value + 1) * 16 ^ s.length := by
  induction h with
  | nil => simp
  | @cons value k n c s first _ ih =>
    calc n < (value * 16 + k + 1) * 16 ^ s.length := ih
      _ ≤ (value + 1) * 16 * 16 ^ s.length := Nat.mul_le_mul_right _ (by have := first.1; omega)
      _ = (value + 1) * 16 ^ (c :: s).length := by
        rw [List.length_cons, Nat.pow_succ', Nat.mul_assoc]

open Token Token.Mode

variable {value n : Nat} {pieces acc : List Piece} {s : List Char}

theorem Hex.reads (h : Hex value s n) {due : Nat} (length : s.length = due + 1) :
    (Mode.unit acc value (due + 1)).Reads s [] (.string (Piece.ofUnit n :: acc)) := by
  induction h generalizing due with
  | nil => cases length
  | @cons value k n c s first rest ih =>
    have digit := hexDigit?_eq_some_iff.2 first
    have length := Nat.succ.inj length
    cases due with
    | zero =>
      cases List.length_eq_zero_iff.1 length
      cases rest
      exact .one (by simp [step?, digit])
    | succ due => exact .inside (.unit acc _ (due + 1)) (by simp [step?, digit]) (ih length)

theorem Body.reads (h : Body pieces s) :
    ∀ acc, (Mode.string acc).Reads s [] (.string (pieces.reverse ++ acc)) := by
  have behind {piece : Piece} {pieces : List Piece} {front s : List Char} {acc : List Piece}
      (first : (Mode.string acc).Reads front [] (.string (piece :: acc)))
      (rest : ∀ acc, (Mode.string acc).Reads s [] (.string (pieces.reverse ++ acc))) :
      (Mode.string acc).Reads (front ++ s) [] (.string ((piece :: pieces).reverse ++ acc)) := by
    rw [List.reverse_cons, ← List.append_cons]
    exact first.trans (rest (piece :: acc))
  induction h with
  | nil => exact fun _ ↦ .nil _
  | @raw c _ _ quote backslash control _ ih =>
    have read (acc : List Piece) : (Mode.string acc).Reads [c] [] (.string (.char c :: acc)) :=
      .one (by rw [step?, if_neg quote, if_neg backslash, if_neg (Nat.not_lt.2 control)])
    exact fun acc ↦ behind (read acc) ih
  | @short c d _ _ letter _ ih =>
    have other : ∀ p ∈ shortEscapes, p.1 ≠ 'u' := by decide
    have read (acc : List Piece) :
        (Mode.string acc).Reads ['\\', d] [] (.string (.char c :: acc)) := by
      refine .inside (.escape acc) rfl (.one ?_)
      rw [step?, if_neg (other _ letter), lookup_shortEscapes.2 letter]
      rfl
    exact fun acc ↦ behind (read acc) ih
  | @unit n digits piece _ _ four value named _ ih =>
    have read (acc : List Piece) :
        (Mode.string acc).Reads ('\\' :: 'u' :: digits) [] (.string (piece :: acc)) := by
      have unit : (Mode.unit acc 0 4).Reads digits [] _ := value.reads four
      rw [named.ofUnit_eq] at unit
      exact .inside (.escape acc) rfl (.inside (.unit acc 0 4) rfl unit)
    exact fun acc ↦ behind (read acc) ih

end TestMatrix.Json
