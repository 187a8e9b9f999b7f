import Mathlib.Data.List.Chain
import TestMatrix.Proofs.Json.Numbers
import TestMatrix.Proofs.Json.Strings
namespace TestMatrix.Json

open Token Token.Mode

namespace Token

def fixed? : Token → Option (List Char)
  | openObject => some ['\x7b']
  | closeObject => some ['\x7d']
  | openArray => some ['[']
  | closeArray => some [']']
  | comma => some [',']
  | colon => some [':']
  | null => some ['n', 'u', 'l', 'l']
  | true => some ['t', 'r', 'u', 'e']
  | false => some ['f', 'a', 'l', 's', 'e']
  | number => none
  | string _ => none

inductive Written : Token → List Char → Prop
  | fixed {t : Token} {s : List Char} (h : t.fixed? = some s) : Written t s
  | number {s : List Char} (h : Number s) : Written number s
  | string {pieces : List Piece} {s : List Char} (h : Body pieces s) :
      Written (string pieces) ('"' :: (s ++ ['"']))

/-- Tokens one after the other, with any white space around them. -/
inductive Lexemes : List Token → List Char → Prop
  | nil : Lexemes [] []
  | space {c : Char} {ts : List Token} {s : List Char} (h : isSpace c) (rest : Lexemes ts s) :
      Lexemes ts (c :: s)
  | cons {t : Token} {ts : List Token} {s s' : List Char} (first : Written t s)
      (rest : Lexemes ts s') : Lexemes (t :: ts) (s ++ s')

variable {s s' : List Char} {t : Token} {ts ts' : List Token}

def Stops (s : List Char) : Prop := ∀ c ∈ s.head?, ¬c.isDigit ∧ c ∉ ['.', 'e', 'E']

theorem stops_nil : Stops [] := nofun

theorem next?_eq_none {d : Digits} {c : Char} (complete : d.isComplete)
    (stop : ¬c.isDigit ∧ c ∉ ['.', 'e', 'E']) : d.next? c = none := by
  simp only [List.mem_cons, List.not_mem_nil, or_false, not_or] at stop
  obtain ⟨digit, point, low, high⟩ := stop
  cases d with
  | zero | whole | fraction | power =>
    simp [Digits.next?, Digits.next?.pointed, Digits.next?.raised, digit, point, low, high]
  | sign | point | exponent | exponentSign => cases complete

theorem due_run {d : Digits} (h : d.Due s) {rest : List Char} (stop : Stops rest) :
    (Mode.number d).run? (s ++ rest) = (Mode.between.run? rest).map (number :: ·) := by
  induction s generalizing d with
  | nil =>
    have complete := Digits.due_nil_iff.1 h
    cases rest with
    | nil => simp [run?, finish?, complete]
    | cons c rest =>
      have h := next?_eq_none complete (stop c rfl)
      simp only [List.nil_append, run?, step?, h, complete, if_true]
      cases begin? c with
      | none => rfl
      | some p =>
        obtain ⟨out, next⟩ := p
        simp only [Option.map_some, Option.bind_eq_bind, Option.bind_some]
        cases next.run? rest <;> rfl
  | cons c s ih =>
    obtain ⟨d', step, h⟩ := Digits.due_cons_iff.1 h
    simp only [List.cons_append, run?, step?, step, ih h, Option.bind_eq_bind, Option.bind_some]
    cases between.run? rest <;> rfl

theorem word_reads (t : Token) (due : List Char) (c : Char) :
    (Mode.word t (c :: due)).Reads (c :: due) [t] .between := by
  induction due generalizing c with
  | nil => exact .one (by simp [step?])
  | cons d due ih => exact .inside (.word t (d :: due)) (by simp [step?]) (ih d)

theorem fixed_scans (h : t.fixed? = some s) : Scans s [t] := by
  cases t with
  | openObject => cases h; exact .mark '\x7b' [openObject] rfl (.nil _)
  | closeObject => cases h; exact .mark '\x7d' [closeObject] rfl (.nil _)
  | openArray => cases h; exact .mark '[' [openArray] rfl (.nil _)
  | closeArray => cases h; exact .mark ']' [closeArray] rfl (.nil _)
  | comma => cases h; exact .mark ',' [comma] rfl (.nil _)
  | colon => cases h; exact .mark ':' [colon] rfl (.nil _)
  | null => cases h; exact .inside _ rfl (word_reads null _ 'u')
  | true => cases h; exact .inside _ rfl (word_reads true _ 'r')
  | false => cases h; exact .inside _ rfl (word_reads false _ 'a')
  | number | string => cases h

theorem begin?_of_isDigit {c : Char} (digit : c.isDigit) (other : c ≠ '0') :
    begin? c = some ([], .number .whole) := by
  unfold begin?
  split
  case h_13 => rw [if_pos digit]
  case h_12 => exact absurd rfl other
  all_goals cases digit

theorem exists_begin (h : Number s) :
    ∃ c rest d, s = c :: rest ∧ begin? c = some ([], .number d) ∧ d.Due rest := by
  rcases Digits.number_iff.1 h with ⟨rest, rfl, due⟩ | due
  · exact ⟨'-', rest, .sign, rfl, rfl, due⟩
  · cases s with
    | nil => cases Digits.due_nil_iff.1 due
    | cons c rest =>
      rcases Digits.sign_due_cons.1 due with ⟨rfl, later⟩ | ⟨other, digit, later⟩
      · exact ⟨'0', rest, .zero, rfl, rfl, later⟩
      · exact ⟨c, rest, .whole, rfl, begin?_of_isDigit digit other, later⟩

theorem number_run (h : Number s) {rest : List Char} (stop : Stops rest) :
    Mode.between.run? (s ++ rest) = (Mode.between.run? rest).map (number :: ·) := by
  obtain ⟨c, s, d, rfl, begin, due⟩ := exists_begin h
  have one := Reads.one (m := .between) begin (s ++ rest)
  rw [due_run due stop, Option.map_map] at one
  exact one

theorem Written.run (h : Written t s) {rest : List Char} (stop : t = Token.number → Stops rest) :
    Mode.between.run? (s ++ rest) = (Mode.between.run? rest).map (t :: ·) := by
  cases h with
  | fixed h => exact fixed_scans h rest
  | number h => exact number_run h (stop rfl)
  | @string pieces s h =>
    have last : (Mode.string pieces.reverse).Reads ['"'] [.string pieces] .between :=
      .one (by rw [step?, if_pos rfl, List.reverse_reverse])
    have body := h.reads []
    rw [List.append_nil] at body
    exact Reads.inside (m := .between) (.string []) rfl (body.trans last) rest

theorem Written.stops (h : Written t s) (other : t ≠ Token.number) (rest : List Char) :
    Stops (s ++ rest) := by
  cases h with
  | fixed h => cases t <;> cases h <;> (intro c first; cases first; decide)
  | number => exact absurd rfl other
  | string => intro c first; cases first; decide

theorem isSpace_iff {c : Char} : isSpace c ↔ c = ' ' ∨ c = '\n' ∨ c = '\t' ∨ c = '\r' := by
  simp only [isSpace, Bool.or_eq_true, beq_iff_eq, or_assoc]

theorem Lexemes.stops (h : Lexemes ts s) (other : ts.head? ≠ some number) {rest : List Char}
    (stop : ts = [] → Stops rest) : Stops (s ++ rest) := by
  cases h with
  | nil => exact stop rfl
  | @space c _ s space =>
    intro d first
    cases first
    rcases isSpace_iff.1 space with rfl | rfl | rfl | rfl <;> decide
  | cons first =>
    rw [List.append_assoc]
    exact first.stops (fun number ↦ other (congrArg some number)) _

theorem space_run {c : Char} (space : isSpace c) (s : List Char) :
    Mode.between.run? (c :: s) = Mode.between.run? s := by
  have one : Mode.between.step? c = some ([], .between) := by
    rcases isSpace_iff.1 space with rfl | rfl | rfl | rfl <;> rfl
  exact (Reads.one one s).trans Option.map_id'

/-- Two numbers next to each other might be read as one. -/
def Apart (ts : List Token) : Prop := ts.IsChain fun t t' ↦ t = number → t' ≠ number

theorem Lexemes.run (h : Lexemes ts s) (apart : Apart ts) {rest : List Char}
    (stop : ts.getLast? = some number → Stops rest) :
    Mode.between.run? (s ++ rest) = (Mode.between.run? rest).map (ts ++ ·) := by
  induction h with
  | nil => simp
  | @space c ts s space _ ih => rw [List.cons_append, space_run space, ih apart stop]
  | @cons t ts s s' first others ih =>
    have chain := List.isChain_cons.1 apart
    have later := ih chain.2 fun last ↦ stop (by
      rw [List.getLast?_cons, last]
      rfl)
    rw [List.append_assoc, first.run, later, Option.map_map]
    · rfl
    · intro isNumber
      refine others.stops (fun head ↦ chain.1 _ head isNumber rfl) fun last ↦ stop ?_
      rw [last, isNumber]
      rfl

end Token

end TestMatrix.Json
