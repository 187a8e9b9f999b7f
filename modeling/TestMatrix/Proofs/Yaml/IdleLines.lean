import TestMatrix.Yaml.Grammar
namespace TestMatrix.Yaml

inductive IdleLine : List Char → Prop
  | spaces (n : Nat) : IdleLine (List.replicate n ' ')
  | comment (n : Nat) {words : List Char} (h : ∀ c ∈ words, isAllowed c ∧ isBreak c = false) :
      IdleLine (List.replicate n ' ' ++ '#' :: words)

/-- Lines without a value. The last one may lack its end. -/
inductive Idle : List Char → Prop
  | last {line : List Char} (h : IdleLine line) : Idle line
  | cons {line rest : List Char} (h : IdleLine line) (more : Idle rest) : Idle (line ++ '\n' :: rest)

theorem Mark.skip_skip (m : Mark) (a b : Nat) : (m.skip a).skip b = m.skip (a + b) := by
  simp [skip, Nat.add_assoc]

namespace Lexer

variable {flow allowed : Bool} {m : Mark} {line rest text : List Char}

theorem skipGap_spaces (n : Nat) : skipGap flow allowed false m (List.replicate n ' ' ++ rest) =
    skipGap flow allowed false (m.skip n) rest := by
  induction n generalizing m with
  | zero => rfl
  | succ n ih =>
    have space : skipGap flow allowed false m (' ' :: (List.replicate n ' ' ++ rest)) =
        skipGap flow allowed false (m.skip 1) (List.replicate n ' ' ++ rest) := by
      simp [skipGap, isBreak]
    rw [List.replicate_succ, List.cons_append, space, ih, Mark.skip_skip, Nat.add_comm]

theorem skipGap_comment {words : List Char} (h : ∀ c ∈ words, isBreak c = false) :
    skipGap flow allowed true m (words ++ rest) =
      skipGap flow allowed true (m.skip words.length) rest := by
  induction words generalizing m with
  | nil => rfl
  | cons c words ih =>
    obtain ⟨inside, more⟩ := List.forall_mem_cons.1 h
    have taken : skipGap flow allowed true m (c :: (words ++ rest)) =
        skipGap flow allowed true (m.skip 1) (words ++ rest) := by
      have other : c ≠ '\r' := by
        rintro rfl
        cases inside
      simp [skipGap, other, inside]
    rw [List.cons_append, taken, ih more, Mark.skip_skip, List.length_cons, Nat.add_comm]

/-- An idle line is skipped up to its end, in a comment or not. -/
theorem skipGap_line (h : IdleLine line) (rest : List Char) : ∃ m' comment,
    skipGap flow allowed false m (line ++ rest) = skipGap flow allowed comment m' rest := by
  cases h with
  | spaces n => exact ⟨_, false, skipGap_spaces n⟩
  | @comment n words h =>
    have sign (m : Mark) (behind : List Char) : skipGap flow allowed false m ('#' :: behind) =
        skipGap flow allowed true (m.skip 1) behind := by
      simp [skipGap, isBreak, byteOrderMark]
    refine ⟨((m.skip n).skip 1).skip words.length, true, ?_⟩
    rw [List.append_assoc, skipGap_spaces, List.cons_append, sign,
      skipGap_comment fun c hc ↦ (h c hc).2]

theorem skipGap_newline (flow allowed comment : Bool) (m : Mark) (rest : List Char) :
    skipGap flow allowed comment m ('\n' :: rest) =
      skipGap flow (allowed || !flow) false (m.newLine 1) rest := by
  simp [skipGap, isBreak]

theorem skipGap_idle (h : Idle text) (flow allowed : Bool) (m : Mark) :
    ∃ allowed' m', skipGap flow allowed false m text = (allowed', ⟨m', []⟩) := by
  induction h generalizing allowed m with
  | last h =>
    obtain ⟨m', comment, skipped⟩ := skipGap_line h []
    rw [List.append_nil] at skipped
    exact ⟨_, _, skipped⟩
  | cons h _ ih =>
    obtain ⟨m', comment, skipped⟩ := skipGap_line h _
    rw [skipped, skipGap_newline]
    apply ih

end Lexer

theorem IdleLine.allowed {line : List Char} (h : IdleLine line) : ∀ c ∈ line, isAllowed c := by
  have space (n : Nat) : ∀ c ∈ List.replicate n ' ', isAllowed c := by
    intro c hc
    rw [List.eq_of_mem_replicate hc]
    rfl
  cases h with
  | spaces n => exact space n
  | comment n h =>
    rw [List.forall_mem_append, List.forall_mem_cons]
    exact ⟨space n, rfl, fun c hc ↦ (h c hc).1⟩

theorem Idle.allowed {text : List Char} (h : Idle text) : ∀ c ∈ text, isAllowed c := by
  induction h with
  | last h => exact h.allowed
  | cons h _ ih =>
    rw [List.forall_mem_append, List.forall_mem_cons]
    exact ⟨h.allowed, rfl, ih⟩

/-- There is no token in idle lines. -/
theorem Token.ofText_idle {text : List Char} (h : Idle text) : Token.ofText text = .ok [] := by
  have printable : text.find? (!isAllowed ·) = none := by
    rw [List.find?_eq_none]
    intro c hc
    simp [h.allowed c hc]
  rw [Token.ofText, printable]
  obtain ⟨allowed, m, skipped⟩ := Lexer.skipGap_idle h false true {}
  simp only [Lexer.run, Lexer.toToken, Lexer.inFlow, List.isEmpty_nil, Bool.not_true, skipped]
  rfl

theorem Document.ofText_idle {text : String} (h : Idle text.toList) : ofText text = .ok ⟨none⟩ := by
  rw [ofText, Token.ofText_idle h]
  rfl

end TestMatrix.Yaml
