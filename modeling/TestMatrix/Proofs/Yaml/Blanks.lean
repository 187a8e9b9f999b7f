import TestMatrix.Proofs.Results
import TestMatrix.Text.Blank
import TestMatrix.Yaml.Grammar
namespace TestMatrix.Yaml

open Text

theorem Plain.read_suffix {flow : Bool} {indent : Int} {s : State} {m : Mark} {cs : List Char}
    {r : Result} (h : read flow indent s m cs = .ok r) : r.cursor.rest <:+ cs := by
  fun_induction read flow indent s m cs generalizing r with
  | case1 =>
    cases h
    exact List.suffix_refl _
  | case2 _ _ rest ih => exact (ih h).trans ((List.suffix_cons _ rest).trans (List.suffix_cons _ _))
  | case3 _ _ _ rest _ _ ih | case5 _ _ _ rest _ _ _ _ ih =>
    exact (ih h).trans (List.suffix_cons _ rest)
  | case4 => cases h
  | case6 _ _ _ rest _ _ _ ih =>
    obtain ⟨ended, -, h⟩ := ok_of_bind h
    split at h
    · cases h
      exact List.suffix_refl _
    · exact (ih h).trans (List.suffix_cons _ rest)

namespace Lexer

theorem skipGap_suffix (flow allowed comment : Bool) (m : Mark) (cs : List Char) :
    (skipGap flow allowed comment m cs).2.rest <:+ cs := by
  fun_induction skipGap flow allowed comment m cs with
  | case1 => exact List.suffix_refl _
  | case2 _ _ _ rest ih => exact ih.trans ((List.suffix_cons _ rest).trans (List.suffix_cons _ _))
  | case3 _ _ _ c rest _ _ ih | case4 _ _ c rest _ _ ih | case5 _ _ _ c rest _ _ _ _ ih
  | case6 _ _ _ rest _ _ _ _ ih => exact ih.trans (List.suffix_cons _ rest)
  | case7 => exact List.suffix_refl _

/-- A lexer outside every collection that has found plain values only and has blanks before it. -/
structure OnBlanks (s : Lexer) : Prop where
  rest : ∀ c ∈ s.cursor.rest, Blank.isBlank c
  tokens : ∀ t ∈ s.tokens.toList, ∃ text, t = .scalar .plain text
  outer : s.outer = []
  indent : s.indent = -1
  indents : s.indents = []

variable {s s' : Lexer} {c : Char} {rest : List Char}

theorem eq_of_dropCandidate (h : s.dropCandidate = .ok s') : s' = { s with candidate := none } := by
  cases hc : s.candidate with
  | none =>
    simp only [dropCandidate, hc] at h
    cases h
    rw [← hc]
  | some k =>
    simp only [dropCandidate, hc] at h
    split at h
    · cases h
    · cases h
      rfl

namespace OnBlanks

theorem toToken (hs : s.OnBlanks) : s.toToken.OnBlanks where
  rest c hc := hs.rest c ((skipGap_suffix ..).subset hc)
  tokens := hs.tokens
  outer := hs.outer
  indent := hs.indent
  indents := hs.indents

theorem dropStale (hs : s.OnBlanks) (h : s.dropStale = .ok s') : s'.OnBlanks := by
  rw [Lexer.dropStale] at h
  obtain ⟨candidate, -, h⟩ := ok_of_bind h
  rw [hs.outer] at h
  cases h
  exact ⟨hs.rest, hs.tokens, rfl, hs.indent, hs.indents⟩

theorem unroll (hs : s.OnBlanks) {column : Int} (h : -1 ≤ column) : s.unroll column = s := by
  have flow : s.inFlow = false := by rw [inFlow, hs.outer]; rfl
  have within : ¬column < s.indent := by rw [hs.indent]; omega
  simp [Lexer.unroll, flow, within]

theorem token (hc : Blank.isBlank c) :
    s.token c rest = s.plain ∨ s.token c rest = .error (.strange c) := by
  have other {d : Char} (hd : Blank.isBlank d = false) : ¬c = d := by
    rintro rfl
    rw [hc] at hd
    cases hd
  have unmarked : isDocumentMarker (c :: rest) = false := by
    unfold isDocumentMarker
    split
    · rename_i e
      exact absurd (List.cons.inj e).1 (other (by decide))
    · rename_i e
      exact absurd (List.cons.inj e).1 (other (by decide))
    · rfl
  simp (disch := decide) only [Lexer.token, unmarked, other, and_false, false_and, if_false,
    Bool.false_eq_true]
  split
  · exact .inl rfl
  · exact .inr rfl

theorem plain (hs : s.OnBlanks) (h : s.plain = .ok s') : s'.OnBlanks := by
  obtain ⟨saved, hsaved, h⟩ := ok_of_bind h
  obtain ⟨r, hr, h⟩ := ok_of_bind h
  have kept : ∃ candidate, saved = { s with candidate } := by
    unfold saveCandidate at hsaved
    split at hsaved
    · obtain ⟨dropped, hd, hsaved⟩ := ok_of_bind hsaved
      cases hsaved
      rw [eq_of_dropCandidate hd]
      exact ⟨_, rfl⟩
    · cases hsaved
      exact ⟨_, rfl⟩
  obtain ⟨candidate, rfl⟩ := kept
  cases h
  refine ⟨fun c hc ↦ hs.rest c ((Plain.read_suffix hr).subset hc), fun t ht ↦ ?_, hs.outer,
    hs.indent, hs.indents⟩
  rw [emit, Array.toList_push, List.mem_append, List.mem_singleton] at ht
  rcases ht with ht | rfl
  · exact hs.tokens t ht
  · exact ⟨_, rfl⟩

theorem run {fuel : Nat} {tokens : List Token} (hs : s.OnBlanks) (h : s.run fuel = .ok tokens) :
    ∀ t ∈ tokens, ∃ text, t = .scalar .plain text := by
  induction fuel generalizing s with
  | zero => cases h
  | succ fuel ih =>
    rw [Lexer.run] at h
    obtain ⟨fresh, hfresh, h⟩ := ok_of_bind h
    have hs := hs.toToken.dropStale hfresh
    have inside : fresh.unroll fresh.column = fresh := hs.unroll (by omega)
    dsimp only at h
    rw [inside] at h
    split at h
    · obtain ⟨ended, he, h⟩ := ok_of_bind h
      obtain ⟨dropped, hd, he⟩ := ok_of_bind he
      rw [hs.unroll (Int.le_refl _)] at hd
      cases eq_of_dropCandidate hd
      cases he
      cases h
      exact hs.tokens
    · rename_i c rest hr
      obtain ⟨next, hn, h⟩ := ok_of_bind h
      have hc := hs.rest c (hr ▸ List.mem_cons_self)
      rcases token hc with found | strange
      · rw [found] at hn
        exact ih (hs.plain hn) h
      · rw [strange] at hn
        cases hn

end OnBlanks

end Lexer

theorem Document.root_of_scalar {style : Style} {text : String} {tokens : List Token}
    {d : Document} (h : ofTokens (.scalar style text :: tokens) = .ok d) :
    d.root = some (.scalar {} style text) := by
  rw [ofTokens, if_neg nofun] at h
  obtain ⟨r, hr, h⟩ := ok_of_bind h
  cases hr
  dsimp only [Reader.rest] at h
  rw [if_neg (Nat.lt_irrefl _)] at h
  obtain ⟨⟨root, r⟩, read, h⟩ := ok_of_bind h
  cases read
  split at h
  · cases h
    rfl
  · cases h

/-- A blank text may have a value, but no collection. -/
theorem Document.root_of_blank {text : String} {d : Document} (blank : Blank.isBlankText text)
    (h : ofText text = .ok d) : d.root = none ∨ ∃ word, d.root = some (.scalar {} .plain word) := by
  obtain ⟨tokens, lexed, h⟩ := ok_of_bind h
  have bare : ∀ t ∈ tokens, ∃ text, t = .scalar .plain text := by
    rw [Token.ofText] at lexed
    split at lexed
    · cases lexed
    · have start : Lexer.OnBlanks { cursor := { rest := text.toList } } :=
        ⟨List.all_eq_true.1 blank, by simp, rfl, rfl, rfl⟩
      exact start.run lexed
  cases tokens with
  | nil =>
    cases h
    exact .inl rfl
  | cons t tokens =>
    obtain ⟨word, rfl⟩ := bare t List.mem_cons_self
    exact .inr ⟨word, root_of_scalar h⟩

end TestMatrix.Yaml
