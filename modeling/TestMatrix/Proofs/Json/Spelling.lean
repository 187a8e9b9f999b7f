import TestMatrix.Proofs.Json.Awaiting
namespace TestMatrix.Json

open Token (Lexemes Apart Stops)

namespace Token

variable {t : Token} {ts us : List Token}

theorem Lexemes.blank {s : List Char} (h : Lexemes [] s) : ∀ c ∈ s, isSpace c := by
  generalize none : ([] : List Token) = ts at h
  induction h with
  | nil => simp
  | space space _ ih => exact List.forall_mem_cons.2 ⟨space, ih none⟩
  | cons => cases none

/-- Whatever follows the digits, a text that begins with a number is read as one that does. -/
theorem Lexemes.head_number {s rest : List Char} (h : Lexemes (number :: ts) s)
    (run : Mode.between.run? (s ++ rest) = some us) : us.head? = some number := by
  generalize same : number :: ts = all at h
  induction h with
  | nil => cases same
  | space space _ ih =>
    rw [List.cons_append, space_run space] at run
    exact ih run same
  | cons first =>
    cases same
    cases first with
    | fixed h => cases h
    | number h =>
      obtain ⟨c, s, d, rfl, begin, -⟩ := exists_begin h
      rw [List.cons_append, List.cons_append, ← List.singleton_append,
        Mode.Reads.one (m := .between) begin] at run
      obtain ⟨later, digits, rfl⟩ := Option.map_eq_some_iff.1 run
      obtain ⟨⟨⟩, -⟩ | ⟨_, _, _, _, rfl, -, ⟨rfl, -⟩, -⟩ := Mode.run?_sound digits
      rfl

theorem Apart.cons (other : t ≠ number) (h : Apart ts) : Apart (t :: ts) :=
  List.isChain_cons.2 ⟨fun _ _ same ↦ absurd same other, h⟩

theorem Apart.append (other : t ≠ number) (h : Apart ts) (h' : Apart us) :
    Apart (ts ++ t :: us) := by
  refine List.isChain_append.2 ⟨h, Apart.cons other h', fun _ _ y first _ ↦ ?_⟩
  cases first
  exact other

theorem Apart.intercalate {parts : List (List Token)} (h : ∀ part ∈ parts, Apart part) :
    Apart ([comma].intercalate parts) := by
  induction parts with
  | nil => exact .nil
  | cons part parts ih =>
    obtain ⟨first, others⟩ := List.forall_mem_cons.1 h
    cases parts with
    | nil => rwa [List.intercalate_singleton]
    | cons part' parts =>
      rw [List.intercalate_cons_cons, ← List.append_cons]
      exact first.append nofun (ih others)

theorem Apart.bracketed {first last : Token} (hf : first ≠ number) (hl : last ≠ number)
    (h : Apart ts) : Apart (first :: (ts ++ [last])) := Apart.cons hf (h.append hl .nil)

end Token

namespace Value

mutual

/-- In a value each number is followed by a comma or a bracket. -/
theorem tokens_apart : (v : Value) → Apart v.tokens
  | .null | .true | .false | .number | .string _ => .singleton _
  | .array items => .bracketed nofun nofun (.intercalate (itemTokens_apart items))
  | .object members => .bracketed nofun nofun (.intercalate (memberTokens_apart members))

theorem itemTokens_apart : (items : List Value) → ∀ part ∈ itemTokens items, Apart part
  | [] => by simp [itemTokens]
  | v :: items => List.forall_mem_cons.2 ⟨tokens_apart v, itemTokens_apart items⟩

theorem memberTokens_apart : (members : List (List Piece × Value)) →
    ∀ part ∈ memberTokens members, Apart part
  | [] => by simp [memberTokens]
  | (_, v) :: members =>
    List.forall_mem_cons.2 ⟨Apart.cons nofun (Apart.cons nofun (tokens_apart v)),
      memberTokens_apart members⟩

end

def lead (parts : List (List Token)) : List Token := parts.flatMap (· ++ [.comma])

theorem lead_concat (parts : List (List Token)) (part : List Token) :
    lead (parts ++ [part]) = lead parts ++ (part ++ [.comma]) := by
  simp [lead]

theorem intercalate_concat (parts : List (List Token)) (part : List Token) :
    [Token.comma].intercalate (parts ++ [part]) = lead parts ++ part := by
  induction parts with
  | nil => rw [List.nil_append, List.intercalate_singleton]; rfl
  | cons first parts ih =>
    cases parts with
    | nil => simp [lead]
    | cons second parts =>
      rw [List.cons_append, List.cons_append, List.intercalate_cons_cons, ← List.cons_append, ih]
      simp [lead]

theorem itemTokens_concat (v : Value) (items : List Value) :
    itemTokens (v :: items).reverse = itemTokens items.reverse ++ [v.tokens] := by
  simp [itemTokens_eq_map]

theorem memberTokens_concat (v : Value) (key : List Piece) (members : List (List Piece × Value)) :
    memberTokens ((key, v) :: members).reverse =
      memberTokens members.reverse ++ [.string key :: .colon :: v.tokens] := by
  simp [memberTokens_eq_map]

def Frame.read : Frame → List Token
  | .array items => .openArray :: lead (itemTokens items.reverse)
  | .object members key =>
    .openObject :: (lead (memberTokens members.reverse) ++ [.string key, .colon])

def Due.read : Due → List Token
  | .value => []
  | .firstItem => [.openArray]
  | .firstKey => [.openObject]
  | .key members => .openObject :: lead (memberTokens members.reverse)
  | .colon members name => .openObject :: (lead (memberTokens members.reverse) ++ [.string name])
  | .next v => v.tokens

def framesRead : List Frame → List Token
  | [] => []
  | frame :: frames => framesRead frames ++ frame.read

def State.read (s : State) : List Token := framesRead s.frames ++ s.due.read

namespace State

variable {s s' : State} {frames : List Frame} {members : List (List Piece × Value)} {v : Value}
  {t : Token} {ts : List Token}

theorem scalar?_read (h : scalar? t = some v) : v.tokens = [t] := by
  cases t <;> cases h <;> rfl

theorem enter?_read (h : enter? frames t = some s') : s'.read = framesRead frames ++ [t] := by
  unfold enter? at h
  split at h
  · cases h; rfl
  · cases h; rfl
  · obtain ⟨v, scalar, rfl⟩ := Option.map_eq_some_iff.1 h
    exact congrArg (framesRead frames ++ ·) (scalar?_read scalar)

theorem readKey?_read (h : readKey? frames members t = some s') :
    s'.read = read ⟨.key members, frames⟩ ++ [t] := by
  unfold readKey? at h
  split at h
  · cases h
    simp only [read, Due.read, List.append_assoc, List.cons_append]
  · cases h

theorem follow?_read (h : follow? v frames t = some s') :
    s'.read = read ⟨.next v, frames⟩ ++ [t] := by
  unfold follow? at h
  split at h
  case h_5 => cases h
  all_goals
    cases h
    simp only [read, Due.read, framesRead, Frame.read, tokens, itemTokens_concat,
      memberTokens_concat, lead_concat, intercalate_concat, List.append_assoc, List.cons_append,
      List.append_nil, List.nil_append]

theorem step?_read (h : s.step? t = some s') : s'.read = s.read ++ [t] := by
  obtain ⟨due, frames⟩ := s
  cases due with
  | value => simpa [read, Due.read] using enter?_read h
  | firstItem =>
    by_cases closing : t = .closeArray
    · subst closing
      cases h
      simp [read, Due.read, tokens, itemTokens]
    · have h : enter? (.array [] :: frames) t = some s' := by simpa [step?, closing] using h
      rw [enter?_read h]
      rfl
  | firstKey =>
    by_cases closing : t = .closeObject
    · subst closing
      cases h
      simp [read, Due.read, tokens, memberTokens]
    · have h : readKey? frames [] t = some s' := by simpa [step?, closing] using h
      rw [readKey?_read h]
      rfl
  | key members => exact readKey?_read h
  | colon members key =>
    by_cases colon : t = .colon
    · subst colon
      cases h
      simp [read, Due.read, framesRead, Frame.read]
    · simp [step?] at h
  | next v => exact follow?_read h

theorem foldlM_read (h : ts.foldlM step? s = some s') : s'.read = s.read ++ ts := by
  induction ts generalizing s with
  | nil => cases h; rw [List.append_nil]
  | cons t ts ih =>
    obtain ⟨next, step, rest⟩ := Option.bind_eq_some_iff.1 h
    rw [ih rest, step?_read step, ← List.append_cons]

end State

/-- Only the tokens of a value are read as that value. -/
theorem ofTokens?_eq_some_iff {ts : List Token} {v : Value} :
    ofTokens? ts = some v ↔ ts = v.tokens := by
  constructor
  · intro h
    obtain ⟨⟨due, frames⟩, run, last⟩ := Option.bind_eq_some_iff.1 h
    unfold State.finish? at last
    split at last
    · next same =>
      cases same
      cases last
      exact (State.foldlM_read run).symm
    · cases last
  · rintro rfl
    exact ofTokens?_tokens v

/-- A text that spells a value: its tokens, in any of their spellings, and any white space. -/
def Spelled (v : Value) (s : List Char) : Prop := Lexemes v.tokens s

theorem Spelled.lexed {v : Value} {s : List Char} (h : v.Spelled s) :
    Token.ofText? s = some v.tokens := by
  have run := Lexemes.run h v.tokens_apart fun _ ↦ Token.stops_nil
  rw [List.append_nil] at run
  rw [Token.ofText?, run, Token.Mode.run?, Token.Mode.finish?, Option.map_some, List.append_nil]

theorem ofText?_eq_some_iff {text : String} {v : Value} :
    ofText? text = some v ↔ v.Spelled text.toList := by
  constructor
  · intro h
    obtain ⟨ts, lexed, parsed⟩ := Option.bind_eq_some_iff.1 h
    cases ofTokens?_eq_some_iff.1 parsed
    exact Token.lexemes_of_ofText? lexed
  · intro h
    rw [ofText?, h.lexed]
    exact ofTokens?_tokens v

theorem Spelled.unique {v v' : Value} {s : List Char} (h : v.Spelled s) (h' : v'.Spelled s) :
    v = v' := by
  rw [← String.toList_ofList (l := s)] at h h'
  have read := ofText?_eq_some_iff.2 h
  rw [ofText?_eq_some_iff.2 h'] at read
  exact (Option.some.inj read).symm

/-! ### What stands behind a value -/

theorem getLast?_tokens {v : Value} (other : v ≠ .number) : v.tokens.getLast? ≠ some .number := by
  cases v with
  | number => exact absurd rfl other
  | null | true | false | string => exact nofun
  | array | object => simp [tokens, List.getLast?_cons]

theorem head?_tokens_eq_number {v : Value} (h : v.tokens.head? = some .number) : v = .number := by
  cases v <;> first | rfl | cases h

theorem ofTokens?_tokens_append (v : Value) (t : Token) (ts : List Token) :
    ofTokens? (v.tokens ++ t :: ts) = none := by
  rw [ofTokens?, value_step, List.foldlM_cons]
  cases t <;> rfl

/-- Nothing but white space may follow a value. The digits of a number may go on, and then it is
still a number. -/
theorem Spelled.alone {v w : Value} {front rest : List Char} (h : v.Spelled front)
    (more : ¬∀ c ∈ rest, Token.isSpace c) (whole : w.Spelled (front ++ rest)) :
    v = .number ∧ w = .number := by
  have run := whole.lexed
  by_cases other : v = .number
  · subst other
    exact ⟨rfl, head?_tokens_eq_number (Lexemes.head_number h run)⟩
  · rw [Token.ofText?, Lexemes.run h v.tokens_apart fun last ↦ absurd last (getLast?_tokens other)]
      at run
    obtain ⟨later, run, same⟩ := Option.map_eq_some_iff.1 run
    cases later with
    | nil => exact absurd (Token.lexemes_of_ofText? run).blank more
    | cons t later =>
      have read := ofTokens?_tokens w
      rw [← same, ofTokens?_tokens_append] at read
      cases read

end Value

end TestMatrix.Json
