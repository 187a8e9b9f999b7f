import TestMatrix.Json.Value
namespace TestMatrix.Json.Value

open Token (comma)

mutual

def tokens : Value → List Token
  | .null => [.null]
  | .true => [.true]
  | .false => [.false]
  | .number => [.number]
  | .string pieces => [.string pieces]
  | .array items => .openArray :: ([comma].intercalate (itemTokens items) ++ [.closeArray])
  | .object members => .openObject :: ([comma].intercalate (memberTokens members) ++ [.closeObject])

def itemTokens : List Value → List (List Token)
  | [] => []
  | v :: rest => v.tokens :: itemTokens rest

def memberTokens : List (List Piece × Value) → List (List Token)
  | [] => []
  | (key, v) :: rest => (.string key :: .colon :: v.tokens) :: memberTokens rest

end

theorem itemTokens_eq_map (items : List Value) : itemTokens items = items.map tokens := by
  induction items with
  | nil => rfl
  | cons v rest ih => rw [itemTokens, ih, List.map_cons]

theorem memberTokens_eq_map (members : List (List Piece × Value)) :
    memberTokens members = members.map fun m ↦ .string m.1 :: .colon :: m.2.tokens := by
  induction members with
  | nil => rfl
  | cons m rest ih => rw [memberTokens, ih, List.map_cons]

/-- No value begins with a closing bracket, so the first item of an array is read as a value. -/
theorem firstItem_step (v : Value) (frames : List Frame) (items : List Value) (rest : List Token) :
    ([comma].intercalate (itemTokens (v :: items)) ++ rest).foldlM State.step?
        ⟨.firstItem, frames⟩ =
      ([comma].intercalate (itemTokens (v :: items)) ++ rest).foldlM State.step?
        ⟨.value, .array [] :: frames⟩ := by
  obtain ⟨more, hm⟩ : ∃ more, [comma].intercalate (itemTokens (v :: items)) = v.tokens ++ more := by
    cases items with
    | nil => exact ⟨[], by simp [itemTokens]⟩
    | cons w items => exact ⟨_, by rw [itemTokens, itemTokens, List.intercalate_cons_cons,
        List.append_assoc]⟩
  rw [hm, List.append_assoc]
  cases v <;> rfl

theorem firstKey_step (m : List Piece × Value) (frames : List Frame)
    (members : List (List Piece × Value)) (rest : List Token) :
    ([comma].intercalate (memberTokens (m :: members)) ++ rest).foldlM State.step?
        ⟨.firstKey, frames⟩ =
      ([comma].intercalate (memberTokens (m :: members)) ++ rest).foldlM State.step?
        ⟨.key [], frames⟩ := by
  cases members <;> rfl

mutual

/-- A reader at the start of a value takes exactly its tokens. -/
theorem value_step (frames : List Frame) (rest : List Token) : (v : Value) →
    (v.tokens ++ rest).foldlM State.step? ⟨.value, frames⟩ =
      rest.foldlM State.step? ⟨.next v, frames⟩
  | .null | .true | .false | .number | .string _ | .array [] | .object [] => rfl
  | .array (v :: items) => by
    have h := items_step [] frames rest (v :: items) (by simp)
    rw [← firstItem_step] at h
    rw [tokens, List.cons_append, List.append_assoc]
    exact h
  | .object (m :: members) => by
    have h := members_step [] frames rest (m :: members) (by simp)
    rw [← firstKey_step] at h
    rw [tokens, List.cons_append, List.append_assoc]
    exact h

theorem items_step (done : List Value) (frames : List Frame) (rest : List Token) :
    (items : List Value) → items ≠ [] →
    ([comma].intercalate (itemTokens items) ++ .closeArray :: rest).foldlM State.step?
        ⟨.value, .array done :: frames⟩ =
      rest.foldlM State.step? ⟨.next (array (done.reverse ++ items)), frames⟩
  | [], h => absurd rfl h
  | [v], _ => by
    rw [itemTokens, itemTokens, List.intercalate_singleton, value_step, ← List.reverse_cons]
    rfl
  | v :: w :: items, _ => by
    have h := items_step (v :: done) frames rest (w :: items) (by simp)
    rw [List.reverse_cons, List.append_assoc] at h
    rw [itemTokens, itemTokens, List.intercalate_cons_cons, List.append_assoc, List.append_assoc,
      value_step]
    exact h

theorem members_step (done : List (List Piece × Value)) (frames : List Frame) (rest : List Token) :
    (members : List (List Piece × Value)) → members ≠ [] →
    ([comma].intercalate (memberTokens members) ++ .closeObject :: rest).foldlM State.step?
        ⟨.key done, frames⟩ =
      rest.foldlM State.step? ⟨.next (object (done.reverse ++ members)), frames⟩
  | [], h => absurd rfl h
  | [(key, v)], _ => by
    rw [memberTokens, memberTokens, List.intercalate_singleton, ← List.reverse_cons]
    exact value_step (.object done key :: frames) (.closeObject :: rest) v
  | (key, v) :: m :: members, _ => by
    have h := members_step ((key, v) :: done) frames rest (m :: members) (by simp)
    rw [List.reverse_cons, List.append_assoc] at h
    rw [memberTokens, memberTokens, List.intercalate_cons_cons, List.append_assoc,
      List.append_assoc]
    exact (value_step (.object done key :: frames) _ v).trans h

end

theorem ofTokens?_tokens (v : Value) : ofTokens? v.tokens = some v := by
  have h := value_step [] [] v
  rw [List.append_nil] at h
  rw [ofTokens?, h]
  rfl

def ofString (s : String) : Value := .string (s.toList.map .char)

def ofMembers (members : List (String × Value)) : Value :=
  .object (members.map fun m ↦ (m.1.toList.map .char, m.2))

end TestMatrix.Json.Value
