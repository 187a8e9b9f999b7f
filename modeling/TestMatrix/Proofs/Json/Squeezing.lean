import TestMatrix.Proofs.Json.Scanning
namespace TestMatrix.Json

inductive Region
  | outside
  | inside
  | escaped
deriving DecidableEq, Repr

def Region.next : Region → Char → Region
  | outside, c => if c = '"' then inside else outside
  | inside, c => if c = '"' then outside else if c = '\\' then escaped else inside
  | escaped, _ => inside

/-- Takes out the spaces and line breaks that stand outside of string literals. -/
def squeeze (r : Region) : List Char → List Char
  | [] => []
  | c :: rest =>
    if r = .outside ∧ (c = ' ' ∨ c = '\n') then squeeze r rest
    else c :: squeeze (r.next c) rest

namespace Region

variable {r r' r'' : Region} {s t s' t' : List Char} {c : Char}

def Squeezes (r : Region) (s t : List Char) (r' : Region) : Prop :=
  ∀ rest, squeeze r (s ++ rest) = t ++ squeeze r' rest

namespace Squeezes

theorem nil (r : Region) : r.Squeezes [] [] r := fun _ ↦ rfl

theorem trans (h : r.Squeezes s t r') (h' : r'.Squeezes s' t' r'') :
    r.Squeezes (s ++ s') (t ++ t') r'' := by
  intro rest
  rw [List.append_assoc, h, h', List.append_assoc]

theorem keep (c : Char) (hc : ¬(r = .outside ∧ (c = ' ' ∨ c = '\n')))
    (h : (r.next c).Squeezes s t r') : r.Squeezes (c :: s) (c :: t) r' := by
  intro rest
  rw [List.cons_append, squeeze, if_neg hc, h, List.cons_append]

theorem hold (hc : inside.next c = inside) (h : inside.Squeezes s t r') :
    inside.Squeezes (c :: s) (c :: t) r' := by
  refine .keep c (by simp) ?_
  rw [hc]
  exact h

theorem drop (hc : c = ' ' ∨ c = '\n') (h : outside.Squeezes s t r') :
    outside.Squeezes (c :: s) t r' := by
  intro rest
  rw [List.cons_append, squeeze, if_pos ⟨rfl, hc⟩, h]

end Squeezes

theorem hexDigit_next : ∀ d < 16, inside.next (hexDigit d) = inside := by decide

theorem escape_squeezes (c : Char) : inside.Squeezes (escape c) (escape c) inside := by
  have short (d : Char) : inside.Squeezes ['\\', d] ['\\', d] inside :=
    .keep '\\' (by simp) (.keep d (by simp [next]) (.nil inside))
  unfold escape
  split
  · exact short '"'
  split
  · exact short '\\'
  split
  · exact short 'b'
  split
  · exact short 'f'
  split
  · exact short 'n'
  split
  · exact short 'r'
  split
  · exact short 't'
  split
  · next control =>
    have high := hexDigit_next (c.toNat / 16) (by omega)
    have low := hexDigit_next (c.toNat % 16) (by omega)
    have digits := Squeezes.hold high (.hold low (.nil inside))
    exact .keep '\\' (by simp) (.keep 'u' (by simp [next]) (.hold rfl (.hold rfl digits)))
  · next quote backslash _ _ _ _ _ _ =>
    exact .hold (by rw [next, if_neg quote, if_neg backslash]) (.nil inside)

theorem text_squeezes (s : List Char) :
    inside.Squeezes (s.flatMap escape) (s.flatMap escape) inside := by
  induction s with
  | nil => exact .nil inside
  | cons c s ih => exact (escape_squeezes c).trans ih

/-- A string literal stays as it is. -/
theorem quote_squeezes (s : String) : outside.Squeezes (quote s) (quote s) outside := by
  have last : inside.Squeezes ['"'] ['"'] outside := .keep '"' (by simp) (.nil outside)
  exact .keep '"' (by simp) ((text_squeezes s.toList).trans last)

end Region

namespace Layout

open Region

abbrev Squeezed (s t : List Char) : Prop := outside.Squeezes s t outside

theorem spaces_squeezed (n : Nat) : Squeezed (List.replicate n ' ') [] := by
  induction n with
  | zero => exact .nil outside
  | succ n ih => exact .drop (.inl rfl) ih

theorem lineBreak_squeezed (depth : Nat) :
    Squeezed (pretty.lineBreak depth) (compact.lineBreak depth) :=
  .drop (.inr rfl) (spaces_squeezed _)

theorem colon_squeezed : Squeezed pretty.colon compact.colon :=
  .keep ':' (by simp) (.drop (.inl rfl) (.nil outside))

theorem items_squeezed {α : Type} (depth : Nat) (f g : α → List Char) (items : List α)
    (h : ∀ a ∈ items, Squeezed (f a) (g a)) :
    Squeezed (pretty.items depth (items.map f)) (compact.items depth (items.map g)) := by
  induction items with
  | nil => exact lineBreak_squeezed depth
  | cons a rest ih =>
    have first := (lineBreak_squeezed (depth + 1)).trans (h a List.mem_cons_self)
    cases rest with
    | nil => exact first.trans (lineBreak_squeezed depth)
    | cons b rest =>
      have others := ih fun x hx ↦ h x (List.mem_cons_of_mem a hx)
      exact first.trans (.keep ',' (by simp) others)

theorem bracketed_squeezed {s t : List Char} (opening closing : Char)
    (ho : opening ∈ ['[', '\x7b']) (hc : closing ∈ [']', '\x7d']) (h : Squeezed s t) :
    Squeezed (opening :: (s ++ [closing])) (opening :: (t ++ [closing])) := by
  have last : Squeezed [closing] [closing] := by
    simp only [List.mem_cons, List.not_mem_nil, or_false] at hc
    rcases hc with rfl | rfl <;> exact .keep _ (by simp) (.nil outside)
  simp only [List.mem_cons, List.not_mem_nil, or_false] at ho
  rcases ho with rfl | rfl <;> exact .keep _ (by simp) (h.trans last)

theorem array_squeezed {α : Type} (depth : Nat) (f g : α → List Char) (items : List α)
    (h : ∀ a ∈ items, Squeezed (f a) (g a)) :
    Squeezed (pretty.array depth (items.map f)) (compact.array depth (items.map g)) := by
  simp only [array, List.map_eq_nil_iff]
  split
  · exact bracketed_squeezed '[' ']' (by simp) (by simp) (.nil outside)
  · exact bracketed_squeezed '[' ']' (by simp) (by simp) (items_squeezed depth f g items h)

theorem object_squeezed {α : Type} (depth : Nat) (f g : α → List Char)
    (members : List (String × α)) (h : ∀ m ∈ members, Squeezed (f m.2) (g m.2)) :
    Squeezed (pretty.object depth (members.map fun m ↦ (m.1, f m.2)))
      (compact.object depth (members.map fun m ↦ (m.1, g m.2))) := by
  simp only [object, List.map_map, List.map_eq_nil_iff]
  split
  · exact bracketed_squeezed '\x7b' '\x7d' (by simp) (by simp) (.nil outside)
  · refine bracketed_squeezed '\x7b' '\x7d' (by simp) (by simp)
      (items_squeezed depth _ _ members ?_)
    exact fun m hm ↦ ((quote_squeezes m.1).trans colon_squeezed).trans (h m hm)

end Layout

end TestMatrix.Json
