import Mathlib.Data.List.Forall2
import TestMatrix.Manifest.Reading
import TestMatrix.Proofs.Json.Strings
namespace TestMatrix

open Json

theorem mapM_eq_some_iff {α β : Type} {f : α → Option β} {xs : List α} {ys : List β} :
    xs.mapM f = some ys ↔ List.Forall₂ (fun x y ↦ f x = some y) xs ys := by
  induction xs generalizing ys with
  | nil => cases ys <;> simp
  | cons x xs ih =>
    rw [List.mapM_cons]
    cases first : f x with
    | none => cases ys <;> simp [first]
    | some y =>
      cases later : xs.mapM f <;> cases ys <;> simp [first, ← ih, later]

def Named (members : List (List Piece × Value)) (named : List (String × Value)) : Prop :=
  List.Forall₂ (fun m n ↦ Piece.Tells m.1 n.1.toList ∧ m.2 = n.2) members named

/-- The known members stand in some order among others, which have other names. -/
def Among (known named : List (String × Value)) : Prop :=
  ∃ others, named.Perm (known ++ others) ∧ ∀ m ∈ others, m.1 ∉ known.map Prod.fst

def Json.Value.Holds (v : Value) (known : List (String × Value)) : Prop :=
  ∃ members named, v = .object members ∧ Named members named ∧ Among known named

def Lacks (members : List (List Piece × Value)) (name : String) : Prop :=
  ∀ m ∈ members, ¬Piece.Tells m.1 name.toList

/-- Two keys tell the name, in whatever spelling. -/
def Repeats (members : List (List Piece × Value)) (name : String) : Prop :=
  ∃ m m', [m, m'].Sublist members ∧ Piece.Tells m.1 name.toList ∧ Piece.Tells m'.1 name.toList

variable {members : List (List Piece × Value)} {named known : List (String × Value)}
  {key : List Piece} {name : String} {v : Value}

theorem tells_toList_iff {pieces : List Piece} :
    (Piece.text? pieces).map String.ofList = some name ↔ Piece.Tells pieces name.toList := by
  rw [← Piece.text?_eq_some_iff]
  constructor
  · intro h
    obtain ⟨s, text, rfl⟩ := Option.map_eq_some_iff.1 h
    rw [text, String.toList_ofList]
  · intro text
    rw [text, Option.map_some, String.ofList_toList]

theorem namedMembers?_eq_some_iff : namedMembers? members = some named ↔ Named members named := by
  rw [namedMembers?, mapM_eq_some_iff, Named]
  refine iff_of_eq (congrArg (List.Forall₂ · members named) (funext₂ fun m n ↦ propext ?_))
  obtain ⟨key, value⟩ := m
  obtain ⟨name, value'⟩ := n
  simp only [← tells_toList_iff, Option.map_eq_some_iff, Prod.mk.injEq]
  exact ⟨fun ⟨s, text, told, same⟩ ↦ ⟨⟨s, text, told⟩, same⟩,
    fun ⟨⟨s, text, told⟩, same⟩ ↦ ⟨s, text, told, same⟩⟩

theorem onlyMember?_eq_some_iff :
    onlyMember? named name = some v ↔ named.filter (·.1 = name) = [(name, v)] := by
  constructor
  · intro h
    unfold onlyMember? at h
    split at h
    · next key value only =>
      cases h
      have found : (key, v) ∈ named.filter (·.1 = name) := by rw [only]; exact .head _
      have same : key = name := of_decide_eq_true (List.mem_filter.1 found).2
      rw [only, same]
    · cases h
  · intro h
    rw [onlyMember?, h]

theorem filter_eq_singleton (distinct : (known.map Prod.fst).Nodup) (h : (name, v) ∈ known) :
    known.filter (·.1 = name) = [(name, v)] := by
  induction known with
  | nil => cases h
  | cons m known ih =>
    obtain ⟨first, distinct⟩ := List.nodup_cons.1 distinct
    rcases List.mem_cons.1 h with rfl | later
    · rw [List.filter_cons_of_pos (by simp), List.filter_eq_nil_iff.2]
      intro m hm same
      exact first (List.mem_map.2 ⟨m, hm, of_decide_eq_true same⟩)
    · rw [List.filter_cons_of_neg, ih distinct later]
      intro same
      exact first (List.mem_map.2 ⟨_, later, (of_decide_eq_true same).symm⟩)

/-- Looking each known member up by itself tells whether they all stand there once. -/
theorem among_iff (distinct : (known.map Prod.fst).Nodup) :
    Among known named ↔ ∀ m ∈ known, onlyMember? named m.1 = some m.2 := by
  constructor
  · rintro ⟨others, order, away⟩ ⟨name, v⟩ hm
    have dropped : others.filter (·.1 = name) = [] := List.filter_eq_nil_iff.2 fun m ho same ↦
      away m ho (List.mem_map.2 ⟨_, hm, (of_decide_eq_true same).symm⟩)
    have only := order.filter (·.1 = name)
    rw [List.filter_append, dropped, filter_eq_singleton distinct hm] at only
    exact onlyMember?_eq_some_iff.2 (List.perm_singleton.1 only)
  · intro h
    induction known generalizing named with
    | nil => exact ⟨named, .refl _, by simp⟩
    | cons m known ih =>
      obtain ⟨name, v⟩ := m
      obtain ⟨first, distinct⟩ := List.nodup_cons.1 distinct
      obtain ⟨only, later⟩ := List.forall_mem_cons.1 h
      have parts := List.filter_append_perm (·.1 = name) named
      rw [onlyMember?_eq_some_iff.1 only] at parts
      have rest : ∀ m ∈ known,
          onlyMember? (named.filter fun x ↦ !decide (x.1 = name)) m.1 = some m.2 := by
        intro m hm
        have apart : m.1 ≠ name := fun same ↦ first (List.mem_map.2 ⟨m, hm, same⟩)
        rw [onlyMember?_eq_some_iff, ← onlyMember?_eq_some_iff.1 (later m hm), List.filter_filter]
        refine List.filter_congr fun x _ ↦ ?_
        by_cases same : x.1 = m.1
        · simp [same, apart]
        · simp [same]
      obtain ⟨others, order, away⟩ := ih distinct rest
      refine ⟨others, parts.symm.trans (order.cons _), fun m hm ↦ ?_⟩
      have kept := List.mem_filter.1 (order.mem_iff.2 (List.mem_append_right known hm))
      rw [List.map_cons, List.mem_cons, not_or]
      exact ⟨by simpa using kept.2, away m hm⟩

namespace Named

theorem sublist (h : Named members named) {part : List (List Piece × Value)}
    (hp : part.Sublist members) : ∃ part', part'.Sublist named ∧ Named part part' := by
  induction hp generalizing named with
  | slnil => exact ⟨[], List.nil_sublist _, .nil⟩
  | cons m _ ih =>
    cases h with
    | cons first later =>
      obtain ⟨part', hs, hn⟩ := ih later
      exact ⟨part', hs.cons _, hn⟩
  | cons_cons m _ ih =>
    cases h with
    | cons first later =>
      obtain ⟨part', hs, hn⟩ := ih later
      exact ⟨_ :: part', hs.cons_cons _, .cons first hn⟩

theorem exists_mem (h : Named members named) (hm : (name, v) ∈ named) :
    ∃ key, (key, v) ∈ members ∧ Piece.Tells key name.toList := by
  induction h with
  | nil => cases hm
  | @cons m n members named first _ ih =>
    rcases List.mem_cons.1 hm with rfl | later
    · obtain ⟨told, rfl⟩ := first
      exact ⟨m.1, List.mem_cons_self, told⟩
    · obtain ⟨key, member, told⟩ := ih later
      exact ⟨key, List.mem_cons_of_mem _ member, told⟩

/-- The members of one name are no more than the one that is found. -/
theorem sublist_of_only (h : Named members named) (only : onlyMember? named name = some v)
    {part : List (List Piece × Value)} (hp : part.Sublist members)
    (told : ∀ m ∈ part, Piece.Tells m.1 name.toList) : (part.map Prod.snd).Sublist [v] := by
  obtain ⟨part', hs, hn⟩ := h.sublist hp
  have same : part' = part.map fun m ↦ (name, m.2) := by
    clear hs hp
    induction hn with
    | nil => rfl
    | @cons m n part part' first _ ih =>
      obtain ⟨here, later⟩ := List.forall_mem_cons.1 told
      rw [List.map_cons, ← ih later, ← String.toList_inj.1 (first.1.unique here), first.2]
  have all : ∀ m ∈ part', m.1 = name := by
    rw [same]
    exact List.forall_mem_map.2 fun _ _ ↦ rfl
  have kept := hs.filter (·.1 = name)
  rw [onlyMember?_eq_some_iff.1 only, List.filter_eq_self.2 (by simpa using all), same] at kept
  simpa using kept.map Prod.snd

end Named

end TestMatrix
