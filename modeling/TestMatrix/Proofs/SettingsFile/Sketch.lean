import Mathlib.Data.Multiset.ZeroCons
import TestMatrix.SettingsFile
namespace TestMatrix.SettingsFile

open Yaml

def scalar? : Node → Option (Style × String)
  | .scalar _ style text => some (style, text)
  | _ => none

def text? (n : Node) : Option String := (scalar? n).map Prod.snd

section Entries

variable (d : Document) (entries : List (Node × Node))

def scalarKeys : Bool := entries.all fun e ↦ (text? (d.resolve e.1)).isSome

def under (key : String) : List Node :=
  (entries.filter fun e ↦ text? (d.resolve e.1) = some key).map fun e ↦ d.resolve e.2

/-- What is seen of the values under a key, in no order. -/
def views {β : Type} (view : Node → β) (key : String) : Multiset β :=
  ↑((under d entries key).map view)

end Entries

structure Parts where
  scalarKeys : Bool
  extension : Multiset (Option String)
  testMarker : Multiset (Option String)
  targetMarker : Multiset (Option String)
deriving DecidableEq

def Parts.of (d : Document) (entries : List (Node × Node)) : Parts where
  scalarKeys := SettingsFile.scalarKeys d entries
  extension := views d entries text? "extension"
  testMarker := views d entries text? "test_marker"
  targetMarker := views d entries text? "target_marker"

inductive ConventionValue
  | scalar (style : Style) (text : String)
  | mapping (parts : Parts)
  | other
deriving DecidableEq

def ConventionValue.of (d : Document) : Node → ConventionValue
  | .scalar _ style text => .scalar style text
  | .mapping _ entries => .mapping (.of d entries)
  | _ => .other

/-- What a mapping says of the settings. The order of its keys is left out, and so are the keys that
mean nothing, with their values. -/
structure Sketch where
  output : Multiset (Option String)
  pretty : Multiset (Option (Style × String))
  convention : Multiset ConventionValue
deriving DecidableEq

def Sketch.of (d : Document) (entries : List (Node × Node)) : Sketch where
  output := views d entries text? "output"
  pretty := views d entries scalar? "pretty"
  convention := views d entries (ConventionValue.of d) "convention"

section Order

variable {d : Document} {entries others : List (Node × Node)} {e : Node × Node} {key : String}

theorem under_append (entries entries' : List (Node × Node)) (key : String) :
    under d (entries ++ entries') key = under d entries key ++ under d entries' key := by
  simp [under]

theorem under_self (h : text? (d.resolve e.1) = some key) : under d [e] key = [d.resolve e.2] := by
  simp [under, h]

theorem under_other (h : text? (d.resolve e.1) ≠ some key) : under d [e] key = [] := by
  simp [under, h]

/-- Whether `others` are the entries in some order, with further keys that are none of `known`. -/
def Pads (d : Document) (known : List String) (entries others : List (Node × Node)) : Prop :=
  ∃ unknown, (∀ e ∈ unknown, ∃ key, text? (d.resolve e.1) = some key ∧ key ∉ known) ∧
    others.Perm (unknown ++ entries)

theorem Pads.views_eq {β : Type} {view : Node → β} {known : List String}
    (h : Pads d known entries others) (hk : key ∈ known) :
    views d others view key = views d entries view key := by
  obtain ⟨unknown, strange, perm⟩ := h
  have nothing : under d unknown key = [] := by
    rw [under, List.map_eq_nil_iff, List.filter_eq_nil_iff]
    intro e he same
    obtain ⟨key', hk', other⟩ := strange e he
    rw [hk', decide_eq_true_eq, Option.some.injEq] at same
    exact other (same ▸ hk)
  rw [views, views, Multiset.coe_eq_coe, ← List.nil_append (under d entries key), ← nothing,
    ← under_append]
  exact ((perm.filter _).map _).map _

theorem Pads.scalarKeys_eq {known : List String} (h : Pads d known entries others) :
    scalarKeys d others = scalarKeys d entries := by
  obtain ⟨unknown, strange, perm⟩ := h
  have keyed : scalarKeys d unknown := by
    rw [scalarKeys, List.all_eq_true]
    intro e he
    obtain ⟨key, hk, -⟩ := strange e he
    rw [hk]
    rfl
  rw [scalarKeys, perm.all_eq, List.all_append, ← scalarKeys, ← scalarKeys, keyed, Bool.true_and]

theorem Parts.of_pads (h : Pads d ["extension", "test_marker", "target_marker"] entries others) :
    Parts.of d others = .of d entries := by
  simp [Parts.of, h.views_eq, h.scalarKeys_eq]

theorem Sketch.of_pads (h : Pads d ["output", "pretty", "convention"] entries others) :
    Sketch.of d others = .of d entries := by
  simp [Sketch.of, h.views_eq]

end Order

section Meaning

variable {α β : Type}

def Once (Good : β → Prop) (values : Multiset β) : Prop :=
  values.card ≤ 1 ∧ ∀ v ∈ values, Good v

def Gives (Value : β → α → Prop) (default : α) (values : Multiset β) (a : α) : Prop :=
  (∀ v ∈ values, Value v a) ∧ (values = 0 → a = default)

variable {Good : β → Prop} {Value : β → α → Prop} {values : Multiset β} {v : β} {a default : α}

@[simp] theorem once_zero : Once Good 0 := by simp [Once]

@[simp] theorem once_singleton : Once Good {v} ↔ Good v := by simp [Once]

@[simp] theorem gives_zero : Gives Value default 0 a ↔ a = default := by simp [Gives]

@[simp] theorem gives_singleton : Gives Value default {v} a ↔ Value v a := by simp [Gives]

theorem Once.exists_gives (h : Once Good values) (default : α)
    (total : ∀ v, Good v → ∃ a, Value v a) : ∃ a, Gives Value default values a := by
  rcases Nat.le_one_iff_eq_zero_or_eq_one.1 h.1 with none | one
  · cases Multiset.card_eq_zero.1 none
    exact ⟨default, gives_zero.2 rfl⟩
  · obtain ⟨v, rfl⟩ := Multiset.card_eq_one.1 one
    obtain ⟨a, ha⟩ := total v (once_singleton.1 h)
    exact ⟨a, gives_singleton.2 ha⟩

end Meaning

structure Parts.Acceptable (k : Parts) : Prop where
  scalarKeys : k.scalarKeys
  extension : Once (·.isSome) k.extension
  testMarker : Once (·.isSome) k.testMarker
  targetMarker : Once (·.isSome) k.targetMarker

structure Parts.Describes (k : Parts) (c : Convention) : Prop where
  extension : Gives (· = some ·) ({} : Convention).extension k.extension c.extension
  testMarker : Gives (· = some ·) ({} : Convention).testMarker k.testMarker c.testMarker
  targetMarker : Gives (· = some ·) ({} : Convention).targetMarker k.targetMarker c.targetMarker

namespace ConventionValue

def Acceptable : ConventionValue → Prop
  | scalar style text => style = .plain ∧ text = ""
  | mapping parts => parts.Acceptable
  | other => False

def Describes : ConventionValue → Convention → Prop
  | mapping parts, c => parts.Describes c
  | _, c => c = {}

end ConventionValue

def IsFlag (v : Option (Style × String)) (b : Bool) : Prop :=
  ∃ word, v = some (.plain, word) ∧ flagWords.lookup word = some b

structure Sketch.Acceptable (k : Sketch) : Prop where
  output : Once (·.isSome) k.output
  pretty : Once (∃ b, IsFlag · b) k.pretty
  convention : Once ConventionValue.Acceptable k.convention

structure Sketch.Describes (k : Sketch) (s : Settings) : Prop where
  output : Gives (·.map Path.ofString = some ·) ({} : Settings).output k.output s.output
  pretty : Gives IsFlag ({} : Settings).pretty k.pretty s.pretty
  convention : Gives ConventionValue.Describes ({} : Settings).convention k.convention s.convention

end TestMatrix.SettingsFile
