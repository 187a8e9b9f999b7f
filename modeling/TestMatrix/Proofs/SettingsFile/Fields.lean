import TestMatrix.Proofs.Results
import TestMatrix.Proofs.SettingsFile.Sketch
namespace TestMatrix.SettingsFile

open Yaml

section Filling

variable {α β : Type} {Good : β → Prop} {Value : β → α → Prop} {slot slot' : Option α} {v : β}
  {values values' : List β} {a default : α}

inductive Fills (Good : β → Prop) (Value : β → α → Prop) : Option α → List β → Option α → Prop
  | skip (slot : Option α) : Fills Good Value slot [] slot
  | put {v : β} {a : α} {values : List β} {slot : Option α} : Good v → Value v a →
      Fills Good Value (some a) values slot → Fills Good Value none (v :: values) slot

theorem fills_append : Fills Good Value slot (values ++ values') slot' ↔
    ∃ between, Fills Good Value slot values between ∧ Fills Good Value between values' slot' := by
  constructor
  · intro h
    induction values generalizing slot with
    | nil => exact ⟨slot, .skip slot, h⟩
    | cons v values ih =>
      obtain _ | ⟨good, value, h⟩ := h
      obtain ⟨between, before, after⟩ := ih h
      exact ⟨between, .put good value before, after⟩
  · rintro ⟨between, before, after⟩
    induction before with
    | skip => exact after
    | put good value _ ih => exact .put good value (ih after)

theorem exists_fills_iff : (∃ slot, Fills Good Value none values slot ∧ slot.getD default = a) ↔
    Once Good ↑values ∧ Gives Value default ↑values a := by
  constructor
  · rintro ⟨slot, filled, rfl⟩
    cases filled with
    | skip => exact ⟨once_zero, gives_zero.2 rfl⟩
    | put good value rest =>
      cases rest
      exact ⟨once_singleton.2 good, gives_singleton.2 value⟩
  · rintro ⟨once, gives⟩
    match values with
    | [] => exact ⟨none, .skip none, (gives_zero.1 gives).symm⟩
    | [v] =>
      exact ⟨some a, .put (once_singleton.1 once) (gives_singleton.1 gives) (.skip _), rfl⟩
    | _ :: _ :: _ =>
      have few := once.1
      simp at few

theorem fill_eq_ok_iff {name : String} {read : Except Fault α}
    (h : ∀ a, read = .ok a ↔ Good v ∧ Value v a) :
    fill name slot read = .ok slot' ↔ Fills Good Value slot [v] slot' := by
  constructor
  · intro filled
    cases slot with
    | some _ => cases filled
    | none =>
      obtain ⟨a, ha, rfl⟩ := ok_of_map filled
      obtain ⟨good, value⟩ := (h a).1 ha
      exact .put good value (.skip _)
  · rintro (_ | ⟨good, value, rest⟩)
    cases rest
    rw [fill, (h _).2 ⟨good, value⟩]
    rfl

end Filling

/-- A field of a record: the key it stands under, how its value is read and what is seen of it, which
values are good and what they give. -/
structure Field (β α : Type) where
  name : String
  read : Document → Node → Except Fault α
  view : Document → Node → β
  Good : β → Prop
  Value : β → α → Prop

namespace Field

variable {α β : Type}

def Sound (F : Field β α) (d : Document) (n : Node) : Prop :=
  ∀ a, F.read d n = .ok a ↔ F.Good (F.view d (d.resolve n)) ∧ F.Value (F.view d (d.resolve n)) a

def Grows (F : Field β α) (d : Document) (slot : Option α) (entries : List (Node × Node))
    (slot' : Option α) : Prop :=
  Fills F.Good F.Value slot ((under d entries F.name).map (F.view d)) slot'

/-- The entries give the field the value `a`: the one under its key, or else its default. -/
def Fits (F : Field β α) (d : Document) (entries : List (Node × Node)) (default a : α) : Prop :=
  Once F.Good (views d entries (F.view d) F.name) ∧
    Gives F.Value default (views d entries (F.view d) F.name) a

variable {F : Field β α} {d : Document} {slot slot' : Option α} {entries : List (Node × Node)}
  {e : Node × Node} {key : String}

theorem grows_nil : F.Grows d slot [] slot' ↔ slot = slot' := by
  constructor
  · rintro ⟨⟩
    rfl
  · rintro rfl
    exact .skip _

theorem grows_cons : F.Grows d slot (e :: entries) slot' ↔
    ∃ between, F.Grows d slot [e] between ∧ F.Grows d between entries slot' := by
  rw [Grows, ← List.singleton_append, under_append, List.map_append, fills_append]
  rfl

theorem grows_one (hk : text? (d.resolve e.1) = some key) (sound : F.Sound d e.2) :
    F.Grows d slot [e] slot' ↔
      if key = F.name then fill key slot (F.read d e.2) = .ok slot' else slot = slot' := by
  split
  · subst key
    rw [Grows, under_self hk]
    exact (fill_eq_ok_iff sound).symm
  · rename_i other
    rw [← grows_nil (F := F) (d := d), Grows, Grows, under_other]
    · rfl
    · rw [hk]
      exact fun same ↦ other (Option.some.inj same)

theorem exists_grows_iff {default a : α} :
    (∃ slot, F.Grows d none entries slot ∧ slot.getD default = a) ↔ F.Fits d entries default a :=
  exists_fills_iff

end Field

section Taking

variable {α₁ α₂ α₃ β₁ β₂ β₃ : Type} (F₁ : Field β₁ α₁) (F₂ : Field β₂ α₂) (F₃ : Field β₃ α₃)

abbrev Slots (α₁ α₂ α₃ : Type) : Type := Option α₁ × Option α₂ × Option α₃

def take (d : Document) (s : Slots α₁ α₂ α₃) (e : Node × Node) :
    Except Fault (Slots α₁ α₂ α₃) := do
  let key ← textOf d e.1
  if key = F₁.name then return (← fill key s.1 (F₁.read d e.2), s.2)
  else if key = F₂.name then return (s.1, ← fill key s.2.1 (F₂.read d e.2), s.2.2)
  else if key = F₃.name then return (s.1, s.2.1, ← fill key s.2.2 (F₃.read d e.2))
  else return s

def Takes (d : Document) (s : Slots α₁ α₂ α₃) (entries : List (Node × Node))
    (s' : Slots α₁ α₂ α₃) : Prop :=
  scalarKeys d entries ∧ F₁.Grows d s.1 entries s'.1 ∧ F₂.Grows d s.2.1 entries s'.2.1 ∧
    F₃.Grows d s.2.2 entries s'.2.2

variable {F₁ F₂ F₃} {d : Document} {entries : List (Node × Node)} {e : Node × Node}
  {s s' : Slots α₁ α₂ α₃} {n : Node}

theorem textOf_eq_ok_iff {text : String} :
    textOf d n = .ok text ↔ text? (d.resolve n) = some text := by
  rw [textOf]
  cases d.resolve n <;> simp [text?, scalar?]

theorem scalarKeys_cons :
    scalarKeys d (e :: entries) ↔ scalarKeys d [e] ∧ scalarKeys d entries := by
  simp [scalarKeys]

theorem take_eq_ok_iff (distinct : [F₁.name, F₂.name, F₃.name].Nodup) (sound₁ : F₁.Sound d e.2)
    (sound₂ : F₂.Sound d e.2) (sound₃ : F₃.Sound d e.2) :
    take F₁ F₂ F₃ d s e = .ok s' ↔ Takes F₁ F₂ F₃ d s [e] s' := by
  cases hk : text? (d.resolve e.1) with
  | none =>
    constructor
    · intro h
      obtain ⟨key, read, -⟩ := ok_of_bind h
      rw [textOf_eq_ok_iff, hk] at read
      cases read
    · rintro ⟨keys, -, -, -⟩
      simp [scalarKeys, hk] at keys
  | some key =>
    have keys : scalarKeys d [e] := by simp [scalarKeys, hk]
    obtain ⟨⟨h₁₂, h₁₃⟩, h₂₃⟩ : (F₁.name ≠ F₂.name ∧ F₁.name ≠ F₃.name) ∧ F₂.name ≠ F₃.name := by
      simpa using distinct
    obtain ⟨a, b, c⟩ := s
    obtain ⟨a', b', c'⟩ := s'
    rw [take, textOf_eq_ok_iff.2 hk, Takes, Field.grows_one hk sound₁, Field.grows_one hk sound₂,
      Field.grows_one hk sound₃]
    change (if _ then _ else _) = _ ↔ _
    by_cases e₁ : key = F₁.name
    · subst e₁
      simp [h₁₂, h₁₃, keys, map_eq_ok_iff]
    by_cases e₂ : key = F₂.name
    · subst e₂
      simp [h₁₂.symm, h₂₃, keys, map_eq_ok_iff, and_left_comm]
    by_cases e₃ : key = F₃.name
    · subst e₃
      simp [h₁₃.symm, h₂₃.symm, keys, map_eq_ok_iff, and_left_comm]
    simp [e₁, e₂, e₃, keys, pure, Except.pure]

theorem takes_nil : Takes F₁ F₂ F₃ d s [] s' ↔ s = s' := by
  obtain ⟨a, b, c⟩ := s
  obtain ⟨a', b', c'⟩ := s'
  simp [Takes, Field.grows_nil, scalarKeys]

theorem takes_cons : Takes F₁ F₂ F₃ d s (e :: entries) s' ↔
    ∃ between, Takes F₁ F₂ F₃ d s [e] between ∧ Takes F₁ F₂ F₃ d between entries s' := by
  constructor
  · rintro ⟨keys, first, second, third⟩
    obtain ⟨key, keys⟩ := scalarKeys_cons.1 keys
    obtain ⟨a, ha, ha'⟩ := Field.grows_cons.1 first
    obtain ⟨b, hb, hb'⟩ := Field.grows_cons.1 second
    obtain ⟨c, hc, hc'⟩ := Field.grows_cons.1 third
    exact ⟨(a, b, c), ⟨key, ha, hb, hc⟩, keys, ha', hb', hc'⟩
  · rintro ⟨between, ⟨key, ha, hb, hc⟩, keys, ha', hb', hc'⟩
    exact ⟨scalarKeys_cons.2 ⟨key, keys⟩, Field.grows_cons.2 ⟨_, ha, ha'⟩,
      Field.grows_cons.2 ⟨_, hb, hb'⟩, Field.grows_cons.2 ⟨_, hc, hc'⟩⟩

theorem foldlM_take_eq_ok_iff (distinct : [F₁.name, F₂.name, F₃.name].Nodup)
    (sound : ∀ e ∈ entries, F₁.Sound d e.2 ∧ F₂.Sound d e.2 ∧ F₃.Sound d e.2) :
    entries.foldlM (take F₁ F₂ F₃ d) s = .ok s' ↔ Takes F₁ F₂ F₃ d s entries s' := by
  induction entries generalizing s with
  | nil =>
    rw [takes_nil]
    exact ⟨Except.ok.inj, congrArg _⟩
  | cons e entries ih =>
    obtain ⟨⟨sound₁, sound₂, sound₃⟩, rest⟩ := List.forall_mem_cons.1 sound
    have one (s' : Slots α₁ α₂ α₃) : take F₁ F₂ F₃ d s e = .ok s' ↔ Takes F₁ F₂ F₃ d s [e] s' :=
      take_eq_ok_iff distinct sound₁ sound₂ sound₃
    rw [List.foldlM_cons, takes_cons]
    constructor
    · intro h
      obtain ⟨between, taken, h⟩ := ok_of_bind h
      exact ⟨between, (one _).1 taken, (ih rest).1 h⟩
    · rintro ⟨between, taken, h⟩
      rw [(one _).2 taken]
      exact (ih rest).2 h

theorem map_take {ρ : Type} (make : Slots α₁ α₂ α₃ → ρ) : make <$> take F₁ F₂ F₃ d s e = (do
    let key ← textOf d e.1
    if key = F₁.name then return make (← fill key s.1 (F₁.read d e.2), s.2)
    else if key = F₂.name then return make (s.1, ← fill key s.2.1 (F₂.read d e.2), s.2.2)
    else if key = F₃.name then return make (s.1, s.2.1, ← fill key s.2.2 (F₃.read d e.2))
    else return make s) := by
  rw [take]
  cases textOf d e.1 with
  | error fault => rfl
  | ok key =>
    change make <$> (if _ then _ else _) = if _ then _ else _
    split
    · cases fill key s.1 (F₁.read d e.2) <;> rfl
    split
    · cases fill key s.2.1 (F₂.read d e.2) <;> rfl
    split
    · cases fill key s.2.2 (F₃.read d e.2) <;> rfl
    · rfl

/-- A record whose own steps are these has its fields from these slots. -/
theorem foldlM_map_take {ρ : Type} {step : ρ → Node × Node → Except Fault ρ}
    {make : Slots α₁ α₂ α₃ → ρ}
    (h : ∀ s e, step (make s) e = make <$> take F₁ F₂ F₃ d s e) :
    entries.foldlM step (make s) = make <$> entries.foldlM (take F₁ F₂ F₃ d) s := by
  induction entries generalizing s with
  | nil => rfl
  | cons e entries ih =>
    rw [List.foldlM_cons, List.foldlM_cons, h]
    cases take F₁ F₂ F₃ d s e with
    | error fault => rfl
    | ok s => exact ih

/-- A record that is made of the slots of three fields comes out exactly if every key is a scalar
and every field fits. -/
theorem record_eq_ok_iff {ρ σ : Type} {step : ρ → Node × Node → Except Fault ρ}
    {make : Slots α₁ α₂ α₃ → ρ} {build : ρ → σ} {r : σ} {a₁ d₁ : α₁} {a₂ d₂ : α₂} {a₃ d₃ : α₃}
    (steps : ∀ s e, step (make s) e = make <$> take F₁ F₂ F₃ d s e)
    (distinct : [F₁.name, F₂.name, F₃.name].Nodup)
    (sound : ∀ e ∈ entries, F₁.Sound d e.2 ∧ F₂.Sound d e.2 ∧ F₃.Sound d e.2)
    (built : ∀ s, build (make s) = r ↔
      s.1.getD d₁ = a₁ ∧ s.2.1.getD d₂ = a₂ ∧ s.2.2.getD d₃ = a₃) :
    (entries.foldlM step (make (none, none, none)) >>= fun f ↦ pure (build f)) = .ok r ↔
      scalarKeys d entries ∧ F₁.Fits d entries d₁ a₁ ∧ F₂.Fits d entries d₂ a₂ ∧
        F₃.Fits d entries d₃ a₃ := by
  have runs (s : Slots α₁ α₂ α₃) : entries.foldlM (take F₁ F₂ F₃ d) (none, none, none) = .ok s ↔
      Takes F₁ F₂ F₃ d (none, none, none) entries s := foldlM_take_eq_ok_iff distinct sound
  simp only [foldlM_map_take steps, ← Field.exists_grows_iff]
  constructor
  · intro h
    obtain ⟨f, h, made⟩ := ok_of_bind h
    obtain ⟨s, ran, rfl⟩ := ok_of_map h
    obtain ⟨keys, first, second, third⟩ := (runs s).1 ran
    obtain ⟨h₁, h₂, h₃⟩ := (built s).1 (Except.ok.inj made)
    exact ⟨keys, ⟨_, first, h₁⟩, ⟨_, second, h₂⟩, ⟨_, third, h₃⟩⟩
  · rintro ⟨keys, ⟨a, first, h₁⟩, ⟨b, second, h₂⟩, ⟨c, third, h₃⟩⟩
    rw [(runs (a, b, c)).2 ⟨keys, first, second, third⟩]
    exact congrArg Except.ok ((built (a, b, c)).2 ⟨h₁, h₂, h₃⟩)

end Taking

end TestMatrix.SettingsFile
