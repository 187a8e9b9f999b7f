import TestMatrix.Proofs.SettingsFile.Fields
namespace TestMatrix.SettingsFile

open Yaml

variable {d : Document} {n : Node} {entries : List (Node × Node)}

def tag? : Node → Option Bytes
  | .scalar p .. | .sequence p _ | .mapping p _ => p.tag
  | .reference _ => none

def textField (name : String) : Field (Option String) String where
  name
  read := textOf
  view _ := text?
  Good := (·.isSome)
  Value := (· = some ·)

def outputField : Field (Option String) Path where
  name := "output"
  read d n := Path.ofString <$> textOf d n
  view _ := text?
  Good := (·.isSome)
  Value := (·.map Path.ofString = some ·)

def prettyField : Field (Option (Style × String)) Bool where
  name := "pretty"
  read := flagOf
  view _ := scalar?
  Good := (∃ b, IsFlag · b)
  Value := IsFlag

def conventionField : Field ConventionValue Convention where
  name := "convention"
  read := conventionOf
  view := ConventionValue.of
  Good := ConventionValue.Acceptable
  Value := ConventionValue.Describes

theorem textField_sound (name : String) : (textField name).Sound d n := by
  intro text
  simp only [textField, textOf_eq_ok_iff]
  constructor
  · intro h
    exact ⟨h ▸ rfl, h⟩
  · exact And.right

theorem outputField_sound : outputField.Sound d n := by
  intro path
  simp only [outputField, map_eq_ok_iff, textOf_eq_ok_iff, Option.map_eq_some_iff]
  constructor
  · rintro ⟨text, h, made⟩
    exact ⟨h ▸ rfl, text, h, made⟩
  · exact And.right

theorem isFlag_iff {style : Style} {text : String} {b : Bool} :
    IsFlag (some (style, text)) b ↔ style = .plain ∧ flagWords.lookup text = some b := by
  constructor
  · rintro ⟨_, ⟨⟩, found⟩
    exact ⟨rfl, found⟩
  · rintro ⟨rfl, found⟩
    exact ⟨text, rfl, found⟩

theorem flagOf_eq_ok_iff {b : Bool} (untagged : tag? (d.resolve n) = none) :
    flagOf d n = .ok b ↔ IsFlag (scalar? (d.resolve n)) b := by
  rw [flagOf]
  cases hn : d.resolve n with
  | scalar p style text =>
    have bare : p.tag = none := by rwa [hn] at untagged
    rw [scalar?, isFlag_iff]
    by_cases plain : style = .plain
    · dsimp only
      rw [if_pos (.inl plain)]
      cases flagWords.lookup text <;> simp [plain]
    · simp [bare, plain]
  | _ =>
    constructor
    · intro h
      cases h
    · rintro ⟨_, ⟨⟩, _⟩

theorem prettyField_sound (untagged : tag? (d.resolve n) = none) : prettyField.Sound d n := by
  intro b
  simp only [prettyField, flagOf_eq_ok_iff untagged]
  constructor
  · intro h
    exact ⟨⟨b, h⟩, h⟩
  · exact And.right

def ConventionFields.ofSlots (s : Slots String String String) : ConventionFields :=
  ⟨s.1, s.2.1, s.2.2⟩

theorem ConventionFields.take_ofSlots (s : Slots String String String) (e : Node × Node) :
    (ofSlots s).take d e = ofSlots <$> SettingsFile.take (textField "extension")
      (textField "test_marker") (textField "target_marker") d s e := by
  rw [map_take]
  rfl

theorem conventionOf_eq_ok_iff {c : Convention} (h : entriesOf d n = .ok entries) :
    conventionOf d n = .ok c ↔
      (Parts.of d entries).Acceptable ∧ (Parts.of d entries).Describes c := by
  obtain ⟨extension, testMarker, targetMarker⟩ := c
  rw [conventionOf, h]
  change (entries.foldlM (ConventionFields.take d) (.ofSlots (none, none, none)) >>=
    fun f ↦ pure _) = _ ↔ _
  rw [record_eq_ok_iff ConventionFields.take_ofSlots (by decide)
    (fun e _ ↦ ⟨textField_sound _, textField_sound _, textField_sound _⟩)
    (fun s ↦ .of_eq (Convention.mk.injEq ..))]
  constructor
  · rintro ⟨keys, ⟨good₁, value₁⟩, ⟨good₂, value₂⟩, good₃, value₃⟩
    exact ⟨⟨keys, good₁, good₂, good₃⟩, value₁, value₂, value₃⟩
  · rintro ⟨⟨keys, good₁, good₂, good₃⟩, value₁, value₂, value₃⟩
    exact ⟨keys, ⟨good₁, value₁⟩, ⟨good₂, value₂⟩, good₃, value₃⟩

theorem conventionField_sound : conventionField.Sound d n := by
  intro c
  change conventionOf d n = .ok c ↔ (ConventionValue.of d (d.resolve n)).Acceptable ∧
    (ConventionValue.of d (d.resolve n)).Describes c
  cases hn : d.resolve n with
  | scalar p style text =>
    rw [conventionOf, entriesOf, hn]
    simp only [ConventionValue.of, ConventionValue.Acceptable, ConventionValue.Describes]
    split
    · rename_i empty
      change Except.ok ({} : Convention) = .ok c ↔ _
      simp [empty, eq_comm]
    · rename_i filled
      exact ⟨nofun, fun h ↦ absurd h.1 filled⟩
  | mapping p entries =>
    have h : entriesOf d n = .ok entries := by rw [entriesOf, hn]
    exact conventionOf_eq_ok_iff h
  | _ =>
    rw [conventionOf, entriesOf, hn]
    exact ⟨nofun, fun h ↦ h.1.elim⟩

def Fields.ofSlots (s : Slots Path Bool Convention) : Fields := ⟨s.1, s.2.1, s.2.2⟩

theorem Fields.take_ofSlots (s : Slots Path Bool Convention) (e : Node × Node) :
    (ofSlots s).take d e =
      ofSlots <$> SettingsFile.take outputField prettyField conventionField d s e := by
  rw [map_take]
  rfl

theorem settingsOf_eq_ok_iff {s : Settings} (h : entriesOf d n = .ok entries)
    (keys : scalarKeys d entries) (untagged : ∀ e ∈ entries, tag? (d.resolve e.2) = none) :
    settingsOf d n = .ok s ↔
      (Sketch.of d entries).Acceptable ∧ (Sketch.of d entries).Describes s := by
  obtain ⟨output, pretty, convention⟩ := s
  rw [settingsOf, h]
  change (entries.foldlM (Fields.take d) (.ofSlots (none, none, none)) >>= fun f ↦ pure _) = _ ↔ _
  rw [record_eq_ok_iff Fields.take_ofSlots (by decide)
    (fun e he ↦ ⟨outputField_sound, prettyField_sound (untagged e he), conventionField_sound⟩)
    (fun s ↦ .of_eq (Settings.mk.injEq ..))]
  constructor
  · rintro ⟨-, ⟨good₁, value₁⟩, ⟨good₂, value₂⟩, good₃, value₃⟩
    exact ⟨⟨good₁, good₂, good₃⟩, value₁, value₂, value₃⟩
  · rintro ⟨⟨good₁, good₂, good₃⟩, value₁, value₂, value₃⟩
    exact ⟨keys, ⟨good₁, value₁⟩, ⟨good₂, value₂⟩, good₃, value₃⟩

theorem Parts.Acceptable.exists_describes {k : Parts} (h : k.Acceptable) : ∃ c, k.Describes c := by
  have present (v : Option String) (hv : v.isSome) : ∃ text, v = some text :=
    Option.isSome_iff_exists.1 hv
  obtain ⟨a, ha⟩ := h.extension.exists_gives ({} : Convention).extension present
  obtain ⟨b, hb⟩ := h.testMarker.exists_gives ({} : Convention).testMarker present
  obtain ⟨c, hc⟩ := h.targetMarker.exists_gives ({} : Convention).targetMarker present
  exact ⟨⟨a, b, c⟩, ha, hb, hc⟩

theorem ConventionValue.exists_describes (v : ConventionValue) (h : v.Acceptable) :
    ∃ c, v.Describes c := by
  cases v with
  | scalar => exact ⟨{}, rfl⟩
  | mapping parts => exact Parts.Acceptable.exists_describes h
  | other => exact h.elim

theorem Sketch.Acceptable.exists_describes {k : Sketch} (h : k.Acceptable) : ∃ s, k.Describes s := by
  have present (v : Option String) (hv : v.isSome) : ∃ path, v.map Path.ofString = some path := by
    obtain ⟨text, rfl⟩ := Option.isSome_iff_exists.1 hv
    exact ⟨_, rfl⟩
  obtain ⟨a, ha⟩ := h.output.exists_gives ({} : Settings).output present
  obtain ⟨b, hb⟩ := h.pretty.exists_gives ({} : Settings).pretty fun _ ↦ id
  obtain ⟨c, hc⟩ := h.convention.exists_gives ({} : Settings).convention
    ConventionValue.exists_describes
  exact ⟨⟨a, b, c⟩, ha, hb, hc⟩

end TestMatrix.SettingsFile
