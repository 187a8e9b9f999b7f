import TestMatrix.Deployment
import TestMatrix.Proofs.FileTree.Entries
import TestMatrix.Proofs.Script.Evaluation
import TestMatrix.Proofs.SettingsFile.Reading
import TestMatrix.Proofs.Yaml.Blanks
namespace TestMatrix

open Text Yaml

namespace SettingsFile

/-- A file that holds one mapping, with scalars for keys and with values that have no tags. -/
structure HoldsMapping (w : Workspace) (file : Path) (d : Document)
    (entries : List (Node × Node)) : Prop where
  parsed : ∃ content text p, w.read file = .ok content ∧ Utf8.decode? content = some text ∧
    Document.ofText text = .ok d ∧ d.root = some (.mapping p entries)
  scalarKeys : ∀ e ∈ entries, (text? (d.resolve e.1)).isSome
  untagged : ∀ e ∈ entries, tag? (d.resolve e.2) = none

def sketch? (content : Bytes) : Option Sketch := do
  let text ← Utf8.decode? content
  let d ← (Document.ofText text).toOption
  match d.root with
  | some (.mapping _ entries) =>
    if (∀ e ∈ entries, (text? (d.resolve e.1)).isSome) ∧
        ∀ e ∈ entries, tag? (d.resolve e.2) = none then
      some (.of d entries)
    else none
  | _ => none

theorem exists_holdsMapping {w : Workspace} {file : Path} {content : Bytes} {k : Sketch}
    (read : w.read file = .ok content) (h : sketch? content = some k) :
    ∃ d entries, HoldsMapping w file d entries ∧ Sketch.of d entries = k := by
  obtain ⟨text, decoded, h⟩ := Option.bind_eq_some_iff.1 h
  obtain ⟨d, parsed, h⟩ := Option.bind_eq_some_iff.1 h
  split at h
  · rename_i p entries root
    obtain ⟨⟨keys, untagged⟩, same⟩ := Option.ite_none_right_eq_some.1 h
    have parsed := ok_of_toOption parsed
    exact ⟨d, entries, ⟨⟨content, text, p, read, decoded, parsed, root⟩, keys, untagged⟩,
      Option.some.inj same⟩
  · cases h

end SettingsFile

open SettingsFile

variable {w : Workspace} {file : Path} {d : Document} {entries : List (Node × Node)}

/-- A blank file is told of and not read as a document. -/
theorem Settings.load_run {l : Logger} {s : Session} {text : String}
    (read : s.workspace.read file = .ok (Utf8.encode text)) : (Settings.load file).run l s =
      if Blank.isBlankText text then (.ok {}, s.report l (.emptyConfig file))
      else ((Settings.ofText text).mapError (Settings.unreadable file), s) := by
  rw [Settings.load, Script.run_read_bind, read]
  dsimp only
  rw [Utf8.decode?_encode]
  dsimp only
  split
  · rfl
  · cases Settings.ofText text <;> rfl

theorem Settings.load_eval {content : Bytes} {text : String} (read : w.read file = .ok content)
    (decoded : Utf8.decode? content = some text) (filled : ¬Blank.isBlankText text) :
    (Settings.load file).eval w =
      ((Settings.ofText text).mapError (Settings.unreadable file), w) := by
  rw [Utf8.decode?_eq_some_iff.1 decoded] at read
  have ran : (Settings.load file).run {} { workspace := w } = _ := Settings.load_run read
  rw [Script.eval, ran, if_neg filled]

theorem Settings.load_eval_mapping (h : HoldsMapping w file d entries) :
    ∃ n, entriesOf d n = .ok entries ∧ (Settings.load file).eval w =
      ((settingsOf d n).mapError (Settings.unreadable file), w) := by
  obtain ⟨content, text, p, read, decoded, parsed, root⟩ := h.parsed
  have filled : ¬Blank.isBlankText text := by
    intro blank
    obtain empty | ⟨word, scalar⟩ := Document.root_of_blank blank parsed
    · rw [empty] at root
      cases root
    · rw [scalar] at root
      cases root
  refine ⟨.mapping p entries, rfl, ?_⟩
  rw [Settings.load_eval read decoded filled, Settings.ofText, parsed]
  change ((Settings.ofDocument d).mapError _, w) = _
  rw [Settings.ofDocument, root]

theorem Settings.load_eq_ok_iff (h : HoldsMapping w file d entries) {s : Settings} :
    (Settings.load file).eval w = (.ok s, w) ↔
      (Sketch.of d entries).Acceptable ∧ (Sketch.of d entries).Describes s := by
  obtain ⟨n, entered, loaded⟩ := Settings.load_eval_mapping h
  rw [loaded, ← settingsOf_eq_ok_iff entered (List.all_eq_true.2 h.scalarKeys) h.untagged]
  cases settingsOf d n <;> simp [Except.mapError]

/-- A mapping is accepted exactly if each of its known keys stands in it once at most and has a good
value, and then it says what the settings are. Else it is refused as a whole. All that counts is in
its sketch, which stays the same in whatever order the keys stand and whatever unknown keys there
are, and so it is for the mapping of a convention. -/
theorem Settings.load_mapping (h : HoldsMapping w file d entries) :
    ((∃ s, (Settings.load file).eval w = (.ok s, w)) ↔ (Sketch.of d entries).Acceptable) ∧
    (∀ s, (Settings.load file).eval w = (.ok s, w) ↔
      (Sketch.of d entries).Acceptable ∧ (Sketch.of d entries).Describes s) ∧
    (¬(Sketch.of d entries).Acceptable → ∃ cause, (Settings.load file).eval w =
      (.error (.configParsing
        s!"{file.display} could not be parsed. Please check the YAML syntax." cause), w)) ∧
    (∀ w' file' d' entries', HoldsMapping w' file' d' entries' →
      Sketch.of d' entries' = Sketch.of d entries →
      ∀ s, (Settings.load file').eval w' = (.ok s, w') ↔
        (Settings.load file).eval w = (.ok s, w)) ∧
    (∀ others, Pads d ["output", "pretty", "convention"] entries others →
      Sketch.of d others = Sketch.of d entries) ∧
    ∀ p inner others, Pads d ["extension", "test_marker", "target_marker"] inner others →
      ConventionValue.of d (.mapping p others) = ConventionValue.of d (.mapping p inner) := by
  have accepted : (∃ s, (Settings.load file).eval w = (.ok s, w)) ↔
      (Sketch.of d entries).Acceptable := by
    simp only [Settings.load_eq_ok_iff h]
    constructor
    · rintro ⟨s, acceptable, -⟩
      exact acceptable
    · intro acceptable
      obtain ⟨s, describes⟩ := acceptable.exists_describes
      exact ⟨s, acceptable, describes⟩
  refine ⟨accepted, fun s ↦ Settings.load_eq_ok_iff h, ?_, ?_, ?_, ?_⟩
  · intro refused
    obtain ⟨n, -, loaded⟩ := Settings.load_eval_mapping h
    cases hs : settingsOf d n with
    | ok s =>
      rw [hs] at loaded
      exact absurd (accepted.1 ⟨s, loaded⟩) refused
    | error fault =>
      rw [hs] at loaded
      exact ⟨_, loaded⟩
  · intro w' file' d' entries' h' same s
    rw [Settings.load_eq_ok_iff h, Settings.load_eq_ok_iff h', same]
  · intro others padded
    exact Sketch.of_pads padded
  · intro p inner others padded
    exact congrArg ConventionValue.mapping (Parts.of_pads padded)

namespace SettingsFile

def holding (text : String) : Workspace where
  tree :=
    { entries := [(.ofText "c", .file (Utf8.encode text))]
      nodup := by simp }

theorem read_holding (text : String) :
    (holding text).read (.ofString "c") = .ok (Utf8.encode text) := rfl

def blockText : String :=
  "pretty: true\nauthor: me\nconvention:\n  target_marker: _unit\n  extension: .rs\n"

def flowText : String :=
  "convention: \x7bextension: .rs, note: [x], target_marker: _unit\x7d\npretty: true\n"

def partialSketch : Sketch where
  output := 0
  pretty := {some (.plain, "true")}
  convention := {.mapping ⟨true, {some ".rs"}, 0, {some "_unit"}⟩}

def partialSettings : Settings where
  pretty := true
  convention := { extension := ".rs", targetMarker := "_unit" }

theorem partialSketch_acceptable : partialSketch.Acceptable where
  output := once_zero
  pretty := once_singleton.2 ⟨true, "true", rfl, rfl⟩
  convention := once_singleton.2 ⟨rfl, once_singleton.2 rfl, once_zero, once_singleton.2 rfl⟩

theorem partialSketch_describes : partialSketch.Describes partialSettings where
  output := gives_zero.2 rfl
  pretty := gives_singleton.2 ⟨"true", rfl, rfl⟩
  convention := gives_singleton.2 ⟨gives_singleton.2 rfl, gives_zero.2 rfl, gives_singleton.2 rfl⟩

end SettingsFile

theorem Settings.load_mapping_partial :
    (Settings.load (.ofString "c")).eval (holding blockText) =
      (.ok partialSettings, holding blockText) ∧
    (Settings.load (.ofString "c")).eval (holding flowText) =
      (.ok partialSettings, holding flowText) ∧
    ∃ cause, (Settings.load (.ofString "c")).eval (holding "pretty: true\npretty: true\n") =
      (.error (.configParsing "c could not be parsed. Please check the YAML syntax." cause),
        holding "pretty: true\npretty: true\n") := by
  obtain ⟨_, _, block, hb⟩ := exists_holdsMapping (read_holding blockText)
    (by decide +kernel : sketch? (Utf8.encode blockText) = some partialSketch)
  obtain ⟨_, _, flow, hf⟩ := exists_holdsMapping (read_holding flowText)
    (by decide +kernel : sketch? (Utf8.encode flowText) = some partialSketch)
  obtain ⟨_, _, repeated, hr⟩ := exists_holdsMapping
    (read_holding "pretty: true\npretty: true\n")
    (k := ⟨0, {some (.plain, "true"), some (.plain, "true")}, 0⟩) (by decide +kernel)
  have loaded := ((load_mapping block).2.1 partialSettings).2
    (hb ▸ ⟨partialSketch_acceptable, partialSketch_describes⟩)
  refine ⟨loaded, ?_, ?_⟩
  · have alike := (load_mapping block).2.2.2.1 _ _ _ _ flow (hf.trans hb.symm)
    exact (alike partialSettings).2 loaded
  · apply (load_mapping repeated).2.2.1
    rw [hr]
    intro acceptable
    have few := acceptable.pretty.1
    simp at few

end TestMatrix
