import TestMatrix.Manifest.Reading
import TestMatrix.Manifest.Rendering
import TestMatrix.Proofs.Json.Scanning
namespace TestMatrix

open Json

theorem Json.Piece.text?_map_char (s : List Char) : Piece.text? (s.map .char) = some s := by
  induction s with
  | nil => rfl
  | cons c s ih => rw [List.map_cons, text?, ih]; rfl

@[simp] theorem textOf?_ofString (s : String) : textOf? (.ofString s) = some s := by
  rw [Value.ofString, textOf?, Piece.text?_map_char, Option.map_some, String.ofList_toList]

@[simp] theorem namedMembers?_map (members : List (String × Value)) :
    namedMembers? (members.map fun m ↦ (m.1.toList.map .char, m.2)) = some members := by
  induction members with
  | nil => rfl
  | cons m members ih =>
    rw [namedMembers?] at ih ⊢
    simp [List.mapM_cons, Piece.text?_map_char, ih]

namespace Record

def value (r : Record) : Value :=
  .ofMembers [("name", .ofString r.name), ("test_name", .ofString r.testName),
    ("path", .ofString r.path)]

theorem ofValue?_value (r : Record) : ofValue? r.value = some r := by
  simp [value, Value.ofMembers, ofValue?, onlyMember?, -List.map_cons]

theorem write_scans (r : Record) (l : Layout) : Token.Scans (r.write l) r.value.tokens := by
  have h := l.object_scans 2 quote .ofString
    [("name", r.name), ("test_name", r.testName), ("path", r.path)] fun m _ ↦ Token.quote_scans m.2
  simpa only [write, value, List.map_cons, List.map_nil] using h

end Record

namespace Manifest

def value (m : Manifest) : Value := .ofMembers [("include", .array (m.records.map Record.value))]

theorem recordsOf?_map (records : List Record) :
    recordsOf? (.array (records.map Record.value)) = some records := by
  induction records with
  | nil => rfl
  | cons r records ih =>
    rw [recordsOf?] at ih ⊢
    simp [List.mapM_cons, Record.ofValue?_value, ih]

theorem ofValue?_value (m : Manifest) : ofValue? m.value = some m := by
  simp [value, Value.ofMembers, ofValue?, onlyMember?, recordsOf?_map, -List.map_cons]

theorem write_scans (m : Manifest) (l : Layout) : Token.Scans (m.write l) m.value.tokens := by
  have items (records : List Record) := l.array_scans 1 (·.write l) Record.value records
    fun r _ ↦ r.write_scans l
  have h := l.object_scans 0 (fun records ↦ l.array 1 (records.map (·.write l)))
    (fun records ↦ .array (records.map Record.value)) [("include", m.records)]
    fun records _ ↦ items records.2
  simpa only [write, value, List.map_cons, List.map_nil] using h

/-- Both layouts read as the one value, and that is read as the manifest. -/
theorem ofText?_render (m : Manifest) (pretty : Bool) : ofText? (m.render pretty) = some m := by
  have tokens := (m.write_scans (.ofPretty pretty)).ofText?
  have read := Value.ofTokens?_tokens m.value
  simp only [ofText?, Value.ofText?, render, String.toList_ofList, tokens, read, ofValue?_value,
    Option.bind_eq_bind, Option.bind_some]

theorem render_injective {m m' : Manifest} {pretty pretty' : Bool}
    (h : m.render pretty = m'.render pretty') : m = m' := by
  have read := ofText?_render m pretty
  rw [h, ofText?_render] at read
  exact (Option.some.inj read).symm

inductive Edit
  | clear
  | replace (records : List Record)
  | push (r : Record)
  | render (pretty : Bool)
  | reload (pretty : Bool)
deriving DecidableEq, Repr

namespace Edit

/-- The manifest after an edit, if there is one: a reload may find that the text is none. -/
def after? (m : Manifest) : Edit → Option Manifest
  | clear => some {}
  | replace records => some ⟨records⟩
  | push r => some (m.push r)
  | render _ => some m
  | reload pretty => ofText? (m.render pretty)

def run? (m : Manifest) (edits : List Edit) : Option Manifest := edits.foldlM after? m

def isReload : Edit → Bool
  | reload _ => true
  | _ => false

theorem after?_reload (m : Manifest) (pretty : Bool) : after? m (reload pretty) = some m :=
  m.ofText?_render pretty

theorem after?_of_isReload {e : Edit} (h : e.isReload) (m : Manifest) : after? m e = some m := by
  cases e with
  | reload pretty => exact after?_reload m pretty
  | clear | replace | push | render => cases h

theorem after?_isSome (m : Manifest) (e : Edit) : ∃ m', after? m e = some m' := by
  cases e with
  | reload pretty => exact ⟨m, after?_reload m pretty⟩
  | clear | replace | push | render => exact ⟨_, rfl⟩

theorem run?_isSome (edits : List Edit) (m : Manifest) : ∃ m', run? m edits = some m' := by
  induction edits generalizing m with
  | nil => exact ⟨m, rfl⟩
  | cons e edits ih =>
    obtain ⟨next, hn⟩ := after?_isSome m e
    obtain ⟨last, hl⟩ := ih next
    exact ⟨last, by rw [run?, List.foldlM_cons, hn]; exact hl⟩

theorem run?_filter (edits : List Edit) (m : Manifest) :
    run? m (edits.filter (!·.isReload)) = run? m edits := by
  induction edits generalizing m with
  | nil => rfl
  | cons e edits ih =>
    cases h : e.isReload with
    | true =>
      rw [List.filter_cons_of_neg (by simp [h]), ih, run?, run?, List.foldlM_cons,
        after?_of_isReload h]
      rfl
    | false =>
      rw [List.filter_cons_of_pos (by simp [h]), run?, run?, List.foldlM_cons, List.foldlM_cons]
      exact congrArg (after? m e).bind (funext ih)

end Edit

/-- Reading inverts rendering in both layouts. So every run of edits goes through, its reloads might
as well be left out, one more reload changes nothing, and no two manifests share a text. -/
theorem render_lossless :
    (∀ (m : Manifest) (pretty : Bool), ofText? (m.render pretty) = some m) ∧
    (∀ (edits : List Edit) (m : Manifest), ∃ m', Edit.run? m edits = some m' ∧
      Edit.run? m (edits.filter (!·.isReload)) = some m' ∧
      ∀ pretty, Edit.run? m (edits ++ [.reload pretty]) = some m') ∧
    ∀ (m m' : Manifest) (pretty pretty' : Bool),
      m.render pretty = m'.render pretty' → m = m' := by
  refine ⟨ofText?_render, fun edits m ↦ ?_, fun _ _ _ _ ↦ render_injective⟩
  obtain ⟨m', h⟩ := Edit.run?_isSome edits m
  refine ⟨m', h, (Edit.run?_filter edits m).trans h, fun pretty ↦ ?_⟩
  rw [Edit.run?] at h
  rw [Edit.run?, List.foldlM_append, h, Option.bind_eq_bind, Option.bind_some, List.foldlM_cons,
    Edit.after?_reload]
  rfl

end Manifest

end TestMatrix
