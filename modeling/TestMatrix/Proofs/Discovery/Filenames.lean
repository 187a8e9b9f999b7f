import TestMatrix.Proofs.Discovery.Placement
namespace TestMatrix.FoundFile

open Text

variable {p : Path} {s : String} {f : FoundFile}

theorem text_eq_some_iff :
    p.fileName?.bind Utf8.decode? = some s ↔ p.fileName? = some (Utf8.encode s) := by
  simp only [Option.bind_eq_some_iff, Utf8.decode?_eq_some_iff, exists_eq_right]

theorem ofPath_eq_ok_iff : ofPath p = .ok f ↔
    f.path = p ∧ p.fileName? = some (Utf8.encode f.filename) := by
  rw [ofPath, ← text_eq_some_iff]
  cases p.fileName?.bind Utf8.decode? with
  | none => simp
  | some filename =>
    cases f
    simp [eq_comm]

theorem ofPath_eq_error (h : ∀ s, p.fileName? ≠ some (Utf8.encode s)) :
    ofPath p = .error (.invalidFilename p) := by
  rw [ofPath]
  split
  · next filename named => exact absurd (text_eq_some_iff.1 named) (h filename)
  · rfl

/-- A path is accepted if its last step is a name and text, and this is the filename. Slashes and
`/.` parts after the step make no difference, nor does the spelling of the folder before it. -/
theorem ofPath_names_entry :
    (∀ (folder : Path) (part : Bytes), Path.IsName part →
      (∀ s, Utf8.encode s = part →
        ofPath (folder.join ⟨part⟩) = .ok ⟨folder.join ⟨part⟩, s⟩) ∧
      ((∀ s, Utf8.encode s ≠ part) →
        ofPath (folder.join ⟨part⟩) = .error (.invalidFilename (folder.join ⟨part⟩)))) ∧
    (∀ b t : Bytes, Path.Trailing t → ∀ s,
      ofPath ⟨b⟩ = .ok ⟨⟨b⟩, s⟩ ↔ ofPath ⟨b ++ t⟩ = .ok ⟨⟨b ++ t⟩, s⟩) ∧
    ∀ p f, ofPath p = .ok f ↔ f.path = p ∧ Ordinary f.filename ∧
      ∃ front t, p.bytes = front ++ Utf8.encode f.filename ++ t ∧
        (front = [] ∨ front.getLast? = some slash) ∧ Path.Trailing t := by
  refine ⟨fun folder part hn ↦ ?_, fun b t ht s ↦ ?_, fun p f ↦ ?_⟩
  · have last : (folder.join ⟨part⟩).fileName? = some part :=
      folder.fileName?_join_part hn.slash_not_mem hn.nonempty hn.not_here hn.not_up
    constructor
    · intro s text
      apply ofPath_eq_ok_iff.2
      exact ⟨rfl, by rw [last, text]⟩
    · intro broken
      apply ofPath_eq_error
      intro s named
      rw [last, Option.some_inj] at named
      exact broken s named.symm
  · simp only [ofPath_eq_ok_iff, ht.fileName?_append, true_and]
  · rw [ofPath_eq_ok_iff, Path.fileName?_eq_some_iff, ordinary_iff]

theorem ofPath_names_entry_samples :
    (ofPath ((Path.ofString "a//./").join (.ofString "b.c")) =
      .ok ⟨(Path.ofString "a//./").join (.ofString "b.c"), "b.c"⟩) ∧
    (ofPath ((Path.ofString "a/.").join ⟨[0xff]⟩) =
      .error (.invalidFilename ((Path.ofString "a/.").join ⟨[0xff]⟩))) ∧
    (ofPath (.ofString "../x") = .ok ⟨.ofString "../x", "x"⟩ ↔
      ofPath (.ofString "../x/.//") = .ok ⟨.ofString "../x/.//", "x"⟩) ∧
    Ordinary "x" := by
  have text : Path.IsName (Utf8.encode "b.c") := ⟨by decide, by decide, by decide, by decide⟩
  have broken : Path.IsName [0xff] := ⟨by decide, by decide, by decide, by decide⟩
  have no_text (s : String) : Utf8.encode s ≠ [0xff] := by
    intro same
    have undecoded : Utf8.decode? [0xff] = none := by decide
    rw [← same, Utf8.decode?_encode] at undecoded
    cases undecoded
  have idle : Path.Trailing (Utf8.encode "/.//") := .slash (.slash (.here .nil))
  refine ⟨(ofPath_names_entry.1 _ _ text).1 _ rfl, (ofPath_names_entry.1 _ _ broken).2 no_text,
    ofPath_names_entry.2.1 (Utf8.encode "../x") _ idle "x", ?_⟩
  exact ((ofPath_names_entry.2.2 (.ofString "../x") ⟨_, "x"⟩).1 rfl).2.1

end TestMatrix.FoundFile
