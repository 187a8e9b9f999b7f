import TestMatrix.Proofs.Deployment.Layering
import TestMatrix.Proofs.SettingsFile.Loading
import TestMatrix.Proofs.Yaml.IdleLines
namespace TestMatrix

open SettingsFile Text Yaml

namespace Settings

variable {w : Workspace} {file : Path} {text : String} {l : Logger} {s : Session}

theorem ofText_idle (idle : Idle text.toList) : ofText text = .ok {} := by
  rw [ofText, Document.ofText_idle idle]
  rfl

theorem load_run_blank (read : s.workspace.read file = .ok (Utf8.encode text))
    (blank : Blank.isBlankText text) :
    (load file).run l s = (.ok {}, s.report l (.emptyConfig file)) := by
  rw [load_run read, if_pos blank]

theorem load_run_idle (read : s.workspace.read file = .ok (Utf8.encode text))
    (filled : ¬Blank.isBlankText text) (idle : Idle text.toList) :
    (load file).run l s = (.ok {}, s) := by
  rw [load_run read, if_neg filled, ofText_idle idle]
  rfl

theorem beneath_of_idle (read : w.read file = .ok (Utf8.encode text))
    (h : Blank.isBlankText text ∨ Idle text.toList) : Beneath w (some file) {} := by
  have start : ({ workspace := w } : Session).workspace.read file = .ok (Utf8.encode text) := read
  apply beneath_of_fst
  by_cases blank : Blank.isBlankText text
  · rw [Script.eval, load_run_blank start blank]
  · rw [Script.eval, load_run_idle start blank (h.resolve_left blank)]

/-- A file without content leaves the defaults. If it is blank that is told and it is not read as a
document, and spaces and comments are read as a document without a value. -/
theorem load_contentless (file : Path) (text : String) :
    (Blank.isBlankText text → ∀ l s, s.workspace.read file = .ok (Utf8.encode text) →
      (load file).run l s = (.ok {}, s.report l (.emptyConfig file))) ∧
    (Idle text.toList → Document.ofText text = .ok ⟨none⟩) ∧
    (Idle text.toList → ¬Blank.isBlankText text → ∀ l s,
      s.workspace.read file = .ok (Utf8.encode text) → (load file).run l s = (.ok {}, s)) ∧
    (Blank.isBlankText text ∨ Idle text.toList → ∀ w, w.read file = .ok (Utf8.encode text) →
      (load file).eval w = (.ok {}, w) ∧
      ∀ o, (resolve (some file) o).eval w = (resolve none o).eval w) := by
  refine ⟨fun blank l s read ↦ load_run_blank read blank, Document.ofText_idle,
    fun idle filled l s read ↦ load_run_idle read filled idle, ?_⟩
  intro contentless w read
  have beneath := beneath_of_idle read contentless
  have defaults : Beneath w none {} := rfl
  refine ⟨beneath, ?_⟩
  intro o
  rw [resolve_eval beneath, resolve_eval defaults]

def commented : String := "# output: π\n  #\n\n"

theorem commented_idle : Idle commented.toList := by
  have first : ∀ c ∈ " output: π".toList, isAllowed c ∧ isBreak c = false := by
    intro c hc
    have all : " output: π".toList.all fun c ↦ isAllowed c && !isBreak c := by decide
    simpa using List.all_eq_true.1 all c hc
  exact .cons (.comment 0 first) (.cons (.comment 2 (List.forall_mem_nil _))
    (.cons (.spaces 0) (.last (.spaces 0))))

def wide : String := "\u2003\u00a0\n"

theorem load_contentless_samples :
    (load (.ofString "c")).run { threshold := some .debug } { workspace := holding wide } =
      (.ok {}, { workspace := holding wide, shown := [.emptyConfig (.ofString "c")] }) ∧
    (load (.ofString "c")).run { threshold := some .debug } { workspace := holding commented } =
      (.ok {}, { workspace := holding commented }) ∧
    (resolve (some (.ofString "c")) { pretty := true }).eval (holding commented) =
      (.ok { pretty := true }, holding commented) := by
  obtain ⟨blank, -⟩ := load_contentless (.ofString "c") wide
  obtain ⟨-, -, filled, resolved⟩ := load_contentless (.ofString "c") commented
  refine ⟨?_, ?_, ?_⟩
  · exact blank (by decide) _ _ (read_holding wide)
  · exact filled commented_idle (by decide) _ _ (read_holding commented)
  · obtain ⟨-, same⟩ := resolved (.inr commented_idle) _ (read_holding commented)
    rw [same]
    rfl

end Settings

end TestMatrix
