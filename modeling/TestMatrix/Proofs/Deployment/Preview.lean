import TestMatrix.Proofs.Deployment.Atomicity
import TestMatrix.Proofs.Manifest.RoundTrip
namespace TestMatrix

open Text

namespace Deployment

/-- A dry run comes to the text that a run would write: it leaves the files as they are, fails as the
run does, and when it goes through only the writing can still fail. -/
theorem dry_run_previews (w : Workspace) (i : Invocation) :
    ((deploy { i with dryRun := true }).eval w).2 = w ∧
    (∀ output tests w',
      (deploy { i with dryRun := false }).eval w = (.ok (.written output tests), w') →
      ∃ text m, (deploy { i with dryRun := true }).eval w = (.ok (.rendered text), w) ∧
        w'.read output = .ok (Utf8.encode text) ∧
        Manifest.ofText? text = some m ∧ m.size = tests) ∧
    (∀ failure, ((deploy { i with dryRun := true }).eval w).1 = .error failure →
      (deploy { i with dryRun := false }).eval w = (.error failure, w)) ∧
    ∀ made failure, ((deploy { i with dryRun := true }).eval w).1 = .ok made →
      ((deploy { i with dryRun := false }).eval w).1 = .error failure →
      ∃ settings text e, (Settings.resolve i.config i.overrides).eval w = (.ok settings, w) ∧
        made = .rendered text ∧ w.write settings.output (Utf8.encode text) = .error e ∧
        failure = .fileOperation "write" settings.output (.system e) := by
  rcases eval_stages w i with ⟨failure, hr⟩ | ⟨settings, hr, ⟨failure, hb⟩ | ⟨m, hb⟩⟩
  · have same (dryRun : Bool) : (deploy { i with dryRun }).eval w = (.error failure, w) :=
      eval_unsettled hr
    simp [same]
  · have same (dryRun : Bool) : (deploy { i with dryRun }).eval w = (.error failure, w) :=
      eval_unlisted hr hb
    simp [same]
  · have dry : (deploy { i with dryRun := true }).eval w =
        (.ok (.rendered (m.render settings.pretty)), w) := eval_prepared hr hb
    have wet : (deploy { i with dryRun := false }).eval w = _ := eval_prepared hr hb
    simp only [Bool.false_eq_true, if_false] at wet
    rw [dry]
    refine ⟨rfl, fun output tests w' written ↦ ?_, fun failure h ↦ ?_,
      fun made failure shown failed ↦ ?_⟩
    · cases hw : w.write settings.output (Utf8.encode (m.render settings.pretty)) with
      | error e =>
        rw [hw, written] at wet
        cases wet
      | ok w₁ =>
        rw [hw, written] at wet
        cases wet
        obtain ⟨read, -⟩ := Workspace.write_spec hw
        exact ⟨_, m, rfl, read, m.ofText?_render _, rfl⟩
    · cases h
    · cases shown
      cases hw : w.write settings.output (Utf8.encode (m.render settings.pretty)) with
      | ok w₁ =>
        rw [wet, hw] at failed
        cases failed
      | error e =>
        rw [wet, hw] at failed
        cases failed
        exact ⟨settings, _, e, hr, rfl, hw, rfl⟩

def misdirected : Invocation :=
  { source := "src", overrides := { output := some (.ofString "src") } }

theorem dry_run_previews_sample :
    (∃ text w', (deploy { request with dryRun := true }).eval sample =
        (.ok (.rendered text), sample) ∧
      (deploy request).eval sample = (.ok (.written (.ofString "out") 1), w') ∧
      w'.read (.ofString "out") = .ok (Utf8.encode text)) ∧
    (deploy { request with config := some (.ofString "gone") }).eval sample =
      (.error (.unreadableConfig (.ofString "gone") .notFound), sample) ∧
    ∃ (settings : Settings) (text : String) (e : SystemError),
      (deploy { misdirected with dryRun := true }).eval sample =
        (.ok (.rendered text), sample) ∧
      sample.write settings.output (Utf8.encode text) = .error e ∧
      ((deploy misdirected).eval sample).1 =
        .error (.fileOperation "write" settings.output (.system e)) := by
  have written : (deploy request).eval sample =
      (.ok (.written (.ofString "out") 1), ((deploy request).eval sample).2) := Script.eval_of_fst rfl
  obtain ⟨text, m, shown, read, -⟩ := (dry_run_previews sample request).2.1 _ _ _ written
  have unread : ((deploy { request with
      config := some (.ofString "gone"), dryRun := true }).eval sample).1 =
        .error (.unreadableConfig (.ofString "gone") .notFound) := rfl
  obtain ⟨text', previewed⟩ : ∃ text, ((deploy { misdirected with dryRun := true }).eval sample).1 =
      .ok (.rendered text) := ⟨_, rfl⟩
  have refused : ((deploy { misdirected with dryRun := false }).eval sample).1 =
      .error (.fileOperation "write" (.ofString "src") (.system .isFolder)) := rfl
  have kept := (dry_run_previews sample misdirected).1
  obtain ⟨settings, _, e, -, made, hw, failure⟩ :=
    (dry_run_previews sample misdirected).2.2.2 _ _ previewed refused
  cases made
  refine ⟨⟨text, _, shown, written, read⟩, ?_,
    settings, text', e, Prod.ext previewed kept, hw, refused.trans (congrArg _ failure)⟩
  exact (dry_run_previews sample { request with config := some (.ofString "gone") }).2.2.1 _ unread

end Deployment

end TestMatrix
