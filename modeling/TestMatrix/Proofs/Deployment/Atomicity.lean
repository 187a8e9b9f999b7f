import TestMatrix.Proofs.Deployment.Course
import TestMatrix.Proofs.FileTree.Writing
namespace TestMatrix

open Text

namespace Deployment

variable {w w' : Workspace} {i : Invocation} {settings : Settings} {m : Manifest} {s' : Session}

/-- Up to the writing a deployment only reads, so all of it sees the same files. -/
theorem Prepared.silent (h : Prepared {} { workspace := w } i settings m s') :
    s' = { workspace := w } ∧
      (Settings.resolve i.config i.overrides).eval w = (.ok settings, w) ∧
      (Discovery.build settings.convention i.source).eval w = (.ok m, w) := by
  obtain ⟨between, hr, hb⟩ := h
  have resolve := Settings.resolve_reads i.config i.overrides
  have build := Discovery.build_reads settings.convention i.source
  obtain rfl := resolve.run_snd hr
  obtain rfl := build.run_snd hb
  exact ⟨rfl, by rw [Script.eval, hr], by rw [Script.eval, hb]⟩

theorem course_of_eval {result : Except Failure Deployment}
    (h : (deploy i).eval w = (result, w')) :
    Course {} { workspace := w } i result { workspace := w' } := by
  have course := deploy_course {} { workspace := w } i
  rw [Script.run_silent, h] at course
  exact course

theorem eval_error {failure : Failure} (h : (deploy i).eval w = (.error failure, w')) : w' = w := by
  have course := course_of_eval h
  generalize hs : ({ workspace := w' } : Session) = s' at course
  have left : s' = { workspace := w } := by
    cases course with
    | unsettled hr => exact (Settings.resolve_reads i.config i.overrides).run_snd hr
    | @unlisted settings _ _ _ hr hb =>
      rw [(Settings.resolve_reads i.config i.overrides).run_snd hr] at hb
      exact (Discovery.build_reads settings.convention i.source).run_snd hb
    | unwritten prepared =>
      obtain ⟨rfl, -⟩ := prepared.silent
      rfl
  rw [left] at hs
  cases hs
  rfl

theorem eval_rendered {text : String} (h : (deploy i).eval w = (.ok (.rendered text), w')) :
    w' = w := by
  have course := course_of_eval h
  generalize hs : ({ workspace := w' } : Session) = s' at course
  cases course with
  | shown prepared =>
    obtain ⟨rfl, -⟩ := prepared.silent
    cases hs
    rfl

theorem eval_written {output : Path} {tests : Nat}
    (h : (deploy i).eval w = (.ok (.written output tests), w')) :
    ∃ settings m, (Settings.resolve i.config i.overrides).eval w = (.ok settings, w) ∧
      (Discovery.build settings.convention i.source).eval w = (.ok m, w) ∧
      output = settings.output ∧ tests = m.size ∧
      w.write output (Utf8.encode (m.render settings.pretty)) = .ok w' := by
  have course := course_of_eval h
  generalize hs : ({ workspace := w' } : Session) = s' at course
  cases course with
  | @written settings m _ _ prepared _ hw =>
    obtain ⟨rfl, hr, hb⟩ := prepared.silent
    cases hs
    exact ⟨settings, m, hr, hb, rfl, rfl, hw⟩

end Deployment

/-- A deployment that fails or only shows its manifest leaves all files as they were. One that
writes leaves the manifest of the files it found where the output names a file, and touches nothing
else: no folder is made, and a link stays a link. -/
theorem deploy_atomic (w : Workspace) (i : Invocation) :
    (∀ failure w', (deploy i).eval w = (.error failure, w') → w' = w) ∧
    (∀ text w', (deploy i).eval w = (.ok (.rendered text), w') → w' = w) ∧
    ∀ output tests w', (deploy i).eval w = (.ok (.written output tests), w') →
      ∃ settings m content,
        (Settings.resolve i.config i.overrides).eval w = (.ok settings, w) ∧
        (Discovery.build settings.convention i.source).eval w = (.ok m, w) ∧
        output = settings.output ∧ tests = m.size ∧
        content = Utf8.encode (m.render settings.pretty) ∧ w'.read output = .ok content ∧
        ∃ place l, w.locate true output = .ok place ∧ place.file? = some l ∧
          w'.locate false output = .ok (.file l content) ∧ w.Rewritten w' l content ∧
          (∀ l', w'.tree.entry? l' = some .folder ↔ w.tree.entry? l' = some .folder) ∧
          ∀ l' target,
            w'.tree.entry? l' = some (.link target) ↔ w.tree.entry? l' = some (.link target) := by
  refine ⟨fun _ _ ↦ Deployment.eval_error, fun _ _ ↦ Deployment.eval_rendered,
    fun output tests w' h ↦ ?_⟩
  obtain ⟨settings, m, hr, hb, ho, ht, hw⟩ := Deployment.eval_written h
  obtain ⟨read, place, l, located, hl, back, rewritten⟩ := Workspace.write_spec hw
  exact ⟨settings, m, _, hr, hb, ho, ht, rfl, read, place, l, located, hl, back, rewritten,
    rewritten.folder_iff, rewritten.link_iff⟩

namespace Deployment

def sample : Workspace where
  tree :=
    { entries :=
        [([Discovery.src], .folder), ([Discovery.testSource, Discovery.src], .file []),
         ([⟨Utf8.encode "out", by decide⟩], .link (.ofString "made"))]
      nodup := by decide }

def request : Invocation := { source := "src", overrides := { output := some (.ofString "out") } }

theorem deploy_atomic_sample :
    (∃ failure w', (deploy { request with config := some (.ofString "gone") }).eval sample =
      (.error failure, w') ∧ w' = sample) ∧
    (∃ text w', (deploy { request with dryRun := true }).eval sample =
      (.ok (.rendered text), w') ∧ w' = sample) ∧
    ∃ w' l content, (deploy request).eval sample = (.ok (.written (.ofString "out") 1), w') ∧
      w'.read (.ofString "out") = .ok content ∧ sample.Rewritten w' l content := by
  have both {i : Invocation} {r : Except Failure Deployment} (h : ((deploy i).eval sample).1 = r) :
      (deploy i).eval sample = (r, ((deploy i).eval sample).2) := Prod.ext h rfl
  have failed : ((deploy { request with config := some (.ofString "gone") }).eval sample).1 =
      .error (.unreadableConfig (.ofString "gone") .notFound) := rfl
  obtain ⟨text, shown⟩ : ∃ text, ((deploy { request with dryRun := true }).eval sample).1 =
      .ok (.rendered text) := ⟨_, rfl⟩
  have written : ((deploy request).eval sample).1 = .ok (.written (.ofString "out") 1) := rfl
  refine ⟨⟨_, _, both failed, (deploy_atomic sample _).1 _ _ (both failed)⟩,
    ⟨_, _, both shown, (deploy_atomic sample _).2.1 _ _ (both shown)⟩, ?_⟩
  obtain ⟨settings, m, content, -, -, -, -, -, read, -, l, -, -, -, rewritten, -⟩ :=
    (deploy_atomic sample request).2.2 _ _ _ (both written)
  exact ⟨_, l, content, both written, read, rewritten⟩

end Deployment

end TestMatrix
