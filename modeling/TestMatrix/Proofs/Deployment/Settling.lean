import TestMatrix.Proofs.Deployment.Atomicity
import TestMatrix.Proofs.FileTree.Refilling
namespace TestMatrix

open Text

variable {w w₁ : Workspace} {l : Location} {config : Option Path} {o : Overrides}
  {settings : Settings} {c : Convention} {source : String} {m : Manifest} {i : Invocation}

theorem Settings.exists_read {file : Path}
    (h : ((Settings.resolve (some file) o).eval w).1 = .ok settings) :
    ∃ content, w.read file = .ok content := by
  cases hr : w.read file with
  | ok content => exact ⟨content, rfl⟩
  | error e =>
    have unread : (Settings.load file).eval w = (.error (.unreadableConfig file e), w) := by
      rw [Settings.load, Script.eval_read_bind, hr]
    rw [Settings.resolve_eval_error unread] at h
    cases h

theorem Settings.resolve_put (ht : w.tree.Writable l)
    (apart : ∀ file, config = some file → ¬w.Names file l)
    (h : ((Settings.resolve config o).eval w).1 = .ok settings) (content : Bytes) :
    ((Settings.resolve config o).eval (w.put l content)).1 = .ok settings := by
  have same : ∀ file, config = some file → (w.put l content).read file = w.read file := by
    intro file hf
    subst hf
    obtain ⟨old, read⟩ := Settings.exists_read h
    obtain ⟨l', located⟩ := Workspace.read_eq_ok_iff.1 read
    have other : l' ≠ l := fun e ↦ apart file rfl (e ▸ Workspace.names_of_locate located)
    have still := Workspace.locate_put ht located content
    rw [if_neg other] at still
    rw [read]
    exact Workspace.read_eq_ok_iff.2 ⟨l', still⟩
  rw [← h]
  exact (Settings.resolve_within (L := fun _ ↦ False) config o).eval_congr same nofun nofun

namespace Discovery

theorem exists_list (h : (build c source).eval w = (.ok m, w)) :
    ∃ names, w.list (folderOf source) = .ok names := by
  cases hl : w.list (folderOf source) with
  | ok names => exact ⟨names, rfl⟩
  | error e =>
    rw [build_eval_error (scan_eval_error hl)] at h
    cases h

/-- After a file has been written, the folder can be listed as before. If the file is a new one, the
folder may hold one test source more. -/
theorem build_put (ht : w.tree.Writable l) (h : (build c source).eval w = (.ok m, w))
    (content : Bytes) :
    ∃ m', (build c source).eval (w.put l content) = (.ok m', w.put l content) ∧
      ∀ old, w.tree.entry? l = some (.file old) → m' = m := by
  obtain ⟨names, listed⟩ := exists_list h
  obtain ⟨folder, located, -⟩ := Workspace.list_eq_ok_iff.1 listed
  have shape : w.tree.SameShape (w.put l content).tree := .insert ht
  obtain ⟨place, located', -, same⟩ := Workspace.locate_sameShape shape rfl located
  cases same rfl
  have listed' := Workspace.list_eq_ok_iff.2 ⟨folder, located', rfl⟩
  have built := build_eval_ok (c := c) (scan_eval_ok listed')
  refine ⟨_, built, fun old here ↦ ?_⟩
  have again : ((build c source).eval (w.put l content)).1 = ((build c source).eval w).1 :=
    (build_within (R := fun _ ↦ False) c source).eval_congr nofun
      (fun p _ ↦ Workspace.list_refill here content p)
      (fun p _ ↦ Workspace.isFile_refill here content p)
  rw [built, h] at again
  exact Except.ok.inj again

end Discovery

namespace Deployment

/-- A deployment can be done once more after it has written its output. It finds the same if the
output was a file before. -/
theorem deploy_again {output : Path} {tests : Nat} (wet : i.dryRun = false)
    (apart : ∀ file, i.config = some file → ¬w.SameFile output file)
    (done : (deploy i).eval w = (.ok (.written output tests), w₁)) :
    (∀ file, i.config = some file → ¬w₁.SameFile output file) ∧ w₁.isFile output ∧
    ∃ tests' w₂, (deploy i).eval w₁ = (.ok (.written output tests'), w₂) ∧
      (w.isFile output → tests' = tests ∧ w₂ = w₁) := by
  obtain ⟨settings, m, resolved, built, rfl, rfl, hw⟩ := eval_written done
  obtain ⟨-, _, l', -, -, back, -⟩ := Workspace.write_spec hw
  obtain ⟨place, l, located, hl, rfl⟩ := Workspace.write_eq_ok_iff.1 hw
  have ht := Workspace.writable_of_locate located hl
  have names : w.Names settings.output l := ⟨place, located, hl⟩
  generalize hc : Utf8.encode (m.render settings.pretty) = content at *
  have kept (p : Path) (target : Location) : (w.put l content).Names p target ↔ w.Names p target :=
    Workspace.names_put_iff ht content
  have resolved' : (Settings.resolve i.config i.overrides).eval (w.put l content) =
      (.ok settings, w.put l content) := by
    have settled := Settings.resolve_put ht (fun file hf reads ↦ apart file hf ⟨l, names, reads⟩)
      (congrArg Prod.fst resolved) content
    rw [(Settings.resolve_reads _ _).eval_eq, settled]
  obtain ⟨m', built', same⟩ := Discovery.build_put ht built content
  obtain ⟨place', located', hl'⟩ := (kept _ _).2 names
  have written := Workspace.write_eq_ok_iff.2 ⟨place', l, located', hl',
    (rfl : _ = (w.put l content).put l (Utf8.encode (m'.render settings.pretty)))⟩
  have again := eval_prepared resolved' built'
  simp only [wet, Bool.false_eq_true, if_false, written] at again
  refine ⟨fun file hf shared ↦ ?_, Workspace.isFile_iff.2 ⟨_, _, back⟩, _, _, again, fun file ↦ ?_⟩
  · obtain ⟨target, ho, hr⟩ := shared
    exact apart file hf ⟨target, (kept _ _).1 ho, (kept _ _).1 hr⟩
  · obtain ⟨_, old, found⟩ := Workspace.isFile_iff.1 file
    cases (Workspace.names_of_locate found).unique names
    have here := Workspace.entry_of_locate found
    cases same old here
    rw [hc, Workspace.put_put here]
    exact ⟨rfl, rfl⟩

/-- Deploying again changes nothing once the output is a file: the second run leaves all as it is if
the output was one before the first, and else the third does, even where the first run has made a
test source of its output. -/
theorem deploy_settles {made : Deployment} (wet : i.dryRun = false)
    (resolved : ((Settings.resolve i.config i.overrides).eval w).1 = .ok settings)
    (apart : ∀ file, i.config = some file → ¬w.SameFile settings.output file)
    (done : (deploy i).eval w = (.ok made, w₁)) :
    (w.isFile settings.output = true → (deploy i).eval w₁ = (.ok made, w₁)) ∧
    (w.isFile settings.output = false → ∃ made' w₂,
      (deploy i).eval w₁ = (.ok made', w₂) ∧ (deploy i).eval w₂ = (.ok made', w₂)) := by
  obtain ⟨tests, rfl⟩ : ∃ tests, made = .written settings.output tests := by
    cases made with
    | written output tests =>
      obtain ⟨settings', _, resolved', -, rfl, -⟩ := eval_written done
      rw [resolved'] at resolved
      cases resolved
      exact ⟨tests, rfl⟩
    | rendered text =>
      have course := course_of_eval done
      generalize ({ workspace := w₁ } : Session) = left at course
      cases course with
      | shown _ dry => exact absurd (wet.symm.trans dry) Bool.false_ne_true
  obtain ⟨apart', file, tests', w₂, again, same⟩ := deploy_again wet apart done
  refine ⟨fun before ↦ ?_, fun _ ↦ ?_⟩
  · obtain ⟨rfl, rfl⟩ := same before
    exact again
  · obtain ⟨-, -, _, _, third, same'⟩ := deploy_again wet apart' again
    obtain ⟨rfl, rfl⟩ := same' file
    exact ⟨_, _, again, third⟩

/-- Settings that put the manifest among the test sources, under the name of one. -/
def growing : Workspace where
  tree :=
    { entries :=
        [([Discovery.src], .folder), ([Discovery.testSource, Discovery.src], .file []),
         ([⟨Utf8.encode "c", by decide⟩], .file (Utf8.encode "output: src/b_test.c"))]
      nodup := by decide }

def grow : Invocation := { source := "src", config := some (.ofString "c") }

theorem growing_apart (file : Path) (hf : grow.config = some file) :
    ¬growing.SameFile (.ofString "src/b_test.c") file := by
  cases hf
  intro same
  obtain ⟨l, output, settings⟩ := same
  have output' : growing.Names (.ofString "src/b_test.c")
    [⟨Utf8.encode "b_test.c", by decide⟩, Discovery.src] := ⟨_, rfl, rfl⟩
  have settings' : growing.Names (.ofString "c") [⟨Utf8.encode "c", by decide⟩] := ⟨_, rfl, rfl⟩
  have e := (output'.unique output).trans (settings.unique settings')
  revert e
  decide

theorem deploy_settles_growing : ∃ w₁ w₂,
    (deploy grow).eval growing = (.ok (.written (.ofString "src/b_test.c") 1), w₁) ∧
    growing.isFile (.ofString "src/b_test.c") = false ∧
    (deploy grow).eval w₁ = (.ok (.written (.ofString "src/b_test.c") 2), w₂) ∧
    w₁.isFile (.ofString "src/b_test.c") = true ∧
    (deploy grow).eval w₂ = (.ok (.written (.ofString "src/b_test.c") 2), w₂) := by
  have settled : ((Settings.resolve grow.config grow.overrides).eval growing).1 =
      .ok { output := .ofString "src/b_test.c" } := ok_of_toOption (by decide +kernel)
  have first : ((deploy grow).eval growing).1 = .ok (.written (.ofString "src/b_test.c") 1) :=
    ok_of_toOption (by decide +kernel)
  have second : ((deploy grow).eval ((deploy grow).eval growing).2).1 =
      .ok (.written (.ofString "src/b_test.c") 2) := ok_of_toOption (by decide +kernel)
  have before : growing.isFile (.ofString "src/b_test.c") = false := rfl
  have after : ((deploy grow).eval growing).2.isFile (.ofString "src/b_test.c") = true := by
    decide +kernel
  have done := Script.eval_of_fst first
  generalize ((deploy grow).eval growing).2 = w₁ at *
  have wet : grow.dryRun = false := rfl
  obtain ⟨made, w₂, again, third⟩ := (deploy_settles wet settled growing_apart done).2 before
  rw [again] at second
  cases second
  exact ⟨w₁, w₂, done, before, again, after, third⟩

end Deployment

end TestMatrix
