import TestMatrix.Proofs.Arguments.Values
import TestMatrix.Proofs.Deployment.Course
import TestMatrix.Proofs.Program.SettingUp
namespace TestMatrix.Program

open Text

variable {clock : Nat → String} {w w' : Workspace} {arguments : List Bytes} {i : Invocation}
  {console : Console} {l : Logger} {s : Session} {made : Deployment}

theorem written_of_script (h : (script i).run l { workspace := w } = (.ok made, s))
    (wet : i.dryRun = false) : ∃ settings m before after,
      Deployment.Prepared l (started l w i) i settings m before ∧
      (Deployment.writing l before i settings m).workspace.write settings.output
        (Utf8.encode (m.render settings.pretty)) = .ok after ∧
      s = Session.report l { Deployment.writing l before i settings m with workspace := after }
        (.wrote m.size settings.output) := by
  rw [script, Script.run_tell_bind] at h
  rcases hd : (deploy i).run l (started l w i) with ⟨failure | result, left⟩
  · have failed := h.symm.trans (Script.run_bind_error hd)
    cases failed
  · have course := Deployment.course_of_run hd
    have ended := h.symm.trans (Script.run_bind_ok hd)
    cases course with
    | shown _ dry => exact absurd (wet.symm.trans dry) Bool.false_ne_true
    | written prepared _ hw =>
      cases ended
      exact ⟨_, _, _, _, prepared, hw, rfl⟩

theorem saved_of_run (asked : Arguments.parse arguments = .ok (.run i)) (wet : i.dryRun = false)
    (done : (run clock w arguments console).status = 0) :
    ∃ l w' settings m before after made, setUp clock w i = .ok (l, w') ∧
      Deployment.Prepared l (started l w' i) i settings m before ∧
      (Deployment.writing l before i settings m).workspace.write settings.output
        (Utf8.encode (m.render settings.pretty)) = .ok after ∧
      (script i).run l { workspace := w' } = (.ok made,
        Session.report l { Deployment.writing l before i settings m with workspace := after }
          (.wrote m.size settings.output)) ∧
      (run clock w arguments console).workspace =
        (Session.report l { Deployment.writing l before i settings m with workspace := after }
          (.wrote m.size settings.output)).workspace := by
  simp only [run, asked] at done ⊢
  rw [invoke_eq] at done ⊢
  cases hs : setUp clock w i with
  | error e =>
    rw [hs] at done
    cases done
  | ok ready =>
    obtain ⟨l, w'⟩ := ready
    rw [hs] at done
    simp only [runLogged] at done ⊢
    rcases hr : (script i).run l { workspace := w' } with ⟨failure | made, s⟩
    · rw [hr] at done
      cases done
    · obtain ⟨settings, m, before, after, prepared, hw, rfl⟩ := written_of_script hr wet
      exact ⟨l, w', settings, m, before, after, made, rfl, prepared, hw, hr, rfl⟩

/-- When a run that writes has ended, the output holds the manifest and nothing else, unless the log
goes to the very same file and the last notice is let through: that one then stands after it. -/
theorem artifact_of_saved (asked : Arguments.parse arguments = .ok (.run i))
    (wet : i.dryRun = false) (done : (run clock w arguments console).status = 0) :
    ∃ l w' settings m before, setUp clock w i = .ok (l, w') ∧
      Deployment.Prepared l (started l w' i) i settings m before ∧
      (¬(SharesLog (run clock w arguments console).workspace i settings.output ∧
          i.verbosity.admits .info) →
        (run clock w arguments console).workspace.read settings.output =
          .ok (Utf8.encode (m.render settings.pretty))) ∧
      (SharesLog (run clock w arguments console).workspace i settings.output ∧
          i.verbosity.admits .info →
        ∃ time, (run clock w arguments console).workspace.read settings.output =
          .ok (Utf8.encode (m.render settings.pretty) ++
            Utf8.encode ((Notice.wrote m.size settings.output).logLine time ++ "\n"))) := by
  obtain ⟨l, w', settings, m, before, after, made, ready, prepared, hw, ran, left⟩ :=
    saved_of_run asked wet done
  obtain ⟨-, -, target, -, -, written, -⟩ := Workspace.write_spec hw
  obtain ⟨apart, mixed⟩ := read_saved ready ran written
  have told : l.shows (.wrote m.size settings.output) = i.verbosity.admits .info := by
    rw [Logger.shows, threshold_of_setUp ready]
    rfl
  rw [← left, told] at apart mixed
  exact ⟨l, w', settings, m, before, ready, prepared, apart, fun h ↦ ⟨_, mixed h⟩⟩

def single : Workspace where
  tree :=
    { entries :=
        [([⟨Utf8.encode "t", by decide⟩], .folder),
         ([Discovery.testSource, ⟨Utf8.encode "t", by decide⟩], .file [])]
      nodup := by decide }

def log : Location := [⟨Utf8.encode "o", by decide⟩]

def mixing (verbosity : Level) : Invocation where
  source := "t"
  overrides := { output := some (.ofString "o") }
  verbosity
  logFile := some "o"

theorem artifact_of_saved_mixing :
    Arguments.parse (["x", "-st", "-oo", "-lo"].map Utf8.encode) = .ok (.run (mixing .warning)) ∧
      ∃ (settings : Settings) (m : Manifest),
        (run (fun _ ↦ "") single (["x", "-st", "-oo", "-lo"].map Utf8.encode)).workspace.read
          settings.output = .ok (Utf8.encode (m.render settings.pretty)) := by
  have asked : Arguments.parse (["x", "-st", "-oo", "-lo"].map Utf8.encode) =
      .ok (.run (mixing .warning)) := by rfl
  have done : (run (fun _ ↦ "") single (["x", "-st", "-oo", "-lo"].map Utf8.encode)).status =
      0 := by
    rw [run, asked]
    rfl
  obtain ⟨-, -, settings, m, -, -, -, apart, -⟩ := artifact_of_saved asked rfl done
  exact ⟨asked, settings, m, apart fun h ↦ Bool.false_ne_true h.2⟩

/-- A log that shares the file of the output leaves its last line there. -/
theorem artifact_mixed : ¬∀ (clock : Nat → String) (w : Workspace) (arguments : List Bytes)
    (i : Invocation) (l : Logger) (w' : Workspace) (settings : Settings) (m : Manifest)
    (before : Session), Arguments.parse arguments = .ok (.run i) → i.dryRun = false →
      (run clock w arguments).status = 0 → setUp clock w i = .ok (l, w') →
      Deployment.Prepared l (started l w' i) i settings m before →
        (run clock w arguments).workspace.read settings.output =
          .ok (Utf8.encode (m.render settings.pretty)) := by
  intro artifact
  have asked : Arguments.parse (["x", "-st", "-oo", "-lo", "-v"].map Utf8.encode) =
      .ok (.run (mixing .info)) := by rfl
  have ready : setUp (fun _ ↦ "") single (mixing .info) =
      .ok ({ threshold := some .info, copy := some log }, single.put log []) := by rfl
  obtain ⟨before, prepared⟩ : ∃ before, Deployment.Prepared
      { threshold := some .info, copy := some log }
      (started { threshold := some .info, copy := some log } (single.put log []) (mixing .info))
      (mixing .info) { output := .ofString "o" }
      ⟨[⟨"a_test", "a_unit_test", "./t/a_unit_test"⟩]⟩ before := ⟨_, _, by rfl, by rfl⟩
  have done : (run (fun _ ↦ "") single (["x", "-st", "-oo", "-lo", "-v"].map
      Utf8.encode)).status = 0 := by
    rw [run, asked]
    rfl
  have alone := artifact _ _ _ _ _ _ _ _ _ asked rfl done ready prepared
  have mixed : (run (fun _ ↦ "") single (["x", "-st", "-oo", "-lo", "-v"].map
      Utf8.encode)).workspace.read (.ofString "o") = .ok (Utf8.encode
        (Manifest.render ⟨[⟨"a_test", "a_unit_test", "./t/a_unit_test"⟩]⟩ false) ++
          Utf8.encode ((Notice.wrote 1 (.ofString "o")).logLine "" ++ "\n")) := by
    rw [run, asked]
    rfl
  have line := List.self_eq_append_right.1 (Except.ok.inj (alone.symm.trans mixed))
  exact absurd line (by decide)

end TestMatrix.Program
