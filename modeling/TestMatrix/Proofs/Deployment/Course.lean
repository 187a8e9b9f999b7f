import TestMatrix.Deployment
import TestMatrix.Proofs.Discovery.Scanning
namespace TestMatrix

open Text

theorem Settings.load_within {L W : Path → Prop} (file : Path) :
    (Settings.load file).Within Notice.Later (file = ·) L W := by
  refine (Script.Within.read rfl fun _ ↦ .orFail _ _).bind fun content ↦ ?_
  split
  · exact .fail _
  · split
    · exact (Script.Within.tell nofun).bind fun _ ↦ .done _
    · exact .orFail _ _

theorem Settings.resolve_within {L W : Path → Prop} (config : Option Path) (o : Overrides) :
    (Settings.resolve config o).Within Notice.Later (config = some ·) L W := by
  unfold Settings.resolve
  extract_lets checked
  have within (base : Settings) : (checked base).Within Notice.Later (config = some ·) L W := by
    dsimp only [checked]
    split
    · exact .fail _
    · exact (Script.Within.tell nofun).bind fun _ ↦ .done _
  cases config with
  | none => exact (Script.Within.done {}).bind within
  | some file =>
    have loaded : (Settings.load file).Within Notice.Later (some file = some ·) L W := by
      simpa using load_within file
    exact (Script.Within.tell nofun).bind fun _ ↦ loaded.bind within

theorem Settings.resolve_eval_error {w : Workspace} {file : Path} {o : Overrides}
    {failure : Failure} (h : (Settings.load file).eval w = (.error failure, w)) :
    (Settings.resolve (some file) o).eval w = (.error failure, w) := by
  rw [resolve]
  exact Script.eval_tell_bind.trans (Script.eval_bind_error h)

theorem Manifest.save_within {R L W : Path → Prop} {output : Path} (h : W output) (m : Manifest)
    (pretty : Bool) : (m.save output pretty).Within Notice.Later R L W :=
  (Script.Within.tell nofun).bind fun _ ↦ .write _ h fun _ ↦ .orFail _ _

theorem deploy_within (i : Invocation) :
    (deploy i).Within Notice.Later (i.config = some ·) (fun _ ↦ True) fun _ ↦ True := by
  refine (Settings.resolve_within i.config i.overrides).bind fun settings ↦ ?_
  refine (Discovery.build_within settings.convention i.source).bind fun m ↦ ?_
  refine (Script.Within.tell nofun).bind fun _ ↦ ?_
  split
  · exact .done _
  · exact (m.save_within trivial settings.pretty).bind fun _ ↦ .done _

theorem Settings.load_reads (file : Path) : (Settings.load file).Reads :=
  (Settings.load_within (L := fun _ ↦ False) file).reads

theorem Settings.resolve_reads (config : Option Path) (o : Overrides) :
    (Settings.resolve config o).Reads :=
  (Settings.resolve_within (L := fun _ ↦ False) config o).reads

namespace Deployment

def Prepared (logger : Logger) (s : Session) (i : Invocation) (settings : Settings) (m : Manifest)
    (s' : Session) : Prop :=
  ∃ between, (Settings.resolve i.config i.overrides).run logger s = (.ok settings, between) ∧
    (Discovery.build settings.convention i.source).run logger between = (.ok m, s')

def writing (logger : Logger) (s : Session) (i : Invocation) (settings : Settings) (m : Manifest) :
    Session :=
  (s.report logger (.found m.size i.source)).report logger
    (.writing (Utf8.encode (m.render settings.pretty)).length settings.output)

variable {logger : Logger} {s : Session} {i : Invocation} {settings : Settings} {m : Manifest}

theorem save_run_ok {w : Workspace} (h : (writing logger s i settings m).workspace.write
      settings.output (Utf8.encode (m.render settings.pretty)) = .ok w) :
    (m.save settings.output settings.pretty).run logger (s.report logger (.found m.size i.source)) =
      (.ok (), { writing logger s i settings m with workspace := w }) := by
  rw [writing] at h
  simp only [Manifest.save, Script.run_tell_bind, Script.run, h]
  rfl

theorem save_run_error {e : SystemError} (h : (writing logger s i settings m).workspace.write
      settings.output (Utf8.encode (m.render settings.pretty)) = .error e) :
    (m.save settings.output settings.pretty).run logger (s.report logger (.found m.size i.source)) =
      (.error (.fileOperation "write" settings.output (.system e)),
        writing logger s i settings m) := by
  rw [writing] at h
  simp only [Manifest.save, Script.run_tell_bind, Script.run, h]
  rfl

/-- The ways a deployment can go, each with its result and the session it leaves. -/
inductive Course (logger : Logger) (s : Session) (i : Invocation) :
    Except Failure Deployment → Session → Prop
  | unsettled {failure : Failure} {s' : Session} :
      (Settings.resolve i.config i.overrides).run logger s = (.error failure, s') →
      Course logger s i (.error failure) s'
  | unlisted {settings : Settings} {between : Session} {failure : Failure} {s' : Session} :
      (Settings.resolve i.config i.overrides).run logger s = (.ok settings, between) →
      (Discovery.build settings.convention i.source).run logger between = (.error failure, s') →
      Course logger s i (.error failure) s'
  | shown {settings : Settings} {m : Manifest} {s' : Session} :
      Prepared logger s i settings m s' → i.dryRun = true →
      Course logger s i (.ok (.rendered (m.render settings.pretty)))
        (s'.report logger (.found m.size i.source))
  | unwritten {settings : Settings} {m : Manifest} {s' : Session} {e : SystemError} :
      Prepared logger s i settings m s' → i.dryRun = false →
      (writing logger s' i settings m).workspace.write settings.output
        (Utf8.encode (m.render settings.pretty)) = .error e →
      Course logger s i (.error (.fileOperation "write" settings.output (.system e)))
        (writing logger s' i settings m)
  | written {settings : Settings} {m : Manifest} {s' : Session} {w : Workspace} :
      Prepared logger s i settings m s' → i.dryRun = false →
      (writing logger s' i settings m).workspace.write settings.output
        (Utf8.encode (m.render settings.pretty)) = .ok w →
      Course logger s i (.ok (.written settings.output m.size))
        { writing logger s' i settings m with workspace := w }

theorem deploy_course (logger : Logger) (s : Session) (i : Invocation) :
    Course logger s i ((deploy i).run logger s).1 ((deploy i).run logger s).2 := by
  rcases hr : (Settings.resolve i.config i.overrides).run logger s with
    ⟨failure | settings, between⟩
  · rw [deploy, Script.run_bind_error hr]
    exact .unsettled hr
  rcases hb : (Discovery.build settings.convention i.source).run logger between with
    ⟨failure | m, s'⟩
  · rw [deploy, Script.run_bind_ok hr, Script.run_bind_error hb]
    exact .unlisted hr hb
  have prepared : Prepared logger s i settings m s' := ⟨between, hr, hb⟩
  rw [deploy, Script.run_bind_ok hr, Script.run_bind_ok hb]
  cases hd : i.dryRun with
  | true => exact .shown prepared hd
  | false =>
    rw [Script.run_tell_bind, if_neg Bool.false_ne_true]
    cases hw : (writing logger s' i settings m).workspace.write settings.output
      (Utf8.encode (m.render settings.pretty)) with
    | error e =>
      rw [Script.run_bind_error (save_run_error hw)]
      exact .unwritten prepared hd hw
    | ok w =>
      rw [Script.run_bind_ok (save_run_ok hw)]
      exact .written prepared hd hw

theorem course_of_run {result : Except Failure Deployment} {left : Session}
    (h : (deploy i).run logger s = (result, left)) : Course logger s i result left := by
  have course := deploy_course logger s i
  rw [h] at course
  exact course

theorem prepared_of_rendered {text : String}
    (h : ((deploy i).run logger s).1 = .ok (.rendered text)) :
    ∃ settings m s', Prepared logger s i settings m s' ∧ i.dryRun = true ∧
      text = m.render settings.pretty := by
  have course := deploy_course logger s i
  rw [h] at course
  generalize ((deploy i).run logger s).2 = left at course
  cases course with
  | shown prepared hd => exact ⟨_, _, _, prepared, hd, rfl⟩

section Silent

variable {w : Workspace} {failure : Failure}

theorem eval_unsettled
    (h : (Settings.resolve i.config i.overrides).eval w = (.error failure, w)) :
    (deploy i).eval w = (.error failure, w) := Script.eval_bind_error h

theorem eval_unlisted (hr : (Settings.resolve i.config i.overrides).eval w = (.ok settings, w))
    (hb : (Discovery.build settings.convention i.source).eval w = (.error failure, w)) :
    (deploy i).eval w = (.error failure, w) := by
  rw [deploy, Script.eval_bind_ok hr, Script.eval_bind_error hb]

/-- Once the manifest is made, showing it cannot fail, and writing it fails only as the system
does. -/
theorem eval_prepared (hr : (Settings.resolve i.config i.overrides).eval w = (.ok settings, w))
    (hb : (Discovery.build settings.convention i.source).eval w = (.ok m, w)) :
    (deploy i).eval w =
      if i.dryRun then (.ok (.rendered (m.render settings.pretty)), w)
      else
        match w.write settings.output (Utf8.encode (m.render settings.pretty)) with
        | .ok w' => (.ok (.written settings.output m.size), w')
        | .error e => (.error (.fileOperation "write" settings.output (.system e)), w) := by
  rw [deploy, Script.eval_bind_ok hr, Script.eval_bind_ok hb, Script.eval_tell_bind]
  cases i.dryRun with
  | true => rfl
  | false =>
    simp only [Bool.false_eq_true, if_false]
    cases hw : w.write settings.output (Utf8.encode (m.render settings.pretty)) with
    | ok w' =>
      have saved : (m.save settings.output settings.pretty).eval w = (.ok (), w') := by
        rw [Manifest.save, Script.eval_tell_bind, Script.eval, Script.run]
        simp only [hw]
        rfl
      exact Script.eval_bind_ok saved
    | error e =>
      have refused : (m.save settings.output settings.pretty).eval w =
          (.error (.fileOperation "write" settings.output (.system e)), w) := by
        rw [Manifest.save, Script.eval_tell_bind, Script.eval, Script.run]
        simp only [hw]
        rfl
      exact Script.eval_bind_error refused

theorem eval_stages (w : Workspace) (i : Invocation) :
    (∃ failure, (Settings.resolve i.config i.overrides).eval w = (.error failure, w)) ∨
    ∃ settings, (Settings.resolve i.config i.overrides).eval w = (.ok settings, w) ∧
      ((∃ failure, (Discovery.build settings.convention i.source).eval w = (.error failure, w)) ∨
        ∃ m, (Discovery.build settings.convention i.source).eval w = (.ok m, w)) := by
  have resolved := (Settings.resolve_reads i.config i.overrides).eval_eq (w := w)
  cases hr : ((Settings.resolve i.config i.overrides).eval w).1 with
  | error failure => exact .inl ⟨failure, by rw [resolved, hr]⟩
  | ok settings =>
    have built := (Discovery.build_reads settings.convention i.source).eval_eq (w := w)
    refine .inr ⟨settings, by rw [resolved, hr], ?_⟩
    cases hb : ((Discovery.build settings.convention i.source).eval w).1 with
    | error failure => exact .inl ⟨failure, by rw [built, hb]⟩
    | ok m => exact .inr ⟨m, by rw [built, hb]⟩

end Silent

end Deployment

end TestMatrix
