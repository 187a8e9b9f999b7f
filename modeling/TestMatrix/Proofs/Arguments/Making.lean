import TestMatrix.Proofs.Arguments.Choices
import TestMatrix.Proofs.Arguments.Spelling
namespace TestMatrix.Arguments

open Text

variable {o : Occurrence} {os : List Occurrence} {made : List Choice} {c : Choice} {p : Parameter}
  {value : Bytes}

def given (os : List Occurrence) : List Parameter := os.map Occurrence.parameter

/-- A value that its parameter takes: a path of at least one byte, the name of a level, or text. -/
def Occurrence.Acceptable : Occurrence → Prop
  | valued .output _ value | valued .config _ value => value ≠ []
  | valued .logLevel _ value => ∃ s l, value = Utf8.encode s ∧ Level.ofWord? s = some l
  | valued _ _ value => ∃ s, value = Utf8.encode s
  | _ => True

namespace Occurrence

theorem acceptable_iff : o.Acceptable ↔ ∃ c, o.choice = .ok c := by
  cases o with
  | dryRun | pretty | verbose => exact iff_of_true trivial ⟨_, rfl⟩
  | valued p takes value =>
    cases p with
    | source | extension | testMarker | targetMarker | logFile =>
      have text : (∃ s, value = Utf8.encode s) ↔ ∃ s, Parameter.text value = .ok s := by
        simp only [Parameter.text_eq_ok_iff]
      exact text.trans exists_map_eq_ok_iff.symm
    | output | config =>
      have file (p : Parameter) : value ≠ [] ↔ ∃ path, p.file value = .ok path := by
        simp only [Parameter.file_eq_ok_iff, exists_and_left, exists_eq, and_true]
      exact (file _).trans exists_map_eq_ok_iff.symm
    | logLevel =>
      have level : (∃ s l, value = Utf8.encode s ∧ Level.ofWord? s = some l) ↔
          ∃ l, Parameter.level value = .ok l := by
        simp only [Parameter.level_eq_ok_iff]
        exact exists_comm
      exact level.trans exists_map_eq_ok_iff.symm
    | dryRun | pretty | verbose | help | version => cases takes

theorem choice_parameter (h : o.choice = .ok c) : c.parameter = o.parameter := by
  cases o with
  | dryRun | pretty | verbose => cases h; rfl
  | valued p takes value => exact (Parameter.choose_spec h).1

end Occurrence

def Makes (os : List Occurrence) (made : List Choice) : Prop :=
  os.map Occurrence.choice = made.map .ok

theorem Makes.parameters (h : Makes os made) : made.map Choice.parameter = given os := by
  induction os generalizing made with
  | nil =>
    rw [List.map_eq_nil_iff.1 h.symm]
    rfl
  | cons o os ih =>
    obtain ⟨c, rest, rfl, first, rest⟩ := List.map_eq_cons_iff.1 h.symm
    rw [List.map_cons, ih rest.symm, o.choice_parameter first.symm]
    rfl

theorem Makes.mem_iff (h : Makes os made) : c ∈ made ↔ ∃ o ∈ os, o.choice = .ok c := by
  have mem : (.ok c : Except Fault Choice) ∈ made.map .ok ↔ c ∈ made := by simp
  rw [← mem, ← h, List.mem_map]

theorem Makes.exists_choice (h : Makes os made) (ho : o ∈ os) : ∃ c ∈ made, o.choice = .ok c := by
  have mem : o.choice ∈ made.map .ok := h ▸ List.mem_map_of_mem ho
  obtain ⟨c, hc, same⟩ := List.mem_map.1 mem
  exact ⟨c, hc, same.symm⟩

theorem exists_makes_iff : (∃ made, Makes os made) ↔ ∀ o ∈ os, o.Acceptable := by
  simp only [Occurrence.acceptable_iff]
  constructor
  · intro h o ho
    obtain ⟨made, h⟩ := h
    obtain ⟨c, -, hc⟩ := h.exists_choice ho
    exact ⟨c, hc⟩
  · intro h
    induction os with
    | nil => exact ⟨[], rfl⟩
    | cons o os ih =>
      obtain ⟨c, hc⟩ := h o List.mem_cons_self
      obtain ⟨made, hm⟩ := ih fun other ho ↦ h other (List.mem_cons_of_mem o ho)
      exact ⟨c :: made, by rw [Makes, List.map_cons, List.map_cons, hc, hm]⟩

theorem add_eq_ok_iff {s t : Parsing} : s.add o.parameter o.choice = .ok t ↔
    (o.parameter ≠ .verbose → o.parameter ∉ s.choices.map Choice.parameter) ∧
      ∃ c, o.choice = .ok c ∧ t = { s with choices := s.choices ++ [c] } := by
  have stands : s.choices.any (·.parameter = o.parameter) = true ↔
      o.parameter ∈ s.choices.map Choice.parameter := by simp
  rw [← not_and, ← stands]
  unfold Parsing.add
  split
  · next twice => exact iff_of_false (by simp) fun h ↦ h.1 twice
  · next once =>
    cases o.choice with
    | error f => simp
    | ok c =>
      constructor
      · intro h
        cases h
        exact ⟨once, c, rfl, rfl⟩
      · intro h
        obtain ⟨-, d, hd, rfl⟩ := h
        cases hd
        rfl

theorem single_concat_iff {ps : List Parameter} :
    Single (ps ++ [p]) ↔ Single ps ∧ (p ≠ .verbose → p ∉ ps) := by
  constructor
  · intro h
    refine ⟨h.sublist (List.sublist_append_left _ _), fun hp stands ↦ ?_⟩
    have count := h p hp
    have before := List.count_pos_iff.2 stands
    rw [List.count_append, List.count_singleton_self] at count
    omega
  · intro h q hq
    obtain ⟨single, once⟩ := h
    rw [List.count_append, List.count_singleton]
    split
    · next same =>
      obtain rfl := eq_of_beq same
      have unused := List.count_eq_zero.2 (once hq)
      omega
    · exact single q hq

theorem foldlM_add_eq_ok_iff {s t : Parsing} (single : Single (s.choices.map Choice.parameter)) :
    os.foldlM (fun t o ↦ t.add o.parameter o.choice) s = .ok t ↔
      ∃ made, Makes os made ∧ Single (s.choices.map Choice.parameter ++ given os) ∧
        t = { s with choices := s.choices ++ made } := by
  induction os generalizing s with
  | nil =>
    constructor
    · intro h
      cases h
      exact ⟨[], rfl, by simpa [given] using single, by rw [List.append_nil]⟩
    · intro h
      obtain ⟨made, hm, -, rfl⟩ := h
      rw [List.map_eq_nil_iff.1 hm.symm, List.append_nil]
      rfl
  | cons o os ih =>
    have whole : s.choices.map Choice.parameter ++ given (o :: os) =
        s.choices.map Choice.parameter ++ [o.parameter] ++ given os := by simp [given]
    have after {c : Choice} (hc : o.choice = .ok c) : (s.choices ++ [c]).map Choice.parameter =
        s.choices.map Choice.parameter ++ [o.parameter] := by
      rw [List.map_append, List.map_singleton, o.choice_parameter hc]
    rw [List.foldlM_cons, whole]
    constructor
    · intro h
      obtain ⟨s', hs, h⟩ := ok_of_bind h
      obtain ⟨once, c, hc, rfl⟩ := add_eq_ok_iff.1 hs
      have single : Single ((s.choices ++ [c]).map Choice.parameter) := by
        rw [after hc]
        exact single_concat_iff.2 ⟨single, once⟩
      obtain ⟨made, hm, all, rfl⟩ := (ih single).1 h
      rw [after hc] at all
      refine ⟨c :: made, ?_, all, by simp⟩
      rw [Makes, List.map_cons, List.map_cons, hc, hm]
    · intro h
      obtain ⟨made, hm, all, rfl⟩ := h
      obtain ⟨c, rest, rfl, first, hr⟩ := List.map_eq_cons_iff.1 hm.symm
      have front := all.sublist (List.sublist_append_left _ _)
      have added := add_eq_ok_iff.2 ⟨(single_concat_iff.1 front).2, c, first.symm, rfl⟩
      rw [← after first.symm] at front all
      rw [added]
      exact (ih front).2 ⟨rest, hr.symm, all, by simp⟩

theorem fault_of_add {s : Parsing} {c : Except Fault Choice} {stop : Stop}
    (h : s.add p c = .error stop) : ∃ fault, stop = .fault fault := by
  unfold Parsing.add at h
  split at h
  · cases h
    exact ⟨_, rfl⟩
  split at h <;> cases h
  exact ⟨_, rfl⟩

theorem fault_of_foldlM {s : Parsing} {stop : Stop}
    (h : os.foldlM (fun t o ↦ t.add o.parameter o.choice) s = .error stop) :
    ∃ fault, stop = .fault fault := by
  induction os generalizing s with
  | nil => cases h
  | cons o os ih =>
    rw [List.foldlM_cons] at h
    cases ha : s.add o.parameter o.choice with
    | error stop' =>
      rw [ha] at h
      cases h
      exact fault_of_add ha
    | ok s' =>
      rw [ha] at h
      exact ih h

section Spelled

variable {words : List Bytes}

theorem choices_eq_ok_iff (h : Spelled os words) :
    choices words = .ok made ↔ Makes os made ∧ Single (given os) := by
  have start : Single (({} : Parsing).choices.map Choice.parameter) := by simp [Single]
  rw [choices_of_spelled h]
  constructor
  · intro read
    obtain ⟨t, ht, rfl⟩ := ok_of_map read
    obtain ⟨made, hm, single, rfl⟩ := (foldlM_add_eq_ok_iff start).1 ht
    exact ⟨hm, single⟩
  · intro given
    obtain ⟨hm, single⟩ := given
    rw [(foldlM_add_eq_ok_iff start).2 ⟨made, hm, single, rfl⟩]
    rfl

theorem fault_of_choices (h : Spelled os words) {stop : Stop} (read : choices words = .error stop) :
    ∃ fault, stop = .fault fault := by
  rw [choices_of_spelled h] at read
  cases hf : os.foldlM (fun t o ↦ t.add o.parameter o.choice) ({} : Parsing) with
  | error stop' =>
    rw [hf] at read
    cases read
    exact fault_of_foldlM hf
  | ok t =>
    rw [hf] at read
    cases read

end Spelled

theorem Occurrence.eq_valued (h : o.parameter = p) (takes : p.takesValue) :
    ∃ value, o = .valued p takes value := by
  cases o with
  | dryRun | pretty | verbose => subst h; cases takes
  | valued q takes' value =>
    subst h
    exact ⟨value, rfl⟩

theorem Makes.valued_iff (h : Makes os made) (takes : p.takesValue) (other : p ≠ .logLevel) :
    (∃ c ∈ made, c.parameter = p ∧ c.value? = some value) ↔ .valued p takes value ∈ os := by
  constructor
  · intro chosen
    obtain ⟨c, hc, hp, hv⟩ := chosen
    obtain ⟨o, ho, made⟩ := h.mem_iff.1 hc
    obtain ⟨v, rfl⟩ := Occurrence.eq_valued ((o.choice_parameter made).symm.trans hp) takes
    have kept := (Parameter.choose_spec made).2.1 other
    rw [hv, Option.some.injEq] at kept
    rw [kept]
    exact ho
  · intro ho
    obtain ⟨c, hc, made⟩ := h.exists_choice ho
    obtain ⟨hp, hv, -⟩ := Parameter.choose_spec made
    exact ⟨c, hc, hp, hv other⟩

theorem Occurrence.eq_of_flag {flag : Occurrence} (bare : flag.parameter.takesValue = false)
    (h : o.parameter = flag.parameter) : o = flag := by
  cases flag with
  | valued q takes value => exact absurd (bare.symm.trans takes) Bool.false_ne_true
  | dryRun | pretty | verbose =>
    cases o with
    | valued p takes value =>
      subst h
      cases takes
    | dryRun | pretty | verbose => first | rfl | cases h

theorem Makes.flag_iff (h : Makes os made) (flag : Occurrence)
    (bare : flag.parameter.takesValue = false) (hc : flag.choice = .ok c) :
    c ∈ made ↔ flag ∈ os := by
  constructor
  · intro chosen
    obtain ⟨o, ho, hm⟩ := h.mem_iff.1 chosen
    have same := (o.choice_parameter hm).symm.trans (flag.choice_parameter hc)
    rw [← Occurrence.eq_of_flag bare same]
    exact ho
  · exact fun ho ↦ h.mem_iff.2 ⟨flag, ho, hc⟩

end TestMatrix.Arguments
