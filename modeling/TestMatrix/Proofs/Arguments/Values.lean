import TestMatrix.Arguments.Parsing
import TestMatrix.Proofs.Results
import TestMatrix.Proofs.Text.Splitting
namespace TestMatrix.Arguments

open Text

/-- A word gives a value by being it, or behind a hyphen and the name of the parameter. -/
def Gives (word value : Bytes) : Prop :=
  value = word ∨ ∃ name, word = Parsing.hyphen :: (name ++ value)

theorem Gives.of_suffix {body value : Bytes} (h : value <:+ body) :
    Gives (Parsing.hyphen :: body) value := by
  obtain ⟨name, rfl⟩ := h
  exact .inr ⟨name, rfl⟩

def Choice.value? : Choice → Option Bytes
  | source s | extension s | testMarker s | targetMarker s | logFile s => some (Utf8.encode s)
  | output p | config p => some p.bytes
  | dryRun | pretty | verbose | logLevel _ => none

namespace Parameter

variable {p : Parameter} {value : Bytes} {c : Choice}

theorem text_eq_ok_iff {s : String} : text value = .ok s ↔ value = Utf8.encode s := by
  rw [text, ← Utf8.decode?_eq_some_iff]
  cases Utf8.decode? value <;> simp

theorem file_eq_ok_iff {path : Path} : p.file value = .ok path ↔ value ≠ [] ∧ path = ⟨value⟩ := by
  rw [file]
  split
  · next empty => simp [empty]
  · next filled => simp [filled, eq_comm]

theorem level_eq_ok_iff {l : Level} :
    level value = .ok l ↔ ∃ s, value = Utf8.encode s ∧ Level.ofWord? s = some l := by
  constructor
  · intro h
    obtain ⟨s, hs, h⟩ := ok_of_bind h
    refine ⟨s, text_eq_ok_iff.1 hs, ?_⟩
    cases hw : Level.ofWord? s with
    | none =>
      rw [hw] at h
      cases h
    | some l' =>
      rw [hw] at h
      cases h
      rfl
  · intro h
    obtain ⟨s, hs, hw⟩ := h
    simp only [level, text_eq_ok_iff.2 hs, bind, Except.bind, hw]
    rfl

theorem choose_spec (h : p.choose value = .ok c) : c.parameter = p ∧
    (p ≠ .logLevel → c.value? = some value) ∧
    ∀ l, c = .logLevel l → ∃ s, value = Utf8.encode s ∧ Level.ofWord? s = some l := by
  cases p with
  | source | extension | testMarker | targetMarker | logFile =>
    obtain ⟨s, ht, rfl⟩ := ok_of_map h
    rw [text_eq_ok_iff.1 ht]
    exact ⟨rfl, fun _ ↦ rfl, by simp⟩
  | output | config =>
    obtain ⟨path, hf, rfl⟩ := ok_of_map h
    rw [(file_eq_ok_iff.1 hf).2]
    exact ⟨rfl, fun _ ↦ rfl, by simp⟩
  | logLevel =>
    obtain ⟨l, hl, rfl⟩ := ok_of_map h
    refine ⟨rfl, fun other ↦ absurd rfl other, fun l' same ↦ ?_⟩
    cases same
    exact level_eq_ok_iff.1 hl
  | dryRun | pretty | verbose | help | version => cases h

theorem choose_value {v : Bytes} (h : p.choose value = .ok c) (hv : c.value? = some v) :
    v = value := by
  obtain ⟨hp, kept, -⟩ := choose_spec h
  by_cases level : p = .logLevel
  · cases c with
    | logLevel l => cases hv
    | _ => cases hp.trans level
  · rw [kept level, Option.some.injEq] at hv
    exact hv.symm

end Parameter

namespace Parsing

structure Within (words : List Bytes) (s : Parsing) : Prop where
  choices : ∀ c ∈ s.choices, ∀ v, c.value? = some v → ∃ word ∈ words, Gives word v
  pending : ∀ p value, s.pending = some ⟨p, some value⟩ → ∃ word ∈ words, Gives word value

namespace Within

variable {words : List Bytes} {word : Bytes} {s s' : Parsing} {p : Parameter}

theorem add (hs : s.Within words) {made : Except Fault Choice} (h : s.add p made = .ok s')
    (hm : ∀ c v, made = .ok c → c.value? = some v → ∃ word ∈ words, Gives word v) :
    s'.Within words := by
  unfold Parsing.add at h
  split at h
  · cases h
  split at h
  · next c =>
    cases h
    refine ⟨fun other ho v hv ↦ ?_, hs.pending⟩
    rcases List.mem_append.1 ho with ho | ho
    · exact hs.choices other ho v hv
    · cases List.mem_singleton.1 ho
      exact hm _ v rfl hv
  · cases h

theorem add_flag (hs : s.Within words) {c : Choice} (hc : c.value? = none)
    (h : s.add p (.ok c) = .ok s') : s'.Within words := by
  refine hs.add h fun c' v hm hv ↦ ?_
  cases hm
  rw [hc] at hv
  cases hv

theorem add_value (hs : s.Within words) {value : Bytes} (hg : ∃ word ∈ words, Gives word value)
    (h : s.add p (p.choose value) = .ok s') : s'.Within words :=
  hs.add h fun _ _ hc hv ↦ Parameter.choose_value hc hv ▸ hg

theorem settle (hs : s.Within words) (h : s.settle = .ok s') : s'.Within words := by
  rw [Parsing.settle] at h
  split at h
  · cases h
    exact hs
  · cases h
  · next p value hp =>
    have cleared : Within words { s with pending := none } :=
      ⟨hs.choices, fun _ _ h ↦ by cases h⟩
    exact cleared.add_value (hs.pending p value hp) h

theorem flag (hs : s.Within words) (h : s.flag p = .ok s') : s'.Within words := by
  obtain ⟨t, ht, h⟩ := ok_of_bind h
  have settled := hs.settle ht
  cases p with
  | dryRun => exact settled.add_flag (c := .dryRun) rfl h
  | pretty => exact settled.add_flag (c := .pretty) rfl h
  | verbose => exact settled.add_flag (c := .verbose) rfl h
  | _ => cases h

theorem valued (hs : s.Within words) {attached : Option Bytes}
    (hg : ∀ value, attached = some value → ∃ word ∈ words, Gives word value)
    (h : s.valued p attached = .ok s') : s'.Within words := by
  obtain ⟨t, ht, h⟩ := ok_of_bind h
  have settled := hs.settle ht
  cases attached with
  | some value => exact settled.add_value (hg value rfl) h
  | none =>
    cases h
    exact ⟨settled.choices, fun _ _ h ↦ by cases h⟩

theorem long {body : Bytes} (hs : s.Within words) (hw : hyphen :: hyphen :: body ∈ words)
    (h : s.long body = .ok s') : s'.Within words := by
  unfold Parsing.long at h
  dsimp only at h
  split at h
  · cases h
  · next p attached _ =>
    split at h
    · refine hs.valued (fun value hv ↦ ⟨_, hw, .of_suffix ?_⟩) h
      split at hv
      · cases hv
        exact (List.drop_suffix _ body).trans (List.suffix_cons hyphen body)
      · cases hv
    · split at h
      · cases h
      · exact hs.flag h

theorem cluster {rest body : Bytes} {letters : List Char} (hs : s.Within words)
    (hw : hyphen :: body ∈ words) (hb : Utf8.encode (String.ofList letters) ++ rest <:+ body)
    (h : s.cluster rest letters = .ok s') : s'.Within words := by
  induction letters generalizing s with
  | nil =>
    rw [Parsing.cluster] at h
    split at h
    · cases h
      exact hs
    · cases h
  | cons c letters ih =>
    have split_letter : String.ofList (c :: letters) = c.toString ++ String.ofList letters := by
      rw [← String.toList_inj]
      simp
    have after : Utf8.encode (String.ofList letters) ++ rest <:+ body := by
      rw [split_letter, Utf8.encode_append, List.append_assoc] at hb
      exact (List.suffix_append _ _).trans hb
    rw [Parsing.cluster] at h
    split at h
    · cases h
    next p hp =>
    split at h
    · split at h
      · exact hs.valued (fun _ h ↦ by cases h) h
      · next first value he =>
        rw [he] at after
        refine hs.valued (fun v hv ↦ ?_) h
        cases hv
        refine ⟨_, hw, .of_suffix ?_⟩
        split
        · exact (List.suffix_cons first value).trans after
        · exact after
    · obtain ⟨t, hf, h⟩ := ok_of_bind h
      exact ih (hs.flag hf) after h

theorem plain (hs : s.Within words) (hw : word ∈ words) (h : s.plain word = .ok s') :
    s'.Within words := by
  rw [Parsing.plain] at h
  split at h
  · cases h
    refine ⟨hs.choices, fun p value hp ↦ ?_⟩
    cases hp
    exact ⟨word, hw, .inl rfl⟩
  · cases h

theorem step (hs : s.Within words) (hw : word ∈ words) (h : s.step word = .ok s') :
    s'.Within words := by
  unfold Parsing.step at h
  split at h
  · cases h
  split at h
  · next first second body =>
    split at h
    · next hh =>
      obtain ⟨rfl, rfl⟩ := hh
      split at h
      · cases h
        exact ⟨hs.choices, hs.pending⟩
      · exact hs.long hw h
    · split at h
      · next hh =>
        subst hh
        refine hs.cluster hw ?_ h
        rw [String.ofList_toList]
        exact Utf8.splitValid_suffix _
      · exact hs.plain hw h
  · exact hs.plain hw h

theorem foldlM {rest : List Bytes} (hs : s.Within words) (hr : ∀ word ∈ rest, word ∈ words)
    (h : rest.foldlM Parsing.step s = .ok s') : s'.Within words := by
  induction rest generalizing s with
  | nil =>
    cases h
    exact hs
  | cons word rest ih =>
    rw [List.foldlM_cons] at h
    obtain ⟨t, ht, h⟩ := ok_of_bind h
    have stepped := hs.step (hr word List.mem_cons_self) ht
    exact ih stepped (fun other ho ↦ hr other (List.mem_cons_of_mem word ho)) h

end Within

end Parsing

theorem gives_of_choices {words : List Bytes} {made : List Choice} (h : choices words = .ok made) :
    ∀ c ∈ made, ∀ v, c.value? = some v → ∃ word ∈ words, Gives word v := by
  obtain ⟨s, hs, h⟩ := ok_of_bind h
  obtain ⟨s', hs', h⟩ := ok_of_bind h
  cases h
  have start : Parsing.Within words {} := ⟨by simp, by simp⟩
  exact ((start.foldlM (fun _ h ↦ h) hs).settle hs').choices

theorem source_mem {made : List Choice} {i : Invocation} (h : invocation made = .ok i) :
    .source i.source ∈ made := by
  rw [invocation] at h
  split at h
  · cases h
  next source hf =>
  cases h
  obtain ⟨c, hc, hs⟩ := List.exists_of_findSome?_eq_some hf
  split at hs
  · cases hs
    exact hc
  · cases hs

/-- The source of a run is a text of the command line, letter by letter. -/
theorem source_of_parse {arguments : List Bytes} {i : Invocation}
    (h : parse arguments = .ok (.run i)) :
    ∃ word ∈ arguments.tail, Gives word (Utf8.encode i.source) := by
  rw [parse] at h
  split at h
  · next made hm =>
    obtain ⟨-, -, h⟩ := ok_of_bind h
    obtain ⟨_, hi, h⟩ := ok_of_bind h
    cases h
    exact gives_of_choices hm (.source i.source) (source_mem hi) _ rfl
  · cases h
  · cases h

end TestMatrix.Arguments
