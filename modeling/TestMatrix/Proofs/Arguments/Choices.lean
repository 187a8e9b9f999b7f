import TestMatrix.Proofs.Arguments.Values
namespace TestMatrix

open Text

namespace Arguments

/-- No parameter but `verbose` stands twice. -/
def Single (ps : List Parameter) : Prop := ∀ p, p ≠ .verbose → ps.count p ≤ 1

variable {made : List Choice} {c d : Choice} {p : Parameter} {i : Invocation} {α : Type}
  {kind : Choice → Option α} {a : α} {value : Bytes}

theorem Single.sublist {ps qs : List Parameter} (h : Single qs) (hs : ps.Sublist qs) : Single ps :=
  fun p hp ↦ Nat.le_trans (hs.count_le p) (h p hp)

theorem Choice.eq_verbose (h : c.parameter = .verbose) : c = .verbose := by
  cases c <;> first | rfl | cases h

theorem Single.eq_of_mem (h : Single (made.map Choice.parameter)) (hc : c ∈ made) (hd : d ∈ made)
    (same : c.parameter = d.parameter) : c = d := by
  by_cases hv : c.parameter = .verbose
  · rw [Choice.eq_verbose hv, Choice.eq_verbose (same.symm.trans hv)]
  induction made with
  | nil => cases hc
  | cons first rest ih =>
    have once : (rest.map Choice.parameter).count first.parameter = 0 ∨
        first.parameter = .verbose := by
      by_cases hf : first.parameter = .verbose
      · exact .inr hf
      · have count := h first.parameter hf
        rw [List.map_cons, List.count_cons_self] at count
        exact .inl (by omega)
    have away {e : Choice} (he : e ∈ rest) (same : e.parameter = first.parameter) :
        first.parameter = .verbose := by
      refine once.resolve_left fun absent ↦ ?_
      exact List.count_eq_zero.1 absent (same ▸ List.mem_map_of_mem he)
    rcases List.mem_cons.1 hc with rfl | hc' <;> rcases List.mem_cons.1 hd with rfl | hd'
    · rfl
    · exact absurd (away hd' same.symm) hv
    · exact absurd (same.trans (away hc' same)) hv
    · exact ih (h.sublist (List.sublist_cons_self _ _)) hc' hd'

theorem find_eq_some_iff (single : Single (made.map Choice.parameter))
    (hp : ∀ c a, kind c = some a → c.parameter = p) :
    find made kind = some a ↔ ∃ c ∈ made, kind c = some a := by
  rw [find]
  constructor
  · exact List.exists_of_findSome?_eq_some
  · intro given
    obtain ⟨c, hc, hs⟩ := given
    cases hf : made.findSome? kind with
    | none =>
      have missed := List.findSome?_eq_none_iff.1 hf c hc
      rw [hs] at missed
      cases missed
    | some b =>
      obtain ⟨d, hd, ht⟩ := List.exists_of_findSome?_eq_some hf
      have same := single.eq_of_mem hc hd ((hp c a hs).trans (hp d b ht).symm)
      rw [← ht, ← same, hs]

theorem find_map_eq_some_iff {bytes : α → Bytes} (single : Single (made.map Choice.parameter))
    (reads : ∀ c a, kind c = some a → c.parameter = p ∧ c.value? = some (bytes a))
    (covers : ∀ c v, c.parameter = p → c.value? = some v → ∃ a, kind c = some a ∧ bytes a = v) :
    (find made kind).map bytes = some value ↔
      ∃ c ∈ made, c.parameter = p ∧ c.value? = some value := by
  have found (a : α) : find made kind = some a ↔ ∃ c ∈ made, kind c = some a :=
    find_eq_some_iff single fun c a h ↦ (reads c a h).1
  rw [Option.map_eq_some_iff]
  constructor
  · intro given
    obtain ⟨a, ha, rfl⟩ := given
    obtain ⟨c, hc, hs⟩ := (found a).1 ha
    exact ⟨c, hc, reads c a hs⟩
  · intro given
    obtain ⟨c, hc, same, read⟩ := given
    obtain ⟨a, hs, rfl⟩ := covers c value same read
    exact ⟨a, (found a).2 ⟨c, hc, hs⟩, rfl⟩

theorem find?_last_eq_none_iff {levels : List Choice} {last : Choice}
    (hl : levels.getLast? = some last) : levels.find? (·.parameter ≠ last.parameter) = none ↔
      ∀ c ∈ levels, ∀ d ∈ levels, c.parameter = d.parameter := by
  simp only [List.find?_eq_none, decide_eq_true_eq, ne_eq, Decidable.not_not]
  constructor
  · exact fun same c hc d hd ↦ (same c hc).trans (same d hd).symm
  · exact fun same c hc ↦ same c hc last (List.mem_of_getLast? hl)

theorem conflict?_eq_none_iff : conflict? made = none ↔
    ¬(.verbose ∈ made.map Choice.parameter ∧ .logLevel ∈ made.map Choice.parameter) := by
  have same : conflict? made = none ↔
      ∀ c ∈ made.filter (fun c ↦ c.parameter = .verbose || c.parameter = .logLevel),
      ∀ d ∈ made.filter (fun c ↦ c.parameter = .verbose || c.parameter = .logLevel),
        c.parameter = d.parameter := by
    rw [conflict?]
    split
    · next missing =>
      have empty := List.getLast?_eq_none_iff.1 missing
      simp [empty]
    · next last hl => rw [Option.map_eq_none_iff, find?_last_eq_none_iff hl]
  simp only [same, List.mem_filter, List.mem_map, Bool.or_eq_true, decide_eq_true_eq]
  constructor
  · intro same both
    obtain ⟨⟨c, hc, hv⟩, d, hd, hl⟩ := both
    have clash := same c ⟨hc, .inl hv⟩ d ⟨hd, .inr hl⟩
    cases hv.symm.trans (clash.trans hl)
  · intro apart c hc d hd
    rcases hc with ⟨hc, hv | hl⟩ <;> rcases hd with ⟨hd, hv' | hl'⟩
    · exact hv.trans hv'.symm
    · exact absurd ⟨⟨c, hc, hv⟩, d, hd, hl'⟩ apart
    · exact absurd ⟨⟨d, hd, hv'⟩, c, hc, hl⟩ apart
    · exact hl.trans hl'.symm

theorem check_eq_ok_iff : check made = .ok () ↔ .source ∈ made.map Choice.parameter ∧
    ¬(.verbose ∈ made.map Choice.parameter ∧ .logLevel ∈ made.map Choice.parameter) := by
  rw [← conflict?_eq_none_iff, check]
  cases conflict? made with
  | some fault => simp
  | none =>
    rw [List.mem_map]
    dsimp only
    split
    · next h => simpa using h
    · next h => simpa using h

/-- A command line whose choices pass has a source. -/
theorem invocation_of_check (h : check made = .ok ()) : ∃ i, invocation made = .ok i := by
  obtain ⟨c, hc, source⟩ := List.mem_map.1 (check_eq_ok_iff.1 h).1
  rw [invocation]
  split
  · next missing =>
    have missed := List.findSome?_eq_none_iff.1 missing c hc
    cases c with
    | source directory => cases missed
    | _ => cases source
  · exact ⟨_, rfl⟩

theorem verboseCount_eq (made : List Choice) : verboseCount made =
    UInt8.ofNat (min ((made.map Choice.parameter).count .verbose) 255) := by
  have counted (n : Nat) (hn : n ≤ 255) : made.foldl
      (fun n c ↦ if c = .verbose then (if n = 255 then 255 else n + 1) else n) (UInt8.ofNat n) =
        UInt8.ofNat (min (n + (made.map Choice.parameter).count .verbose) 255) := by
    induction made generalizing n with
    | nil => simp [Nat.min_eq_left hn]
    | cons c rest ih =>
      rw [List.foldl_cons, List.map_cons, List.count_cons]
      by_cases hc : c = .verbose
      · subst hc
        by_cases full : n = 255
        · subst full
          have more : min (255 + ((rest.map Choice.parameter).count .verbose + 1)) 255 =
              min (255 + (rest.map Choice.parameter).count .verbose) 255 := by omega
          simpa [Choice.parameter, more] using ih 255 hn
        · have below : UInt8.ofNat n ≠ 255 := by
            rw [Ne, ← UInt8.toNat_inj, UInt8.toNat_ofNat']
            simp only [UInt8.reduceToNat]
            omega
          have next := ih (n + 1) (by omega)
          rw [Nat.add_right_comm, Nat.add_assoc] at next
          simpa [Choice.parameter, below] using next
      · have other : c.parameter ≠ .verbose := fun h ↦ hc (Choice.eq_verbose h)
        simpa [hc, other] using ih n hn
  rw [verboseCount, ← Nat.zero_add (List.count _ _)]
  exact counted 0 (Nat.zero_le 255)

theorem verbosity_of_level {l : Level} (single : Single (made.map Choice.parameter))
    (h : .logLevel l ∈ made) : verbosity made = l := by
  rw [verbosity]
  split
  · next l' found =>
    obtain ⟨c, hc, hs⟩ := List.exists_of_findSome?_eq_some found
    cases c with
    | logLevel l'' =>
      cases hs
      cases single.eq_of_mem hc h rfl
      rfl
    | _ => cases hs
  · next missing => cases List.findSome?_eq_none_iff.1 missing _ h

theorem verbosity_of_count (h : .logLevel ∉ made.map Choice.parameter) : verbosity made =
    .ofCount (UInt8.ofNat (min ((made.map Choice.parameter).count .verbose) 255)) := by
  rw [verbosity]
  split
  · next l found =>
    obtain ⟨c, hc, hs⟩ := List.exists_of_findSome?_eq_some found
    cases c with
    | logLevel l' => exact absurd (List.mem_map_of_mem hc) h
    | _ => cases hs
  · rw [verboseCount_eq]

end Arguments

def Invocation.value? (i : Invocation) : Arguments.Parameter → Option Bytes
  | .source => some (Utf8.encode i.source)
  | .output => i.overrides.output.map Path.bytes
  | .config => i.config.map Path.bytes
  | .extension => i.overrides.extension.map Utf8.encode
  | .testMarker => i.overrides.testMarker.map Utf8.encode
  | .targetMarker => i.overrides.targetMarker.map Utf8.encode
  | .logFile => i.logFile.map Utf8.encode
  | _ => none

namespace Arguments

theorem value?_of_invocation (h : invocation made = .ok i)
    (single : Single (made.map Choice.parameter)) (takes : p.takesValue) (other : p ≠ .logLevel)
    (value : Bytes) : i.value? p = some value ↔
      ∃ c ∈ made, c.parameter = p ∧ c.value? = some value := by
  rw [invocation] at h
  split at h
  · cases h
  next source found =>
  cases h
  cases p with
  | source =>
    change (some source).map Utf8.encode = some value ↔ _
    rw [← found]
    exact find_map_eq_some_iff single (by rintro ⟨⟩ a h <;> cases h; exact ⟨rfl, rfl⟩)
      (by rintro ⟨⟩ v h hv <;> cases h; cases hv; exact ⟨_, rfl, rfl⟩)
  | output | config | extension | testMarker | targetMarker | logFile =>
    exact find_map_eq_some_iff single (by rintro ⟨⟩ a h <;> cases h; exact ⟨rfl, rfl⟩)
      (by rintro ⟨⟩ v h hv <;> cases h; cases hv; exact ⟨_, rfl, rfl⟩)
  | logLevel => exact absurd rfl other
  | dryRun | pretty | verbose | help | version => cases takes

theorem flags_of_invocation (h : invocation made = .ok i) :
    (i.dryRun = true ↔ .dryRun ∈ made) ∧ (i.overrides.pretty = true ↔ .pretty ∈ made) ∧
      i.verbosity = verbosity made := by
  rw [invocation] at h
  split at h
  · cases h
  · cases h
    exact ⟨List.contains_iff_mem, List.contains_iff_mem, rfl⟩

end Arguments

end TestMatrix
