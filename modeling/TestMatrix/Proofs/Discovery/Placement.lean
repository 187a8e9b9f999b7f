import TestMatrix.Proofs.Discovery.Naming
import TestMatrix.Proofs.Discovery.Scanning
import TestMatrix.Proofs.Path.Components
import TestMatrix.Proofs.Path.FileName
import TestMatrix.Proofs.Text.Encoding
namespace TestMatrix

open Text

/-- A name that stands for one entry of a folder. -/
def Ordinary (s : String) : Prop := s ≠ "" ∧ '/' ∉ s.toList ∧ s ≠ "." ∧ s ≠ ".."

def stem (directory : String) : String :=
  if directory.toList.getLast? = some '/' then directory else directory ++ "/"

variable {directory target name : String}

theorem slash_mem_encode_iff {s : String} : slash ∈ Utf8.encode s ↔ '/' ∈ s.toList :=
  Utf8.mem_encode_iff (a := '/') (by decide)

theorem ordinary_iff {s : String} : Ordinary s ↔ Path.IsName (Utf8.encode s) := by
  have here : Utf8.encode s = [dot] ↔ s = "." := Utf8.encode_inj (t := ".")
  have up : Utf8.encode s = [dot, dot] ↔ s = ".." := Utf8.encode_inj (t := "..")
  constructor
  · intro h
    obtain ⟨hn, hs, hh, hu⟩ := h
    exact ⟨mt Utf8.encode_eq_nil_iff.1 hn, mt slash_mem_encode_iff.1 hs, mt here.1 hh, mt up.1 hu⟩
  · intro h
    obtain ⟨hn, hs, hh, hu⟩ := h
    exact ⟨mt Utf8.encode_eq_nil_iff.2 hn, mt slash_mem_encode_iff.2 hs, mt here.2 hh, mt up.2 hu⟩

theorem ofString_targetPath (directory target : String) :
    Path.ofString (targetPath directory target) =
      (Path.ofString directory).join (.ofString target) := by
  have head : (Utf8.encode target).head? = some slash ↔ target.toList.head? = some '/' :=
    Utf8.head?_encode_iff (a := '/') (by decide)
  have last : (Utf8.encode directory).getLast? = some slash ↔
      directory.toList.getLast? = some '/' := Utf8.getLast?_encode_iff (a := '/') (by decide)
  have separator : [slash] = String.utf8EncodeChar '/' := by decide
  simp only [Path.ofString, Path.join, targetPath, joinAt, head, last, Utf8.encode_eq_nil_iff,
    ← String.toList_eq_nil_iff]
  congr 1
  split
  · rw [String.ofList_toList]
  split
  · rw [← String.toList_append, String.ofList_toList, Utf8.encode_append]
  · have between : (String.ofList (directory.toList ++ '/' :: target.toList)).toList =
        directory.toList ++ (['/'] ++ target.toList) := String.toList_ofList
    simp only [Utf8.encode_eq_flatMap, between, List.flatMap_append, List.flatMap_singleton,
      ← separator]
    rfl

theorem targetPath_eq (hd : directory ≠ "") : targetPath directory target =
    if target.toList.head? = some '/' then target else stem directory ++ target := by
  have hd' : directory.toList ≠ [] := fun h ↦ hd (String.toList_eq_nil_iff.1 h)
  rw [← String.toList_inj, targetPath, joinAt, stem, String.toList_ofList]
  by_cases absolute : target.toList.head? = some '/'
  · simp only [if_pos absolute]
  by_cases closed : directory.toList.getLast? = some '/'
  · simp only [if_neg absolute, closed, or_true, if_true, String.toList_append]
  · simp only [if_neg absolute, hd', closed, or_self, if_false, String.toList_append,
      List.append_assoc]
    rfl

/-- A path that begins with a slash leaves the directory, and no other one does. -/
theorem targetPath_eq_stem_iff (hd : directory ≠ "") :
    targetPath directory target = stem directory ++ target ↔ target.toList.head? ≠ some '/' := by
  rw [targetPath_eq hd]
  split
  · next absolute =>
    have kept : stem directory ≠ "" := by
      rw [stem]
      split
      · exact hd
      · simp
    constructor
    · intro same
      have lengths := congrArg (·.toList.length) same
      simp only [String.toList_append, List.length_append] at lengths
      have empty := List.eq_nil_of_length_eq_zero (l := (stem directory).toList) (by omega)
      exact absurd (String.toList_eq_nil_iff.1 empty) kept
    · intro relative
      exact absurd absolute relative
  · next relative => simp [relative]

namespace Ordinary

theorem head_ne (h : Ordinary target) : target.toList.head? ≠ some '/' :=
  fun absolute ↦ h.2.1 (List.mem_of_head? absolute)

theorem placed (h : Ordinary target) :
    (Path.ofString (targetPath directory target)).parent? =
        some (Path.ofString directory).components ∧
      (Path.ofString (targetPath directory target)).fileName? = some (Utf8.encode target) := by
  obtain ⟨hn, hs, here, up⟩ := ordinary_iff.1 h
  rw [ofString_targetPath]
  exact ⟨Path.parent?_join_part _ hs hn here, Path.fileName?_join_part _ hs hn here up⟩

theorem append (h : Ordinary target) (hs : '/' ∉ name.toList) : Ordinary (name ++ target) := by
  obtain ⟨hn, ht, here, up⟩ := h
  have hn' : target.toList ≠ [] := fun he ↦ hn (String.toList_eq_nil_iff.1 he)
  simp only [Ordinary, ne_eq, ← String.toList_inj, String.toList_append] at here up ⊢
  refine ⟨by simp [hn'], by simp [hs, ht], fun he ↦ ?_, fun he ↦ ?_⟩
  · rcases List.append_eq_singleton_iff.1 he with ⟨-, h⟩ | ⟨-, h⟩
    · exact here h
    · exact hn' h
  · rcases List.append_eq_cons_iff.1 he with ⟨-, h⟩ | ⟨rest, -, h⟩
    · exact up h
    · rcases List.append_eq_singleton_iff.1 h.symm with ⟨-, h⟩ | ⟨-, h⟩
      · exact here h
      · exact hn' h

end Ordinary

theorem normalizeSource_ne_empty (source : String) : normalizeSource source ≠ "" := by
  intro h
  rw [normalizeSource] at h
  split at h
  · simp at h
  · next hs =>
    rw [h] at hs
    cases hs
  · simp at h

namespace Discovery

variable {w : Workspace} {c : Convention} {source : String} {m : Manifest} {r : Record}

theorem name_of_scan {p : Path} {files : List FoundFile} {f : FoundFile}
    (h : (scan p).eval w = (.ok files, w)) (hf : f ∈ files) :
    ∃ n : Name, Utf8.encode f.filename = n.bytes := by
  obtain ⟨names, -, rfl⟩ := scan_eq_ok h
  obtain ⟨n, -, hn⟩ := List.mem_filterMap.1 (FoundFile.mem_sort.1 hf)
  exact ⟨n, (found?_eq_some_iff.1 hn).2.1⟩

theorem target_of_build (h : ((build c source).eval w).1 = .ok m) (hr : r ∈ m.records) :
    ∃ target : String, '/' ∉ target.toList ∧ r = c.recordOf (normalizeSource source) target := by
  obtain ⟨files, scanned, records⟩ := scan_of_build h
  rw [records] at hr
  obtain ⟨filename, hf, hr⟩ := List.mem_filterMap.1 hr
  obtain ⟨f, mem, rfl⟩ := List.mem_map.1 hf
  obtain ⟨target, ht, rfl⟩ := Convention.record?_eq_some_iff.1 hr
  obtain ⟨n, hn⟩ := name_of_scan scanned mem
  refine ⟨target, fun slashed ↦ n.slash_not_mem ?_, rfl⟩
  rw [← hn, slash_mem_encode_iff, ht, String.toList_append]
  exact List.mem_append_left _ slashed

/-- A record names an entry of the scanned directory if its test name is ordinary. For that the
marker of targets must hold no slash, and of what is then left only the names `.` and `..` are not
ordinary. A test name that begins with a slash leaves the directory. -/
theorem targets_placed (w : Workspace) (c : Convention) (source : String) (m : Manifest)
    (valid : c.fault? = none) (built : ((build c source).eval w).1 = .ok m) :
    (∀ r ∈ m.records,
      (r.path = stem (normalizeSource source) ++ r.testName ↔
        r.testName.toList.head? ≠ some '/') ∧
      (Ordinary r.testName ↔
        '/' ∉ c.targetMarker.toList ∧ r.testName ≠ "." ∧ r.testName ≠ "..") ∧
      (Ordinary r.testName → r.path = stem (normalizeSource source) ++ r.testName ∧
        (Path.ofString r.path).parent? = some (folderOf source).components ∧
        (Path.ofString r.path).fileName? = some (Utf8.encode r.testName))) ∧
    (Ordinary c.targetMarker → ∀ r ∈ m.records, Ordinary r.testName) := by
  have named := normalizeSource_ne_empty source
  refine ⟨fun r hr ↦ ?_, fun plain r hr ↦ ?_⟩
  · obtain ⟨target, ht, rfl⟩ := target_of_build built hr
    refine ⟨targetPath_eq_stem_iff named, ⟨fun h ↦ ?_, fun h ↦ ?_⟩,
      fun h ↦ ⟨(targetPath_eq_stem_iff named).2 h.head_ne, h.placed⟩⟩
    · refine ⟨fun hs ↦ h.2.1 ?_, h.2.2⟩
      rw [Convention.recordOf, String.toList_append]
      exact List.mem_append_right _ hs
    · have marked : c.targetMarker ≠ "" := (Convention.fault?_eq_none_iff.1 valid).2.2.1
      refine ⟨?_, ?_, h.2⟩
      · simp [Convention.recordOf, marked]
      · simp [Convention.recordOf, ht, h.1]
  · obtain ⟨target, ht, rfl⟩ := target_of_build built hr
    exact plain.append ht

def bare : Workspace where
  tree :=
    { entries :=
        [([⟨Utf8.encode "tests", by decide⟩], .folder),
         ([⟨Utf8.encode "_test.c", by decide⟩, ⟨Utf8.encode "tests", by decide⟩], .file [])]
      nodup := by decide }

theorem targets_placed_bare :
    ({} : Convention).fault? = none ∧
      ((build {} "tests").eval bare).1 =
        .ok ⟨[⟨"_test", "_unit_test", "./tests/_unit_test"⟩]⟩ ∧
      Ordinary "_unit_test" ∧
      (Path.ofString "./tests/_unit_test").parent? = some (Path.ofString "./tests").components ∧
      ({ targetMarker := "." } : Convention).fault? = none ∧
      ((build { targetMarker := "." } "tests").eval bare).1 = .ok ⟨[⟨"_test", ".", "./tests/."⟩]⟩ ∧
      ¬Ordinary "." := by
  have built : ((build {} "tests").eval bare).1 =
      .ok ⟨[⟨"_test", "_unit_test", "./tests/_unit_test"⟩]⟩ := rfl
  have dotted : ((build { targetMarker := "." } "tests").eval bare).1 =
      .ok ⟨[⟨"_test", ".", "./tests/."⟩]⟩ := rfl
  obtain ⟨records, ordinary⟩ := targets_placed bare {} "tests" _ (by decide) built
  have plain : Ordinary "_unit_test" :=
    ordinary ⟨by decide, by decide, by decide, by decide⟩ _ List.mem_cons_self
  obtain ⟨-, parent, -⟩ := (records _ List.mem_cons_self).2.2 plain
  have refused := (targets_placed bare { targetMarker := "." } "tests" _ (by decide) dotted).1
  refine ⟨by decide, built, plain, parent, by decide, dotted, fun h ↦ ?_⟩
  exact ((refused _ List.mem_cons_self).2.1.1 h).2.1 rfl

/-- A marker that begins with a slash is accepted, and the record of a bare suffix then leaves the
directory. -/
theorem targets_not_placed : ¬∀ (w : Workspace) (c : Convention) (source : String) (m : Manifest),
    c.fault? = none → ((build c source).eval w).1 = .ok m → ∀ r ∈ m.records,
      r.path = stem (normalizeSource source) ++ r.testName ∧ Ordinary r.testName := by
  intro placed
  have built : ((build { targetMarker := "/unit" } "tests").eval bare).1 =
      .ok ⟨[⟨"_test", "/unit", "/unit"⟩]⟩ := rfl
  have outside := (placed bare _ "tests" _ (by decide) built _ List.mem_cons_self).1
  exact absurd outside (by decide)

end Discovery

end TestMatrix
