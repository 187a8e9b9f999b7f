import Mathlib.Data.List.Sort
import TestMatrix.Proofs.Discovery.Matching
import TestMatrix.Proofs.FileTree.Places
namespace TestMatrix

open Text

namespace FoundFile

def Before (f g : FoundFile) : Prop := Utf8.encode f.filename < Utf8.encode g.filename

variable {f g : FoundFile} {files files' : List FoundFile}

theorem le_iff : f.le g ↔ Utf8.encode f.filename ≤ Utf8.encode g.filename := decide_eq_true_iff

instance : Std.Total fun f g : FoundFile ↦ (f.le g : Prop) where
  total f g := by
    rw [le_iff, le_iff]
    exact List.le_total _ _

instance : IsTrans FoundFile fun f g ↦ f.le g where
  trans f g h hf hg := by
    rw [le_iff] at hf hg ⊢
    exact List.le_trans hf hg

theorem insert_eq_orderedInsert (f : FoundFile) (files : List FoundFile) :
    insert f files = files.orderedInsert (fun f g ↦ f.le g) f := by
  induction files with
  | nil => rfl
  | cons g rest ih => rw [insert, ih, List.orderedInsert_cons]

theorem sort_eq_insertionSort (files : List FoundFile) :
    sort files = files.insertionSort fun f g ↦ f.le g := by
  rw [sort, List.insertionSort]
  congr 1
  funext f files
  exact insert_eq_orderedInsert f files

theorem mem_sort : f ∈ sort files ↔ f ∈ files := by
  rw [sort_eq_insertionSort, List.mem_insertionSort]

theorem sort_strict (h : files.Pairwise (·.filename ≠ ·.filename)) :
    (sort files).Pairwise Before := by
  rw [sort_eq_insertionSort]
  have differ : (files.insertionSort fun f g ↦ f.le g).Pairwise (·.filename ≠ ·.filename) :=
    ((List.perm_insertionSort _ files).pairwise_iff fun h ↦ h.symm).2 h
  refine ((List.pairwise_insertionSort _ files).and differ).imp fun {f g} h ↦ ?_
  exact Std.lt_of_le_of_ne (le_iff.1 h.1) fun same ↦ h.2 (Utf8.encode_injective same)

theorem sort_eq_of_perm (hp : files.Perm files') (h : files.Pairwise (·.filename ≠ ·.filename)) :
    sort files = sort files' := by
  have h' : files'.Pairwise (·.filename ≠ ·.filename) := (hp.pairwise_iff fun h ↦ h.symm).1 h
  have sorted : (sort files).Perm (sort files') := by
    rw [sort_eq_insertionSort, sort_eq_insertionSort]
    exact (List.perm_insertionSort _ files).trans (hp.trans (List.perm_insertionSort _ files').symm)
  refine List.Perm.eq_of_pairwise (fun f g _ _ hfg hgf ↦ ?_) (sort_strict h) (sort_strict h') sorted
  exact absurd (List.lt_trans hfg hgf) (List.lt_irrefl _)

end FoundFile

namespace Discovery

variable {w w' : Workspace} {directory : Path} {names : List Name} {n : Name} {f : FoundFile}
  {e : SystemError} {files : List FoundFile}

def found? (w : Workspace) (directory : Path) (n : Name) : Option FoundFile :=
  if w.isFile (directory.join n.path) then
    (Utf8.decode? n.bytes).map (⟨directory.join n.path, ·⟩)
  else none

theorem found?_eq_some_iff : found? w directory n = some f ↔
    f.path = directory.join n.path ∧ Utf8.encode f.filename = n.bytes ∧ w.isFile f.path := by
  rw [found?]
  split
  · next h =>
    rw [Option.map_eq_some_iff]
    constructor
    · intro hf
      obtain ⟨filename, hd, rfl⟩ := hf
      exact ⟨rfl, (Utf8.decode?_eq_some_iff.1 hd).symm, h⟩
    · intro hf
      obtain ⟨hp, hn, -⟩ := hf
      exact ⟨f.filename, Utf8.decode?_eq_some_iff.2 hn.symm, by rw [← hp]⟩
  · next h =>
    constructor
    · intro hf
      cases hf
    · intro hf
      obtain ⟨hp, -, hr⟩ := hf
      exact absurd (hp ▸ hr) h

theorem examine_eval (w : Workspace) (directory : Path) (names : List Name) :
    (examine directory (names.map .ok)).eval w =
      (.ok (names.filterMap (found? w directory)), w) := by
  induction names with
  | nil => rfl
  | cons n rest ih =>
    rw [List.map_cons, examine, Script.eval_isFile]
    have name := directory.fileName?_join_name n
    cases hr : w.isFile (directory.join n.path) with
    | false =>
      rw [List.filterMap_cons_none (by simp [found?, hr])]
      exact ih
    | true =>
      cases hd : Utf8.decode? n.bytes with
      | none =>
        rw [List.filterMap_cons_none (by simp [found?, hd])]
        simpa [FoundFile.ofPath, name, hd] using ih
      | some filename =>
        rw [List.filterMap_cons_some (b := ⟨directory.join n.path, filename⟩)
          (by simp [found?, hr, hd])]
        simpa [FoundFile.ofPath, name, hd] using Script.eval_map_ok ih

section Within

variable {R W : Path → Prop}

theorem examine_within (directory : Path) (entries : List (Except SystemError Name)) :
    (examine directory entries).Within Notice.Later R (fun _ ↦ True) W := by
  induction entries with
  | nil => exact .done _
  | cons entry rest ih =>
    cases entry with
    | error e => exact .fail _
    | ok n =>
      refine .isFile trivial fun regular ↦ ?_
      split
      · exact .report nofun ih
      · split
        · exact ih.map
        · exact .report nofun ih

theorem scan_within (directory : Path) :
    (scan directory).Within Notice.Later R (fun _ ↦ True) W := by
  refine (Script.Within.tell nofun).bind fun _ ↦ ?_
  refine (Script.Within.list trivial fun _ ↦ .orFail _ _).bind fun names ↦ ?_
  refine (examine_within directory names).bind fun files ↦ ?_
  exact (Script.Within.tell nofun).bind fun _ ↦ .done _

end Within

theorem scan_reads (directory : Path) : (scan directory).Reads :=
  (scan_within (R := fun _ ↦ False) directory).reads

theorem scan_eval_ok (h : w.list directory = .ok names) : (scan directory).eval w =
    (.ok (FoundFile.sort (names.filterMap (found? w directory))), w) := by
  rw [scan, Script.eval_tell_bind, Script.eval_list_bind, h]
  exact Script.eval_bind_ok (examine_eval w directory names)

theorem scan_eval_error (h : w.list directory = .error e) : (scan directory).eval w =
    (.error (.fileOperation "list directory" directory (.system e)), w) := by
  rw [scan, Script.eval_tell_bind, Script.eval_list_bind, h]

theorem scan_eq_ok (h : (scan directory).eval w = (.ok files, w)) : ∃ names,
    w.list directory = .ok names ∧ files = FoundFile.sort (names.filterMap (found? w directory)) := by
  cases hl : w.list directory with
  | error e =>
    rw [scan_eval_error hl] at h
    cases h
  | ok names =>
    rw [scan_eval_ok hl] at h
    cases h
    exact ⟨names, rfl, rfl⟩

theorem found_differ (h : names.Nodup) :
    (names.filterMap (found? w directory)).Pairwise (·.filename ≠ ·.filename) := by
  refine List.pairwise_filterMap.2 (h.imp fun {n m} differ f hf g hg same ↦ differ ?_)
  obtain ⟨-, hn, -⟩ := found?_eq_some_iff.1 hf
  obtain ⟨-, hm, -⟩ := found?_eq_some_iff.1 hg
  exact Name.eq_of_bytes (by rw [← hn, ← hm, same])

/-- What a scan owes that reached the folder `l` after `k` links: all entries that are files, or
from which a chain of links goes to one, if their names are text. -/
structure Listing (w : Workspace) (directory : Path) (k : Nat) (l : Location)
    (files : List FoundFile) : Prop where
  mem_iff : ∀ f, f ∈ files ↔ ∃ n e, w.tree.entry? (n :: l) = some e ∧
    f.path = directory.join n.path ∧ Utf8.encode f.filename = n.bytes ∧ w.isFile f.path
  regular_iff : ∀ n : Name, w.isFile (directory.join n.path) ↔
    (directory.join n.path).bytes.length ≤ FileTree.longestPath ∧
      ∃ k', k + k' ≤ FileTree.mostLinks ∧
        ∃ l' content, w.tree.Leads false k' l [.name n] (.file l' content)
  strict : files.Pairwise FoundFile.Before

theorem scan_listing {k : Nat} {l : Location} (hk : k ≤ FileTree.mostLinks)
    (h : w.Leads false k directory (.folder l)) :
    ∃ files, (scan directory).eval w = (.ok files, w) ∧ Listing w directory k l files := by
  have listed := Workspace.list_eq_ok_iff.2 ⟨l, Workspace.locate_eq_ok_iff.2 ⟨k, hk, h⟩, rfl⟩
  refine ⟨_, scan_eval_ok listed, fun f ↦ ?_, fun n ↦ Workspace.isFile_join_name_iff h,
    FoundFile.sort_strict (found_differ FileTree.nodup_names)⟩
  rw [FoundFile.mem_sort, List.mem_filterMap]
  simp only [FileTree.mem_names, found?_eq_some_iff]
  constructor
  · intro hf
    obtain ⟨n, ⟨e, he⟩, hf⟩ := hf
    exact ⟨n, e, he, hf⟩
  · intro hf
    obtain ⟨n, e, he, hf⟩ := hf
    exact ⟨n, ⟨e, he⟩, hf⟩

theorem scan_reordered (h : w.Reordered w') :
    ((scan directory).eval w').1 = ((scan directory).eval w).1 := by
  rcases h.list_perm with ⟨names, names', hn, hn', hp⟩ | ⟨e, he, he'⟩
  · have same : found? w' directory = found? w directory :=
      funext fun n ↦ by rw [found?, found?, h.isFile_eq]
    have differ := Workspace.nodup_of_list hn
    rw [scan_eval_ok hn, scan_eval_ok hn', same,
      FoundFile.sort_eq_of_perm (hp.filterMap _) (found_differ differ)]
  · rw [scan_eval_error he, scan_eval_error he']

variable {c : Convention} {source : String}

def folderOf (source : String) : Path := .ofString (normalizeSource source)

theorem build_eval_ok (h : (scan (folderOf source)).eval w = (.ok files, w)) :
    (build c source).eval w =
      (.ok ⟨(files.map (·.filename)).filterMap (c.record? (normalizeSource source))⟩, w) := by
  rw [folderOf] at h
  rw [build, Script.eval_tell_bind, Script.eval_bind_ok h]
  exact Script.eval_bind_ok (matchFiles_eval ..)

theorem build_eval_error {failure : Failure}
    (h : (scan (folderOf source)).eval w = (.error failure, w)) :
    (build c source).eval w = (.error failure, w) := by
  rw [folderOf] at h
  rw [build, Script.eval_tell_bind, Script.eval_bind_error h]

theorem scan_of_build {m : Manifest} (h : ((build c source).eval w).1 = .ok m) :
    ∃ files, (scan (folderOf source)).eval w = (.ok files, w) ∧
      m.records = (files.map (·.filename)).filterMap (c.record? (normalizeSource source)) := by
  have scanned := (scan_reads (folderOf source)).eval_eq (w := w)
  cases hs : ((scan (folderOf source)).eval w).1 with
  | error failure =>
    rw [hs] at scanned
    rw [build_eval_error scanned] at h
    cases h
  | ok files =>
    rw [hs] at scanned
    rw [build_eval_ok scanned] at h
    cases h
    exact ⟨files, scanned, rfl⟩

theorem build_within {R W : Path → Prop} (c : Convention) (source : String) :
    (build c source).Within Notice.Later R (fun _ ↦ True) W := by
  refine (Script.Within.tell nofun).bind fun _ ↦ (scan_within _).bind fun files ↦ ?_
  exact (matchFiles_within c _ _).bind fun records ↦ .done _

theorem build_reads (c : Convention) (source : String) : (build c source).Reads :=
  (build_within (R := fun _ ↦ False) c source).reads

theorem build_reordered (h : w.Reordered w') :
    ((build c source).eval w').1 = ((build c source).eval w).1 := by
  have scanned := (scan_reads (folderOf source)).eval_eq (w := w)
  have scanned' := (scan_reads (folderOf source)).eval_eq (w := w')
  rw [scan_reordered h] at scanned'
  cases hr : ((scan (folderOf source)).eval w).1 with
  | error failure =>
    rw [hr] at scanned scanned'
    rw [build_eval_error scanned, build_eval_error scanned']
  | ok files =>
    rw [hr] at scanned scanned'
    rw [build_eval_ok scanned, build_eval_ok scanned']

/-- A source that names a folder is scanned completely and makes a record for each test source, in
order; any other one fails by name. The order in which folders list their entries plays no part. -/
theorem scan_complete (w : Workspace) (c : Convention) (source : String) :
    (∀ k l, k ≤ FileTree.mostLinks → w.Leads false k (folderOf source) (.folder l) →
      ∃ files m, (scan (folderOf source)).eval w = (.ok files, w) ∧
        Listing w (folderOf source) k l files ∧
        (build c source).eval w = (.ok m, w) ∧
        ∃ targets : List String,
          (files.map (·.filename)).filter (c.suffix.toList <:+ ·.toList) =
            targets.map (· ++ c.suffix) ∧
          m.records = targets.map (c.recordOf (normalizeSource source))) ∧
    ((∀ k l, k ≤ FileTree.mostLinks → ¬w.Leads false k (folderOf source) (.folder l)) →
      ∃ e, w.list (folderOf source) = .error e ∧ (build c source).eval w =
        (.error (.fileOperation "list directory" (folderOf source) (.system e)), w)) ∧
    ∀ w', w.Reordered w' →
      ((scan (folderOf source)).eval w').1 = ((scan (folderOf source)).eval w).1 ∧
      ((build c source).eval w').1 = ((build c source).eval w).1 := by
  refine ⟨fun k l hk h ↦ ?_, fun h ↦ ?_, fun w' h ↦ ⟨scan_reordered h, build_reordered h⟩⟩
  · obtain ⟨files, scanned, listing⟩ := scan_listing hk h
    obtain ⟨targets, hn, hr⟩ := c.records_eq_map (normalizeSource source) (files.map (·.filename))
    exact ⟨files, _, scanned, listing, build_eval_ok scanned, targets, hn, hr⟩
  · have nowhere (l : Location) : w.locate false (folderOf source) ≠ .ok (.folder l) := by
      intro hl
      obtain ⟨k, hk, hl⟩ := Workspace.locate_eq_ok_iff.1 hl
      exact h k l hk hl
    obtain ⟨e, he⟩ := Workspace.list_eq_error nowhere
    exact ⟨e, he, build_eval_error (scan_eval_error he)⟩

def src : Name := ⟨Utf8.encode "src", by decide⟩

def real : Name := ⟨Utf8.encode "real", by decide⟩

def testSource : Name := ⟨Utf8.encode "a_test.c", by decide⟩

/-- A source behind a link: a test source, a link to it, a folder and a link to itself that are
named like one, and a name that is no text. -/
def sample : Workspace where
  tree :=
    { entries :=
        [([src], .link (.ofString "real")), ([real], .folder),
         ([⟨Utf8.encode "b_test.c", by decide⟩, real], .file []),
         ([testSource, real], .link (.ofString "b_test.c")),
         ([⟨Utf8.encode "c_test.c", by decide⟩, real], .folder),
         ([⟨Utf8.encode "d_test.c", by decide⟩, real], .link (.ofString "d_test.c")),
         ([⟨[0xff], by decide⟩, real], .file [])]
      nodup := by decide }

theorem scan_complete_sample :
    (∃ files m, (scan (folderOf "src")).eval sample = (.ok files, sample) ∧
      Listing sample (folderOf "src") 1 [real] files ∧
      (build {} "src").eval sample = (.ok m, sample)) ∧
    (∃ e, sample.list (folderOf "gone") = .error e ∧ (build {} "gone").eval sample =
      (.error (.fileOperation "list directory" (folderOf "gone") (.system e)), sample)) ∧
    ((build {} "src").eval { tree := ⟨sample.tree.entries.reverse, by decide⟩ }).1 =
      ((build {} "src").eval sample).1 := by
  have way : sample.Leads false 1 (folderOf "src") (.folder [real]) := by
    refine ⟨⟨by decide, by decide, by decide⟩, rfl, _, rfl, .here ?_⟩
    exact .follow (by decide) (by decide) rfl rfl (.enter (by decide) (by decide) rfl (.stay _))
  have gone (k : Nat) (l : Location) (hk : k ≤ FileTree.mostLinks) :
      ¬sample.Leads false k (folderOf "gone") (.folder l) := by
    intro h
    have located := Workspace.locate_eq_ok_iff.2 ⟨k, hk, h⟩
    cases located
  have turned : sample.Reordered { tree := ⟨sample.tree.entries.reverse, by decide⟩ } :=
    ⟨rfl, (List.reverse_perm _).symm⟩
  refine ⟨?_, (scan_complete sample {} "gone").2.1 gone, ?_⟩
  · obtain ⟨files, m, hf, listing, hm, -⟩ :=
      (scan_complete sample {} "src").1 1 [real] (by decide) way
    exact ⟨files, m, hf, listing, hm⟩
  · exact ((scan_complete sample {} "src").2.2 _ turned).2

end Discovery

end TestMatrix
