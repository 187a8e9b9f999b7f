import TestMatrix.Proofs.Discovery.Records
import TestMatrix.Proofs.FileTree.Closing
namespace TestMatrix

open Text

variable {source directory target : String}

theorem normalizeSource_eq_self (h : ['.', '/'] <+: source.toList) :
    normalizeSource source = source := by
  obtain ⟨rest, hr⟩ := h
  rw [normalizeSource, ← hr]
  rfl

theorem normalizeSource_bare (root : source.toList.head? ≠ some '/')
    (here : ¬['.', '/'] <+: source.toList) : normalizeSource source = "./" ++ source := by
  rw [normalizeSource]
  split
  · next hs => simp [hs] at root
  · next rest hs => exact absurd ⟨rest, hs.symm⟩ here
  · rfl

theorem normalizeSource_rooted (source : String) :
    normalizeSource ("/" ++ source) = "./" ++ source := by
  rw [normalizeSource, String.toList_append]
  change "." ++ ("/" ++ source) = "./" ++ source
  rw [← String.append_assoc]
  rfl

theorem isPrefix_append (source : String) : ['.', '/'] <+: ("./" ++ source).toList := by
  rw [String.toList_append]
  exact List.prefix_append ['.', '/'] source.toList

theorem append_of_head? (h : source.toList.head? = some '/') : ∃ rest, source = "/" ++ rest := by
  obtain ⟨rest, hr⟩ := List.head?_eq_some_iff.1 h
  refine ⟨String.ofList rest, ?_⟩
  rw [← String.toList_inj]
  simpa using hr

theorem isPrefix_normalizeSource (source : String) :
    ['.', '/'] <+: (normalizeSource source).toList := by
  by_cases root : source.toList.head? = some '/'
  · obtain ⟨rest, rfl⟩ := append_of_head? root
    rw [normalizeSource_rooted]
    exact isPrefix_append rest
  by_cases here : ['.', '/'] <+: source.toList
  · rw [normalizeSource_eq_self here]
    exact here
  · rw [normalizeSource_bare root here]
    exact isPrefix_append source

/-- A slash more at the end of a source is a slash more at the end of its directory, unless the
source is empty or turns into `./` by it. -/
theorem normalizeSource_append_slash (hn : source ≠ "") (hd : source ≠ ".") :
    normalizeSource (source ++ "/") = normalizeSource source ++ "/" := by
  by_cases root : source.toList.head? = some '/'
  · obtain ⟨rest, rfl⟩ := append_of_head? root
    rw [String.append_assoc, normalizeSource_rooted, normalizeSource_rooted, String.append_assoc]
  by_cases here : ['.', '/'] <+: source.toList
  · have here' : ['.', '/'] <+: (source ++ "/").toList := by
      rw [String.toList_append]
      exact here.trans (List.prefix_append _ _)
    rw [normalizeSource_eq_self here, normalizeSource_eq_self here']
  obtain ⟨first, rest, hs⟩ := List.exists_cons_of_ne_nil (mt String.toList_eq_nil_iff.1 hn)
  have root' : (source ++ "/").toList.head? ≠ some '/' := by
    rw [hs] at root
    simpa [hs] using root
  have here' : ¬['.', '/'] <+: (source ++ "/").toList := by
    intro h
    rw [String.toList_append, hs, List.cons_append, List.cons_prefix_cons] at h
    obtain ⟨rfl, h⟩ := h
    cases rest with
    | nil => exact hd (String.toList_inj.1 hs)
    | cons second rest =>
      rw [List.cons_append, List.cons_prefix_cons] at h
      obtain ⟨rfl, -⟩ := h
      exact here (hs ▸ ⟨rest, rfl⟩)
  rw [normalizeSource_bare root here, normalizeSource_bare root' here', String.append_assoc]

theorem getLast?_normalizeSource (hn : source ≠ "") :
    (normalizeSource source).toList.getLast? = source.toList.getLast? := by
  have filled : source.toList ≠ [] := mt String.toList_eq_nil_iff.1 hn
  have behind (front : String) : (front ++ source).toList.getLast? = source.toList.getLast? := by
    rw [String.toList_append, List.getLast?_append_of_ne_nil _ filled]
  rw [normalizeSource]
  split
  · exact behind "."
  · rfl
  · exact behind "./"

theorem targetPath_append_slash (hn : directory ≠ "") (hd : directory.toList.getLast? ≠ some '/')
    (target : String) : targetPath (directory ++ "/") target = targetPath directory target := by
  have filled : directory ++ "/" ≠ "" := by simp
  have stems : stem (directory ++ "/") = stem directory := by simp [stem, hd]
  rw [targetPath_eq hn, targetPath_eq filled, stems]

namespace Discovery

variable {w : Workspace} {c : Convention} {p : Path} {names : List Name} {e : SystemError}

theorem build_listed (listed : w.list (folderOf source) = .ok names) :
    ((build c source).eval w).1 =
      .ok ⟨((FoundFile.sort (names.filterMap (found? w (folderOf source)))).map
        (·.filename)).filterMap (c.record? (normalizeSource source))⟩ := by
  rw [build_eval_ok (scan_eval_ok listed)]

theorem build_unlisted (unlisted : w.list (folderOf source) = .error e) :
    ((build c source).eval w).1 =
      .error (.fileOperation "list directory" (folderOf source) (.system e)) := by
  rw [build_eval_error (scan_eval_error unlisted)]

/-- Two sources make the same manifest, or fail with the same error of the system. -/
def SameFor (c : Convention) (logger : Logger) (s : Session) (source other : String) : Prop :=
  (∃ m, ((build c source).run logger s).1 = .ok m ∧ ((build c other).run logger s).1 = .ok m) ∨
    ∃ e, ((build c source).run logger s).1 =
        .error (.fileOperation "list directory" (folderOf source) (.system e)) ∧
      ((build c other).run logger s).1 =
        .error (.fileOperation "list directory" (folderOf other) (.system e))

theorem build_eq_of_normalizeSource {other : String} (logger : Logger) (s : Session)
    (h : normalizeSource other = normalizeSource source) :
    ((build c other).run logger s).1 = ((build c source).run logger s).1 := by
  rw [build_run, build_run]
  have folders : folderOf other = folderOf source := by rw [folderOf, h, folderOf]
  cases listed : s.workspace.list (folderOf source) with
  | ok names => rw [build_listed listed, build_listed (folders ▸ listed), folders, h]
  | error e => rw [build_unlisted listed, build_unlisted (folders ▸ listed), folders]

theorem found?_close (hn : p.bytes ≠ []) (he : p.endsWithSlash = false) :
    found? w p.close = found? w p := by
  funext n
  rw [found?, found?, Path.join_close hn he]

theorem folderOf_append_slash (hn : source ≠ "") (hd : source ≠ ".") :
    folderOf (source ++ "/") = (folderOf source).close := by
  rw [folderOf, normalizeSource_append_slash hn hd, Path.ofString, Utf8.encode_append]
  rfl

theorem endsWithSlash_folderOf (hn : source ≠ "") (hs : source.toList.getLast? ≠ some '/') :
    (folderOf source).endsWithSlash = false := by
  have last : (Utf8.encode (normalizeSource source)).getLast? ≠ some slash := by
    rw [← getLast?_normalizeSource hn] at hs
    exact mt (Utf8.getLast?_encode_iff (a := '/') (by decide)).1 hs
  exact beq_eq_false_iff_ne.2 last

theorem folderOf_ne_nil (source : String) : (folderOf source).bytes ≠ [] :=
  mt Utf8.encode_eq_nil_iff.1 (normalizeSource_ne_empty source)

theorem build_append_slash (logger : Logger) (s : Session) (hs : source.toList.getLast? ≠ some '/')
    (hd : source ≠ ".") (short : (folderOf (source ++ "/")).bytes.length ≤ FileTree.longestPath) :
    SameFor c logger s source (source ++ "/") := by
  rw [SameFor]
  simp only [build_run]
  by_cases hn : source = ""
  · subst hn
    cases listed : s.workspace.list (folderOf "") with
    | ok names => exact .inl ⟨_, build_listed listed, build_listed listed⟩
    | error e => exact .inr ⟨e, build_unlisted listed, build_unlisted listed⟩
  have closed := endsWithSlash_folderOf hn hs
  have folder := folderOf_append_slash hn hd
  have listing : s.workspace.list (folderOf (source ++ "/")) =
      s.workspace.list (folderOf source) := by
    rw [folder] at short ⊢
    exact Workspace.list_close (folderOf_ne_nil source) closed short
  cases listed : s.workspace.list (folderOf source) with
  | error e =>
    exact .inr ⟨e, build_unlisted listed, build_unlisted (listing.trans listed)⟩
  | ok names =>
    have last : (normalizeSource source).toList.getLast? ≠ some '/' := by
      rwa [getLast?_normalizeSource hn]
    have records : c.record? (normalizeSource (source ++ "/")) =
        c.record? (normalizeSource source) := by
      funext filename
      simp only [Convention.record?, normalizeSource_append_slash hn hd,
        targetPath_append_slash (normalizeSource_ne_empty source) last]
    refine .inl ⟨_, build_listed listed, ?_⟩
    rw [build_listed (listing.trans listed), records, folder,
      found?_close (folderOf_ne_nil source) closed]

/-- However the source is written, the manifest is the same: with or without what makes it relative,
with or without a slash at its end, and in the form that it is shown in. -/
theorem build_every_form (c : Convention) (logger : Logger) (s : Session) (source : String) :
    (source.toList.head? ≠ some '/' → ¬['.', '/'] <+: source.toList →
      ((build c ("./" ++ source)).run logger s).1 = ((build c source).run logger s).1 ∧
      ((build c ("/" ++ source)).run logger s).1 = ((build c source).run logger s).1) ∧
    (source.toList.getLast? ≠ some '/' → source ≠ "." →
      (folderOf (source ++ "/")).bytes.length ≤ FileTree.longestPath →
      SameFor c logger s source (source ++ "/")) ∧
    ['.', '/'] <+: (normalizeSource source).toList ∧
    normalizeSource (normalizeSource source) = normalizeSource source ∧
    ((build c (normalizeSource source)).run logger s).1 = ((build c source).run logger s).1 := by
  have again := normalizeSource_eq_self (isPrefix_normalizeSource source)
  refine ⟨fun root here ↦ ⟨?_, ?_⟩, build_append_slash logger s, isPrefix_normalizeSource source,
    again, build_eq_of_normalizeSource logger s again⟩
  · refine build_eq_of_normalizeSource logger s ?_
    rw [normalizeSource_eq_self (isPrefix_append source), normalizeSource_bare root here]
  · refine build_eq_of_normalizeSource logger s ?_
    rw [normalizeSource_rooted, normalizeSource_bare root here]

/-- The source is a link to a folder, and then a file, which no form of its name makes a folder. -/
theorem build_every_form_sample : ∃ m : Manifest, m.size = 2 ∧
    (∀ source ∈ ["src", "./src", "/src", "src/"],
      ((build {} source).run {} { workspace := sample }).1 = .ok m) ∧
    ∀ source ∈ ["real/b_test.c", "real/b_test.c/"],
      ((build {} source).run {} { workspace := sample }).1 =
        .error (.fileOperation "list directory" (folderOf source) (.system .notFolder)) := by
  have plain : ∃ m : Manifest, m.size = 2 ∧
      ((build {} "src").run {} { workspace := sample }).1 = .ok m := ⟨_, rfl, rfl⟩
  have file : ((build {} "real/b_test.c").run {} { workspace := sample }).1 =
      .error (.fileOperation "list directory" (folderOf "real/b_test.c") (.system .notFolder)) := rfl
  obtain ⟨m, size, plain⟩ := plain
  obtain ⟨bare, closed, -⟩ := build_every_form {} {} { workspace := sample } "src"
  obtain ⟨here, root⟩ := bare (by decide) (by decide)
  have closed := closed (by decide) (by decide) (by decide)
  have closed' := (build_every_form {} {} { workspace := sample } "real/b_test.c").2.1 (by decide)
    (by decide) (by decide)
  refine ⟨m, size, ?_, ?_⟩
  · simp only [List.forall_mem_cons]
    refine ⟨plain, here.trans plain, root.trans plain, ?_, by simp⟩
    rcases closed with ⟨m', first, second⟩ | ⟨e, first, -⟩
    · cases plain.symm.trans first
      exact second
    · cases plain.symm.trans first
  · simp only [List.forall_mem_cons]
    refine ⟨file, ?_, by simp⟩
    rcases closed' with ⟨m', first, -⟩ | ⟨e, first, second⟩
    · cases file.symm.trans first
    · cases file.symm.trans first
      exact second

end Discovery

end TestMatrix
