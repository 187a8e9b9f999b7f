import TestMatrix.FileTree.Walk
import TestMatrix.Proofs.Results
namespace TestMatrix

namespace FileTree

/-- From `l` the segments lead to a place, and `k` links are followed on the way. A chain of links
may have any length here: it is a walk that has a limit. -/
inductive Leads (t : FileTree) (creating : Bool) : Nat → Location → List Segment → Place → Prop
  | stay (l : Location) : t.Leads creating 0 l [] (.folder l)
  | here {k : Nat} {l : Location} {rest : List Segment} {p : Place} :
      t.Leads creating k l rest p → t.Leads creating k l (.here :: rest) p
  | close {k : Nat} {l : Location} {rest : List Segment} {p : Place} :
      t.Leads creating k l rest p → t.Leads creating k l (.close :: rest) p
  | up {k : Nat} {l : Location} {rest : List Segment} {p : Place} :
      t.Leads creating k l.tail rest p → t.Leads creating k l (.up :: rest) p
  | free {l : Location} {n : Name} : n.bytes.length ≤ longestName → t.entry? (n :: l) = none →
      t.Leads creating 0 l [.name n] (.free l n)
  | file {l : Location} {n : Name} {content : Bytes} : n.bytes.length ≤ longestName →
      t.entry? (n :: l) = some (.file content) →
      t.Leads creating 0 l [.name n] (.file (n :: l) content)
  | enter {k : Nat} {l : Location} {n : Name} {rest : List Segment} {p : Place} :
      n.bytes.length ≤ longestName → ¬(creating ∧ rest = [.close]) →
      t.entry? (n :: l) = some .folder → t.Leads creating k (n :: l) rest p →
      t.Leads creating k l (.name n :: rest) p
  | follow {k : Nat} {l : Location} {n : Name} {target : Path} {segments rest : List Segment}
      {p : Place} : n.bytes.length ≤ longestName → ¬(creating ∧ rest = [.close]) →
      t.entry? (n :: l) = some (.link target) → target.segments = .ok segments →
      t.Leads creating k (if target.isAbsolute then [] else l) (segments ++ rest) p →
      t.Leads creating (k + 1) l (.name n :: rest) p

variable (t : FileTree) (creating : Bool)

def walkLink : Nat → Location → Path → List Segment → Except SystemError Place
  | 0, _, _, _ => .error .tooManyLinks
  | links + 1, l, target, rest => do
    let segments ← target.segments
    t.walk creating links (if target.isAbsolute then [] else l) (segments ++ rest)

theorem walk_eq (links : Nat) :
    t.walk creating links = t.walkPlain creating (t.walkLink creating links) := by
  cases links <;> rfl

theorem walk_nil (links : Nat) (l : Location) : t.walk creating links l [] = .ok (.folder l) := by
  rw [walk_eq]; rfl

theorem walk_here (links : Nat) (l : Location) (rest : List Segment) :
    t.walk creating links l (.here :: rest) = t.walk creating links l rest := by
  rw [walk_eq]; rfl

theorem walk_close (links : Nat) (l : Location) (rest : List Segment) :
    t.walk creating links l (.close :: rest) = t.walk creating links l rest := by
  rw [walk_eq]; rfl

theorem walk_up (links : Nat) (l : Location) (rest : List Segment) :
    t.walk creating links l (.up :: rest) = t.walk creating links l.tail rest := by
  rw [walk_eq]; rfl

theorem walk_name (links : Nat) (l : Location) (n : Name) (rest : List Segment) :
    t.walk creating links l (.name n :: rest) =
      if creating ∧ rest = [.close] then .error .isFolder
      else if longestName < n.bytes.length then .error .nameTooLong
      else
        match t.entry? (n :: l) with
        | none => if rest = [] then .ok (.free l n) else .error .notFound
        | some .folder => t.walk creating links (n :: l) rest
        | some (.file content) =>
          if rest = [] then .ok (.file (n :: l) content) else .error .notFolder
        | some (.link target) => t.walkLink creating links l target rest := by
  rw [walk_eq]; rfl

variable {t creating}

theorem walkPlain_congr {t' : FileTree} (h : ∀ l, t.entry? l = t'.entry? l)
    (follow : Location → Path → List Segment → Except SystemError Place) (l : Location)
    (segments : List Segment) :
    t.walkPlain creating follow l segments = t'.walkPlain creating follow l segments := by
  induction segments generalizing l with
  | nil => rfl
  | cons s rest ih =>
    cases s with
    | here | close | up => simp only [walkPlain, ih]
    | name n => simp only [walkPlain, h, ih]

theorem walk_congr {t' : FileTree} (h : ∀ l, t.entry? l = t'.entry? l) (links : Nat) :
    t.walk creating links = t'.walk creating links := by
  induction links with
  | zero => exact funext fun l ↦ funext (walkPlain_congr h _ l)
  | succ links ih =>
    funext l segments
    rw [walk, walk, ih]
    exact walkPlain_congr h _ l segments

theorem Leads.walk_eq {k : Nat} {l : Location} {segments : List Segment} {p : Place}
    (h : t.Leads creating k l segments p) {links : Nat} (hk : k ≤ links) :
    t.walk creating links l segments = .ok p := by
  induction h generalizing links with
  | stay => exact walk_nil ..
  | here _ ih => rw [walk_here, ih hk]
  | close _ ih => rw [walk_close, ih hk]
  | up _ ih => rw [walk_up, ih hk]
  | free hn he => simp [walk_name, he, Nat.not_lt.2 hn]
  | file hn he => simp [walk_name, he, Nat.not_lt.2 hn]
  | enter hn hc he _ ih => rw [walk_name, if_neg hc, if_neg (Nat.not_lt.2 hn), he, ih hk]
  | follow hn hc he hs _ ih =>
    obtain ⟨links, rfl⟩ := Nat.exists_eq_add_of_le' (Nat.zero_lt_of_lt hk)
    rw [walk_name, if_neg hc, if_neg (Nat.not_lt.2 hn), he]
    simp only [walkLink, hs]
    exact ih (Nat.le_of_succ_le_succ hk)

/-- One level of links: what the links lead to is known, and the walk goes on between them. -/
theorem leads_of_links {links : Nat}
    (hlink : ∀ l target rest p, t.walkLink creating links l target rest = .ok p →
      ∃ k < links, ∃ segments, target.segments = .ok segments ∧
        t.Leads creating k (if target.isAbsolute then [] else l) (segments ++ rest) p)
    {l : Location} {segments : List Segment} {p : Place}
    (h : t.walk creating links l segments = .ok p) :
    ∃ k ≤ links, t.Leads creating k l segments p := by
  induction segments generalizing l with
  | nil =>
    rw [walk_nil] at h
    cases h
    exact ⟨0, Nat.zero_le _, .stay l⟩
  | cons s rest ih =>
    cases s with
    | here =>
      obtain ⟨k, hk, hr⟩ := ih (walk_here .. ▸ h)
      exact ⟨k, hk, .here hr⟩
    | close =>
      obtain ⟨k, hk, hr⟩ := ih (walk_close .. ▸ h)
      exact ⟨k, hk, .close hr⟩
    | up =>
      obtain ⟨k, hk, hr⟩ := ih (walk_up .. ▸ h)
      exact ⟨k, hk, .up hr⟩
    | name n =>
      rw [walk_name] at h
      split at h
      · cases h
      next hc =>
      split at h
      · cases h
      next hn =>
      have hn := Nat.not_lt.1 hn
      split at h
      · next he =>
        split at h
        · next hr => cases h; subst hr; exact ⟨0, Nat.zero_le _, .free hn he⟩
        · cases h
      · next he =>
        obtain ⟨k, hk, hr⟩ := ih h
        exact ⟨k, hk, .enter hn hc he hr⟩
      · next content he =>
        split at h
        · next hr => cases h; subst hr; exact ⟨0, Nat.zero_le _, .file hn he⟩
        · cases h
      · next target he =>
        obtain ⟨k, hk, segments, hs, hr⟩ := hlink _ _ _ _ h
        exact ⟨k + 1, hk, .follow hn hc he hs hr⟩

theorem leads_of_walk {links : Nat} {l : Location} {segments : List Segment} {p : Place}
    (h : t.walk creating links l segments = .ok p) :
    ∃ k ≤ links, t.Leads creating k l segments p := by
  induction links generalizing l segments p with
  | zero => exact leads_of_links (fun _ _ _ _ h ↦ by cases h) h
  | succ links ih =>
    refine leads_of_links (fun l target rest p h ↦ ?_) h
    obtain ⟨segments, hs, h⟩ := ok_of_bind h
    obtain ⟨k, hk, hr⟩ := ih h
    exact ⟨k, Nat.lt_succ_of_le hk, segments, hs, hr⟩

/-- A walk finds what the segments lead to, if the links on the way are not too many. -/
theorem walk_eq_ok_iff {links : Nat} {l : Location} {segments : List Segment} {p : Place} :
    t.walk creating links l segments = .ok p ↔ ∃ k ≤ links, t.Leads creating k l segments p :=
  ⟨leads_of_walk, fun ⟨_, hk, h⟩ ↦ h.walk_eq hk⟩

theorem Leads.unique {k k' : Nat} {l : Location} {segments : List Segment} {p p' : Place}
    (h : t.Leads creating k l segments p) (h' : t.Leads creating k' l segments p') :
    k = k' ∧ p = p' := by
  induction h generalizing k' with
  | stay => cases h'; exact ⟨rfl, rfl⟩
  | here _ ih | close _ ih | up _ ih => cases h' with | _ h' => exact ih h'
  | free _ he => cases h' <;> simp_all
  | file _ he => cases h' <;> simp_all
  | enter _ _ he _ ih =>
    cases h' with
    | enter _ _ _ h' => exact ih h'
    | free | file | follow => simp_all
  | follow _ _ he hs _ ih =>
    cases h' with
    | follow _ _ he' hs' h' =>
      cases he.symm.trans he'
      cases hs.symm.trans hs'
      obtain ⟨hk, hp⟩ := ih h'
      exact ⟨congrArg (· + 1) hk, hp⟩
    | free | file | enter => simp_all

theorem Leads.append {k k' : Nat} {l l' : Location} {segments more : List Segment} {p : Place}
    (h : t.Leads false k l segments (.folder l')) (h' : t.Leads false k' l' more p) :
    t.Leads false (k + k') l (segments ++ more) p := by
  generalize hp : Place.folder l' = place at h
  induction h with
  | stay => cases hp; rwa [Nat.zero_add]
  | here _ ih => exact .here (ih hp)
  | close _ ih => exact .close (ih hp)
  | up _ ih => exact .up (ih hp)
  | free | file => cases hp
  | enter hn _ he _ ih => exact .enter hn (by simp) he (ih hp)
  | follow hn _ he hs _ ih =>
    have h := ih hp
    rw [List.append_assoc] at h
    rw [Nat.add_right_comm, List.cons_append]
    exact .follow hn (by simp) he hs h

/-- After the segments that lead to a folder, the way goes on from that folder. -/
theorem Leads.of_append {k k' : Nat} {l l' : Location} {segments more : List Segment} {p : Place}
    (h : t.Leads false k l segments (.folder l')) (h' : t.Leads false k' l (segments ++ more) p) :
    ∃ k₂, k' = k + k₂ ∧ t.Leads false k₂ l' more p := by
  generalize hp : Place.folder l' = place at h
  induction h generalizing k' with
  | stay => cases hp; exact ⟨k', (Nat.zero_add k').symm, h'⟩
  | here _ ih | close _ ih | up _ ih => cases h' with | _ h' => exact ih h' hp
  | free | file => cases hp
  | @enter _ _ _ rest _ _ _ he _ ih =>
    rw [List.cons_append] at h'
    generalize hr : rest ++ more = after at h'
    cases h' with
    | enter _ _ _ h' => exact ih (hr ▸ h') hp
    | free | file | follow => simp_all
  | @follow _ _ _ _ _ rest _ _ _ he hs _ ih =>
    rw [List.cons_append] at h'
    generalize hr : rest ++ more = after at h'
    cases h' with
    | follow _ _ he' hs' h' =>
      cases he.symm.trans he'
      cases hs.symm.trans hs'
      rw [← hr, ← List.append_assoc] at h'
      obtain ⟨k₂, hk, h₂⟩ := ih h' hp
      exact ⟨k₂, by omega, h₂⟩
    | free | file | enter => simp_all

theorem Leads.of_close {k : Nat} {l l' : Location} {segments : List Segment}
    (h : t.Leads false k l (segments ++ [.close]) (.folder l')) :
    t.Leads false k l segments (.folder l') := by
  generalize hs : segments ++ [.close] = all at h
  generalize hp : Place.folder l' = place at h
  induction h generalizing segments with
  | stay => simp at hs
  | free | file => cases hp
  | here _ ih =>
    cases segments with
    | nil => cases hs
    | cons s segments => cases hs; exact .here (ih rfl hp)
  | close h ih =>
    cases segments with
    | nil => cases hs; exact h
    | cons s segments => cases hs; exact .close (ih rfl hp)
  | up _ ih =>
    cases segments with
    | nil => cases hs
    | cons s segments => cases hs; exact .up (ih rfl hp)
  | enter hn _ he _ ih =>
    cases segments with
    | nil => cases hs
    | cons s segments => cases hs; exact .enter hn (by simp) he (ih rfl hp)
  | @follow _ _ _ _ between _ _ hn _ he ht _ ih =>
    cases segments with
    | nil => cases hs
    | cons s segments =>
      cases hs
      exact .follow hn (by simp) he ht (ih (List.append_assoc ..) hp)

end FileTree

end TestMatrix
