import TestMatrix.Text.Terminal
namespace TestMatrix.Text.Terminal

variable {mode : Mode} {c d : Char} {cs : List Char} {s t s' t' start : String}

def Mode.after (mode : Mode) (cs : List Char) : Mode := cs.foldl (fun m c ↦ (m.step c).2) mode

theorem shown_append (mode : Mode) (cs rest : List Char) :
    mode.shown (cs ++ rest) = mode.shown cs ++ (mode.after cs).shown rest := by
  induction cs generalizing mode with
  | nil => rfl
  | cons c cs ih =>
    simp only [List.cons_append, Mode.shown, ih, List.append_assoc]
    rfl

def isVisible (c : Char) : Bool := isLayout c || 0x20 ≤ c.toNat && c != '\x7f'

theorem step_visible (h : isVisible c) : Mode.text.step c = ([c], .text) := by
  simp only [isVisible, Bool.or_eq_true, Bool.and_eq_true, decide_eq_true_eq] at h
  rcases h with layout | ⟨high, other⟩
  · simp only [isLayout, Bool.or_eq_true, beq_iff_eq] at layout
    rcases layout with ((h | h) | h) | h <;> subst h <;> rfl
  · have kept : isControl c = false := decide_eq_false (Nat.not_lt.2 high)
    have started : c ≠ '\x1b' ∧ c ≠ '\x18' ∧ c ≠ '\x1a' := by
      refine ⟨?_, ?_, ?_⟩ <;> intro h <;> subst h <;> exact absurd high (by decide)
    grind [Mode.step]

theorem shown_visible (h : cs.all isVisible) (rest : List Char) :
    Mode.text.shown (cs ++ rest) = cs ++ Mode.text.shown rest := by
  induction cs with
  | nil => rfl
  | cons c cs ih =>
    rw [List.all_cons, Bool.and_eq_true] at h
    rw [List.cons_append, List.cons_append, Mode.shown, step_visible h.1]
    exact congrArg (c :: ·) (ih h.2)

theorem visible_of_mem_step (h : d ∈ (mode.step c).1) : isVisible d := by
  have beyond (e : Char) (h : 0x80 ≤ e.toNat) : e ≠ '\x7f' := by
    intro same
    rw [same] at h
    exact absurd h (by decide)
  have unreadable : isVisible '\ufffd' := by decide
  cases mode with
  | text | escape | charset | control | command | device =>
    grind [Mode.step, isVisible, isControl]

theorem visible_of_mem_shown (h : c ∈ mode.shown cs) : isVisible c := by
  induction cs generalizing mode with
  | nil => cases h
  | cons d cs ih =>
    rcases List.mem_append.1 h with first | more
    · exact visible_of_mem_step first
    · exact ih more

/-- In whatever mode it is read, the text shows nothing and ends any sequence. -/
def Silent (s : String) : Prop :=
  ∀ (mode : Mode) (rest : List Char), mode.shown (s.toList ++ rest) = Mode.text.shown rest

theorem silent_reset : Silent reset := by
  intro mode rest
  rfl

theorem silent_bold : Silent bold := by
  intro mode rest
  rfl

theorem silent_green : Silent green := by
  intro mode rest
  rfl

theorem silent_underlined : Silent underlined := by
  intro mode rest
  rfl

theorem Silent.append (h : Silent s) (h' : Silent t) : Silent (s ++ t) := by
  intro mode rest
  rw [String.toList_append, List.append_assoc, h, h']

/-- Whatever follows, the first text is shown as the second. -/
def Shows (s t : String) : Prop :=
  ∀ rest, Mode.text.shown (s.toList ++ rest) = t.toList ++ Mode.text.shown rest

theorem Shows.plain_eq (h : Shows s t) : plain s = t := by
  have whole := h []
  rw [List.append_nil] at whole
  rw [plain, whole]
  simp [Mode.shown]

theorem Shows.append (h : Shows s t) (h' : Shows s' t') : Shows (s ++ s') (t ++ t') := by
  intro rest
  rw [String.toList_append, String.toList_append, List.append_assoc, List.append_assoc, h, h']

theorem shows_join {α : Type} {f g : α → String} (h : ∀ a, Shows (f a) (g a)) (l : List α) :
    Shows (String.join (l.map f)) (String.join (l.map g)) := by
  induction l with
  | nil =>
    intro rest
    rfl
  | cons a l ih =>
    rw [List.map_cons, List.map_cons, String.join_cons, String.join_cons]
    exact (h a).append ih

abbrev Legible (s : String) : Prop := s.toList.all isVisible

theorem Legible.shows (h : Legible s) : Shows s s := shown_visible h

theorem legible_plain (s : String) : Legible (plain s) := by
  apply List.all_eq_true.2
  intro c hc
  rw [plain, String.toList_ofList] at hc
  exact visible_of_mem_shown hc

theorem shows_wrap (h : Silent start) (s : String) : Shows (wrap start s) (plain s) := by
  intro rest
  rw [wrap, String.toList_append, String.toList_append, List.append_assoc, List.append_assoc, h,
    shown_append, silent_reset, plain, String.toList_ofList]

theorem Legible.shows_wrap (hs : Legible s) (h : Silent start) : Shows (wrap start s) s := by
  have shown := Terminal.shows_wrap h s
  rwa [hs.shows.plain_eq] at shown

theorem shown_renew (h : Silent start) (mode : Mode) (cs : List Char) :
    mode.shown (renew start.toList cs) = mode.shown cs := by
  induction cs using renew.induct generalizing mode with
  | case1 rest ih =>
    rw [renew, List.append_assoc, silent_reset, h, ih]
    exact (silent_reset mode rest).symm
  | case2 c rest other ih =>
    rw [renew.eq_2 _ _ _ other]
    exact congrArg ((mode.step c).1 ++ ·) (ih _)
  | case3 => rfl

theorem renew_eq_self {first : List Char} (h : '\x1b' ∉ cs) : renew first cs = cs := by
  induction cs using renew.induct with
  | case1 rest ih => exact absurd (.head _) h
  | case2 c rest other ih =>
    rw [renew.eq_2 _ _ _ other, ih fun later ↦ h (.tail _ later)]
  | case3 => rfl

theorem setOff_eq_wrap (h : '\x1b' ∉ s.toList) : setOff start s = wrap start s := by
  rw [setOff, renew_eq_self h, String.ofList_toList]

theorem shows_setOff (h : Silent start) (s : String) : Shows (setOff start s) (plain s) := by
  have inside : plain (String.ofList (renew start.toList s.toList)) = plain s := by
    rw [plain, String.toList_ofList, shown_renew h, plain]
  rw [← inside]
  exact shows_wrap h _

end TestMatrix.Text.Terminal
