namespace TestMatrix.Text.Affix

def stripEnd? (text ending : String) : Option String :=
  let kept := text.toList.length - ending.toList.length
  if text.toList.drop kept = ending.toList then some (String.ofList (text.toList.take kept))
  else none

def stripStart? (text beginning : String) : Option String :=
  let used := beginning.toList.length
  if text.toList.take used = beginning.toList then some (String.ofList (text.toList.drop used))
  else none

theorem stripEnd?_eq_some_iff {text ending s : String} :
    stripEnd? text ending = some s ↔ text = s ++ ending := by
  simp only [stripEnd?, ← String.toList_inj, String.toList_append]
  constructor
  · intro h
    split at h
    · next hd =>
      cases h
      rw [String.toList_ofList]
      exact (List.take_append_drop _ _).symm.trans (congrArg _ hd)
    · cases h
  · intro h
    simp [h]

def endsWith (text ending : String) : Bool := (stripEnd? text ending).isSome

def startsWith (text beginning : String) : Bool := (stripStart? text beginning).isSome

end TestMatrix.Text.Affix
