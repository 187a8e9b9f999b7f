import TestMatrix.Settings
import TestMatrix.Yaml.Grammar
namespace TestMatrix

open Yaml

namespace SettingsFile

variable (d : Document)

/-- Any scalar is a text, however it is written. -/
def textOf (n : Node) : Except Fault String :=
  match d.resolve n with
  | .scalar _ _ text => .ok text
  | _ => .error .expectedText

def flagTag : Bytes := Text.Utf8.encode "tag:yaml.org,2002:bool"

def flagWords : List (String × Bool) :=
  [("true", true), ("True", true), ("TRUE", true), ("false", false), ("False", false),
   ("FALSE", false)]

/-- A boolean is a plain word, or a literal block that is tagged as one. -/
def flagOf (n : Node) : Except Fault Bool :=
  match d.resolve n with
  | .scalar p style text =>
    match (if style = .plain ∨ (style = .literal ∧ p.tag = some flagTag) then
      flagWords.lookup text else none) with
    | some b => .ok b
    | none => .error .expectedFlag
  | _ => .error .expectedFlag

/-- The entries of a mapping. An empty plain value counts as a mapping without entries. -/
def entriesOf (n : Node) : Except Fault (List (Node × Node)) :=
  match d.resolve n with
  | .mapping _ entries => .ok entries
  | .scalar _ style text => if style = .plain ∧ text = "" then .ok [] else .error .expectedMapping
  | _ => .error .expectedMapping

def fill {α : Type} (name : String) (slot : Option α) (value : Except Fault α) :
    Except Fault (Option α) :=
  match slot with
  | some _ => .error (.repeatedField name)
  | none => some <$> value

structure ConventionFields where
  extension : Option String := none
  testMarker : Option String := none
  targetMarker : Option String := none

def ConventionFields.take (f : ConventionFields) (entry : Node × Node) :
    Except Fault ConventionFields := do
  let key ← textOf d entry.1
  if key = "extension" then
    return { f with extension := ← fill key f.extension (textOf d entry.2) }
  else if key = "test_marker" then
    return { f with testMarker := ← fill key f.testMarker (textOf d entry.2) }
  else if key = "target_marker" then
    return { f with targetMarker := ← fill key f.targetMarker (textOf d entry.2) }
  else return f

def conventionOf (n : Node) : Except Fault Convention := do
  let f ← (← entriesOf d n).foldlM (ConventionFields.take d) {}
  let c : Convention := {}
  return ⟨f.extension.getD c.extension, f.testMarker.getD c.testMarker,
    f.targetMarker.getD c.targetMarker⟩

structure Fields where
  output : Option Path := none
  pretty : Option Bool := none
  convention : Option Convention := none

def Fields.take (f : Fields) (entry : Node × Node) : Except Fault Fields := do
  let key ← textOf d entry.1
  if key = "output" then
    return { f with output := ← fill key f.output (Path.ofString <$> textOf d entry.2) }
  else if key = "pretty" then
    return { f with pretty := ← fill key f.pretty (flagOf d entry.2) }
  else if key = "convention" then
    return { f with convention := ← fill key f.convention (conventionOf d entry.2) }
  else return f

def settingsOf (n : Node) : Except Fault Settings := do
  let f ← (← entriesOf d n).foldlM (Fields.take d) {}
  let s : Settings := {}
  return ⟨f.output.getD s.output, f.pretty.getD s.pretty, f.convention.getD s.convention⟩

end SettingsFile

/-- A document without a value sets nothing. -/
def Settings.ofDocument (d : Document) : Except Yaml.Fault Settings :=
  match d.root with
  | none => .ok {}
  | some root => SettingsFile.settingsOf d root

def Settings.ofText (s : String) : Except Yaml.Fault Settings := do ofDocument (← Document.ofText s)

end TestMatrix
