import TestMatrix.Json.Text
namespace TestMatrix.Json

/-- Whether values stand on one line, or each on its own with two spaces for each level. -/
inductive Layout
  | compact
  | pretty
deriving DecidableEq, Repr

namespace Layout

def ofPretty (pretty : Bool) : Layout := if pretty then .pretty else .compact

def lineBreak (l : Layout) (depth : Nat) : List Char :=
  match l with
  | compact => []
  | pretty => '\n' :: List.replicate (2 * depth) ' '

def colon : Layout → List Char
  | compact => [':']
  | pretty => [':', ' ']

def items (l : Layout) (depth : Nat) : List (List Char) → List Char
  | [] => l.lineBreak depth
  | [item] => l.lineBreak (depth + 1) ++ item ++ l.lineBreak depth
  | item :: rest => l.lineBreak (depth + 1) ++ item ++ ',' :: l.items depth rest

def array (l : Layout) (depth : Nat) (contents : List (List Char)) : List Char :=
  if contents = [] then ['[', ']'] else '[' :: (l.items depth contents ++ [']'])

def object (l : Layout) (depth : Nat) (members : List (String × List Char)) : List Char :=
  let contents := members.map fun (key, value) ↦ quote key ++ l.colon ++ value
  if contents = [] then ['\x7b', '\x7d'] else '\x7b' :: (l.items depth contents ++ ['\x7d'])

end Layout

end TestMatrix.Json
