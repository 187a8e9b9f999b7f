import TestMatrix.Yaml.Cursor
import TestMatrix.Yaml.Quoted
import TestMatrix.Yaml.Token
namespace TestMatrix.Yaml.Markup

open Text

def takeWord (c : Cursor) : String × Cursor :=
  (String.ofList (c.rest.takeWhile isWordChar), c.skipWhile isWordChar)

def endsName (rest : List Char) : Bool :=
  isGap rest || rest.head?.any fun c ↦ ['?', ':', ',', ']', '\x7d', '%', '@', '\x60'].contains c

def name (c : Cursor) : Except Fault (String × Cursor) :=
  let (word, c) := takeWord (c.skip 1)
  if word = "" ∨ !endsName c.rest then .error .anchorName else .ok (word, c)

/-- Characters of a tag; only a bracketed tag or the expansion of a handle may hold the last
three. -/
def isTagChar (bracketed : Bool) (c : Char) : Bool :=
  isWordChar c ||
    [';', '/', '?', ':', '@', '&', '=', '+', '$', '.', '!', '~', '*', '\'', '(', ')'].contains c ||
    (bracketed && (c == ',' || c == '[' || c == ']'))

def following? (b : Nat) : Option Nat :=
  if b < 0x80 then some 0
  else if 0xc0 ≤ b && b < 0xe0 then some 1
  else if 0xe0 ≤ b && b < 0xf0 then some 2
  else if 0xf0 ≤ b && b < 0xf8 then some 3
  else none

def escapedByte (due : Nat) (high low : Char) : Except Fault (UInt8 × Nat) :=
  match Quoted.hexDigit? high, Quoted.hexDigit? low with
  | some h, some l =>
    let b := h * 16 + l
    if due = 0 then
      match following? b with
      | some n => .ok (b.toUInt8, n)
      | none => .error .tagEscape
    else if 0x80 ≤ b && b < 0xc0 then .ok (b.toUInt8, due - 1)
    else .error .tagEscape
  | _, _ => .error .tagEscape

def tagText (bracketed : Bool) (text : Bytes) (due : Nat) (m : Mark) :
    List Char → Except Fault (Bytes × Cursor)
  | '%' :: high :: low :: rest => do
    let (b, due) ← escapedByte due high low
    tagText bracketed (b :: text) due (m.skip 3) rest
  | [] => if due = 0 then .ok (text.reverse, ⟨m, []⟩) else .error .tagEscape
  | c :: rest =>
    if due ≠ 0 ∨ c = '%' then .error .tagEscape
    else if isTagChar bracketed c then
      tagText bracketed ((Utf8.encode c.toString).reverse ++ text) 0 (m.skip 1) rest
    else .ok (text.reverse, ⟨m, c :: rest⟩)

def takeTagText (bracketed : Bool) (c : Cursor) : Except Fault (Bytes × Cursor) :=
  tagText bracketed [] 0 c.mark c.rest

def bracketedTag (c : Cursor) : Except Fault (Token × Cursor) := do
  let (text, c) ← takeTagText true (c.skip 2)
  if text = [] ∨ c.rest.head? ≠ some '>' then throw .tag
  return (.tag "" text, c.skip 1)

/-- A tag with a handle of its own, or with the handle that is a single mark. -/
def handledTag (c : Cursor) : Except Fault (Token × Cursor) := do
  let (word, c) := takeWord (c.skip 1)
  if c.rest.head? = some '!' then
    let (text, c) ← takeTagText false (c.skip 1)
    if text = [] then throw .tag
    return (.tag s!"!{word}!" text, c)
  else
    let (text, c) ← takeTagText false c
    let suffix := Utf8.encode word ++ text
    return (if suffix = [] then .tag "" (Utf8.encode "!") else .tag "!" suffix, c)

def tag (flow : Bool) (c : Cursor) : Except Fault (Token × Cursor) := do
  let (token, c) ← if (c.rest.drop 1).head? = some '<' then bracketedTag c else handledTag c
  if isGap c.rest || (flow && c.rest.head? == some ',') then return (token, c) else throw .tag

def number (c : Cursor) : Except Fault (Nat × Cursor) :=
  let digits := c.rest.takeWhile Char.isDigit
  if digits = [] ∨ 9 < digits.length then .error .directive
  else .ok (digits.foldl (fun n d ↦ n * 10 + (d.toNat - 0x30)) 0, c.skip digits.length)

def version (c : Cursor) : Except Fault (Token × Cursor) := do
  let (major, c) ← number c.skipBlanks
  if c.rest.head? ≠ some '.' then throw .directive
  let (minor, c) ← number (c.skip 1)
  return (.version major minor, c)

def handle (c : Cursor) : Except Fault (Token × Cursor) := do
  let c := c.skipBlanks
  if c.rest.head? ≠ some '!' then throw .directive
  let (word, c) := takeWord (c.skip 1)
  let closed := c.rest.head? = some '!'
  if !closed && word ≠ "" then throw .directive
  let c := if closed then c.skip 1 else c
  if !c.rest.head?.any isBlank then throw .directive
  let (expansion, c) ← takeTagText true c.skipBlanks
  if expansion = [] ∨ !isGap c.rest then throw .directive
  return (.handle (if closed then s!"!{word}!" else "!") expansion, c)

def directive (c : Cursor) : Except Fault (Token × Cursor) := do
  let (word, c) := takeWord (c.skip 1)
  if !isGap c.rest then throw .directive
  let (token, c) ←
    if word = "YAML" then version c
    else if word = "TAG" then handle c
    else throw .directive
  return (token, ← c.endLine .directive)

end TestMatrix.Yaml.Markup
