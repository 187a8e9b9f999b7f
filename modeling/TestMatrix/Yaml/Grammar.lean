import TestMatrix.Yaml.Lexer
import TestMatrix.Yaml.Node
namespace TestMatrix.Yaml

open Text

/-- The tokens still to be read, with the tag handles and the anchors in use. -/
structure Reader where
  tokens : List Token
  handles : List (String × Bytes) := []
  anchors : List (String × Nat) := []
deriving Repr

namespace Reader

/-- Where a value stands: in a flow collection, in a block, or as a key or value of a block mapping,
where a sequence needs no indentation. -/
inductive Place
  | flow
  | block
  | entry
deriving DecidableEq, Repr

def rest (r : Reader) (tokens : List Token) : Reader := { r with tokens }

def setAnchor (r : Reader) (name : String) : Nat × Reader :=
  let number := r.anchors.length
  let others := r.anchors.filter (·.1 ≠ name)
  (number, { r with anchors := (name, number) :: others })

def tag (r : Reader) (handle : String) (suffix : Bytes) : Except Fault Bytes :=
  if handle = "" then .ok suffix
  else
    match r.handles.lookup handle with
    | some expansion => .ok (expansion ++ suffix)
    | none => .error (.unknownHandle handle)

def properties (r : Reader) : Except Fault (Properties × Reader) :=
  match r.tokens with
  | .anchor name :: .tag handle suffix :: tokens => do
    let tag ← r.tag handle suffix
    let (number, r) := r.setAnchor name
    return (⟨some number, some tag⟩, r.rest tokens)
  | .tag handle suffix :: .anchor name :: tokens => do
    let tag ← r.tag handle suffix
    let (number, r) := r.setAnchor name
    return (⟨some number, some tag⟩, r.rest tokens)
  | .anchor name :: tokens =>
    let (number, r) := r.setAnchor name
    .ok (⟨some number, none⟩, r.rest tokens)
  | .tag handle suffix :: tokens => do
    return (⟨none, some (← r.tag handle suffix)⟩, r.rest tokens)
  | _ => .ok ({}, r)

def absent (r : Reader) (p : Properties) : Except Fault (Node × Reader) :=
  if p = {} then .error .expectedContent else .ok (Node.empty p, r)

def separated (first : Bool) (tokens : List Token) : Except Fault (List Token) :=
  if first then .ok tokens
  else
    match tokens with
    | .comma :: tokens => .ok tokens
    | _ => .error .expectedComma

def endsItem : List Token → Bool
  | .entry :: _ | .blockEnd :: _ => true
  | _ => false

def endsBareItem : List Token → Bool
  | .entry :: _ | .key :: _ | .value :: _ | .blockEnd :: _ => true
  | _ => false

def endsBlockPart : List Token → Bool
  | .key :: _ | .value :: _ | .blockEnd :: _ => true
  | _ => false

def endsFlowPart : List Token → Bool
  | .comma :: _ | .closeMapping :: _ => true
  | _ => false

def endsPairPart : List Token → Bool
  | .comma :: _ | .closeSequence :: _ => true
  | _ => false

/-- What may stand in the place of a key that is left out of a pair in a flow sequence. -/
def endsPairKey : List Token → Bool
  | .value :: _ => true
  | tokens => endsPairPart tokens

mutual

/-- Each step that nests or goes on takes a token within three calls, which bounds `fuel`. -/
def node (place : Place) (r : Reader) : Nat → Except Fault (Node × Reader)
  | 0 => .error .unfinished
  | fuel + 1 =>
    match r.tokens with
    | .reference name :: tokens =>
      match r.anchors.lookup name with
      | some n => .ok (.reference n, r.rest tokens)
      | none => .error (.unknownAnchor name)
    | _ => do
      let (p, r) ← r.properties
      match r.tokens with
      | .entry :: _ =>
        if place = .entry then
          let (items, r) ← r.bareItems fuel
          return (.sequence p items, r)
        else r.absent p
      | .scalar style text :: tokens => return (.scalar p style text, r.rest tokens)
      | .openSequence :: tokens =>
        let (items, r) ← (r.rest tokens).flowItems true fuel
        return (.sequence p items, r)
      | .openMapping :: tokens =>
        let (entries, r) ← (r.rest tokens).flowEntries true fuel
        return (.mapping p entries, r)
      | .sequenceStart :: tokens =>
        if place = .flow then r.absent p
        else
          let (items, r) ← (r.rest tokens).items fuel
          return (.sequence p items, r)
      | .mappingStart :: tokens =>
        if place = .flow then r.absent p
        else
          let (entries, r) ← (r.rest tokens).entries fuel
          return (.mapping p entries, r)
      | _ => r.absent p

def items (r : Reader) : Nat → Except Fault (List Node × Reader)
  | 0 => .error .unfinished
  | fuel + 1 =>
    match r.tokens with
    | .entry :: tokens => do
      let (item, r) ← (r.rest tokens).part .block (endsItem tokens) fuel
      let (more, r) ← r.items fuel
      return (item :: more, r)
    | .blockEnd :: tokens => .ok ([], r.rest tokens)
    | _ => .error .expectedEntry

def bareItems (r : Reader) : Nat → Except Fault (List Node × Reader)
  | 0 => .error .unfinished
  | fuel + 1 =>
    match r.tokens with
    | .entry :: tokens => do
      let (item, r) ← (r.rest tokens).part .block (endsBareItem tokens) fuel
      let (more, r) ← r.bareItems fuel
      return (item :: more, r)
    | _ => .ok ([], r)

def entries (r : Reader) : Nat → Except Fault (List (Node × Node) × Reader)
  | 0 => .error .unfinished
  | fuel + 1 =>
    match r.tokens with
    | .key :: tokens => do
      let (key, r) ← (r.rest tokens).part .entry (endsBlockPart tokens) fuel
      let (value, r) ←
        match r.tokens with
        | .value :: tokens => (r.rest tokens).part .entry (endsBlockPart tokens) fuel
        | _ => .ok (Node.empty {}, r)
      let (more, r) ← r.entries fuel
      return ((key, value) :: more, r)
    | .blockEnd :: tokens => .ok ([], r.rest tokens)
    | _ => .error .expectedKey

/-- The items of a flow sequence, up to its bracket. An item with a key is a mapping of its own. -/
def flowItems (r : Reader) (first : Bool) : Nat → Except Fault (List Node × Reader)
  | 0 => .error .unfinished
  | fuel + 1 =>
    match r.tokens with
    | .closeSequence :: tokens => .ok ([], r.rest tokens)
    | tokens => do
      let tokens ← separated first tokens
      match tokens with
      | .closeSequence :: tokens => return ([], r.rest tokens)
      | .key :: tokens =>
        let (entry, r) ← (r.rest tokens).pair fuel
        let (more, r) ← r.flowItems false fuel
        return (.mapping {} [entry] :: more, r)
      | tokens =>
        let (item, r) ← (r.rest tokens).node .flow fuel
        let (more, r) ← r.flowItems false fuel
        return (item :: more, r)

/-- A pair in a flow sequence. A token that stands in the place of its key is passed over. -/
def pair (r : Reader) : Nat → Except Fault ((Node × Node) × Reader)
  | 0 => .error .unfinished
  | fuel + 1 => do
    let (key, r) ←
      if endsPairKey r.tokens then .ok (Node.empty {}, r.rest r.tokens.tail)
      else r.node .flow fuel
    match r.tokens with
    | .value :: tokens =>
      let (value, r) ← (r.rest tokens).part .flow (endsPairPart tokens) fuel
      return ((key, value), r)
    | _ => return ((key, Node.empty {}), r)

def flowEntries (r : Reader) (first : Bool) : Nat → Except Fault (List (Node × Node) × Reader)
  | 0 => .error .unfinished
  | fuel + 1 =>
    match r.tokens with
    | .closeMapping :: tokens => .ok ([], r.rest tokens)
    | tokens => do
      let tokens ← separated first tokens
      match tokens with
      | .closeMapping :: tokens => return ([], r.rest tokens)
      | .key :: tokens =>
        let (key, r) ←
          (r.rest tokens).part .flow (tokens.head? == some .value || endsFlowPart tokens) fuel
        let (value, r) ←
          match r.tokens with
          | .value :: tokens => (r.rest tokens).part .flow (endsFlowPart tokens) fuel
          | _ => .ok (Node.empty {}, r)
        let (more, r) ← r.flowEntries false fuel
        return ((key, value) :: more, r)
      | tokens =>
        let (key, r) ← (r.rest tokens).node .flow fuel
        let (more, r) ← r.flowEntries false fuel
        return ((key, Node.empty {}) :: more, r)

def part (r : Reader) (place : Place) (ended : Bool) : Nat → Except Fault (Node × Reader)
  | 0 => .error .unfinished
  | fuel + 1 => if ended then .ok (Node.empty {}, r) else r.node place fuel

end

/-- The directives before a document: at most one version, which must be known, and each handle
once. -/
def directives (r : Reader) (versioned : Bool) : List Token → Except Fault Reader
  | .version major minor :: tokens =>
    if versioned then .error .repeatedDirective
    else if major = 1 ∧ (minor = 1 ∨ minor = 2) then directives r true tokens
    else .error .version
  | .handle name expansion :: tokens =>
    if r.handles.any (·.1 = name) then .error .repeatedDirective
    else directives { r with handles := r.handles ++ [(name, expansion)] } versioned tokens
  | tokens => .ok (r.rest tokens)

def standardHandles : List (String × Bytes) :=
  [("!", Utf8.encode "!"), ("!!", Utf8.encode "tag:yaml.org,2002:")]

def endsDocument : List Token → Bool
  | [] => true
  | .version .. :: _ | .handle .. :: _ | .documentStart :: _ | .documentEnd :: _ => true
  | _ => false

def content (r : Reader) (marked : Bool) : Except Fault (Node × Reader) :=
  let r := { r with handles := r.handles ++ standardHandles }
  if marked && endsDocument r.tokens then .ok (Node.empty {}, r)
  else r.node .block (3 * r.tokens.length + 3)

end Reader

def Document.ofTokens (tokens : List Token) : Except Fault Document := do
  if tokens = [] then return ⟨none⟩
  let r ← Reader.directives { tokens } false tokens
  let (root, r) ←
    match r.tokens with
    | .documentStart :: rest => (r.rest rest).content true
    | rest => if rest.length < tokens.length then throw .expectedDocument else r.content false
  if r.tokens.dropWhile (· = .documentEnd) = [] then return ⟨some root⟩
  else throw .secondDocument

def Document.ofText (s : String) : Except Fault Document := do ofTokens (← Token.ofText s.toList)

end TestMatrix.Yaml
