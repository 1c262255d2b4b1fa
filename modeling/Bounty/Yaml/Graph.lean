import Bounty.Yaml.Tag
import Bounty.Yaml.Token
/-!
The nodes of a text. They refer to one another by their places, so that an alias is the very node
that its anchor was given to, and a node may even contain itself.
-/
namespace Bounty.Yaml

/-- What a node holds; other nodes are given by their places. -/
inductive Content where
  | scalar (text : String)
  | sequence (items : List Nat)
  | mapping (entries : List (Nat × Nat))
deriving Repr

structure Node where
  tag : Tag
  content : Content
deriving Repr

/-- The nodes of a text by their places. -/
abbrev Graph := Array Node

/-- The tag of a node without a name for it. A lone exclamation mark is no name, but makes a text
count as plain. -/
def Tag.ofProperty (name : Option String) (usual : Tag) : Tag :=
  match name with
  | none | some "!" => usual
  | some name => .ofName name

/-- The tokens that are left, what has been declared so far, and the nodes that have been found. -/
structure Composer where
  tokens : List Token
  /-- What keeps further tokens from being found. -/
  fault : Option Fault
  handles : List (String × String)
  anchors : List (String × Nat)
  nodes : Graph

/-- A step that takes tokens and may fail. -/
abbrev Compose := StateT Composer (Except Fault)

namespace Compose

def refuse : Compose α := throw .malformed

/-- The next token, if there is one. -/
def peek? : Compose (Option Token) := do
  let s ← get
  match s.tokens.head?, s.fault with
  | none, some fault => throw fault
  | t, _ => return t

/-- Whether the next token is one of some. -/
def next (p : Token → Bool) : Compose Bool := return (← peek?).any p

def drop : Compose Unit := modify fun s => { s with tokens := s.tokens.tail }

/-- Takes the next token, which has to be the given one. -/
def expect (t : Token) : Compose Unit := do
  if (← peek?) == some t then drop else refuse

/-- Takes the next token if it is the given one. -/
def accept (t : Token) : Compose Bool := do
  if (← peek?) == some t then do
    drop
    return true
  else return false

/-- The anchor in front of a node, if there is one. -/
def anchor? : Compose (Option String) := do
  match ← peek? with
  | some (.anchor name) => do
    drop
    return some name
  | _ => return none

/-- The tag in front of a node, if there is one, with its handle replaced. -/
def tag? : Compose (Option String) := do
  match ← peek? with
  | some (.tag none suffix) => do
    drop
    return some suffix
  | some (.tag (some handle) suffix) => do
    drop
    match (← get).handles.lookup handle with
    | some text => return some (text ++ suffix)
    | none => refuse
  | _ => return none

/-- An anchor and a tag, in either order. -/
def properties : Compose (Option String × Option String) := do
  match ← anchor? with
  | some name => return (some name, ← tag?)
  | none => do
    let tag ← tag?
    return (← anchor?, tag)

/-- Adds a node. -/
def add (node : Node) : Compose Nat :=
  modifyGet fun s => (s.nodes.size, { s with nodes := s.nodes.push node })

/-- Adds what stands where nothing is written. -/
def nothing : Compose Nat := add ⟨.null, .scalar ""⟩

/-- Adds a node that may have an anchor. -/
def addAnchored (anchor : Option String) (node : Node) : Compose Nat := do
  let place ← add node
  if let some name := anchor then
    modify fun s => { s with anchors := (name, place) :: s.anchors }
  return place

/-- Whether an anchor is still free. -/
def isFree (anchor : Option String) : Compose Bool := do
  let anchors := (← get).anchors
  return anchor.all fun name => (anchors.lookup name).isNone

/-- Replaces the content of a node. -/
def fill (place : Nat) (content : Content) : Compose Nat := do
  modify fun s => { s with nodes := s.nodes.modify place fun node => { node with content } }
  return place

/-- Adds a sequence before its items. -/
def sequence (anchor tag : Option String) (items : Compose (List Nat)) : Compose Nat := do
  let place ← addAnchored anchor ⟨.ofProperty tag .seq, .sequence []⟩
  fill place (.sequence (← items))

/-- Adds a mapping before its entries. -/
def mapping (anchor tag : Option String) (entries : Compose (List (Nat × Nat))) : Compose Nat := do
  let place ← addAnchored anchor ⟨.ofProperty tag .map, .mapping []⟩
  fill place (.mapping (← entries))

/-- Adds a scalar. -/
def scalar (anchor tag : Option String) (plain : Bool) (text : String) : Compose Nat :=
  let usual := if plain || tag == some "!" then Tag.ofPlain text else .str
  addAnchored anchor ⟨.ofProperty tag usual, .scalar text⟩

def oneOf (ts : List Token) (t : Token) : Bool := ts.contains t

mutual

/-- A node. Blocks are allowed outside brackets, and a sequence that is not indented only as a part
of a mapping. -/
def node (block indentless : Bool) : Nat → Compose Nat
  | 0 => refuse
  | fuel + 1 => do
    match ← peek? with
    | some (.alias name) => do
      drop
      match (← get).anchors.lookup name with
      | some place => return place
      | none => refuse
    | _ => do
      let (anchor, tag) ← properties
      let t ← peek?
      if !(← isFree anchor) then refuse
      match t with
      | some (.scalar plain text) => do
        drop
        scalar anchor tag plain text
      | some .flowSequence => do
        drop
        sequence anchor tag (flowItems true fuel)
      | some .flowMapping => do
        drop
        mapping anchor tag (flowEntries true fuel)
      | some .blockSequence =>
        if block then do
          drop
          sequence anchor tag (blockItems fuel)
        else refuse
      | some .blockMapping =>
        if block then do
          drop
          mapping anchor tag (blockEntries fuel)
        else refuse
      | some .entry =>
        if indentless then sequence anchor tag (plainItems fuel)
        else if anchor.isSome || tag.isSome then scalar anchor tag true ""
        else refuse
      | _ => if anchor.isSome || tag.isSome then scalar anchor tag true "" else refuse

/-- The items of an indented sequence. -/
def blockItems : Nat → Compose (List Nat)
  | 0 => refuse
  | fuel + 1 => do
    if ← accept .entry then do
      let item ← if ← next (oneOf [.entry, .blockEnd]) then nothing
        else node true false fuel
      let items ← blockItems fuel
      return item :: items
    else do
      expect .blockEnd
      return []

/-- The items of a sequence that is not indented. -/
def plainItems : Nat → Compose (List Nat)
  | 0 => refuse
  | fuel + 1 => do
    if ← accept .entry then do
      let item ← if ← next (oneOf [.entry, .key, .value, .blockEnd]) then nothing
        else node true false fuel
      let items ← plainItems fuel
      return item :: items
    else return []

/-- The entries of an indented mapping. -/
def blockEntries : Nat → Compose (List (Nat × Nat))
  | 0 => refuse
  | fuel + 1 => do
    if ← accept .key then do
      let key ← if ← next (oneOf [.key, .value, .blockEnd]) then nothing
        else node true true fuel
      let value ← blockValue fuel
      let entries ← blockEntries fuel
      return (key, value) :: entries
    else do
      expect .blockEnd
      return []

/-- The value of an entry in an indented mapping. -/
def blockValue : Nat → Compose Nat
  | 0 => refuse
  | fuel + 1 => do
    if ← accept .value then
      if ← next (oneOf [.key, .value, .blockEnd]) then nothing
      else node true true fuel
    else nothing

/-- The items between square brackets. An entry of a mapping may stand there by itself. -/
def flowItems (first : Bool) : Nat → Compose (List Nat)
  | 0 => refuse
  | fuel + 1 => do
    if ← accept .flowSequenceEnd then return []
    else do
      if !first then expect .flowEntry
      if ← accept .key then do
        let item ← mapping none none do
          let key ← if ← next (oneOf [.value, .flowEntry, .flowSequenceEnd]) then nothing
            else node false false fuel
          let value ← flowValue .flowSequenceEnd fuel
          return [(key, value)]
        let items ← flowItems false fuel
        return item :: items
      else if ← accept .flowSequenceEnd then return []
      else do
        let item ← node false false fuel
        let items ← flowItems false fuel
        return item :: items

/-- The entries between braces. A key may stand there by itself. -/
def flowEntries (first : Bool) : Nat → Compose (List (Nat × Nat))
  | 0 => refuse
  | fuel + 1 => do
    if ← accept .flowMappingEnd then return []
    else do
      if !first then expect .flowEntry
      if ← accept .key then do
        let key ← if ← next (oneOf [.value, .flowEntry, .flowMappingEnd]) then nothing
          else node false false fuel
        let value ← flowValue .flowMappingEnd fuel
        let entries ← flowEntries false fuel
        return (key, value) :: entries
      else if ← accept .flowMappingEnd then return []
      else do
        let key ← node false false fuel
        let value ← nothing
        let entries ← flowEntries false fuel
        return (key, value) :: entries

/-- The value of an entry between brackets that end with the given token. -/
def flowValue (last : Token) : Nat → Compose Nat
  | 0 => refuse
  | fuel + 1 => do
    if ← accept .value then
      if ← next (oneOf [.flowEntry, last]) then nothing
      else node false false fuel
    else nothing

end

/-- The directives in front of a document. The version has to be of the first generation. -/
def directives : Nat → Bool → List (String × String) → Compose (List (String × String))
  | 0, _, _ => refuse
  | fuel + 1, versioned, handles => do
    match ← peek? with
    | some (.version major) =>
      if versioned || major != 1 then refuse
      else do
        drop
        directives fuel true handles
    | some (.tagPrefix handle text) =>
      if (handles.lookup handle).isSome then refuse
      else do
        drop
        directives fuel versioned ((handle, text) :: handles)
    | some .unknownDirective => do
      drop
      directives fuel versioned handles
    | _ => return handles

def defaultHandles : List (String × String) := [("!", "!"), ("!!", "tag:yaml.org,2002:")]

def startsDirective : Token → Bool
  | .version _ | .tagPrefix _ _ | .unknownDirective => true
  | _ => false

/-- The end markers after a document. -/
def endMarkers : Nat → Compose Unit
  | 0 => refuse
  | fuel + 1 => do
    if ← accept .documentEnd then endMarkers fuel

/-- A document after its start marker. -/
def content (fuel : Nat) : Compose Nat := do
  let t ← peek?
  if t.isNone || t.any fun t => startsDirective t || t == .documentStart || t == .documentEnd then
    nothing
  else node true false fuel

/-- The one document of a text, or nothing where there is none. -/
def document (fuel : Nat) : Compose (Option Nat) := do
  let t ← peek?
  let node ←
    if t.isNone then pure none
    else if t.any fun t => startsDirective t || t == .documentStart then do
      let handles ← directives fuel false []
      modify fun s => { s with handles := handles ++ s.handles }
      expect .documentStart
      some <$> content fuel
    else some <$> node true false fuel
  endMarkers fuel
  if (← peek?).isNone then return node else refuse

end Compose

/-- The nodes of a text and the place of the outermost one, if it is one document; nothing at all is
no node. -/
def Graph.read (text : String) : Except Fault (Graph × Option Nat) := do
  let (tokens, fault) ← Token.scan text
  let composer : Composer := ⟨tokens, fault, Compose.defaultHandles, [], #[]⟩
  let (root, s) ← (Compose.document (4 * tokens.length + 8)).run composer
  return (s.nodes, root)

end Bounty.Yaml
