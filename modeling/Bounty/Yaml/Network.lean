import Bounty.Data.View
import Bounty.Yaml.Graph
import Bounty.Yaml.Meaning
/-!
The values that the nodes of a text stand for. Every node becomes one value, however often it is
referred to. Collections are filled one after another in the order in which they were met, so that
the first fault in this order is the one that counts.
-/
namespace Bounty.Yaml

/-- A scalar, the collection of the node at a place, or one of the pairs in such a collection. -/
inductive Value where
  | scalar (s : Scalar)
  | collection (place : Nat)
  | pair (place index : Nat)
deriving DecidableEq, Repr

inductive Collection where
  | list (items : List Value)
  | mapping (entries : List (Scalar × Value))
  | set (members : List Scalar)
  | pairs (items : List (Value × Value))
deriving Repr

/-- Collections by the places of their nodes, and the value of the whole text. -/
structure Network where
  collections : Array Collection
  root : Value
deriving Repr

/-- Values in the making. -/
structure Builder where
  nodes : Graph
  /-- The values of the nodes that have been met. -/
  values : Array (Option Value)
  /-- The places of all collections in the order in which they were met. -/
  met : Array Nat
  collections : Array Collection

abbrev Build := StateT Builder (Except Fault)

namespace Build

def fail (fault : Fault) : Build α := throw fault

def node (place : Nat) : Build Node := do
  let node? := (← get).nodes[place]?
  node?

def tag (place : Nat) : Build Tag := return (← node place).tag

/-- The entries of a node that is a mapping. -/
def entries (place : Nat) : Build (List (Nat × Nat)) := do
  match (← node place).content with
  | .mapping entries => return entries
  | _ => fail .malformed

/-- The items of a node that is a sequence. -/
def items (place : Nat) : Build (List Nat) := do
  match (← node place).content with
  | .sequence items => return items
  | _ => fail .malformed

def setNode (place : Nat) (change : Node → Node) : Build Unit :=
  modify fun s => { s with nodes := s.nodes.modify place change }

def setEntries (place : Nat) (entries : List (Nat × Nat)) : Build Unit :=
  setNode place fun node => { node with content := .mapping entries }

/-- The index of the first entry with a key of some tag. -/
def indexOf? (t : Tag) (entries : List (Nat × Nat)) : Build (Option Nat) := do
  let tags ← entries.mapM fun (key, _) => tag key
  return tags.findIdx? (· == t)

/-- Keys that mark a default value become texts. -/
def settleDefaults (entries : List (Nat × Nat)) : Build Unit :=
  entries.forM fun (key, _) => setNode key fun node =>
    if node.tag == .value then { node with tag := .str } else node

/-- Replaces the entries of a mapping that stand for those of other mappings by these, in front of
its own; `found` are those that have been found already. -/
def flatten (place : Nat) (found : List (Nat × Nat)) : Nat → Build Unit
  | 0 => fail .endless
  | fuel + 1 => do
    let own ← entries place
    match ← indexOf? .merge own with
    | none => do
      settleDefaults own
      if !found.isEmpty then setEntries place (found ++ own)
    | some i => do
      setEntries place (own.eraseIdx i)
      let (_, source) ← own[i]?
      match (← node source).content with
      | .mapping _ => do
        flatten source [] fuel
        let more ← entries source
        flatten place (found ++ more) fuel
      | .sequence sources => do
        let more ← sources.mapM fun source => do
          let _ ← entries source
          flatten source [] fuel
          entries source
        flatten place (found ++ more.reverse.flatten) fuel
      | .scalar _ => fail .malformed

/-- The text of a node. That of a mapping is its default value. -/
def text (place : Nat) : Nat → Build String
  | 0 => fail .endless
  | fuel + 1 => do
    match (← node place).content with
    | .scalar text => return text
    | .sequence _ => fail .malformed
    | .mapping entries => do
      let i ← liftOption (← indexOf? .value entries)
      let (_, value) ← entries[i]?
      text value fuel
where
  liftOption {α : Type} (x : Option α) : Build α := x

/-- A scalar by its tag. A day or a moment has to be a text itself. -/
def scalar (place : Nat) (t : Tag) : Build Scalar := do
  if [Tag.merge, .value, .unknown].contains t then fail .malformed
  let text ← text place ((← get).nodes.size + 1)
  match t, (← node place).content with
  | .timestamp, .mapping _ => fail .notText
  | t, _ => t.read text

def isCollection (t : Tag) : Bool := [Tag.seq, .map, .omap, .pairs, .set].contains t

def remember (place : Nat) (v : Value) : Build Unit :=
  modify fun s => { s with values := s.values.setIfInBounds place (some v) }

/-- The value of a node. A collection is only taken note of. -/
def value (place : Nat) : Build Value := do
  match (← get).values[place]?.join with
  | some v => return v
  | none => do
    let t ← tag place
    if isCollection t then do
      remember place (.collection place)
      modify fun s => { s with met := s.met.push place }
      return .collection place
    else do
      let s ← scalar place t
      remember place (.scalar s)
      return .scalar s

/-- A node as a key, which has to be a scalar. -/
def key (place : Nat) : Build Scalar := do
  match ← value place with
  | .scalar s => return s
  | _ => fail .malformed

/-- Sets the value of a key, at the place where the key already stands or else at the end. -/
def setKey (key : Scalar) (v : Value) : List (Scalar × Value) → List (Scalar × Value)
  | [] => [(key, v)]
  | (k, w) :: rest => if k.sameKey key then (k, v) :: rest else (k, w) :: setKey key v rest

/-- The entries of a mapping with all that is merged into it. -/
def mapping (place : Nat) : Build (List (Scalar × Value)) := do
  let _ ← entries place
  let nodes := (← get).nodes
  let weight := nodes.foldl (fun total node => total + match node.content with
    | .mapping entries => entries.length
    | .sequence items => items.length
    | .scalar _ => 0) 0
  flatten place [] (weight + 2)
  (← entries place).foldlM (fun found (k, v) => do
    let k ← key k
    let v ← value v
    return setKey k v found) []

/-- A pair is a mapping with one entry. -/
def pair (place : Nat) : Build (Value × Value) := do
  match ← entries place with
  | [(k, v)] => return (← value k, ← value v)
  | _ => fail .malformed

/-- Members of a set that are all integers stand in the order of their remainders by a power of two
that is more than twice their number, but not less than eight. -/
def order (members : List Scalar) : List Scalar :=
  match members.mapM Scalar.integral? with
  | none => members
  | some numbers =>
    let size : Int :=
      if numbers.length < 5 then 8 else (1 <<< (Nat.log2 (2 * numbers.length) + 1) : Nat)
    ((numbers.zip members).mergeSort fun a b => a.1 % size ≤ b.1 % size).map (·.2)

/-- Fills the collection of a node. -/
def collection (place : Nat) : Build Collection := do
  match ← tag place with
  | .seq => return .list (← (← items place).mapM value)
  | .map => return .mapping (← mapping place)
  | .set => return .set (order ((← mapping place).map (·.1)))
  | _ => return .pairs (← (← items place).mapM pair)

/-- Fills all collections that are met, from a number of them on. -/
def fillFrom (done : Nat) : Nat → Build Unit
  | 0 => return ()
  | fuel + 1 => do
    match (← get).met[done]? with
    | none => return ()
    | some place => do
      let c ← collection place
      modify fun s => { s with collections := s.collections.setIfInBounds place c }
      fillFrom (done + 1) fuel

end Build

/-- The values of a text. Nothing at all is null. -/
def Network.read (text : String) : Except Fault Network := do
  match ← Graph.read text with
  | (_, none) => return ⟨#[], .scalar .null⟩
  | (nodes, some place) => do
    let n := nodes.size
    let start : Builder := ⟨nodes, .replicate n none, #[], .replicate n (.list [])⟩
    let (root, s) ← (do
      let root ← Build.value place
      Build.fillFrom 0 (n + 1)
      return root : Build Value).run start
    return ⟨s.collections, root⟩

namespace Network

def pairOf? (n : Network) (place index : Nat) : Option (Value × Value) :=
  match n.collections[place]? with
  | some (.pairs items) => items[index]?
  | _ => none

/-- What a value is. The items of a list of pairs are values of their own. -/
def layer (n : Network) : Value → Layer Value
  | .scalar s => .scalar s
  | .pair place index => match n.pairOf? place index with
    | some (first, second) => .pair first second
    | none => .list []
  | .collection place => match n.collections[place]? with
    | some (.list items) => .list items
    | some (.mapping entries) => .mapping entries
    | some (.set members) => .set members
    | some (.pairs items) => .list ((List.range items.length).map (.pair place))
    | none => .list []

/-- How the values of a text are looked at. -/
def view (n : Network) : View Value := ⟨n.layer, fun v w => v == w⟩

end Network

end Bounty.Yaml
