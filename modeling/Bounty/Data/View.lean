import Bounty.Data.Shape
/-!
Elements in values that are looked at from outside, one layer at a time. Such values may stand
deeper inside of each other than there is room for, and even contain themselves.
-/
namespace Bounty

/-- What a value is, with the values inside of it. -/
inductive Layer (V : Type) where
  | scalar (s : Scalar)
  | list (items : List V)
  | mapping (entries : List (Scalar × V))
  | set (members : List Scalar)
  | pair (first second : V)

namespace Layer

variable {V : Type}

/-- The layer as data, with nothing for the values inside of it. -/
def outline : Layer V → Data
  | .scalar s => .scalar s
  | .list _ => .list []
  | .mapping entries => .mapping (entries.map fun (key, _) => (key, .null))
  | .set members => .set members
  | .pair .. => .pair .null .null

def isFalsy : Layer V → Bool
  | .scalar s => s.isFalsy
  | .list items => items.isEmpty
  | .mapping entries => entries.isEmpty
  | .set members => members.isEmpty
  | .pair .. => false

/-- The values that a value is gone through by. -/
def items? : Layer V → Option (List V)
  | .list items => some items
  | .pair first second => some [first, second]
  | _ => none

/-- What stands for a value inside of itself. -/
def dots : Layer V → String
  | .mapping _ => "\x7b...\x7d"
  | .pair .. => "(...)"
  | _ => "[...]"

end Layer

/-- How values of some sort are looked at. -/
structure View (V : Type) where
  layer : V → Layer V
  /-- Whether a value is one that is looked at already. -/
  same : V → V → Bool

/-- Why a value is not read as an element. -/
inductive ElementFault where
  | shape (fault : ShapeFault)
  /-- Values stand inside of each other deeper than there is room for. -/
  | tooDeep
deriving Repr

/-- What messages show of a scalar, if it can be written. -/
def scalarShown (s : Scalar) : Except ElementFault String :=
  if s.isWritable then .ok s.display else .error (.shape .tooLongToWrite)

namespace View

variable {V : Type} (view : View V)

/-- How messages show a value inside of some others. -/
def shown : Nat → List V → V → Except ElementFault String
  | 0, _, _ => .error .tooDeep
  | room + 1, outer, v =>
    let inner := shown room (v :: outer)
    if outer.any (view.same v) then .ok (view.layer v).dots
    else match view.layer v with
      | .scalar s => scalarShown s
      | .set members => do
        let _ ← members.mapM scalarShown
        return setDisplay members
      | .list items => do
        return "[" ++ spread (← items.mapM inner) ++ "]"
      | .mapping entries => do
        let parts ← entries.mapM fun (key, v) => do
          return (← scalarShown key) ++ ": " ++ (← inner v)
        return "\x7b" ++ spread parts ++ "\x7d"
      | .pair first second => do
        return "(" ++ (← inner first) ++ ", " ++ (← inner second) ++ ")"

def notElement (room : Nat) (v : V) : Except ElementFault α := do
  let text ← view.shown room [] v
  .error (.shape (.notElement text))

/-- The value under the key of the children, where there is one. -/
def childrenOf? (entries : List (Scalar × V)) : Option V :=
  (entries.find? (·.1 == Data.childrenKey)).map (·.2)

/-- The children of a body that is a mapping, where `inner` reads each of them. -/
def childrenIn (inner : V → Except ElementFault Element) (entries : List (Scalar × V)) :
    Except ElementFault (List Element) :=
  match (childrenOf? entries).map view.layer with
  | none => .ok []
  | some layer => match layer.items? with
    | some items => items.mapM inner
    | none => do
      (Data.looseChildren layer.outline).mapError .shape
      return []

/-- The element that a value describes, with room for elements inside of it; `displayRoom` tells how
deep a value may be shown where that is left. -/
def element (displayRoom : Nat → Nat) : Nat → V → Except ElementFault Element
  | 0, _ => .error .tooDeep
  | room + 1, v => match view.layer v with
    | .mapping [(name, body)] => match view.layer body with
      | .list items => do
        let written ← (Data.scalarText name).mapError .shape
        let children ← items.mapM (element displayRoom room)
        return ⟨written, [], children⟩
      | .mapping entries => do
        let outlines := entries.map fun (key, v) => (key, (view.layer v).outline)
        let attributes ← (Data.attributesOf name [] outlines).mapError .shape
        let written ← (Data.scalarText name).mapError .shape
        let children ← view.childrenIn (element displayRoom room) entries
        return ⟨written, attributes, children⟩
      | layer => (Data.bodyElement name layer.outline).mapError .shape
    | _ => view.notElement (displayRoom (room + 1)) v

end View

/-- Data is all there: nothing in it contains itself. -/
def Data.view : View Data where
  layer
    | .scalar s => .scalar s
    | .list items => .list items
    | .mapping entries => .mapping entries
    | .set members => .set members
    | .pair first second => .pair first second
  same _ _ := false

end Bounty
