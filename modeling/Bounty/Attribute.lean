import Bounty.Reading
import Bounty.Text.LowerCase
/-!
Typed attributes. An empty attribute counts as absent, except where any text will do.
-/
namespace Bounty.Attribute

/-- A text that has to be there. -/
def text (key : String) (here : Path) (e : Element) : Reading String :=
  match e.attribute? key with
  | none => .fault (.missingAttribute key) e.name here
  | some raw => if raw.isEmpty then .fault (.missingAttribute key) e.name here else pure raw

/-- An integer that has to be there. -/
def integer (key : String) (here : Path) (e : Element) : Reading Int := do
  let raw ← text key here e
  match Numeral.read raw with
  | .ok n => pure n
  | .error .malformed => .fault (.invalidNumber key raw "not an integer") e.name here
  | .error (.tooLong digits) => .stop (.tooManyDigits digits)

/-- A positive integer that has to be there. -/
def positive (key : String) (here : Path) (e : Element) : Reading Int := do
  let n ← integer key here e
  if n ≤ 0 then .fault (.invalidNumber key (Numeral.write n) "not a positive integer") e.name here
  else pure n

/-- Whether an attribute is absent or empty. -/
def isBlank (key : String) (e : Element) : Bool := ((e.attribute? key).getD "").isEmpty

def integerOr (default : Int) (key : String) (here : Path) (e : Element) : Reading Int :=
  if isBlank key e then pure default else integer key here e

/-- The truth value that a text stands for, in any case and between any blanks. -/
def truth? (raw : String) : Option Bool :=
  let word := Text.lower (String.ofList (Text.trim Text.isBlank raw.toList))
  if ["true", "1", "yes"].contains word then some true
  else if ["false", "0", "no"].contains word then some false
  else none

def booleanOr (default : Bool) (key : String) (here : Path) (e : Element) : Reading Bool :=
  if isBlank key e then pure default
  else
    let raw := (e.attribute? key).getD ""
    match truth? raw with
    | some b => pure b
    | none => .fault (.invalidBoolean key raw) e.name here

/-- Any text, also an empty one. -/
def textOr (default : String) (key : String) (e : Element) : String :=
  (e.attribute? key).getD default

/-- The attributes `min` and `max`, in this order. -/
def range (here : Path) (e : Element) : Reading (Int × Int) := do
  let min ← integer "min" here e
  let max ← integer "max" here e
  if min > max then .fault (.invalidRange min max) e.name here
  else pure (min, max)

end Bounty.Attribute
