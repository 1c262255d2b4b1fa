import Bounty.Element
import Bounty.Numeral
import Bounty.Text.Quoted
/-!
What can be wrong with a rule document, and where.
-/
namespace Bounty

/-- Why a file gives no document. -/
inductive Unreadable where
  | unsupportedType (suffix : String)
  | malformedMarkup
  | malformedData (problem : String)
  | inaccessible (problem : String)
deriving DecidableEq, Repr

def Unreadable.message : Unreadable → String
  | .unsupportedType suffix => s!"unsupported document type '{suffix}'"
  | .malformedMarkup => "malformed XML: not well-formed"
  | .malformedData problem => "malformed document: " ++ problem
  | .inaccessible problem => "cannot read document: " ++ problem

inductive Cause where
  | unknownModifier (name : String)
  | strayChild (child parent : String)
  | unknownRequirement (name : String)
  | missingAttribute (key : String)
  | invalidNumber (key raw why : String)
  | invalidBoolean (key raw : String)
  | invalidRange (min max : Int)
  | missingBranch (branch : String)
  | duplicateBranch (branch : String)
  | tooDeep (limit : Int)
  | unreadable (why : Unreadable)
deriving DecidableEq, Repr

/-- What is said of a cause that `element` shows. -/
def Cause.message (element : String) : Cause → String
  | .unknownModifier name => s!"unknown modifier kind '{name}'"
  | .strayChild child parent => s!"unexpected <{child}> inside <{parent}>"
  | .unknownRequirement name => s!"unknown requirement kind '{name}'"
  | .missingAttribute key => s!"<{element}> is missing required attribute '{key}'"
  | .invalidNumber key raw why => s!"<{element}> attribute '{key}'={Text.quoted raw} is {why}"
  | .invalidBoolean key raw => s!"<{element}> attribute '{key}'={Text.quoted raw} is not a boolean"
  | .invalidRange min max => s!"<{element}> has min {Numeral.write min} > max {Numeral.write max}"
  | .missingBranch branch => s!"<{element}> is missing its <{branch}> branch"
  | .duplicateBranch branch => s!"<{element}> has more than one <{branch}> branch"
  | .tooDeep limit => s!"document nesting exceeds max_depth={Numeral.write limit}"
  | .unreadable why => why.message

/-- The element that shows a fault, and the way to it. -/
structure Place where
  element : String
  path : Path
deriving DecidableEq, Repr

/-- The path where there is one to show, else the element. -/
def Place.label (p : Place) : String :=
  let joined := "/".intercalate p.path
  if !joined.isEmpty then joined
  else if !p.element.isEmpty then p.element
  else "<root>"

/-- A text about a place, with the place before it. -/
def Place.report (p : Place) (text : String) : String := s!"{p.label}: {text}"

/-- A cause and the place that shows it. -/
structure Fault where
  cause : Cause
  place : Place
deriving DecidableEq, Repr

def Fault.message (f : Fault) : String := f.place.report (f.cause.message f.place.element)

end Bounty
