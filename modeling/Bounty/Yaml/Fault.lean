import Bounty.Text.Quoted
/-!
What is wrong with a text of YAML. Nearly all faults are of one kind; the others come from values
that a tag does not suit.
-/
namespace Bounty.Yaml

inductive Fault where
  /-- The text breaks the rules of the format, or a value has no meaning. -/
  | malformed
  /-- The code of an escaped character is above all numbers of 31 bits. -/
  | hugeCode
  /-- A text is tagged as a truth value and is none. -/
  | notTruth (text : String)
  /-- A text is tagged as a number, and nothing is left of it. -/
  | noDigits
  /-- A text is tagged as a day or a moment and is none. -/
  | notMoment
  /-- A mapping is tagged as a day or a moment. -/
  | notText
  /-- A decimal of sixties has more parts than the powers of sixty among decimals. -/
  | tooManyParts
  /-- A value contains itself where it has to be gone through. -/
  | endless
deriving DecidableEq, Repr

def Fault.message : Fault → String
  | .malformed => "not well-formed"
  | .hugeCode => "Python int too large to convert to C int"
  | .notTruth text => Text.quoted text
  | .noDigits => "string index out of range"
  | .notMoment => "'NoneType' object has no attribute 'groupdict'"
  | .notText => "expected string or bytes-like object, got 'list'"
  | .tooManyParts => "int too large to convert to float"
  | .endless => "maximum recursion depth exceeded"

/-- What is missing is malformed. -/
instance : MonadLift Option (Except Fault) :=
  ⟨fun value? => match value? with
    | some value => .ok value
    | none => .error .malformed⟩

end Bounty.Yaml
