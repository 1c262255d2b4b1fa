import Bounty.Kind
/-!
Requirements: conditions on a player, each atomic one with the verdict that was computed for it
beforehand, and conjunctions of them.
-/
namespace Bounty

/-- What an atomic requirement asks of a player. -/
inductive Demand where
  | always
  | never
  | friends (required : Int)
  | level (level : Int)
  | item (itemKey : String) (number : Int)
  | stat (statType itemKey : String) (value : Int)
deriving DecidableEq, Repr

def Demand.kind : Demand → RequirementKind
  | .always => .always
  | .never => .never
  | .friends _ => .friends
  | .level _ => .level
  | .item _ _ => .item
  | .stat _ _ _ => .stat

/-- The verdict on a requirement of a kind where none is given. -/
def RequirementKind.defaultOk : RequirementKind → Bool
  | .never => false
  | _ => true

/-- The reason on a requirement of a kind where none is given. -/
def RequirementKind.defaultReason : RequirementKind → String
  | .never => "always fails"
  | _ => ""

/-- An atomic requirement with its verdict. The reason is meant for a verdict that is not `ok`. -/
structure Check where
  demand : Demand
  ok : Bool
  reason : String
deriving DecidableEq, Repr

inductive Requirement where
  | check (c : Check)
  | conjunction (children : List Requirement)
deriving Repr

def Requirement.kind : Requirement → RequirementKind
  | .check c => c.demand.kind
  | .conjunction _ => .conjunction

/-- Whether a requirement holds, and if not, why. -/
inductive Outcome where
  | met
  | unmet (reason : String)
deriving DecidableEq, Repr

namespace Outcome

def holds : Outcome → Bool
  | .met => true
  | .unmet _ => false

/-- The reason of a failure; empty when there is none. -/
def reason : Outcome → String
  | .met => ""
  | .unmet reason => reason

/-- The first of two outcomes that fails. -/
def both : Outcome → Outcome → Outcome
  | .met, second => second
  | .unmet reason, _ => .unmet reason

end Outcome

/-- A failed check always has a reason to show: its own, or one made from its kind. -/
def Check.outcome (c : Check) : Outcome :=
  if c.ok then .met
  else .unmet (if c.reason.isEmpty then s!"{c.demand.kind.name} not met" else c.reason)

mutual

/-- A conjunction fails with the reason of its first failing child in document order. -/
def Requirement.outcome : Requirement → Outcome
  | .check c => c.outcome
  | .conjunction children => Requirement.allHold children

/-- The outcome of several requirements together. -/
def Requirement.allHold : List Requirement → Outcome
  | [] => .met
  | r :: rest => r.outcome.both (Requirement.allHold rest)

end

mutual

/-- The checks of a requirement from left to right. -/
def Requirement.leaves : Requirement → List Check
  | .check c => [c]
  | .conjunction children => Requirement.leavesOf children

def Requirement.leavesOf : List Requirement → List Check
  | [] => []
  | r :: rest => r.leaves ++ Requirement.leavesOf rest

end

end Bounty
