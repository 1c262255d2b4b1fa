import Bounty.Data
import Bounty.Modifier
/-!
Records: modifiers, requirements and choices as data, each with its kind and all its fields by name.
-/
namespace Bounty

/-- A record of a kind with some fields after it. -/
def recordOf (kind : String) (fields : List (String × Data)) : Data :=
  .object (("kind", .text kind) :: fields)

def Demand.fields : Demand → List (String × Data)
  | .always | .never => []
  | .friends n => [("required", .integer n)]
  | .level n => [("level", .integer n)]
  | .item itemKey number => [("item_key", .text itemKey), ("number", .integer number)]
  | .stat statType itemKey value =>
    [("stat_type", .text statType), ("item_key", .text itemKey), ("value", .integer value)]

/-- What every check declares about itself. -/
def Check.verdict (c : Check) : List (String × Data) :=
  [("ok", .bool c.ok), ("reason", .text c.reason)]

/-- The fields of a check besides its kind: those that all checks share come first. -/
def Check.fields (c : Check) : List (String × Data) := c.verdict ++ c.demand.fields

mutual

def Requirement.toData : Requirement → Data
  -- The verdict of a check comes before its kind.
  | .check c => .object (c.verdict ++ ("kind", .text c.demand.kind.name) :: c.demand.fields)
  | .conjunction children => recordOf RequirementKind.conjunction.name [
      ("children", .list (Requirement.toDataList children))]

def Requirement.toDataList : List Requirement → List Data
  | [] => []
  | r :: rest => r.toData :: Requirement.toDataList rest

end

/-- The fields of a modifier that hold no other modifiers or requirements. -/
def Modifier.fields : Modifier → List (String × Data)
  | .grantItem itemKey => [("item_key", .text itemKey)]
  | .grantXp value => [("value", .integer value)]
  | .grantXpRange min max => [("min", .integer min), ("max", .integer max)]
  | .grantStat statType itemKey value =>
    [("stat_type", .text statType), ("item_key", .text itemKey), ("value", .integer value)]
  | .grantStatRange statType itemKey min max =>
    [("stat_type", .text statType), ("item_key", .text itemKey),
      ("min", .integer min), ("max", .integer max)]
  | _ => []

mutual

def Modifier.toData : Modifier → Data
  | .ifThenElse condition thenBranch elseBranch => recordOf ModifierKind.ifThenElse.name [
      ("condition", .list (Requirement.toDataList condition)),
      ("then_branch", .list (Modifier.toDataList thenBranch)),
      ("else_branch", .list (Modifier.toDataList elseBranch))]
  | .randomChoice entries => recordOf ModifierKind.randomChoice.name [
      ("choices", .list (Modifier.entriesToData entries))]
  | m => recordOf m.kind.name m.fields

def Modifier.toDataList : List Modifier → List Data
  | [] => []
  | m :: rest => m.toData :: Modifier.toDataList rest

def Modifier.entriesToData : List Choice → List Data
  | [] => []
  | entry :: rest => Modifier.entryToData entry :: Modifier.entriesToData rest

def Modifier.entryToData : Choice → Data
  | ⟨weight, modifiers, requirements⟩ => .object [
      ("weight", .integer weight),
      ("modifiers", .list (Modifier.toDataList modifiers)),
      ("requirements", .list (Requirement.toDataList requirements))]

end

end Bounty
