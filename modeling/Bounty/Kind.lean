/-!
The kinds of modifiers and requirements, each with the element name that it is written under.
-/
namespace Bounty

inductive ModifierKind where
  | grantItem | grantXp | grantXpRange | grantStat | grantStatRange
  | removeItems | nothing | ifThenElse | randomChoice
deriving DecidableEq, Repr

namespace ModifierKind

def all : List ModifierKind :=
  [.grantItem, .grantXp, .grantXpRange, .grantStat, .grantStatRange,
    .removeItems, .nothing, .ifThenElse, .randomChoice]

def name : ModifierKind → String
  | .grantItem => "grant_item"
  | .grantXp => "grant_xp"
  | .grantXpRange => "grant_xp_range"
  | .grantStat => "grant_stat"
  | .grantStatRange => "grant_stat_range"
  | .removeItems => "remove_items"
  | .nothing => "nothing"
  | .ifThenElse => "if_then_else"
  | .randomChoice => "random_choice"

def ofName? (name : String) : Option ModifierKind := all.find? (·.name == name)

/-- Some kinds, each under its own name. -/
def tableOf (kinds : List ModifierKind) : List (String × ModifierKind) :=
  kinds.map fun kind => (kind.name, kind)

end ModifierKind

inductive RequirementKind where
  | always | never | friends | level | item | stat | conjunction
deriving DecidableEq, Repr

namespace RequirementKind

def all : List RequirementKind := [.always, .never, .friends, .level, .item, .stat, .conjunction]

def name : RequirementKind → String
  | .always => "true_requirement"
  | .never => "false_requirement"
  | .friends => "friends_requirement"
  | .level => "level_requirement"
  | .item => "item_requirement"
  | .stat => "stat_requirement"
  | .conjunction => "and"

def ofName? (name : String) : Option RequirementKind := all.find? (·.name == name)

/-- Some kinds, each under its own name. -/
def tableOf (kinds : List RequirementKind) : List (String × RequirementKind) :=
  kinds.map fun kind => (kind.name, kind)

end RequirementKind

end Bounty
