import Bounty.Requirement
/-!
Modifiers: what a document does to a player, from single grants to branches and weighted choices.
-/
namespace Bounty

/-- One alternative of a weighted choice. -/
structure Entry (μ : Type) where
  weight : Int
  modifiers : List μ
  requirements : List Requirement
deriving Repr

inductive Modifier where
  | grantItem (itemKey : String)
  | grantXp (value : Int)
  | grantXpRange (min max : Int)
  | grantStat (statType itemKey : String) (value : Int)
  | grantStatRange (statType itemKey : String) (min max : Int)
  | removeItems
  | nothing
  | ifThenElse (condition : List Requirement) (thenBranch elseBranch : List Modifier)
  | randomChoice (entries : List (Entry Modifier))
deriving Repr

abbrev Choice := Entry Modifier

def Modifier.kind : Modifier → ModifierKind
  | .grantItem _ => .grantItem
  | .grantXp _ => .grantXp
  | .grantXpRange _ _ => .grantXpRange
  | .grantStat _ _ _ => .grantStat
  | .grantStatRange _ _ _ _ => .grantStatRange
  | .removeItems => .removeItems
  | .nothing => .nothing
  | .ifThenElse _ _ _ => .ifThenElse
  | .randomChoice _ => .randomChoice

/-- The sum of the weights of the entries, eligible or not. -/
def totalWeight (entries : List Choice) : Int :=
  entries.foldr (fun entry total => entry.weight + total) 0

end Bounty
