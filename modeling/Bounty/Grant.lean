import Bounty.Numeral
/-!
Grants: what a player is finally given.
-/
namespace Bounty

inductive Grant where
  | item (itemKey : String)
  | xp (amount : Int)
  | stat (statType itemKey : String) (amount : Int)
  | clearInventory
deriving DecidableEq, Repr

def Grant.describe : Grant → String
  | .item itemKey => "item " ++ itemKey
  | .xp amount => "xp +" ++ Numeral.write amount
  | .stat statType itemKey amount => statType ++ " " ++ itemKey ++ " +" ++ Numeral.write amount
  | .clearInventory => "clear inventory"

/-- Whether the amount of a grant can be written. -/
def Grant.isWritable : Grant → Bool
  | .xp amount | .stat _ _ amount => Numeral.isWritable amount
  | _ => true

end Bounty
