import Bounty.Dice
/-!
Dice that answer from a script and remember what they were asked.
-/
namespace Bounty

structure Script where
  rolls : List Int
  calls : List (Int × Int)
deriving DecidableEq, Repr

/-- Answers the next roll unchecked, or the lower bound where none is left. -/
def Script.roll (s : Script) (min max : Int) : Int × Script :=
  (s.rolls.headD min, ⟨s.rolls.tail, s.calls ++ [(min, max)]⟩)

def Script.dice : Dice Script where
  roll s min max := .ok (s.roll min max)

end Bounty
