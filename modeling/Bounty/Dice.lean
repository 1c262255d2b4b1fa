/-!
Sources of random integers.
-/
namespace Bounty

/-- A range without integers. -/
structure EmptyRange where
  min : Int
  max : Int
deriving DecidableEq, Repr

/-- The bounds are shown as a start, an end that does not belong to the range, and their distance.
-/
def EmptyRange.message (r : EmptyRange) : String :=
  let stop := r.max + 1
  s!"empty range for randrange() ({r.min}, {stop}, {stop - r.min})"

/-- A source of random integers with state `σ`: asked for one from `min` to `max`, it answers it
together with the state that is left. -/
structure Dice (σ : Type) where
  roll : σ → Int → Int → Except EmptyRange (Int × σ)

/-- Rolls inside the range whenever the range has an integer. -/
def Dice.IsFair (dice : Dice σ) : Prop :=
  ∀ state min max, min ≤ max →
    ∃ n next, dice.roll state min max = .ok (n, next) ∧ min ≤ n ∧ n ≤ max

end Bounty
