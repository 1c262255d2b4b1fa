import Bounty.Dice
import Bounty.Grant
import Bounty.Modifier
import Bounty.Trace
/-!
Resolution: modifiers become grants. Ranges and random choices roll the dice, in document order, and
every decision is logged. A log line is written down when it arises, so a number that is too long
to write ends the resolution.
-/
namespace Bounty

/-- A decision that is logged. -/
inductive LogLine where
  | excluded (index : Nat) (reason : String)
  | noneEligible
  | picked (roll total weight : Int)
  | xpRange (min max amount : Int)
  | statRange (statType itemKey : String) (min max amount : Int)
  | tookThen
  | tookElse (reason : String)
deriving DecidableEq, Repr

namespace LogLine

def rangeText (min max amount : Int) : String :=
  s!"range {Numeral.write min}..{Numeral.write max} → {Numeral.write amount}"

def message : LogLine → String
  | .excluded index reason => s!"choice #{index} excluded: {reason}"
  | .noneEligible => "random_choice has no eligible choices"
  | .picked roll total weight =>
    s!"random_choice roll {Numeral.write roll}/{Numeral.write total} → " ++
      "weight " ++ Numeral.write weight
  | .xpRange min max amount => "xp " ++ rangeText min max amount
  | .statRange statType itemKey min max amount =>
    statType ++ " " ++ itemKey ++ " " ++ rangeText min max amount
  | .tookThen => "if → then"
  | .tookElse reason => s!"if → else ({reason})"

def text (line : LogLine) : String := traceLine "Reward" line.message

/-- The integers that a line shows, besides indices. -/
def integers : LogLine → List Int
  | .picked roll total weight => [roll, total, weight]
  | .xpRange min max amount | .statRange _ _ min max amount => [min, max, amount]
  | _ => []

def isWritable (line : LogLine) : Bool := line.integers.all Numeral.isWritable

end LogLine

/-- Why a resolution ends without grants. -/
inductive Failure where
  | emptyRange (range : EmptyRange)
  | rollTooHigh (roll total : Int)
  | tooLongToWrite
deriving DecidableEq, Repr

def Failure.message : Failure → String
  | .emptyRange range => range.message
  | .rollTooHigh roll total =>
    s!"roll {Numeral.write roll} exceeds total weight {Numeral.write total}"
  | .tooLongToWrite => Numeral.tooLongToWrite

/-- What is left after a resolution: the dice, the bounds of every roll that was asked of them, the
log, and a value or a failure. -/
structure Run (σ α : Type) where
  dice : σ
  calls : List (Int × Int)
  log : List LogLine
  outcome : Except Failure α

/-- A resolution, from the state of the dice on. -/
def Resolution (σ α : Type) : Type := σ → Run σ α

namespace Resolution

protected def pure (a : α) : Resolution σ α := fun state => ⟨state, [], [], .ok a⟩

protected def bind (r : Resolution σ α) (next : α → Resolution σ β) : Resolution σ β :=
  fun state =>
    let run := r state
    match run.outcome with
    | .error failure => ⟨run.dice, run.calls, run.log, .error failure⟩
    | .ok a =>
      let rest := next a run.dice
      ⟨rest.dice, run.calls ++ rest.calls, run.log ++ rest.log, rest.outcome⟩

instance : Monad (Resolution σ) where
  pure := Resolution.pure
  bind := Resolution.bind

def fail (failure : Failure) : Resolution σ α := fun state => ⟨state, [], [], .error failure⟩

def log (line : LogLine) : Resolution σ Unit :=
  if line.isWritable then fun state => ⟨state, [], [line], .ok ()⟩
  else fail .tooLongToWrite

def roll (dice : Dice σ) (min max : Int) : Resolution σ Int := fun state =>
  match dice.roll state min max with
  | .ok (n, state) => ⟨state, [(min, max)], [], .ok n⟩
  | .error range => ⟨state, [(min, max)], [], .error (.emptyRange range)⟩

end Resolution

/-- The first entry at which the summed weights reach a roll. -/
def entryAt (roll : Int) (passed : Int) : List (Nat × Choice) → Option (Nat × Choice)
  | [] => none
  | (index, entry) :: rest =>
    if roll ≤ passed + entry.weight then some (index, entry)
    else entryAt roll (passed + entry.weight) rest

/-- The entries whose requirements hold, each with its place. The others are logged. -/
def eligible (index : Nat) : List Choice → Resolution σ (List (Nat × Choice))
  | [] => pure []
  | entry :: rest =>
    match Requirement.allHold entry.requirements with
    | .met => do
      let others ← eligible (index + 1) rest
      return (index, entry) :: others
    | .unmet reason => do
      .log (.excluded index reason)
      eligible (index + 1) rest

/-- Picks one of the eligible entries, each with a chance in proportion to its weight. -/
def pick (dice : Dice σ) (entries : List Choice) : Resolution σ (Option (Nat × Choice)) := do
  let candidates ← eligible 0 entries
  if candidates.isEmpty then do
    .log .noneEligible
    return none
  else do
    let total := totalWeight (candidates.map (·.2))
    let roll ← .roll dice 1 total
    match entryAt roll 0 candidates with
    | some (index, entry) => do
      .log (.picked roll total entry.weight)
      return some (index, entry)
    | none =>
      if Numeral.isWritable roll && Numeral.isWritable total then .fail (.rollTooHigh roll total)
      else .fail .tooLongToWrite

/-- An integer of a range, and the log line that tells it. -/
def rollRange (dice : Dice σ) (min max : Int) (line : Int → LogLine) : Resolution σ Int := do
  let amount ← .roll dice min max
  .log (line amount)
  return amount

mutual

/-- The grants of one modifier. -/
def Modifier.resolve (dice : Dice σ) : Modifier → Resolution σ (List Grant)
  | .grantItem itemKey => pure [.item itemKey]
  | .grantXp value => pure [.xp value]
  | .grantXpRange min max => do
    let amount ← rollRange dice min max (.xpRange min max)
    return [.xp amount]
  | .grantStat statType itemKey value => pure [.stat statType itemKey value]
  | .grantStatRange statType itemKey min max => do
    let amount ← rollRange dice min max (.statRange statType itemKey min max)
    return [.stat statType itemKey amount]
  | .removeItems => pure [.clearInventory]
  | .nothing => pure []
  | .ifThenElse condition thenBranch elseBranch =>
    match Requirement.allHold condition with
    | .met => do
      .log .tookThen
      Modifier.resolveAll dice thenBranch
    | .unmet reason => do
      .log (.tookElse reason)
      Modifier.resolveAll dice elseBranch
  | .randomChoice entries => do
    match ← pick dice entries with
    | none => return []
    | some (index, _) => Modifier.resolveEntryAt dice entries index

/-- The grants of modifiers in order. -/
def Modifier.resolveAll (dice : Dice σ) : List Modifier → Resolution σ (List Grant)
  | [] => pure []
  | m :: rest => do
    let grants ← m.resolve dice
    let others ← Modifier.resolveAll dice rest
    return grants ++ others

/-- The grants of the entry at a place. -/
def Modifier.resolveEntryAt (dice : Dice σ) : List Choice → Nat → Resolution σ (List Grant)
  | [], _ => pure []
  | entry :: _, 0 => Modifier.resolveEntry dice entry
  | _ :: rest, index + 1 => Modifier.resolveEntryAt dice rest index

def Modifier.resolveEntry (dice : Dice σ) : Choice → Resolution σ (List Grant)
  | ⟨_, modifiers, _⟩ => Modifier.resolveAll dice modifiers

end

/-- Resolves modifiers several times in a row, the dice going on from round to round. Each round
gives its grants and its own log. A round that fails ends them all. -/
def resolveRounds (dice : Dice σ) (modifiers : List Modifier) (rounds : Nat) (state : σ) :
    σ × Except Failure (List (List Grant × List LogLine)) :=
  match rounds with
  | 0 => (state, .ok [])
  | rounds + 1 =>
    let run := Modifier.resolveAll dice modifiers state
    match run.outcome with
    | .error failure => (run.dice, .error failure)
    | .ok grants =>
      let (state, others) := resolveRounds dice modifiers rounds run.dice
      (state, others.map ((grants, run.log) :: ·))

end Bounty
