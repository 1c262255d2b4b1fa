import Bounty.Fault
import Bounty.Trace
/-!
Readings of a document: a value or the reason why there is none, together with every step that was
taken on the way there. The steps of a sequence are the steps of its parts in order, and nothing
follows a stop.
-/
namespace Bounty

/-- One step of a reading. Each names the path of the element that it concerns. -/
inductive Step where
  /-- An element is entered; the depth limit is checked afterwards. -/
  | entered (here : Path)
  /-- An entered element is looked up among the kinds of modifiers. -/
  | modifier (here : Path)
  /-- An entered element is looked up among the kinds of requirements. -/
  | requirement (here : Path)
  /-- A child that has no meaning in its parent is passed over. -/
  | ignored (child : String) (parent : Path)
deriving DecidableEq, Repr

/-- The diagnostic line about a child that is passed over in the element at `parent`. -/
def ignoredLine (child : String) (parent : Path) : String :=
  traceLine "Parse" (s!"ignoring <{child}> in " ++ "/".intercalate parent)

/-- The diagnostic line of a step, for the steps that have one. -/
def Step.note? : Step → Option String
  | .ignored child parent => some (ignoredLine child parent)
  | _ => none

/-- The diagnostic lines of some steps. -/
def Step.notes (steps : List Step) : List String := steps.filterMap Step.note?

/-- Why a reading ends without a value. -/
inductive Stop where
  | fault (f : Fault)
  /-- A well-formed numeral has more digits than are converted. -/
  | tooManyDigits (digits : Nat)
deriving DecidableEq, Repr

structure Reading (α : Type) where
  steps : List Step
  outcome : Except Stop α

namespace Reading

protected def pure (a : α) : Reading α := ⟨[], .ok a⟩

protected def bind (r : Reading α) (next : α → Reading β) : Reading β :=
  match r.outcome with
  | .error stop => ⟨r.steps, .error stop⟩
  | .ok a => ⟨r.steps ++ (next a).steps, (next a).outcome⟩

instance : Monad Reading where
  pure := Reading.pure
  bind := Reading.bind

/-- Records one step. -/
def step (s : Step) : Reading Unit := ⟨[s], .ok ()⟩

def stop (s : Stop) : Reading α := ⟨[], .error s⟩

/-- Stops with a fault of the last element of a path. -/
def fault (cause : Cause) (element : String) (path : Path) : Reading α :=
  stop (.fault ⟨cause, ⟨element, path⟩⟩)

/-- Reads each element of a list in order. -/
def each (read : Element → Reading α) : List Element → Reading (List α)
  | [] => pure []
  | e :: rest => do
    let a ← read e
    let as ← each read rest
    return a :: as

/-- Reads each element of a list in order and keeps the values that there are. -/
def gather (read : Element → Reading (Option α)) : List Element → Reading (List α)
  | [] => pure []
  | e :: rest => do
    let a ← read e
    let as ← gather read rest
    return a.toList ++ as

end Reading

end Bounty
