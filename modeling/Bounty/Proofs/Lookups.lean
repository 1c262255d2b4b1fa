import Bounty.Attribute
import Bounty.Proofs.Reading

/-! The lookups of a reading: the steps at which the kind of a modifier or a requirement is asked
for. Attributes are read without any. -/
namespace Bounty

variable {α : Type}

namespace Step

def isModifier : Step → Bool
  | .modifier _ => true
  | _ => false

def isRequirement : Step → Bool
  | .requirement _ => true
  | _ => false

/-- The steps that look up the kind of an element. -/
def isLookup (s : Step) : Bool := s.isModifier || s.isRequirement

@[simp] theorem isLookup_entered (here : Path) : (entered here).isLookup = false := rfl

@[simp] theorem isLookup_modifier (here : Path) : (modifier here).isLookup = true := rfl

@[simp] theorem isLookup_requirement (here : Path) : (requirement here).isLookup = true := rfl

@[simp] theorem isLookup_ignored (child : String) (parent : Path) :
    (ignored child parent).isLookup = false := rfl

end Step

namespace Reading

def lookups (r : Reading α) : List Step := r.steps.filter Step.isLookup

/-- Every step that is of a sort of rules is a lookup. -/
theorem countP_lookups (r : Reading α) :
    r.lookups.countP Step.isModifier = r.steps.countP Step.isModifier ∧
    r.lookups.countP Step.isRequirement = r.steps.countP Step.isRequirement := by
  unfold lookups
  rw [List.countP_filter, List.countP_filter]
  constructor <;>
    · congr 1
      funext s
      cases s <;> rfl

end Reading

namespace Attribute

variable (key : String) (here : Path) (e : Element)

/-- Reading an attribute takes no steps, whether it is there or not. -/
theorem steps_text : (text key here e).steps = [] := by
  unfold text
  split
  · rfl
  · split <;> rfl

/-- A numeral takes no steps, well-formed or not. -/
theorem steps_integer : (integer key here e).steps = [] := by
  refine Reading.steps_bind_eq_nil (steps_text key here e) fun raw => ?_
  split <;> rfl

/-- A number that has to be positive takes none either. -/
theorem steps_positive : (positive key here e).steps = [] := by
  refine Reading.steps_bind_eq_nil (steps_integer key here e) fun n => ?_
  split <;> rfl

/-- A default is no step either. -/
theorem steps_integerOr (default : Int) : (integerOr default key here e).steps = [] := by
  unfold integerOr
  split
  · rfl
  · exact steps_integer key here e

/-- Truth values are told without steps, from whichever word they are read. -/
theorem steps_booleanOr (default : Bool) : (booleanOr default key here e).steps = [] := by
  unfold booleanOr
  split
  · rfl
  · dsimp only
    split <;> rfl

/-- Both bounds of a range, and the fault where they are in the wrong order, come without steps. -/
theorem steps_range : (range here e).steps = [] := by
  refine Reading.steps_bind_eq_nil (steps_integer "min" here e) fun min => ?_
  refine Reading.steps_bind_eq_nil (steps_integer "max" here e) fun max => ?_
  split <;> rfl

end Attribute

end Bounty
