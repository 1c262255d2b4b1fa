import Bounty.Numeral
/-!
What is wrong with a record. All faulty fields are reported, in the order in which the kind of
record lists its fields.
-/
namespace Bounty

/-- One step from a record to a part of it. -/
inductive Location where
  | key (name : String)
  | index (i : Nat)
deriving DecidableEq, Repr

inductive Problem where
  | malformedText
  | missing
  | noKind
  | unknownKind
  /-- Where a record of some kind is expected; `fromText` tells whether the data was written down.
  -/
  | notTagged (fromText : Bool)
  /-- Where a record of one certain kind is expected. -/
  | notRecord
  | notList
  | notText
  | notInteger
  | malformedInteger
  | tooLongInteger
  | fractionalInteger
  | infiniteInteger
  | notBoolean
  | malformedBoolean
  | notGreater
  | notGreaterOrEqual
  /-- There are too many records around this one. -/
  | tooDeep
  /-- A rule about several fields, or beyond the type of one, is broken. -/
  | invalid (text : String)
deriving DecidableEq, Repr

/-- The name of a problem. -/
def Problem.code : Problem → String
  | .malformedText => "json_invalid"
  | .missing => "missing"
  | .noKind => "union_tag_not_found"
  | .unknownKind => "union_tag_invalid"
  | .notTagged fromText => if fromText then "dict_type" else "model_attributes_type"
  | .notRecord => "model_type"
  | .notList => "tuple_type"
  | .notText => "string_type"
  | .notInteger => "int_type"
  | .malformedInteger => "int_parsing"
  | .tooLongInteger => "int_parsing_size"
  | .fractionalInteger => "int_from_float"
  | .infiniteInteger => "finite_number"
  | .notBoolean => "bool_type"
  | .malformedBoolean => "bool_parsing"
  | .notGreater => "greater_than"
  | .notGreaterOrEqual => "greater_than_equal"
  | .tooDeep => "recursion_loop"
  | .invalid _ => "value_error"

/-- The wording of a broken rule. -/
def Problem.message? : Problem → Option String
  | .invalid text => some ("Value error, " ++ text)
  | _ => none

structure Issue where
  problem : Problem
  location : List Location
deriving DecidableEq, Repr

def Location.text : Location → String
  | .key name => name
  | .index i => i.repr

/-- An issue on one line. -/
def Issue.text (i : Issue) : String :=
  ".".intercalate (i.location.map Location.text) ++ ": " ++
    (i.problem.message?.getD i.problem.code)

/-- A value, or everything that is wrong with it. -/
abbrev Checked (α : Type) := Except (List Issue) α

namespace Checked

def fail (problem : Problem) : Checked α := .error [⟨problem, []⟩]

/-- Both values, or the issues of both. -/
def both (a : Checked α) (b : Checked β) : Checked (α × β) :=
  match a, b with
  | .ok a, .ok b => .ok (a, b)
  | .ok _, .error issues => .error issues
  | .error issues, .ok _ => .error issues
  | .error issues, .error others => .error (issues ++ others)

/-- Places the issues inside a part. -/
def inside (part : Location) (a : Checked α) : Checked α :=
  a.mapError (·.map fun issue => { issue with location := part :: issue.location })

/-- A rule that is looked at only where all else is in order. -/
def ensure (holds : α → Bool) (problem : α → Problem) (a : Checked α) : Checked α :=
  match a with
  | .error issues => .error issues
  | .ok value => if holds value then .ok value else fail (problem value)

end Checked

end Bounty
