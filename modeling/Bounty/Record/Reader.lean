import Bounty.Json.Reader
import Bounty.Record.Field
import Bounty.Record
/-!
Reading records back. The kind decides which fields are looked at; unknown fields are ignored, and
lists that are left out are empty. Ranges are not empty and weights are positive.
-/
namespace Bounty.Record

/-- Where a record comes from: from its written form, or from data inside of some other records. -/
inductive Origin where
  | text
  | value (outer : Nat)
deriving DecidableEq, Repr

namespace Origin

def inner : Origin → Origin
  | .text => .text
  | .value outer => .value (outer + 1)

/-- How many records may stand inside of each other. The depth of written forms is limited apart
from this. -/
def nestingLimit : Nat := 255

def isTooDeep : Origin → Bool
  | .text => false
  | .value outer => nestingLimit ≤ outer

end Origin

/-- A reading of a record, unless there are too many records around it. -/
def nested (o : Origin) (read : Checked α) : Checked α :=
  if o.isTooDeep then .fail .tooDeep else read

/-- The kind of a record, after the table of kinds that it may have. -/
def kindOf (ofName? : String → Option κ) (members : List (Scalar × Data)) : Checked κ :=
  match find? "kind" members with
  | none => .fail .noKind
  | some (.scalar (.text name)) => match ofName? name with
    | some kind => .ok kind
    | none => .fail .unknownKind
  | some _ => .fail .unknownKind

/-- The verdict that all checks share, then the demand. -/
def check (kind : RequirementKind) (demand : Checked Demand) (members : List (Scalar × Data)) :
    Checked Requirement :=
  ((optional boolean kind.defaultOk "ok" members).both
    ((optional text kind.defaultReason "reason" members).both demand)).map
      fun (ok, reason, demand) => .check ⟨demand, ok, reason⟩

mutual

def requirement (o : Origin) : Data → Checked Requirement
  | .mapping members =>
    match kindOf RequirementKind.ofName? members with
    | .error issues => .error issues
    | .ok kind => Checked.inside (.key kind.name) <| nested o <| match kind with
      | .always => check kind (.ok .always) members
      | .never => check kind (.ok .never) members
      | .friends => check kind ((required integer "required" members).map .friends) members
      | .level => check kind ((required integer "level" members).map .level) members
      | .item =>
        let demand := (required text "item_key" members).both (optional integer 1 "number" members)
        check kind (demand.map fun (itemKey, number) => .item itemKey number) members
      | .stat =>
        let demand := (required text "stat_type" members).both
          ((required text "item_key" members).both (required integer "value" members))
        check kind (demand.map fun (statType, itemKey, value) => .stat statType itemKey value)
          members
      | .conjunction => (requirementsField o.inner "children" members).map .conjunction
  | _ => .fail (.notTagged (o == .text))

/-- The requirements under a key. -/
def requirementsField (o : Origin) (key : String) :
    List (Scalar × Data) → Checked (List Requirement)
  | [] => .ok []
  | (k, value) :: rest =>
    if k == .text key then Checked.inside (.key key) (requirements o value)
    else requirementsField o key rest

def requirements (o : Origin) : Data → Checked (List Requirement)
  | .list items => requirementItems o 0 items
  | _ => .fail .notList

def requirementItems (o : Origin) (index : Nat) : List Data → Checked (List Requirement)
  | [] => .ok []
  | d :: rest =>
    ((Checked.inside (.index index) (requirement o d)).both
      (requirementItems o (index + 1) rest)).map fun (r, rs) => r :: rs

end

/-- What is said of a range whose ends are the wrong way round. -/
def emptyRange (kind : ModifierKind) (min max : Int) : Problem :=
  .invalid <|
    if Numeral.isWritable min && Numeral.isWritable max then
      s!"{kind.name} requires min <= max (got {Numeral.write min} > {Numeral.write max})"
    else Numeral.tooLongToWrite

/-- The ends of a range. -/
def ends (members : List (Scalar × Data)) : Checked (Int × Int) :=
  (required integer "min" members).both (required integer "max" members)

def weight (members : List (Scalar × Data)) : Checked Int :=
  required (fun d => (integer d).ensure (0 < ·) fun _ => .notGreater) "weight" members

mutual

def modifier (o : Origin) : Data → Checked Modifier
  | .mapping members =>
    match kindOf ModifierKind.ofName? members with
    | .error issues => .error issues
    | .ok kind => Checked.inside (.key kind.name) <| nested o <| match kind with
      | .grantItem => (required text "item_key" members).map .grantItem
      | .grantXp => (required integer "value" members).map .grantXp
      | .grantXpRange =>
        ((ends members).ensure (fun (min, max) => min ≤ max)
          fun (min, max) => emptyRange .grantXpRange min max).map
          fun (min, max) => .grantXpRange min max
      | .grantStat =>
        ((required text "stat_type" members).both
          ((required text "item_key" members).both (required integer "value" members))).map
          fun (statType, itemKey, value) => .grantStat statType itemKey value
      | .grantStatRange =>
        (((required text "stat_type" members).both
          ((required text "item_key" members).both (ends members))).ensure
            (fun (_, _, min, max) => min ≤ max)
            fun (_, _, min, max) => emptyRange .grantStatRange min max).map
          fun (statType, itemKey, min, max) => .grantStatRange statType itemKey min max
      | .removeItems => .ok .removeItems
      | .nothing => .ok .nothing
      | .ifThenElse =>
        ((requirementsField o.inner "condition" members).both
          ((modifiersField o.inner "then_branch" members).both
            (modifiersField o.inner "else_branch" members))).map
          fun (condition, thenBranch, elseBranch) => .ifThenElse condition thenBranch elseBranch
      | .randomChoice => (choicesField o.inner "choices" members).map .randomChoice
  | _ => .fail (.notTagged (o == .text))

/-- The modifiers under a key. -/
def modifiersField (o : Origin) (key : String) : List (Scalar × Data) → Checked (List Modifier)
  | [] => .ok []
  | (k, value) :: rest =>
    if k == .text key then Checked.inside (.key key) (modifiers o value)
    else modifiersField o key rest

def modifiers (o : Origin) : Data → Checked (List Modifier)
  | .list items => modifierItems o 0 items
  | _ => .fail .notList

def modifierItems (o : Origin) (index : Nat) : List Data → Checked (List Modifier)
  | [] => .ok []
  | d :: rest =>
    ((Checked.inside (.index index) (modifier o d)).both
      (modifierItems o (index + 1) rest)).map fun (m, ms) => m :: ms

/-- The choices under a key. -/
def choicesField (o : Origin) (key : String) : List (Scalar × Data) → Checked (List Choice)
  | [] => .ok []
  | (k, value) :: rest =>
    if k == .text key then Checked.inside (.key key) (choices o value)
    else choicesField o key rest

def choices (o : Origin) : Data → Checked (List Choice)
  | .list items => choiceItems o 0 items
  | _ => .fail .notList

def choiceItems (o : Origin) (index : Nat) : List Data → Checked (List Choice)
  | [] => .ok []
  | d :: rest =>
    ((Checked.inside (.index index) (choice o d)).both
      (choiceItems o (index + 1) rest)).map fun (c, cs) => c :: cs

def choice (o : Origin) : Data → Checked Choice
  | .mapping members => nested o <|
    ((weight members).both
      ((modifiersField o.inner "modifiers" members).both
        (requirementsField o.inner "requirements" members))).map
      fun (weight, modifiers, requirements) => ⟨weight, modifiers, requirements⟩
  | _ => nested o (.fail .notRecord)

end

/-- What the written form of a record may hold. -/
def tolerance : Json.Tolerance := ⟨some Numeral.digitLimit, some 200, false⟩

/-- Reads a record from its written form. -/
def ofText (read : Origin → Data → Checked α) (s : String) : Checked α :=
  match Json.read? tolerance s with
  | some d => read .text d
  | none => .fail .malformedText

end Bounty.Record
