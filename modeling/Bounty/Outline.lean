import Bounty.Data.Shape
import Bounty.Markup
import Bounty.Record
import Bounty.Text.Blank
/-!
Outlines: modifiers as trees of labels. Every requirement shows whether it holds, and if not, why.
-/
namespace Bounty

inductive Label where
  | title (text : String)
  /-- A part of a modifier, by its name. -/
  | part (name : String)
  | choice (weight : Int)
  | item (text : String)
  /-- A requirement with its outcome. -/
  | checked (text : String) (outcome : Outcome)
deriving DecidableEq, Repr

inductive Outline where
  | node (label : Label) (children : List Outline)

/-- A field as a label shows it. -/
def fieldText (field : String × Data) : String :=
  field.1 ++ "=" ++ match field.2 with
    | .scalar s => s.write
    | _ => ""

/-- A kind and some fields, without blanks at the end. -/
def labelText (kind : String) (fields : List (String × Data)) : String :=
  let text := kind ++ " " ++ " ".intercalate (fields.map fieldText)
  String.ofList (Text.trimEnd Text.isBlank text.toList)

def Modifier.labelText (m : Modifier) : String := Bounty.labelText m.kind.name m.fields

def Requirement.labelText : Requirement → String
  | .check c => Bounty.labelText c.demand.kind.name c.fields
  | .conjunction _ => Bounty.labelText RequirementKind.conjunction.name []

namespace Label

def ofModifier (m : Modifier) : Label := .item m.labelText

def ofRequirement (r : Requirement) : Label := .checked r.labelText r.outcome

/-- What marks an outcome. -/
def mark : Outcome → String
  | .met => "[green]✓[/]"
  | .unmet reason => "[red]✗ " ++ Markup.escape reason ++ "[/]"

/-- The label as markup. -/
def markup : Label → String
  | .title text => text
  | .part name => name
  | .choice weight => "choice weight=" ++ Numeral.write weight
  | .item text => Markup.escape text
  | .checked text outcome => Markup.escape text ++ " " ++ mark outcome

end Label

namespace Outline

def label : Outline → Label
  | .node label _ => label

def children : Outline → List Outline
  | .node _ children => children

mutual

def ofRequirement : Requirement → Outline
  | .check c => .node (.ofRequirement (.check c)) []
  | .conjunction children =>
    .node (.ofRequirement (.conjunction children)) (ofRequirements children)

def ofRequirements : List Requirement → List Outline
  | [] => []
  | r :: rest => ofRequirement r :: ofRequirements rest

end

mutual

def ofModifier : Modifier → Outline
  | .ifThenElse condition thenBranch elseBranch =>
    .node (.ofModifier (.ifThenElse condition thenBranch elseBranch)) [
      .node (.part "if") (ofRequirements condition),
      .node (.part "then") (ofModifiers thenBranch),
      .node (.part "else") (ofModifiers elseBranch)]
  | .randomChoice entries => .node (.ofModifier (.randomChoice entries)) (ofChoices entries)
  | m => .node (.ofModifier m) []

def ofModifiers : List Modifier → List Outline
  | [] => []
  | m :: rest => ofModifier m :: ofModifiers rest

def ofChoices : List Choice → List Outline
  | [] => []
  | entry :: rest => ofChoice entry :: ofChoices rest

def ofChoice : Choice → Outline
  | ⟨weight, modifiers, requirements⟩ => .node (.choice weight) [
      .node (.part "requirement") (ofRequirements requirements),
      .node (.part "modifier") (ofModifiers modifiers)]

end

/-- The outline of a document with a title. -/
def ofDocument (title : String) (modifiers : List Modifier) : Outline :=
  .node (.title title) (ofModifiers modifiers)

/-- The outline of a document, if every integer in it can be written. -/
def ofDocument? (title : String) (modifiers : List Modifier) : Option Outline :=
  if (Data.list (Modifier.toDataList modifiers)).isWritable then some (ofDocument title modifiers)
  else none

end Outline

end Bounty
