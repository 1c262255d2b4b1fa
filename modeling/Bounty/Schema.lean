import Bounty.FileTree
import Bounty.Json.Writer
import Bounty.Record
/-!
Schemas of the records of modifiers, requirements and choices, and the files that hold them. The
members of a schema are sorted by their keys; only properties keep the order of the fields.
-/
namespace Bounty

/-- The name under which other schemas refer to the one of a kind. -/
def ModifierKind.title : ModifierKind → String
  | .grantItem => "GrantItem"
  | .grantXp => "GrantXp"
  | .grantXpRange => "GrantXpRange"
  | .grantStat => "GrantStat"
  | .grantStatRange => "GrantStatRange"
  | .removeItems => "RemoveItems"
  | .nothing => "Nothing"
  | .ifThenElse => "IfThenElse"
  | .randomChoice => "RandomChoice"

/-- The name under which other schemas refer to the one of a kind. -/
def RequirementKind.title : RequirementKind → String
  | .always => "TrueRequirement"
  | .never => "FalseRequirement"
  | .friends => "FriendsRequirement"
  | .level => "LevelRequirement"
  | .item => "ItemRequirement"
  | .stat => "StatRequirement"
  | .conjunction => "AndRequirement"

namespace Schema

def choiceTitle : String := "ChoiceEntry"

def sortByKey (members : List (String × α)) : List (String × α) :=
  members.mergeSort fun a b => decide (a.1 ≤ b.1)

/-- Refers to the definition of a title. -/
def reference (title : String) : String × Data := ("$ref", .text ("#/$defs/" ++ title))

/-- The members of a schema for one of several kinds, each given by its name and its title. -/
def oneOf (kinds : List (String × String)) : List (String × Data) := [
  ("discriminator", .object [
    ("mapping", .object (sortByKey (kinds.map fun (name, title) => (name, (reference title).2)))),
    ("propertyName", .text "kind")]),
  ("oneOf", .list (kinds.map fun (_, title) => .object [reference title]))]

def anyModifier : List (String × Data) :=
  oneOf (ModifierKind.all.map fun kind => (kind.name, kind.title))

def anyRequirement : List (String × Data) :=
  oneOf (RequirementKind.all.map fun kind => (kind.name, kind.title))

/-- What a field of a record may hold. -/
inductive FieldType where
  | text
  | integer
  | positive
  | boolean
  | modifiers
  | requirements
  | choices

namespace FieldType

def name : FieldType → String
  | .text => "string"
  | .integer | .positive => "integer"
  | .boolean => "boolean"
  | .modifiers | .requirements | .choices => "array"

/-- What a type demands beyond its name. -/
def details : FieldType → List (String × Data)
  | .text | .integer | .boolean => []
  | .positive => [("exclusiveMinimum", .integer 0)]
  | .modifiers => [("items", .object anyModifier)]
  | .requirements => [("items", .object anyRequirement)]
  | .choices => [("items", .object [reference choiceTitle])]

end FieldType

/-- A field of a record. It may be left out where it has a default. -/
structure Field where
  name : String
  type : FieldType
  default : Option Data

/-- The words of a name, each with a capital letter. -/
def fieldTitle (name : String) : String :=
  " ".intercalate ((name.splitOn "_").map String.capitalize)

def Field.property (f : Field) : String × Data :=
  (f.name, .object ((f.default.toList.map fun d => ("default", d)) ++ f.type.details ++
    [("title", .text (fieldTitle f.name)), ("type", .text f.type.name)]))

/-- The field that tells the kind of a record. -/
def kindProperty (name : String) : String × Data :=
  ("kind", .object [
    ("const", .text name),
    ("default", .text name),
    ("title", .text (fieldTitle "kind")),
    ("type", .text "string")])

def needed (name : String) (type : FieldType) : Field := ⟨name, type, none⟩

/-- A list that is empty where it is left out. -/
def listOf (name : String) (type : FieldType) : Field := ⟨name, type, some (.list [])⟩

/-- The fields of a modifier beside its kind. -/
def modifierFields : ModifierKind → List Field
  | .grantItem => [needed "item_key" .text]
  | .grantXp => [needed "value" .integer]
  | .grantXpRange => [needed "min" .integer, needed "max" .integer]
  | .grantStat => [needed "stat_type" .text, needed "item_key" .text, needed "value" .integer]
  | .grantStatRange =>
    [needed "stat_type" .text, needed "item_key" .text, needed "min" .integer,
      needed "max" .integer]
  | .removeItems | .nothing => []
  | .ifThenElse =>
    [listOf "condition" .requirements, listOf "then_branch" .modifiers,
      listOf "else_branch" .modifiers]
  | .randomChoice => [listOf "choices" .choices]

/-- The fields that all checks share, with the verdict of the kind. They come before the kind. -/
def verdictFields (kind : RequirementKind) : List Field :=
  match kind with
  | .conjunction => []
  | kind => [⟨"ok", .boolean, some (.bool kind.defaultOk)⟩,
      ⟨"reason", .text, some (.text kind.defaultReason)⟩]

/-- The other fields of a requirement beside its kind. -/
def demandFields : RequirementKind → List Field
  | .always | .never => []
  | .friends => [needed "required" .integer]
  | .level => [needed "level" .integer]
  | .item => [needed "item_key" .text, ⟨"number", .integer, some (.integer 1)⟩]
  | .stat => [needed "stat_type" .text, needed "item_key" .text, needed "value" .integer]
  | .conjunction => [listOf "children" .requirements]

def choiceFields : List Field :=
  [needed "weight" .positive, listOf "modifiers" .modifiers, listOf "requirements" .requirements]

/-- The schema of a record. -/
def ofRecord (title : String) (description : Option String) (properties : List (String × Data))
    (fields : List Field) : String × Data :=
  let required := fields.filter (·.default.isNone)
  (title, .object (
    (description.toList.map fun text => ("description", .text text)) ++
    [("properties", .object properties)] ++
    (if required.isEmpty then [] else [("required", .list (required.map (.text ·.name)))]) ++
    [("title", .text title), ("type", .text "object")]))

def ofModifier (kind : ModifierKind) : String × Data :=
  let fields := modifierFields kind
  ofRecord kind.title none (kindProperty kind.name :: fields.map Field.property) fields

def description? : RequirementKind → Option String
  | .conjunction =>
    some "Conjunction; reports the reason of the first failing child in document order."
  | _ => none

def ofRequirement (kind : RequirementKind) : String × Data :=
  let properties := (verdictFields kind).map Field.property ++
    kindProperty kind.name :: (demandFields kind).map Field.property
  ofRecord kind.title (description? kind) properties (demandFields kind)

def ofChoice : String × Data :=
  ofRecord choiceTitle none (choiceFields.map Field.property) choiceFields

def definitions (schemas : List (String × Data)) : String × Data :=
  ("$defs", .object (sortByKey schemas))

def requirementSchemas : List (String × Data) := RequirementKind.all.map ofRequirement

def allSchemas : List (String × Data) :=
  ofChoice :: ModifierKind.all.map ofModifier ++ requirementSchemas

def modifier : Data := .object (definitions allSchemas :: anyModifier)

def requirement : Data := .object (definitions requirementSchemas :: anyRequirement)

def choice : Data := .object [definitions allSchemas, reference choiceTitle]

/-- The schemas and the names of their files. -/
def files : List (String × Data) := [
  ("Modifier.schema.json", modifier),
  ("Requirement.schema.json", requirement),
  ("ChoiceEntry.schema.json", choice)]

/-- The text of a schema file. -/
def write (schema : Data) : String := Json.write ⟨some 2, true⟩ schema

/-- Writes all schemas into a folder, which is made where it is missing. -/
def exportTo (t : FileTree) (folder : FilePath) : Except FileFault FileTree := do
  let t ← t.ensureFolder folder
  files.foldlM (fun t (name, schema) => t.write (folder.append [name]) (write schema).toUTF8) t

end Schema

end Bounty
