import Bounty.Attribute
import Bounty.Modifier
/-!
Reading modifiers and requirements from the elements of a document.

A parser is only configuration. The way from the start of a reading to the element at hand travels
through the recursion as a path, and with it the depth that is left: every element that is entered
takes one level, and none is left below the limit.
-/
namespace Bounty

structure Parser where
  maxDepth : Nat
  /-- Whether a child that has no meaning in its parent is a fault. -/
  strict : Bool
  /-- The kinds of modifiers, each with the name of the elements that are read as one. -/
  modifierTable : List (String × ModifierKind)
  /-- The kinds of requirements, each with the name of the elements that are read as one. -/
  requirementTable : List (String × RequirementKind)
deriving DecidableEq, Repr

namespace Parser

def defaultDepth : Nat := 64

/-- The greatest depth limit. -/
def depthCeiling : Nat := 200

/-- What is wrong with a depth limit. -/
inductive DepthFault where
  | belowOne
  | aboveCeiling
deriving DecidableEq, Repr

def DepthFault.message : DepthFault → String
  | .belowOne => "max_depth must be >= 1"
  | .aboveCeiling => s!"max_depth must be <= {depthCeiling} at the current recursion limit"

/-- A parser with the given depth limit, if that is one. Without kinds of its own it knows all. -/
def create (maxDepth : Int) (strict : Bool) (modifierKinds : List ModifierKind)
    (requirementKinds : List RequirementKind) : Except DepthFault Parser :=
  if maxDepth < 1 then .error .belowOne
  else if maxDepth > depthCeiling then .error .aboveCeiling
  else .ok {
    maxDepth := maxDepth.toNat
    strict
    modifierTable := ModifierKind.tableOf
      (if modifierKinds.isEmpty then ModifierKind.all else modifierKinds)
    requirementTable := RequirementKind.tableOf
      (if requirementKinds.isEmpty then RequirementKind.all else requirementKinds) }

/-- The lenient parser with the default depth limit and all kinds. -/
def standard : Parser :=
  ⟨defaultDepth, false, ModifierKind.tableOf ModifierKind.all,
    RequirementKind.tableOf RequirementKind.all⟩

/-- Steps into an element and answers the path that leads to it. -/
def enter (path : Path) (e : Element) : Reading Path := do
  let here := path ++ [e.name]
  .step (.entered here)
  return here

/-- An element is entered where no depth is left. -/
def tooDeep (p : Parser) (path : Path) (e : Element) : Reading α := do
  let here ← enter path e
  .fault (.tooDeep p.maxDepth) e.name here

/-- A child that has no meaning in the element at `here`. -/
def stray (p : Parser) (here : Path) (child : Element) : Reading Unit :=
  if p.strict then
    .fault (.strayChild child.name (here.getLastD "")) child.name (here ++ [child.name])
  else .step (.ignored child.name here)

/-- The kind of requirement that an entered element holds. -/
def requirementKind (p : Parser) (here : Path) (e : Element) : Reading RequirementKind := do
  .step (.requirement here)
  match p.requirementTable.lookup e.name with
  | some kind => return kind
  | none => .fault (.unknownRequirement e.name) e.name here

/-- The kind of modifier that an entered element holds. -/
def modifierKind (p : Parser) (here : Path) (e : Element) : Reading ModifierKind := do
  .step (.modifier here)
  match p.modifierTable.lookup e.name with
  | some kind => return kind
  | none => .fault (.unknownModifier e.name) e.name here

/-- The attributes that all atomic requirements share come after those of the kind. -/
def check (demand : Demand) (here : Path) (e : Element) : Reading Requirement := do
  let ok ← Attribute.booleanOr demand.kind.defaultOk "ok" here e
  return .check ⟨demand, ok, Attribute.textOr demand.kind.defaultReason "reason" e⟩

/-- A requirement of a kind; `child` reads the children of a conjunction. -/
def requirementOf (child : Path → Element → Reading Requirement) (here : Path) (e : Element) :
    RequirementKind → Reading Requirement
  | .always => check .always here e
  | .never => check .never here e
  | .friends => do
    let required ← Attribute.integer "required" here e
    check (.friends required) here e
  | .level => do
    let level ← Attribute.integer "level" here e
    check (.level level) here e
  | .item => do
    let itemKey ← Attribute.text "ikey" here e
    let number ← Attribute.integerOr 1 "number" here e
    check (.item itemKey number) here e
  | .stat => do
    let statType ← Attribute.text "type" here e
    let itemKey ← Attribute.text "ikey" here e
    let value ← Attribute.integer "value" here e
    check (.stat statType itemKey value) here e
  | .conjunction => do
    let children ← Reading.each (child here) e.children
    return .conjunction children

def requirement (p : Parser) : Nat → Path → Element → Reading Requirement
  | 0, path, e => p.tooDeep path e
  | depth + 1, path, e => do
    let here ← enter path e
    let kind ← p.requirementKind here e
    requirementOf (p.requirement depth) here e kind

def requirements (p : Parser) : Nat → Path → Element → Reading (List Requirement)
  | 0, path, e => p.tooDeep path e
  | depth + 1, path, e => do
    let here ← enter path e
    Reading.each (p.requirement depth here) e.children

/-- The three branches of a conditional. -/
structure Branches (β : Type) where
  condition : β
  thenBranch : β
  elseBranch : β

/-- The branches found among some children, in whatever order they stand. -/
def findBranches (p : Parser) (here : Path) (e : Element) (found : Branches (Option Element)) :
    List Element → Reading (Branches (Option Element))
  | [] => pure found
  | child :: rest =>
    if child.name = "if" then
      if found.condition.isSome then duplicate child
      else p.findBranches here e { found with condition := some child } rest
    else if child.name = "then" then
      if found.thenBranch.isSome then duplicate child
      else p.findBranches here e { found with thenBranch := some child } rest
    else if child.name = "else" then
      if found.elseBranch.isSome then duplicate child
      else p.findBranches here e { found with elseBranch := some child } rest
    else do
      p.stray here child
      p.findBranches here e found rest
where
  duplicate (child : Element) : Reading (Branches (Option Element)) :=
    .fault (.duplicateBranch child.name) e.name here

/-- A conditional has each of its branches exactly once. -/
def branches (p : Parser) (here : Path) (e : Element) : Reading (Branches Element) := do
  let found ← p.findBranches here e ⟨none, none, none⟩ e.children
  match found with
  | ⟨some condition, some thenBranch, some elseBranch⟩ => return ⟨condition, thenBranch, elseBranch⟩
  | ⟨none, _, _⟩ => .fault (.missingBranch "if") e.name here
  | ⟨_, none, _⟩ => .fault (.missingBranch "then") e.name here
  | ⟨_, _, none⟩ => .fault (.missingBranch "else") e.name here

/-- The blocks of a choice that have been read; a later block replaces an earlier one. -/
structure Blocks where
  weight : Option Int
  modifiers : List Modifier
  requirements : List Requirement

/-- The weight of a choice in an element of its own. -/
def weight (p : Parser) : Nat → Path → Element → Reading Int
  | 0, path, e => p.tooDeep path e
  | _ + 1, path, e => do
    let here ← enter path e
    Attribute.positive "weight" here e

/-- Reads one child of a choice into its blocks. -/
def block (p : Parser) (depth : Nat) (modifiers : Path → Element → Reading (List Modifier))
    (here : Path) (blocks : Blocks) (child : Element) : Reading Blocks :=
  if child.name = "weight" then do
    let weight ← p.weight depth here child
    return { blocks with weight := some weight }
  else if child.name = "modifier" then do
    let modifiers ← modifiers here child
    return { blocks with modifiers }
  else if child.name = "requirement" then do
    let requirements ← p.requirements depth here child
    return { blocks with requirements }
  else do
    p.stray here child
    return blocks

/-- Reads one child of a random choice, which gives an alternative where it is one. -/
def entry (p : Parser) (choice : Path → Element → Reading Choice) (here : Path)
    (child : Element) : Reading (Option Choice) :=
  if child.name = "choice" then do
    let entry ← choice here child
    return some entry
  else do
    p.stray here child
    return none

/-- A modifier of a kind; `modifiers` and `choice` read what lies below a branch or a choice. -/
def modifierOf (p : Parser) (depth : Nat) (modifiers : Path → Element → Reading (List Modifier))
    (choice : Path → Element → Reading Choice) (here : Path) (e : Element) :
    ModifierKind → Reading Modifier
  | .grantItem => do
    let itemKey ← Attribute.text "ikey" here e
    return .grantItem itemKey
  | .grantXp => do
    let value ← Attribute.integer "value" here e
    return .grantXp value
  | .grantXpRange => do
    let (min, max) ← Attribute.range here e
    return .grantXpRange min max
  | .grantStat => do
    let statType ← Attribute.text "type" here e
    let itemKey ← Attribute.text "ikey" here e
    let value ← Attribute.integer "value" here e
    return .grantStat statType itemKey value
  | .grantStatRange => do
    let statType ← Attribute.text "type" here e
    let itemKey ← Attribute.text "ikey" here e
    let (min, max) ← Attribute.range here e
    return .grantStatRange statType itemKey min max
  | .removeItems => return .removeItems
  | .nothing => return .nothing
  | .ifThenElse => do
    let found ← p.branches here e
    let condition ← p.requirements depth here found.condition
    let thenBranch ← modifiers here found.thenBranch
    let elseBranch ← modifiers here found.elseBranch
    return .ifThenElse condition thenBranch elseBranch
  | .randomChoice => do
    let entries ← Reading.gather (p.entry choice here) e.children
    return .randomChoice entries

/-- The weight of a choice. It may be written on the element itself, where no block holds it. -/
def Blocks.weightFor (blocks : Blocks) (here : Path) (e : Element) : Reading Int :=
  match blocks.weight with
  | some weight => pure weight
  | none => Attribute.positive "weight" here e

/-- One alternative of a random choice. -/
def choiceOf (p : Parser) (depth : Nat) (modifiers : Path → Element → Reading (List Modifier))
    (here : Path) (e : Element) : Reading Choice := do
  let blocks ← e.children.foldlM (p.block depth modifiers here) ⟨none, [], []⟩
  let weight ← blocks.weightFor here e
  return ⟨weight, blocks.modifiers, blocks.requirements⟩

mutual

def modifier (p : Parser) : Nat → Path → Element → Reading Modifier
  | 0, path, e => p.tooDeep path e
  | depth + 1, path, e => do
    let here ← enter path e
    let kind ← p.modifierKind here e
    p.modifierOf depth (p.modifiers depth) (p.choice depth) here e kind

def modifiers (p : Parser) : Nat → Path → Element → Reading (List Modifier)
  | 0, path, e => p.tooDeep path e
  | depth + 1, path, e => do
    let here ← enter path e
    Reading.each (p.modifier depth here) e.children

def choice (p : Parser) : Nat → Path → Element → Reading Choice
  | 0, path, e => p.tooDeep path e
  | depth + 1, path, e => do
    let here ← enter path e
    p.choiceOf depth (p.modifiers depth) here e

end

/-- The depth that is left below a path. -/
def depthBelow (p : Parser) (path : Path) : Nat := p.maxDepth - path.length

def readModifier (p : Parser) (e : Element) (path : Path := []) : Reading Modifier :=
  p.modifier (p.depthBelow path) path e

def readModifiers (p : Parser) (e : Element) (path : Path := []) : Reading (List Modifier) :=
  p.modifiers (p.depthBelow path) path e

def readRequirement (p : Parser) (e : Element) (path : Path := []) : Reading Requirement :=
  p.requirement (p.depthBelow path) path e

def readRequirements (p : Parser) (e : Element) (path : Path := []) : Reading (List Requirement) :=
  p.requirements (p.depthBelow path) path e

/-- The ways into a document, each with the type of what it reads there. -/
inductive EntryPoint : Type → Type where
  | modifier : EntryPoint Modifier
  | modifiers : EntryPoint (List Modifier)
  | requirement : EntryPoint Requirement
  | requirements : EntryPoint (List Requirement)

/-- Reads a document from one of its entry points on. -/
def read (p : Parser) (entry : EntryPoint α) (e : Element) (path : Path := []) : Reading α :=
  match entry with
  | .modifier => p.readModifier e path
  | .modifiers => p.readModifiers e path
  | .requirement => p.readRequirement e path
  | .requirements => p.readRequirements e path

end Parser

end Bounty
