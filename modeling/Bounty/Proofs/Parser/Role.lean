import Bounty.Proofs.Reading
import Bounty.Parser

/-! What the elements of a document are read as. A parser never looks at an element by itself: its
role, and with it what becomes of its children, is given by the way that leads to it. -/
namespace Bounty

/-- What an element is read as. -/
inductive Role where
  | modifier | modifiers | choice | weight | requirement | requirements
deriving DecidableEq, Repr

/-- What an element gives that is read in a role. -/
abbrev Role.Value : Role → Type
  | .modifier => Modifier
  | .modifiers => List Modifier
  | .choice => Choice
  | .weight => Int
  | .requirement => Requirement
  | .requirements => List Requirement

/-- What becomes of a child of an element that is read. -/
inductive Use where
  /-- The child is read in a role of its own. -/
  | part (role : Role)
  /-- The child has no meaning in its parent, which looks for other names. -/
  | stray
  /-- The parent does not look at its children. -/
  | unread
deriving DecidableEq, Repr

/-- The names of the branches of a conditional. -/
def branchNames : List String := ["if", "then", "else"]

def ModifierKind.use : ModifierKind → String → Use
  | .ifThenElse, child =>
    if child = "if" then .part .requirements
    else if child = "then" ∨ child = "else" then .part .modifiers
    else .stray
  | .randomChoice, child => if child = "choice" then .part .choice else .stray
  | _, _ => .unread

/-- A child of a conditional under any other name has no meaning in it. -/
theorem use_of_not_mem_branchNames {child : String} (h : child ∉ branchNames) :
    ModifierKind.ifThenElse.use child = .stray := by
  simp only [branchNames, List.mem_cons, List.not_mem_nil, or_false, not_or] at h
  simp [ModifierKind.use, h]

/-- The children of a conditional that are read are its branches. -/
theorem mem_branchNames_of_use {child : String} {part : Role}
    (h : ModifierKind.ifThenElse.use child = .part part) : child ∈ branchNames :=
  Decidable.byContradiction fun hName => by simp [use_of_not_mem_branchNames hName] at h

def RequirementKind.use : RequirementKind → Use
  | .conjunction => .part .requirement
  | _ => .unread

/-- What becomes of a child of an alternative. -/
def blockUse (child : String) : Use :=
  if child = "weight" then .part .weight
  else if child = "modifier" then .part .modifiers
  else if child = "requirement" then .part .requirements
  else .stray

/-- An alternative looks for three names. -/
theorem blockUse_eq_stray_iff {child : String} : blockUse child = .stray ↔
    child ≠ "weight" ∧ child ≠ "modifier" ∧ child ≠ "requirement" := by
  unfold blockUse
  split
  · simp_all
  · split
    · simp_all
    · split <;> simp_all

namespace Parser

/-- The reader of a role. -/
abbrev reader (p : Parser) : (role : Role) → Nat → Path → Element → Reading role.Value
  | .modifier => p.modifier
  | .modifiers => p.modifiers
  | .choice => p.choice
  | .weight => p.weight
  | .requirement => p.requirement
  | .requirements => p.requirements

/-- What becomes of a child, by the names of its parent and of itself. Where the parent has no
known kind it is a fault, and its children are not looked at. -/
def use (p : Parser) : Role → (parent child : String) → Use
  | .modifier, parent, child => ((p.modifierTable.lookup parent).map (·.use child)).getD .unread
  | .requirement, parent, _ => ((p.requirementTable.lookup parent).map (·.use)).getD .unread
  | .modifiers, _, _ => .part .modifier
  | .requirements, _, _ => .part .requirement
  | .choice, _, child => blockUse child
  | .weight, _, _ => .unread

def EntryPoint.role : EntryPoint α → Role
  | .modifier => .modifier
  | .modifiers => .modifiers
  | .requirement => .requirement
  | .requirements => .requirements

/-- What is read from an entry point on is what an element gives in the role of this. -/
abbrev EntryPoint.value : (entry : EntryPoint α) → α → entry.role.Value
  | .modifier, m => m
  | .modifiers, ms => ms
  | .requirement, r => r
  | .requirements, rs => rs

/-- An element that is read in a role, with the path that leads to it, where a document is read in
the role `start` from below `path` on. -/
inductive Reached (p : Parser) (start : Role) (path : Path) (document : Element) :
    Role → Path → Element → Prop where
  | root : Reached p start path document start (path ++ [document.name]) document
  | child {role : Role} {here : Path} {e c : Element} {part : Role} :
    Reached p start path document role here e → c ∈ e.children →
      p.use role e.name c.name = .part part →
        Reached p start path document part (here ++ [c.name]) c

end Parser

/-- A chain of elements, each a child of the one before, and the names on it. -/
inductive Element.Leads : Element → Path → Element → Prop where
  | here (e : Element) : Leads e [e.name] e
  | down {e c v : Element} {names : Path} :
    c ∈ e.children → Leads c names v → Leads e (e.name :: names) v

/-- A chain goes on to any child of its last element. -/
theorem Element.Leads.child {e v c : Element} {names : Path} (h : e.Leads names v)
    (hChild : c ∈ v.children) : e.Leads (names ++ [c.name]) c := by
  induction h with
  | here e => exact .down hChild (.here c)
  | down hFirst _ ih => exact .down hFirst (ih hChild)

namespace Parser

variable {p : Parser} {start role : Role} {path here : Path} {document e : Element}

/-- The path of an element that is read has the names of the elements that lead to it. -/
theorem Reached.leads (h : p.Reached start path document role here e) :
    ∃ names, here = path ++ names ∧ document.Leads names e := by
  induction h with
  | root => exact ⟨_, rfl, .here document⟩
  | child _ hChild _ ih =>
      obtain ⟨names, rfl, hLeads⟩ := ih
      exact ⟨_, List.append_assoc .., hLeads.child hChild⟩

/-- The path of an element that is read ends with its name. -/
theorem Reached.getLast? (h : p.Reached start path document role here e) :
    here.getLast? = some e.name := by
  cases h <;> exact List.getLast?_concat

/-- What becomes of the children of a modifier is settled by its kind. -/
theorem use_modifier {name : String} {kind : ModifierKind}
    (h : p.modifierTable.lookup name = some kind) (child : String) :
    p.use .modifier name child = kind.use child := by
  simp [use, h]

/-- What becomes of the children of a requirement is settled by its kind. -/
theorem use_requirement {name : String} {kind : RequirementKind}
    (h : p.requirementTable.lookup name = some kind) (child : String) :
    p.use .requirement name child = kind.use := by
  simp [use, h]

/-- The kind of an element is the one that stands for its name in the table. -/
theorem modifierKind_ensures {halt : Stop → Prop}
    (hUnknown : p.modifierTable.lookup e.name = none →
      halt (.fault ⟨.unknownModifier e.name, ⟨e.name, here⟩⟩)) :
    (p.modifierKind here e).Ensures (p.modifierTable.lookup e.name = some ·) halt := by
  unfold modifierKind
  cases hLookup : p.modifierTable.lookup e.name with
  | none => exact hUnknown hLookup
  | some kind => exact rfl

/-- A kind that is answered is the one in the table. -/
theorem lookup_of_modifierKind {kind : ModifierKind}
    (h : (p.modifierKind here e).outcome = .ok kind) :
    p.modifierTable.lookup e.name = some kind := by
  have hKind : (p.modifierKind here e).Ensures (p.modifierTable.lookup e.name = some ·)
      fun _ => True := modifierKind_ensures fun _ => trivial
  exact hKind.of_ok h

theorem requirementKind_ensures {halt : Stop → Prop}
    (hUnknown : p.requirementTable.lookup e.name = none →
      halt (.fault ⟨.unknownRequirement e.name, ⟨e.name, here⟩⟩)) :
    (p.requirementKind here e).Ensures (p.requirementTable.lookup e.name = some ·) halt := by
  unfold requirementKind
  cases hLookup : p.requirementTable.lookup e.name with
  | none => exact hUnknown hLookup
  | some kind => exact rfl

theorem lookup_of_requirementKind {kind : RequirementKind}
    (h : (p.requirementKind here e).outcome = .ok kind) :
    p.requirementTable.lookup e.name = some kind := by
  have hKind : (p.requirementKind here e).Ensures (p.requirementTable.lookup e.name = some ·)
      fun _ => True := requirementKind_ensures fun _ => trivial
  exact hKind.of_ok h

end Parser

end Bounty
