import Bounty.Modifier

/-! The rules of a tree: its modifiers and requirements, each counted where it stands. A rule comes
before those below it. The requirements of a conditional come before its branches, and those of an
alternative before its modifiers. -/
namespace Bounty

inductive Rule where
  | modifier (m : Modifier)
  | requirement (r : Requirement)

def Rule.isModifier : Rule → Bool
  | .modifier _ => true
  | .requirement _ => false

def Rule.isRequirement : Rule → Bool
  | .modifier _ => false
  | .requirement _ => true

mutual

/-- The rules below a requirement. -/
def Requirement.within : Requirement → List Rule
  | .check _ => []
  | .conjunction children => Requirement.rulesOf children

def Requirement.rulesOf : List Requirement → List Rule
  | [] => []
  | r :: rest => .requirement r :: (r.within ++ Requirement.rulesOf rest)

end

def Requirement.rules (r : Requirement) : List Rule := .requirement r :: r.within

mutual

/-- The rules below a modifier. -/
def Modifier.within : Modifier → List Rule
  | .ifThenElse condition thenBranch elseBranch =>
    Requirement.rulesOf condition ++
      (Modifier.rulesOf thenBranch ++ Modifier.rulesOf elseBranch)
  | .randomChoice entries => Modifier.rulesOfEntries entries
  | _ => []

def Modifier.rulesOf : List Modifier → List Rule
  | [] => []
  | m :: rest => .modifier m :: (m.within ++ Modifier.rulesOf rest)

def Modifier.rulesOfEntries : List Choice → List Rule
  | [] => []
  | entry :: rest => Modifier.rulesOfEntry entry ++ Modifier.rulesOfEntries rest

/-- The rules of an alternative, which is none itself. -/
def Modifier.rulesOfEntry : Choice → List Rule
  | ⟨_, modifiers, requirements⟩ =>
    Requirement.rulesOf requirements ++ Modifier.rulesOf modifiers

end

def Modifier.rules (m : Modifier) : List Rule := .modifier m :: m.within

/-- The rules of a list are those of its members, one after the other. -/
theorem Requirement.rulesOf_eq_flatMap (rs : List Requirement) :
    Requirement.rulesOf rs = rs.flatMap Requirement.rules := by
  induction rs with
  | nil => rw [rulesOf, List.flatMap_nil]
  | cons r rest ih => rw [rulesOf, ih, List.flatMap_cons, rules, List.cons_append]

namespace Modifier

/-- The rules of a branch or a block are those of its modifiers in order. -/
theorem rulesOf_eq_flatMap (ms : List Modifier) :
    Modifier.rulesOf ms = ms.flatMap Modifier.rules := by
  induction ms with
  | nil => rw [rulesOf, List.flatMap_nil]
  | cons m rest ih => rw [rulesOf, ih, List.flatMap_cons, rules, List.cons_append]

/-- Alternatives add nothing of their own to the rules in them. -/
theorem rulesOfEntries_eq_flatMap (entries : List Choice) :
    Modifier.rulesOfEntries entries = entries.flatMap Modifier.rulesOfEntry := by
  induction entries with
  | nil => rw [rulesOfEntries, List.flatMap_nil]
  | cons entry rest ih => rw [rulesOfEntries, ih, List.flatMap_cons]

end Modifier

end Bounty
