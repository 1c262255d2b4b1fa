import Mathlib.Data.List.Basic
import Bounty.Proofs.Lookups
import Bounty.Proofs.Parser.Branches
import Bounty.Proofs.Rules

/-! The modifiers and requirements of a document that are read one by one, in the order in which a
tree has their rules. -/
namespace Bounty.Parser

/-- One modifier or requirement that is read: the path that leads to its parent, and its element. -/
inductive Call where
  | modifier (path : Path) (e : Element)
  | requirement (path : Path) (e : Element)

namespace Call

/-- The lookup that is recorded for a call. -/
def step : Call → Step
  | .modifier path e => .modifier (path ++ [e.name])
  | .requirement path e => .requirement (path ++ [e.name])

/-- What the parser makes of the element by itself, told as a rule. -/
def outcome (p : Parser) : Call → Except Stop Rule
  | .modifier path e => (p.readModifier e path).outcome.map .modifier
  | .requirement path e => (p.readRequirement e path).outcome.map .requirement

end Call

/-- Which of several blocks of a choice that have the same name are meant. -/
inductive Selection where
  /-- All of them, as they are read. -/
  | all
  /-- The last one, which replaces the others. -/
  | last

def Selection.of : Selection → List Element → List Element
  | .all, blocks => blocks
  | .last, blocks => blocks.getLast?.toList

/-- The children that are read for the rules below them, each with its role, in the order in which
the rules stand in a tree. -/
def parts (p : Parser) (selection : Selection) (role : Role) (e : Element) :
    List (Role × Element) :=
  match role with
  | .modifier =>
    match p.modifierTable.lookup e.name with
    | some .ifThenElse =>
      (named "if" e.children).map (.requirements, ·) ++
        ((named "then" e.children).map (.modifiers, ·) ++
          (named "else" e.children).map (.modifiers, ·))
    | some .randomChoice => (named "choice" e.children).map (.choice, ·)
    | _ => []
  | .requirement =>
    match p.requirementTable.lookup e.name with
    | some .conjunction => e.children.map (.requirement, ·)
    | _ => []
  | .modifiers => e.children.map (.modifier, ·)
  | .requirements => e.children.map (.requirement, ·)
  | .choice =>
    (selection.of (named "requirement" e.children)).map (.requirements, ·) ++
      (selection.of (named "modifier" e.children)).map (.modifiers, ·)
  | .weight => []

/-- The call that an element of a role is itself, if it is one. -/
def Call.here (role : Role) (path : Path) (e : Element) : List Call :=
  match role with
  | .modifier => [.modifier path e]
  | .requirement => [.requirement path e]
  | _ => []

/-- The calls for an element and for all below it, as far as the depth goes. -/
def callsWithin (p : Parser) (selection : Selection) : Nat → Path → Role × Element → List Call
  | 0, _, _ => []
  | depth + 1, path, (role, e) =>
    Call.here role path e ++
      (p.parts selection role e).flatMap (p.callsWithin selection depth (path ++ [e.name]))

/-- The rules of what is read from an entry point on. -/
def EntryPoint.rules : EntryPoint α → α → List Rule
  | .modifier => Modifier.rules
  | .modifiers => Modifier.rulesOf
  | .requirement => Requirement.rules
  | .requirements => Requirement.rulesOf

/-- The calls for a document, with all blocks or only with those that are kept. -/
def calls (p : Parser) (selection : Selection) (entry : EntryPoint α) (document : Element)
    (path : Path) : List Call :=
  p.callsWithin selection (p.depthBelow path) path (entry.role, document)

section Once

variable {p : Parser} {start role part : Role} {path here : Path} {document e c : Element}

/-- What is read for its rules is a child that is read in this role. -/
theorem mem_parts (h : (part, c) ∈ p.parts .all role e) :
    c ∈ e.children ∧ p.use role e.name c.name = .part part := by
  cases role with
  | modifier =>
      cases hKind : p.modifierTable.lookup e.name with
      | none => simp [parts, hKind] at h
      | some kind =>
          rw [use_modifier hKind]
          cases kind with
          | ifThenElse =>
              simp only [parts, hKind, List.mem_append, List.mem_map, Prod.mk.injEq, mem_named]
                at h
              rcases h with ⟨_, ⟨hMem, hName⟩, rfl, rfl⟩ | ⟨_, ⟨hMem, hName⟩, rfl, rfl⟩ |
                ⟨_, ⟨hMem, hName⟩, rfl, rfl⟩ <;>
                exact ⟨hMem, by simp [ModifierKind.use, hName]⟩
          | randomChoice =>
              simp only [parts, hKind, List.mem_map, Prod.mk.injEq, mem_named] at h
              obtain ⟨_, ⟨hMem, hName⟩, rfl, rfl⟩ := h
              exact ⟨hMem, by simp [ModifierKind.use, hName]⟩
          | _ => simp [parts, hKind] at h
  | requirement =>
      cases hKind : p.requirementTable.lookup e.name with
      | none => simp [parts, hKind] at h
      | some kind =>
          rw [use_requirement hKind]
          cases kind with
          | conjunction =>
              simp only [parts, hKind, List.mem_map, Prod.mk.injEq] at h
              obtain ⟨_, hMem, rfl, rfl⟩ := h
              exact ⟨hMem, rfl⟩
          | _ => simp [parts, hKind] at h
  | choice =>
      simp only [parts, Selection.of, List.mem_append, List.mem_map, Prod.mk.injEq, mem_named] at h
      rcases h with ⟨_, ⟨hMem, hName⟩, rfl, rfl⟩ | ⟨_, ⟨hMem, hName⟩, rfl, rfl⟩ <;>
        exact ⟨hMem, by simp [use, blockUse, hName]⟩
  | modifiers | requirements =>
      simp only [parts, List.mem_map, Prod.mk.injEq] at h
      obtain ⟨_, hMem, rfl, rfl⟩ := h
      exact ⟨hMem, rfl⟩
  | weight => simp [parts] at h

/-- The names of the blocks of a choice that hold rules. -/
def ruleBlockNames : List String := ["modifier", "requirement"]

/-- Of one block at most the last is all there is. -/
theorem Selection.last_of_eq_all {blocks : List Element} (h : blocks.length ≤ 1) :
    Selection.last.of blocks = Selection.all.of blocks := by
  match blocks, h with
  | [], _ => rfl
  | [_], _ => rfl

/-- Where no choice has two blocks of one name, all the blocks that are read are kept. -/
theorem callsWithin_last_eq_all
    (hOnce : ∀ here v, p.Reached start path document .choice here v →
      ∀ name ∈ ruleBlockNames, (named name v.children).length ≤ 1)
    (depth : Nat) (hReached : p.Reached start path document role (here ++ [e.name]) e) :
    p.callsWithin .last depth here (role, e) = p.callsWithin .all depth here (role, e) := by
  induction depth generalizing here role e with
  | zero => rfl
  | succ depth ih =>
      have hParts : p.parts .last role e = p.parts .all role e := by
        cases role with
        | choice =>
            have hBlocks := hOnce _ _ hReached
            rw [parts, parts, Selection.last_of_eq_all (hBlocks _ (by simp [ruleBlockNames])),
              Selection.last_of_eq_all (hBlocks _ (by simp [ruleBlockNames]))]
        | _ => rfl
      rw [callsWithin, callsWithin, hParts]
      refine congrArg (_ ++ ·) (List.flatMap_congr fun child hMem => ?_)
      obtain ⟨part, c⟩ := child
      obtain ⟨hChild, hPart⟩ := mem_parts hMem
      exact ih (hReached.child hChild hPart)

end Once

section Count

variable {p : Parser} {calls : List Call}

/-- A rule that a call gives is one of its own sort. -/
theorem exists_of_ok_eq_map {α : Type} {f : α → Rule} {x : Except Stop α} {rule : Rule}
    (h : .ok rule = x.map f) : ∃ a, x = .ok a ∧ rule = f a := by
  cases x with
  | error s => cases h
  | ok a =>
      cases h
      exact ⟨a, rfl, rfl⟩

/-- A call has a rule of its own sort. -/
theorem countP_rules {rules : List Rule}
    (h : rules.map .ok = calls.map (Call.outcome p)) :
    rules.countP Rule.isModifier = (calls.map Call.step).countP Step.isModifier ∧
    rules.countP Rule.isRequirement = (calls.map Call.step).countP Step.isRequirement := by
  induction calls generalizing rules with
  | nil => simp_all
  | cons call rest ih =>
      obtain ⟨rule, others, rfl⟩ : ∃ rule others, rules = rule :: others := by
        cases rules with
        | nil => cases h
        | cons rule others => exact ⟨rule, others, rfl⟩
      rw [List.map_cons, List.map_cons, List.cons.injEq] at h
      obtain ⟨hModifiers, hRequirements⟩ := ih h.2
      have hRule : rule.isModifier = call.step.isModifier ∧
          rule.isRequirement = call.step.isRequirement := by
        cases call with
        | modifier path e =>
            obtain ⟨m, -, rfl⟩ := exists_of_ok_eq_map h.1
            exact ⟨rfl, rfl⟩
        | requirement path e =>
            obtain ⟨r, -, rfl⟩ := exists_of_ok_eq_map h.1
            exact ⟨rfl, rfl⟩
      simp only [List.map_cons, List.countP_cons, hModifiers, hRequirements, hRule, and_self]

end Count

end Bounty.Parser
