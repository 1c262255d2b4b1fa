import Bounty.Outline
import Bounty.Proofs.Markup
import Bounty.Proofs.Numeral
import Bounty.Proofs.Rules

/-! What an outline is made of. It has one node for every modifier and every requirement, and no
text of a document has an effect on the markup of its labels. -/
namespace Bounty

namespace Outline

mutual

/-- A node and all nodes below it, each before those below itself. -/
def nodes : Outline → List Outline
  | .node label children => .node label children :: nodesAmong children

def nodesAmong : List Outline → List Outline
  | [] => []
  | o :: rest => nodes o ++ nodesAmong rest

end

/-- Requirements are drawn one below the other. -/
theorem ofRequirements_eq_map (rs : List Requirement) :
    ofRequirements rs = rs.map ofRequirement := by
  induction rs with
  | nil => rw [ofRequirements, List.map_nil]
  | cons r rest ih => rw [ofRequirements, ih, List.map_cons]

theorem ofModifiers_eq_map (ms : List Modifier) : ofModifiers ms = ms.map ofModifier := by
  induction ms with
  | nil => rw [ofModifiers, List.map_nil]
  | cons m rest ih => rw [ofModifiers, ih, List.map_cons]

theorem ofChoices_eq_map (entries : List Choice) : ofChoices entries = entries.map ofChoice := by
  induction entries with
  | nil => rw [ofChoices, List.map_nil]
  | cons entry rest ih => rw [ofChoices, ih, List.map_cons]

end Outline

/-- Whether a label stands for a modifier or a requirement. -/
def Label.isRule : Label → Bool
  | .item _ | .checked _ _ => true
  | _ => false

/-- The node that stands for a rule, with all below it. -/
def Rule.outline : Rule → Outline
  | .modifier m => .ofModifier m
  | .requirement r => .ofRequirement r

namespace Outline

mutual

/-- The nodes of a requirement that stand for rules are those of its rules, in preorder. -/
theorem rules_ofRequirement : ∀ r, (nodes (ofRequirement r)).filter (·.label.isRule) =
    r.rules.map Rule.outline
  | .check c => rfl
  | .conjunction children => by
      have hBelow := rules_ofRequirements children
      rw [ofRequirement, nodes, List.filter_cons_of_pos rfl, hBelow]
      simp [Requirement.rules, Requirement.within, Rule.outline, ofRequirement]

/-- A list of requirements shows the rules of its members in order. -/
theorem rules_ofRequirements : ∀ rs, (nodesAmong (ofRequirements rs)).filter (·.label.isRule) =
    (Requirement.rulesOf rs).map Rule.outline
  | [] => rfl
  | r :: rest => by
      rw [ofRequirements, nodesAmong, List.filter_append, rules_ofRequirement r,
        rules_ofRequirements rest, Requirement.rulesOf, Requirement.rules]
      simp

end

mutual

/-- The nodes of a modifier that stand for rules are those of its rules; headings stand between them
and are none. -/
theorem rules_ofModifier : ∀ m, (nodes (ofModifier m)).filter (·.label.isRule) =
    m.rules.map Rule.outline
  | .ifThenElse condition thenBranch elseBranch => by
      have hCondition := rules_ofRequirements condition
      have hThen := rules_ofModifiers thenBranch
      have hElse := rules_ofModifiers elseBranch
      simp only [Modifier.rules, Modifier.within, List.map_cons, List.map_append, ← hCondition,
        ← hThen, ← hElse, Rule.outline]
      rw [ofModifier]
      simp [nodes, nodesAmong, label, Label.isRule, Label.ofModifier]
  | .randomChoice entries => by
      have hEntries := rules_ofChoices entries
      simp only [Modifier.rules, Modifier.within, List.map_cons, ← hEntries, Rule.outline]
      rw [ofModifier]
      simp [nodes, label, Label.isRule, Label.ofModifier]
  | .grantItem _ | .grantXp _ | .grantXpRange _ _ | .grantStat _ _ _ | .grantStatRange _ _ _ _
  | .removeItems | .nothing => rfl

/-- A branch or a block shows the rules of its modifiers in order. -/
theorem rules_ofModifiers : ∀ ms, (nodesAmong (ofModifiers ms)).filter (·.label.isRule) =
    (Modifier.rulesOf ms).map Rule.outline
  | [] => rfl
  | m :: rest => by
      rw [ofModifiers, nodesAmong, List.filter_append, rules_ofModifier m,
        rules_ofModifiers rest, Modifier.rulesOf, Modifier.rules]
      simp

/-- Alternatives show their rules one after the other. -/
theorem rules_ofChoices : ∀ entries, (nodesAmong (ofChoices entries)).filter (·.label.isRule) =
    (Modifier.rulesOfEntries entries).map Rule.outline
  | [] => rfl
  | entry :: rest => by
      rw [ofChoices, nodesAmong, List.filter_append, rules_ofChoice entry, rules_ofChoices rest,
        Modifier.rulesOfEntries, List.map_append]

/-- In an alternative the requirements are shown before the modifiers, as they come in a tree. -/
theorem rules_ofChoice : ∀ entry, (nodes (ofChoice entry)).filter (·.label.isRule) =
    (Modifier.rulesOfEntry entry).map Rule.outline
  | ⟨weight, modifiers, requirements⟩ => by
      have hRequirements := rules_ofRequirements requirements
      have hModifiers := rules_ofModifiers modifiers
      rw [Modifier.rulesOfEntry, List.map_append, ← hRequirements, ← hModifiers, ofChoice]
      simp [nodes, nodesAmong, label, Label.isRule]

end

end Outline

namespace Label

/-- The tags that a label has of its own, each with all that comes after it. -/
def ownTags : Label → List (List Char)
  | .checked _ outcome => [(mark outcome).toList, "[/]".toList]
  | _ => []

/-- Whether the closing tag of a label is plain text, for the backslashes at the end of the reason
right before it: there is an odd number of them, but not a single one, which is doubled. -/
def hidesClosing : Label → Bool
  | .checked _ (.unmet reason) =>
    let held := Markup.pendingAfter 0 reason.toList
    held % 2 == 1 && held != 1
  | _ => false

/-- Whether a label is one that stands below the title. The parts of modifiers have plain names. -/
def isBelowTitle : Label → Bool
  | .title _ => false
  | .part name => !name.toList.contains '['
  | _ => true

/-- An escaped text has no tag that has an effect. -/
theorem active_escape (text : String) : Markup.active (Markup.escape text) = [] := by
  rw [Markup.active, Markup.escape, String.toList_ofList, ← List.append_nil (Markup.escapeFrom _ _),
    Markup.activeFrom_escapeFrom rfl]
  rfl

/-- The label of an alternative is escaped as a whole. -/
theorem active_choice (weight : Int) : Markup.active (Label.choice weight).markup = [] := by
  apply Markup.activeFrom_eq_nil
  rw [markup, String.toList_append]
  intro h
  rcases List.mem_append.mp h with hName | hNumber
  · exact absurd hName (by decide)
  · exact absurd (Numeral.mem_toList_write hNumber) (by decide)

/-- The tags of a mark are active behind any text. -/
theorem active_checked (text : String) (outcome : Outcome) :
    Markup.active (Label.checked text outcome).markup =
      Markup.activeFrom 0 (mark outcome).toList := by
  have hOpen : ∃ rest, (mark outcome).toList = '[' :: rest := by
    cases outcome with
    | met => exact ⟨_, rfl⟩
    | unmet reason => exact ⟨_, by rw [mark, String.append_assoc, String.toList_append]; rfl⟩
  obtain ⟨rest, hRest⟩ := hOpen
  have hText : (Label.checked text outcome).markup.toList =
      Markup.escapeFrom 0 text.toList ++ ' ' :: '[' :: rest := by
    rw [markup, String.toList_append, String.toList_append, Markup.escape, String.toList_ofList,
      hRest, List.append_assoc]
    rfl
  rw [Markup.active, hText, Markup.activeFrom_escapeFrom rfl,
    Markup.activeFrom_of_ne (by decide) (by decide), hRest]

/-- A requirement that is met has just the tags around its mark. -/
theorem active_met (text : String) :
    Markup.active (Label.checked text .met).markup = (Label.checked text .met).ownTags := by
  rw [active_checked]
  rfl

/-- The closing tag has its effect behind an even number of backslashes. -/
theorem active_closing (pending : Nat) :
    Markup.activeFrom pending "[/]".toList = if pending % 2 = 0 then ["[/]".toList] else [] := by
  by_cases hEven : pending % 2 = 0
  · rw [if_pos hEven]
    exact Markup.activeFrom_tag rfl hEven
  · rw [if_neg hEven]
    exact Markup.activeFrom_escaped hEven

/-- A reason that ends in an odd number of backslashes hides the closing tag; with any other all
tags have their effect. -/
theorem active_unmet (text reason : String) :
    Markup.active (Label.checked text (.unmet reason)).markup =
      if (Label.checked text (.unmet reason)).hidesClosing then [(mark (.unmet reason)).toList]
      else (Label.checked text (.unmet reason)).ownTags := by
  have hMark : (mark (.unmet reason)).toList = '[' :: 'r' :: 'e' :: 'd' :: ']' :: '✗' :: ' ' ::
      (Markup.escapeFrom 0 reason.toList ++ "[/]".toList) := by
    simp only [mark, Markup.escape, String.append_assoc, String.toList_append,
      String.toList_ofList]
    rfl
  have hFirst (rest : List Char) : Markup.activeFrom 0
      ('[' :: 'r' :: 'e' :: 'd' :: ']' :: '✗' :: ' ' :: rest) =
        ('[' :: 'r' :: 'e' :: 'd' :: ']' :: '✗' :: ' ' :: rest) :: Markup.activeFrom 0 rest := by
    rw [Markup.activeFrom_tag rfl rfl]
    iterate 6 rw [Markup.activeFrom_of_ne (by decide) (by decide)]
  rw [active_checked, hMark, hFirst, ← hMark, Markup.activeFrom_escapeFrom (by decide),
    active_closing]
  simp only [hidesClosing, ownTags]
  by_cases hSingle : Markup.pendingAfter 0 reason.toList = 1
  · simp [hSingle]
  · by_cases hEven : Markup.pendingAfter 0 reason.toList % 2 = 0
    · simp [hSingle, hEven]
    · simp [hSingle, Nat.mod_two_ne_zero.mp hEven]

/-- Of the text of a document nothing is an active tag of a label. -/
theorem active_markup {label : Label} (h : label.isBelowTitle) :
    Markup.active label.markup =
      if label.hidesClosing then label.ownTags.dropLast else label.ownTags := by
  cases label with
  | title text => simp [isBelowTitle] at h
  | part name =>
      have hName : '[' ∉ name.toList := by simpa [isBelowTitle] using h
      exact Markup.activeFrom_eq_nil hName
  | choice weight => exact active_choice weight
  | item text => exact active_escape text
  | checked text outcome =>
      cases outcome with
      | met => exact active_met text
      | unmet reason => exact active_unmet text reason

end Label

namespace Outline

mutual

/-- Below the title every label is one of those for rules and headings. -/
theorem below_ofRequirement : ∀ r, (nodes (ofRequirement r)).all (·.label.isBelowTitle)
  | .check c => rfl
  | .conjunction children => by
      rw [ofRequirement, nodes, List.all_cons, below_ofRequirements children]
      rfl

theorem below_ofRequirements : ∀ rs,
    (nodesAmong (ofRequirements rs)).all (·.label.isBelowTitle)
  | [] => rfl
  | r :: rest => by
      rw [ofRequirements, nodesAmong, List.all_append, below_ofRequirement r,
        below_ofRequirements rest]
      rfl

end

mutual

theorem below_ofModifier : ∀ m, (nodes (ofModifier m)).all (·.label.isBelowTitle)
  | .ifThenElse condition thenBranch elseBranch => by
      have hCondition := below_ofRequirements condition
      have hThen := below_ofModifiers thenBranch
      have hElse := below_ofModifiers elseBranch
      rw [ofModifier]
      simp only [nodes, nodesAmong, List.all_cons, List.all_append, hCondition, hThen, hElse]
      rfl
  | .randomChoice entries => by
      rw [ofModifier, nodes, List.all_cons, below_ofChoices entries]
      rfl
  | .grantItem _ | .grantXp _ | .grantXpRange _ _ | .grantStat _ _ _ | .grantStatRange _ _ _ _
  | .removeItems | .nothing => rfl

theorem below_ofModifiers : ∀ ms, (nodesAmong (ofModifiers ms)).all (·.label.isBelowTitle)
  | [] => rfl
  | m :: rest => by
      rw [ofModifiers, nodesAmong, List.all_append, below_ofModifier m, below_ofModifiers rest]
      rfl

theorem below_ofChoices : ∀ entries,
    (nodesAmong (ofChoices entries)).all (·.label.isBelowTitle)
  | [] => rfl
  | entry :: rest => by
      rw [ofChoices, nodesAmong, List.all_append, below_ofChoice entry, below_ofChoices rest]
      rfl

theorem below_ofChoice : ∀ entry, (nodes (ofChoice entry)).all (·.label.isBelowTitle)
  | ⟨weight, modifiers, requirements⟩ => by
      have hRequirements := below_ofRequirements requirements
      have hModifiers := below_ofModifiers modifiers
      rw [ofChoice]
      simp only [nodes, nodesAmong, List.all_cons, List.all_append, hRequirements, hModifiers]
      rfl

end

/-- The nodes of the outline of a document below its title. -/
theorem nodes_ofDocument (title : String) (modifiers : List Modifier) :
    (ofDocument title modifiers).nodes =
      ofDocument title modifiers :: nodesAmong (ofModifiers modifiers) := by
  rw [ofDocument, nodes]

/-- Whatever the texts in a document are, the active tags of a label below the title are its own
mark and what closes it, unless the reason between them ends in an odd number of backslashes from
three on: then the tag that should close the mark is plain text. -/
theorem active_markup_of_mem_nodes (title : String) (modifiers : List Modifier) :
    ∀ o ∈ (ofDocument title modifiers).nodes.tail, Markup.active o.label.markup =
      if o.label.hidesClosing then o.label.ownTags.dropLast else o.label.ownTags := by
  intro o ho
  rw [nodes_ofDocument, List.tail_cons] at ho
  exact Label.active_markup (List.all_eq_true.mp (below_ofModifiers modifiers) o ho)

/-- The node of a requirement that gives three backslashes as its reason. -/
def slashed : Outline := ofRequirement (.check ⟨.never, false, "\\\\\\"⟩)

theorem slashed_mem_nodes : slashed ∈ (ofDocument "doc"
    [.ifThenElse [.check ⟨.never, false, "\\\\\\"⟩] [] []]).nodes.tail := by
  simp [ofDocument, ofModifiers, ofModifier, ofRequirements, slashed, ofRequirement, nodes,
    nodesAmong]

theorem active_markup_slashed :
    Markup.active slashed.label.markup = ["[red]✗ \\\\\\[/]".toList] := by
  rw [active_markup_of_mem_nodes "doc" _ slashed slashed_mem_nodes]
  decide +kernel

/-- A reason of three backslashes leaves the mark of its label open. -/
theorem not_active_markup_closed :
    ¬ ∀ title modifiers, ∀ o ∈ (ofDocument title modifiers).nodes.tail,
      Markup.active o.label.markup = o.label.ownTags := by
  intro h
  exact absurd (h "doc" _ slashed slashed_mem_nodes) (by decide +kernel)

end Outline

end Bounty
