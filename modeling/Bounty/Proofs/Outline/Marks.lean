import Bounty.Proofs.Outline
import Bounty.Proofs.Resolution.Selection
import Bounty.Proofs.Resolution.Weights

/-! What the marks of an outline foretell. A requirement is marked on its own, but a resolution asks
several together; the first cross among them tells what becomes of them. -/
namespace Bounty

def Requirement.children : Requirement → List Requirement
  | .check _ => []
  | .conjunction children => children

section DrawFrom

variable {σ : Type}

/-- A pick, once it is known which entries are eligible. -/
def drawFrom (dice : Dice σ) (candidates : List (Nat × Choice)) :
    Resolution σ (Option (Nat × Choice)) :=
  if candidates.isEmpty then do
    .log .noneEligible
    return none
  else do
    let total := totalWeight (candidates.map (·.2))
    let roll ← .roll dice 1 total
    match entryAt roll 0 candidates with
    | some (index, entry) => do
      .log (.picked roll total entry.weight)
      return some (index, entry)
    | none =>
      if Numeral.isWritable roll && Numeral.isWritable total then .fail (.rollTooHigh roll total)
      else .fail .tooLongToWrite

/-- A pick looks at its candidates only, whatever other entries there are. -/
theorem pick_eq_drawFrom (dice : Dice σ) (entries : List Choice) (state : σ) :
    pick dice entries state =
      let run := drawFrom dice (candidates entries) state
      ⟨run.dice, run.calls, exclusions entries ++ run.log, run.outcome⟩ := by
  change (eligible 0 entries >>= drawFrom dice) state = _
  rw [Resolution.bind_of_ok (by rw [eligible_eq]), eligible_eq]
  rfl

end DrawFrom

namespace Outline

/-- Whether a node carries the tick. -/
def isTicked (o : Outline) : Bool :=
  match o.label with
  | .checked _ outcome => outcome.holds
  | _ => false

/-- The reason that is shown at a node with a cross, before it is escaped. -/
def crossReason? (o : Outline) : Option String :=
  match o.label with
  | .checked _ (.unmet reason) => some reason
  | _ => none

/-- The reason at the first node with a cross. -/
def firstReason? (os : List Outline) : Option String := os.findSome? crossReason?

/-- The nodes of one part of a modifier or of an alternative, by the name of the part. -/
def part (name : String) (o : Outline) : List Outline :=
  ((o.children.find? (·.label = .part name)).map children).getD []

/-- The line that the nodes of a condition foretell. -/
def branchLine (os : List Outline) : LogLine :=
  match firstReason? os with
  | none => .tookThen
  | some reason => .tookElse reason

/-- The lines that the nodes of some alternatives foretell about those that are left out. -/
def exclusionLines (os : List Outline) : List LogLine :=
  os.zipIdx.filterMap fun (o, index) => (firstReason? (o.part "requirement")).map (.excluded index)

section Marks

variable {σ : Type} (r : Requirement) (rs : List Requirement)

/-- The mark of a requirement is its own outcome, also where it has parts. -/
theorem label_ofRequirement : (ofRequirement r).label = .checked r.labelText r.outcome := by
  cases r with
  | check c => rw [ofRequirement, label, Label.ofRequirement]
  | conjunction children => rw [ofRequirement, label, Label.ofRequirement]

/-- A node is ticked exactly if its requirement holds. -/
theorem isTicked_ofRequirement : (ofRequirement r).isTicked = r.outcome.holds := by
  rw [isTicked, label_ofRequirement]

/-- The first cross among requirements tells what they come to together. -/
theorem firstReason?_ofRequirement : firstReason? (rs.map ofRequirement) =
    match Requirement.allHold rs with
    | .met => none
    | .unmet reason => some reason := by
  induction rs with
  | nil => rfl
  | cons r rest ih =>
      rw [firstReason?, List.map_cons, List.findSome?_cons, crossReason?, label_ofRequirement,
        Requirement.allHold]
      cases r.outcome with
      | met => exact ih
      | unmet reason => rfl

/-- All nodes of a condition are ticked exactly if the condition holds. -/
theorem all_isTicked_ofRequirement :
    (rs.map ofRequirement).all isTicked = (Requirement.allHold rs).holds := by
  induction rs with
  | nil => rfl
  | cons r rest ih =>
      rw [List.map_cons, List.all_cons, isTicked_ofRequirement, ih, Requirement.allHold]
      cases r.outcome <;> rfl

/-- Requirements that are not all ticked show a reason. -/
theorem all_isTicked_iff_firstReason? :
    (rs.map ofRequirement).all isTicked ↔ firstReason? (rs.map ofRequirement) = none := by
  rw [all_isTicked_ofRequirement, firstReason?_ofRequirement]
  cases Requirement.allHold rs <;> simp [Outcome.holds]

/-- The line about the branch can be told from the ticks. -/
theorem branchLine_ofRequirement :
    branchLine (rs.map ofRequirement) = Modifier.branchLine rs := by
  rw [branchLine, firstReason?_ofRequirement, Modifier.branchLine]
  cases Requirement.allHold rs <;> rfl

/-- Below its heading an alternative has the nodes of its requirements. -/
theorem part_requirement_ofChoice (entry : Choice) :
    (ofChoice entry).part "requirement" = entry.requirements.map ofRequirement := by
  obtain ⟨weight, modifiers, requirements⟩ := entry
  rw [ofChoice, ofRequirements_eq_map]
  rfl

/-- The crosses of the alternatives tell which of them are left out. -/
theorem exclusionLines_ofChoice (entries : List Choice) :
    exclusionLines (entries.map ofChoice) = exclusions entries := by
  rw [exclusionLines, exclusions, List.zipIdx_map, List.filterMap_map]
  congr 1
  funext place
  obtain ⟨entry, index⟩ := place
  change (firstReason? ((ofChoice entry).part "requirement")).map (LogLine.excluded index) =
    (entry.requirements.find? (!·.outcome.holds)).map fun r => .excluded index r.outcome.reason
  rw [part_requirement_ofChoice, firstReason?_ofRequirement, Requirement.allHold_eq_find?]
  cases hFirst : entry.requirements.find? (!·.outcome.holds) with
  | none => rfl
  | some r =>
      have hUnmet := List.find?_some hFirst
      cases hOutcome : r.outcome <;> simp_all [Outcome.holds, Outcome.reason]

end Marks

/-- What a node shows of a requirement. -/
structure ShowsRequirement (r : Requirement) (o : Outline) : Prop where
  markup : o.label.markup =
    Markup.escape r.labelText ++ " " ++ Label.mark r.outcome
  /-- The tick can be told from the text of the label: no text of a document looks like it. -/
  legible : o.isTicked ↔ (Label.mark .met).toList ∈ Markup.active o.label.markup
  below : o.children = r.children.map ofRequirement

/-- What a node shows of a conditional, and what it foretells of its resolution. -/
structure ShowsConditional (condition : List Requirement) (thenBranch elseBranch : List Modifier)
    (o : Outline) : Prop where
  label : o.label = .item (Modifier.ifThenElse condition thenBranch elseBranch).labelText
  below : o.children = [
    .node (.part "if") (condition.map ofRequirement),
    .node (.part "then") (thenBranch.map ofModifier),
    .node (.part "else") (elseBranch.map ofModifier)]
  /-- A condition that is not ticked throughout shows a reason. -/
  decided : (o.part "if").all isTicked ↔ firstReason? (o.part "if") = none
  /-- The first branch is taken if every node of the condition is ticked, and else the second, with
  the reason at the first cross. -/
  foretold {σ : Type} (dice : Dice σ) (state : σ) :
    (Modifier.ifThenElse condition thenBranch elseBranch).resolve dice state =
      let branch := if (o.part "if").all isTicked then thenBranch else elseBranch
      let run := Modifier.resolveAll dice branch state
      ⟨run.dice, run.calls, branchLine (o.part "if") :: run.log, run.outcome⟩

/-- What a node shows of a random choice, and what it foretells of a pick. -/
structure ShowsChoice (entries : List Choice) (o : Outline) : Prop where
  label : o.label = .item (Modifier.randomChoice entries).labelText
  below : o.children = entries.map fun entry => .node (.choice entry.weight) [
    .node (.part "requirement") (entry.requirements.map ofRequirement),
    .node (.part "modifier") (entry.modifiers.map ofModifier)]
  decided : ∀ node ∈ o.children, (node.part "requirement").all isTicked ↔
    firstReason? (node.part "requirement") = none
  /-- Those entries are drawn from whose requirements are ticked throughout, and the others are left
  out, each with the reason at its first cross. -/
  foretold {σ : Type} (dice : Dice σ) (state : σ) : ∃ candidates : List (Nat × Choice),
    candidates.Pairwise (·.1 < ·.1) ∧
    (∀ index entry, (index, entry) ∈ candidates ↔ entries[index]? = some entry ∧
      ∃ node, o.children[index]? = some node ∧ (node.part "requirement").all isTicked) ∧
    pick dice entries state =
      let run := drawFrom dice candidates state
      ⟨run.dice, run.calls, exclusionLines o.children ++ run.log, run.outcome⟩

/-- A requirement shows its parts and its mark. -/
theorem showsRequirement_ofRequirement (r : Requirement) :
    ShowsRequirement r (ofRequirement r) where
  markup := by rw [label_ofRequirement, Label.markup]
  legible := by
    rw [isTicked_ofRequirement, label_ofRequirement]
    cases r.outcome with
    | met =>
        rw [Label.active_met]
        exact ⟨fun _ => List.mem_cons_self, fun _ => rfl⟩
    | unmet reason =>
        rw [Label.active_unmet]
        constructor
        · intro hTicked
          cases hTicked
        · intro h
          split at h <;> simp [Label.ownTags, Label.mark] at h
  below := by
    cases r with
    | check c =>
        rw [ofRequirement]
        rfl
    | conjunction children =>
        rw [ofRequirement, ofRequirements_eq_map]
        rfl

/-- A conditional shows condition and branches, and which of the two branches is taken. -/
theorem showsConditional_ofModifier (condition : List Requirement)
    (thenBranch elseBranch : List Modifier) :
    ShowsConditional condition thenBranch elseBranch
      (ofModifier (.ifThenElse condition thenBranch elseBranch)) := by
  have hPart : (ofModifier (.ifThenElse condition thenBranch elseBranch)).part "if" =
      condition.map ofRequirement := by
    rw [ofModifier, ofRequirements_eq_map]
    rfl
  refine ⟨?_, ?_, ?_, fun dice state => ?_⟩
  · rw [ofModifier, label, Label.ofModifier]
  · rw [ofModifier, ofRequirements_eq_map, ofModifiers_eq_map, ofModifiers_eq_map]
    rfl
  · rw [hPart]
    exact all_isTicked_iff_firstReason? condition
  · rw [hPart, Modifier.resolve_ifThenElse, Modifier.log_branchLine_bind,
      all_isTicked_ofRequirement, branchLine_ofRequirement]
    rfl

/-- A choice shows its alternatives in order, with their weights and with what excludes them. -/
theorem showsChoice_ofModifier (entries : List Choice) :
    ShowsChoice entries (ofModifier (.randomChoice entries)) := by
  rw [ofModifier, ofChoices_eq_map]
  refine ⟨rfl, ?_, fun node hNode => ?_, fun dice state => ?_⟩
  · refine List.map_congr_left fun entry _ => ?_
    obtain ⟨weight, modifiers, requirements⟩ := entry
    rw [ofChoice, ofRequirements_eq_map, ofModifiers_eq_map]
  · obtain ⟨entry, -, rfl⟩ := List.mem_map.mp hNode
    rw [part_requirement_ofChoice]
    exact all_isTicked_iff_firstReason? entry.requirements
  · refine ⟨candidates entries, pairwise_candidates entries, fun index entry => ?_, ?_⟩
    · rw [mem_candidates_iff]
      refine and_congr_right fun hEntry => ?_
      have hNode : (entries.map ofChoice)[index]? = some (ofChoice entry) := by
        rw [List.getElem?_map, hEntry, Option.map_some]
      have hEligible : entry.isEligible =
          ((ofChoice entry).part "requirement").all isTicked := by
        rw [part_requirement_ofChoice, List.all_map]
        exact congrArg _ (funext fun r => (isTicked_ofRequirement r).symm)
      rw [hEligible]
      refine ⟨fun h => ⟨_, hNode, h⟩, fun ⟨other, hOther, h⟩ => ?_⟩
      rwa [Option.some.inj (hNode.symm.trans hOther)]
    · rw [pick_eq_drawFrom, ← exclusionLines_ofChoice]
      rfl

end Outline

/-- What a node shows of a rule. -/
def Rule.ShownBy : Rule → Outline → Prop
  | .requirement r, o => o.ShowsRequirement r
  | .modifier (.ifThenElse condition thenBranch elseBranch), o =>
    o.ShowsConditional condition thenBranch elseBranch
  | .modifier (.randomChoice entries), o => o.ShowsChoice entries
  | .modifier m, o => o = .node (.item m.labelText) []

/-- Every rule is shown by the node that is drawn for it. -/
theorem Rule.shownBy_outline (rule : Rule) : rule.ShownBy rule.outline := by
  cases rule with
  | requirement r => exact Outline.showsRequirement_ofRequirement r
  | modifier m =>
      cases m with
      | ifThenElse condition thenBranch elseBranch =>
          exact Outline.showsConditional_ofModifier condition thenBranch elseBranch
      | randomChoice entries => exact Outline.showsChoice_ofModifier entries
      | grantItem | grantXp | grantXpRange | grantStat | grantStatRange | removeItems | nothing =>
          exact rfl

namespace Outline

/-- What the outline of a document shows. -/
structure ShowsDocument (title : String) (modifiers : List Modifier) (o : Outline) : Prop where
  label : o.label = .title title
  below : o.children = modifiers.map ofModifier
  /-- Every modifier and every requirement is shown by a node of its own, in their order. -/
  rules : List.Forall₂ Rule.ShownBy (Modifier.rulesOf modifiers)
    (o.nodes.filter (·.label.isRule))

/-- A document has an outline if its integers can be written, and this shows all of it. -/
theorem ofDocument?_shows (title : String) (modifiers : List Modifier) :
    ∃ o, ShowsDocument title modifiers o ∧ ofDocument? title modifiers =
      if (Data.list (Modifier.toDataList modifiers)).isWritable then some o else none := by
  refine ⟨ofDocument title modifiers, ⟨rfl, ofModifiers_eq_map modifiers, ?_⟩, rfl⟩
  have hRules : (ofDocument title modifiers).nodes.filter (·.label.isRule) =
      (Modifier.rulesOf modifiers).map Rule.outline := by
    rw [nodes_ofDocument, List.filter_cons_of_neg (by simp [ofDocument, label, Label.isRule]),
      rules_ofModifiers]
  rw [hRules, List.forall₂_map_right_iff, List.forall₂_same]
  exact fun rule _ => rule.shownBy_outline

/-- There is no outline of a grant of a number with one digit more than can be written. -/
theorem not_ofDocument?_isSome :
    ¬ ∀ title modifiers, (ofDocument? title modifiers).isSome := by
  intro h
  exact absurd (h "doc" [.grantXp (10 ^ 4300)]) (by decide +kernel)

end Outline

end Bounty
