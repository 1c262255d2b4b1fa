import Bounty.Proofs.Parser.Contract

/-! What is read is valid, and takes no more levels than the parser has left. -/
namespace Bounty

/-- What is read in a role is valid, and there is room for it in some levels. -/
def Role.Fits : (role : Role) → Nat → role.Value → Prop
  | .modifier, depth, m => m.Valid ∧ m.height ≤ depth
  | .modifiers, depth, ms => Modifier.AllValid ms ∧ Modifier.listHeight ms ≤ depth
  | .choice, depth, entry => Modifier.EntryValid entry ∧ Modifier.entryHeight entry ≤ depth
  | .weight, _, w => ValidWeight w
  | .requirement, depth, r => r.Valid ∧ r.height ≤ depth
  | .requirements, depth, rs => Requirement.AllValid rs ∧ Requirement.listHeight rs ≤ depth

namespace Parser

variable {depth : Nat} {here : Path} {es : List Element} {steps : List Step}

/-- Members of a list that have room leave room for the list one level above them. -/
theorem fits_modifiers {ms : List Modifier}
    (h : Each (fun _ m _ => Role.modifier.Fits depth m) es ms steps) :
    Role.modifiers.Fits (depth + 1) ms := by
  have hAll := h.forall_mem fun _ _ _ hFits => hFits
  have hHeight := Modifier.greatestHeight_le_iff.mpr fun m hm => (hAll m hm).2
  refine ⟨Modifier.allValid_iff.mpr fun m hm => (hAll m hm).1, ?_⟩
  rw [Modifier.listHeight]
  omega

/-- A list of requirements has room one level above the highest of them. -/
theorem fits_requirements {rs : List Requirement}
    (h : Each (fun _ r _ => Role.requirement.Fits depth r) es rs steps) :
    Role.requirements.Fits (depth + 1) rs := by
  have hAll := h.forall_mem fun _ _ _ hFits => hFits
  have hHeight := Requirement.greatestHeight_le_iff.mpr fun r hr => (hAll r hr).2
  refine ⟨Requirement.allValid_iff.mpr fun r hr => (hAll r hr).1, ?_⟩
  rw [Requirement.listHeight]
  omega

/-- What the blocks of a choice hold is valid, and there is room for it below the choice. -/
structure Blocks.Valid (depth : Nat) (blocks : Blocks) : Prop where
  weight (w : Int) : blocks.weight = some w → ValidWeight w
  modifiers : Modifier.AllValid blocks.modifiers
  modifiersHeight : Modifier.blockHeight blocks.modifiers ≤ depth
  requirements : Requirement.AllValid blocks.requirements
  requirementsHeight : Requirement.blockHeight blocks.requirements ≤ depth

/-- An alternative starts with blocks that hold nothing. -/
theorem Blocks.valid_empty (depth : Nat) : Blocks.Valid depth ⟨none, [], []⟩ where
  weight w h := by cases h
  modifiers := Modifier.allValid_iff.mpr (by simp)
  modifiersHeight := Nat.zero_le depth
  requirements := Requirement.allValid_iff.mpr (by simp)
  requirementsHeight := Nat.zero_le depth

/-- Each child of a choice replaces one block at most, by a valid one. -/
theorem Fills.valid {blocks last : Blocks}
    (h : Fills (fun part _ a _ => part.Fits depth a) here blocks es last steps)
    (hBlocks : blocks.Valid depth) : last.Valid depth := by
  induction h with
  | nil => exact hBlocks
  | weight _ hWeight _ ih =>
      exact ih { hBlocks with weight := fun w h => by cases h; exact hWeight }
  | modifiers _ hModifiers _ ih =>
      obtain ⟨hValid, hHeight⟩ := hModifiers
      exact ih { hBlocks with
        modifiers := hValid
        modifiersHeight := Nat.le_trans (Modifier.blockHeight_le_listHeight _) hHeight }
  | requirements _ hRequirements _ ih =>
      obtain ⟨hValid, hHeight⟩ := hRequirements
      exact ih { hBlocks with
        requirements := hValid
        requirementsHeight := Nat.le_trans (Requirement.blockHeight_le_listHeight _) hHeight }
  | stray _ _ ih => exact ih hBlocks

/-- Valid blocks and a valid weight make a valid alternative, one level above the blocks. -/
theorem Blocks.Valid.fits {blocks : Blocks} (h : blocks.Valid depth) {weight : Int}
    (hWeight : ValidWeight weight) :
    Role.choice.Fits (depth + 1) ⟨weight, blocks.modifiers, blocks.requirements⟩ := by
  refine ⟨Modifier.entryValid_iff.mpr ⟨hWeight, h.modifiers, h.requirements⟩, ?_⟩
  have hModifiers := h.modifiersHeight
  have hRequirements := h.requirementsHeight
  rw [Modifier.entryHeight_eq]
  dsimp only
  omega

/-- A modifier without parts takes its own level. -/
theorem height_of_isAtomic {m : Modifier} (h : m.kind.IsAtomic) : m.height = 1 := by
  cases m with
  | ifThenElse => exact absurd rfl h.1
  | randomChoice => exact absurd rfl h.2
  | _ => simp only [Modifier.height]

/-- All that is read is valid and fits, for what is asked of an element is what makes its value
valid. -/
theorem fits_contract (p : Parser) :
    p.Contract (fun _ _ _ _ => True) (fun role depth _ _ a _ => role.Fits depth a)
      (fun _ => True) where
  tooDeep _ := trivial
  admits _ := admits_true ..
  stray _ _ _ _ := trivial
  below _ _ _ := trivial
  grant _ _ hAtomic hValid := ⟨hValid, by rw [height_of_isAtomic hAtomic]; omega⟩
  conditional _ _ _ hCondition hThen hElse := by
    refine ⟨?_, ?_⟩
    · rw [Modifier.Valid]
      exact ⟨hCondition.1, hThen.1, hElse.1⟩
    · have hConditionHeight := hCondition.2
      have hThenHeight := hThen.2
      have hElseHeight := hElse.2
      rw [Modifier.listHeight] at hThenHeight hElseHeight
      rw [Modifier.height]
      omega
  randomChoice _ _ hAll := by
    have hEntries := hAll.forall_mem fun _ _ _ hFits => hFits
    refine ⟨?_, ?_⟩
    · rw [Modifier.Valid]
      exact Modifier.allEntriesValid_iff.mpr fun entry h => (hEntries entry h).1
    · have hHeight := Modifier.greatestEntryHeight_le_iff.mpr fun entry h => (hEntries entry h).2
      rw [Modifier.height]
      omega
  modifiers _ hEach := fits_modifiers hEach
  choice _ hFills hWeight := by
    have hValid := hFills.valid (Blocks.valid_empty _)
    exact hValid.fits (hWeight.elim (hValid.weight _) id)
  weight _ hValid := hValid
  check _ _ _ hValid := by
    refine ⟨?_, ?_⟩
    · rw [Requirement.Valid]
      exact hValid
    · rw [Requirement.height]
      omega
  conjunction _ _ hEach := by
    obtain ⟨hValid, hHeight⟩ := fits_requirements hEach
    refine ⟨?_, ?_⟩
    · rw [Requirement.Valid]
      exact hValid
    · rw [Requirement.height]
      exact hHeight
  requirements _ hEach := fits_requirements hEach

/-- What is read from a document is valid and has room in the levels that are left. -/
theorem fits_of_read (p : Parser) {α : Type} (entry : EntryPoint α) {e : Element} {path : Path}
    {a : α} (h : (p.read entry e path).outcome = .ok a) :
    entry.role.Fits (p.depthBelow path) (entry.value a) :=
  (p.fits_contract.read_meets entry trivial).of_ok h

/-- The modifiers of a document are valid, whatever the parser. -/
theorem allValid_of_readModifiers {p : Parser} {e : Element} {path : Path} {ms : List Modifier}
    (h : (p.readModifiers e path).outcome = .ok ms) : Modifier.AllValid ms :=
  (p.fits_of_read .modifiers h).1

end Parser

end Bounty
