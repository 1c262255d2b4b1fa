import Bounty.Proofs.Dice
import Bounty.Proofs.Occurrence
import Bounty.Proofs.Parser.Soundness
import Bounty.Proofs.Resolution.Pick

/-! What is read can be resolved. With fair dice the modifiers of a document come to grants, and
every grant is one that some modifier of the document gives by itself. -/
namespace Bounty

variable {σ : Type}

/-- Some grants are given by modifiers that occur in a list. -/
def Modifier.Given (root : List Modifier) (grants : List Grant) : Prop :=
  ∀ g ∈ grants, ∃ m, Modifier.Occurs m root ∧ m.Gives g

/-- The weights of every random choice in a list have a sum that can be written. -/
def Modifier.TotalsWritable (root : List Modifier) : Prop :=
  ∀ entries, Modifier.Occurs (.randomChoice entries) root →
    Numeral.isWritable (totalWeight entries) = true

namespace Modifier

theorem given_nil (root : List Modifier) : Given root [] := fun _ h => nomatch h

/-- Grants that are given one after the other are all given. -/
theorem Given.append {root : List Modifier} {grants others : List Grant}
    (h : Given root grants) (hOthers : Given root others) : Given root (grants ++ others) := by
  intro g hg
  rcases List.mem_append.mp hg with hOne | hOther
  · exact h g hOne
  · exact hOthers g hOther

/-- What a modifier of the tree gives is given by the tree. -/
theorem Occurs.given {m : Modifier} {root : List Modifier} {g : Grant} (h : Occurs m root)
    (hGives : m.Gives g) : Given root [g] := by
  intro other hOther
  rw [List.mem_singleton.mp hOther]
  exact ⟨m, h, hGives⟩

/-- What a resolution of the modifiers of a list, and of those below them, relies on. -/
structure Resolvable (dice : Dice σ) (root : List Modifier) : Prop where
  fair : dice.IsFair
  valid : AllValid root
  totals : TotalsWritable root

variable {dice : Dice σ} {root : List Modifier}

mutual

/-- By induction on the modifier; the list that it occurs in stays the same throughout. -/
theorem resolve_succeeds (h : Resolvable dice root) (m : Modifier) (hOccurs : Occurs m root) :
    (m.resolve dice).Succeeds (Given root) := by
  have hm := hOccurs.valid h.valid
  cases m with
  | grantItem itemKey => exact Resolution.succeeds_pure (hOccurs.given rfl)
  | grantXp value => exact Resolution.succeeds_pure (hOccurs.given rfl)
  | grantXpRange min max =>
      rw [Valid] at hm
      rw [resolve]
      refine (rollRange_succeeds h.fair hm fun _ => rfl).bind fun amount hAmount => ?_
      exact Resolution.succeeds_pure (hOccurs.given ⟨amount, hAmount.1, hAmount.2, rfl⟩)
  | grantStat statType itemKey value => exact Resolution.succeeds_pure (hOccurs.given rfl)
  | grantStatRange statType itemKey min max =>
      rw [Valid] at hm
      rw [resolve]
      refine (rollRange_succeeds h.fair hm.2.2 fun _ => rfl).bind fun amount hAmount => ?_
      exact Resolution.succeeds_pure (hOccurs.given ⟨amount, hAmount.1, hAmount.2, rfl⟩)
  | removeItems => exact Resolution.succeeds_pure (hOccurs.given rfl)
  | nothing => exact Resolution.succeeds_pure (given_nil root)
  | ifThenElse condition thenBranch elseBranch =>
      rw [resolve]
      split
      · refine (Resolution.succeeds_log rfl).bind fun _ _ => ?_
        exact resolveAll_succeeds h thenBranch fun n hn => hOccurs.part (by simp [parts, hn])
      · refine (Resolution.succeeds_log rfl).bind fun _ _ => ?_
        exact resolveAll_succeeds h elseBranch fun n hn => hOccurs.part (by simp [parts, hn])
  | randomChoice entries =>
      rw [Valid, allEntriesValid_iff] at hm
      have hWeights : ∀ entry ∈ entries, ValidWeight entry.weight :=
        fun entry hEntry => (entryValid_iff.mp (hm entry hEntry)).1
      have hParts : ∀ entry ∈ entries, ∀ n ∈ entry.modifiers, Occurs n root :=
        fun entry hEntry n hn =>
          hOccurs.part (List.mem_flatMap.mpr ⟨entry, hEntry, hn⟩)
      rw [resolve]
      refine (pick_succeeds h.fair hWeights (h.totals entries hOccurs)).bind fun picked _ => ?_
      cases picked with
      | none => exact Resolution.succeeds_pure (given_nil root)
      | some found => exact resolveEntryAt_succeeds h entries found.1 hParts

/-- All modifiers of the tree are resolved, and what they grant is given by it. The recursion goes
with the resolution. -/
theorem resolveAll_succeeds (h : Resolvable dice root) (ms : List Modifier)
    (hOccurs : ∀ m ∈ ms, Occurs m root) :
    (resolveAll dice ms).Succeeds (Given root) := by
  cases ms with
  | nil => exact Resolution.succeeds_pure (given_nil root)
  | cons m rest =>
      rw [resolveAll]
      refine (resolve_succeeds h m (hOccurs m (by simp))).bind fun grants hGrants => ?_
      refine (resolveAll_succeeds h rest fun n hn => hOccurs n (by simp [hn])).bind
        fun others hOthers => ?_
      exact Resolution.succeeds_pure (hGrants.append hOthers)

theorem resolveEntryAt_succeeds (h : Resolvable dice root) (entries : List Choice) (index : Nat)
    (hOccurs : ∀ entry ∈ entries, ∀ m ∈ entry.modifiers, Occurs m root) :
    (resolveEntryAt dice entries index).Succeeds (Given root) := by
  cases entries with
  | nil => exact Resolution.succeeds_pure (given_nil root)
  | cons entry rest =>
      cases index with
      | zero => exact resolveEntry_succeeds h entry (hOccurs entry (by simp))
      | succ index =>
          exact resolveEntryAt_succeeds h rest index fun other hOther =>
            hOccurs other (by simp [hOther])

theorem resolveEntry_succeeds (h : Resolvable dice root) (entry : Choice)
    (hOccurs : ∀ m ∈ entry.modifiers, Occurs m root) :
    (resolveEntry dice entry).Succeeds (Given root) := by
  cases entry with
  | mk weight modifiers requirements => exact resolveAll_succeeds h modifiers hOccurs

end

end Modifier

namespace Parser

/-- Whatever a parser reads comes to grants, as long as no total weight is too long to be logged.
No range is empty, no roll goes past the last choice, and every amount is one of the document. -/
theorem resolveAll_of_readModifiers {p : Parser} {e : Element} {path : Path} {ms : List Modifier}
    (hRead : (p.readModifiers e path).outcome = .ok ms) (hTotals : Modifier.TotalsWritable ms)
    {dice : Dice σ} (hFair : dice.IsFair) (state : σ) :
    (∃ grants, (Modifier.resolveAll dice ms state).outcome = .ok grants ∧
      Modifier.Given ms grants) ∧
    ∀ call ∈ (Modifier.resolveAll dice ms state).calls, call.1 ≤ call.2 :=
  Modifier.resolveAll_succeeds ⟨hFair, allValid_of_readModifiers hRead, hTotals⟩ ms
    (fun _ hMem => .member hMem) state

/-- The experience of a die with six sides, or half as often nothing. -/
def sixOrNothing : Modifier :=
  .randomChoice [⟨2, [.grantXpRange 1 6], []⟩, ⟨1, [], []⟩]

theorem totalsWritable_sixOrNothing : Modifier.TotalsWritable [sixOrNothing] := by
  have hThree : Numeral.isWritable 3 = true := by decide +kernel
  intro entries hOccurs
  rcases Modifier.occurs_cons.mp hOccurs with hSelf | hPart | hNone
  · cases hSelf
    exact hThree
  · simp [sixOrNothing, Modifier.parts] at hPart
  · simp at hNone

/-- A choice between a six-sided roll and nothing is parsed, and it is resolved with the seeded
dice. -/
theorem resolveAll_of_readModifiers_twister :
    ∃ e, (standard.readModifiers e).outcome = .ok [sixOrNothing] ∧
      Modifier.TotalsWritable [sixOrNothing] ∧ Twister.dice.IsFair ∧
      (∃ grants, (Modifier.resolveAll Twister.dice [sixOrNothing] (Twister.ofSeed 7)).outcome =
        .ok grants ∧ Modifier.Given [sixOrNothing] grants) ∧
      ∀ call ∈ (Modifier.resolveAll Twister.dice [sixOrNothing] (Twister.ofSeed 7)).calls,
        call.1 ≤ call.2 := by
  have hRead : (standard.readModifiers ⟨"modifiers", [], [⟨"random_choice", [], [
      ⟨"choice", [("weight", "2")], [⟨"modifier", [], [
        ⟨"grant_xp_range", [("min", "1"), ("max", "6")], []⟩]⟩]⟩,
      ⟨"choice", [("weight", "1")], []⟩]⟩]⟩).outcome = .ok [sixOrNothing] := rfl
  exact ⟨_, hRead, totalsWritable_sixOrNothing, Twister.dice_isFair,
    resolveAll_of_readModifiers hRead totalsWritable_sixOrNothing Twister.dice_isFair _⟩

end Parser

end Bounty
