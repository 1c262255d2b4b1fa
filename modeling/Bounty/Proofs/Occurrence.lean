import Bounty.Grant
import Bounty.Proofs.Validity

/-! Modifiers at any depth below a list, and the grants that each gives by itself. -/
namespace Bounty

/-- The modifiers right below one: those of its branches or of its alternatives. -/
def Modifier.parts : Modifier → List Modifier
  | .ifThenElse _ thenBranch elseBranch => thenBranch ++ elseBranch
  | .randomChoice entries => entries.flatMap (·.modifiers)
  | _ => []

/-- A modifier stands in a list or somewhere below it. -/
inductive Modifier.Occurs (m : Modifier) : List Modifier → Prop where
  | member {ms : List Modifier} : m ∈ ms → Occurs m ms
  | inside {ms : List Modifier} {n : Modifier} : n ∈ ms → Occurs m n.parts → Occurs m ms

/-- A grant that a modifier gives by itself. Ranges give every amount between their bounds. -/
def Modifier.Gives : Modifier → Grant → Prop
  | .grantItem itemKey, g => g = .item itemKey
  | .grantXp value, g => g = .xp value
  | .grantXpRange min max, g => ∃ amount, min ≤ amount ∧ amount ≤ max ∧ g = .xp amount
  | .grantStat statType itemKey value, g => g = .stat statType itemKey value
  | .grantStatRange statType itemKey min max, g =>
    ∃ amount, min ≤ amount ∧ amount ≤ max ∧ g = .stat statType itemKey amount
  | .removeItems, g => g = .clearInventory
  | _, _ => False

namespace Modifier

/-- There is nothing in an empty list. -/
@[simp] theorem not_occurs_nil (m : Modifier) : ¬ Occurs m [] := by
  rintro (hMem | ⟨hMem, -⟩) <;> cases hMem

@[simp] theorem occurs_cons {m n : Modifier} {rest : List Modifier} :
    Occurs m (n :: rest) ↔ m = n ∨ Occurs m n.parts ∨ Occurs m rest := by
  constructor
  · rintro (hMem | ⟨hMem, hPart⟩)
    · rcases List.mem_cons.mp hMem with rfl | hRest
      · exact .inl rfl
      · exact .inr (.inr (.member hRest))
    · rcases List.mem_cons.mp hMem with rfl | hRest
      · exact .inr (.inl hPart)
      · exact .inr (.inr (.inside hRest hPart))
  · rintro (rfl | hPart | hMem | ⟨hMem, hPart⟩)
    · exact .member (by simp)
    · exact .inside (List.mem_cons_self ..) hPart
    · exact .member (List.mem_cons_of_mem n hMem)
    · exact .inside (List.mem_cons_of_mem n hMem) hPart

/-- What occurs in a modifier that occurs in a list occurs in the list. -/
theorem Occurs.part {m n : Modifier} {ms : List Modifier} (hOccurs : Occurs n ms)
    (hPart : m ∈ n.parts) : Occurs m ms := by
  induction hOccurs with
  | member hMem => exact .inside hMem (.member hPart)
  | inside hMem _ ih => exact .inside hMem ih

/-- The parts of a valid modifier are valid in their turn, in branches as in alternatives. -/
theorem Valid.parts {m : Modifier} (h : m.Valid) : AllValid m.parts := by
  cases m with
  | ifThenElse condition thenBranch elseBranch =>
      rw [Valid] at h
      rw [Modifier.parts, allValid_iff]
      intro n hn
      rcases List.mem_append.mp hn with hThen | hElse
      · exact allValid_iff.mp h.2.1 n hThen
      · exact allValid_iff.mp h.2.2 n hElse
  | randomChoice entries =>
      rw [Valid, allEntriesValid_iff] at h
      rw [Modifier.parts, allValid_iff]
      intro n hn
      obtain ⟨entry, hEntry, hMember⟩ := List.mem_flatMap.mp hn
      exact allValid_iff.mp (entryValid_iff.mp (h entry hEntry)).2.1 n hMember
  | _ => exact allValid_iff.mpr (by simp [Modifier.parts])

/-- However deep a modifier stands in a valid list, it is valid. -/
theorem Occurs.valid {m : Modifier} {ms : List Modifier} (hOccurs : Occurs m ms)
    (hValid : AllValid ms) : m.Valid := by
  induction hOccurs with
  | member hMem => exact allValid_iff.mp hValid m hMem
  | inside hMem _ ih => exact ih (allValid_iff.mp hValid _ hMem).parts

end Modifier

end Bounty
