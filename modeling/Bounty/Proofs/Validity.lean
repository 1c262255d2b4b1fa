import Bounty.Modifier
import Bounty.Numeral

/-! Valid requirements and modifiers, and how many levels of a document they take. In a valid tree
every text that is asked for is there, every integer can be written, ranges are not empty and
weights are positive. -/
namespace Bounty

def Demand.Valid : Demand → Prop
  | .always => True
  | .never => True
  | .friends required => Numeral.isWritable required = true
  | .level required => Numeral.isWritable required = true
  | .item itemKey number => itemKey ≠ "" ∧ Numeral.isWritable number = true
  | .stat statType itemKey value =>
    statType ≠ "" ∧ itemKey ≠ "" ∧ Numeral.isWritable value = true

/-- The bounds of a range that is rolled for. -/
def ValidRange (min max : Int) : Prop :=
  min ≤ max ∧ Numeral.isWritable min = true ∧ Numeral.isWritable max = true

def ValidWeight (weight : Int) : Prop := 1 ≤ weight ∧ Numeral.isWritable weight = true

mutual

def Requirement.Valid : Requirement → Prop
  | .check c => c.demand.Valid
  | .conjunction children => Requirement.AllValid children

def Requirement.AllValid : List Requirement → Prop
  | [] => True
  | r :: rest => r.Valid ∧ Requirement.AllValid rest

end

mutual

def Modifier.Valid : Modifier → Prop
  | .grantItem itemKey => itemKey ≠ ""
  | .grantXp value => Numeral.isWritable value = true
  | .grantXpRange min max => ValidRange min max
  | .grantStat statType itemKey value =>
    statType ≠ "" ∧ itemKey ≠ "" ∧ Numeral.isWritable value = true
  | .grantStatRange statType itemKey min max =>
    statType ≠ "" ∧ itemKey ≠ "" ∧ ValidRange min max
  | .removeItems => True
  | .nothing => True
  | .ifThenElse condition thenBranch elseBranch =>
    Requirement.AllValid condition ∧ Modifier.AllValid thenBranch ∧ Modifier.AllValid elseBranch
  | .randomChoice entries => Modifier.AllEntriesValid entries

def Modifier.AllValid : List Modifier → Prop
  | [] => True
  | m :: rest => m.Valid ∧ Modifier.AllValid rest

def Modifier.AllEntriesValid : List Choice → Prop
  | [] => True
  | entry :: rest => Modifier.EntryValid entry ∧ Modifier.AllEntriesValid rest

def Modifier.EntryValid : Choice → Prop
  | ⟨weight, modifiers, requirements⟩ =>
    ValidWeight weight ∧ Modifier.AllValid modifiers ∧ Requirement.AllValid requirements

end

mutual

/-- The levels that a requirement takes: its own, and below it those of the highest child. -/
def Requirement.height : Requirement → Nat
  | .check _ => 1
  | .conjunction children => 1 + Requirement.greatestHeight children

/-- The greatest height of some requirements, and zero where there are none. -/
def Requirement.greatestHeight : List Requirement → Nat
  | [] => 0
  | r :: rest => max r.height (Requirement.greatestHeight rest)

end

/-- A list takes a level of its own above its members. -/
def Requirement.listHeight (rs : List Requirement) : Nat := 1 + Requirement.greatestHeight rs

/-- A block of a choice that holds nothing can be left out. -/
def Requirement.blockHeight (rs : List Requirement) : Nat :=
  if rs.isEmpty then 0 else Requirement.listHeight rs

mutual

/-- The levels that a modifier takes: its own, and below it those of its highest part. -/
def Modifier.height : Modifier → Nat
  | .ifThenElse condition thenBranch elseBranch =>
    1 + max (Requirement.listHeight condition)
      (max (1 + Modifier.greatestHeight thenBranch) (1 + Modifier.greatestHeight elseBranch))
  | .randomChoice entries => 1 + Modifier.greatestEntryHeight entries
  | _ => 1

/-- The greatest height of some modifiers, and zero where there are none. -/
def Modifier.greatestHeight : List Modifier → Nat
  | [] => 0
  | m :: rest => max m.height (Modifier.greatestHeight rest)

def Modifier.greatestEntryHeight : List Choice → Nat
  | [] => 0
  | entry :: rest => max (Modifier.entryHeight entry) (Modifier.greatestEntryHeight rest)

/-- An alternative of a choice takes a level above those of its blocks. -/
def Modifier.entryHeight : Choice → Nat
  | ⟨_, modifiers, requirements⟩ =>
    1 + max (if modifiers.isEmpty then 0 else 1 + Modifier.greatestHeight modifiers)
      (Requirement.blockHeight requirements)

end

/-- A list takes a level of its own above its members. -/
def Modifier.listHeight (ms : List Modifier) : Nat := 1 + Modifier.greatestHeight ms

/-- A block of a choice that holds nothing can be left out. -/
def Modifier.blockHeight (ms : List Modifier) : Nat :=
  if ms.isEmpty then 0 else Modifier.listHeight ms

namespace Requirement

/-- A list is valid where all its members are, wherever they stand. -/
theorem allValid_iff {rs : List Requirement} : AllValid rs ↔ ∀ r ∈ rs, r.Valid := by
  induction rs with
  | nil => simp [AllValid]
  | cons r rest ih => simp [AllValid, ih]

/-- A bound of the greatest height bounds every member, so that an induction goes by members. -/
theorem greatestHeight_le_iff {rs : List Requirement} {bound : Nat} :
    greatestHeight rs ≤ bound ↔ ∀ r ∈ rs, r.height ≤ bound := by
  induction rs with
  | nil => simp [greatestHeight]
  | cons r rest ih => rw [greatestHeight, Nat.max_le, ih, List.forall_mem_cons]

/-- Every requirement takes at least the level it stands on. -/
theorem height_pos (r : Requirement) : 0 < r.height := by
  cases r with
  | check c => simp [height]
  | conjunction children =>
      rw [height]
      omega

/-- A block that is left out takes no more than one that is written. -/
theorem blockHeight_le_listHeight (rs : List Requirement) : blockHeight rs ≤ listHeight rs := by
  unfold blockHeight
  split <;> omega

end Requirement

namespace Modifier

/-- A list of modifiers is valid where each of them is. -/
theorem allValid_iff {ms : List Modifier} : AllValid ms ↔ ∀ m ∈ ms, m.Valid := by
  induction ms with
  | nil => simp [AllValid]
  | cons m rest ih => simp [AllValid, ih]

/-- Alternatives are valid one by one. -/
theorem allEntriesValid_iff {entries : List Choice} :
    AllEntriesValid entries ↔ ∀ entry ∈ entries, EntryValid entry := by
  induction entries with
  | nil => simp [AllEntriesValid]
  | cons entry rest ih => simp [AllEntriesValid, ih]

/-- An alternative is valid in its weight and in both its blocks. -/
theorem entryValid_iff {entry : Choice} :
    EntryValid entry ↔ ValidWeight entry.weight ∧ AllValid entry.modifiers ∧
      Requirement.AllValid entry.requirements := by
  cases entry
  simp only [EntryValid]

/-- A bound for a list of modifiers is one for each of them. -/
theorem greatestHeight_le_iff {ms : List Modifier} {bound : Nat} :
    greatestHeight ms ≤ bound ↔ ∀ m ∈ ms, m.height ≤ bound := by
  induction ms with
  | nil => simp [greatestHeight]
  | cons m rest ih => rw [greatestHeight, Nat.max_le, ih, List.forall_mem_cons]

/-- Every modifier takes at least the level it stands on. -/
theorem height_pos (m : Modifier) : 0 < m.height := by
  cases m <;> simp only [height] <;> omega

/-- A bound for the alternatives of a choice is one for each of them. -/
theorem greatestEntryHeight_le_iff {entries : List Choice} {bound : Nat} :
    greatestEntryHeight entries ≤ bound ↔ ∀ entry ∈ entries, entryHeight entry ≤ bound := by
  induction entries with
  | nil => simp [greatestEntryHeight]
  | cons entry rest ih => rw [greatestEntryHeight, Nat.max_le, ih, List.forall_mem_cons]

/-- An alternative is as high as its higher block, and one level more. -/
theorem entryHeight_eq (entry : Choice) :
    entryHeight entry =
      1 + max (blockHeight entry.modifiers) (Requirement.blockHeight entry.requirements) := by
  cases entry
  simp only [entryHeight, blockHeight, listHeight]

/-- Leaving out an empty block of modifiers can only make an alternative lower. -/
theorem blockHeight_le_listHeight (ms : List Modifier) : blockHeight ms ≤ listHeight ms := by
  unfold blockHeight
  split <;> omega

end Modifier

end Bounty
