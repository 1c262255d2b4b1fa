import Bounty.Data.Shape

/-! How deep collections stand inside of each other, and what is known of the parts of data. -/
namespace Bounty

namespace Data

mutual

/-- How many collections stand inside of each other. Empty ones do not count. -/
def depth : Data → Nat
  | .scalar _ => 0
  | .list items => depthOf items
  | .mapping entries => entriesDepth entries
  | .set members => if members.isEmpty then 0 else 1
  | .pair first second => max first.depth second.depth + 1

def depthOf : List Data → Nat
  | [] => 0
  | d :: rest => max (d.depth + 1) (depthOf rest)

def entriesDepth : List (Scalar × Data) → Nat
  | [] => 0
  | (_, value) :: rest => max (value.depth + 1) (entriesDepth rest)

end

/-- A list is as deep as a bound allows where its items stay one below it. -/
theorem depth_list_le_iff {items : List Data} {bound : Nat} :
    (Data.list items).depth ≤ bound ↔ ∀ d ∈ items, d.depth + 1 ≤ bound := by
  rw [depth]
  induction items with
  | nil => simp [depthOf]
  | cons d rest ih => rw [depthOf, Nat.max_le, ih, List.forall_mem_cons]

/-- A mapping is as deep as its values make it; keys have no depth. -/
theorem depth_mapping_le_iff {entries : List (Scalar × Data)} {bound : Nat} :
    (Data.mapping entries).depth ≤ bound ↔ ∀ entry ∈ entries, entry.2.depth + 1 ≤ bound := by
  rw [depth]
  induction entries with
  | nil => simp [entriesDepth]
  | cons entry rest ih => rw [entriesDepth, Nat.max_le, ih, List.forall_mem_cons]

/-- An item is less deep than its list. -/
theorem depth_lt_of_mem_list {items : List Data} {d : Data} (h : d ∈ items) :
    d.depth < (Data.list items).depth :=
  depth_list_le_iff.mp (Nat.le_refl _) d h

/-- A value is less deep than its mapping. -/
theorem depth_lt_of_mem_mapping {entries : List (Scalar × Data)} {entry : Scalar × Data}
    (h : entry ∈ entries) : entry.2.depth < (Data.mapping entries).depth :=
  depth_mapping_le_iff.mp (Nat.le_refl _) entry h

/-- A list can be written if its items can. -/
theorem isWritable_list_iff {items : List Data} :
    (Data.list items).isWritable = true ↔ ∀ d ∈ items, d.isWritable = true := by
  rw [isWritable]
  induction items with
  | nil => simp [areWritable]
  | cons d rest ih => rw [areWritable, Bool.and_eq_true, ih, List.forall_mem_cons]

/-- A mapping needs keys and values that can be written. -/
theorem isWritable_mapping_iff {entries : List (Scalar × Data)} :
    (Data.mapping entries).isWritable = true ↔
      ∀ entry ∈ entries, entry.1.isWritable = true ∧ entry.2.isWritable = true := by
  rw [isWritable]
  induction entries with
  | nil => simp [entriesWritable]
  | cons entry rest ih =>
      rw [entriesWritable, Bool.and_eq_true, Bool.and_eq_true, ih, List.forall_mem_cons]

/-- The depth of an object of JSON is that of its fields, and one more. -/
theorem depth_object_le_iff {fields : List (String × Data)} {bound : Nat} :
    (Data.object fields).depth ≤ bound ↔ ∀ field ∈ fields, field.2.depth + 1 ≤ bound := by
  rw [object, depth_mapping_le_iff, List.forall_mem_map]

/-- The keys of an object of JSON are texts, which can always be written. -/
theorem isWritable_object_iff {fields : List (String × Data)} :
    (Data.object fields).isWritable = true ↔ ∀ field ∈ fields, field.2.isWritable = true := by
  simp only [object, isWritable_mapping_iff, List.forall_mem_map, Scalar.isWritable, true_and]

end Data

end Bounty
