import Bounty.Proofs.Json.RoundTrip
import Bounty.Proofs.Record.Complete

/-! Dumps of trees. They are plain, so that they can be written as JSON, unless an integer is too
long; those of valid trees never have such an integer. No dump is twice as deep as its tree is high.
-/
namespace Bounty

namespace Data

variable {fields : List (String × Data)}

/-- An object stays below a bound if each of its fields does with one level to spare. -/
theorem depth_object_lt {bound : Nat} (hPos : 0 < bound)
    (h : ∀ field ∈ fields, field.2.depth + 1 < bound) : (Data.object fields).depth < bound := by
  rw [Nat.lt_iff_le_pred hPos, depth_object_le_iff]
  exact fun field hField => Nat.le_sub_one_of_lt (h field hField)

/-- Only integers that are too long keep data from being plain. -/
def PlainIfWritable (d : Data) : Prop := d.isWritable = true → d.IsPlain

theorem plainIfWritable_text (s : String) : (Data.text s).PlainIfWritable := fun _ => .text s

theorem plainIfWritable_bool (b : Bool) : (Data.bool b).PlainIfWritable := fun _ => .bool b

theorem plainIfWritable_integer (n : Int) : (Data.integer n).PlainIfWritable := fun h =>
  .integer (by simpa [isWritable, Scalar.isWritable] using h)

/-- An object is plain if its fields are and no key is there twice. -/
theorem plainIfWritable_object (hKeys : (fields.map (·.1)).Nodup)
    (h : ∀ field ∈ fields, field.2.PlainIfWritable) : (Data.object fields).PlainIfWritable :=
  fun hWritable => .object hKeys fun field hField =>
    h field hField (isWritable_object_iff.mp hWritable field hField)

/-! A list of dumps. -/

variable {α : Type} {dump : α → Data} {as : List α}

/-- A list of dumps is plain if each of them is. -/
theorem plainIfWritable_dumps (h : ∀ a ∈ as, (dump a).PlainIfWritable) :
    (Data.list (as.map dump)).PlainIfWritable := fun hWritable =>
  .list (List.forall_mem_map.mpr fun a ha =>
    h a ha (isWritable_list_iff.mp hWritable _ (List.mem_map_of_mem ha)))

theorem isWritable_dumps (h : ∀ a ∈ as, (dump a).isWritable = true) :
    (Data.list (as.map dump)).isWritable = true :=
  isWritable_list_iff.mpr (List.forall_mem_map.mpr h)

/-- The list takes one level, and so its bound is even where those of the dumps are odd. -/
theorem depth_dumps_le {height : α → Nat} {bound : Nat}
    (h : ∀ a ∈ as, (dump a).depth < 2 * height a) (hBound : ∀ a ∈ as, height a ≤ bound) :
    (Data.list (as.map dump)).depth ≤ 2 * bound :=
  depth_list_le_iff.mpr (List.forall_mem_map.mpr fun a ha => by
    have hDump := h a ha
    have hHeight := hBound a ha
    omega)

end Data

open Data

section Plain

/-- The dump of a requirement is plain as far as its integers can be written. By recursion on what
it requires. -/
theorem Requirement.plainIfWritable_toData (r : Requirement) : r.toData.PlainIfWritable := by
  cases r with
  | check c =>
      obtain ⟨demand, ok, reason⟩ := c
      rw [toData]
      refine plainIfWritable_object ?_ ?_
      · cases demand <;> simp [Check.verdict, Demand.fields]
      · cases demand <;>
          simp [Check.verdict, Demand.fields, plainIfWritable_text, plainIfWritable_bool,
            plainIfWritable_integer]
  | conjunction children =>
      have hChildren := plainIfWritable_dumps fun r (hr : r ∈ children) => plainIfWritable_toData r
      rw [toData, toDataList_eq_map]
      exact plainIfWritable_object (by simp) (by simpa [plainIfWritable_text] using hChildren)
termination_by sizeOf r

mutual

/-- The dump of a modifier is plain as far as its integers can be written. -/
theorem Modifier.plainIfWritable_toData (m : Modifier) : m.toData.PlainIfWritable := by
  match m with
  | .ifThenElse condition thenBranch elseBranch =>
      have hCondition := plainIfWritable_dumps fun r (_ : r ∈ condition) =>
        r.plainIfWritable_toData
      have hThen := plainIfWritable_dumps fun m (hm : m ∈ thenBranch) => plainIfWritable_toData m
      have hElse := plainIfWritable_dumps fun m (hm : m ∈ elseBranch) => plainIfWritable_toData m
      rw [toData, Requirement.toDataList_eq_map, toDataList_eq_map, toDataList_eq_map]
      refine plainIfWritable_object (by simp) ?_
      simpa [plainIfWritable_text] using ⟨hCondition, hThen, hElse⟩
  | .randomChoice entries =>
      have hEntries := plainIfWritable_dumps fun entry (hEntry : entry ∈ entries) =>
        plainIfWritable_entryToData entry
      rw [toData, entriesToData_eq_map]
      exact plainIfWritable_object (by simp) (by simpa [plainIfWritable_text] using hEntries)
  | .grantItem _ | .grantXp _ | .grantXpRange _ _ | .grantStat _ _ _ | .grantStatRange _ _ _ _
  | .removeItems | .nothing =>
      simp only [toData, recordOf, fields]
      refine plainIfWritable_object (by simp) ?_
      simp [plainIfWritable_text, plainIfWritable_integer]
termination_by sizeOf m

theorem Modifier.plainIfWritable_entryToData (entry : Choice) :
    (entryToData entry).PlainIfWritable := by
  match entry with
  | ⟨weight, modifiers, requirements⟩ =>
      have hModifiers := plainIfWritable_dumps fun m (hm : m ∈ modifiers) =>
        plainIfWritable_toData m
      have hRequirements := plainIfWritable_dumps fun r (_ : r ∈ requirements) =>
        r.plainIfWritable_toData
      rw [entryToData, toDataList_eq_map, Requirement.toDataList_eq_map]
      refine plainIfWritable_object (by simp) ?_
      simpa [plainIfWritable_integer] using ⟨hModifiers, hRequirements⟩
termination_by sizeOf entry

end

end Plain

section Valid

/-- A valid requirement has no integer with too many digits. -/
theorem Requirement.isWritable_toData {r : Requirement} (h : r.Valid) :
    r.toData.isWritable = true := by
  match r with
  | .check c =>
      obtain ⟨demand, ok, reason⟩ := c
      rw [toData, isWritable_object_iff]
      cases demand <;>
        simp_all [Valid, Demand.Valid, Check.verdict, Demand.fields, isWritable, Scalar.isWritable]
  | .conjunction children =>
      rw [Valid, allValid_iff] at h
      have hChildren := isWritable_dumps fun r hr => isWritable_toData (h r hr)
      rw [toData, toDataList_eq_map, recordOf, isWritable_object_iff]
      simpa using ⟨rfl, hChildren⟩
termination_by sizeOf r

theorem Requirement.isWritable_list {rs : List Requirement} (h : AllValid rs) :
    (Data.list (rs.map toData)).isWritable = true :=
  isWritable_dumps fun r hr => isWritable_toData (allValid_iff.mp h r hr)

mutual

/-- A valid modifier has no integer with too many digits. -/
theorem Modifier.isWritable_toData {m : Modifier} (h : m.Valid) : m.toData.isWritable = true := by
  match m with
  | .ifThenElse condition thenBranch elseBranch =>
      obtain ⟨hCondition, hThen, hElse⟩ := h
      rw [allValid_iff] at hThen hElse
      have hThenList := isWritable_dumps fun m hm => isWritable_toData (hThen m hm)
      have hElseList := isWritable_dumps fun m hm => isWritable_toData (hElse m hm)
      rw [toData, Requirement.toDataList_eq_map, toDataList_eq_map, toDataList_eq_map, recordOf,
        isWritable_object_iff]
      simpa using ⟨rfl, Requirement.isWritable_list hCondition, hThenList, hElseList⟩
  | .randomChoice entries =>
      rw [Valid, allEntriesValid_iff] at h
      have hEntries := isWritable_dumps fun entry hEntry =>
        isWritable_entryToData (h entry hEntry)
      rw [toData, entriesToData_eq_map, recordOf, isWritable_object_iff]
      simpa using ⟨rfl, hEntries⟩
  | .grantItem _ | .grantXp _ | .grantXpRange _ _ | .grantStat _ _ _ | .grantStatRange _ _ _ _
  | .removeItems | .nothing =>
      simp only [toData]
      rw [recordOf, isWritable_object_iff]
      simp_all [Valid, ValidRange, fields, isWritable, Scalar.isWritable]
termination_by sizeOf m

theorem Modifier.isWritable_entryToData {entry : Choice} (h : EntryValid entry) :
    (entryToData entry).isWritable = true := by
  match entry with
  | ⟨weight, modifiers, requirements⟩ =>
      obtain ⟨hWeight, hModifiers, hRequirements⟩ := h
      rw [allValid_iff] at hModifiers
      have hList := isWritable_dumps fun m hm => isWritable_toData (hModifiers m hm)
      rw [entryToData, toDataList_eq_map, Requirement.toDataList_eq_map, isWritable_object_iff]
      simpa using ⟨hWeight.2, hList, Requirement.isWritable_list hRequirements⟩
termination_by sizeOf entry

end

end Valid

section Depth

/-- A level of a requirement takes two of its dump, one for the record and one for the list in it.
-/
theorem Requirement.depth_toData_lt (r : Requirement) : r.toData.depth < 2 * r.height := by
  cases r with
  | check c =>
      obtain ⟨demand, ok, reason⟩ := c
      rw [height, toData]
      refine depth_object_lt (by decide) ?_
      cases demand <;> simp [Check.verdict, Demand.fields, depth]
  | conjunction children =>
      have hChildren := depth_dumps_le (fun r (hr : r ∈ children) => depth_toData_lt r)
        (greatestHeight_le_iff.mp (Nat.le_refl _))
      rw [height, toData, toDataList_eq_map, recordOf]
      refine depth_object_lt (by omega) ?_
      simp only [List.forall_mem_cons, List.not_mem_nil, false_imp_iff, implies_true, and_true]
      exact ⟨by rw [depth]; omega, by omega⟩
termination_by sizeOf r

theorem Requirement.depth_list_le (rs : List Requirement) :
    (Data.list (rs.map toData)).depth ≤ 2 * greatestHeight rs :=
  depth_dumps_le (fun r _ => depth_toData_lt r) (greatestHeight_le_iff.mp (Nat.le_refl _))

/-- The dump of a block is bounded by the height of the block. -/
theorem Requirement.depth_block_le (rs : List Requirement) :
    (Data.list (rs.map toData)).depth ≤ 2 * blockHeight rs := by
  cases rs with
  | nil => exact Nat.le_refl _
  | cons r rest =>
      have hList := depth_list_le (r :: rest)
      rw [blockHeight, if_neg (by simp), listHeight]
      omega

mutual

/-- A level of a modifier takes two of its dump, one for the record and one for the list in it. -/
theorem Modifier.depth_toData_lt (m : Modifier) : m.toData.depth < 2 * m.height := by
  match m with
  | .ifThenElse condition thenBranch elseBranch =>
      have hCondition := Requirement.depth_list_le condition
      have hThen := depth_dumps_le (fun m (hm : m ∈ thenBranch) => depth_toData_lt m)
        (greatestHeight_le_iff.mp (Nat.le_refl _))
      have hElse := depth_dumps_le (fun m (hm : m ∈ elseBranch) => depth_toData_lt m)
        (greatestHeight_le_iff.mp (Nat.le_refl _))
      rw [height, Requirement.listHeight, toData, Requirement.toDataList_eq_map,
        toDataList_eq_map, toDataList_eq_map, recordOf]
      refine depth_object_lt (by omega) ?_
      simp only [List.forall_mem_cons, List.not_mem_nil, false_imp_iff, implies_true, and_true]
      exact ⟨by rw [depth]; omega, by omega, by omega, by omega⟩
  | .randomChoice entries =>
      have hEntries := depth_dumps_le
        (fun entry (hEntry : entry ∈ entries) => depth_entryToData_lt entry)
        (greatestEntryHeight_le_iff.mp (Nat.le_refl _))
      rw [height, toData, entriesToData_eq_map, recordOf]
      refine depth_object_lt (by omega) ?_
      simp only [List.forall_mem_cons, List.not_mem_nil, false_imp_iff, implies_true, and_true]
      exact ⟨by rw [depth]; omega, by omega⟩
  | .grantItem _ | .grantXp _ | .grantXpRange _ _ | .grantStat _ _ _ | .grantStatRange _ _ _ _
  | .removeItems | .nothing =>
      simp only [height, toData]
      exact depth_object_lt (by decide) (by simp [fields, depth])
termination_by sizeOf m

theorem Modifier.depth_entryToData_lt (entry : Choice) :
    (entryToData entry).depth < 2 * entryHeight entry := by
  match entry with
  | ⟨weight, modifiers, requirements⟩ =>
      have hRequirements := Requirement.depth_block_le requirements
      have hModifiers : (Data.list (modifiers.map toData)).depth ≤ 2 * blockHeight modifiers := by
        have hList := depth_dumps_le (fun m (hm : m ∈ modifiers) => depth_toData_lt m)
          (greatestHeight_le_iff.mp (Nat.le_refl _))
        cases modifiers with
        | nil => exact Nat.le_refl _
        | cons m rest =>
            rw [blockHeight, if_neg (by simp), listHeight]
            omega
      rw [entryHeight_eq, entryToData, toDataList_eq_map, Requirement.toDataList_eq_map]
      refine depth_object_lt (by omega) ?_
      simp only [List.forall_mem_cons, List.not_mem_nil, false_imp_iff, implies_true, and_true]
      exact ⟨by rw [depth]; omega, by omega, by omega⟩
termination_by sizeOf entry

end

end Depth

end Bounty
