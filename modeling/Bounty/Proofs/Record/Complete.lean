import Bounty.Proofs.Record.Bounds

/-! Records are read from their dumps. Every part of a tree stands in the dump under its own name,
so that the same tree comes of it wherever there is room for it. -/
namespace Bounty

theorem RequirementKind.ofName?_name (kind : RequirementKind) : ofName? kind.name = some kind := by
  cases kind <;> rfl

theorem ModifierKind.ofName?_name (kind : ModifierKind) : ofName? kind.name = some kind := by
  cases kind <;> rfl

namespace Record

section Dump

variable {o : Origin} {key kind : String} {fields : List (String × Data)}

/-- A field of a dump, by its name. -/
theorem find?_object (key : String) (fields : List (String × Data)) :
    find? key (fields.map fun (name, value) => (.text name, value)) =
      (fields.find? (·.1 == key)).map (·.2) := by
  induction fields with
  | nil => rfl
  | cons field rest ih =>
      unfold find? at *
      by_cases hKey : field.1 = key
      · simp [hKey]
      · simpa [hKey] using ih

/-- The kind of a record is found wherever its field stands. -/
theorem kindOf_object {κ : Type} {ofName? : String → Option κ} {k : κ}
    (hField : (fields.find? (·.1 == "kind")).map (·.2) = some (.text kind))
    (h : ofName? kind = some k) :
    kindOf ofName? (fields.map fun (name, value) => (.text name, value)) = .ok k :=
  kindOf_eq_ok_iff.mpr ⟨kind, (find?_object "kind" fields).trans hField, h⟩

/-- A field that holds the dumps of some trees is read as those trees, if each of them is. -/
theorem listAt_of_dumps {α : Type} {read : Data → Checked α} (dump : α → Data) {as : List α}
    {members : List (Scalar × Data)} (hFind : find? key members = some (.list (as.map dump)))
    (h : ∀ a ∈ as, read (dump a) = .ok a) : listAt read key members = .ok as := by
  rw [listAt_eq_ok_iff]
  refine ⟨as.map dump, by rw [itemsAt, hFind], ?_⟩
  rw [List.forall₂_map_left_iff, List.forall₂_same]
  exact h

theorem depth_object_pos (field : String × Data) (rest : List (String × Data)) :
    0 < (Data.object (field :: rest)).depth :=
  Nat.zero_lt_of_lt (Data.depth_object_le_iff.mp (Nat.le_refl _) field (List.mem_cons_self ..))

/-- There is room for what stands in a list of a record where there is room for the record. -/
theorem admits_of_mem_field {items : List Data} {d : Data}
    (h : o.Admits (Data.object fields).depth) (hField : .list items ∈ fields.map (·.2))
    (hItem : d ∈ items) : o.inner.Admits d.depth := by
  rw [Origin.admits_inner_iff]
  obtain ⟨field, hMem, hList⟩ := List.mem_map.mp hField
  have hRecord := Data.depth_object_le_iff.mp (Nat.le_refl _) field hMem
  have hDepth := Data.depth_lt_of_mem_list hItem
  rw [hList] at hRecord
  exact h.mono (by omega)

end Dump

/-- A requirement is read back from its dump, wherever there is room for it. -/
theorem requirement_toData {o : Origin} {r : Requirement} (h : o.Admits r.toData.depth) :
    requirement o r.toData = .ok r := by
  match r with
  | .check c =>
      rw [Requirement.toData] at h ⊢
      have hRoom := Origin.isTooDeep_eq_false_iff.mpr (h.mono (depth_object_pos _ _))
      rw [Data.object, requirement, kindOf_object rfl (RequirementKind.ofName?_name _)]
      obtain ⟨demand, ok, reason⟩ := c
      simp only [Checked.inside_eq_ok_iff, nested_eq_ok_iff, hRoom, true_and]
      cases demand <;>
        simp [Demand.kind, check, required_eq_ok_iff, optional_eq_ok_iff, find?, Check.verdict,
          Demand.fields, boolean, text, integer]
  | .conjunction children =>
      rw [Requirement.toData, Requirement.toDataList_eq_map] at h ⊢
      have hRoom := Origin.isTooDeep_eq_false_iff.mpr (h.mono (depth_object_pos _ _))
      have hChildren : ∀ r ∈ children, requirement o.inner r.toData = .ok r := fun r hr =>
        requirement_toData (admits_of_mem_field h (by simp) (List.mem_map_of_mem hr))
      rw [recordOf, Data.object, requirement, kindOf_object rfl (RequirementKind.ofName?_name _)]
      simp only [Checked.inside_eq_ok_iff, nested_eq_ok_iff, hRoom, true_and, requirementsField_eq,
        Checked.map_eq_ok_iff]
      exact ⟨children, listAt_of_dumps Requirement.toData (by simp [find?]) hChildren, rfl⟩
termination_by sizeOf r

mutual

/-- A modifier in bounds is read back from its dump, wherever there is room for it. The recursion
goes with that of the dump. -/
theorem modifier_toData {o : Origin} {m : Modifier} (hBounds : m.InBounds)
    (h : o.Admits m.toData.depth) : modifier o m.toData = .ok m := by
  match m with
  | .ifThenElse condition thenBranch elseBranch =>
      obtain ⟨hThenBounds, hElseBounds⟩ := Modifier.inBounds_ifThenElse_iff.mp hBounds
      rw [Modifier.toData, Requirement.toDataList_eq_map, Modifier.toDataList_eq_map,
        Modifier.toDataList_eq_map] at h ⊢
      have hRoom := Origin.isTooDeep_eq_false_iff.mpr (h.mono (depth_object_pos _ _))
      have hCondition : ∀ r ∈ condition, requirement o.inner r.toData = .ok r := fun r hr =>
        requirement_toData (admits_of_mem_field h (by simp) (List.mem_map_of_mem hr))
      have hThen : ∀ m ∈ thenBranch, modifier o.inner m.toData = .ok m := fun m hm =>
        modifier_toData (hThenBounds m hm)
          (admits_of_mem_field h (by simp) (List.mem_map_of_mem hm))
      have hElse : ∀ m ∈ elseBranch, modifier o.inner m.toData = .ok m := fun m hm =>
        modifier_toData (hElseBounds m hm)
          (admits_of_mem_field h (by simp) (List.mem_map_of_mem hm))
      rw [recordOf, Data.object, modifier, kindOf_object rfl (ModifierKind.ofName?_name _)]
      simp only [Checked.inside_eq_ok_iff, nested_eq_ok_iff, hRoom, true_and, requirementsField_eq,
        modifiersField_eq, Checked.map_eq_ok_iff, Checked.both_eq_ok_iff]
      exact ⟨(condition, thenBranch, elseBranch),
        ⟨listAt_of_dumps Requirement.toData (by simp [find?]) hCondition,
          listAt_of_dumps Modifier.toData (by simp [find?]) hThen,
          listAt_of_dumps Modifier.toData (by simp [find?]) hElse⟩, rfl⟩
  | .randomChoice entries =>
      have hEntryBounds := Modifier.inBounds_randomChoice_iff.mp hBounds
      rw [Modifier.toData, Modifier.entriesToData_eq_map] at h ⊢
      have hRoom := Origin.isTooDeep_eq_false_iff.mpr (h.mono (depth_object_pos _ _))
      have hEntries : ∀ entry ∈ entries, choice o.inner (Modifier.entryToData entry) = .ok entry :=
        fun entry hEntry => choice_toData (hEntryBounds entry hEntry)
          (admits_of_mem_field h (by simp) (List.mem_map_of_mem hEntry))
      rw [recordOf, Data.object, modifier, kindOf_object rfl (ModifierKind.ofName?_name _)]
      simp only [Checked.inside_eq_ok_iff, nested_eq_ok_iff, hRoom, true_and, choicesField_eq,
        Checked.map_eq_ok_iff]
      exact ⟨entries, listAt_of_dumps Modifier.entryToData (by simp [find?]) hEntries, rfl⟩
  | .grantXpRange _ _ | .grantStatRange _ _ _ _ =>
      have hHere : (Rule.modifier _).InBounds := hBounds _ (List.mem_cons_self ..)
      simp only [Modifier.toData, Rule.InBounds] at h hHere ⊢
      have hRoom := Origin.isTooDeep_eq_false_iff.mpr (h.mono (depth_object_pos _ _))
      rw [recordOf, Data.object, modifier, kindOf_object rfl (ModifierKind.ofName?_name _)]
      simp only [Checked.inside_eq_ok_iff, nested_eq_ok_iff, hRoom, true_and, Modifier.kind]
      simp [Modifier.fields, ends, required_eq_ok_iff, find?, text, integer, hHere]
  | .grantItem _ | .grantXp _ | .grantStat _ _ _ =>
      simp only [Modifier.toData] at h ⊢
      have hRoom := Origin.isTooDeep_eq_false_iff.mpr (h.mono (depth_object_pos _ _))
      rw [recordOf, Data.object, modifier, kindOf_object rfl (ModifierKind.ofName?_name _)]
      simp only [Checked.inside_eq_ok_iff, nested_eq_ok_iff, hRoom, true_and, Modifier.kind]
      simp [Modifier.fields, required_eq_ok_iff, find?, text, integer]
  | .removeItems | .nothing =>
      simp only [Modifier.toData] at h ⊢
      have hRoom := Origin.isTooDeep_eq_false_iff.mpr (h.mono (depth_object_pos _ _))
      rw [recordOf, Data.object, modifier, kindOf_object rfl (ModifierKind.ofName?_name _)]
      simp only [Checked.inside_eq_ok_iff, nested_eq_ok_iff, hRoom, true_and, Modifier.kind]
termination_by sizeOf m

theorem choice_toData {o : Origin} {entry : Choice} (hBounds : Modifier.EntryInBounds entry)
    (h : o.Admits (Modifier.entryToData entry).depth) :
    choice o (Modifier.entryToData entry) = .ok entry := by
  match entry with
  | ⟨weight, modifiers, requirements⟩ =>
      obtain ⟨hWeight, hModifierBounds⟩ := Modifier.entryInBounds_iff.mp hBounds
      rw [Modifier.entryToData, Modifier.toDataList_eq_map, Requirement.toDataList_eq_map] at h ⊢
      have hRoom := Origin.isTooDeep_eq_false_iff.mpr (h.mono (depth_object_pos _ _))
      have hModifiers : ∀ m ∈ modifiers, modifier o.inner m.toData = .ok m := fun m hm =>
        modifier_toData (hModifierBounds m hm)
          (admits_of_mem_field h (by simp) (List.mem_map_of_mem hm))
      have hRequirements : ∀ r ∈ requirements, requirement o.inner r.toData = .ok r := fun r hr =>
        requirement_toData (admits_of_mem_field h (by simp) (List.mem_map_of_mem hr))
      rw [Data.object, choice]
      simp only [nested_eq_ok_iff, hRoom, true_and, requirementsField_eq, modifiersField_eq,
        Checked.map_eq_ok_iff, Checked.both_eq_ok_iff]
      have hInteger : Record.weight [(.text "weight", .integer weight),
          (.text "modifiers", .list (modifiers.map Modifier.toData)),
          (.text "requirements", .list (requirements.map Requirement.toData))] = .ok weight := by
        simpa [Record.weight, required_eq_ok_iff, find?, integer] using Int.lt_of_add_one_le hWeight
      exact ⟨(weight, modifiers, requirements), ⟨hInteger,
        listAt_of_dumps Modifier.toData (by simp [find?]) hModifiers,
        listAt_of_dumps Requirement.toData (by simp [find?]) hRequirements⟩, rfl⟩
termination_by sizeOf entry

end

end Record

end Bounty
