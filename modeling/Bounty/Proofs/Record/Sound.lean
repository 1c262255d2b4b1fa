import Mathlib.Data.List.TakeWhile
import Bounty.Proofs.Data.Depth
import Bounty.Proofs.Numeral
import Bounty.Proofs.Record.Field
import Bounty.Proofs.Rules

/-! What is known of a record that has been read. Its dump is no deeper than the data, so that there
is room for it wherever the data was, and its integers can be written where those of the data can.
-/
namespace Bounty

namespace Record

/-- Whether there is room for data of some depth. A record takes two levels: its own, and that of
the list that holds it. -/
def Origin.Admits : Origin → Nat → Prop
  | .text, _ => True
  | .value outer, depth => 2 * outer + depth < 2 * nestingLimit

/-- Where a record is not too deep, there is room for one level. -/
theorem Origin.isTooDeep_eq_false_iff {o : Origin} : o.isTooDeep = false ↔ o.Admits 1 := by
  cases o with
  | text => simp [isTooDeep, Admits]
  | value outer =>
      simp only [isTooDeep, Admits, decide_eq_false_iff_not, Nat.not_le]
      omega

/-- One record further in there is room for two levels less. -/
theorem Origin.admits_inner_iff {o : Origin} {depth : Nat} :
    o.inner.Admits depth ↔ o.Admits (depth + 2) := by
  cases o with
  | text => rfl
  | value outer =>
      simp only [inner, Admits]
      omega

/-- Where there is room for more levels, there is room for fewer. -/
theorem Origin.Admits.mono {o : Origin} {low high : Nat} (h : o.Admits high) (hLe : low ≤ high) :
    o.Admits low := by
  cases o with
  | text => trivial
  | value outer =>
      simp only [Admits] at *
      omega

theorem mem_of_find? {key : String} {members : List (Scalar × Data)} {value : Data}
    (h : find? key members = some value) : (.text key, value) ∈ members := by
  obtain ⟨member, hFind, rfl⟩ := Option.map_eq_some_iff.mp h
  have hKey : member.1 = .text key := by simpa using List.find?_some hFind
  rw [← hKey]
  exact List.mem_of_find?_eq_some hFind

section Integer

/-- An integer made of digits has at most as many as are read at once. -/
theorem isWritable_of_plainInteger {cs : List Char} {n : Int} (h : plainInteger cs = .ok n) :
    Numeral.isWritable n = true := by
  have hDigits (negative padded : Bool) (digits : List Char)
      (h : (if padded then .fail .malformedInteger
        else if (digits.takeWhile Char.isDigit).length > Numeral.digitLimit then
          .fail .tooLongInteger
        else if !Numeral.isDigits digits then .fail .malformedInteger
        else .ok (Numeral.signed negative (Nat.ofDigitChars 10 digits 0)) : Checked Int) = .ok n) :
      Numeral.isWritable n = true := by
    split at h
    · simp at h
    · split at h
      · simp at h
      · next hLength =>
          split at h
          · simp at h
          · next hAll =>
              cases h
              simp only [Bool.not_eq_true', Bool.not_eq_false, Numeral.isDigits,
                Bool.and_eq_true] at hAll
              rw [List.takeWhile_eq_self_iff.mpr (List.all_eq_true.mp hAll.2)] at hLength
              exact Numeral.isWritable_signed hAll.2 (Nat.le_of_not_lt hLength) negative
  exact hDigits _ _ _ h

/-- An integer that is read from a text can be written. -/
theorem isWritable_of_integerOfText {s : String} {n : Int} (h : integerOfText s = .ok n) :
    Numeral.isWritable n = true := by
  unfold integerOfText at h
  split at h
  · next hPlain =>
      cases h
      exact isWritable_of_plainInteger hPlain
  · split at h
    · exact isWritable_of_plainInteger h
    · simp at h

theorem isWritable_of_integerOfDecimal {x : Binary64} {n : Int} (h : integerOfDecimal x = .ok n) :
    Numeral.isWritable n = true := by
  have hLow : Numeral.isWritable (-wordBound) = true := by decide +kernel
  have hHigh : Numeral.isWritable wordBound = true := by decide +kernel
  unfold integerOfDecimal at h
  split at h
  · split at h
    · split at h
      · next hWord =>
          cases h
          simp only [Bool.and_eq_true, decide_eq_true_eq] at hWord
          exact Numeral.isWritable_of_between hLow hHigh (Int.le_of_lt hWord.1)
            (Int.le_of_lt hWord.2)
      · simp at h
    · simp at h
  · simp at h

/-- Integers are read from nothing that is too long to write. -/
theorem isWritable_of_integer {d : Data} {n : Int} (h : integer d = .ok n)
    (hData : d.isWritable = true) : Numeral.isWritable n = true := by
  unfold integer at h
  split at h
  · cases h
    simpa [Data.isWritable, Scalar.isWritable] using hData
  · next b =>
      cases h
      cases b
      · decide +kernel
      · exact Numeral.isWritable_one
  · exact isWritable_of_integerOfDecimal h
  · exact isWritable_of_integerOfText h
  · simp at h

end Integer

/-- What is known of the dump of a record that was read from some data. -/
structure Kept (o : Origin) (d dump : Data) : Prop where
  admitted : o.Admits dump.depth
  depth_le : dump.depth ≤ d.depth
  isWritable : d.isWritable = true → dump.isWritable = true

/-- What is known of a field of the dump of a record that was read from some members. -/
structure FieldKept (o : Origin) (members : List (Scalar × Data)) (value : Data) : Prop where
  admitted : o.Admits (value.depth + 1)
  depth_lt : value.depth < (Data.mapping members).depth
  isWritable : (Data.mapping members).isWritable = true → value.isWritable = true

theorem exists_of_mem_right {α β : Type} {r : α → β → Prop} {as : List α} {bs : List β}
    (h : List.Forall₂ r as bs) {b : β} (hMem : b ∈ bs) : ∃ a ∈ as, r a b := by
  induction h with
  | nil => cases hMem
  | @cons a c as bs hFirst _ ih =>
      rcases List.mem_cons.mp hMem with rfl | hRest
      · exact ⟨a, List.mem_cons_self .., hFirst⟩
      · obtain ⟨found, hFound, hRelated⟩ := ih hRest
        exact ⟨found, List.mem_cons_of_mem _ hFound, hRelated⟩

/-- The items of a field are smaller than the members that the field is one of. -/
theorem sizeOf_lt_of_itemsAt {key : String} {members : List (Scalar × Data)} {items : List Data}
    (hItems : itemsAt key members = some items) {d : Data} (hMem : d ∈ items) :
    sizeOf d < 1 + sizeOf members := by
  unfold itemsAt at hItems
  split at hItems
  · cases hItems
    cases hMem
  · next hFind =>
      cases hItems
      have hList := List.sizeOf_lt_of_mem (mem_of_find? hFind)
      have hItem := List.sizeOf_lt_of_mem hMem
      simp only [Prod.mk.sizeOf_spec, Data.list.sizeOf_spec] at hList
      omega
  · cases hItems

section Fields

variable {o : Origin} {key : String} {members : List (Scalar × Data)}

/-- A dump made of fields is kept if there is room for a record and each field is kept. -/
theorem kept_object {fields : List (String × Data)} (hRoom : o.Admits 1)
    (h : ∀ field ∈ fields, FieldKept o members field.2) :
    Kept o (.mapping members) (.object fields) where
  admitted := by
    cases o with
    | text => trivial
    | value outer =>
        have hDepth : (Data.object fields).depth ≤ 2 * Origin.nestingLimit - 2 * outer - 1 :=
          Data.depth_object_le_iff.mpr fun field hField => by
            have hAdmitted := (h field hField).admitted
            simp only [Origin.Admits] at hAdmitted
            omega
        simp only [Origin.Admits] at hRoom ⊢
        omega
  depth_le := Data.depth_object_le_iff.mpr fun field hField => (h field hField).depth_lt
  isWritable hMembers := Data.isWritable_object_iff.mpr fun field hField =>
    (h field hField).isWritable hMembers

variable (hRoom : o.Admits 1) (hMembers : 0 < (Data.mapping members).depth)

include hRoom hMembers

/-- A field that is a scalar adds no depth. -/
theorem fieldKept_scalar {s : Scalar} (h : (Data.mapping members).isWritable = true →
    s.isWritable = true) : FieldKept o members (.scalar s) where
  admitted := hRoom
  depth_lt := hMembers
  isWritable := by simpa [Data.isWritable] using h

theorem fieldKept_text (s : String) : FieldKept o members (.text s) :=
  fieldKept_scalar hRoom hMembers fun _ => rfl

theorem fieldKept_bool (b : Bool) : FieldKept o members (.bool b) :=
  fieldKept_scalar hRoom hMembers fun _ => rfl

/-- An integer that a field was read as can be written if the members can. -/
theorem fieldKept_integer {n : Int} (h : required integer key members = .ok n) :
    FieldKept o members (.integer n) := by
  obtain ⟨d, hFind, hInteger⟩ := required_eq_ok_iff.mp h
  refine fieldKept_scalar hRoom hMembers fun hWritable => ?_
  have hData := (Data.isWritable_mapping_iff.mp hWritable _ (mem_of_find? hFind)).2
  exact isWritable_of_integer hInteger hData

/-- A default can be written where the field is absent. -/
theorem fieldKept_optional {n default : Int} (hDefault : Numeral.isWritable default = true)
    (h : optional integer default key members = .ok n) : FieldKept o members (.integer n) := by
  rcases optional_eq_ok_iff.mp h with ⟨-, rfl⟩ | hFound
  · exact fieldKept_scalar hRoom hMembers fun _ => hDefault
  · exact fieldKept_integer hRoom hMembers (required_eq_ok_iff.mpr hFound)

/-- A field that holds a list is kept if its items are, each one record further in. -/
theorem fieldKept_list {items dumps : List Data} (hItems : itemsAt key members = some items)
    (h : List.Forall₂ (Kept o.inner) items dumps) : FieldKept o members (.list dumps) := by
  have hEach : ∀ dump ∈ dumps, ∃ d ∈ items, Kept o.inner d dump := fun dump hDump =>
    exists_of_mem_right h hDump
  -- either there are items, in a list of the members, or no dumps
  have hList : dumps = [] ∨ (.text key, .list items) ∈ members := by
    unfold itemsAt at hItems
    split at hItems
    · cases hItems
      exact .inl (List.forall₂_nil_left_iff.mp h)
    · next hFind =>
        cases hItems
        exact .inr (mem_of_find? hFind)
    · cases hItems
  rcases hList with rfl | hMem
  · exact ⟨hRoom, hMembers, fun _ => rfl⟩
  · refine ⟨?_, ?_, ?_⟩
    · cases o with
      | text => trivial
      | value outer =>
          have hDepth : (Data.list dumps).depth ≤ 2 * Origin.nestingLimit - 2 * outer - 2 := by
            rw [Data.depth_list_le_iff]
            intro dump hDump
            obtain ⟨d, -, hKept⟩ := hEach dump hDump
            have hAdmitted := hKept.admitted
            simp only [Origin.inner, Origin.Admits] at hAdmitted
            omega
          simp only [Origin.Admits] at hRoom ⊢
          omega
    · refine Nat.lt_of_le_of_lt ?_ (Data.depth_lt_of_mem_mapping hMem)
      rw [Data.depth_list_le_iff]
      intro dump hDump
      obtain ⟨d, hd, hKept⟩ := hEach dump hDump
      exact Nat.lt_of_le_of_lt hKept.depth_le (Data.depth_lt_of_mem_list hd)
    · intro hWritable
      have hItem := Data.isWritable_list_iff.mp (Data.isWritable_mapping_iff.mp hWritable _ hMem).2
      rw [Data.isWritable_list_iff]
      intro dump hDump
      obtain ⟨d, hd, hKept⟩ := hEach dump hDump
      exact hKept.isWritable (hItem d hd)

/-- A field that holds records, each from an item of the members. -/
theorem fieldKept_records {α : Type} {read : Data → Checked α} {dump : α → Data} {as : List α}
    (h : listAt read key members = .ok as)
    (hEach : ∀ d a, sizeOf d < 1 + sizeOf members → read d = .ok a → Kept o.inner d (dump a)) :
    FieldKept o members (.list (as.map dump)) := by
  obtain ⟨items, hItems, hAll⟩ := listAt_eq_ok_iff.mp h
  have hSmaller (d : Data) (hd : d ∈ items) := sizeOf_lt_of_itemsAt hItems hd
  refine fieldKept_list hRoom hMembers hItems ?_
  rw [List.forall₂_map_right_iff]
  refine ((List.forall₂_and_left _ _).mpr ⟨hSmaller, hAll⟩).imp fun d a hItem => ?_
  exact hEach d a hItem.1 hItem.2

end Fields

/-- The members of a record with a kind are not empty. -/
theorem depth_pos_of_find? {key : String} {members : List (Scalar × Data)} {value : Data}
    (h : find? key members = some value) : 0 < (Data.mapping members).depth :=
  Nat.zero_lt_of_lt (Data.depth_lt_of_mem_mapping (mem_of_find? h))

end Record

theorem Requirement.toDataList_eq_map (rs : List Requirement) :
    Requirement.toDataList rs = rs.map Requirement.toData := by
  induction rs with
  | nil => rfl
  | cons r rest ih => rw [toDataList, ih, List.map_cons]

theorem Modifier.toDataList_eq_map (ms : List Modifier) :
    Modifier.toDataList ms = ms.map Modifier.toData := by
  induction ms with
  | nil => rfl
  | cons m rest ih => rw [toDataList, ih, List.map_cons]

theorem Modifier.entriesToData_eq_map (entries : List Choice) :
    Modifier.entriesToData entries = entries.map Modifier.entryToData := by
  induction entries with
  | nil => rfl
  | cons entry rest ih => rw [entriesToData, ih, List.map_cons]

namespace Record

section Check

variable {o : Origin} {members : List (Scalar × Data)} {kind : RequirementKind}
  {demand : Checked Demand} {r : Requirement}

/-- The dump of a check is kept if the fields of what it demands are. -/
theorem check_kept (hRoom : o.Admits 1) (hMembers : 0 < (Data.mapping members).depth)
    (h : check kind demand members = .ok r)
    (hDemand : ∀ asked, demand = .ok asked → ∀ field ∈ asked.fields,
      FieldKept o members field.2) : Kept o (.mapping members) r.toData := by
  simp only [check, Checked.map_eq_ok_iff, Checked.both_eq_ok_iff] at h
  obtain ⟨⟨ok, reason, asked⟩, ⟨-, -, hAsked⟩, rfl⟩ := h
  rw [Requirement.toData]
  refine kept_object hRoom fun field hField => ?_
  simp only [Check.verdict, List.cons_append, List.nil_append, List.mem_cons] at hField
  rcases hField with rfl | rfl | rfl | hField
  · exact fieldKept_bool hRoom hMembers _
  · exact fieldKept_text hRoom hMembers _
  · exact fieldKept_text hRoom hMembers _
  · exact hDemand asked hAsked field hField

end Check

/-- By recursion on the data: a record that is read inside of another one comes from less of it. -/
theorem requirement_kept {o : Origin} {d : Data} {r : Requirement} (h : requirement o d = .ok r) :
    Kept o d r.toData := by
  match d with
  | .mapping members =>
      rw [requirement] at h
      cases hKind : kindOf RequirementKind.ofName? members with
      | error issues => simp [hKind] at h
      | ok kind =>
          simp only [hKind, Checked.inside_eq_ok_iff, nested_eq_ok_iff,
            Origin.isTooDeep_eq_false_iff] at h
          obtain ⟨hRoom, h⟩ := h
          obtain ⟨name, hName, -⟩ := kindOf_eq_ok_iff.mp hKind
          have hMembers := depth_pos_of_find? hName
          cases kind with
          | conjunction =>
              obtain ⟨rs, hChildren, rfl⟩ := Checked.map_eq_ok_iff.mp h
              rw [requirementsField_eq] at hChildren
              have hList := fieldKept_records hRoom hMembers hChildren
                fun d r hSize hRead => requirement_kept hRead
              rw [Requirement.toData, Requirement.toDataList_eq_map]
              exact kept_object hRoom (by simpa using ⟨fieldKept_text hRoom hMembers _, hList⟩)
          | always => exact check_kept hRoom hMembers h (by rintro asked ⟨⟩ field ⟨⟩)
          | never => exact check_kept hRoom hMembers h (by rintro asked ⟨⟩ field ⟨⟩)
          | friends =>
              refine check_kept hRoom hMembers h fun asked hAsked => ?_
              obtain ⟨n, hInteger, rfl⟩ := Checked.map_eq_ok_iff.mp hAsked
              simpa [Demand.fields] using fieldKept_integer hRoom hMembers hInteger
          | level =>
              refine check_kept hRoom hMembers h fun asked hAsked => ?_
              obtain ⟨n, hInteger, rfl⟩ := Checked.map_eq_ok_iff.mp hAsked
              simpa [Demand.fields] using fieldKept_integer hRoom hMembers hInteger
          | item =>
              refine check_kept hRoom hMembers h fun asked hAsked => ?_
              simp only [Checked.map_eq_ok_iff, Checked.both_eq_ok_iff] at hAsked
              obtain ⟨⟨itemKey, number⟩, ⟨-, hInteger⟩, rfl⟩ := hAsked
              simpa [Demand.fields] using ⟨fieldKept_text hRoom hMembers itemKey,
                fieldKept_optional hRoom hMembers Numeral.isWritable_one hInteger⟩
          | stat =>
              refine check_kept hRoom hMembers h fun asked hAsked => ?_
              simp only [Checked.map_eq_ok_iff, Checked.both_eq_ok_iff] at hAsked
              obtain ⟨⟨statType, itemKey, value⟩, ⟨-, -, hInteger⟩, rfl⟩ := hAsked
              simpa [Demand.fields] using ⟨fieldKept_text hRoom hMembers statType,
                fieldKept_text hRoom hMembers itemKey,
                fieldKept_integer hRoom hMembers hInteger⟩
  | .scalar _ | .list _ | .set _ | .pair .. => simp [requirement] at h
termination_by sizeOf d

mutual

/-- The dump of a modifier is kept. The recursion goes into the lists of its fields. -/
theorem modifier_kept {o : Origin} {d : Data} {m : Modifier} (h : modifier o d = .ok m) :
    Kept o d m.toData := by
  match d with
  | .mapping members =>
      rw [modifier] at h
      cases hKind : kindOf ModifierKind.ofName? members with
      | error issues => simp [hKind] at h
      | ok kind =>
          simp only [hKind, Checked.inside_eq_ok_iff, nested_eq_ok_iff,
            Origin.isTooDeep_eq_false_iff] at h
          obtain ⟨hRoom, h⟩ := h
          obtain ⟨name, hName, -⟩ := kindOf_eq_ok_iff.mp hKind
          have hMembers := depth_pos_of_find? hName
          have hText := fieldKept_text hRoom hMembers
          have hInteger {key : String} {n : Int} (h : required integer key members = .ok n) :=
            fieldKept_integer hRoom hMembers h
          cases kind with
          | grantItem =>
              obtain ⟨itemKey, -, rfl⟩ := Checked.map_eq_ok_iff.mp h
              refine kept_object hRoom ?_
              simpa [Modifier.fields] using ⟨hText _, hText itemKey⟩
          | grantXp =>
              obtain ⟨value, hValue, rfl⟩ := Checked.map_eq_ok_iff.mp h
              refine kept_object hRoom ?_
              simpa [Modifier.fields] using ⟨hText _, hInteger hValue⟩
          | grantXpRange =>
              simp only [Checked.map_eq_ok_iff, Checked.ensure_eq_ok_iff, ends,
                Checked.both_eq_ok_iff] at h
              obtain ⟨⟨min, max⟩, ⟨⟨hMin, hMax⟩, -⟩, rfl⟩ := h
              refine kept_object hRoom ?_
              simpa [Modifier.fields] using ⟨hText _, hInteger hMin, hInteger hMax⟩
          | grantStat =>
              simp only [Checked.map_eq_ok_iff, Checked.both_eq_ok_iff] at h
              obtain ⟨⟨statType, itemKey, value⟩, ⟨-, -, hValue⟩, rfl⟩ := h
              refine kept_object hRoom ?_
              simpa [Modifier.fields] using
                ⟨hText _, hText statType, hText itemKey, hInteger hValue⟩
          | grantStatRange =>
              simp only [Checked.map_eq_ok_iff, Checked.ensure_eq_ok_iff, ends,
                Checked.both_eq_ok_iff] at h
              obtain ⟨⟨statType, itemKey, min, max⟩, ⟨⟨-, -, hMin, hMax⟩, -⟩, rfl⟩ := h
              refine kept_object hRoom ?_
              simpa [Modifier.fields] using
                ⟨hText _, hText statType, hText itemKey, hInteger hMin, hInteger hMax⟩
          | removeItems =>
              cases h
              exact kept_object hRoom (by simpa [Modifier.fields] using hText _)
          | nothing =>
              cases h
              exact kept_object hRoom (by simpa [Modifier.fields] using hText _)
          | ifThenElse =>
              simp only [Checked.map_eq_ok_iff, Checked.both_eq_ok_iff, requirementsField_eq,
                modifiersField_eq] at h
              obtain ⟨⟨condition, thenBranch, elseBranch⟩, ⟨hCondition, hThen, hElse⟩, rfl⟩ := h
              have hConditionList := fieldKept_records hRoom hMembers hCondition
                fun d r _ hRead => requirement_kept hRead
              have hThenList := fieldKept_records hRoom hMembers hThen
                fun d m hSize hRead => modifier_kept hRead
              have hElseList := fieldKept_records hRoom hMembers hElse
                fun d m hSize hRead => modifier_kept hRead
              rw [Modifier.toData, Requirement.toDataList_eq_map, Modifier.toDataList_eq_map,
                Modifier.toDataList_eq_map]
              refine kept_object hRoom ?_
              simpa using ⟨hText _, hConditionList, hThenList, hElseList⟩
          | randomChoice =>
              simp only [Checked.map_eq_ok_iff, choicesField_eq] at h
              obtain ⟨entries, hEntries, rfl⟩ := h
              have hList := fieldKept_records hRoom hMembers hEntries
                fun d entry hSize hRead => choice_kept hRead
              rw [Modifier.toData, Modifier.entriesToData_eq_map]
              exact kept_object hRoom (by simpa using ⟨hText _, hList⟩)
  | .scalar _ | .list _ | .set _ | .pair .. => simp [modifier] at h
termination_by sizeOf d

theorem choice_kept {o : Origin} {d : Data} {entry : Choice} (h : choice o d = .ok entry) :
    Kept o d (Modifier.entryToData entry) := by
  match d with
  | .mapping members =>
      simp only [choice, nested_eq_ok_iff, Origin.isTooDeep_eq_false_iff, Checked.map_eq_ok_iff,
        Checked.both_eq_ok_iff, requirementsField_eq, modifiersField_eq, weight] at h
      obtain ⟨hRoom, ⟨weight, modifiers, requirements⟩, ⟨hWeight, hModifiers, hRequirements⟩,
        rfl⟩ := h
      obtain ⟨d, hFind, hInteger⟩ := required_eq_ok_iff.mp hWeight
      have hMembers := depth_pos_of_find? hFind
      have hInteger : required integer "weight" members = .ok weight :=
        required_eq_ok_iff.mpr ⟨d, hFind, (Checked.ensure_eq_ok_iff.mp hInteger).1⟩
      have hModifierList := fieldKept_records hRoom hMembers hModifiers
        fun d m hSize hRead => modifier_kept hRead
      have hRequirementList := fieldKept_records hRoom hMembers hRequirements
        fun d r _ hRead => requirement_kept hRead
      rw [Modifier.entryToData, Modifier.toDataList_eq_map, Requirement.toDataList_eq_map]
      refine kept_object hRoom ?_
      simpa using ⟨fieldKept_integer hRoom hMembers hInteger, hModifierList, hRequirementList⟩
  | .scalar _ | .list _ | .set _ | .pair .. => simp [choice, nested_eq_ok_iff] at h
termination_by sizeOf d

end

end Record

end Bounty
