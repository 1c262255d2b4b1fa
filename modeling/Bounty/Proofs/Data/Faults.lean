import Bounty.Proofs.Data.Depth
import Bounty.Proofs.Data.Writing
import Bounty.Proofs.Numeral
import Bounty.Proofs.Text.Half

/-! Data that elements are read from, and all that is wrong with other data. Reading stops at the
first of these faults: those of the attributes of an element come before those of its children, and
those of a child before those of the next one. -/
namespace Bounty

/-- A sequence has a value where its parts do. -/
theorem bind_eq_ok_iff {ε α β : Type} {r : Except ε α} {f : α → Except ε β} {b : β} :
    r >>= f = .ok b ↔ ∃ a, r = .ok a ∧ f a = .ok b := by
  cases r <;> simp [bind, Except.bind]

/-- A computation stops at the first of some faults, and has a value where there are none. -/
def StopsAt {ε α : Type} (faults : List ε) (r : Except ε α) : Prop :=
  ∀ x, r = .error x ↔ faults.head? = some x

namespace StopsAt

variable {ε α β : Type} {faults more : List ε} {r : Except ε α}

theorem ok (a : α) : StopsAt [] (.ok a : Except ε α) := by simp [StopsAt]

/-- The first of the faults is the one that is told. -/
theorem error (x : ε) (rest : List ε) : StopsAt (x :: rest) (.error x : Except ε α) := by
  simp [StopsAt]

/-- There is a value exactly where there is no fault. -/
theorem exists_ok_iff (h : StopsAt faults r) : (∃ a, r = .ok a) ↔ faults = [] := by
  cases faults with
  | nil =>
      cases r with
      | ok a => simp
      | error x => simpa using (h x).mp rfl
  | cons x rest =>
      have hError : r = .error x := (h x).mpr rfl
      simp [hError]

/-- The faults of the first part come before those of the second. -/
theorem bind {f : α → Except ε β} (h : StopsAt faults r)
    (hNext : ∀ a, r = .ok a → StopsAt more (f a)) : StopsAt (faults ++ more) (r >>= f) := by
  cases r with
  | ok a =>
      have hNone : faults = [] := h.exists_ok_iff.mp ⟨a, rfl⟩
      rw [hNone]
      exact hNext a rfl
  | error x =>
      have hHead : faults.head? = some x := (h x).mp rfl
      obtain ⟨rest, rfl⟩ := List.head?_eq_some_iff.mp hHead
      exact error x (rest ++ more)

/-- A value may be changed on the way. -/
theorem map {f : α → β} (h : StopsAt faults r) : StopsAt faults (r >>= fun a => .ok (f a)) := by
  have hBind := h.bind fun a _ => ok (f a)
  rwa [List.append_nil] at hBind

end StopsAt

/-- The text of a scalar as an attribute. -/
def Scalar.spelling : Scalar → String
  | .bool b => if b then "true" else "false"
  | s => s.write

namespace Data

section Faults

/-- What is wrong with an entry of the element `name` that is to be an attribute. -/
def attributeFaults (name : Scalar) : Scalar × Data → List ShapeFault
  | (_, .scalar _) | (_, .set _) => []
  | (key, _) => if key = childrenKey then [] else [.attributeNotScalar key name]

/-- What is wrong with a value in the place of children that is not a list. None of what it is gone
through by is an element. -/
def looseFaults : Data → List ShapeFault
  | .scalar (.text s) =>
    (Text.points s.toList).map fun point => .notElement (text point.text).display
  | .scalar (.bytes bs) => bs.map fun b => .notElement (integer b.toNat).display
  | .scalar s => if s.isFalsy then [] else [.notChildren (typeName s)]
  | .mapping entries => entries.map fun entry => .notElement (scalar entry.1).display
  | .set members => members.map fun s => .notElement (scalar s).display
  | .pair first second => [.notElement first.display, .notElement second.display]
  | .list _ => []

mutual

/-- All that is wrong with data that is to be an element, in the order in which the elements
begin. -/
def faults : Data → List ShapeFault
  | .mapping [(name, body)] => bodyFaults name body
  | d => [.notElement d.display]

def bodyFaults (name : Scalar) : Data → List ShapeFault
  | .scalar .null => []
  | .list items => itemFaults items
  | .mapping entries => entries.flatMap (attributeFaults name) ++ entryFaults entries
  | _ => [.invalidBody name]

def entryFaults : List (Scalar × Data) → List ShapeFault
  | [] => []
  | (key, value) :: rest => if key == childrenKey then valueFaults value else entryFaults rest

def valueFaults : Data → List ShapeFault
  | .list items => itemFaults items
  | d => looseFaults d

def itemFaults : List Data → List ShapeFault
  | [] => []
  | d :: rest => d.faults ++ itemFaults rest

end

/-- The faults of a list are those of its items in order. -/
theorem itemFaults_eq (items : List Data) : itemFaults items = items.flatMap faults := by
  induction items with
  | nil => rfl
  | cons d rest ih => rw [itemFaults, ih, List.flatMap_cons]

end Faults

section Stops

variable {name : Scalar}

theorem scalarText_of_isWritable {s : Scalar} (h : s.isWritable = true) :
    scalarText s = .ok s.write := if_pos h

/-- Data that is no element is told with its text. -/
theorem notElement_stopsAt {α : Type} {d : Data} (h : d.isWritable = true)
    (rest : List ShapeFault) :
    StopsAt (.notElement d.display :: rest) (notElement d : Except ShapeFault α) := by
  rw [notElement, if_pos h]
  exact .error _ rest

/-- A scalar is its own spelling as an attribute. -/
theorem attributeText_scalar {s : Scalar} (h : s.isWritable = true) (key name : Scalar) :
    attributeText key name (.scalar s) = .ok s.spelling := by
  cases s with
  | bool b => rfl
  | _ => exact scalarText_of_isWritable h

section Entry

variable {key : Scalar} {value : Data} {found : List (String × String)}
  {rest : List (Scalar × Data)}

/-- The children are no attribute, whatever stands there. -/
theorem attributesOf_cons_children :
    attributesOf name found ((childrenKey, value) :: rest) = attributesOf name found rest := by
  simp [attributesOf, childrenKey]

/-- A null leaves its attribute out. -/
theorem attributesOf_cons_null :
    attributesOf name found ((key, null) :: rest) = attributesOf name found rest := by
  simp [attributesOf]

/-- Any other value is an attribute under the written key. -/
theorem attributesOf_cons (hKey : key ≠ childrenKey) (hValue : value ≠ null) :
    attributesOf name found ((key, value) :: rest) =
      attributeText key name value >>= fun text => scalarText key >>= fun written =>
        attributesOf name (setAttribute written text found) rest := by
  have hOther : (key == Scalar.text "children") = false := beq_false_of_ne hKey
  rw [attributesOf, hOther]
  · rfl
  · exact hValue

/-- A value that is a collection is the fault of its attribute. -/
theorem attributeText_stopsAt (hName : name.isWritable = true) (hKey : key.isWritable = true)
    (hValue : value.isWritable = true) (hOther : key ≠ childrenKey) :
    StopsAt (attributeFaults name (key, value)) (attributeText key name value) := by
  cases value with
  | scalar s =>
      rw [attributeText_scalar hValue]
      exact .ok _
  | set members =>
      rw [isWritable] at hValue
      rw [attributeText, if_pos hValue]
      exact .ok _
  | list items =>
      simp only [attributeText, attributeFaults, hName, hKey, hOther]
      exact .error _ []
  | mapping entries =>
      simp only [attributeText, attributeFaults, hName, hKey, hOther]
      exact .error _ []
  | pair first second =>
      simp only [attributeText, attributeFaults, hName, hKey, hOther]
      exact .error _ []

end Entry

theorem attributeFaults_children {value : Data} :
    attributeFaults name (childrenKey, value) = [] := by
  cases value <;> rfl

/-- The attributes are looked at in order, and the first fault among them is told. -/
theorem attributesOf_stopsAt (hName : name.isWritable = true) {entries : List (Scalar × Data)}
    (hEntries : ∀ entry ∈ entries, entry.1.isWritable = true ∧ entry.2.isWritable = true)
    (found : List (String × String)) :
    StopsAt (entries.flatMap (attributeFaults name)) (attributesOf name found entries) := by
  induction entries generalizing found with
  | nil => exact .ok found
  | cons entry rest ih =>
      obtain ⟨key, value⟩ := entry
      rw [List.forall_mem_cons] at hEntries
      obtain ⟨⟨hKey, hValue⟩, hRest⟩ := hEntries
      rw [List.flatMap_cons]
      by_cases hChildren : key = childrenKey
      · rw [hChildren, attributesOf_cons_children, attributeFaults_children]
        exact ih hRest found
      · by_cases hNull : value = null
        · rw [hNull, attributesOf_cons_null]
          exact ih hRest found
        · rw [attributesOf_cons hChildren hNull]
          apply (attributeText_stopsAt hName hKey hValue hChildren).bind
          intro text _
          rw [scalarText_of_isWritable hKey]
          exact ih hRest _

/-- A byte as a number has few digits. -/
theorem isWritable_byte (b : UInt8) : (integer b.toNat).isWritable = true := by
  have hZero : Numeral.isWritable 0 = true := by decide +kernel
  have hLast : Numeral.isWritable 255 = true := by decide +kernel
  have hByte : b.toNat < 256 := b.toNat_lt
  rw [isWritable, Scalar.isWritable]
  exact Numeral.isWritable_of_between hZero hLast (by omega) (by omega)

/-- The first item that a value is gone through by is no element. -/
theorem looseChildren_stopsAt {d : Data} (h : d.isWritable = true) :
    StopsAt (looseFaults d) (looseChildren d) := by
  cases d with
  | list items => exact .ok ()
  | pair first second =>
      rw [isWritable, Bool.and_eq_true] at h
      exact notElement_stopsAt h.1 _
  | mapping entries =>
      cases entries with
      | nil => exact .ok ()
      | cons entry rest =>
          have hKey := (isWritable_mapping_iff.mp h entry (List.mem_cons_self ..)).1
          exact notElement_stopsAt (d := scalar entry.1) hKey _
  | set members =>
      cases members with
      | nil => exact .ok ()
      | cons s rest =>
          rw [isWritable, List.all_cons, Bool.and_eq_true] at h
          exact notElement_stopsAt (d := scalar s) h.1 _
  | scalar s =>
      cases s with
      | text s =>
          rw [looseChildren, looseFaults]
          cases Text.points s.toList with
          | nil => exact .ok ()
          | cons first rest => exact notElement_stopsAt (d := text first.text) rfl _
      | bytes bs =>
          cases bs with
          | nil => exact .ok ()
          | cons b rest => exact notElement_stopsAt (isWritable_byte b) _
      | null | bool | integer | decimal | date | moment =>
          simp only [looseChildren, looseFaults]
          split
          · exact .ok ()
          · exact .error _ []

/-- Of several entries for the children the first one counts. -/
theorem entryFaults_eq (entries : List (Scalar × Data)) :
    entryFaults entries =
      match entries.find? (·.1 == childrenKey) with
      | some entry => valueFaults entry.2
      | none => [] := by
  induction entries with
  | nil => rfl
  | cons entry rest ih =>
      obtain ⟨key, value⟩ := entry
      rw [entryFaults, List.find?_cons]
      cases h : key == childrenKey with
      | true => simp
      | false => simp [ih]

/-- The faults of the children are those of the value that lists them. -/
theorem valueChildren_stopsAt {value : Data} (hValue : value.isWritable = true)
    (hItems : ∀ items, value = .list items → StopsAt (itemFaults items) (toElements items)) :
    StopsAt (valueFaults value) (valueChildren value) := by
  cases value with
  | list items => exact hItems items rfl
  | scalar | mapping | set | pair => exact (looseChildren_stopsAt hValue).map

/-- Where the items of a body are looked at one after the other, the body is, too. -/
theorem bodyElement_stopsAt (hName : name.isWritable = true) {body : Data}
    (hBody : body.isWritable = true)
    (hItems : ∀ items, sizeOf items < sizeOf body → (∀ d ∈ items, d.isWritable = true) →
      StopsAt (itemFaults items) (toElements items)) :
    StopsAt (bodyFaults name body) (bodyElement name body) := by
  have hText := scalarText_of_isWritable hName
  have hInvalid {α : Type} : StopsAt [.invalidBody name]
      (.error (if name.isWritable then .invalidBody name else .tooLongToWrite) :
        Except ShapeFault α) := by
    rw [if_pos hName]
    exact .error _ []
  cases body with
  | list items =>
      rw [bodyElement, bodyFaults, hText]
      exact (hItems items (by simp) (isWritable_list_iff.mp hBody)).map
  | mapping entries =>
      have hEntries := isWritable_mapping_iff.mp hBody
      have hChildren : StopsAt (entryFaults entries) (entryChildren entries) := by
        rw [entryFaults_eq, entryChildren_eq]
        cases hFind : entries.find? (·.1 == childrenKey) with
        | none => exact .ok []
        | some entry =>
            have hEntry := mem_of_find?_childrenKey hFind
            have hValue := (hEntries _ hEntry).2
            apply valueChildren_stopsAt hValue
            intro items hList
            rw [hList] at hEntry hValue
            have hSize := sizeOf_lt_of_mem_entries hEntry
            apply hItems items
            · rw [mapping.sizeOf_spec]
              omega
            · exact isWritable_list_iff.mp hValue
      rw [bodyElement, bodyFaults]
      apply (attributesOf_stopsAt hName hEntries []).bind
      intro attributes _
      rw [hText]
      exact hChildren.map
  | set | pair => exact hInvalid
  | scalar s =>
      cases s with
      | null =>
          rw [bodyElement, bodyFaults, hText]
          exact .ok _
      | bool | integer | decimal | text | bytes | date | moment => exact hInvalid

mutual

/-- Data is read up to the first of its faults. By recursion on the data. -/
theorem toElement_stopsAt (d : Data) (h : d.isWritable = true) : StopsAt d.faults d.toElement := by
  match d with
  | .mapping [(name, body)] =>
      obtain ⟨hName, hBody⟩ := isWritable_mapping_iff.mp h (name, body) (List.mem_cons_self ..)
      rw [faults, toElement]
      refine bodyElement_stopsAt hName hBody fun items hSize => ?_
      have hBelow : sizeOf items < sizeOf (mapping [(name, body)]) := by
        simp only [mapping.sizeOf_spec, List.cons.sizeOf_spec, Prod.mk.sizeOf_spec]
        omega
      exact toElements_stopsAt items
  | .mapping [] | .mapping (_ :: _ :: _) | .scalar _ | .list _ | .set _ | .pair .. =>
      exact notElement_stopsAt h []
termination_by sizeOf d

/-- In a list the first item with a fault is told, after all before it have been read. -/
theorem toElements_stopsAt (items : List Data) (h : ∀ d ∈ items, d.isWritable = true) :
    StopsAt (itemFaults items) (toElements items) := by
  cases items with
  | nil => exact .ok []
  | cons d rest =>
      rw [List.forall_mem_cons] at h
      rw [itemFaults, toElements]
      apply (toElement_stopsAt d h.1).bind
      intro e _
      exact (toElements_stopsAt rest h.2).map
termination_by sizeOf items

end

end Stops

/-- Data that a JSON text may hold. Keys of an object are different texts, and an integer has no
more digits than can be read. -/
inductive IsJson : Data → Prop where
  | null : IsJson .null
  | bool (b : Bool) : IsJson (.bool b)
  | integer {n : Int} (h : Numeral.isWritable n = true) : IsJson (.integer n)
  | decimal (x : Binary64) : IsJson (.scalar (.decimal x))
  | text (s : String) : IsJson (.text s)
  | list {items : List Data} (h : ∀ d ∈ items, IsJson d) : IsJson (.list items)
  | object {fields : List (String × Data)} (hKeys : (fields.map (·.1)).Nodup)
    (h : ∀ field ∈ fields, IsJson field.2) : IsJson (.object fields)

mutual

/-- Data that describes an element. -/
inductive Shaped : Data → Prop where
  | element {name : String} {body : Data} : ShapedBody body → Shaped (.object [(name, body)])

/-- What may stand under the name of an element. -/
inductive ShapedBody : Data → Prop where
  | nothing : ShapedBody .null
  | children {items : List Data} : (∀ d ∈ items, Shaped d) → ShapedBody (.list items)
  | fields {fields : List (String × Data)} :
    (∀ field ∈ fields, field.1 ≠ "children" → ∃ s, field.2 = .scalar s) →
    (∀ field ∈ fields, field.1 = "children" → ShapedChildren field.2) →
    ShapedBody (.object fields)

/-- What may stand in the place of children. -/
inductive ShapedChildren : Data → Prop where
  | list {items : List Data} : (∀ d ∈ items, Shaped d) → ShapedChildren (.list items)
  | falsy {d : Data} : d.isFalsy = true → ShapedChildren d

end

/-- Data of JSON can be written, for its numbers have come from numerals. -/
theorem IsJson.isWritable {d : Data} (h : IsJson d) : d.isWritable = true := by
  induction h with
  | null | bool | decimal | text => rfl
  | integer h => exact h
  | list _ ih => exact isWritable_list_iff.mpr ih
  | object _ _ ih => exact isWritable_object_iff.mpr ih

section Shaped

/-- A list has no fault where each item has the shape of an element. -/
theorem itemFaults_eq_nil_iff {items : List Data}
    (h : ∀ d ∈ items, d.faults = [] ↔ Shaped d) :
    itemFaults items = [] ↔ ∀ d ∈ items, Shaped d := by
  rw [itemFaults_eq, List.flatMap_eq_nil_iff]
  exact forall₂_congr h

/-- A mapping has one value at most in the place of children. -/
theorem entryFaults_object_eq_nil_iff {fields : List (String × Data)}
    (hKeys : (fields.map (·.1)).Nodup) :
    entryFaults (fields.map fun (key, value) => (.text key, value)) = [] ↔
      ∀ field ∈ fields, field.1 = "children" → valueFaults field.2 = [] := by
  induction fields with
  | nil => simp [entryFaults]
  | cons field rest ih =>
      obtain ⟨key, value⟩ := field
      rw [List.map_cons, List.nodup_cons] at hKeys
      obtain ⟨hFresh, hRest⟩ := hKeys
      rw [List.map_cons, entryFaults, List.forall_mem_cons]
      by_cases hKey : key = "children"
      · have hNone : ∀ field ∈ rest, field.1 = "children" → valueFaults field.2 = [] := by
          intro field hField hSame
          rw [hKey, ← hSame] at hFresh
          exact absurd (List.mem_map_of_mem hField) hFresh
        simp only [hKey, childrenKey, beq_self_eq_true, if_true]
        exact ⟨fun h => ⟨fun _ => h, hNone⟩, fun h => h.1 trivial⟩
      · simp [hKey, childrenKey, ih hRest]

/-- An attribute has no fault where it is a scalar, and the entry for the children is none. -/
theorem attributeFaults_text_eq_nil_iff {name : Scalar} {field : String × Data}
    (h : IsJson field.2) : attributeFaults name (.text field.1, field.2) = [] ↔
      (field.1 ≠ "children" → ∃ s, field.2 = .scalar s) := by
  obtain ⟨key, value⟩ := field
  cases h <;> simp [attributeFaults, childrenKey]

/-- Objects with the same entries have the same fields. -/
theorem object_injective : Function.Injective object := by
  intro fields fields' h
  apply List.map_injective_iff.mpr _ (mapping.inj h)
  intro field field' hField
  simpa [Prod.ext_iff] using hField

/-- An element is an object of one field, the name with the body. -/
theorem shaped_object_iff {fields : List (String × Data)} :
    Shaped (.object fields) ↔ ∃ name body, fields = [(name, body)] ∧ ShapedBody body := by
  constructor
  · intro h
    generalize hData : object fields = d at h
    cases h with
    | @element name body hBody => exact ⟨name, body, object_injective hData, hBody⟩
  · rintro ⟨name, body, rfl, hBody⟩
    exact .element hBody

/-- In a body all fields but the children are scalars. -/
theorem shapedBody_object_iff {fields : List (String × Data)} :
    ShapedBody (.object fields) ↔
      (∀ field ∈ fields, field.1 ≠ "children" → ∃ s, field.2 = .scalar s) ∧
      ∀ field ∈ fields, field.1 = "children" → ShapedChildren field.2 := by
  constructor
  · intro h
    generalize hData : object fields = d at h
    cases h with
    | nothing | children _ => cases hData
    | fields hAttributes hChildren =>
        rw [object_injective hData]
        exact ⟨hAttributes, hChildren⟩
  · rintro ⟨hAttributes, hChildren⟩
    exact .fields hAttributes hChildren

/-- An object may stand for the children where it is empty. -/
theorem shapedChildren_object_iff {fields : List (String × Data)} :
    ShapedChildren (.object fields) ↔ fields = [] := by
  constructor
  · intro h
    generalize hData : object fields = d at h
    cases h with
    | list _ => cases hData
    | falsy hFalsy =>
        rw [← hData] at hFalsy
        simpa [object, isFalsy] using hFalsy
  · rintro rfl
    exact .falsy rfl

/-- A scalar is no element. -/
theorem not_shaped_scalar (s : Scalar) : ¬ Shaped (.scalar s) := by
  intro h
  cases h

/-- Null is a body without attributes and children. -/
theorem shapedBody_scalar_iff {s : Scalar} : ShapedBody (.scalar s) ↔ s = .null := by
  constructor
  · intro h
    cases h
    rfl
  · rintro rfl
    exact .nothing

/-- A scalar stands for no children where it counts as false. -/
theorem shapedChildren_scalar_iff {s : Scalar} :
    ShapedChildren (.scalar s) ↔ s.isFalsy = true := by
  constructor
  · intro h
    cases h with
    | falsy h => exact h
  · intro h
    exact .falsy h

theorem valueFaults_scalar_eq_nil_iff {s : Scalar} (h : IsJson (.scalar s)) :
    valueFaults (.scalar s) = [] ↔ s.isFalsy = true := by
  cases h with
  | text s => simp [valueFaults, looseFaults, Scalar.isFalsy]
  | null | bool | integer | decimal =>
      simp only [valueFaults, looseFaults]
      split <;> simp_all

/-- Nothing is wrong with data exactly where it is shaped: as an element, under the name of one, and
in the place of children. -/
structure FaultsFit (d : Data) : Prop where
  element : d.faults = [] ↔ Shaped d
  body (name : Scalar) : bodyFaults name d = [] ↔ ShapedBody d
  children : valueFaults d = [] ↔ ShapedChildren d

/-- Scalars have the faults that their shape says. -/
theorem faultsFit_scalar {s : Scalar} (h : IsJson (.scalar s)) : FaultsFit (.scalar s) where
  element := by simp [faults, not_shaped_scalar]
  body name := by
    rw [shapedBody_scalar_iff]
    cases s <;> simp [bodyFaults]
  children := by rw [shapedChildren_scalar_iff, valueFaults_scalar_eq_nil_iff h]

/-- Lists have the faults that their shape says, where their items do. -/
theorem faultsFit_list {items : List Data} (h : ∀ d ∈ items, d.faults = [] ↔ Shaped d) :
    FaultsFit (.list items) where
  element := by
    have hNot : ¬ Shaped (.list items) := by
      intro h
      cases h
    simp [faults, hNot]
  body name := by
    rw [bodyFaults, itemFaults_eq_nil_iff h]
    constructor
    · exact .children
    · intro hBody
      cases hBody with
      | children hAll => exact hAll
  children := by
    rw [valueFaults, itemFaults_eq_nil_iff h]
    constructor
    · exact .list
    · intro hChildren
      cases hChildren with
      | list hAll => exact hAll
      | falsy hEmpty => simp_all [isFalsy]

/-- Objects have the faults that their shape says, where their fields do. -/
theorem faultsFit_object {fields : List (String × Data)} (hKeys : (fields.map (·.1)).Nodup)
    (hFields : ∀ field ∈ fields, IsJson field.2) (h : ∀ field ∈ fields, FaultsFit field.2) :
    FaultsFit (.object fields) where
  element := by
    rw [shaped_object_iff]
    cases fields with
    | nil => simp [faults, object]
    | cons field rest =>
        cases rest with
        | cons _ _ => simp [faults, object]
        | nil =>
            have hBody := (h field (List.mem_cons_self ..)).body (.text field.1)
            simpa [object, faults, Prod.ext_iff] using hBody
  body name := by
    rw [shapedBody_object_iff, object, bodyFaults, List.append_eq_nil_iff,
      entryFaults_object_eq_nil_iff hKeys, List.flatMap_eq_nil_iff, List.forall_mem_map]
    apply and_congr
    · apply forall₂_congr
      intro field hField
      exact attributeFaults_text_eq_nil_iff (hFields field hField)
    · apply forall₃_congr
      intro field hField _
      exact (h field hField).children
  children := by
    rw [shapedChildren_object_iff, object, valueFaults, looseFaults, List.map_eq_nil_iff,
      List.map_eq_nil_iff]
    simp

/-- By induction on the data, there is no fault exactly where the shape is right. -/
theorem faultsFit_of_isJson {d : Data} (h : IsJson d) : FaultsFit d := by
  induction h with
  | null => exact faultsFit_scalar .null
  | bool b => exact faultsFit_scalar (.bool b)
  | integer h => exact faultsFit_scalar (.integer h)
  | decimal x => exact faultsFit_scalar (.decimal x)
  | text s => exact faultsFit_scalar (.text s)
  | list _ ih => exact faultsFit_list fun d hd => (ih d hd).element
  | object hKeys hFields ih => exact faultsFit_object hKeys hFields ih

end Shaped

section Described

/-- The attribute that an entry of a body is, if it is one. -/
def attribute? : Scalar × Data → Option (String × String)
  | (.text key, .scalar s) => if key = "children" ∨ s = .null then none else some (key, s.spelling)
  | _ => none

/-- The attributes that stand in a body, as texts. -/
def attributes : Data → List (String × String)
  | .mapping entries => entries.filterMap attribute?
  | _ => []

/-- The items that stand in a body for children. -/
def items : Data → List Data
  | .list items => items
  | body => match body.field? "children" with
    | some (.list items) => items
    | _ => []

/-- Items are read one by one, in order. -/
theorem toElements_eq_ok_iff {items : List Data} {es : List Element} :
    toElements items = .ok es ↔ List.Forall₂ (fun item e => item.toElement = .ok e) items es := by
  induction items generalizing es with
  | nil => simp [toElements, eq_comm]
  | cons d rest ih =>
      rw [toElements, List.forall₂_cons_left_iff, bind_eq_ok_iff]
      simp only [bind_eq_ok_iff, ih]
      constructor
      · rintro ⟨e, hFirst, es', hRest, hAll⟩
        cases hAll
        exact ⟨e, es', hFirst, hRest, rfl⟩
      · rintro ⟨e, es', hFirst, hRest, rfl⟩
        exact ⟨e, hFirst, es', hRest, rfl⟩

/-- An attribute under a new key is put behind the others. -/
theorem setAttribute_of_notMem {key text : String} {found : List (String × String)}
    (h : key ∉ found.map (·.1)) : setAttribute key text found = found ++ [(key, text)] := by
  induction found with
  | nil => rfl
  | cons first rest ih =>
      rw [List.map_cons, List.mem_cons, not_or] at h
      have hOther : (first.1 == key) = false := beq_false_of_ne (Ne.symm h.1)
      rw [setAttribute, hOther, ih h.2]
      rfl

theorem attribute?_fst {key : String} {value : Data} {a : String × String}
    (h : attribute? (.text key, value) = some a) : a.1 = key := by
  unfold attribute? at h
  split at h
  · next hEntry =>
    cases hEntry
    split at h
    · cases h
    · cases h
      rfl
  · cases h

/-- An entry under a key that is new adds the attribute that it is. -/
theorem attributesOf_cons_text {name : Scalar} {key : String} {value : Data}
    {rest : List (Scalar × Data)} {found attributes : List (String × String)}
    (hValue : IsJson value) (hNew : key ∉ found.map (·.1))
    (h : attributesOf name found ((.text key, value) :: rest) = .ok attributes) :
    attributesOf name (found ++ (attribute? (.text key, value)).toList) rest = .ok attributes := by
  by_cases hChildren : key = "children"
  · subst hChildren
    have hNone : attribute? (.text "children", value) = none := by
      cases value <;> simp [attribute?]
    rw [hNone, Option.toList_none, List.append_nil]
    exact attributesOf_cons_children ▸ h
  by_cases hNull : value = null
  · subst hNull
    have hNone : attribute? (.text key, null) = none := by simp [attribute?]
    rw [hNone, Option.toList_none, List.append_nil]
    exact attributesOf_cons_null ▸ h
  · have hOther : Scalar.text key ≠ childrenKey := by simpa [childrenKey] using hChildren
    rw [attributesOf_cons hOther hNull] at h
    obtain ⟨text, hText, hWritten⟩ := bind_eq_ok_iff.mp h
    rw [scalarText_text] at hWritten
    have hSome : attribute? (.text key, value) = some (key, text) := by
      cases value with
      | scalar s =>
          rw [attributeText_scalar hValue.isWritable] at hText
          cases hText
          have hScalar : s ≠ .null := fun h => hNull (congrArg scalar h)
          simp [attribute?, hChildren, hScalar]
      | set => cases hValue
      | list | mapping | pair => cases hText
    rw [hSome, Option.toList_some, ← setAttribute_of_notMem hNew]
    exact hWritten

/-- Attributes of different keys are all found, in their order. -/
theorem attributesOf_object {name : Scalar} {fields : List (String × Data)}
    (hKeys : (fields.map (·.1)).Nodup) (hFields : ∀ field ∈ fields, IsJson field.2)
    {found attributes : List (String × String)}
    (hFound : ∀ field ∈ fields, field.1 ∉ found.map (·.1))
    (h : attributesOf name found (fields.map fun (key, value) => (.text key, value)) =
      .ok attributes) :
    attributes = found ++ (object fields).attributes := by
  induction fields generalizing found with
  | nil =>
      cases h
      simp [object, Data.attributes]
  | cons field rest ih =>
      obtain ⟨key, value⟩ := field
      rw [List.map_cons, List.nodup_cons] at hKeys
      rw [List.forall_mem_cons] at hFields hFound
      have hCons : (object ((key, value) :: rest)).attributes =
          (attribute? (.text key, value)).toList ++ (object rest).attributes := by
        rw [object, Data.attributes, List.map_cons, List.filterMap_cons]
        cases attribute? (.text key, value) <;> rfl
      rw [hCons, ← List.append_assoc]
      apply ih hKeys.2 hFields.2 _ (attributesOf_cons_text hFields.1 hFound.1 h)
      intro field hField
      rw [List.map_append, List.mem_append, not_or]
      refine ⟨hFound.2 field hField, ?_⟩
      intro hMem
      obtain ⟨a, ha, hSame⟩ := List.mem_map.mp hMem
      have hKey : a.1 = key := attribute?_fst (Option.mem_toList.mp ha)
      apply hKeys.1
      rw [← hKey, hSame]
      exact List.mem_map_of_mem hField

/-- The children come from the items of the list, where there is one. -/
theorem valueChildren_eq_ok {value : Data} {children : List Element}
    (h : valueChildren value = .ok children) :
    List.Forall₂ (fun item child => item.toElement = .ok child)
      (match some value with | some (.list items) => items | _ => []) children := by
  cases value with
  | list items => exact toElements_eq_ok_iff.mp h
  | scalar | mapping | set | pair =>
      obtain ⟨_, -, hNone⟩ := bind_eq_ok_iff.mp h
      cases hNone
      exact .nil

theorem entryChildren_eq_ok {fields : List (String × Data)} {children : List Element}
    (h : entryChildren (fields.map fun (key, value) => (.text key, value)) = .ok children) :
    List.Forall₂ (fun item child => item.toElement = .ok child) (object fields).items children := by
  have hField : (object fields).field? "children" =
      ((fields.map fun (key, value) => (Scalar.text key, value)).find?
        (·.1 == childrenKey)).map (·.2) := rfl
  rw [entryChildren_eq] at h
  change List.Forall₂ _ (match (object fields).field? "children" with
    | some (.list items) => items
    | _ => []) children
  rw [hField]
  cases hFind : (fields.map fun (key, value) => (Scalar.text key, value)).find?
      (·.1 == childrenKey) with
  | none =>
      rw [hFind] at h
      cases h
      exact .nil
  | some entry =>
      rw [hFind] at h
      exact valueChildren_eq_ok h

/-- An object of JSON has no key twice, and its fields are of JSON. -/
theorem isJson_object {fields : List (String × Data)} (h : IsJson (.object fields)) :
    (fields.map (·.1)).Nodup ∧ ∀ field ∈ fields, IsJson field.2 := by
  generalize hData : object fields = d at h
  cases h with
  | object hKeys hFields =>
      rw [object_injective hData]
      exact ⟨hKeys, hFields⟩
  | null | bool | integer | decimal | text | list => cases hData

/-- What an element is, by the data that it is read from. -/
theorem describes_of_toElement {d : Data} (hJson : IsJson d) (hShaped : Shaped d) {e : Element}
    (h : d.toElement = .ok e) :
    ∃ body, d = .object [(e.name, body)] ∧ e.attributes = body.attributes ∧
      List.Forall₂ (fun item child => item.toElement = .ok child) body.items e.children := by
  cases hShaped with
  | @element name body hBody =>
      have hBodyJson : IsJson body := (isJson_object hJson).2 (name, body) (List.mem_cons_self ..)
      change bodyElement (.text name) body = .ok e at h
      cases hBody with
      | nothing =>
          cases h
          exact ⟨.null, rfl, rfl, .nil⟩
      | @children items _ =>
          rw [bodyElement] at h
          obtain ⟨written, hWritten, hRest⟩ := bind_eq_ok_iff.mp h
          obtain ⟨children, hChildren, hElement⟩ := bind_eq_ok_iff.mp hRest
          cases hWritten
          cases hElement
          exact ⟨.list items, rfl, rfl, toElements_eq_ok_iff.mp hChildren⟩
      | @fields fields _ _ =>
          rw [object, bodyElement] at h
          obtain ⟨attributes, hAttributes, hRest⟩ := bind_eq_ok_iff.mp h
          obtain ⟨written, hWritten, hLast⟩ := bind_eq_ok_iff.mp hRest
          obtain ⟨children, hChildren, hElement⟩ := bind_eq_ok_iff.mp hLast
          cases hWritten
          cases hElement
          obtain ⟨hKeys, hFields⟩ := isJson_object hBodyJson
          refine ⟨.object fields, rfl, ?_, entryChildren_eq_ok hChildren⟩
          exact attributesOf_object hKeys hFields (by simp) hAttributes

end Described

/-- How data is read, by its shape. -/
structure ReadsByShape (d : Data) : Prop where
  /-- Exactly the data that is shaped is an element. -/
  exists_iff : (∃ e, d.toElement = .ok e) ↔ Shaped d
  /-- The key is the name, the scalars of the body but nulls are the attributes, and the items of
  the list are the children, each read by itself. -/
  element (e : Element) : d.toElement = .ok e →
    ∃ body, d = .object [(e.name, body)] ∧ e.attributes = body.attributes ∧
      List.Forall₂ (fun item child => item.toElement = .ok child) body.items e.children
  /-- Nothing is wrong with data that is shaped, and something with all other data. -/
  faultless : d.faults = [] ↔ Shaped d
  /-- The first of the faults is told. -/
  stops (x : ShapeFault) : d.toElement = .error x ↔ d.faults.head? = some x

/-- Data of JSON is read as an element exactly where it has the shape of one, and else for its first
fault is not. -/
theorem readsByShape_of_isJson {d : Data} (h : IsJson d) : ReadsByShape d := by
  have hStops := toElement_stopsAt d h.isWritable
  have hShaped := (faultsFit_of_isJson h).element
  have hExists := hStops.exists_ok_iff.trans hShaped
  exact ⟨hExists, fun e hRead => describes_of_toElement h (hExists.mp ⟨e, hRead⟩) hRead, hShaped,
    hStops⟩

/-- An alternative with a number, a truth value, a null and a list of children. -/
def alternativeData : Data :=
  .object [("choice", .object [("weight", .integer 3), ("ok", .bool true), ("limit", .null),
    ("children", .list [.object [("nothing", .null)]])])]

theorem readsByShape_alternativeData : IsJson alternativeData ∧ ReadsByShape alternativeData := by
  have hWeight : Numeral.isWritable 3 = true := by decide +kernel
  have hChild : IsJson (.object [("nothing", .null)]) := .object (by decide) (by simp [IsJson.null])
  have hChildren : IsJson (.list [.object [("nothing", .null)]]) := .list (by simpa using hChild)
  have hBody : IsJson (.object [("weight", .integer 3), ("ok", .bool true), ("limit", .null),
      ("children", .list [.object [("nothing", .null)]])]) :=
    .object (by decide) (by simp [IsJson.integer hWeight, IsJson.bool, IsJson.null, hChildren])
  have hData : IsJson alternativeData := .object (by decide) (by simpa using hBody)
  exact ⟨hData, readsByShape_of_isJson hData⟩

/-- An attribute that is no scalar is told before a child that is no element, wherever it stands. -/
example : toElement (.object [("choice", .object [("children", .list [.null]),
    ("weight", .list [])])]) = .error (.attributeNotScalar (.text "weight") (.text "choice")) := rfl

end Data

end Bounty
