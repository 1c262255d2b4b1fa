import Mathlib.Data.List.Forall2
import Bounty.Record.Reader

/-! What the parts of a record have to be for a value to come of them. -/
namespace Bounty

namespace Checked

variable {α β : Type}

/-- A value is changed where there is one. -/
@[simp] theorem map_eq_ok_iff {f : α → β} {a : Checked α} {b : β} :
    a.map f = .ok b ↔ ∃ x, a = .ok x ∧ f x = b := by
  cases a <;> simp [Except.map]

/-- Two checks that are both made pass if each of them passes. -/
@[simp] theorem both_eq_ok_iff {a : Checked α} {b : Checked β} {p : α × β} :
    a.both b = .ok p ↔ a = .ok p.1 ∧ b = .ok p.2 := by
  cases a <;> cases b <;> simp [both, Prod.ext_iff]

/-- The location of a problem is no matter where there is none. -/
@[simp] theorem inside_eq_ok_iff {part : Location} {a : Checked α} {x : α} :
    a.inside part = .ok x ↔ a = .ok x := by
  cases a <;> simp [inside, Except.mapError]

/-- A condition on a value is checked after the value itself. -/
@[simp] theorem ensure_eq_ok_iff {holds : α → Bool} {problem : α → Problem} {a : Checked α}
    {x : α} :
    a.ensure holds problem = .ok x ↔ a = .ok x ∧ holds x = true := by
  cases a with
  | error issues => simp [ensure]
  | ok value =>
      by_cases hHolds : holds value = true
      · simp only [ensure, hHolds, if_true, Except.ok.injEq]
        grind
      · simp only [ensure, hHolds, fail]
        grind

@[simp] theorem fail_ne_ok {problem : Problem} {x : α} : (fail problem : Checked α) ≠ .ok x := by
  simp [fail]

end Checked

namespace Record

variable {α : Type} {members : List (Scalar × Data)} {key : String}

/-- A record is read where there is room for one more. -/
theorem nested_eq_ok_iff {o : Origin} {read : Checked α} {a : α} :
    nested o read = .ok a ↔ o.isTooDeep = false ∧ read = .ok a := by
  unfold nested
  cases o.isTooDeep <;> simp

/-- A required field is there, and it is read. -/
theorem required_eq_ok_iff {read : Data → Checked α} {a : α} :
    required read key members = .ok a ↔ ∃ d, find? key members = some d ∧ read d = .ok a := by
  unfold required
  cases find? key members <;> simp

/-- An optional field is read where it is there, and has its default where it is not. -/
theorem optional_eq_ok_iff {read : Data → Checked α} {default a : α} :
    optional read default key members = .ok a ↔
      (find? key members = none ∧ a = default) ∨
        ∃ d, find? key members = some d ∧ read d = .ok a := by
  unfold optional
  cases find? key members with
  | none => simp only [Checked.inside_eq_ok_iff, Except.ok.injEq]; grind
  | some d => simp

/-- The kind of a record is the text under its key, if that is the name of one. -/
theorem kindOf_eq_ok_iff {κ : Type} {ofName? : String → Option κ} {kind : κ} :
    kindOf ofName? members = .ok kind ↔
      ∃ name, find? "kind" members = some (.text name) ∧ ofName? name = some kind := by
  unfold kindOf
  split
  · next hNone => simp [hNone]
  · next name hName =>
      rw [hName]
      cases h : ofName? name <;> simp [h]
  · next other hOther hFound =>
      rw [hFound]
      simp only [Checked.fail_ne_ok, Option.some.injEq, false_iff, not_exists, not_and]
      rintro name rfl
      exact absurd rfl (hOther name)

/-- The items of a list under a key. There are none where the key is missing. -/
def itemsAt (key : String) (members : List (Scalar × Data)) : Option (List Data) :=
  match find? key members with
  | none => some []
  | some (.list items) => some items
  | some _ => none

/-- What comes of some items, read one after the other. -/
def itemsWith (read : Data → Checked α) (index : Nat) : List Data → Checked (List α)
  | [] => .ok []
  | d :: rest =>
    ((Checked.inside (.index index) (read d)).both (itemsWith read (index + 1) rest)).map
      fun (a, as) => a :: as

/-- What comes of the items under a key. -/
def listAt (read : Data → Checked α) (key : String) (members : List (Scalar × Data)) :
    Checked (List α) :=
  match find? key members with
  | none => .ok []
  | some value => Checked.inside (.key key) <| match value with
    | .list items => itemsWith read 0 items
    | _ => .fail .notList

/-- Items are read if each of them is. The places that are counted on the way only tell where a
problem is. -/
theorem itemsWith_eq_ok_iff {read : Data → Checked α} {index : Nat} {items : List Data}
    {as : List α} :
    itemsWith read index items = .ok as ↔ List.Forall₂ (fun d a => read d = .ok a) items as := by
  induction items generalizing index as with
  | nil => simp [itemsWith, eq_comm]
  | cons d rest ih =>
      rw [itemsWith, List.forall₂_cons_left_iff]
      simp only [Checked.map_eq_ok_iff, Checked.both_eq_ok_iff, Checked.inside_eq_ok_iff, ih,
        Prod.exists]
      constructor
      · rintro ⟨a, others, ⟨hFirst, hRest⟩, rfl⟩
        exact ⟨a, others, hFirst, hRest, rfl⟩
      · rintro ⟨a, others, hFirst, hRest, rfl⟩
        exact ⟨a, others, ⟨hFirst, hRest⟩, rfl⟩

/-- A field that holds a list is read if each item of the list is. -/
theorem listAt_eq_ok_iff {read : Data → Checked α} {as : List α} :
    listAt read key members = .ok as ↔
      ∃ items, itemsAt key members = some items ∧
        List.Forall₂ (fun d a => read d = .ok a) items as := by
  unfold listAt itemsAt
  cases find? key members with
  | none => simp [eq_comm]
  | some value => cases value <;> simp [itemsWith_eq_ok_iff]

/-- A field is read at the first member with its key. -/
theorem listAt_cons (read : Data → Checked α) (k : Scalar) (value : Data)
    (rest : List (Scalar × Data)) :
    listAt read key ((k, value) :: rest) =
      if k == .text key then listAt read key [(.text key, value)] else listAt read key rest := by
  unfold listAt find?
  by_cases h : (k == .text key) = true <;> simp [h]

variable (o : Origin)

/-- Requirements are read as any items are. -/
theorem requirementItems_eq (index : Nat) (items : List Data) :
    requirementItems o index items = itemsWith (requirement o) index items := by
  induction items generalizing index with
  | nil => rfl
  | cons d rest ih => rw [requirementItems, ih, itemsWith]

theorem modifierItems_eq (index : Nat) (items : List Data) :
    modifierItems o index items = itemsWith (modifier o) index items := by
  induction items generalizing index with
  | nil => rfl
  | cons d rest ih => rw [modifierItems, ih, itemsWith]

theorem choiceItems_eq (index : Nat) (items : List Data) :
    choiceItems o index items = itemsWith (choice o) index items := by
  induction items generalizing index with
  | nil => rfl
  | cons d rest ih => rw [choiceItems, ih, itemsWith]

theorem requirementsField_eq (key : String) (members : List (Scalar × Data)) :
    requirementsField o key members = listAt (requirement o) key members := by
  induction members with
  | nil => rfl
  | cons member rest ih =>
      obtain ⟨k, value⟩ := member
      rw [requirementsField, listAt_cons, ih]
      congr 1
      cases value <;> simp [requirements, listAt, find?, requirementItems_eq]

theorem modifiersField_eq (key : String) (members : List (Scalar × Data)) :
    modifiersField o key members = listAt (modifier o) key members := by
  induction members with
  | nil => rfl
  | cons member rest ih =>
      obtain ⟨k, value⟩ := member
      rw [modifiersField, listAt_cons, ih]
      congr 1
      cases value <;> simp [modifiers, listAt, find?, modifierItems_eq]

theorem choicesField_eq (key : String) (members : List (Scalar × Data)) :
    choicesField o key members = listAt (choice o) key members := by
  induction members with
  | nil => rfl
  | cons member rest ih =>
      obtain ⟨k, value⟩ := member
      rw [choicesField, listAt_cons, ih]
      congr 1
      cases value <;> simp [choices, listAt, find?, choiceItems_eq]

end Record

end Bounty
