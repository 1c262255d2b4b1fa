import Bounty.Data.Shape

/-! What may go wrong where data is read as an element. All that is wrong with the shape of the
data is noticed, but for one thing: a scalar in the place of children that counts as something and
cannot be gone through. -/
namespace Bounty

/-- Whether a scalar counts as something, and cannot be gone through item by item. -/
def Scalar.isSolid : Scalar → Bool
  | .text _ | .bytes _ => false
  | s => !s.isFalsy

/-- A fault of the shape of data that is noticed as one. -/
def ShapeFault.Noticed (fault : ShapeFault) : Prop := ∀ type, fault ≠ .notChildren type

/-- Whatever fault a computation ends with, if it does, has a property. -/
def Blames {ε α : Type} (P : ε → Prop) (r : Except ε α) : Prop := ∀ x, r = .error x → P x

namespace Blames

variable {ε α β : Type} {P Q : ε → Prop}

/-- What has a value blames nothing. -/
theorem ok (a : α) : Blames P (.ok a) := fun _ h => nomatch h

theorem error {x : ε} (h : P x) : Blames P (.error x : Except ε α) := by
  intro y hEq
  cases hEq
  exact h

/-- Two faults with the property, of which a condition picks one. -/
theorem error_ite {c : Prop} [Decidable c] {x y : ε} (hThen : P x) (hElse : P y) :
    Blames P (.error (if c then x else y) : Except ε α) := by
  apply error
  split
  · exact hThen
  · exact hElse

theorem mono {r : Except ε α} (h : Blames P r) (hImp : ∀ x, P x → Q x) : Blames Q r :=
  fun x hEq => hImp x (h x hEq)

/-- The first part that fails is the one that is to blame. -/
theorem bind {r : Except ε α} (h : Blames P r) {f : α → Except ε β} (hf : ∀ a, Blames P (f a)) :
    Blames P (r >>= f) := by
  cases r with
  | ok a => exact hf a
  | error x => exact error (h x rfl)

/-- A list is gone through up to the first item that fails. -/
theorem mapM {items : List α} {f : α → Except ε β} (h : ∀ item ∈ items, Blames P (f item)) :
    Blames P (items.mapM f) := by
  induction items with
  | nil =>
      rw [List.mapM_nil]
      exact ok _
  | cons item rest ih =>
      rw [List.mapM_cons]
      have hRest := ih fun other hOther => h other (List.mem_cons_of_mem _ hOther)
      exact (h item (List.mem_cons_self ..)).bind fun _ => hRest.bind fun _ => ok _

/-- A fault that is taken for another one. -/
theorem mapError {ε' : Type} {P : ε' → Prop} {g : ε → ε'} {r : Except ε α}
    (h : Blames (fun x => P (g x)) r) : Blames P (r.mapError g) := by
  cases r with
  | ok a => exact ok a
  | error x => exact error (h x rfl)

end Blames

namespace Data

/-- A number with too many digits is noticed. -/
theorem scalarText_noticed (s : Scalar) : Blames ShapeFault.Noticed (scalarText s) := by
  unfold scalarText
  split
  · exact .ok _
  · exact .error fun _ h => nomatch h

/-- What is no element is noticed, even if it cannot be shown. -/
theorem notElement_noticed {α : Type} (d : Data) :
    Blames ShapeFault.Noticed (notElement d : Except ShapeFault α) :=
  .error_ite (fun _ h => nomatch h) fun _ h => nomatch h

/-- A body of the wrong sort is noticed, even where the name of its element cannot be written. -/
theorem invalidBody_noticed {α : Type} (name : Scalar) :
    Blames ShapeFault.Noticed (.error (if name.isWritable then .invalidBody name
      else .tooLongToWrite) : Except ShapeFault α) :=
  .error_ite (fun _ h => nomatch h) fun _ h => nomatch h

/-- An attribute is a text, or it is noticed that it is none. -/
theorem attributeText_noticed (key name : Scalar) (d : Data) :
    Blames ShapeFault.Noticed (attributeText key name d) := by
  cases d with
  | scalar s =>
      cases s with
      | bool b => exact .ok _
      | _ => exact scalarText_noticed _
  | set members =>
      rw [attributeText]
      split
      · exact .ok _
      · exact .error fun _ h => nomatch h
  | _ => exact .error_ite (fun _ h => nomatch h) fun _ h => nomatch h

/-- Whatever keeps a body from having attributes is noticed. By induction on the entries. -/
theorem attributesOf_noticed (name : Scalar) (entries : List (Scalar × Data))
    (found : List (String × String)) :
    Blames ShapeFault.Noticed (attributesOf name found entries) := by
  induction entries generalizing found with
  | nil => exact .ok _
  | cons entry rest ih =>
      obtain ⟨key, value⟩ := entry
      unfold attributesOf
      split
      · exact ih found
      · split
        · exact ih found
        · exact (attributeText_noticed key name value).bind fun _ =>
            (scalarText_noticed key).bind fun _ => ih _

/-- What is no list, and is not noticed where it stands for children, is a solid scalar. -/
theorem looseChildren_blames (d : Data) :
    Blames (fun fault => ∀ type, fault = .notChildren type →
      ∃ s, d = .scalar s ∧ s.isSolid = true ∧ typeName s = type) (looseChildren d) := by
  have hNoticed {e : Except ShapeFault Unit} (h : Blames ShapeFault.Noticed e) :
      Blames (fun fault => ∀ type, fault = .notChildren type →
        ∃ s, d = .scalar s ∧ s.isSolid = true ∧ typeName s = type) e :=
    h.mono fun _ hFault type hType => absurd hType (hFault type)
  unfold looseChildren
  split
  · split
    · exact .ok _
    · exact hNoticed (notElement_noticed _)
  · exact hNoticed (notElement_noticed _)
  · next s hText hBytes =>
      split
      · exact .ok _
      · next hTruthy =>
          apply Blames.error
          intro type hType
          cases hType
          refine ⟨s, rfl, ?_, rfl⟩
          cases s with
          | text s => exact absurd rfl (hText s)
          | bytes bs =>
              cases bs with
              | nil => simp [Scalar.isFalsy] at hTruthy
              | cons b bs => exact absurd rfl (hBytes b bs)
          | _ => simpa [Scalar.isSolid] using hTruthy
  · exact hNoticed (notElement_noticed _)
  · exact hNoticed (notElement_noticed _)
  · exact hNoticed (notElement_noticed _)
  all_goals exact .ok _

/-- The first entry under the key of the children is the one that counts. -/
theorem entryChildren_eq (entries : List (Scalar × Data)) :
    entryChildren entries =
      match entries.find? (·.1 == childrenKey) with
      | some entry => valueChildren entry.2
      | none => .ok [] := by
  induction entries with
  | nil => simp [entryChildren]
  | cons entry rest ih =>
      obtain ⟨key, value⟩ := entry
      rw [entryChildren]
      cases h : key == childrenKey with
      | true => simp [h]
      | false => simp [h, ih]

/-- What is found under the key of the children is an entry of the mapping. -/
theorem mem_of_find?_childrenKey {V : Type} {entries : List (Scalar × V)} {entry : Scalar × V}
    (h : entries.find? (·.1 == childrenKey) = some entry) : (childrenKey, entry.2) ∈ entries := by
  have hKey : entry.1 = childrenKey := by simpa using List.find?_some h
  rw [← hKey]
  exact List.mem_of_find?_eq_some h

/-- A list in an entry is smaller than all entries together, which lets recursion go into it. -/
theorem sizeOf_lt_of_mem_entries {key : Scalar} {items : List Data}
    {entries : List (Scalar × Data)} (h : (key, .list items) ∈ entries) :
    sizeOf items < sizeOf entries := by
  have hSize := List.sizeOf_lt_of_mem h
  simp only [Prod.mk.sizeOf_spec, list.sizeOf_spec] at hSize
  omega

end Data

end Bounty
