import Mathlib.Logic.Relation
import Bounty.Data.View
import Bounty.Proofs.Data.Faults

/-! What may go wrong where a value is read as an element that is looked at from outside. The fault
is noticed, or it is a scalar in the place of children that cannot be gone through, or there is no
room for all the values inside of each other. Data of JSON comes to what it describes, as far as
there is room. -/
namespace Bounty

namespace View

variable {V : Type} (view : View V)

/-- A value describes an element, and another one is among the values that its children are. -/
inductive Child : V → V → Prop where
  | listed {v w body : V} {name : Scalar} {items : List V} :
    view.layer v = .mapping [(name, body)] → view.layer body = .list items → w ∈ items → Child v w
  | entered {v w body value : V} {name : Scalar} {entries : List (Scalar × V)} {items : List V} :
    view.layer v = .mapping [(name, body)] → view.layer body = .mapping entries →
    (Data.childrenKey, value) ∈ entries → (view.layer value).items? = some items → w ∈ items →
    Child v w

/-- A value describes an element that has a scalar in the place of its children. -/
inductive Spoilt (s : Scalar) : V → Prop where
  | intro {v body value : V} {name : Scalar} {entries : List (Scalar × V)} :
    view.layer v = .mapping [(name, body)] → view.layer body = .mapping entries →
    (Data.childrenKey, value) ∈ entries → view.layer value = .scalar s → Spoilt s v

/-- At a value or below it there is a solid scalar of some sort in the place of children. -/
def Hides (type : String) (v : V) : Prop :=
  ∃ w s, Relation.ReflTransGen view.Child v w ∧ view.Spoilt s w ∧ s.isSolid = true ∧
    Data.typeName s = type

/-- A value is one of those that another one holds. -/
inductive Inside : V → V → Prop where
  | listed {v w : V} {items : List V} : view.layer v = .list items → w ∈ items → Inside v w
  | entered {v w : V} {entries : List (Scalar × V)} {key : Scalar} :
    view.layer v = .mapping entries → (key, w) ∈ entries → Inside v w
  | first {v w other : V} : view.layer v = .pair w other → Inside v w
  | second {v w other : V} : view.layer v = .pair other w → Inside v w

/-- One can go into a value this many times without coming upon one of the outer values again. -/
inductive Nests : List V → Nat → V → Prop where
  | here {outer : List V} {v : V} : Nests outer 0 v
  | inside {outer : List V} {count : Nat} {v w : V} : outer.any (view.same v) = false →
    view.Inside v w → Nests (v :: outer) count w → Nests outer (count + 1) v

/-- There is no room for a value: one can go down to children as often as there is room for
elements, or to a value that would have to be shown deeper than there is room then. -/
inductive Exceeds (displayRoom : Nat → Nat) : Nat → V → Prop where
  | elements {v : V} : Exceeds displayRoom 0 v
  | display {room : Nat} {v : V} : view.Nests [] (displayRoom (room + 1)) v →
    Exceeds displayRoom (room + 1) v
  | child {room : Nat} {v w : V} : view.Child v w → Exceeds displayRoom room w →
    Exceeds displayRoom (room + 1) v

/-- What a fault says of a value that was to be shown inside of others. -/
def Unshown (outer : List V) (room : Nat) (v : V) : ElementFault → Prop
  | .shape fault => fault.Noticed
  | .tooDeep => view.Nests outer room v

/-- What a fault says of a value that was read as an element: it is noticed, or hidden in the value,
or there is no room. -/
def Accounts (displayRoom : Nat → Nat) (room : Nat) (v : V) : ElementFault → Prop
  | .shape fault => ∀ type, fault = .notChildren type → view.Hides type v
  | .tooDeep => view.Exceeds displayRoom room v

variable {view} {outer : List V} {room : Nat} {displayRoom : Nat → Nat} {v w : V}

/-- What a value is gone through by is inside of it. -/
theorem inside_of_items? {items : List V} (h : (view.layer v).items? = some items)
    (hMem : w ∈ items) : view.Inside v w := by
  cases hLayer : view.layer v <;> rw [hLayer] at h <;> cases h
  · exact .listed hLayer hMem
  · rcases List.mem_pair.mp hMem with rfl | rfl
    · exact .first hLayer
    · exact .second hLayer

/-- A scalar that is not shown is a number with too many digits. -/
theorem scalarShown_unshown (s : Scalar) :
    Blames (view.Unshown outer room v) (scalarShown s) := by
  unfold scalarShown
  split
  · exact .ok _
  · exact .error fun _ h => nomatch h

/-- What cannot be shown inside of a value keeps the value from being shown. -/
theorem Unshown.holder {fault : ElementFault} (hFresh : outer.any (view.same v) = false)
    (hInside : view.Inside v w) (h : view.Unshown (v :: outer) room w fault) :
    view.Unshown outer (room + 1) v fault := by
  cases fault with
  | shape fault => exact h
  | tooDeep => exact .inside hFresh hInside h

/-- A value is shown unless a number in it has too many digits or it nests too deep. By induction on
the room. -/
theorem shown_unshown (room : Nat) (outer : List V) (v : V) :
    Blames (view.Unshown outer room v) (view.shown room outer v) := by
  induction room generalizing outer v with
  | zero => exact .error .here
  | succ room ih =>
      rw [shown]
      cases hFresh : outer.any (view.same v) with
      | true => exact .ok _
      | false =>
          have hInner {w : V} (hInside : view.Inside v w) :
              Blames (view.Unshown outer (room + 1) v) (view.shown room (v :: outer) w) :=
            (ih (v :: outer) w).mono fun _ hFault => Unshown.holder hFresh hInside hFault
          simp only [Bool.false_eq_true, if_false]
          split
          · exact scalarShown_unshown _
          · exact (Blames.mapM fun s _ => scalarShown_unshown s).bind fun _ => .ok _
          · next items hLayer =>
              have hItems : Blames (view.Unshown outer (room + 1) v)
                  (items.mapM (view.shown room (v :: outer))) :=
                Blames.mapM fun item hMem => hInner (.listed hLayer hMem)
              exact hItems.bind fun _ => .ok _
          · next entries hLayer =>
              refine (Blames.mapM fun entry hMem => ?_).bind fun _ => .ok _
              exact (scalarShown_unshown entry.1).bind fun _ =>
                (hInner (.entered hLayer hMem)).bind fun _ => .ok _
          · next first second hLayer =>
              exact (hInner (.first hLayer)).bind fun _ =>
                (hInner (.second hLayer)).bind fun _ => .ok _

/-- A value that is no element is reported as one, unless it nests too deep to be shown. -/
theorem notElement_accounts {α : Type} (v : V) :
    Blames (view.Accounts displayRoom (room + 1) v)
      (view.notElement (displayRoom (room + 1)) v : Except ElementFault α) := by
  have hShown := (shown_unshown (displayRoom (room + 1)) [] v).mono
    (Q := view.Accounts displayRoom (room + 1) v) fun fault hFault => by
      cases fault with
      | shape fault => exact fun type hType => absurd hType (hFault type)
      | tooDeep => exact .display hFault
  exact hShown.bind fun _ => .error fun _ h => nomatch h

/-- A fault of a child is one of its parent. -/
theorem Accounts.parent {fault : ElementFault} (hChild : view.Child v w)
    (h : view.Accounts displayRoom room w fault) :
    view.Accounts displayRoom (room + 1) v fault := by
  cases fault with
  | shape fault =>
      intro type hType
      obtain ⟨u, s, hBelow, hRest⟩ := h type hType
      exact ⟨u, s, hBelow.head hChild, hRest⟩
  | tooDeep => exact .child hChild h

/-- A fault of the shape that is noticed hides nothing. -/
theorem accounts_of_noticed {α : Type} {r : Except ShapeFault α}
    (h : Blames ShapeFault.Noticed r) :
    Blames (view.Accounts displayRoom room v) (r.mapError .shape) :=
  (h.mono fun _ hFault type hType => absurd hType (hFault type)).mapError

/-- Only a scalar has the outline of one. -/
theorem outline_eq_scalar {layer : Layer V} {s : Scalar} (h : layer.outline = .scalar s) :
    layer = .scalar s := by
  cases layer <;> simp_all [Layer.outline]

/-- A body that is neither a list nor a mapping is nothing, or the fault is noticed. -/
theorem bodyElement_noticed {name : Scalar} {layer : Layer V}
    (hList : ∀ items, layer ≠ .list items) (hMapping : ∀ entries, layer ≠ .mapping entries) :
    Blames ShapeFault.Noticed (Data.bodyElement name layer.outline) := by
  have hInvalid := Data.invalidBody_noticed (α := Element) name
  cases layer with
  | list items => exact absurd rfl (hList items)
  | mapping entries => exact absurd rfl (hMapping entries)
  | set members => exact hInvalid
  | pair first second => exact hInvalid
  | scalar s =>
      cases s with
      | null => exact (Data.scalarText_noticed name).bind fun _ => .ok _
      | _ => exact hInvalid

theorem mem_of_childrenOf? {entries : List (Scalar × V)} {value : V}
    (h : childrenOf? entries = some value) : (Data.childrenKey, value) ∈ entries := by
  obtain ⟨entry, hFind, rfl⟩ := Option.map_eq_some_iff.mp h
  exact Data.mem_of_find?_childrenKey hFind

/-- What stands for children and is no list is nothing, or the fault is noticed, or it is a solid
scalar. -/
theorem looseChildren_accounts {name : Scalar} {body value : V} {entries : List (Scalar × V)}
    (hElement : view.layer v = .mapping [(name, body)])
    (hBody : view.layer body = .mapping entries) (hEntry : (Data.childrenKey, value) ∈ entries) :
    Blames (view.Accounts displayRoom room v)
      ((Data.looseChildren (view.layer value).outline).mapError .shape) := by
  apply Blames.mapError
  intro fault hFault type hType
  obtain ⟨s, hScalar, hSolid, hName⟩ := Data.looseChildren_blames _ fault hFault type hType
  have hSpoilt : view.Spoilt s v := .intro hElement hBody hEntry (outline_eq_scalar hScalar)
  exact ⟨v, s, .refl, hSpoilt, hSolid, hName⟩

/-- What goes wrong with the children of a mapping goes wrong with the element. -/
theorem childrenIn_accounts {name : Scalar} {body : V} {entries : List (Scalar × V)}
    (hElement : view.layer v = .mapping [(name, body)]) (hBody : view.layer body = .mapping entries)
    (hInner : ∀ w, view.Child v w →
      Blames (view.Accounts displayRoom (room + 1) v) (view.element displayRoom room w)) :
    Blames (view.Accounts displayRoom (room + 1) v)
      (view.childrenIn (view.element displayRoom room) entries) := by
  unfold childrenIn
  cases hValue : childrenOf? entries with
  | none => exact .ok _
  | some value =>
      have hEntry := mem_of_childrenOf? hValue
      dsimp only [Option.map_some]
      cases hItems : (view.layer value).items? with
      | some items =>
          exact Blames.mapM fun w hMem => hInner w (.entered hElement hBody hEntry hItems hMem)
      | none => exact (looseChildren_accounts hElement hBody hEntry).bind fun _ => .ok _

/-- Where a value is no element, the fault is noticed, or hidden in the value, or it is that there
is no room. By induction on the room. -/
theorem element_accounts (room : Nat) (v : V) :
    Blames (view.Accounts displayRoom room v) (view.element displayRoom room v) := by
  induction room generalizing v with
  | zero => exact .error .elements
  | succ room ih =>
      rw [element]
      split
      · next name body hElement =>
          have hWritten : Blames (view.Accounts displayRoom (room + 1) v)
              ((Data.scalarText name).mapError .shape) :=
            accounts_of_noticed (Data.scalarText_noticed name)
          have hInner (w : V) (hChild : view.Child v w) :
              Blames (view.Accounts displayRoom (room + 1) v) (view.element displayRoom room w) :=
            (ih w).mono fun _ hFault => Accounts.parent hChild hFault
          split
          · next items hBody =>
              have hChildren : Blames (view.Accounts displayRoom (room + 1) v)
                  (items.mapM (view.element displayRoom room)) :=
                Blames.mapM fun w hMem => hInner w (.listed hElement hBody hMem)
              exact hWritten.bind fun _ => hChildren.bind fun _ => .ok _
          · next entries hBody =>
              exact (accounts_of_noticed (Data.attributesOf_noticed name _ [])).bind fun _ =>
                hWritten.bind fun _ => (childrenIn_accounts hElement hBody hInner).bind fun _ =>
                  .ok _
          · next hList hMapping => exact accounts_of_noticed (bodyElement_noticed hList hMapping)
      · exact notElement_accounts v

end View

namespace Data

section Agreement

variable {α β : Type}

/-- Where there is no room the one computation fails, or else it ends as the other one does. -/
def Agrees (r : Except ElementFault α) (s : Except ShapeFault α) : Prop :=
  r = .error .tooDeep ∨ r = s.mapError .shape

/-- Two computations that agree, each followed by one that agrees with the other. -/
theorem Agrees.bind {r : Except ElementFault α} {s : Except ShapeFault α}
    {f : α → Except ElementFault β} {g : α → Except ShapeFault β} (h : Agrees r s)
    (hNext : ∀ a, Agrees (f a) (g a)) : Agrees (r >>= f) (s >>= g) := by
  rcases h with rfl | rfl
  · exact .inl rfl
  · cases s with
    | ok a => exact hNext a
    | error fault => exact .inr rfl

theorem Agrees.mapM {items : List α} {f : α → Except ElementFault β} {g : α → Except ShapeFault β}
    (h : ∀ item ∈ items, Agrees (f item) (g item)) : Agrees (items.mapM f) (items.mapM g) := by
  induction items with
  | nil => exact .inr rfl
  | cons item rest ih =>
      rw [List.forall_mem_cons] at h
      rw [List.mapM_cons, List.mapM_cons]
      exact h.1.bind fun _ => (ih h.2).bind fun _ => .inr rfl

theorem Agrees.map {r : Except ElementFault α} {a : α} (h : Agrees r (.ok a)) (f : α → β) :
    Agrees (r >>= fun b => .ok (f b)) (.ok (f a)) :=
  h.bind (g := fun b => .ok (f b)) fun _ => .inr rfl

/-- All items of a list can be shown, and they are shown as a list is. -/
theorem mapM_display (items : List Data) :
    items.mapM (fun d => (.ok d.display : Except ShapeFault String)) = .ok (displays items) := by
  induction items with
  | nil => rfl
  | cons d rest ih =>
      rw [List.mapM_cons, ih]
      rfl

/-- An entry as messages show it. -/
def entryDisplay (entry : Scalar × Data) : String :=
  entry.1.display ++ ": " ++ entry.2.display

theorem mapM_entryDisplay (entries : List (Scalar × Data)) :
    entries.mapM (fun entry => (.ok (entryDisplay entry) : Except ShapeFault String)) =
      .ok (entryDisplays entries) := by
  induction entries with
  | nil => rfl
  | cons entry rest ih =>
      rw [List.mapM_cons, ih]
      rfl

/-- The items of a list are read one after the other, up to the first that fails. -/
theorem mapM_toElement (items : List Data) : items.mapM toElement = toElements items := by
  induction items with
  | nil => rfl
  | cons d rest ih =>
      rw [List.mapM_cons, ih]
      rfl

/-- Data of JSON is shown as it is, as far as there is room. By induction on the room. -/
theorem shown_agrees {d : Data} (h : IsJson d) (room : Nat) (outer : List Data) :
    Agrees (view.shown room outer d) (.ok d.display) := by
  induction room generalizing d outer with
  | zero => exact .inl rfl
  | succ room ih =>
      have hFresh : outer.any (view.same d) = false := by simp [view]
      rw [View.shown, hFresh, if_neg Bool.false_ne_true]
      cases h with
      | null | bool | decimal | text => exact .inr rfl
      | integer hWritable => exact .inr (if_pos hWritable)
      | @list items hItems =>
          have hParts := Agrees.mapM fun item hMem => ih (hItems item hMem) (.list items :: outer)
          rw [mapM_display] at hParts
          exact hParts.map fun parts => "[" ++ spread parts ++ "]"
      | @object fields hKeys hFields =>
          have hEntry (entry : Scalar × Data)
              (hMem : entry ∈ fields.map fun field => (Scalar.text field.1, field.2)) :
              Agrees (do
                return (← scalarShown entry.1) ++ ": " ++
                  (← view.shown room (.object fields :: outer) entry.2))
                (.ok (entryDisplay entry)) := by
            obtain ⟨field, hField, rfl⟩ := List.mem_map.mp hMem
            exact (ih (hFields field hField) _).map fun text =>
              (Scalar.text field.1).display ++ ": " ++ text
          have hParts := Agrees.mapM hEntry
          rw [mapM_entryDisplay] at hParts
          exact hParts.map fun parts => "\x7b" ++ spread parts ++ "\x7d"

/-- Messages about an entry say no more of its value than its layer does. -/
theorem attributeText_outline (key name : Scalar) (d : Data) :
    attributeText key name (view.layer d).outline = attributeText key name d := by
  cases d <;> rfl

theorem outline_eq_null_iff {d : Data} : (view.layer d).outline = .null ↔ d = .null := by
  cases d <;> simp [view, Layer.outline]

/-- The attributes of an element depend on no more than the outlines of the values in its body. -/
theorem attributesOf_outline (name : Scalar) (entries : List (Scalar × Data))
    (found : List (String × String)) :
    attributesOf name found (entries.map fun (key, v) => (key, (view.layer v).outline)) =
      attributesOf name found entries := by
  induction entries generalizing found with
  | nil => rfl
  | cons entry rest ih =>
      obtain ⟨key, value⟩ := entry
      rw [List.map_cons]
      by_cases hKey : key = childrenKey
      · subst hKey
        rw [attributesOf_cons_children, attributesOf_cons_children, ih]
      · by_cases hNull : value = .null
        · rw [hNull]
          change attributesOf name found ((key, .null) :: _) = _
          rw [attributesOf_cons_null, attributesOf_cons_null, ih]
        · have hShown : (view.layer value).outline ≠ .null := mt outline_eq_null_iff.mp hNull
          rw [attributesOf_cons hKey hShown, attributesOf_cons hKey hNull, attributeText_outline]
          simp only [ih]

/-- The attributes that data has from outside are those that it describes. -/
theorem attributesOf_agrees (name : Scalar) (entries : List (Scalar × Data)) :
    Agrees ((attributesOf name []
      (entries.map fun (key, v) => (key, (view.layer v).outline))).mapError .shape)
      (attributesOf name [] entries) :=
  .inr (congrArg _ (attributesOf_outline name entries []))

/-- The children of a body that is no mapping depend on no more than its outline. -/
theorem looseChildren_outline {d : Data} (h : ∀ first second, d ≠ .pair first second) :
    looseChildren (view.layer d).outline = looseChildren d := by
  cases d with
  | scalar s => rfl
  | list items => rfl
  | set members => rfl
  | pair first second => exact absurd rfl (h first second)
  | mapping entries => cases entries <;> rfl

/-- Data of JSON that is no element is shown in the fault as far as there is room. -/
theorem notElement_agrees {α : Type} {d : Data} (h : IsJson d) (room : Nat) :
    Agrees (view.notElement room d : Except ElementFault α) (notElement d) := by
  rw [notElement, if_pos h.isWritable]
  exact (shown_agrees h room []).bind (g := fun text => .error (.notElement text)) fun _ => .inr rfl

/-- The values in a mapping of JSON are JSON, too. -/
theorem IsJson.entries {entries : List (Scalar × Data)} (h : IsJson (.mapping entries)) :
    ∀ entry ∈ entries, IsJson entry.2 := by
  generalize hData : Data.mapping entries = d at h
  cases h with
  | @object fields _ hFields =>
      rw [Data.mapping.inj hData]
      exact List.forall_mem_map.mpr hFields
  | null | bool | integer | decimal | text | list => cases hData

/-- The children of a body of JSON, with the room that is left for them. -/
theorem childrenIn_agrees {inner : Data → Except ElementFault Element}
    {entries : List (Scalar × Data)} (h : ∀ entry ∈ entries, IsJson entry.2)
    (hInner : ∀ d, IsJson d → Agrees (inner d) d.toElement) :
    Agrees (view.childrenIn inner entries) (entryChildren entries) := by
  unfold View.childrenIn
  rw [entryChildren_eq, View.childrenOf?]
  cases hFind : entries.find? (·.1 == childrenKey) with
  | none => exact .inr rfl
  | some entry =>
      have hValue := h _ (mem_of_find?_childrenKey hFind)
      dsimp only [Option.map_some]
      generalize entry.2 = value at hValue
      cases hValue with
      | @list items hJson =>
          have hAll := Agrees.mapM fun item hMem => hInner item (hJson item hMem)
          rwa [mapM_toElement] at hAll
      | null | bool | integer | decimal | text =>
          exact Agrees.bind (.inr rfl) fun _ => .inr rfl
      | @object fields _ _ =>
          have hSame := looseChildren_outline (d := .object fields) fun _ _ h => nomatch h
          exact Agrees.bind (.inr (congrArg _ hSame)) fun _ => .inr rfl

/-- Data of JSON comes to the element that it describes or to the same fault, as far as there is
room. By induction on the room. -/
theorem element_agrees {displayRoom : Nat → Nat} {d : Data} (h : IsJson d) (room : Nat) :
    Agrees (view.element displayRoom room d) d.toElement := by
  induction room generalizing d with
  | zero => exact .inl rfl
  | succ room ih =>
      have hNot (hElement : d.toElement = notElement d) :
          Agrees (view.notElement (displayRoom (room + 1)) d) d.toElement := by
        rw [hElement]
        exact notElement_agrees h _
      rw [View.element]
      match hData : d with
      | .scalar _ | .list _ | .set _ | .pair .. | .mapping [] | .mapping (_ :: _ :: _) =>
          exact hNot (by simp [toElement])
      | .mapping [(name, body)] =>
          have hBody : IsJson body := h.entries (name, body) (List.mem_singleton_self _)
          have hWritten : Agrees ((scalarText name).mapError .shape) (scalarText name) := .inr rfl
          rw [toElement]
          cases hBody with
          | null | bool | integer | decimal | text =>
              exact .inr rfl
          | @list items hItems =>
              have hChildren := Agrees.mapM fun item hMem => ih (hItems item hMem)
              rw [mapM_toElement] at hChildren
              rw [bodyElement]
              exact hWritten.bind fun _ => hChildren.bind fun _ => .inr rfl
          | @object fields hKeys hFields =>
              have hEntries := (IsJson.object hKeys hFields).entries
              rw [object, bodyElement]
              exact (attributesOf_agrees name _).bind fun _ => hWritten.bind fun _ =>
                (childrenIn_agrees hEntries fun d hJson => ih hJson).bind fun _ => .inr rfl

end Agreement

section Room

variable {d other : Data}

/-- A part of finite data is less deep than the whole. -/
theorem depth_lt_of_inside (h : view.Inside d other) : other.depth < d.depth := by
  cases h with
  | listed hLayer hMem =>
      cases d <;> cases hLayer
      exact depth_lt_of_mem_list hMem
  | entered hLayer hMem =>
      cases d <;> cases hLayer
      exact depth_lt_of_mem_mapping hMem
  | first hLayer =>
      cases d <;> cases hLayer
      rw [depth]
      omega
  | second hLayer =>
      cases d <;> cases hLayer
      rw [depth]
      omega

/-- One can go into finite data only as often as it is deep. -/
theorem le_depth_of_nests {outer : List Data} {count : Nat} (h : view.Nests outer count d) :
    count ≤ d.depth := by
  induction h with
  | here => exact Nat.zero_le _
  | inside _ hInside _ ih =>
      have hLess := depth_lt_of_inside hInside
      omega

/-- The children of an element are inside of its body, and this is inside of the element. -/
theorem depth_lt_of_child (h : view.Child d other) : other.depth < d.depth := by
  have hUnder {name : Scalar} {body : Data} (hElement : view.layer d = .mapping [(name, body)]) :
      body.depth < d.depth :=
    depth_lt_of_inside (.entered hElement (List.mem_singleton_self _))
  cases h with
  | listed hElement hBody hMem =>
      exact Nat.lt_trans (depth_lt_of_inside (.listed hBody hMem)) (hUnder hElement)
  | entered hElement hBody hEntry hItems hMem =>
      have hBelow := Nat.lt_trans (depth_lt_of_inside (.entered hBody hEntry)) (hUnder hElement)
      exact Nat.lt_trans (depth_lt_of_inside (View.inside_of_items? hItems hMem)) hBelow

variable {displayRoom : Nat → Nat} {room : Nat}

/-- Nothing is inside of a mapping without entries. -/
theorem not_child_empty : ¬ view.Child (.mapping []) other := by
  intro h
  exact absurd (depth_lt_of_child h) (Nat.not_lt_zero _)

/-- Where there is no room for a mapping without entries, there is none for anything. -/
theorem exceeds_of_exceeds_empty {V : Type} {view' : View V} {v : V}
    (h : view.Exceeds displayRoom room (.mapping [])) : view'.Exceeds displayRoom room v := by
  cases h with
  | elements => exact .elements
  | @display room _ hNests =>
      have hNone : displayRoom (room + 1) = 0 := Nat.le_zero.mp (le_depth_of_nests hNests)
      refine .display ?_
      rw [hNone]
      exact .here
  | child hChild _ => exact absurd hChild not_child_empty

/-- The empty mapping hides nothing, for it has no child and no body. -/
theorem not_hides_empty (type : String) : ¬ view.Hides type (.mapping []) := by
  rintro ⟨w, s, hBelow, hSpoilt, -⟩
  rcases Relation.ReflTransGen.cases_head hBelow with rfl | ⟨_, hChild, -⟩
  · cases hSpoilt with
    | intro hElement _ _ _ => cases hElement
  · exact not_child_empty hChild

/-- There is no room only for data that is at least as deep as it. -/
theorem not_exceeds_of_depth_lt (hRoom : d.depth < room)
    (hDisplay : ∀ left, d.depth < displayRoom left) : ¬ view.Exceeds displayRoom room d := by
  intro h
  induction h with
  | elements => exact absurd hRoom (Nat.not_lt_zero _)
  | display hNests => exact absurd (le_depth_of_nests hNests) (Nat.not_le.mpr (hDisplay _))
  | child hChild _ ih =>
      have hLess := depth_lt_of_child hChild
      exact ih (by omega) fun left => Nat.lt_trans hLess (hDisplay left)

/-- Where there is room, data of JSON is read as what it describes. -/
theorem element_eq_toElement (h : IsJson d) (hRoom : d.depth < room)
    (hDisplay : ∀ left, d.depth < displayRoom left) :
    view.element displayRoom room d = d.toElement.mapError .shape := by
  apply (element_agrees h room).resolve_left
  intro hFault
  exact not_exceeds_of_depth_lt hRoom hDisplay (View.element_accounts room d .tooDeep hFault)

end Room

end Data

end Bounty
