import Bounty.Proofs.Lookups
import Bounty.Proofs.Parser.Shown

/-! Rules that are made from attributes alone. The kinds of these are gone through here, once for
what a single reading makes of them and once for what two readings do; all that is proved of whole
documents only tells them from the kinds whose elements have parts. -/
namespace Bounty

/-- A kind of modifiers that have no parts. -/
def ModifierKind.IsAtomic (kind : ModifierKind) : Prop :=
  kind ≠ .ifThenElse ∧ kind ≠ .randomChoice

/-- A kind of requirements that have no parts. -/
def RequirementKind.IsAtomic (kind : RequirementKind) : Prop := kind ≠ .conjunction

/-- Two kinds of modifiers have parts, and these are the ones to be told apart. -/
theorem ModifierKind.eq_or_isAtomic (kind : ModifierKind) :
    kind = .ifThenElse ∨ kind = .randomChoice ∨ kind.IsAtomic := by
  cases kind <;> simp [IsAtomic]

/-- Among requirements it is the conjunction alone. -/
theorem RequirementKind.eq_or_isAtomic (kind : RequirementKind) :
    kind = .conjunction ∨ kind.IsAtomic := Decidable.em _

/-- What has no parts does not look at its children. -/
theorem ModifierKind.IsAtomic.use_eq {kind : ModifierKind} (h : kind.IsAtomic) (child : String) :
    kind.use child = .unread := by
  cases kind with
  | ifThenElse => exact absurd rfl h.1
  | randomChoice => exact absurd rfl h.2
  | _ => rfl

theorem RequirementKind.IsAtomic.use_eq {kind : RequirementKind} (h : kind.IsAtomic) :
    kind.use = .unread := by
  cases kind with
  | conjunction => exact absurd rfl h
  | _ => rfl

namespace Parser

section Single

variable {p : Parser} {here : Path} {e : Element} {halt : Stop → Prop}

/-- A check has the demand that it is made for, whatever its verdict and its reason are. -/
theorem check_meets (h : p.Admits .requirement here e halt)
    (hOk : p.Asks .requirement e "ok" .boolean) (demand : Demand) :
    (check demand here e).Meets
      (fun r steps => ∃ c, r = .check c ∧ c.demand = demand ∧ steps = []) halt :=
  (booleanOr_gives h hOk _).bind_meets (Attribute.steps_booleanOr "ok" here e _) fun _ _ =>
    Reading.meets_pure ⟨_, rfl, rfl, rfl⟩

/-- A requirement without parts is a valid check of its kind, and takes no steps. -/
theorem requirementOf_meets {kind : RequirementKind} (h : p.Admits .requirement here e halt)
    (hKind : p.requirementTable.lookup e.name = some kind) (hAtomic : kind.IsAtomic)
    (child : Path → Element → Reading Requirement) :
    (requirementOf child here e kind).Meets
      (fun r steps => ∃ c, r = .check c ∧ c.demand.kind = kind ∧ c.demand.Valid ∧ steps = [])
      halt := by
  have hCheck {demand : Demand} (hDemand : demand.kind = kind) (hValid : demand.Valid)
      (hOk : ("ok", .boolean) ∈ kind.attributes) :
      (check demand here e).Meets (fun r steps =>
        ∃ c, r = .check c ∧ c.demand.kind = kind ∧ c.demand.Valid ∧ steps = []) halt := by
    refine (check_meets h (asks_requirement hKind hOk) demand).mono fun r steps hMade => ?_
    obtain ⟨c, rfl, rfl, rfl⟩ := hMade
    exact ⟨c, rfl, hDemand, hValid, rfl⟩
  have hInteger (key : String) (hAsks : (key, .integer) ∈ kind.attributes) :
      (Attribute.integer key here e).Ensures (Numeral.isWritable · = true) halt :=
    (integer_gives h (asks_requirement hKind hAsks) rfl fun _ => rfl).mono
      fun _ => isWritable_of_readsAs
  have hText (key : String) (hAsks : (key, .text) ∈ kind.attributes) :
      (Attribute.text key here e).Ensures (· ≠ "") halt :=
    (text_gives h (asks_requirement hKind hAsks) fun _ => rfl).mono fun _ hRaw => hRaw.2
  cases kind with
  | conjunction => exact absurd rfl hAtomic
  | always | never => exact hCheck rfl trivial (by simp [RequirementKind.attributes])
  | friends =>
      refine (hInteger "required" (by simp [RequirementKind.attributes])).bind_meets
        (Attribute.steps_integer ..) fun required hRequired => ?_
      exact hCheck rfl hRequired (by simp [RequirementKind.attributes])
  | level =>
      refine (hInteger "level" (by simp [RequirementKind.attributes])).bind_meets
        (Attribute.steps_integer ..) fun required hRequired => ?_
      exact hCheck rfl hRequired (by simp [RequirementKind.attributes])
  | item =>
      refine (hText "ikey" (by simp [RequirementKind.attributes])).bind_meets
        (Attribute.steps_text ..) fun itemKey hKey => ?_
      have hAsks : p.Asks .requirement e "number" .optionalInteger :=
        asks_requirement hKind (by simp [RequirementKind.attributes])
      refine (integerOr_gives h hAsks Numeral.isWritable_one).bind_meets
        (Attribute.steps_integerOr ..) fun number hNumber => ?_
      exact hCheck rfl ⟨hKey, hNumber⟩ (by simp [RequirementKind.attributes])
  | stat =>
      refine (hText "type" (by simp [RequirementKind.attributes])).bind_meets
        (Attribute.steps_text ..) fun statType hType => ?_
      refine (hText "ikey" (by simp [RequirementKind.attributes])).bind_meets
        (Attribute.steps_text ..) fun itemKey hKey => ?_
      refine (hInteger "value" (by simp [RequirementKind.attributes])).bind_meets
        (Attribute.steps_integer ..) fun value hValue => ?_
      exact hCheck rfl ⟨hType, hKey, hValue⟩ (by simp [RequirementKind.attributes])

/-- A modifier without parts is a valid one of its kind, and takes no steps. -/
theorem modifierOf_meets {kind : ModifierKind} (h : p.Admits .modifier here e halt)
    (hKind : p.modifierTable.lookup e.name = some kind) (hAtomic : kind.IsAtomic) (depth : Nat)
    (modifiers : Path → Element → Reading (List Modifier))
    (choice : Path → Element → Reading Choice) :
    (p.modifierOf depth modifiers choice here e kind).Meets
      (fun m steps => m.kind = kind ∧ m.Valid ∧ steps = []) halt := by
  have hInteger (key : String) (hAsks : (key, .integer) ∈ kind.attributes) :
      (Attribute.integer key here e).Ensures (Numeral.isWritable · = true) halt :=
    (integer_gives h (asks_modifier hKind hAsks) rfl fun _ => rfl).mono
      fun _ => isWritable_of_readsAs
  have hText (key : String) (hAsks : (key, .text) ∈ kind.attributes) :
      (Attribute.text key here e).Ensures (· ≠ "") halt :=
    (text_gives h (asks_modifier hKind hAsks) fun _ => rfl).mono fun _ hRaw => hRaw.2
  have hRange (hMin : ("min", .integer) ∈ kind.attributes)
      (hMax : ("max", .integer) ∈ kind.attributes) :=
    range_gives h (asks_modifier hKind hMin) (asks_modifier hKind hMax)
  cases kind with
  | ifThenElse => exact absurd rfl hAtomic.1
  | randomChoice => exact absurd rfl hAtomic.2
  | removeItems | nothing => exact Reading.meets_pure ⟨rfl, by simp [Modifier.Valid], rfl⟩
  | grantItem =>
      refine (hText "ikey" (by simp [ModifierKind.attributes])).bind_meets
        (Attribute.steps_text ..) fun itemKey hKey => ?_
      exact Reading.meets_pure ⟨rfl, by simpa [Modifier.Valid] using hKey, rfl⟩
  | grantXp =>
      refine (hInteger "value" (by simp [ModifierKind.attributes])).bind_meets
        (Attribute.steps_integer ..) fun value hValue => ?_
      exact Reading.meets_pure ⟨rfl, by simpa [Modifier.Valid] using hValue, rfl⟩
  | grantXpRange =>
      refine (hRange (by simp [ModifierKind.attributes]) (by simp [ModifierKind.attributes])
        ).bind_meets (Attribute.steps_range ..) fun bounds hBounds => ?_
      exact Reading.meets_pure ⟨rfl, by simpa [Modifier.Valid] using hBounds, rfl⟩
  | grantStat =>
      refine (hText "type" (by simp [ModifierKind.attributes])).bind_meets
        (Attribute.steps_text ..) fun statType hType => ?_
      refine (hText "ikey" (by simp [ModifierKind.attributes])).bind_meets
        (Attribute.steps_text ..) fun itemKey hKey => ?_
      refine (hInteger "value" (by simp [ModifierKind.attributes])).bind_meets
        (Attribute.steps_integer ..) fun value hValue => ?_
      exact Reading.meets_pure ⟨rfl, by simpa [Modifier.Valid] using ⟨hType, hKey, hValue⟩, rfl⟩
  | grantStatRange =>
      refine (hText "type" (by simp [ModifierKind.attributes])).bind_meets
        (Attribute.steps_text ..) fun statType hType => ?_
      refine (hText "ikey" (by simp [ModifierKind.attributes])).bind_meets
        (Attribute.steps_text ..) fun itemKey hKey => ?_
      refine (hRange (by simp [ModifierKind.attributes]) (by simp [ModifierKind.attributes])
        ).bind_meets (Attribute.steps_range ..) fun bounds hBounds => ?_
      exact Reading.meets_pure ⟨rfl, by simpa [Modifier.Valid] using ⟨hType, hKey, hBounds⟩, rfl⟩

end Single

end Parser

/-- The attributes of two elements are read in a relation. -/
structure Attribute.Related (Rel : ∀ α : Type, Reading α → Reading α → Prop) (here : Path)
    (e : Element) (here' : Path) (e' : Element) : Prop where
  text (key : String) : Rel String (text key here e) (text key here' e')
  integer (key : String) : Rel Int (integer key here e) (integer key here' e')
  positive (key : String) : Rel Int (positive key here e) (positive key here' e')
  integerOr (default : Int) (key : String) :
    Rel Int (integerOr default key here e) (integerOr default key here' e')
  booleanOr (default : Bool) (key : String) :
    Rel Bool (booleanOr default key here e) (booleanOr default key here' e')
  range : Rel (Int × Int) (range here e) (range here' e')
  textOr (default : String) (key : String) : textOr default key e = textOr default key e'

/-- Two elements with the same name and the same text under every key. -/
structure Element.SameTag (e e' : Element) : Prop where
  name : e'.name = e.name
  attribute? (key : String) : e'.attribute? key = e.attribute? key

namespace Attribute

/-- A reader of attributes looks at nothing but the name of an element and the texts under keys. -/
theorem related_of_sameTag {e e' : Element} (h : e.SameTag e') (here : Path) :
    Related (fun _ r s => r = s) here e here e' := by
  have hText (key : String) : text key here e = text key here e' := by
    simp only [text, h.name, h.attribute?]
  have hInteger (key : String) : integer key here e = integer key here e' := by
    simp only [integer, hText, h.name]
  exact {
    text := hText
    integer := hInteger
    positive := fun key => by simp only [positive, hInteger, h.name]
    integerOr := fun default key => by simp only [integerOr, isBlank, h.attribute?, hInteger]
    booleanOr := fun default key => by
      unfold booleanOr isBlank
      rw [h.attribute?, h.name]
    range := by simp only [range, hInteger, h.name]
    textOr := fun default key => by simp only [textOr, h.attribute?] }

variable {Rel : ∀ α : Type, Reading α → Reading α → Prop} {here here' : Path} {e e' : Element}

namespace Related

open Parser

variable (h : Related Rel here e here' e') (hRel : Reading.Congruence Rel)

include h hRel

/-- A verdict is read in the relation, and the reason is the same text. -/
theorem check (demand : Demand) :
    Rel Requirement (Parser.check demand here e) (Parser.check demand here' e') := by
  refine hRel.bind (h.booleanOr _ "ok") fun ok => ?_
  rw [h.textOr]
  exact hRel.pure _

/-- Requirements without parts are related, for they are made from attributes that are. -/
theorem requirementOf {kind : RequirementKind} (hAtomic : kind.IsAtomic)
    (child child' : Path → Element → Reading Requirement) :
    Rel Requirement (Parser.requirementOf child here e kind)
      (Parser.requirementOf child' here' e' kind) := by
  cases kind with
  | conjunction => exact absurd rfl hAtomic
  | always => exact h.check hRel .always
  | never => exact h.check hRel .never
  | friends => exact hRel.bind (h.integer "required") fun n => h.check hRel (.friends n)
  | level => exact hRel.bind (h.integer "level") fun n => h.check hRel (.level n)
  | item =>
      refine hRel.bind (h.text "ikey") fun itemKey => ?_
      exact hRel.bind (h.integerOr 1 "number") fun n => h.check hRel (.item itemKey n)
  | stat =>
      refine hRel.bind (h.text "type") fun statType => ?_
      refine hRel.bind (h.text "ikey") fun itemKey => ?_
      exact hRel.bind (h.integer "value") fun n => h.check hRel (.stat statType itemKey n)

/-- Modifiers without parts are related, for they are made from attributes that are. -/
theorem modifierOf {kind : ModifierKind} (hAtomic : kind.IsAtomic) (p q : Parser)
    (depth depth' : Nat) (modifiers modifiers' : Path → Element → Reading (List Modifier))
    (choice choice' : Path → Element → Reading Choice) :
    Rel Modifier (p.modifierOf depth modifiers choice here e kind)
      (q.modifierOf depth' modifiers' choice' here' e' kind) := by
  cases kind with
  | ifThenElse => exact absurd rfl hAtomic.1
  | randomChoice => exact absurd rfl hAtomic.2
  | removeItems => exact hRel.pure _
  | nothing => exact hRel.pure _
  | grantItem => exact hRel.bind (h.text "ikey") fun _ => hRel.pure _
  | grantXp => exact hRel.bind (h.integer "value") fun _ => hRel.pure _
  | grantXpRange => exact hRel.bind h.range fun _ => hRel.pure _
  | grantStat =>
      refine hRel.bind (h.text "type") fun statType => ?_
      refine hRel.bind (h.text "ikey") fun itemKey => ?_
      exact hRel.bind (h.integer "value") fun _ => hRel.pure _
  | grantStatRange =>
      refine hRel.bind (h.text "type") fun statType => ?_
      refine hRel.bind (h.text "ikey") fun itemKey => ?_
      exact hRel.bind h.range fun _ => hRel.pure _

end Related

end Attribute

end Bounty
