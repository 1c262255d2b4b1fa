import Bounty.Proofs.Numeral
import Bounty.Proofs.Parser.Branches
import Bounty.Proofs.Validity

/-! What a fault says of its element. Each cause stands for a fact about the element and the role in
which it is read, and the readers of attributes stop only with causes that are so. -/
namespace Bounty

/-- The forms in which attributes are read. -/
inductive Attribute.Form where
  | text | integer | optionalInteger | positive | boolean
deriving DecidableEq, Repr

namespace Attribute.Form

/-- Whether an attribute of a form has to be there. -/
def isRequired : Form → Bool
  | .text | .integer | .positive => true
  | .optionalInteger | .boolean => false

def isNumber : Form → Bool
  | .integer | .optionalInteger | .positive => true
  | .text | .boolean => false

/-- What a form takes a text for, as far as one that is not empty can be refused. -/
def Accepts : Form → String → Prop
  | .text, _ => True
  | .integer, raw | .optionalInteger, raw => ∃ digits, Numeral.HasDigits raw digits
  | .positive, raw => ∃ n, Numeral.read raw = .ok n ∧ 0 < n
  | .boolean, raw => (truth? raw).isSome = true

/-- What is no numeral is no number in any form. -/
theorem not_accepts {form : Form} (hNumber : form.isNumber = true) {raw : String}
    (hRaw : ∀ digits, ¬ Numeral.HasDigits raw digits) : ¬ form.Accepts raw := by
  cases form with
  | text | boolean => cases hNumber
  | integer | optionalInteger => exact fun ⟨digits, hDigits⟩ => hRaw digits hDigits
  | positive =>
      rintro ⟨n, hRead, -⟩
      rw [Numeral.read_eq_malformed_iff.mpr hRaw] at hRead
      cases hRead

end Attribute.Form

/-- The attributes that decide how an element of a kind is read. -/
def ModifierKind.attributes : ModifierKind → List (String × Attribute.Form)
  | .grantItem => [("ikey", .text)]
  | .grantXp => [("value", .integer)]
  | .grantXpRange => [("min", .integer), ("max", .integer)]
  | .grantStat => [("type", .text), ("ikey", .text), ("value", .integer)]
  | .grantStatRange => [("type", .text), ("ikey", .text), ("min", .integer), ("max", .integer)]
  | .removeItems | .nothing | .ifThenElse | .randomChoice => []

def RequirementKind.attributes : RequirementKind → List (String × Attribute.Form)
  | .always | .never => [("ok", .boolean)]
  | .friends => [("required", .integer), ("ok", .boolean)]
  | .level => [("level", .integer), ("ok", .boolean)]
  | .item => [("ikey", .text), ("number", .optionalInteger), ("ok", .boolean)]
  | .stat => [("type", .text), ("ikey", .text), ("value", .integer), ("ok", .boolean)]
  | .conjunction => []

namespace Parser

/-- The attributes that are asked of an element of a name in its role. -/
def attributes (p : Parser) : Role → String → List (String × Attribute.Form)
  | .modifier, name => ((p.modifierTable.lookup name).map (·.attributes)).getD []
  | .requirement, name => ((p.requirementTable.lookup name).map (·.attributes)).getD []
  | .choice, _ | .weight, _ => [("weight", .positive)]
  | .modifiers, _ | .requirements, _ => []

/-- An element of a role is asked for an attribute in a form. -/
def Asks (p : Parser) (role : Role) (v : Element) (key : String) (form : Attribute.Form) : Prop :=
  (key, form) ∈ p.attributes role v.name

/-- An attribute that is there reads as an integer. -/
def ReadsAs (v : Element) (key : String) (n : Int) : Prop :=
  ∃ raw, v.attribute? key = some raw ∧ Numeral.read raw = .ok n

/-- What is told as a cause is so of an element that is read in a role. -/
def Shows (p : Parser) (role : Role) (v : Element) : Cause → Prop
  | .unknownModifier name =>
    role = .modifier ∧ name = v.name ∧ p.modifierTable.lookup v.name = none
  | .unknownRequirement name =>
    role = .requirement ∧ name = v.name ∧ p.requirementTable.lookup v.name = none
  | .missingAttribute key =>
    ∃ form, p.Asks role v key form ∧ form.isRequired = true ∧
      (v.attribute? key = none ∨ v.attribute? key = some "")
  | .invalidNumber key raw why =>
    ∃ form text, p.Asks role v key form ∧ form.isNumber = true ∧ v.attribute? key = some text ∧
      text ≠ "" ∧ ¬ form.Accepts text ∧
      (raw = text ∧ why = "not an integer" ∨
        ∃ n, form = .positive ∧ Numeral.read text = .ok n ∧ n ≤ 0 ∧ raw = Numeral.write n ∧
          why = "not a positive integer")
  | .invalidBoolean key raw =>
    p.Asks role v key .boolean ∧ v.attribute? key = some raw ∧ raw ≠ "" ∧
      ¬ Attribute.Form.boolean.Accepts raw
  | .invalidRange min max =>
    p.Asks role v "min" .integer ∧ p.Asks role v "max" .integer ∧
      ReadsAs v "min" min ∧ ReadsAs v "max" max ∧ min > max
  | .missingBranch name =>
    role = .modifier ∧ p.modifierTable.lookup v.name = some .ifThenElse ∧ name ∈ branchNames ∧
      ∀ c ∈ v.children, c.name ≠ name
  | .duplicateBranch name =>
    role = .modifier ∧ p.modifierTable.lookup v.name = some .ifThenElse ∧ name ∈ branchNames ∧
      2 ≤ (named name v.children).length
  | .tooDeep limit => limit = p.maxDepth
  | .strayChild _ _ | .unreadable _ => False

/-- A cause is found in an element at a path. A child that has no meaning in its parent is not
read, so it has no role of its own; all other causes are those of elements that are read. -/
inductive Located (p : Parser) (start : Role) (path : Path) (document : Element) :
    Cause → Path → Element → Prop where
  | shown {role : Role} {here : Path} {v : Element} {cause : Cause} :
    p.Reached start path document role here v → p.Shows role v cause →
      Located p start path document cause here v
  | stray {role : Role} {here : Path} {v child : Element} :
    p.strict = true → p.Reached start path document role here v → child ∈ v.children →
      p.use role v.name child.name = .stray →
        Located p start path document (.strayChild child.name v.name) (here ++ [child.name]) child

/-- The element in which a cause is found is the last one on its path. -/
theorem Located.leads {p : Parser} {start : Role} {path here : Path} {document v : Element}
    {cause : Cause} (h : p.Located start path document cause here v) :
    ∃ names, here = path ++ names ∧ document.Leads names v := by
  cases h with
  | shown hReached _ => exact hReached.leads
  | stray _ hReached hChild _ =>
      obtain ⟨names, rfl, hLeads⟩ := hReached.leads
      exact ⟨_, List.append_assoc .., hLeads.child hChild⟩

/-- A place is told by a path that ends with the name of its element. -/
theorem Located.getLast? {p : Parser} {start : Role} {path here : Path} {document v : Element}
    {cause : Cause} (h : p.Located start path document cause here v) :
    here.getLast? = some v.name := by
  cases h with
  | shown hReached _ => exact hReached.getLast?
  | stray _ _ _ _ => exact List.getLast?_concat

/-- A numeral that is asked for has more digits than are converted. -/
structure TooLong (p : Parser) (start : Role) (path : Path) (document : Element) (length : Nat) :
    Prop where
  exceeds : Numeral.digitLimit < length
  found : ∃ role here v key form raw digits, p.Reached start path document role here v ∧
    p.Asks role v key form ∧ form.isNumber = true ∧ v.attribute? key = some raw ∧
    Numeral.HasDigits raw digits ∧ digits.length = length

end Parser

/-- How many names the path of a fault has, where the depth is limited. An element is found too deep
one level below the limit, and so may be a child that has no meaning, which is not entered. -/
def Cause.FitsDepth (limit length : Nat) : Cause → Prop
  | .tooDeep _ => length = limit + 1
  | .strayChild _ _ => length ≤ limit + 1
  | _ => length ≤ limit

namespace Parser

/-- What a stop says is so. -/
def Accounts (p : Parser) (start : Role) (path : Path) (document : Element) : Stop → Prop
  | .fault f =>
    (∃ v, p.Located start path document f.cause f.place.path v ∧ v.name = f.place.element) ∧
      f.cause.FitsDepth p.maxDepth f.place.path.length
  | .tooManyDigits length => p.TooLong start path document length

variable {p : Parser} {start role : Role} {path here : Path} {document e : Element}

/-- A modifier is asked for the attributes of its kind. -/
theorem asks_modifier {kind : ModifierKind} (hKind : p.modifierTable.lookup e.name = some kind)
    {key : String} {form : Attribute.Form} (h : (key, form) ∈ kind.attributes) :
    p.Asks .modifier e key form := by
  simpa [Asks, attributes, hKind] using h

/-- A requirement is asked for the attributes of its kind. -/
theorem asks_requirement {kind : RequirementKind}
    (hKind : p.requirementTable.lookup e.name = some kind) {key : String}
    {form : Attribute.Form} (h : (key, form) ∈ kind.attributes) :
    p.Asks .requirement e key form := by
  simpa [Asks, attributes, hKind] using h

/-- What has been read from a numeral has no more digits than can be written. -/
theorem isWritable_of_readsAs {key : String} {n : Int} (h : ReadsAs e key n) :
    Numeral.isWritable n = true := by
  obtain ⟨raw, -, hRead⟩ := h
  exact Numeral.isWritable_of_read hRead

/-- The stops that an element brings about by itself, whatever becomes of its children. -/
structure Admits (p : Parser) (role : Role) (here : Path) (e : Element) (halt : Stop → Prop) :
    Prop where
  shown {cause : Cause} : p.Shows role e cause → (∀ limit, cause ≠ .tooDeep limit) →
    halt (.fault ⟨cause, ⟨e.name, here⟩⟩)
  tooLong {key raw : String} {form : Attribute.Form} {digits : List Char} :
    p.Asks role e key form → form.isNumber = true → e.attribute? key = some raw →
      Numeral.HasDigits raw digits → Numeral.digitLimit < digits.length →
        halt (.tooManyDigits digits.length)

/-- Where every stop is allowed there is nothing to show. -/
theorem admits_true (p : Parser) (role : Role) (here : Path) (e : Element) :
    p.Admits role here e fun _ => True := ⟨fun _ _ => trivial, fun _ _ _ _ _ => trivial⟩

/-- A fault that its element shows is told rightly, if its path is not too long. -/
theorem accounts_of_shows (hReached : p.Reached start path document role here e) {cause : Cause}
    (hShows : p.Shows role e cause) (hFits : cause.FitsDepth p.maxDepth here.length) :
    p.Accounts start path document (.fault ⟨cause, ⟨e.name, here⟩⟩) :=
  ⟨⟨e, .shown hReached hShows, rfl⟩, hFits⟩

/-- What an element brings about by itself is told of it rightly. -/
theorem admits_accounts (hReached : p.Reached start path document role here e)
    (hLength : here.length ≤ p.maxDepth) :
    p.Admits role here e (p.Accounts start path document) where
  shown {cause} hShows hNotDeep := by
    refine accounts_of_shows hReached hShows ?_
    cases cause with
    | tooDeep limit => exact absurd rfl (hNotDeep limit)
    | strayChild child parent => exact hShows.elim
    | _ => exact hLength
  tooLong hAsks hNumber hSome hDigits hExceeds :=
    ⟨hExceeds, _, _, _, _, _, _, _, hReached, hAsks, hNumber, hSome, hDigits, rfl⟩

section Attributes

variable {halt : Stop → Prop} (h : p.Admits role here e halt) {key : String}
  {form : Attribute.Form}

include h

/-- A text is the one that stands there, and not empty. -/
theorem text_gives (hAsks : p.Asks role e key form)
    (hRequired : Attribute.isBlank key e = true → form.isRequired = true) :
    (Attribute.text key here e).Ensures (fun raw => e.attribute? key = some raw ∧ raw ≠ "")
      halt := by
  unfold Attribute.text
  split
  · next hNone =>
    have hForm := hRequired (by simp [Attribute.isBlank, hNone])
    exact h.shown ⟨form, hAsks, hForm, .inl hNone⟩ fun _ hDeep => nomatch hDeep
  · next raw hSome =>
    split
    · next hEmpty =>
      have hForm := hRequired (by simpa [Attribute.isBlank, hSome] using hEmpty)
      rw [String.isEmpty_iff] at hEmpty
      exact h.shown ⟨form, hAsks, hForm, .inr (hEmpty ▸ hSome)⟩ fun _ hDeep => nomatch hDeep
    · next hFull => exact Reading.ensures_pure ⟨hSome, by simpa [String.isEmpty_iff] using hFull⟩

/-- An integer is what the text that stands there reads as. -/
theorem integer_gives (hAsks : p.Asks role e key form) (hNumber : form.isNumber = true)
    (hRequired : Attribute.isBlank key e = true → form.isRequired = true) :
    (Attribute.integer key here e).Ensures (ReadsAs e key) halt := by
  refine (text_gives h hAsks hRequired).bind fun raw hRaw => ?_
  obtain ⟨hSome, hFull⟩ := hRaw
  split
  · next n hRead => exact Reading.ensures_pure ⟨raw, hSome, hRead⟩
  · next hMalformed =>
    have hRefused : ¬ form.Accepts raw :=
      Attribute.Form.not_accepts hNumber (Numeral.read_eq_malformed_iff.mp hMalformed)
    exact h.shown ⟨form, raw, hAsks, hNumber, hSome, hFull, hRefused, .inl ⟨rfl, rfl⟩⟩
      fun _ hDeep => nomatch hDeep
  · next length hLong =>
    obtain ⟨digits, hDigits, rfl, hExceeds⟩ := Numeral.read_eq_tooLong_iff.mp hLong
    exact h.tooLong hAsks hNumber hSome hDigits hExceeds

/-- A weight is a positive number, or the text is told with what it stands for. -/
theorem positive_gives (hAsks : p.Asks role e key .positive) :
    (Attribute.positive key here e).Ensures ValidWeight halt := by
  refine (integer_gives h hAsks rfl fun _ => rfl).bind fun n hReads => ?_
  obtain ⟨raw, hSome, hRead⟩ := hReads
  split
  · next hNegative =>
    have hFull : raw ≠ "" := by
      rintro rfl
      cases hRead
    have hRefused : ¬ Attribute.Form.positive.Accepts raw := by
      rintro ⟨m, hOther, hPositive⟩
      rw [hRead] at hOther
      cases hOther
      omega
    exact h.shown ⟨.positive, raw, hAsks, rfl, hSome, hFull, hRefused,
      .inr ⟨n, rfl, hRead, hNegative, rfl, rfl⟩⟩ fun _ hDeep => nomatch hDeep
  · next hPositive =>
    exact Reading.ensures_pure ⟨Int.not_le.mp hPositive, Numeral.isWritable_of_read hRead⟩

/-- A number with a default is the default where nothing is written. -/
theorem integerOr_gives (hAsks : p.Asks role e key .optionalInteger) {default : Int}
    (hDefault : Numeral.isWritable default = true) :
    (Attribute.integerOr default key here e).Ensures (Numeral.isWritable · = true) halt := by
  unfold Attribute.integerOr
  split
  · exact Reading.ensures_pure hDefault
  · next hFull =>
    exact (integer_gives h hAsks rfl fun hBlank => absurd hBlank hFull).mono
      fun _ => isWritable_of_readsAs

/-- A verdict is read from one of a few words, and any other text is told as it stands. -/
theorem booleanOr_gives (hAsks : p.Asks role e key .boolean) (default : Bool) :
    (Attribute.booleanOr default key here e).Ensures (fun _ => True) halt := by
  unfold Attribute.booleanOr
  split
  · exact Reading.ensures_pure trivial
  · next hFull =>
    dsimp only
    split
    · exact Reading.ensures_pure trivial
    · next hNone =>
      cases hSome : e.attribute? key with
      | none => simp [Attribute.isBlank, hSome] at hFull
      | some raw =>
          simp only [hSome, Option.getD_some] at hNone
          have hRaw : raw ≠ "" := by simpa [Attribute.isBlank, hSome] using hFull
          exact h.shown ⟨hAsks, hSome, hRaw, by simp [Attribute.Form.Accepts, hNone]⟩
            fun _ hDeep => nomatch hDeep

/-- A range has its bounds in order, or both are told. -/
theorem range_gives (hMin : p.Asks role e "min" .integer) (hMax : p.Asks role e "max" .integer) :
    (Attribute.range here e).Ensures (fun (min, max) => ValidRange min max) halt := by
  refine (integer_gives h hMin rfl fun _ => rfl).bind fun min hReadMin => ?_
  refine (integer_gives h hMax rfl fun _ => rfl).bind fun max hReadMax => ?_
  split
  · next hOrder =>
    exact h.shown ⟨hMin, hMax, hReadMin, hReadMax, hOrder⟩ fun _ hDeep => nomatch hDeep
  · next hOrder =>
    exact Reading.ensures_pure ⟨Int.not_lt.mp hOrder, isWritable_of_readsAs hReadMin,
      isWritable_of_readsAs hReadMax⟩

end Attributes

end Parser

end Bounty
