import Mathlib.Data.List.Forall2
import Bounty.Proofs.Parser.Depth
import Bounty.Proofs.Parser.Strict

/-! Where an element stands. Below a path an element is read as if it were a document of its own,
under a limit that is smaller by the length of the path: only the paths that are told begin with
the names above it. A list is therefore read as its members are, each of them alone. -/
namespace Bounty

variable {α β : Type}

/-- A cause with some more levels above it. Only a limit on the depth counts them. -/
def Cause.raised (levels : Nat) : Cause → Cause
  | .tooDeep limit => .tooDeep (limit + levels)
  | cause => cause

/-- A fault as it is told from further up, where `path` leads to the start of its own path. -/
def Fault.below (path : Path) (f : Fault) : Fault :=
  ⟨f.cause.raised path.length, ⟨f.place.element, path ++ f.place.path⟩⟩

def Stop.below (path : Path) : Stop → Stop
  | .fault f => .fault (f.below path)
  | .tooManyDigits digits => .tooManyDigits digits

def Step.below (path : Path) : Step → Step
  | .entered here => .entered (path ++ here)
  | .modifier here => .modifier (path ++ here)
  | .requirement here => .requirement (path ++ here)
  | .ignored child parent => .ignored child (path ++ parent)

/-- A reading as it is told from further up. Its value is the same. -/
def Reading.below (path : Path) (r : Reading α) : Reading α :=
  ⟨r.steps.map (Step.below path), r.outcome.mapError (Stop.below path)⟩

/-- A limit is the only thing in a cause that is counted from the start of the path. -/
theorem Cause.raised_of_ne {cause : Cause} (h : ∀ limit, cause ≠ .tooDeep limit) (levels : Nat) :
    cause.raised levels = cause := by
  cases cause with
  | tooDeep limit => exact absurd rfl (h limit)
  | _ => rfl

namespace Reading

/-- A sequence is moved part by part. -/
theorem below_bind (path : Path) (r : Reading α) (next : α → Reading β) :
    (r >>= next).below path = r.below path >>= fun a => (next a).below path := by
  cases h : r.outcome with
  | error s =>
      have hBelow : (r.below path).outcome = .error (s.below path) := by
        simp [below, h, Except.mapError]
      rw [bind_of_error h, bind_of_error hBelow]
      rfl
  | ok a =>
      have hBelow : (r.below path).outcome = .ok a := by simp [below, h, Except.mapError]
      rw [bind_of_ok h, bind_of_ok hBelow]
      simp [below]

/-- That one reading is another one moved carries over to sequences. -/
theorem congruence_below (path : Path) :
    Congruence fun α (alone r : Reading α) => r = alone.below path where
  pure _ := rfl
  bind hFirst hNext := by
    rw [below_bind, ← hFirst]
    exact bind_congr hNext

/-- The lines of a reading report the same children, each inside of its whole path. -/
theorem notes_below (path : Path) (r : Reading α) :
    Step.notes (r.below path).steps =
      r.ignored.map fun (child, parent) => ignoredLine child (path ++ parent) := by
  rw [notes_eq_map_ignored]
  simp only [ignored, below, List.filterMap_map, List.map_filterMap]
  congr 1
  funext s
  cases s <;> rfl

/-- Values do not tell where they were read. -/
theorem outcome_below_eq_ok_iff {path : Path} {r : Reading α} {a : α} :
    (r.below path).outcome = .ok a ↔ r.outcome = .ok a := by
  cases h : r.outcome <;> simp [below, h, Except.mapError]

/-- A stop is moved with its place and, where it tells a limit, with this. -/
theorem outcome_below_eq_error_iff {path : Path} {r : Reading α} {s : Stop} :
    (r.below path).outcome = .error s ↔ ∃ t, r.outcome = .error t ∧ s = t.below path := by
  cases h : r.outcome <;> simp [below, h, Except.mapError, eq_comm]

/-- What comes of elements that are read one after the other, by what comes of each of them. The
first that has no value is the end of it, whatever stands behind. -/
theorem each_eq_ok_iff {read : Element → Reading α} {es : List Element} {values : List α} :
    (each read es).outcome = .ok values ↔
      List.Forall₂ (fun e a => (read e).outcome = .ok a) es values := by
  induction es generalizing values with
  | nil => simp [each, eq_comm]
  | cons e rest ih =>
      cases h : (read e).outcome with
      | error s =>
          rw [each, bind_of_error h]
          simp [List.forall₂_cons_left_iff, h]
      | ok a =>
          rw [each, bind_of_ok h]
          cases hRest : (each read rest).outcome with
          | error s =>
              have hNone (others : List α) := @ih others
              simp only [hRest, reduceCtorEq, false_iff] at hNone
              simp [bind_of_error hRest, List.forall₂_cons_left_iff, hNone]
          | ok others =>
              have hAll (found : List α) := @ih found
              simp only [hRest, Except.ok.injEq] at hAll
              simp [bind_of_ok hRest, List.forall₂_cons_left_iff, h, ← hAll, eq_comm]

/-- A list stops for the reason of the first element that has no value. -/
theorem each_eq_error_iff {read : Element → Reading α} {es : List Element} {s : Stop} :
    (each read es).outcome = .error s ↔
      ∃ e, es.find? (fun e => !(read e).outcome.isOk) = some e ∧ (read e).outcome = .error s := by
  induction es with
  | nil => simp [each]
  | cons e rest ih =>
      rw [each, List.find?_cons]
      cases hFirst : (read e).outcome with
      | error t =>
          have hStops : (Except.error t : Except Stop α).isOk = false := rfl
          simp [bind_of_error hFirst, hStops, hFirst]
      | ok a =>
          have hGoesOn : (Except.ok a : Except Stop α).isOk = true := rfl
          rw [bind_of_ok hFirst, hGoesOn]
          simp only [Bool.not_true, ← ih]
          cases hRest : (each read rest).outcome with
          | error t => simp [bind_of_error hRest]
          | ok others => simp [bind_of_ok hRest]

/-- Whether there is a value is the same wherever the element stands. -/
theorem isOk_outcome_below (path : Path) (r : Reading α) :
    (r.below path).outcome.isOk = r.outcome.isOk := by
  cases h : r.outcome <;> simp [below, h, Except.mapError, Except.isOk, Except.toBool]

end Reading

namespace Parser

/-- Below `path` everything is read as from the start, with the levels that the path leaves. -/
theorem transfer_below (p : Parser) {path : Path} (hPath : path.length ≤ p.maxDepth) :
    Transfer (p.withDepth (p.maxDepth - path.length)) p 0 (path ++ ·) fun _ alone r =>
      r = alone.below path where
  toCongruence := Reading.congruence_below path
  shift_append here name := (List.append_assoc path here [name]).symm
  fault element here hCause := by
    simp [Reading.fault, Reading.stop, Reading.below, Stop.below, Fault.below, Except.mapError,
      Cause.raised_of_ne hCause]
  tooManyDigits _ := rfl
  entered here name _ := by simp [Reading.step, Reading.below, Step.below, Except.mapError]
  tooDeep here e hLength rest := by
    have hLimit : ((p.maxDepth - path.length : Nat) : Int) + path.length = p.maxDepth := by omega
    change p.tooDeep (path ++ here) e =
      ((p.withDepth (p.maxDepth - path.length)).tooDeep here e >>= rest).below path
    simp [tooDeep, enter, withDepth, Reading.below, Reading.fault, Reading.stop, Step.below,
      Stop.below, Fault.below, Cause.raised, Except.mapError, hLimit, Reading.bind_of_error]
  stray {here} hHere child := by
    have hParent : (path ++ here).getLastD "" = here.getLastD "" := by
      simp [List.getLastD_eq_getLast?, List.getLast?_append, List.getLast?_eq_some_getLast hHere]
    change (if p.strict then _ else _) = Reading.below path (if p.strict then _ else _)
    rw [hParent]
    cases p.strict with
    | true => simp [Reading.below, Reading.fault, Reading.stop, Stop.below, Fault.below,
        Cause.raised, Except.mapError]
    | false => rfl
  requirementKind here e := by
    have hTable : (p.withDepth (p.maxDepth - path.length)).requirementTable =
        p.requirementTable := rfl
    rw [requirementKind, requirementKind, hTable]
    cases p.requirementTable.lookup e.name <;> rfl
  modifierKind here e := by
    have hTable : (p.withDepth (p.maxDepth - path.length)).modifierTable = p.modifierTable := rfl
    rw [modifierKind, modifierKind, hTable]
    cases p.modifierTable.lookup e.name <;> rfl

/-- An element that stands below a path is read as one by itself, under a limit that is shorter by
this path. -/
theorem read_eq_below (p : Parser) (entry : EntryPoint α) (e : Element) {path : Path}
    (hPath : path.length ≤ p.maxDepth) :
    p.read entry e path = ((p.withDepth (p.maxDepth - path.length)).read entry e).below path := by
  have hShifted := (p.transfer_below hPath).read entry e [] (by simpa using hPath)
    (by simp [depthBelow, withDepth])
  simpa using hShifted

/-- The reading of some elements one after the other, told by readings of each of them alone. -/
structure ReadsEach (path : Path) (alone : Element → Reading α) (es : List Element)
    (make : List α → β) (r : Reading β) : Prop where
  /-- There is a value where each of them has one, and it is made of these in their order. -/
  value (b : β) : r.outcome = .ok b ↔
    ∃ values, List.Forall₂ (fun e a => (alone e).outcome = .ok a) es values ∧ make values = b
  /-- Else the first that has none is what it stops at, whatever stands behind. -/
  stop (s : Stop) : r.outcome = .error s ↔ ∃ e t,
    es.find? (fun e => !(alone e).outcome.isOk) = some e ∧ (alone e).outcome = .error t ∧
      s = t.below path

/-- Elements that are read below a path are read as each of them is alone. -/
theorem readsEach_of_outcome_eq {path : Path} {alone : Element → Reading α} {es : List Element}
    {make : List α → β} {r : Reading β}
    (h : r.outcome = (Reading.each (fun e => (alone e).below path) es).outcome.map make) :
    ReadsEach path alone es make r where
  value b := by
    have hEach (values : List α) :
        (Reading.each (fun e => (alone e).below path) es).outcome = .ok values ↔
          List.Forall₂ (fun e a => (alone e).outcome = .ok a) es values := by
      simp only [Reading.each_eq_ok_iff, Reading.outcome_below_eq_ok_iff]
    simp only [h, ← hEach]
    cases (Reading.each (fun e => (alone e).below path) es).outcome <;> simp [Except.map]
  stop s := by
    have hEach : (Reading.each (fun e => (alone e).below path) es).outcome = .error s ↔
        ∃ e t, es.find? (fun e => !(alone e).outcome.isOk) = some e ∧
          (alone e).outcome = .error t ∧ s = t.below path := by
      simp only [Reading.each_eq_error_iff, Reading.isOk_outcome_below,
        Reading.outcome_below_eq_error_iff, exists_and_left]
    rw [h, ← hEach]
    cases (Reading.each (fun e => (alone e).below path) es).outcome <;> simp [Except.map]

section Lists

variable (p : Parser) (e : Element) (hDepth : 2 ≤ p.maxDepth)

include hDepth

/-- There is a level for the start of a document, and one below it. -/
private theorem depthBelow_start : p.depthBelow [] = p.depthBelow [e.name] + 1 := by
  simp [depthBelow]
  omega

/-- A child of the element that a reading starts at is read as a document of its own. -/
private theorem read_child (entry : EntryPoint α) :
    (p.read entry · [e.name]) = fun child =>
      ((p.withDepth (p.maxDepth - 1)).read entry child).below [e.name] := by
  have hPath : [e.name].length ≤ p.maxDepth := by
    rw [List.length_singleton]
    omega
  funext child
  exact p.read_eq_below entry child hPath

/-- A list of modifiers is read child by child. -/
theorem readsEach_modifiers :
    ReadsEach [e.name] ((p.withDepth (p.maxDepth - 1)).read .modifier) e.children id
      (p.read .modifiers e) := by
  apply readsEach_of_outcome_eq
  have hList : (p.read .modifiers e).outcome =
      (Reading.each (p.read .modifier · [e.name]) e.children).outcome := by
    rw [read, readModifiers, depthBelow_start p e hDepth, modifiers]
    rfl
  rw [hList, read_child p e hDepth]
  cases (Reading.each _ e.children).outcome <;> rfl

/-- A list of requirements is read child by child. -/
theorem readsEach_requirements :
    ReadsEach [e.name] ((p.withDepth (p.maxDepth - 1)).read .requirement) e.children id
      (p.read .requirements e) := by
  apply readsEach_of_outcome_eq
  have hList : (p.read .requirements e).outcome =
      (Reading.each (p.read .requirement · [e.name]) e.children).outcome := by
    rw [read, readRequirements, depthBelow_start p e hDepth]
    rfl
  rw [hList, read_child p e hDepth]
  cases (Reading.each _ e.children).outcome <;> rfl

/-- A conjunction is read child by child, and has one value for all of them. -/
theorem readsEach_conjunction (hKind : p.requirementTable.lookup e.name = some .conjunction) :
    ReadsEach [e.name] ((p.withDepth (p.maxDepth - 1)).read .requirement) e.children
      .conjunction (p.read .requirement e) := by
  apply readsEach_of_outcome_eq
  have hConjunction : (p.read .requirement e).outcome =
      (Reading.each (p.read .requirement · [e.name]) e.children >>= fun children =>
        pure (.conjunction children)).outcome := by
    rw [read, readRequirement, depthBelow_start p e hDepth, requirement]
    simp only [enter, requirementKind, hKind]
    rfl
  rw [hConjunction, read_child p e hDepth]
  cases h : (Reading.each _ e.children).outcome with
  | error s => rw [Reading.bind_of_error h]; rfl
  | ok children => rw [Reading.bind_of_ok h]; rfl

end Lists

/-- Where an element stands has no say in how a parser reads it. -/
structure ReadsAnywhere (p : Parser) (e : Element) : Prop where
  /-- Below a path it is read as from the start, with the levels that the path leaves. -/
  moved {α : Type} (entry : EntryPoint α) (path : Path) : path.length < p.maxDepth →
    p.read entry e path = ((p.withDepth (p.maxDepth - path.length)).read entry e).below path
  /-- The same lines are noted, each with the path before what it tells. -/
  noted {α : Type} (entry : EntryPoint α) (path : Path) : path.length < p.maxDepth →
    Step.notes (p.read entry e path).steps =
      ((p.withDepth (p.maxDepth - path.length)).read entry e).ignored.map
        fun (child, parent) => ignoredLine child (path ++ parent)
  modifiers : 2 ≤ p.maxDepth →
    ReadsEach [e.name] ((p.withDepth (p.maxDepth - 1)).read .modifier) e.children id
      (p.read .modifiers e)
  requirements : 2 ≤ p.maxDepth →
    ReadsEach [e.name] ((p.withDepth (p.maxDepth - 1)).read .requirement) e.children id
      (p.read .requirements e)
  conjunction : 2 ≤ p.maxDepth → p.requirementTable.lookup e.name = some .conjunction →
    ReadsEach [e.name] ((p.withDepth (p.maxDepth - 1)).read .requirement) e.children
      .conjunction (p.read .requirement e)

/-- Every element is read alike wherever it stands, and lists of elements one by one. -/
theorem readsAnywhere (p : Parser) (e : Element) : ReadsAnywhere p e where
  moved entry path hPath := p.read_eq_below entry e (Nat.le_of_lt hPath)
  noted entry path hPath := by
    rw [p.read_eq_below entry e (Nat.le_of_lt hPath)]
    exact Reading.notes_below path _
  modifiers := p.readsEach_modifiers e
  requirements := p.readsEach_requirements e
  conjunction := p.readsEach_conjunction e

end Parser

end Bounty
