import Bounty.Reading

/-! Laws of readings. A sequence has the steps of its parts one after the other, so a fact about
every part, and a relation between two readings part by part, carries over to the whole. -/
namespace Bounty.Reading

variable {α β : Type}

attribute [ext] Reading

@[simp] theorem steps_pure (a : α) : (pure a : Reading α).steps = [] := rfl

@[simp] theorem outcome_pure (a : α) : (pure a : Reading α).outcome = .ok a := rfl

/-- The steps of a sequence whose first part has a value are those of both parts. -/
theorem bind_of_ok {r : Reading α} {a : α} (h : r.outcome = .ok a) (next : α → Reading β) :
    r >>= next = ⟨r.steps ++ (next a).steps, (next a).outcome⟩ := by
  change Reading.bind r next = _
  simp [Reading.bind, h]

/-- Nothing follows a stop, so the second part of the sequence is never looked at. -/
theorem bind_of_error {r : Reading α} {s : Stop} (h : r.outcome = .error s)
    (next : α → Reading β) : r >>= next = ⟨r.steps, .error s⟩ := by
  change Reading.bind r next = _
  simp [Reading.bind, h]

@[simp] theorem step_bind (s : Step) (next : Unit → Reading α) :
    step s >>= next = ⟨s :: (next ()).steps, (next ()).outcome⟩ := rfl

private theorem bind_pure_eq (r : Reading α) : r >>= pure = r := by
  cases h : r.outcome with
  | ok a => ext1 <;> simp [bind_of_ok h, h]
  | error s => ext1 <;> simp [bind_of_error h, h]

private theorem pure_bind_eq (a : α) (next : α → Reading β) : pure a >>= next = next a := by
  rw [bind_of_ok (outcome_pure a)]
  simp

private theorem bind_assoc_eq {γ : Type} (r : Reading α) (f : α → Reading β)
    (g : β → Reading γ) : r >>= f >>= g = r >>= fun a => f a >>= g := by
  cases h : r.outcome with
  | error s => rw [bind_of_error h, bind_of_error h, bind_of_error rfl]
  | ok a =>
      rw [bind_of_ok h, bind_of_ok h]
      cases hNext : (f a).outcome with
      | error s =>
          rw [bind_of_error hNext, bind_of_error (r := ⟨r.steps ++ (f a).steps, .error s⟩) rfl]
      | ok b =>
          rw [bind_of_ok hNext, bind_of_ok (r := ⟨r.steps ++ (f a).steps, .ok b⟩) rfl]
          simp

/-- A sequence has a value where the first part has one from which the second comes to it. -/
theorem outcome_bind_eq_ok_iff {r : Reading α} {next : α → Reading β} {b : β} :
    (r >>= next).outcome = .ok b ↔ ∃ a, r.outcome = .ok a ∧ (next a).outcome = .ok b := by
  cases h : r.outcome with
  | error s => simp [bind_of_error h]
  | ok a => simp [bind_of_ok h]

/-- A sequence stops where the first part does, or where the second does after it. -/
theorem outcome_bind_eq_error_iff {r : Reading α} {next : α → Reading β} {s : Stop} :
    (r >>= next).outcome = .error s ↔
      r.outcome = .error s ∨ ∃ a, r.outcome = .ok a ∧ (next a).outcome = .error s := by
  cases h : r.outcome with
  | error t => simp [bind_of_error h]
  | ok a => simp [bind_of_ok h]

/-- Parts that take no steps make a sequence that takes none, however it ends. -/
theorem steps_bind_eq_nil {r : Reading α} {next : α → Reading β} (h : r.steps = [])
    (hNext : ∀ a, (next a).steps = []) : (r >>= next).steps = [] := by
  cases hr : r.outcome with
  | error s => rw [bind_of_error hr, h]
  | ok a => rw [bind_of_ok hr, h, hNext, List.append_nil]

instance : LawfulMonad Reading :=
  LawfulMonad.mk' Reading bind_pure_eq pure_bind_eq bind_assoc_eq

/-- What holds of the value of a reading if it has one, and of the stop if it has none. -/
def Ensures (r : Reading α) (post : α → Prop) (halt : Stop → Prop) : Prop :=
  match r.outcome with
  | .ok a => post a
  | .error s => halt s

section Ensures

variable {r : Reading α} {post : α → Prop} {halt : Stop → Prop}

/-- What is ensured of a value holds of the one that the reading has. -/
theorem Ensures.of_ok (h : r.Ensures post halt) {a : α} (hr : r.outcome = .ok a) : post a := by
  simpa [Ensures, hr] using h

/-- What is ensured of a stop holds of the one that the reading ends with. -/
theorem Ensures.of_error (h : r.Ensures post halt) {s : Stop} (hr : r.outcome = .error s) :
    halt s := by
  simpa [Ensures, hr] using h

theorem ensures_pure {a : α} (h : post a) : (pure a : Reading α).Ensures post halt := h

theorem ensures_step {s : Step} {post : Unit → Prop} (h : post ()) :
    (step s).Ensures post halt := h

theorem ensures_stop {s : Stop} (h : halt s) : (stop s : Reading α).Ensures post halt := h

/-- A reading that only tells a fault has to answer for no value. -/
theorem ensures_fault {cause : Cause} {element : String} {path : Path}
    (h : halt (.fault ⟨cause, ⟨element, path⟩⟩)) :
    (fault cause element path : Reading α).Ensures post halt := h

/-- What the first part ensures of its value may be used for the second. Stops are those of either
part, so both have to allow for the same ones. -/
theorem Ensures.bind {next : α → Reading β} {last : β → Prop} (hr : r.Ensures post halt)
    (hNext : ∀ a, post a → (next a).Ensures last halt) : (r >>= next).Ensures last halt := by
  cases h : r.outcome with
  | error s =>
      rw [bind_of_error h]
      exact hr.of_error h
  | ok a =>
      rw [bind_of_ok h]
      exact hNext a (hr.of_ok h)

/-- Less may be said of the value, while the stops stay as they are. -/
theorem Ensures.mono {weaker : α → Prop} (h : r.Ensures post halt)
    (hPost : ∀ a, post a → weaker a) : r.Ensures weaker halt := by
  cases hr : r.outcome with
  | error s => simpa [Ensures, hr] using h.of_error hr
  | ok a => simpa [Ensures, hr] using hPost a (h.of_ok hr)

end Ensures

/-- What holds of the value of a reading and of the steps on the way to it, if it has one, and of
the stop if it has none. -/
def Meets (r : Reading α) (post : α → List Step → Prop) (halt : Stop → Prop) : Prop :=
  r.Ensures (post · r.steps) halt

section Meets

variable {r : Reading α} {next : α → Reading β} {post : α → List Step → Prop}
  {last : β → List Step → Prop} {halt : Stop → Prop}

/-- What is met holds of the value together with all the steps that led to it. -/
theorem Meets.of_ok (h : r.Meets post halt) {a : α} (hr : r.outcome = .ok a) : post a r.steps :=
  Ensures.of_ok h hr

theorem Meets.of_error (h : r.Meets post halt) {s : Stop} (hr : r.outcome = .error s) : halt s :=
  Ensures.of_error h hr

/-- A value that is at hand is met without steps. -/
theorem meets_pure {a : α} (h : post a []) : (pure a : Reading α).Meets post halt := h

theorem meets_fault {cause : Cause} {element : String} {path : Path}
    (h : halt (.fault ⟨cause, ⟨element, path⟩⟩)) :
    (fault cause element path : Reading α).Meets post halt := h

/-- Less may be said of the value and of its steps. -/
theorem Meets.mono {weaker : α → List Step → Prop} (h : r.Meets post halt)
    (hPost : ∀ a steps, post a steps → weaker a steps) : r.Meets weaker halt :=
  Ensures.mono h fun a => hPost a r.steps

/-- That a reading has a value may be taken for granted in what is said of this value. -/
theorem Meets.of_eq {s : Reading α} (hSame : r = s)
    (h : s.Meets (fun a steps => r.outcome = .ok a → post a steps) halt) : r.Meets post halt := by
  subst hSame
  cases hr : r.outcome with
  | error s => simpa [Meets, Ensures, hr] using h.of_error hr
  | ok a => simpa [Meets, Ensures, hr] using h.of_ok hr hr

/-- In a sequence the steps of the second part follow those of the first. -/
theorem Meets.bind (h : r.Meets post halt)
    (hNext : ∀ a steps, post a steps →
      (next a).Meets (fun b more => last b (steps ++ more)) halt) :
    (r >>= next).Meets last halt := by
  cases hr : r.outcome with
  | error s =>
      rw [bind_of_error hr]
      exact h.of_error hr
  | ok a =>
      rw [bind_of_ok hr]
      exact hNext a r.steps (h.of_ok hr)

/-- What comes after a part without steps takes all of them. -/
theorem Ensures.bind_meets {mid : α → Prop} (h : r.Ensures mid halt) (hSteps : r.steps = [])
    (hNext : ∀ a, mid a → (next a).Meets last halt) : (r >>= next).Meets last halt := by
  have hMeets : r.Meets (fun a steps => mid a ∧ steps = []) halt := h.mono fun a ha => ⟨ha, hSteps⟩
  refine hMeets.bind fun a steps ha => ?_
  rw [ha.2]
  exact hNext a ha.1

end Meets

/-- A relation between readings that relates equal values to each other and sequences of related
parts to each other. -/
structure Congruence (Rel : ∀ α : Type, Reading α → Reading α → Prop) : Prop where
  pure {α : Type} (a : α) : Rel α (Pure.pure a) (Pure.pure a)
  bind {α β : Type} {x y : Reading α} {f g : α → Reading β} :
    Rel α x y → (∀ a, Rel β (f a) (g a)) → Rel β (x >>= f) (y >>= g)

namespace Congruence

variable {Rel : ∀ α : Type, Reading α → Reading α → Prop} (h : Congruence Rel)

include h

/-- Lists are related where their elements are read in the relation one by one. -/
theorem each {f g : Element → Reading α} (hRead : ∀ e, Rel α (f e) (g e)) (es : List Element) :
    Rel (List α) (Reading.each f es) (Reading.each g es) := by
  induction es with
  | nil => exact h.pure []
  | cons e rest ih =>
      refine h.bind (hRead e) fun a => ?_
      exact h.bind ih fun values => h.pure (a :: values)

/-- Optional values are gathered in the relation, whichever of them there are. -/
theorem gather {f g : Element → Reading (Option α)} (hRead : ∀ e, Rel (Option α) (f e) (g e))
    (es : List Element) : Rel (List α) (Reading.gather f es) (Reading.gather g es) := by
  induction es with
  | nil => exact h.pure []
  | cons e rest ih =>
      refine h.bind (hRead e) fun found => ?_
      exact h.bind ih fun values => h.pure (found.toList ++ values)

/-- An accumulator is carried along in the relation from any start. -/
theorem foldlM {f g : β → Element → Reading β} (hRead : ∀ b e, Rel β (f b e) (g b e)) (b : β)
    (es : List Element) : Rel β (es.foldlM f b) (es.foldlM g b) := by
  induction es generalizing b with
  | nil => exact h.pure b
  | cons e rest ih =>
      rw [List.foldlM_cons, List.foldlM_cons]
      exact h.bind (hRead b e) ih

end Congruence

/-- Equality is such a relation; it serves where two readings are the same in every respect. -/
theorem congruence_eq : Congruence fun _ r s => r = s where
  pure _ := rfl
  bind hFirst hNext := by rw [hFirst, funext hNext]

/-- A fact about the stops alone is kept by every sequence. -/
theorem congruence_ensures (halt : Stop → Prop) :
    Congruence fun _ r _ => r.Ensures (fun _ => True) halt where
  pure _ := ensures_pure trivial
  bind hFirst hNext := hFirst.bind fun a _ => hNext a

end Bounty.Reading
