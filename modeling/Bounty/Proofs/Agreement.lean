import Bounty.Proofs.Reading

/-! Readings that end alike: with values that are related, or with stops that are. What the two
have recorded on their way does not matter. -/
namespace Bounty.Reading

variable {α β γ δ : Type}

/-- Two readings both have values, and these are related, or both stop, and their stops are. -/
def Agree (Value : α → β → Prop) (Halt : Stop → Stop → Prop) (r : Reading α) (s : Reading β) :
    Prop :=
  match r.outcome, s.outcome with
  | .ok a, .ok b => Value a b
  | .error x, .error y => Halt x y
  | _, _ => False

variable {Value : α → β → Prop} {Halt : Stop → Stop → Prop} {r : Reading α} {s : Reading β}

theorem agree_pure {a : α} {b : β} (h : Value a b) :
    (pure a : Reading α).Agree Value Halt (pure b) := h

/-- Two faults at one place agree where their causes may stand for each other. -/
theorem agree_fault {first second : Cause} {element : String} {path : Path}
    (h : Halt (.fault ⟨first, ⟨element, path⟩⟩) (.fault ⟨second, ⟨element, path⟩⟩)) :
    (fault first element path : Reading α).Agree Value Halt
      (fault second element path : Reading β) := h

/-- Readings that end in the same way agree. -/
theorem agree_of_outcome_eq {Value : α → α → Prop} {r s : Reading α}
    (hOutcome : r.outcome = s.outcome) (hValue : ∀ a, Value a a) (hHalt : ∀ x, Halt x x) :
    r.Agree Value Halt s := by
  unfold Agree
  rw [hOutcome]
  cases s.outcome with
  | ok a => exact hValue a
  | error x => exact hHalt x

/-- Sequences agree where the first parts do and the second parts do from agreeing values on. -/
theorem Agree.bind {f : α → Reading γ} {g : β → Reading δ} {Last : γ → δ → Prop}
    (h : r.Agree Value Halt s)
    (hNext : ∀ a b, r.outcome = .ok a → Value a b → (f a).Agree Last Halt (g b)) :
    (r >>= f).Agree Last Halt (s >>= g) := by
  unfold Agree at h
  cases hr : r.outcome with
  | ok a =>
      cases hs : s.outcome with
      | ok b =>
          rw [bind_of_ok hr, bind_of_ok hs]
          exact hNext a b hr (by simpa [hr, hs] using h)
      | error y => simp [hr, hs] at h
  | error x =>
      cases hs : s.outcome with
      | ok b => simp [hr, hs] at h
      | error y =>
          rw [bind_of_error hr, bind_of_error hs]
          simpa [Agree, hr, hs] using h

/-- Agreement is about how a reading ends, so what ends in the same way may take its place. -/
theorem Agree.of_left {r' : Reading α} (h : r.Agree Value Halt s)
    (hOutcome : r'.outcome = r.outcome) : r'.Agree Value Halt s := by
  unfold Agree at h ⊢
  rwa [hOutcome]

/-- Only the outcome of the second reading has a say, not its steps. -/
theorem Agree.of_right {s' : Reading β} (h : r.Agree Value Halt s)
    (hOutcome : s'.outcome = s.outcome) : r.Agree Value Halt s' := by
  unfold Agree at h ⊢
  rwa [hOutcome]

/-- Agreement is handed on through a reading in between, given how values and stops compose. -/
theorem Agree.trans {Next : β → γ → Prop} {Last : α → γ → Prop} {t : Reading γ}
    (h : r.Agree Value Halt s) (hNext : s.Agree Next Halt t)
    (hValue : ∀ a b c, Value a b → Next b c → Last a c)
    (hHalt : ∀ x y z, Halt x y → Halt y z → Halt x z) : r.Agree Last Halt t := by
  unfold Agree at h hNext ⊢
  cases hr : r.outcome <;> cases hs : s.outcome <;> cases ht : t.outcome <;>
    simp only [hr, hs, ht] at h hNext ⊢
  · exact hHalt _ _ _ h hNext
  · exact hValue _ _ _ h hNext

end Bounty.Reading
