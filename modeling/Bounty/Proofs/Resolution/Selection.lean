import Mathlib.Data.List.Forall2
import Bounty.Proofs.Resolution.Pick
import Bounty.Proofs.Resolution.Sequence

/-! What is selected. A conditional tells its branch and resolves it. A pick looks at the places of
the entries, at what their requirements come to, and at the weights of those that are eligible;
whatever else the entries hold has no say in the rolls, in the log, or in the place picked. -/
namespace Bounty

variable {σ α β γ δ : Type}

/-- Two runs that are the same but for their values, and these are related. -/
structure Run.Agree (Value : α → β → Prop) (run : Run σ α) (other : Run σ β) : Prop where
  dice : other.dice = run.dice
  calls : other.calls = run.calls
  log : other.log = run.log
  failure : ∀ failure, run.outcome = .error failure → other.outcome = .error failure
  value : ∀ a, run.outcome = .ok a → ∃ b, other.outcome = .ok b ∧ Value a b

namespace Run

variable {Value : α → β → Prop}

theorem agree_refl (run : Run σ α) : run.Agree Eq run where
  dice := rfl
  calls := rfl
  log := rfl
  failure _ h := h
  value a h := ⟨a, h, rfl⟩

theorem agree_pure {a : α} {b : β} (h : Value a b) (state : σ) :
    ((pure a : Resolution σ α) state).Agree Value ((pure b : Resolution σ β) state) where
  dice := rfl
  calls := rfl
  log := rfl
  failure _ hFailure := nomatch hFailure
  value a' hOk := by
    cases hOk
    exact ⟨b, rfl, h⟩

theorem agree_fail (failure : Failure) (state : σ) :
    ((.fail failure : Resolution σ α) state).Agree Value
      ((.fail failure : Resolution σ β) state) where
  dice := rfl
  calls := rfl
  log := rfl
  failure _ hFailure := by simpa [Resolution.fail] using hFailure
  value _ hOk := nomatch hOk

/-- Runs that agree in their values too are the same. -/
theorem Agree.eq {run other : Run σ α} (h : run.Agree Eq other) : other = run := by
  have hOutcome : other.outcome = run.outcome := by
    cases hRun : run.outcome with
    | error failure => exact h.failure failure hRun
    | ok a =>
        obtain ⟨b, hOther, rfl⟩ := h.value a hRun
        exact hOther
  ext1
  · exact h.dice
  · exact h.calls
  · exact h.log
  · exact hOutcome

/-- Runs that agree are followed by runs that agree, from the same dice. -/
theorem Agree.bind {Last : γ → δ → Prop} {r : Resolution σ α} {s : Resolution σ β}
    {f : α → Resolution σ γ} {g : β → Resolution σ δ} {state : σ}
    (h : (r state).Agree Value (s state))
    (hNext : ∀ a b, (r state).outcome = .ok a → (s state).outcome = .ok b → Value a b →
      (f a (r state).dice).Agree Last (g b (r state).dice)) :
    ((r >>= f) state).Agree Last ((s >>= g) state) := by
  cases hRun : (r state).outcome with
  | error failure =>
      rw [Resolution.bind_of_error hRun, Resolution.bind_of_error (h.failure failure hRun)]
      refine ⟨h.dice, h.calls, h.log, fun _ hFailure => ?_, fun _ hValue => nomatch hValue⟩
      simpa using hFailure
  | ok a =>
      obtain ⟨b, hOther, hValue⟩ := h.value a hRun
      have hLast := hNext a b hRun hOther hValue
      rw [Resolution.bind_of_ok hRun, Resolution.bind_of_ok hOther, h.dice, h.calls, h.log]
      exact ⟨hLast.dice, congrArg _ hLast.calls, congrArg _ hLast.log, hLast.failure, hLast.value⟩

end Run

/-- Two entries that a pick does not tell apart. -/
structure Choice.Alike (entry other : Choice) : Prop where
  requirements :
    Requirement.allHold other.requirements = Requirement.allHold entry.requirements
  weight : Requirement.allHold entry.requirements = .met → other.weight = entry.weight

theorem Choice.Alike.refl (entry : Choice) : Choice.Alike entry entry := ⟨rfl, fun _ => rfl⟩

/-- Two candidates at one place with one weight. -/
def SameChance (candidate other : Nat × Choice) : Prop :=
  other.1 = candidate.1 ∧ other.2.weight = candidate.2.weight

/-- Candidates with the same chances weigh the same together. -/
theorem totalWeight_of_sameChance {candidates others : List (Nat × Choice)}
    (h : List.Forall₂ SameChance candidates others) :
    totalWeight (others.map (·.2)) = totalWeight (candidates.map (·.2)) := by
  induction h with
  | nil => rfl
  | cons hHead _ ih => simp [totalWeight_cons, ih, hHead.2]

/-- A roll falls on the same place among candidates with the same chances. -/
theorem entryAt_of_sameChance {candidates others : List (Nat × Choice)}
    (h : List.Forall₂ SameChance candidates others) (roll passed : Int) :
    Option.Rel SameChance (entryAt roll passed candidates) (entryAt roll passed others) := by
  induction h generalizing passed with
  | nil => exact .none
  | @cons candidate other _ _ hHead _ ih =>
      rw [entryAt, entryAt, hHead.2]
      by_cases hHere : roll ≤ passed + candidate.2.weight
      · rw [if_pos hHere, if_pos hHere]
        exact .some hHead
      · rw [if_neg hHere, if_neg hHere]
        exact ih _

variable {entries others : List Choice}

/-- Among entries that are alike the same places are eligible, and the same lines tell of the
others. -/
theorem eligible_agree (h : List.Forall₂ Choice.Alike entries others) (index : Nat) (state : σ) :
    (eligible index entries state).Agree (List.Forall₂ SameChance)
      (eligible index others state) := by
  induction h generalizing index state with
  | nil => exact Run.agree_pure .nil state
  | @cons entry other _ _ hHead _ ih =>
      rw [eligible, eligible, hHead.requirements]
      cases hMet : Requirement.allHold entry.requirements with
      | met =>
          refine Run.Agree.bind (ih (index + 1) state) fun rest rest' _ _ hRest => ?_
          exact Run.agree_pure (.cons ⟨rfl, hHead.weight hMet⟩ hRest) _
      | unmet reason =>
          refine Run.Agree.bind (Run.agree_refl _) fun _ _ _ _ _ => ?_
          exact ih (index + 1) _

/-- A pick among entries that are alike rolls the same and picks the same place. -/
theorem pick_agree (dice : Dice σ) (h : List.Forall₂ Choice.Alike entries others) (state : σ) :
    (pick dice entries state).Agree (Option.Rel SameChance) (pick dice others state) := by
  refine Run.Agree.bind (eligible_agree h 0 state) fun candidates candidates' _ _ hSame => ?_
  rw [totalWeight_of_sameChance hSame]
  cases hSame with
  | nil =>
      refine Run.Agree.bind (Run.agree_refl _) fun _ _ _ _ _ => ?_
      exact Run.agree_pure .none _
  | @cons first first' rest rest' hFirst hRest =>
      refine Run.Agree.bind (Run.agree_refl _) fun roll _ _ _ hRoll => ?_
      subst hRoll
      have hPicked := entryAt_of_sameChance (.cons hFirst hRest) roll 0
      generalize entryAt roll 0 (first :: rest) = picked at hPicked ⊢
      generalize entryAt roll 0 (first' :: rest') = picked' at hPicked ⊢
      cases hPicked with
      | none => split <;> exact Run.agree_fail _ _
      | @some candidate candidate' hChance =>
          dsimp only
          rw [hChance.2]
          refine Run.Agree.bind (Run.agree_refl _) fun _ _ _ _ _ => ?_
          exact Run.agree_pure (.some hChance) _

namespace Modifier

/-- Of some entries only the one at the place is resolved. -/
theorem resolveEntryAt_eq (dice : Dice σ) (entries : List Choice) (index : Nat) :
    resolveEntryAt dice entries index =
      match entries[index]? with
      | some entry => resolveAll dice entry.modifiers
      | none => pure [] := by
  induction entries generalizing index with
  | nil => simp [resolveEntryAt]
  | cons entry rest ih =>
      cases index with
      | zero =>
          obtain ⟨weight, modifiers, requirements⟩ := entry
          simp [resolveEntryAt, resolveEntry]
      | succ index => simp [resolveEntryAt, ih]

/-- The branch that a condition selects. -/
def selected (condition : List Requirement) (thenBranch elseBranch : List Modifier) :
    List Modifier :=
  if (Requirement.allHold condition).holds then thenBranch else elseBranch

/-- The line of the log that tells which branch a condition selects. -/
def branchLine (condition : List Requirement) : LogLine :=
  match Requirement.allHold condition with
  | .met => .tookThen
  | .unmet reason => .tookElse reason

theorem log_branchLine_bind (condition : List Requirement) (next : Unit → Resolution σ α)
    (state : σ) :
    (Resolution.log (branchLine condition) >>= next) state =
      ⟨(next () state).dice, (next () state).calls,
        branchLine condition :: (next () state).log, (next () state).outcome⟩ := by
  have hLine : (branchLine condition).isWritable = true := by
    rw [branchLine]
    cases Requirement.allHold condition <;> rfl
  have hRun := Resolution.log_of_isWritable hLine state
  rw [Resolution.bind_of_ok (by rw [hRun]), hRun]
  rfl

/-- A conditional tells its branch and resolves it. -/
theorem resolve_ifThenElse (dice : Dice σ) (condition : List Requirement)
    (thenBranch elseBranch : List Modifier) :
    (ifThenElse condition thenBranch elseBranch).resolve dice = (do
      .log (branchLine condition)
      resolveAll dice (selected condition thenBranch elseBranch)) := by
  rw [resolve, selected, branchLine]
  cases Requirement.allHold condition <;> rfl

end Modifier

end Bounty
