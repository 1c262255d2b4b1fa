import Bounty.Command.Run
import Bounty.Proofs.Resolution

/-! Resolutions one after the other. A list of modifiers is resolved as its parts are, from left to
right, and rounds in a row are the resolution of a list that is repeated. -/
namespace Bounty

variable {σ α β : Type}

attribute [ext] Run

namespace Resolution

/-- After a failure nothing else is done. -/
theorem bind_of_error {r : Resolution σ α} {state : σ} {failure : Failure}
    (h : (r state).outcome = .error failure) (next : α → Resolution σ β) :
    (r >>= next) state =
      ⟨(r state).dice, (r state).calls, (r state).log, .error failure⟩ := by
  change Resolution.bind r next state = _
  simp [Resolution.bind, h]

theorem pure_apply (a : α) (state : σ) :
    (pure a : Resolution σ α) state = ⟨state, [], [], .ok a⟩ := rfl

private theorem run_bind_pure (r : Resolution σ α) : r >>= pure = r := by
  funext state
  cases h : (r state).outcome with
  | ok a => ext1 <;> simp [bind_of_ok h, pure_apply, h]
  | error failure => ext1 <;> simp [bind_of_error h, h]

private theorem run_pure_bind (a : α) (next : α → Resolution σ β) :
    pure a >>= next = next a := by
  funext state
  rw [bind_of_ok (a := a) rfl]
  simp [pure_apply]

private theorem run_bind_assoc {γ : Type} (r : Resolution σ α) (f : α → Resolution σ β)
    (g : β → Resolution σ γ) : r >>= f >>= g = r >>= fun a => f a >>= g := by
  funext state
  cases h : (r state).outcome with
  | error failure =>
      have hFirst := bind_of_error h f
      rw [bind_of_error h, bind_of_error (by rw [hFirst]), hFirst]
  | ok a =>
      have hFirst := bind_of_ok h f
      rw [bind_of_ok h]
      cases hNext : (f a (r state).dice).outcome with
      | error failure =>
          rw [bind_of_error hNext, bind_of_error (by rw [hFirst, hNext]), hFirst]
      | ok b =>
          rw [bind_of_ok hNext, bind_of_ok (by rw [hFirst, hNext]), hFirst]
          simp [List.append_assoc]

instance : LawfulMonad (Resolution σ) :=
  LawfulMonad.mk' (Resolution σ) run_bind_pure run_pure_bind run_bind_assoc

end Resolution

/-- A run with another one after it. Where the first fails, nothing follows. -/
def Run.andThen (first second : Run σ (List α)) : Run σ (List α) :=
  match first.outcome with
  | .error _ => first
  | .ok values => ⟨second.dice, first.calls ++ second.calls, first.log ++ second.log,
      second.outcome.map (values ++ ·)⟩

/-- A second run goes after a first that succeeds. -/
theorem Run.andThen_of_ok {first : Run σ (List α)} {values : List α}
    (h : first.outcome = .ok values) (second : Run σ (List α)) :
    first.andThen second = ⟨second.dice, first.calls ++ second.calls, first.log ++ second.log,
      second.outcome.map (values ++ ·)⟩ := by
  simp only [andThen, h]

/-- A first run that fails is all there is. -/
theorem Run.andThen_of_error {first : Run σ (List α)} {failure : Failure}
    (h : first.outcome = .error failure) (second : Run σ (List α)) :
    first.andThen second = first := by
  simp only [andThen, h]

/-- Two resolutions one after the other, with their values together, run one after the other. -/
theorem Resolution.bind_append_apply (r s : Resolution σ (List α)) (state : σ) :
    (do
      let values ← r
      let others ← s
      return values ++ others : Resolution σ (List α)) state =
        (r state).andThen (s (r state).dice) := by
  cases h : (r state).outcome with
  | error failure =>
      rw [bind_of_error h, Run.andThen_of_error h]
      ext1 <;> simp [h]
  | ok values =>
      rw [bind_of_ok h, Run.andThen_of_ok h]
      cases hNext : (s (r state).dice).outcome with
      | error failure => simp [bind_of_error hNext, Except.map]
      | ok others => simp [bind_of_ok hNext, pure_apply, Except.map]

namespace Modifier

variable (dice : Dice σ)

/-- Two lists are resolved one after the other. -/
theorem resolveAll_append (ms ns : List Modifier) :
    resolveAll dice (ms ++ ns) = do
      let grants ← resolveAll dice ms
      let others ← resolveAll dice ns
      return grants ++ others := by
  induction ms with
  | nil => simp [resolveAll]
  | cons m rest ih =>
      rw [List.cons_append, resolveAll, resolveAll, ih]
      simp only [bind_assoc, pure_bind, List.append_assoc]

/-- The second list is resolved with the dice that the first leaves. -/
theorem resolveAll_append_apply (ms ns : List Modifier) (state : σ) :
    resolveAll dice (ms ++ ns) state =
      (resolveAll dice ms state).andThen
        (resolveAll dice ns (resolveAll dice ms state).dice) := by
  rw [resolveAll_append, Resolution.bind_append_apply]

@[simp] theorem resolveAll_singleton (m : Modifier) : resolveAll dice [m] = m.resolve dice := by
  simp [resolveAll]

/-- The runs of several rounds in a row, each from the state of the dice that the one before it
leaves. No round follows one that fails. -/
def rounds (ms : List Modifier) : Nat → σ → List (Run σ (List Grant))
  | 0, _ => []
  | count + 1, state =>
    let run := resolveAll dice ms state
    match run.outcome with
    | .error _ => [run]
    | .ok _ => run :: rounds ms count run.dice

end Modifier

/-- Several runs in a row, from a state of the dice on, as one. -/
def Run.joined (state : σ) (runs : List (Run σ (List α))) : Run σ (List α) where
  dice := (runs.getLast?.map Run.dice).getD state
  calls := runs.flatMap Run.calls
  log := runs.flatMap Run.log
  outcome := (runs.mapM Run.outcome).map List.flatten

theorem Run.joined_nil (state : σ) : (joined state [] : Run σ (List α)) = ⟨state, [], [], .ok []⟩ :=
  rfl

/-- Runs as one are the first of them with the others after it, as one. -/
theorem Run.joined_cons (run : Run σ (List α)) (state : σ) (runs : List (Run σ (List α)))
    (h : ∀ failure, run.outcome = .error failure → runs = []) :
    joined state (run :: runs) = run.andThen (joined run.dice runs) := by
  cases hRun : run.outcome with
  | error failure =>
      rw [h failure hRun, andThen_of_error hRun]
      ext1 <;> simp [joined, hRun, bind, Except.bind, Except.map]
  | ok values =>
      rw [andThen_of_ok hRun]
      ext1
      · simp [joined, List.getLast?_cons]
      · simp [joined]
      · simp [joined]
      · cases hRest : runs.mapM Run.outcome <;>
          simp [joined, hRun, hRest, bind, Except.bind, pure, Except.pure, Except.map]

namespace Modifier

variable (dice : Dice σ) (ms : List Modifier)

/-- A round that fails is the last. -/
theorem rounds_succ_of_error {state : σ} {failure : Failure}
    (h : (resolveAll dice ms state).outcome = .error failure) (count : Nat) :
    rounds dice ms (count + 1) state = [resolveAll dice ms state] := by
  simp only [rounds, h]

/-- A round that succeeds leaves its dice to the next. -/
theorem rounds_succ_of_ok {state : σ} {grants : List Grant}
    (h : (resolveAll dice ms state).outcome = .ok grants) (count : Nat) :
    rounds dice ms (count + 1) state =
      resolveAll dice ms state :: rounds dice ms count (resolveAll dice ms state).dice := by
  simp only [rounds, h]

/-- Rounds in a row come to what the list comes to that repeats the modifiers of a round. -/
theorem resolveAll_replicate (count : Nat) (state : σ) :
    resolveAll dice (List.replicate count ms).flatten state =
      Run.joined state (rounds dice ms count state) := by
  induction count generalizing state with
  | zero => simp [resolveAll, rounds, Run.joined_nil, Resolution.pure_apply]
  | succ count ih =>
      rw [List.replicate_succ, List.flatten_cons, resolveAll_append_apply]
      cases h : (resolveAll dice ms state).outcome with
      | error failure =>
          rw [rounds_succ_of_error dice ms h, Run.joined_cons _ _ _ fun _ _ => rfl]
          rw [Run.andThen_of_error h, Run.andThen_of_error h]
      | ok grants =>
          have hGoesOn : ∀ failure, (resolveAll dice ms state).outcome ≠ .error failure := by
            simp [h]
          rw [rounds_succ_of_ok dice ms h, ih]
          rw [Run.joined_cons _ _ _ fun failure hFailure => absurd hFailure (hGoesOn failure)]

/-- More rounds go on where fewer rounds end. -/
theorem rounds_prefix (count more : Nat) (state : σ) :
    rounds dice ms count state <+: rounds dice ms (count + more) state := by
  induction count generalizing state with
  | zero => exact List.nil_prefix
  | succ count ih =>
      rw [Nat.succ_add]
      cases h : (resolveAll dice ms state).outcome with
      | error failure =>
          have hSame : rounds dice ms (count + more + 1) state =
              rounds dice ms (count + 1) state := by
            rw [rounds_succ_of_error dice ms h, rounds_succ_of_error dice ms h]
          exact hSame ▸ List.prefix_rfl
      | ok grants =>
          rw [rounds_succ_of_ok dice ms h, rounds_succ_of_ok dice ms h]
          exact (List.prefix_cons_inj _).mpr (ih _)

/-- What is told of some rounds is where the dice stand after the last of them, and the grants and
the log of each. -/
theorem resolveRounds_eq (count : Nat) (state : σ) :
    resolveRounds dice ms count state =
      ((Run.joined state (rounds dice ms count state)).dice,
        (rounds dice ms count state).mapM fun run => run.outcome.map (·, run.log)) := by
  induction count generalizing state with
  | zero => rfl
  | succ count ih =>
      rw [resolveRounds]
      cases h : (resolveAll dice ms state).outcome with
      | error failure =>
          rw [rounds_succ_of_error dice ms h]
          simp [Run.joined, h, bind, Except.bind, Except.map]
      | ok grants =>
          rw [rounds_succ_of_ok dice ms h, List.mapM_cons, ih]
          cases hLater : (rounds dice ms count (resolveAll dice ms state).dice).mapM
              fun run => run.outcome.map (·, run.log) <;>
            simp [Run.joined, h, List.getLast?_cons, bind, Except.bind, pure, Except.pure,
              Except.map]

/-- The lines of more rounds begin with those of fewer. -/
theorem roundLines_prefix (verbose : Bool) (number count more : Nat) (state : Twister) :
    (Command.roundLines ms verbose number state count).1 <+:
      (Command.roundLines ms verbose number state (count + more)).1 := by
  induction count generalizing number state with
  | zero => exact List.nil_prefix
  | succ count ih =>
      rw [Nat.succ_add]
      simp only [Command.roundLines]
      cases h : (resolveAll Twister.dice ms state).outcome with
      | error failure => exact List.prefix_rfl
      | ok grants =>
        apply (List.prefix_append_right_inj _).mpr
        exact (List.prefix_cons_inj _).mpr (ih _ _)

end Modifier

end Bounty
