import Bounty.Proofs.Resolution.Selection

/-! Modifiers at a place inside of others. What a resolution does before it comes to a place, and
after it, has nothing to do with the modifiers that stand there, so a conditional may give way to
the branch that it selects: nothing is lost but its own line of the log. -/
namespace Bounty.Modifier

variable {σ : Type}

/-- The list that stands at a place below a modifier, told by all that stands around it. -/
inductive Frame where
  | ofThen (condition : List Requirement) (elseBranch : List Modifier)
  | ofElse (condition : List Requirement) (thenBranch : List Modifier)
  | ofEntry (earlier : List Choice) (weight : Int) (requirements : List Requirement)
    (later : List Choice)

/-- The modifier with a list at the place. -/
def Frame.fill : Frame → List Modifier → Modifier
  | .ofThen condition elseBranch, ms => .ifThenElse condition ms elseBranch
  | .ofElse condition thenBranch, ms => .ifThenElse condition thenBranch ms
  | .ofEntry earlier weight requirements later, ms =>
    .randomChoice (earlier ++ ⟨weight, ms, requirements⟩ :: later)

/-- A place in a list of modifiers, or in a list at any depth below it. -/
inductive Site where
  | here (before after : List Modifier)
  | inside (before : List Modifier) (frame : Frame) (inner : Site) (after : List Modifier)

/-- The whole list with some modifiers at the place. -/
def Site.fill : Site → List Modifier → List Modifier
  | .here before after, ms => before ++ ms ++ after
  | .inside before frame inner after, ms => before ++ frame.fill (inner.fill ms) :: after

/-- What has become of a resolution on its way to a place. -/
inductive Approach where
  /-- The modifiers at the place come next, after these grants. -/
  | reached (grants : List Grant)
  /-- The way has led past the place, and these are all the grants. -/
  | passed (grants : List Grant)

variable (dice : Dice σ)

/-- Resolves a modifier up to the list at a place below it, or else to its end. -/
def Frame.reach : Frame → Resolution σ Approach
  | .ofThen condition elseBranch =>
    match Requirement.allHold condition with
    | .met => do
      .log .tookThen
      return .reached []
    | .unmet reason => do
      .log (.tookElse reason)
      let grants ← resolveAll dice elseBranch
      return .passed grants
  | .ofElse condition thenBranch =>
    match Requirement.allHold condition with
    | .met => do
      .log .tookThen
      let grants ← resolveAll dice thenBranch
      return .passed grants
    | .unmet reason => do
      .log (.tookElse reason)
      return .reached []
  | .ofEntry earlier weight requirements later => do
    let entries := earlier ++ ⟨weight, [], requirements⟩ :: later
    match ← pick dice entries with
    | none => return .passed []
    | some (index, _) =>
      if index = earlier.length then return .reached []
      else do
        let grants ← resolveEntryAt dice entries index
        return .passed grants

/-- Resolves a list up to a place, or else to its end. -/
def Site.reach : Site → Resolution σ Approach
  | .here before _ => do
    let grants ← resolveAll dice before
    return .reached grants
  | .inside before frame inner after => do
    let grants ← resolveAll dice before
    let entered ← frame.reach dice
    let approach ← match entered with
      | .reached _ => inner.reach
      | .passed others => pure (.passed others)
    match approach with
    | .reached others => return .reached (grants ++ others)
    | .passed others => do
      let rest ← resolveAll dice after
      return .passed (grants ++ others ++ rest)

/-- Resolves what follows a place that has been reached. -/
def Site.leave : Site → Resolution σ (List Grant)
  | .here _ after => resolveAll dice after
  | .inside _ _ inner after => do
    let grants ← inner.leave
    let others ← resolveAll dice after
    return grants ++ others

/-- What is put into a frame is resolved where the frame is reached, and not otherwise. -/
theorem Frame.resolve_fill (frame : Frame) (ms : List Modifier) :
    (frame.fill ms).resolve dice = do
      match ← frame.reach dice with
      | .reached _ => resolveAll dice ms
      | .passed grants => return grants := by
  cases frame with
  | ofThen condition elseBranch =>
      rw [fill, reach, resolve]
      cases Requirement.allHold condition <;> simp
  | ofElse condition thenBranch =>
      rw [fill, reach, resolve]
      cases Requirement.allHold condition <;> simp
  | ofEntry earlier weight requirements later =>
      have hAlike : List.Forall₂ Choice.Alike (earlier ++ ⟨weight, [], requirements⟩ :: later)
          (earlier ++ ⟨weight, ms, requirements⟩ :: later) := by
        have hSame (entries : List Choice) : List.Forall₂ Choice.Alike entries entries :=
          List.forall₂_same.mpr fun entry _ => .refl entry
        exact List.rel_append (hSame earlier) (.cons ⟨rfl, fun _ => rfl⟩ (hSame later))
      rw [fill, reach, resolve, bind_assoc]
      funext state
      refine (Run.Agree.bind (pick_agree dice hAlike state) fun picked picked' _ _ hPicked => ?_).eq
      cases hPicked with
      | none => exact Run.agree_refl _
      | @some candidate candidate' hChance =>
          obtain ⟨index, entry⟩ := candidate
          obtain ⟨index', entry'⟩ := candidate'
          obtain rfl : index' = index := hChance.1
          by_cases hHere : index' = earlier.length
          · subst hHere
            simp [resolveEntryAt_eq, Run.agree_refl]
          · -- at any other place the entries are the same
            have hOther : (earlier ++ ⟨weight, ms, requirements⟩ :: later)[index']? =
                (earlier ++ ⟨weight, [], requirements⟩ :: later)[index']? := by
              grind
            simp [resolveEntryAt_eq, hOther, hHere, Run.agree_refl]

/-- What is put into a site is resolved between what comes before and what comes after. By induction
on the frames around it. -/
theorem Site.resolveAll_fill (site : Site) (ms : List Modifier) :
    resolveAll dice (site.fill ms) = do
      match ← site.reach dice with
      | .reached grants => do
        let inner ← resolveAll dice ms
        let others ← site.leave dice
        return grants ++ inner ++ others
      | .passed grants => return grants := by
  induction site with
  | here before after =>
      rw [fill, reach, leave, resolveAll_append, resolveAll_append]
      simp only [bind_assoc, pure_bind]
  | inside before frame inner after ih =>
      rw [fill, reach, leave, resolveAll_append, resolveAll, frame.resolve_fill, ih]
      simp only [bind_assoc, pure_bind]
      refine bind_congr fun grants => bind_congr fun entered => ?_
      cases entered with
      | passed others => simp [List.append_assoc]
      | reached _ =>
          simp only [bind_assoc]
          refine bind_congr fun approach => ?_
          cases approach <;> simp [List.append_assoc]

end Bounty.Modifier

namespace Bounty

variable {σ α : Type}

/-- A run and what is left of it without some lines of its log, which stand after others. Nothing
else makes a difference. -/
structure Run.Without (before lines : List LogLine) (whole rest : Run σ α) : Prop where
  dice : rest.dice = whole.dice
  calls : rest.calls = whole.calls
  outcome : rest.outcome = whole.outcome
  log : ∃ after, whole.log = before ++ lines ++ after ∧ rest.log = before ++ after

/-- Whether a run has come to the place that it is on the way to. -/
def Run.hasReached (run : Run σ Modifier.Approach) : Bool :=
  match run.outcome with
  | .ok (.reached _) => true
  | _ => false

namespace Modifier

/-- A conditional in a site and the branch that it selects differ in the line about the branch
alone. -/
theorem without_branchLine (dice : Dice σ) (site : Site) (condition : List Requirement)
    (thenBranch elseBranch : List Modifier) (state : σ) :
    Run.Without (site.reach dice state).log
      (if (site.reach dice state).hasReached then [branchLine condition] else [])
      (resolveAll dice (site.fill [.ifThenElse condition thenBranch elseBranch]) state)
      (resolveAll dice (site.fill (selected condition thenBranch elseBranch)) state) := by
  rw [site.resolveAll_fill, site.resolveAll_fill, resolveAll_singleton, resolve_ifThenElse]
  cases hWay : (site.reach dice state).outcome with
  | error failure =>
      rw [Resolution.bind_of_error hWay, Resolution.bind_of_error hWay]
      exact ⟨rfl, rfl, rfl, [], by simp [Run.hasReached, hWay], by simp⟩
  | ok approach =>
      rw [Resolution.bind_of_ok hWay, Resolution.bind_of_ok hWay]
      cases approach with
      | passed grants =>
          refine ⟨rfl, rfl, rfl, [], ?_, ?_⟩ <;>
            simp [Run.hasReached, hWay, Resolution.pure_apply]
      | reached grants =>
          simp only [bind_assoc, log_branchLine_bind]
          refine ⟨rfl, rfl, rfl, _, ?_, rfl⟩
          simp [Run.hasReached, hWay]

/-- What makes resolution compositional, told from one state of the dice on. -/
structure Compositional (dice : Dice σ) (state : σ) : Prop where
  /-- A list comes to what its parts come to, one after the other. -/
  append (ms ns : List Modifier) :
    resolveAll dice (ms ++ ns) state =
      (resolveAll dice ms state).andThen (resolveAll dice ns (resolveAll dice ms state).dice)
  /-- A conditional may give way to the branch that it selects. Its line is lost where the place
  of the conditional is reached, and nothing anywhere else. -/
  splice (site : Site) (condition : List Requirement) (thenBranch elseBranch : List Modifier) :
    Run.Without (site.reach dice state).log
      (if (site.reach dice state).hasReached then [branchLine condition] else [])
      (resolveAll dice (site.fill [.ifThenElse condition thenBranch elseBranch]) state)
      (resolveAll dice (site.fill (selected condition thenBranch elseBranch)) state)
  /-- Rounds in a row come to what the list comes to that repeats the modifiers of a round. -/
  repeated (ms : List Modifier) (count : Nat) :
    resolveAll dice (List.replicate count ms).flatten state =
      Run.joined state (rounds dice ms count state)
  /-- Every round is told by itself. -/
  told (ms : List Modifier) (count : Nat) :
    resolveRounds dice ms count state =
      ((Run.joined state (rounds dice ms count state)).dice,
        (rounds dice ms count state).mapM fun run => run.outcome.map (·, run.log))
  /-- More rounds leave the earlier ones as they are. -/
  goesOn (ms : List Modifier) (count more : Nat) :
    rounds dice ms count state <+: rounds dice ms (count + more) state

/-- Lists, conditionals and rounds come to what their parts come to, and what a command shows of
more rounds begins with what it shows of fewer. -/
theorem compositional_resolveAll (dice : Dice σ) (state : σ) :
    Compositional dice state ∧
      ∀ (ms : List Modifier) (verbose : Bool) (number count more : Nat) (twister : Twister),
        (Command.roundLines ms verbose number twister count).1 <+:
          (Command.roundLines ms verbose number twister (count + more)).1 :=
  ⟨{ append := fun ms ns => resolveAll_append_apply dice ms ns state
     splice := fun site condition thenBranch elseBranch =>
      without_branchLine dice site condition thenBranch elseBranch state
     repeated := fun ms count => resolveAll_replicate dice ms count state
     told := fun ms count => resolveRounds_eq dice ms count state
     goesOn := fun ms count more => rounds_prefix dice ms count more state },
    fun ms verbose number count more twister =>
      roundLines_prefix ms verbose number count more twister⟩

end Modifier

end Bounty
