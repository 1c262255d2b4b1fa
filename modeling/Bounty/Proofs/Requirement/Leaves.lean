import Mathlib.Logic.Relation
import Bounty.Proofs.Requirement

/-! Requirements by their checks. Whatever conjunctions stand around the checks of a requirement, it
comes to what the first of them comes to that fails, and to nothing else. -/
namespace Bounty

/-- The reason that a check gives when it fails. It is never empty. -/
def Check.shownReason (c : Check) : String :=
  if c.reason = "" then c.demand.kind.name ++ " not met" else c.reason

/-- What some checks come to one after the other: the first that fails decides. -/
def Check.firstFailure (checks : List Check) : Outcome :=
  match checks.find? (!·.ok) with
  | none => .met
  | some c => .unmet c.shownReason

theorem Check.shownReason_ne_empty (c : Check) : c.shownReason ≠ "" := by
  unfold shownReason
  split
  · simp [String.append_eq_empty_iff]
  · assumption

/-- A check is met as it says, or fails with its own reason or that of its kind. -/
theorem Check.outcome_eq (c : Check) :
    c.outcome = if c.ok then .met else .unmet c.shownReason := by
  simp [outcome, shownReason, String.isEmpty_iff, toString]

/-- The first check decides, and if it is met the others do. -/
theorem Check.firstFailure_cons (c : Check) (rest : List Check) :
    firstFailure (c :: rest) = c.outcome.both (firstFailure rest) := by
  rw [firstFailure, List.find?_cons, outcome_eq]
  cases c.ok <;> rfl

/-- Outcomes are combined in sequence, so grouping does not matter. -/
theorem Outcome.both_assoc (first second third : Outcome) :
    (first.both second).both third = first.both (second.both third) := by
  cases first <;> rfl

/-- The checks of two lists are decided one list after the other. -/
theorem Check.firstFailure_append (checks more : List Check) :
    firstFailure (checks ++ more) = (firstFailure checks).both (firstFailure more) := by
  induction checks with
  | nil => rfl
  | cons c rest ih =>
      rw [List.cons_append, firstFailure_cons, firstFailure_cons, ih, Outcome.both_assoc]

/-- Nothing fails if all checks are met. -/
theorem Check.firstFailure_eq_met_iff {checks : List Check} :
    firstFailure checks = .met ↔ ∀ c ∈ checks, c.ok = true := by
  unfold firstFailure
  cases h : checks.find? (!·.ok) with
  | none => simpa using h
  | some c =>
      have hFails : c.ok = false := by simpa using List.find?_some h
      have hMem := List.mem_of_find?_eq_some h
      simp only [reduceCtorEq, false_iff]
      intro hAll
      simp [hAll c hMem] at hFails

/-- What fails is the first check that is not met, with the reason that it shows. -/
theorem Check.firstFailure_eq_unmet_iff {checks : List Check} {reason : String} :
    firstFailure checks = .unmet reason ↔
      ∃ c, checks.find? (!·.ok) = some c ∧ c.shownReason = reason := by
  unfold firstFailure
  cases checks.find? (!·.ok) <;> simp

/-- Checks that fail give a reason, and others give none. -/
theorem Check.reason_firstFailure (checks : List Check) :
    (firstFailure checks).reason = "" ↔ firstFailure checks = .met := by
  cases h : firstFailure checks with
  | met => simp [Outcome.reason]
  | unmet reason =>
      obtain ⟨c, -, rfl⟩ := firstFailure_eq_unmet_iff.mp h
      simp [Outcome.reason, c.shownReason_ne_empty]

namespace Requirement

theorem leavesOf_eq_flatMap (rs : List Requirement) : leavesOf rs = rs.flatMap leaves := by
  induction rs with
  | nil => rfl
  | cons r rest ih => rw [leavesOf, ih, List.flatMap_cons]

theorem leavesOf_append (rs more : List Requirement) :
    leavesOf (rs ++ more) = leavesOf rs ++ leavesOf more := by
  simp only [leavesOf_eq_flatMap, List.flatMap_append]

mutual

/-- A requirement comes to what its checks come to, from left to right. -/
theorem outcome_eq_firstFailure (r : Requirement) : r.outcome = Check.firstFailure r.leaves := by
  match r with
  | .check c =>
      rw [outcome, leaves, Check.firstFailure_cons]
      cases c.outcome <;> rfl
  | .conjunction children =>
      rw [outcome, leaves]
      exact allHold_eq_firstFailure children

theorem allHold_eq_firstFailure (rs : List Requirement) :
    allHold rs = Check.firstFailure (leavesOf rs) := by
  match rs with
  | [] => rfl
  | r :: rest =>
      rw [allHold, leavesOf, Check.firstFailure_append, outcome_eq_firstFailure r,
        allHold_eq_firstFailure rest]

end

/-- Two lists of requirements are decided one after the other. -/
theorem allHold_append (rs more : List Requirement) :
    allHold (rs ++ more) = (allHold rs).both (allHold more) := by
  simp only [allHold_eq_firstFailure, leavesOf_append, Check.firstFailure_append]

/-- Some requirements that stand beside each other, or none, are put into a conjunction of their
own, among the requirements given or at any depth below them. -/
inductive Groups : List Requirement → List Requirement → Prop where
  | here (before group after : List Requirement) :
    Groups (before ++ group ++ after) (before ++ .conjunction group :: after)
  | inside (before after : List Requirement) {children grouped : List Requirement} :
    Groups children grouped →
      Groups (before ++ .conjunction children :: after) (before ++ .conjunction grouped :: after)

/-- Requirements that come of each other by making and by undoing conjunctions. -/
def Regrouped : List Requirement → List Requirement → Prop := Relation.EqvGen Groups

variable {rs rs' more : List Requirement}

theorem Groups.leavesOf_eq (h : Groups rs rs') : leavesOf rs = leavesOf rs' := by
  induction h with
  | here before group after => simp [leavesOf_append, leavesOf, leaves]
  | inside before after _ ih => simp [leavesOf_append, leavesOf, leaves, ih]

theorem Groups.append_right (h : Groups rs rs') (more : List Requirement) :
    Groups (rs ++ more) (rs' ++ more) := by
  cases h with
  | here before group after => simpa using Groups.here before group (after ++ more)
  | inside before after hInside => simpa using hInside.inside before (after ++ more)

theorem Groups.append_left (more : List Requirement) (h : Groups rs rs') :
    Groups (more ++ rs) (more ++ rs') := by
  cases h with
  | here before group after => simpa using Groups.here (more ++ before) group after
  | inside before after hInside => simpa using hInside.inside (more ++ before) after

/-- Regrouping leaves the leaves as they are, in their order. -/
theorem Regrouped.leavesOf_eq (h : Regrouped rs rs') : leavesOf rs = leavesOf rs' := by
  induction h with
  | rel xs ys hGroups => exact hGroups.leavesOf_eq
  | refl xs => rfl
  | symm xs ys _ ih => exact ih.symm
  | trans xs ys zs _ _ ihFirst ihSecond => exact ihFirst.trans ihSecond

/-- What keeps a single grouping keeps any number of them, made or undone. -/
theorem Regrouped.lift {f : List Requirement → List Requirement}
    (hStep : ∀ {xs ys}, Groups xs ys → Groups (f xs) (f ys)) (h : Regrouped rs rs') :
    Regrouped (f rs) (f rs') := by
  induction h with
  | rel xs ys hGroups => exact .rel _ _ (hStep hGroups)
  | refl xs => exact .refl _
  | symm xs ys _ ih => exact .symm _ _ ih
  | trans xs ys zs _ _ ihFirst ihSecond => exact .trans _ _ _ ihFirst ihSecond

/-- Both parts of a list can be regrouped on their own. -/
theorem Regrouped.append {more more' : List Requirement} (h : Regrouped rs rs')
    (hMore : Regrouped more more') : Regrouped (rs ++ more) (rs' ++ more') :=
  .trans _ _ _ (h.lift (f := (· ++ more)) fun hStep => hStep.append_right more)
    (hMore.lift (f := (rs' ++ ·)) fun hStep => hStep.append_left rs')

/-- Every conjunction can be undone, until only the checks are left. -/
theorem regrouped_leavesOf (rs : List Requirement) : Regrouped rs ((leavesOf rs).map .check) := by
  match rs with
  | [] => exact .refl _
  | .check c :: rest =>
      have hCheck : Regrouped [.check c] [.check c] := .refl _
      simpa [leavesOf, leaves] using hCheck.append (regrouped_leavesOf rest)
  | .conjunction children :: rest =>
      have hUndone : Regrouped [.conjunction children] children :=
        .symm _ _ (.rel _ _ (by simpa using Groups.here [] children []))
      have hChildren : Regrouped [.conjunction children] ((leavesOf children).map .check) :=
        .trans _ _ _ hUndone (regrouped_leavesOf children)
      simpa [leavesOf, leaves] using hChildren.append (regrouped_leavesOf rest)

/-- Requirements come of each other by regrouping exactly where they have the same checks in the
same order. -/
theorem regrouped_iff : Regrouped rs rs' ↔ leavesOf rs = leavesOf rs' := by
  refine ⟨Regrouped.leavesOf_eq, fun h => ?_⟩
  have hBack : Regrouped ((leavesOf rs).map .check) rs' :=
    h ▸ .symm _ _ (regrouped_leavesOf rs')
  exact .trans _ _ _ (regrouped_leavesOf rs) hBack

/-- An outcome is what some checks come to, from left to right. -/
structure DecidedBy (checks : List Check) (outcome : Outcome) : Prop where
  /-- All is well where every check is ok. -/
  met : outcome = .met ↔ ∀ c ∈ checks, c.ok = true
  /-- Else the first check that is not ok decides, with its own reason or one made of its kind. -/
  unmet (reason : String) : outcome = .unmet reason ↔
    ∃ c, checks.find? (!·.ok) = some c ∧
      reason = if c.reason = "" then c.demand.kind.name ++ " not met" else c.reason
  /-- There is a reason exactly where there is a failure. -/
  reason : outcome.reason = "" ↔ outcome.holds = true

/-- The first check that fails decides, and without one the outcome is met. -/
theorem decidedBy_firstFailure (checks : List Check) :
    DecidedBy checks (Check.firstFailure checks) where
  met := Check.firstFailure_eq_met_iff
  unmet reason := by
    rw [Check.firstFailure_eq_unmet_iff]
    simp only [Check.shownReason, eq_comm]
  reason := by
    rw [Check.reason_firstFailure]
    cases Check.firstFailure checks <;> simp [Outcome.holds]

/-- Requirements, alone and together, come to what their checks come to. Of two lists the second
counts only where the first holds. Making and undoing conjunctions changes nothing, and leads to
all requirements that have the same checks in the same order. -/
theorem decidedBy_leaves (r : Requirement) (rs more : List Requirement) :
    DecidedBy r.leaves r.outcome ∧ DecidedBy (rs.flatMap leaves) (allHold rs) ∧
      allHold (rs ++ more) = (if (allHold rs).holds then allHold more else allHold rs) ∧
      (∀ r', Regrouped [r] [r'] → r.outcome = r'.outcome) ∧
      (∀ rs', Regrouped rs rs' → allHold rs = allHold rs') ∧
      ∀ rs', Regrouped rs rs' ↔ rs.flatMap leaves = rs'.flatMap leaves := by
  refine ⟨?_, ?_, ?_, fun r' h => ?_, fun rs' h => ?_, fun rs' => ?_⟩
  · rw [outcome_eq_firstFailure]
    exact decidedBy_firstFailure r.leaves
  · rw [allHold_eq_firstFailure, leavesOf_eq_flatMap]
    exact decidedBy_firstFailure _
  · rw [allHold_append]
    cases allHold rs <;> rfl
  · have hLeaves : r.leaves = r'.leaves := by simpa [leavesOf] using h.leavesOf_eq
    rw [outcome_eq_firstFailure, outcome_eq_firstFailure, hLeaves]
  · rw [allHold_eq_firstFailure, allHold_eq_firstFailure, h.leavesOf_eq]
  · rw [regrouped_iff, leavesOf_eq_flatMap, leavesOf_eq_flatMap]

/-- A failure inside of a conjunction comes before one that stands after it. -/
example :
    let late : Requirement := .check ⟨.level 3, false, "too young"⟩
    let early : Requirement := .check ⟨.friends 2, false, ""⟩
    allHold [.conjunction [.conjunction [], early], late] =
      .unmet "friends_requirement not met" := by
  decide

end Requirement

end Bounty
