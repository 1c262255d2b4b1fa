import Bounty.Proofs.Parser.Transfer
import Bounty.Proofs.Replay

/-! The depth limit. A parser with a smaller limit takes the steps of one with a larger limit, but
stops at the first element that lies too deep for it; in nothing else do the two differ. -/
namespace Bounty

variable {α : Type}

/-- The path of the element that a step enters. -/
def Step.entered? : Step → Option Path
  | .entered here => some here
  | _ => none

/-- The paths of the elements that a reading enters, in order. -/
def Reading.visited (r : Reading α) : List Path := r.steps.filterMap Step.entered?

/-- What a limit makes of a step: an element with more names on its path is entered still, but is
a fault. -/
def Step.limited (limit : Nat) : Step → Reading Unit
  | .entered here =>
    if limit < here.length then
      ⟨[.entered here], .error (.fault ⟨.tooDeep limit, ⟨here.getLastD "", here⟩⟩)⟩
    else .step (.entered here)
  | s => .step s

/-- Within the limit a step is taken as before. -/
theorem Step.limited_of_length_le {limit : Nat} {here : Path} (h : here.length ≤ limit) :
    (Step.entered here).limited limit = .step (.entered here) := by
  simp [Step.limited, Nat.not_lt.mpr h]

/-- Beyond it the step is still recorded, and then it is a fault. -/
theorem Step.limited_of_lt_length {limit : Nat} {here : Path} (h : limit < here.length) :
    (Step.entered here).limited limit =
      ⟨[.entered here], .error (.fault ⟨.tooDeep limit, ⟨here.getLastD "", here⟩⟩)⟩ := by
  simp [Step.limited, h]

/-- Only steps into elements are limited. -/
theorem Step.limited_eq_step {limit : Nat} {s : Step}
    (h : ∀ here, s.entered? = some here → here.length ≤ limit) : s.limited limit = .step s := by
  cases s with
  | entered here => exact Step.limited_of_length_le (h here rfl)
  | modifier here | requirement here | ignored child parent => rfl

/-- A reading that stays within the limit is the same under it. -/
theorem Reading.replay_limited_eq_self {r : Reading α} {limit : Nat}
    (h : ∀ here ∈ r.visited, here.length ≤ limit) : r.replay (Step.limited limit) = r := by
  apply Reading.replay_eq_self
  intro s hs
  exact Step.limited_eq_step fun here hHere => h here (List.mem_filterMap.mpr ⟨s, hs, hHere⟩)

/-- Under a limit, a reading ends at the first element that it enters beyond the limit. -/
theorem Reading.outcome_replay_limited {r : Reading α} {limit : Nat}
    (h : ∃ here ∈ r.visited, limit < here.length) :
    ∃ here, r.visited.find? (limit < ·.length) = some here ∧
      (r.replay (Step.limited limit)).outcome =
        .error (.fault ⟨.tooDeep limit, ⟨here.getLastD "", here⟩⟩) := by
  obtain ⟨here, hFirst⟩ : ∃ here, r.visited.find? (limit < ·.length) = some here := by
    simpa [List.find?_isSome, ← Option.isSome_iff_exists] using h
  refine ⟨here, hFirst, ?_⟩
  obtain ⟨hDeep, before, after, hVisited, hBefore⟩ := List.find?_eq_some_iff_append.mp hFirst
  obtain ⟨earlier, rest, hSteps, hEarlier, hRest⟩ := List.filterMap_eq_append_iff.mp hVisited
  obtain ⟨silent, s, later, hLater, hSilent, hEntered, -⟩ := List.filterMap_eq_cons_iff.mp hRest
  have hStep : s = .entered here := by
    cases s <;> simp_all [Step.entered?]
  subst hStep
  have hAll : r.steps = (earlier ++ silent) ++ .entered here :: later := by
    rw [hSteps, hLater, List.append_assoc]
  rw [Reading.replay_of_first hAll ?_ (Step.limited_of_lt_length (by simpa using hDeep))]
  intro t ht
  apply Step.limited_eq_step
  intro visited hEntered
  rcases List.mem_append.mp ht with hIn | hIn
  · have hNot := hBefore visited (hEarlier ▸ List.mem_filterMap.mpr ⟨t, hIn, hEntered⟩)
    simpa using hNot
  · simp [hSilent t hIn] at hEntered

/-- The first path beyond a limit is also the first with exactly one name too many, where it has no
more than that. -/
theorem find?_length_eq {paths : List Path} {limit : Nat} {here : Path}
    (hFirst : paths.find? (limit < ·.length) = some here) (hLength : here.length = limit + 1) :
    paths.find? (·.length = limit + 1) = some here := by
  obtain ⟨-, before, after, hPaths, hBefore⟩ := List.find?_eq_some_iff_append.mp hFirst
  refine List.find?_eq_some_iff_append.mpr ⟨by simp [hLength], before, after, hPaths, ?_⟩
  intro earlier hEarlier
  have hNot := hBefore earlier hEarlier
  simp only [Bool.not_eq_true', decide_eq_false_iff_not] at hNot ⊢
  omega

/-- Only elements exactly one level below the limit are found to lie too deep. -/
def Stop.IsAtLimit (limit : Nat) (s : Stop) : Prop :=
  ∀ shown place, s = .fault ⟨.tooDeep shown, place⟩ →
    shown = limit ∧ place.path.length = limit + 1

namespace Parser

def withDepth (p : Parser) (maxDepth : Nat) : Parser := { p with maxDepth }

/-- The parser with fewer levels takes each step of the other as the limit says. -/
theorem transfer_limited (p : Parser) (limit deep : Nat) :
    Transfer (p.withDepth deep) (p.withDepth limit) (deep - limit) id fun _ larger smaller =>
      larger.replay (Step.limited limit) = smaller where
  toCongruence := Reading.congruence_replay (Step.limited limit)
  shift_append _ _ := rfl
  fault _ _ _ := rfl
  tooManyDigits _ := rfl
  entered path name hLength := by
    change path.length < limit at hLength
    rw [Reading.replay_step]
    exact Step.limited_of_length_le (by simpa using Nat.succ_le_of_lt hLength)
  tooDeep path e hLength rest := by
    have hDeep : limit < (path ++ [e.name]).length := by
      change path.length = limit at hLength
      simp [hLength]
    have hStop := Step.limited_of_lt_length hDeep
    rw [List.getLastD_concat] at hStop
    cases hSlack : deep - limit with
    | zero =>
        change (Reading.step (.entered (path ++ [e.name])) >>= fun _ =>
          (.fault (.tooDeep deep) e.name (path ++ [e.name]) >>= rest)).replay _ = _
        rw [Reading.replay_step_bind, hStop, Reading.bind_of_error rfl]
        rfl
    | succ slack =>
        change (Reading.step (.entered (path ++ [e.name])) >>= fun _ =>
          rest (path ++ [e.name])).replay _ = _
        rw [Reading.replay_step_bind, hStop, Reading.bind_of_error rfl]
        rfl
  stray _ child := by
    apply Reading.replay_eq_self
    cases hStrict : p.strict <;>
      simp [stray, withDepth, hStrict, Reading.fault, Reading.stop, Reading.step, Step.limited]
  requirementKind path e := by
    apply Reading.replay_eq_self
    rw [steps_requirementKind]
    simp [Step.limited]
  modifierKind path e := by
    apply Reading.replay_eq_self
    rw [steps_modifierKind]
    simp [Step.limited]

/-- For a whole document too, the smaller limit comes to a replay of the larger one. -/
theorem withDepth_read (p : Parser) {limit deep : Nat} (hLimit : limit ≤ deep)
    (entry : EntryPoint α) (e : Element) (path : Path) (hPath : path.length ≤ limit) :
    (p.withDepth limit).read entry e path =
      ((p.withDepth deep).read entry e path).replay (Step.limited limit) := by
  refine ((p.transfer_limited limit deep).read entry e path hPath ?_).symm
  change deep - path.length = limit - path.length + (deep - limit)
  omega

/-- Compared with itself, a parser keeps every fact about the stops of its single steps. -/
theorem transfer_isAtLimit (p : Parser) :
    Transfer p p 0 id fun _ r _ => r.Ensures (fun _ => True) (Stop.IsAtLimit p.maxDepth) where
  toCongruence := Reading.congruence_ensures _
  shift_append _ _ := rfl
  fault _ _ hCause := Reading.ensures_fault fun shown _ hStop => by
    cases hStop
    exact absurd rfl (hCause shown)
  tooManyDigits _ := Reading.ensures_stop nofun
  entered _ _ _ := Reading.ensures_step trivial
  tooDeep path e hLength rest := by
    change Stop.IsAtLimit p.maxDepth (.fault ⟨.tooDeep p.maxDepth, ⟨e.name, path ++ [e.name]⟩⟩)
    intro shown place hStop
    cases hStop
    exact ⟨rfl, by simpa using hLength⟩
  stray _ child := by
    unfold stray
    split
    · exact Reading.ensures_fault nofun
    · exact Reading.ensures_step trivial
  requirementKind path e := by
    unfold requirementKind
    cases p.requirementTable.lookup e.name with
    | some kind => trivial
    | none => exact fun _ _ hStop => by cases hStop
  modifierKind path e := by
    unfold modifierKind
    cases p.modifierTable.lookup e.name with
    | some kind => trivial
    | none => exact fun _ _ hStop => by cases hStop

/-- No reading goes more than one name beyond its limit. -/
theorem isAtLimit_of_read (p : Parser) (entry : EntryPoint α) (e : Element) (path : Path)
    (hPath : path.length ≤ p.maxDepth) {s : Stop}
    (hStop : (p.read entry e path).outcome = .error s) : s.IsAtLimit p.maxDepth :=
  ((transfer_isAtLimit p).read entry e path hPath rfl).of_error hStop

/-- The reading of a document under a limit, told by the reading under a larger one. -/
structure LimitedReads (limit : Nat) (larger smaller : Reading α) : Prop where
  /-- The limit has no effect but to find a document too deep. -/
  same : (∀ shown place, smaller.outcome ≠ .error (.fault ⟨.tooDeep shown, place⟩)) →
    smaller.outcome = larger.outcome ∧ Step.notes smaller.steps = Step.notes larger.steps
  /-- The element that lies too deep is one level below the limit, which is told with it. -/
  located (shown : Int) (place : Place) :
    smaller.outcome = .error (.fault ⟨.tooDeep shown, place⟩) →
      shown = limit ∧ place.path.length = limit + 1
  /-- Where no element lies too deep, all is read as under the larger limit. -/
  within : (∀ here ∈ larger.visited, here.length ≤ limit) → smaller = larger
  /-- Else the first element with one name too many on its path is the fault. -/
  beyond : (∃ here ∈ larger.visited, limit < here.length) →
    ∃ here, larger.visited.find? (·.length = limit + 1) = some here ∧
      smaller.outcome = .error (.fault ⟨.tooDeep limit, ⟨here.getLastD "", here⟩⟩)

/-- Of two limits on the depth, the smaller one has no effect but to stop at the first element that
lies too deep for it. -/
theorem limitedReads_read (p : Parser) {limit deep : Nat} (hLimit : limit ≤ deep)
    (entry : EntryPoint α) (e : Element) (path : Path) (hPath : path.length ≤ limit) :
    LimitedReads limit ((p.withDepth deep).read entry e path)
      ((p.withDepth limit).read entry e path) := by
  have hLocated (shown : Int) (place : Place)
      (hStop : ((p.withDepth limit).read entry e path).outcome =
        .error (.fault ⟨.tooDeep shown, place⟩)) :
      shown = limit ∧ place.path.length = limit + 1 :=
    (p.withDepth limit).isAtLimit_of_read entry e path hPath hStop shown place rfl
  rw [p.withDepth_read hLimit entry e path hPath] at hLocated ⊢
  generalize (p.withDepth deep).read entry e path = larger at hLocated ⊢
  have hBeyond (h : ∃ here ∈ larger.visited, limit < here.length) :
      ∃ here, larger.visited.find? (·.length = limit + 1) = some here ∧
        (larger.replay (Step.limited limit)).outcome =
          .error (.fault ⟨.tooDeep limit, ⟨here.getLastD "", here⟩⟩) := by
    obtain ⟨here, hFirst, hOutcome⟩ := Reading.outcome_replay_limited h
    exact ⟨here, find?_length_eq hFirst (hLocated limit _ hOutcome).2, hOutcome⟩
  refine ⟨?_, hLocated, Reading.replay_limited_eq_self, hBeyond⟩
  intro hNotDeep
  by_cases h : ∃ here ∈ larger.visited, limit < here.length
  · obtain ⟨here, -, hFault⟩ := hBeyond h
    exact absurd hFault (hNotDeep _ _)
  · rw [Reading.replay_limited_eq_self fun here hHere =>
      Nat.le_of_not_lt fun hDeep => h ⟨here, hHere, hDeep⟩]
    exact ⟨rfl, rfl⟩

/-- An alternative of a choice at the third level is within three levels and beyond two. -/
theorem limitedReads_choice :
    let e : Element :=
      ⟨"modifiers", [], [⟨"random_choice", [], [⟨"choice", [("weight", "1")], []⟩]⟩]⟩
    2 ≤ 3 ∧ ([] : Path).length ≤ 2 ∧
      LimitedReads 2 ((standard.withDepth 3).read .modifiers e)
        ((standard.withDepth 2).read .modifiers e) ∧
      ((standard.withDepth 2).read .modifiers e).outcome = .error (.fault
        ⟨.tooDeep 2, ⟨"choice", ["modifiers", "random_choice", "choice"]⟩⟩) :=
  ⟨by decide, by decide, limitedReads_read standard (by decide) .modifiers _ [] (by decide), rfl⟩

end Parser

end Bounty
