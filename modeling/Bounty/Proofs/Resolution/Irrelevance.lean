import Bounty.Dice.Script
import Bounty.Proofs.Resolution.Selection

/-! What is not selected has no say. Branches that are not taken, alternatives that are not picked
and those that are excluded may be replaced by anything, and conditions by others that come to the
same outcome: every roll, every line of the log and every grant stays as it is. -/
namespace Bounty.Modifier

variable {σ : Type}

/-- Two lists that differ at most in what a resolution of the first, from a state of the dice on,
does not select. -/
inductive Alike (dice : Dice σ) : σ → List Modifier → List Modifier → Prop where
  | nil {state : σ} : Alike dice state [] []
  | same {state : σ} {m : Modifier} {ms ns : List Modifier} :
    (∀ grants, (m.resolve dice state).outcome = .ok grants →
      Alike dice (m.resolve dice state).dice ms ns) →
    Alike dice state (m :: ms) (m :: ns)
  | ifThenElse {state : σ} {condition condition' : List Requirement}
    {thenBranch thenBranch' elseBranch elseBranch' ms ns : List Modifier} :
    Requirement.allHold condition' = Requirement.allHold condition →
    Alike dice state (selected condition thenBranch elseBranch)
      (selected condition thenBranch' elseBranch') →
    (∀ grants,
      ((ifThenElse condition thenBranch elseBranch).resolve dice state).outcome = .ok grants →
      Alike dice ((ifThenElse condition thenBranch elseBranch).resolve dice state).dice ms ns) →
    Alike dice state (.ifThenElse condition thenBranch elseBranch :: ms)
      (.ifThenElse condition' thenBranch' elseBranch' :: ns)
  | randomChoice {state : σ} {entries others : List Choice} {ms ns : List Modifier} :
    List.Forall₂ Choice.Alike entries others →
    (∀ index picked, (pick dice entries state).outcome = .ok (some (index, picked)) →
      ∀ entry other, entries[index]? = some entry → others[index]? = some other →
        Alike dice (pick dice entries state).dice entry.modifiers other.modifiers) →
    (∀ grants, ((randomChoice entries).resolve dice state).outcome = .ok grants →
      Alike dice ((randomChoice entries).resolve dice state).dice ms ns) →
    Alike dice state (.randomChoice entries :: ms) (.randomChoice others :: ns)

variable {dice : Dice σ} {state : σ}

theorem resolveAll_cons_apply (m : Modifier) (ms : List Modifier) :
    resolveAll dice (m :: ms) state =
      (m.resolve dice state).andThen (resolveAll dice ms (m.resolve dice state).dice) := by
  rw [resolveAll, Resolution.bind_append_apply]

/-- Where the first modifier comes to the same, and the others do after it, the lists do. -/
theorem resolveAll_cons_congr {m n : Modifier} {ms ns : List Modifier}
    (hHead : n.resolve dice state = m.resolve dice state)
    (hRest : ∀ grants, (m.resolve dice state).outcome = .ok grants →
      resolveAll dice ns (m.resolve dice state).dice =
        resolveAll dice ms (m.resolve dice state).dice) :
    resolveAll dice (n :: ns) state = resolveAll dice (m :: ms) state := by
  rw [resolveAll_cons_apply, resolveAll_cons_apply, hHead]
  cases h : (m.resolve dice state).outcome with
  | error failure => rw [Run.andThen_of_error h, Run.andThen_of_error h]
  | ok grants => rw [hRest grants h]

/-- A conditional depends on what its condition comes to and on the branch that is taken. -/
theorem resolve_ifThenElse_congr {condition condition' : List Requirement}
    {thenBranch thenBranch' elseBranch elseBranch' : List Modifier}
    (hCondition : Requirement.allHold condition' = Requirement.allHold condition)
    (hBranch : resolveAll dice (selected condition thenBranch' elseBranch') state =
      resolveAll dice (selected condition thenBranch elseBranch) state) :
    (ifThenElse condition' thenBranch' elseBranch').resolve dice state =
      (ifThenElse condition thenBranch elseBranch).resolve dice state := by
  have hLine : branchLine condition' = branchLine condition := by
    rw [branchLine, hCondition, branchLine]
  have hSelected : selected condition' thenBranch' elseBranch' =
      selected condition thenBranch' elseBranch' := by
    rw [selected, hCondition, selected]
  rw [resolve_ifThenElse, resolve_ifThenElse, hLine, hSelected, log_branchLine_bind,
    log_branchLine_bind, hBranch]

/-- A choice depends on what its pick looks at and on the modifiers of the entry picked. -/
theorem resolve_randomChoice_congr {entries others : List Choice}
    (hEntries : List.Forall₂ Choice.Alike entries others)
    (hPicked : ∀ index picked, (pick dice entries state).outcome = .ok (some (index, picked)) →
      ∀ entry other, entries[index]? = some entry → others[index]? = some other →
        resolveAll dice other.modifiers (pick dice entries state).dice =
          resolveAll dice entry.modifiers (pick dice entries state).dice) :
    (randomChoice others).resolve dice state = (randomChoice entries).resolve dice state := by
  rw [resolve, resolve]
  refine (Run.Agree.bind (pick_agree dice hEntries state) fun picked other hRun _ hSame => ?_).eq
  cases hSame with
  | none => exact Run.agree_refl _
  | @some candidate candidate' hChance =>
      obtain ⟨index, entry⟩ := candidate
      obtain ⟨index', entry'⟩ := candidate'
      obtain rfl : index' = index := hChance.1
      have hRest : resolveEntryAt dice others index' (pick dice entries state).dice =
          resolveEntryAt dice entries index' (pick dice entries state).dice := by
        rw [resolveEntryAt_eq, resolveEntryAt_eq]
        -- the place that is picked is one of both lists or of none
        have hLength := hEntries.length_eq
        by_cases hIndex : index' < entries.length
        · have hOther : index' < others.length := by omega
          rw [List.getElem?_eq_getElem hIndex, List.getElem?_eq_getElem hOther]
          exact hPicked index' entry hRun _ _ (List.getElem?_eq_getElem hIndex)
            (List.getElem?_eq_getElem hOther)
        · have hOther : ¬ index' < others.length := by omega
          rw [List.getElem?_eq_none (by omega), List.getElem?_eq_none (by omega)]
      simp only [hRest, Run.agree_refl]

/-- Lists that differ only in what is not selected come to the same: the dice are asked the same
and left alike, and the log and the grants, or the failure, are the same. By induction on how the
lists differ, which follows the resolution of the first of them. -/
theorem resolveAll_eq_of_alike {ms ns : List Modifier} (h : Alike dice state ms ns) :
    resolveAll dice ns state = resolveAll dice ms state := by
  induction h with
  | nil => rfl
  | same _ ih => exact resolveAll_cons_congr rfl ih
  | ifThenElse hCondition _ _ ihBranch ihRest =>
      exact resolveAll_cons_congr (resolve_ifThenElse_congr hCondition ihBranch) ihRest
  | randomChoice hEntries _ _ ihPicked ihRest =>
      exact resolveAll_cons_congr (resolve_randomChoice_congr hEntries ihPicked) ihRest

/-- Some experience for those who may have it, then one of three alternatives, the second of which
is excluded, and some experience once more. -/
def chest (otherwise : List Modifier) (excludedWeight : Int) (excluded unpicked : List Modifier)
    (free : List Requirement) : List Modifier :=
  [.ifThenElse free [.grantXpRange 1 6] otherwise,
    .randomChoice [⟨2, [.grantXpRange 1 10], free⟩,
      ⟨excludedWeight, excluded, [.check ⟨.never, false, "closed"⟩]⟩, ⟨3, unpicked, []⟩],
    .grantXpRange 1 6]

/-- The second roll is 2, which picks the first alternative. -/
def chestScript : Script := ⟨[4, 2, 7, 5], []⟩

/-- The chests differ in a branch that is not taken, in an entry that is not eligible, in one that
is not picked, and in conditions that come to the same. -/
theorem alike_chest : Alike Script.dice chestScript (chest [] 1 [] [] [])
    (chest [.grantXpRange 1 6] 90 [.removeItems] [.grantXpRange 7 1] [.conjunction []]) := by
  refine .ifThenElse rfl (.same fun _ _ => .nil) fun _ _ => ?_
  refine .randomChoice ?_ ?_ fun _ _ => .same fun _ _ => .nil
  · exact .cons ⟨rfl, fun _ => rfl⟩ (.cons ⟨rfl, fun h => nomatch h⟩
      (.cons ⟨rfl, fun _ => rfl⟩ .nil))
  · intro index picked hPick entry other hEntry hOther
    have hPlace := congrArg (Except.map (Option.map Prod.fst)) hPick
    have hFirst : (.ok (some 0) : Except Failure (Option Nat)) = .ok (some index) :=
      Eq.trans (by decide +kernel) hPlace
    cases hFirst
    cases hEntry
    cases hOther
    exact .same fun _ _ => .nil

theorem resolveAll_eq_of_alike_chest :
    Alike Script.dice chestScript (chest [] 1 [] [] [])
      (chest [.grantXpRange 1 6] 90 [.removeItems] [.grantXpRange 7 1] [.conjunction []]) ∧
    resolveAll Script.dice
      (chest [.grantXpRange 1 6] 90 [.removeItems] [.grantXpRange 7 1] [.conjunction []])
      chestScript = resolveAll Script.dice (chest [] 1 [] [] []) chestScript :=
  ⟨alike_chest, resolveAll_eq_of_alike alike_chest⟩

end Bounty.Modifier
