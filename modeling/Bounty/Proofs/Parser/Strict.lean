import Bounty.Proofs.Parser.Transfer
import Bounty.Proofs.Replay

/-! Strict and lenient reading. The strict parser does what the lenient one does up to the first
child that the lenient one passes over, and stops there. -/
namespace Bounty

variable {α : Type}

/-- The child that a step passes over, and the path of its parent. -/
def Step.ignored? : Step → Option (String × Path)
  | .ignored child parent => some (child, parent)
  | _ => none

/-- The children that a reading passes over, each with the path of its parent, in order. -/
def Reading.ignored (r : Reading α) : List (String × Path) := r.steps.filterMap Step.ignored?

/-- The lines of a reading report the children that it passes over and nothing else. -/
theorem Reading.notes_eq_map_ignored (r : Reading α) :
    Step.notes r.steps = r.ignored.map fun (child, parent) => ignoredLine child parent := by
  unfold Reading.ignored Step.notes
  rw [List.map_filterMap]
  congr 1
  funext s
  cases s <;> rfl

/-- What the strict parser makes of a step of the lenient one: a child without meaning, which is
told by its name and the path of its parent, is a fault, and nothing of it is recorded. -/
def Step.refused : Step → Reading Unit
  | .ignored child parent =>
    .fault (.strayChild child (parent.getLastD "")) child (parent ++ [child])
  | s => .step s

/-- Only notes about children are refused. -/
theorem Step.refused_eq_step {s : Step} (h : s.ignored? = none) : s.refused = .step s := by
  cases s with
  | ignored child parent => simp [Step.ignored?] at h
  | entered here => rfl
  | modifier here => rfl
  | requirement here => rfl

/-- What is left of a refused step is no note. -/
theorem Step.ignored?_of_mem_refused {s t : Step} (h : t ∈ s.refused.steps) :
    t.ignored? = none := by
  cases s with
  | ignored child parent => simp [Step.refused, Reading.fault, Reading.stop] at h
  | entered here | modifier here | requirement here =>
      simp only [Step.refused, Reading.step, List.mem_singleton] at h
      rw [h]
      rfl

namespace Reading

/-- A reading without notes is the same for the strict parser. -/
theorem replay_refused_eq_self {r : Reading α} (h : r.ignored = []) :
    r.replay Step.refused = r := by
  apply replay_eq_self
  intro s hs
  exact Step.refused_eq_step (List.filterMap_eq_nil_iff.mp h s hs)

/-- The first child that is passed over decides, whatever comes after it. -/
theorem outcome_replay_refused {r : Reading α} {child : String} {parent : Path}
    {rest : List (String × Path)} (h : r.ignored = (child, parent) :: rest) :
    (r.replay Step.refused).outcome = .error (.fault
      ⟨.strayChild child (parent.getLastD ""), ⟨child, parent ++ [child]⟩⟩) := by
  obtain ⟨before, s, after, hSteps, hBefore, hFirst, -⟩ := List.filterMap_eq_cons_iff.mp h
  have hStep : s = .ignored child parent := by
    cases s <;> simp_all [Step.ignored?]
  subst hStep
  rw [replay_of_first hSteps (fun t ht => Step.refused_eq_step (hBefore t ht)) rfl]

/-- A strict reading leaves no notes, whether it stops or not. -/
theorem ignored_replay_refused (r : Reading α) : (r.replay Step.refused).ignored = [] := by
  apply List.filterMap_eq_nil_iff.mpr
  intro t ht
  obtain ⟨s, -, hs⟩ := mem_steps_replay ht
  exact Step.ignored?_of_mem_refused hs

end Reading

namespace Parser

def strictly (p : Parser) : Parser := { p with strict := true }

def leniently (p : Parser) : Parser := { p with strict := false }

/-- The strict parser takes the steps of the lenient one, but stops at a child without meaning. -/
theorem transfer_refused (p : Parser) :
    Transfer p.leniently p.strictly 0 id fun _ lenient strict =>
      lenient.replay Step.refused = strict where
  toCongruence := Reading.congruence_replay Step.refused
  shift_append _ _ := rfl
  fault _ _ _ := rfl
  tooManyDigits _ := rfl
  entered _ _ _ := rfl
  tooDeep _ _ _ _ := rfl
  stray _ _ := rfl
  requirementKind path e := by
    apply Reading.replay_eq_self
    rw [steps_requirementKind]
    simp [Step.refused]
  modifierKind path e := by
    apply Reading.replay_eq_self
    rw [steps_modifierKind]
    simp [Step.refused]

/-- For a whole document too, strictness comes to a replay of the lenient reading. -/
theorem strictly_read (p : Parser) (entry : EntryPoint α) (e : Element) (path : Path) :
    p.strictly.read entry e path = (p.leniently.read entry e path).replay Step.refused := by
  by_cases hPath : path.length ≤ p.maxDepth
  · exact ((transfer_refused p).read entry e path hPath rfl).symm
  · have hDeep : p.maxDepth ≤ path.length := by omega
    rw [p.leniently.read_eq_tooDeep entry e hDeep, p.strictly.read_eq_tooDeep entry e hDeep]
    rfl

/-- The strict reading of a document, told by the lenient one. -/
structure StrictlyReads (lenient strict : Reading α) : Prop where
  /-- Where nothing is passed over, the two end alike. -/
  same : lenient.ignored = [] → strict.outcome = lenient.outcome
  /-- Else the first child that is passed over is the fault, however the lenient reading ends. -/
  refused (child : String) (parent : Path) (rest : List (String × Path)) :
    lenient.ignored = (child, parent) :: rest →
      strict.outcome = .error (.fault
        ⟨.strayChild child (parent.getLastD ""), ⟨child, parent ++ [child]⟩⟩)
  /-- The same values are read, but only where nothing is passed over. -/
  accepted (a : α) : strict.outcome = .ok a ↔ lenient.outcome = .ok a ∧ lenient.ignored = []
  /-- The lenient reading reports what it passes over, and no trace changes how it ends. -/
  reported (trace : Option Trace) : lenient.attached trace = (lenient.outcome,
    trace.map (· ++ lenient.ignored.map fun (child, parent) => ignoredLine child parent))
  /-- The strict reading leaves every trace as it is. -/
  silent (trace : Option Trace) : strict.attached trace = (strict.outcome, trace)

/-- Reading strictly is reading leniently up to the first child without meaning. -/
theorem strictlyReads_read (p : Parser) (entry : EntryPoint α) (e : Element) (path : Path) :
    StrictlyReads (p.leniently.read entry e path) (p.strictly.read entry e path) := by
  rw [strictly_read]
  generalize p.leniently.read entry e path = lenient
  refine ⟨fun h => ?_, fun _ _ _ h => lenient.outcome_replay_refused h, fun a => ?_, ?_, ?_⟩
  · rw [Reading.replay_refused_eq_self h]
  · cases h : lenient.ignored with
    | nil => simp [Reading.replay_refused_eq_self h]
    | cons first rest => simp [lenient.outcome_replay_refused h]
  · intro trace
    rw [Reading.attached_eq, Reading.notes_eq_map_ignored]
  · intro trace
    rw [Reading.attached_eq, Reading.notes_eq_map_ignored, Reading.ignored_replay_refused]
    cases trace <;> simp

end Parser

end Bounty
