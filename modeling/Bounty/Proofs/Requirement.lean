import Bounty.Requirement

/-! Several requirements together. They hold where each of them does, and else they come to what
the first of them comes to that does not. -/
namespace Bounty.Requirement

/-- An outcome is met where it holds; there is no third case. -/
theorem outcome_eq_met_iff {r : Requirement} : r.outcome = .met ↔ r.outcome.holds = true := by
  cases r.outcome <;> simp [Outcome.holds]

/-- The outcome of several requirements is that of the first one that does not hold. -/
theorem allHold_eq_find? (rs : List Requirement) :
    allHold rs = ((rs.find? (!·.outcome.holds)).map outcome).getD .met := by
  induction rs with
  | nil => rfl
  | cons r rest ih =>
      rw [allHold, ih, List.find?_cons]
      cases h : r.outcome <;> simp [Outcome.both, Outcome.holds, h]

/-- All hold together where each one does by itself. -/
theorem allHold_eq_met_iff {rs : List Requirement} :
    allHold rs = .met ↔ rs.all (·.outcome.holds) = true := by
  induction rs with
  | nil => simp [allHold]
  | cons r rest ih => cases h : r.outcome <;> simp_all [allHold, Outcome.both, Outcome.holds]

/-- The reason is that of the first requirement which does not hold. -/
theorem allHold_eq_unmet_iff {rs : List Requirement} {reason : String} :
    allHold rs = .unmet reason ↔
      ∃ r, rs.find? (!·.outcome.holds) = some r ∧ r.outcome = .unmet reason := by
  rw [allHold_eq_find?]
  cases rs.find? (!·.outcome.holds) <;> simp

end Bounty.Requirement
