import Bounty.Proofs.Reading

/-! Readings gone through again, step by step: with some steps treated in another way, where the
first that stops cuts off all that comes after it, or with a trace attached that takes the lines
of the steps as they arise. -/
namespace Bounty.Reading

variable {α β : Type}

/-- Takes the steps of a reading again, each as `treat` says, and then ends as the reading does. -/
def replay (treat : Step → Reading Unit) (r : Reading α) : Reading α :=
  r.steps.foldr (fun s rest => treat s >>= fun _ => rest) ⟨[], r.outcome⟩

section Replay

variable (treat : Step → Reading Unit)

@[simp] theorem replay_pure (a : α) : (pure a : Reading α).replay treat = pure a := rfl

/-- A single step is replaced by what is made of it. -/
theorem replay_step (s : Step) : (step s).replay treat = treat s := by
  change treat s >>= pure = treat s
  exact bind_pure _

theorem replay_step_bind (s : Step) (next : Unit → Reading α) :
    (step s >>= next).replay treat = treat s >>= fun _ => (next ()).replay treat := rfl

/-- What follows a replay may as well follow its last part. -/
private theorem foldr_bind (steps : List Step) (last : Reading α) (next : α → Reading β) :
    steps.foldr (fun s rest => treat s >>= fun _ => rest) last >>= next =
      steps.foldr (fun s rest => treat s >>= fun _ => rest) (last >>= next) := by
  induction steps with
  | nil => rfl
  | cons s rest ih =>
      rw [List.foldr_cons, bind_assoc, ih]
      rfl

/-- Replaying a sequence replays its parts in order. Where the first part has no value, nothing of
the second is ever reached. -/
theorem replay_bind (r : Reading α) (next : α → Reading β) :
    (r >>= next).replay treat = r.replay treat >>= fun a => (next a).replay treat := by
  unfold replay
  rw [foldr_bind]
  cases h : r.outcome with
  | error s => rw [bind_of_error h, bind_of_error rfl]
  | ok a =>
      rw [bind_of_ok h, List.foldr_append, bind_of_ok rfl]
      rfl

/-- To be the replay of another reading is a relation between readings that sequencing keeps. -/
theorem congruence_replay :
    Congruence fun α (r s : Reading α) => r.replay treat = s where
  pure a := replay_pure treat a
  bind hFirst hNext := by
    rw [replay_bind, hFirst]
    exact bind_congr hNext

variable {treat}

/-- A step that is left alone stays in front of whatever becomes of the others. -/
theorem replay_cons {s : Step} {steps : List Step} {outcome : Except Stop α}
    (h : treat s = step s) : (⟨s :: steps, outcome⟩ : Reading α).replay treat =
      ⟨s :: (replay treat ⟨steps, outcome⟩).steps, (replay treat ⟨steps, outcome⟩).outcome⟩ := by
  change treat s >>= (fun _ => replay treat ⟨steps, outcome⟩) = _
  rw [h, step_bind]

/-- A reading whose steps are all treated as they were is unchanged. -/
theorem replay_eq_self {r : Reading α} (h : ∀ s ∈ r.steps, treat s = step s) :
    r.replay treat = r := by
  obtain ⟨steps, outcome⟩ := r
  induction steps with
  | nil => rfl
  | cons s rest ih =>
      rw [replay_cons (h s (by simp)), ih fun t ht => h t (by simp_all)]

/-- The first step that is treated as a stop is the end of the replay. -/
theorem replay_of_first {r : Reading α} {before after last : List Step} {s : Step} {halt : Stop}
    (hSteps : r.steps = before ++ s :: after) (hBefore : ∀ t ∈ before, treat t = step t)
    (hStop : treat s = ⟨last, .error halt⟩) :
    r.replay treat = ⟨before ++ last, .error halt⟩ := by
  obtain ⟨steps, outcome⟩ := r
  subst hSteps
  induction before with
  | nil =>
      change treat s >>= (fun _ => replay treat ⟨after, outcome⟩) = _
      rw [hStop, bind_of_error rfl]
      rfl
  | cons t before ih =>
      rw [List.cons_append, replay_cons (hBefore t (by simp)),
        ih fun u hu => hBefore u (by simp [hu])]
      rfl

/-- What is recorded of a replay was recorded for one of the steps of the reading. -/
theorem mem_steps_replay {r : Reading α} {t : Step} (h : t ∈ (r.replay treat).steps) :
    ∃ s ∈ r.steps, t ∈ (treat s).steps := by
  obtain ⟨steps, outcome⟩ := r
  induction steps with
  | nil => simp [replay] at h
  | cons s rest ih =>
      change t ∈ (treat s >>= fun _ => replay treat ⟨rest, outcome⟩).steps at h
      cases hs : (treat s).outcome with
      | error halt =>
          rw [bind_of_error hs] at h
          exact ⟨s, by simp, h⟩
      | ok u =>
          rw [bind_of_ok hs] at h
          rcases List.mem_append.mp h with hHere | hRest
          · exact ⟨s, by simp, hHere⟩
          · obtain ⟨later, hLater, hTreat⟩ := ih hRest
            exact ⟨later, by simp [hLater], hTreat⟩

end Replay

/-- A reading with a trace attached, or without one. Each line is written down when its step is
taken, after all that the trace already holds. -/
def attached (r : Reading α) (trace : Option Trace) : Except Stop α × Option Trace :=
  (r.outcome, r.steps.foldl (fun trace s => trace.map (· ++ s.note?.toList)) trace)

/-- Writing to one trace throughout is the same for the parts of a sequence, the second going on
with what the first has left. -/
theorem attached_bind (r : Reading α) (next : α → Reading β) (trace : Option Trace) :
    (r >>= next).attached trace = match r.attached trace with
      | (.ok a, trace) => (next a).attached trace
      | (.error s, trace) => (.error s, trace) := by
  cases h : r.outcome with
  | error s => simp [attached, bind_of_error h, h]
  | ok a => simp [attached, bind_of_ok h, h]

/-- A trace has no say in how a reading ends, and only gets longer. -/
theorem attached_eq (r : Reading α) (trace : Option Trace) :
    r.attached trace = (r.outcome, trace.map (· ++ Step.notes r.steps)) := by
  obtain ⟨steps, outcome⟩ := r
  simp only [attached, Prod.mk.injEq, true_and]
  induction steps generalizing trace with
  | nil => simp [Step.notes]
  | cons s rest ih =>
      rw [List.foldl_cons, ih, Option.map_map]
      congr 1
      funext lines
      cases hs : s.note? <;> simp [Step.notes, hs]

end Bounty.Reading
