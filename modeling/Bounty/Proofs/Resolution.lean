import Bounty.Resolution

/-! Resolutions that succeed wherever the dice stand. A sequence of such resolutions succeeds, so
that the reasons against a failure are given once for every log line and every roll. -/
namespace Bounty.Resolution

variable {σ α β : Type}

/-- A sequence goes on with the dice where the first part has left them, and its calls and lines
follow those of the first. -/
theorem bind_of_ok {r : Resolution σ α} {state : σ} {a : α} (h : (r state).outcome = .ok a)
    (next : α → Resolution σ β) :
    (r >>= next) state =
      let rest := next a (r state).dice
      ⟨rest.dice, (r state).calls ++ rest.calls, (r state).log ++ rest.log, rest.outcome⟩ := by
  change Resolution.bind r next state = _
  simp [Resolution.bind, h]

/-- A resolution has a value with some property, and asks only for rolls that there are, from every
state of the dice on. -/
def Succeeds (r : Resolution σ α) (post : α → Prop) : Prop :=
  ∀ state, (∃ a, (r state).outcome = .ok a ∧ post a) ∧ ∀ call ∈ (r state).calls, call.1 ≤ call.2

theorem succeeds_pure {a : α} {post : α → Prop} (h : post a) :
    (pure a : Resolution σ α).Succeeds post :=
  fun _ => ⟨⟨a, rfl, h⟩, fun _ hCall => nomatch hCall⟩

/-- A sequence succeeds where the first part does and the second does from every value that this can
have. -/
theorem Succeeds.bind {r : Resolution σ α} {next : α → Resolution σ β} {post : α → Prop}
    {last : β → Prop} (hr : r.Succeeds post) (hNext : ∀ a, post a → (next a).Succeeds last) :
    (r >>= next).Succeeds last := by
  intro state
  obtain ⟨⟨a, hOutcome, ha⟩, hCalls⟩ := hr state
  obtain ⟨hLast, hRest⟩ := hNext a ha (r state).dice
  rw [bind_of_ok hOutcome]
  refine ⟨hLast, fun call hCall => ?_⟩
  rcases List.mem_append.mp hCall with hFirst | hOther
  · exact hCalls call hFirst
  · exact hRest call hOther

/-- Less may be said of the value. -/
theorem Succeeds.mono {r : Resolution σ α} {post weaker : α → Prop} (h : r.Succeeds post)
    (hPost : ∀ a, post a → weaker a) : r.Succeeds weaker := by
  intro state
  obtain ⟨⟨a, hOutcome, ha⟩, hCalls⟩ := h state
  exact ⟨⟨a, hOutcome, hPost a ha⟩, hCalls⟩

/-- A line whose integers can be written is logged as it is. -/
theorem log_of_isWritable {line : LogLine} (h : line.isWritable = true) (state : σ) :
    (log line : Resolution σ Unit) state = ⟨state, [], [line], .ok ()⟩ := by
  simp [log, h]

/-- Such a line is no obstacle from any state of the dice. -/
theorem succeeds_log {line : LogLine} (h : line.isWritable = true) :
    (log line : Resolution σ Unit).Succeeds fun _ => True := by
  intro state
  rw [log_of_isWritable h]
  exact ⟨⟨(), rfl, trivial⟩, fun _ hCall => nomatch hCall⟩

/-- Fair dice answer for every range that is not empty, with a number from it. -/
theorem succeeds_roll {dice : Dice σ} (hFair : dice.IsFair) {min max : Int} (h : min ≤ max) :
    (roll dice min max).Succeeds fun n => min ≤ n ∧ n ≤ max := by
  intro state
  obtain ⟨n, next, hRoll, hBounds⟩ := hFair state min max h
  simp only [roll, hRoll]
  refine ⟨⟨n, rfl, hBounds⟩, fun call hCall => ?_⟩
  rw [List.mem_singleton.mp hCall]
  exact h

end Bounty.Resolution
