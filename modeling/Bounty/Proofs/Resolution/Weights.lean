import Mathlib.Data.Int.Interval
import Mathlib.Data.Set.Card
import Bounty.Dice.Script
import Bounty.Proofs.Requirement
import Bounty.Proofs.Resolution.Pick
import Bounty.Proofs.Resolution.Sequence

/-! The chances of a pick. The eligible entries divide the rolls from one to their total weight
among themselves, in their order: each has as many of them as it weighs, and no other entry has
any. -/
namespace Bounty

variable {σ : Type}

/-- Whether every requirement of an entry holds. -/
def Entry.isEligible (entry : Choice) : Bool := entry.requirements.all (·.outcome.holds)

/-- The eligible entries, each with its place among all of them, counted from `first` on. -/
def candidates (entries : List Choice) (first : Nat := 0) : List (Nat × Choice) :=
  ((entries.zipIdx first).filter (·.1.isEligible)).map Prod.swap

/-- The lines about the entries that are left out, each with the reason of the first requirement
that does not hold. -/
def exclusions (entries : List Choice) (first : Nat := 0) : List LogLine :=
  (entries.zipIdx first).filterMap fun (entry, index) =>
    (entry.requirements.find? (!·.outcome.holds)).map fun r => .excluded index r.outcome.reason

/-- What the first candidates up to a number of them weigh together. -/
def weightUpTo (candidates : List (Nat × Choice)) (count : Nat) : Int :=
  ((candidates.take count).map (·.2.weight)).sum

section Eligible

variable {entry : Choice} {rest : List Choice} {first : Nat}

/-- An entry with requirements that hold is a candidate. -/
theorem candidates_cons_of_met (h : Requirement.allHold entry.requirements = .met) :
    candidates (entry :: rest) first = (first, entry) :: candidates rest (first + 1) := by
  have hEligible : entry.isEligible = true := Requirement.allHold_eq_met_iff.mp h
  simp [candidates, hEligible]

theorem candidates_cons_of_unmet {reason : String}
    (h : Requirement.allHold entry.requirements = .unmet reason) :
    candidates (entry :: rest) first = candidates rest (first + 1) := by
  have hEligible : ¬ entry.isEligible = true := fun hAll => by
    simp [Requirement.allHold_eq_met_iff.mpr hAll] at h
  simp [candidates, hEligible]

theorem exclusions_cons_of_met (h : Requirement.allHold entry.requirements = .met) :
    exclusions (entry :: rest) first = exclusions rest (first + 1) := by
  have hNone : entry.requirements.find? (!·.outcome.holds) = none := by
    simpa using Requirement.allHold_eq_met_iff.mp h
  simp [exclusions, hNone]

/-- An entry that is left out is told of, with its place and the first reason against it. -/
theorem exclusions_cons_of_unmet {reason : String}
    (h : Requirement.allHold entry.requirements = .unmet reason) :
    exclusions (entry :: rest) first = .excluded first reason :: exclusions rest (first + 1) := by
  obtain ⟨r, hFirst, hUnmet⟩ := Requirement.allHold_eq_unmet_iff.mp h
  simp [exclusions, hFirst, hUnmet, Outcome.reason]

end Eligible

/-- Without a roll, the entries are told apart and the others are logged. -/
theorem eligible_eq (first : Nat) (entries : List Choice) (state : σ) :
    eligible first entries state =
      ⟨state, [], exclusions entries first, .ok (candidates entries first)⟩ := by
  induction entries generalizing first with
  | nil => rfl
  | cons entry rest ih =>
      rw [eligible]
      cases h : Requirement.allHold entry.requirements with
      | met =>
          dsimp only
          rw [candidates_cons_of_met h, exclusions_cons_of_met h,
            Resolution.bind_of_ok (a := candidates rest (first + 1)) (by rw [ih])]
          simp [ih, Resolution.pure_apply]
      | unmet reason =>
          have hLine : (Resolution.log (.excluded first reason) : Resolution σ Unit) state =
              ⟨state, [], [.excluded first reason], .ok ()⟩ :=
            Resolution.log_of_isWritable rfl state
          dsimp only
          rw [candidates_cons_of_unmet h, exclusions_cons_of_unmet h,
            Resolution.bind_of_ok (a := ()) (by rw [hLine])]
          simp [hLine, ih]

section WeightUpTo

variable {cs : List (Nat × Choice)}

@[simp] theorem weightUpTo_zero (cs : List (Nat × Choice)) : weightUpTo cs 0 = 0 := by
  simp [weightUpTo]

@[simp] theorem weightUpTo_cons_succ (c : Nat × Choice) (rest : List (Nat × Choice))
    (count : Nat) :
    weightUpTo (c :: rest) (count + 1) = c.2.weight + weightUpTo rest count := by
  simp [weightUpTo]

theorem weightUpTo_succ {k : Nat} {c : Nat × Choice} (h : cs[k]? = some c) :
    weightUpTo cs (k + 1) = weightUpTo cs k + c.2.weight := by
  simp [weightUpTo, List.take_add_one, h]

/-- All candidates together weigh what is reached at the last of them. -/
theorem totalWeight_eq_weightUpTo (cs : List (Nat × Choice)) :
    totalWeight (cs.map (·.2)) = weightUpTo cs cs.length := by
  induction cs with
  | nil => rfl
  | cons c rest ih => rw [List.map_cons, totalWeight_cons, ih, List.length_cons,
      weightUpTo_cons_succ]

/-- More candidates weigh no less. -/
theorem weightUpTo_mono (hWeights : ∀ c ∈ cs, 1 ≤ c.2.weight) {j k : Nat} (hLe : j ≤ k) :
    weightUpTo cs j ≤ weightUpTo cs k := by
  refine monotone_nat_of_le_succ (fun k => ?_) hLe
  cases h : cs[k]? with
  | none => simp [weightUpTo, List.take_add_one, h]
  | some c =>
      have hWeight := hWeights c (List.mem_of_getElem? h)
      rw [weightUpTo_succ h]
      omega

/-- A roll that is not above the whole falls on the first candidate up to which the weights reach
it. -/
theorem exists_entryAt {roll passed : Int} (hSome : cs ≠ [])
    (hRoll : roll ≤ passed + weightUpTo cs cs.length) :
    ∃ k c, cs[k]? = some c ∧ entryAt roll passed cs = some c ∧
      roll ≤ passed + weightUpTo cs (k + 1) ∧ ∀ j < k, passed + weightUpTo cs (j + 1) < roll := by
  induction cs generalizing passed with
  | nil => exact absurd rfl hSome
  | cons c rest ih =>
      rw [List.length_cons, weightUpTo_cons_succ] at hRoll
      by_cases hHere : roll ≤ passed + c.2.weight
      · exact ⟨0, c, rfl, by rw [entryAt, if_pos hHere], by simpa using hHere, by simp⟩
      · have hRest : rest ≠ [] := by
          rintro rfl
          simp at hRoll
          omega
        have hBelow : roll ≤ passed + c.2.weight + weightUpTo rest rest.length := by omega
        obtain ⟨k, found, hPlace, hFound, hReach, hLeast⟩ := ih hRest hBelow
        refine ⟨k + 1, found, hPlace, by rw [entryAt, if_neg hHere, hFound], ?_, ?_⟩
        · rw [weightUpTo_cons_succ]
          omega
        · intro j hj
          cases j with
          | zero => simpa using hHere
          | succ j =>
              have hEarlier := hLeast j (by omega)
              rw [weightUpTo_cons_succ]
              omega

theorem mem_of_entryAt {roll passed : Int} {c : Nat × Choice}
    (h : entryAt roll passed cs = some c) : c ∈ cs := by
  induction cs generalizing passed with
  | nil => cases h
  | cons d rest ih =>
      rw [entryAt] at h
      split at h
      · cases h
        simp
      · simp [ih h]

/-- A roll above the whole falls on nothing. -/
theorem entryAt_eq_none {roll passed : Int} (hWeights : ∀ c ∈ cs, 1 ≤ c.2.weight)
    (hRoll : passed + weightUpTo cs cs.length < roll) : entryAt roll passed cs = none := by
  induction cs generalizing passed with
  | nil => rfl
  | cons c rest ih =>
      have hRest : ∀ d ∈ rest, 1 ≤ d.2.weight := fun d hd => hWeights d (by simp [hd])
      have hPositive : 0 ≤ weightUpTo rest rest.length :=
        weightUpTo_mono hRest (Nat.zero_le rest.length)
      rw [List.length_cons, weightUpTo_cons_succ] at hRoll
      rw [entryAt, if_neg (by omega), ih hRest (by omega)]

end WeightUpTo

/-- What becomes of a pick among some candidates once a number is rolled. -/
def award (cs : List (Nat × Choice)) (roll : Int) : Resolution σ (Option (Nat × Choice)) :=
  let total := weightUpTo cs cs.length
  match entryAt roll 0 cs with
  | some (index, entry) => do
    .log (.picked roll total entry.weight)
    return some (index, entry)
  | none =>
    if Numeral.isWritable roll && Numeral.isWritable total then .fail (.rollTooHigh roll total)
    else .fail .tooLongToWrite

section Award

variable {cs : List (Nat × Choice)} {roll : Int}

/-- A roll that falls on a candidate is told of and picks it. -/
theorem award_of_entryAt {c : Nat × Choice} (h : entryAt roll 0 cs = some c)
    (hWritable : (LogLine.picked roll (weightUpTo cs cs.length) c.2.weight).isWritable = true)
    (state : σ) :
    award cs roll state =
      ⟨state, [], [.picked roll (weightUpTo cs cs.length) c.2.weight], .ok (some c)⟩ := by
  have hLine := Resolution.log_of_isWritable hWritable state
  simp only [award, h]
  rw [Resolution.bind_of_ok (a := ()) (by rw [hLine]), hLine]
  rfl

theorem award_of_none (h : entryAt roll 0 cs = none) (hRoll : Numeral.isWritable roll = true)
    (hTotal : Numeral.isWritable (weightUpTo cs cs.length) = true) (state : σ) :
    award cs roll state =
      ⟨state, [], [], .error (.rollTooHigh roll (weightUpTo cs cs.length))⟩ := by
  simp [award, h, hRoll, hTotal, Resolution.fail]

/-- Either the candidate is awarded that the roll falls on, or nothing comes of it. -/
theorem award_cases (cs : List (Nat × Choice)) (roll : Int) (state : σ) :
    (∃ c line, entryAt roll 0 cs = some c ∧ award cs roll state =
      ⟨state, [], [line], .ok (some c)⟩) ∨
    ∃ failure, award cs roll state = ⟨state, [], [], .error failure⟩ := by
  cases h : entryAt roll 0 cs with
  | none =>
      right
      by_cases hWritable : (Numeral.isWritable roll &&
          Numeral.isWritable (weightUpTo cs cs.length)) = true <;>
        simp [award, h, hWritable, Resolution.fail]
  | some c =>
      by_cases hWritable :
          (LogLine.picked roll (weightUpTo cs cs.length) c.2.weight).isWritable = true
      · exact .inl ⟨c, _, rfl, award_of_entryAt h hWritable state⟩
      · right
        have hFails : (Resolution.log (.picked roll (weightUpTo cs cs.length) c.2.weight) :
            Resolution σ Unit) state = ⟨state, [], [], .error .tooLongToWrite⟩ := by
          simp [Resolution.log, hWritable, Resolution.fail]
        refine ⟨.tooLongToWrite, ?_⟩
        simp only [award, h]
        rw [Resolution.bind_of_error (by rw [hFails]), hFails]

end Award

section Pick

variable {entries : List Choice} (dice : Dice σ) (state : σ)

/-- Without candidates nothing is rolled. -/
theorem pick_of_no_candidates (h : candidates entries = []) :
    pick dice entries state =
      ⟨state, [], exclusions entries ++ [.noneEligible], .ok none⟩ := by
  rw [pick, Resolution.bind_of_ok (a := []) (by rw [eligible_eq, h])]
  have hLine : (Resolution.log .noneEligible : Resolution σ Unit) state =
      ⟨state, [], [.noneEligible], .ok ()⟩ := Resolution.log_of_isWritable rfl state
  simp [eligible_eq, hLine, Resolution.bind_of_ok, Resolution.pure_apply]

/-- A pick among candidates rolls once, up to what they weigh together. -/
theorem pick_of_candidates (h : candidates entries ≠ []) :
    pick dice entries state =
      let run := (Resolution.roll dice 1
        (weightUpTo (candidates entries) (candidates entries).length) >>=
          award (candidates entries)) state
      ⟨run.dice, run.calls, exclusions entries ++ run.log, run.outcome⟩ := by
  have hSome : (candidates entries).isEmpty = false := by simpa using h
  rw [pick, Resolution.bind_of_ok (a := candidates entries) (by rw [eligible_eq])]
  simp only [eligible_eq, hSome, totalWeight_eq_weightUpTo, List.nil_append]
  rfl

/-- The greatest number that a pick may roll: what the candidates weigh together. -/
abbrev rollLimit (entries : List Choice) : Int :=
  weightUpTo (candidates entries) (candidates entries).length

/-- A pick is one roll up to the limit and then the award. -/
theorem pick_of_roll (h : candidates entries ≠ []) {roll : Int} {next : σ}
    (hRoll : dice.roll state 1 (rollLimit entries) = .ok (roll, next)) :
    pick dice entries state =
      let run := award (candidates entries) roll next
      ⟨run.dice, (1, rollLimit entries) :: run.calls, exclusions entries ++ run.log,
        run.outcome⟩ := by
  have hOnce : (Resolution.roll dice 1 (rollLimit entries)) state =
      ⟨next, [(1, rollLimit entries)], [], .ok roll⟩ := by simp only [Resolution.roll, hRoll]
  rw [pick_of_candidates dice state h, Resolution.bind_of_ok (a := roll) (by rw [hOnce]), hOnce]
  rfl

/-- Without a number from the dice nothing is picked. -/
theorem pick_of_emptyRange (h : candidates entries ≠ []) {range : EmptyRange}
    (hRoll : dice.roll state 1 (rollLimit entries) = .error range) :
    pick dice entries state =
      ⟨state, [(1, rollLimit entries)], exclusions entries, .error (.emptyRange range)⟩ := by
  have hOnce : (Resolution.roll dice 1 (rollLimit entries)) state =
      ⟨state, [(1, rollLimit entries)], [], .error (.emptyRange range)⟩ := by
    simp only [Resolution.roll, hRoll]
  rw [pick_of_candidates dice state h, Resolution.bind_of_error (by rw [hOnce]), hOnce]
  simp

theorem calls_pick (h : candidates entries ≠ []) :
    (pick dice entries state).calls = [(1, rollLimit entries)] := by
  cases hRoll : dice.roll state 1 (rollLimit entries) with
  | error range => rw [pick_of_emptyRange dice state h hRoll]
  | ok answer =>
      rw [pick_of_roll dice state h hRoll]
      rcases award_cases (candidates entries) answer.1 answer.2 with
        ⟨c, line, -, hAward⟩ | ⟨failure, hAward⟩ <;> rw [hAward]

/-- The candidates are the eligible entries with their places. -/
theorem mem_candidates_iff {index : Nat} {entry : Choice} :
    (index, entry) ∈ candidates entries ↔
      entries[index]? = some entry ∧ entry.isEligible = true := by
  simp [candidates, List.mem_zipIdx_iff_getElem?]

/-- The candidates keep the order in which they stand among all entries. -/
theorem pairwise_candidates (entries : List Choice) :
    (candidates entries).Pairwise (·.1 < ·.1) := by
  have hPlaces : (candidates entries).map (·.1) =
      (entries.zipIdx.filter (·.1.isEligible)).map Prod.snd := by
    simp [candidates, Function.comp_def]
  rw [← List.pairwise_map (f := fun c : Nat × Choice => c.1), hPlaces]
  apply List.Pairwise.sublist (List.filter_sublist.map Prod.snd)
  rw [List.zipIdx_map_snd]
  exact List.pairwise_lt_range'

/-- No place is a candidate twice. -/
theorem nodup_candidates (entries : List Choice) : ((candidates entries).map (·.1)).Nodup :=
  List.pairwise_map.mpr ((pairwise_candidates entries).imp Nat.ne_of_lt)

/-- Only candidates are ever picked. -/
theorem mem_candidates_of_pick {c : Nat × Choice}
    (h : (pick dice entries state).outcome = .ok (some c)) : c ∈ candidates entries := by
  by_cases hSome : candidates entries = []
  · rw [pick_of_no_candidates dice state hSome] at h
    cases h
  · cases hRoll : dice.roll state 1 (rollLimit entries) with
    | error range =>
        rw [pick_of_emptyRange dice state hSome hRoll] at h
        cases h
    | ok answer =>
        rw [pick_of_roll dice state hSome hRoll] at h
        rcases award_cases (candidates entries) answer.1 answer.2 with
          ⟨d, line, hFound, hAward⟩ | ⟨failure, hAward⟩
        · rw [hAward] at h
          cases h
          exact mem_of_entryAt hFound
        · rw [hAward] at h
          cases h

end Pick

/-- How a pick among some entries is decided, whatever the dice. -/
structure PicksByWeight (entries : List Choice) : Prop where
  /-- Without candidates nothing is rolled and nothing is picked. -/
  unrolled {σ : Type} (dice : Dice σ) (state : σ) : candidates entries = [] →
    pick dice entries state = ⟨state, [], exclusions entries ++ [.noneEligible], .ok none⟩
  /-- Else one number is asked for, up to what the candidates weigh together. -/
  rolled {σ : Type} (dice : Dice σ) (state : σ) : candidates entries ≠ [] →
    (pick dice entries state).calls = [(1, rollLimit entries)]
  /-- The first candidate is picked up to which the weights reach the roll. -/
  picked {σ : Type} (dice : Dice σ) (state next : σ) (roll : Int) : candidates entries ≠ [] →
    dice.roll state 1 (rollLimit entries) = .ok (roll, next) → Numeral.isWritable roll = true →
    roll ≤ rollLimit entries →
      ∃ k c, (candidates entries)[k]? = some c ∧ roll ≤ weightUpTo (candidates entries) (k + 1) ∧
        (∀ j < k, weightUpTo (candidates entries) (j + 1) < roll) ∧
        pick dice entries state =
          ⟨next, [(1, rollLimit entries)],
            exclusions entries ++ [.picked roll (rollLimit entries) c.2.weight], .ok (some c)⟩
  /-- A roll above the limit is a failure. -/
  missed {σ : Type} (dice : Dice σ) (state next : σ) (roll : Int) : candidates entries ≠ [] →
    dice.roll state 1 (rollLimit entries) = .ok (roll, next) → Numeral.isWritable roll = true →
    rollLimit entries < roll →
      pick dice entries state =
        ⟨next, [(1, rollLimit entries)], exclusions entries,
          .error (.rollTooHigh roll (rollLimit entries))⟩
  /-- Between one and the limit, each candidate wins the rolls above what stands before it and up
  to its own weight beyond. -/
  won {σ : Type} (dice : Dice σ) (state next : σ) (roll : Int) (k : Nat) (c : Nat × Choice) :
    (candidates entries)[k]? = some c →
    dice.roll state 1 (rollLimit entries) = .ok (roll, next) → 1 ≤ roll →
    roll ≤ rollLimit entries →
      ((pick dice entries state).outcome = .ok (some c) ↔
        weightUpTo (candidates entries) k < roll ∧
          roll ≤ weightUpTo (candidates entries) (k + 1))
  /-- These are as many of the rolls as it weighs. -/
  share {σ : Type} (dice : Dice σ) (states : Int → σ) (c : Nat × Choice) :
    (∀ roll, ∃ next, dice.roll (states roll) 1 (rollLimit entries) = .ok (roll, next)) →
    c ∈ candidates entries →
      ({roll : Int | 1 ≤ roll ∧ roll ≤ rollLimit entries ∧
        (pick dice entries (states roll)).outcome = .ok (some c)}.ncard : Int) = c.2.weight
  /-- What is picked is an entry at its own place, and all its requirements hold. -/
  eligible {σ : Type} (dice : Dice σ) (state : σ) (index : Nat) (entry : Choice) :
    (pick dice entries state).outcome = .ok (some (index, entry)) →
      entries[index]? = some entry ∧ ∀ r ∈ entry.requirements, r.outcome = .met
  /-- A line tells of an entry that is left out, by its place and the first reason against it. -/
  excluded (index : Nat) (reason : String) : .excluded index reason ∈ exclusions entries ↔
    ∃ entry before r after, entries[index]? = some entry ∧
      entry.requirements = before ++ r :: after ∧ (∀ s ∈ before, s.outcome = .met) ∧
        r.outcome = .unmet reason
  /-- There is one line for each entry that is no candidate. -/
  counted : (candidates entries).length + (exclusions entries).length = entries.length

/-- A line tells of the first requirement of an entry that does not hold. -/
theorem mem_exclusions_iff {entries : List Choice} {index : Nat} {reason : String} :
    .excluded index reason ∈ exclusions entries ↔
      ∃ entry before r after, entries[index]? = some entry ∧
        entry.requirements = before ++ r :: after ∧ (∀ s ∈ before, s.outcome = .met) ∧
          r.outcome = .unmet reason := by
  have hReason (r : Requirement) : r.outcome.holds = false ∧ r.outcome.reason = reason ↔
      r.outcome = .unmet reason := by
    cases r.outcome <;> simp [Outcome.holds, Outcome.reason]
  simp only [exclusions, List.mem_filterMap, Prod.exists, List.mem_zipIdx_iff_getElem?,
    Option.map_eq_some_iff, LogLine.excluded.injEq, List.find?_eq_some_iff_append,
    Requirement.outcome_eq_met_iff]
  grind

/-- Every entry is a candidate or is told of. -/
theorem length_candidates_add_length_exclusions (entries : List Choice) (first : Nat) :
    (candidates entries first).length + (exclusions entries first).length = entries.length := by
  induction entries generalizing first with
  | nil => rfl
  | cons entry rest ih =>
      have hRest := ih (first + 1)
      cases h : Requirement.allHold entry.requirements with
      | met =>
          rw [candidates_cons_of_met h, exclusions_cons_of_met h, List.length_cons,
            List.length_cons]
          omega
      | unmet reason =>
          rw [candidates_cons_of_unmet h, exclusions_cons_of_unmet h, List.length_cons,
            List.length_cons]
          omega

section Chances

variable {entries : List Choice} (hWeights : ∀ entry ∈ entries, 1 ≤ entry.weight)

include hWeights

theorem one_le_weight_of_mem_candidates : ∀ c ∈ candidates entries, 1 ≤ c.2.weight := by
  rintro ⟨index, entry⟩ hc
  exact hWeights entry (List.mem_of_getElem? (mem_candidates_iff.mp hc).1)

/-- Weights are passed in the order of the candidates, so that only one of them can be the first
to reach a roll. -/
theorem eq_of_between {j k : Nat} {roll : Int}
    (hLow : weightUpTo (candidates entries) k < roll)
    (hHigh : roll ≤ weightUpTo (candidates entries) (k + 1))
    (hReach : roll ≤ weightUpTo (candidates entries) (j + 1))
    (hLeast : ∀ i < j, weightUpTo (candidates entries) (i + 1) < roll) : j = k := by
  have hMono {a b : Nat} (h : a ≤ b) :=
    weightUpTo_mono (one_le_weight_of_mem_candidates hWeights) h
  rcases Nat.lt_trichotomy j k with hLess | hSame | hMore
  · have hPassed : weightUpTo (candidates entries) (j + 1) ≤ weightUpTo (candidates entries) k :=
      hMono hLess
    omega
  · exact hSame
  · have hEarlier := hLeast k hMore
    omega

/-- No candidate weighs more than all of them together. -/
theorem between_of_candidate {k : Nat} {c : Nat × Choice}
    (hPlace : (candidates entries)[k]? = some c) :
    0 ≤ weightUpTo (candidates entries) k ∧ 1 ≤ c.2.weight ∧
      weightUpTo (candidates entries) k + c.2.weight = weightUpTo (candidates entries) (k + 1) ∧
      weightUpTo (candidates entries) (k + 1) ≤ rollLimit entries := by
  have hMono {a b : Nat} (h : a ≤ b) :=
    weightUpTo_mono (one_le_weight_of_mem_candidates hWeights) h
  have hLength : k < (candidates entries).length := (List.getElem?_eq_some_iff.mp hPlace).1
  refine ⟨hMono (Nat.zero_le k), ?_, (weightUpTo_succ hPlace).symm, hMono hLength⟩
  exact one_le_weight_of_mem_candidates hWeights c (List.mem_of_getElem? hPlace)

/-- The candidate that a roll falls on, and the run that comes of it. -/
theorem pick_of_le {dice : Dice σ} {state next : σ} {roll : Int}
    (hSome : candidates entries ≠ []) (hLimit : Numeral.isWritable (rollLimit entries) = true)
    (hRoll : dice.roll state 1 (rollLimit entries) = .ok (roll, next))
    (hWritable : Numeral.isWritable roll = true) (hLow : roll ≤ rollLimit entries) :
    ∃ k c, (candidates entries)[k]? = some c ∧ roll ≤ weightUpTo (candidates entries) (k + 1) ∧
      (∀ j < k, weightUpTo (candidates entries) (j + 1) < roll) ∧
      pick dice entries state =
        ⟨next, [(1, rollLimit entries)],
          exclusions entries ++ [.picked roll (rollLimit entries) c.2.weight], .ok (some c)⟩ := by
  obtain ⟨k, c, hPlace, hFound, hReach, hLeast⟩ :=
    exists_entryAt hSome (by simpa using hLow : roll ≤ 0 + rollLimit entries)
  simp only [Int.zero_add] at hReach hLeast
  refine ⟨k, c, hPlace, hReach, hLeast, ?_⟩
  obtain ⟨hBefore, hPositive, hSum, hTotal⟩ := between_of_candidate hWeights hPlace
  have hWeight : Numeral.isWritable c.2.weight = true :=
    Numeral.isWritable_of_between Numeral.isWritable_one hLimit hPositive (by omega)
  have hLine : (LogLine.picked roll (rollLimit entries) c.2.weight).isWritable = true := by
    simp [LogLine.isWritable, LogLine.integers, hWritable, hLimit, hWeight]
  rw [pick_of_roll dice state hSome hRoll, award_of_entryAt hFound hLine]

/-- A roll above the limit is a failure after all lines about those left out. -/
theorem pick_of_gt {dice : Dice σ} {state next : σ} {roll : Int}
    (hSome : candidates entries ≠ []) (hLimit : Numeral.isWritable (rollLimit entries) = true)
    (hRoll : dice.roll state 1 (rollLimit entries) = .ok (roll, next))
    (hWritable : Numeral.isWritable roll = true) (hHigh : rollLimit entries < roll) :
    pick dice entries state =
      ⟨next, [(1, rollLimit entries)], exclusions entries,
        .error (.rollTooHigh roll (rollLimit entries))⟩ := by
  have hNone : entryAt roll 0 (candidates entries) = none :=
    entryAt_eq_none (one_le_weight_of_mem_candidates hWeights) (by simpa using hHigh)
  rw [pick_of_roll dice state hSome hRoll, award_of_none hNone hWritable hLimit]
  simp

/-- A candidate wins the rolls between what stands before it and its own weight beyond. -/
theorem pick_eq_some_iff {dice : Dice σ} {state next : σ} {roll : Int} {k : Nat}
    {c : Nat × Choice} (hLimit : Numeral.isWritable (rollLimit entries) = true)
    (hPlace : (candidates entries)[k]? = some c)
    (hRoll : dice.roll state 1 (rollLimit entries) = .ok (roll, next)) (hFirst : 1 ≤ roll)
    (hLast : roll ≤ rollLimit entries) :
    (pick dice entries state).outcome = .ok (some c) ↔
      weightUpTo (candidates entries) k < roll ∧
        roll ≤ weightUpTo (candidates entries) (k + 1) := by
  have hSome : candidates entries ≠ [] := fun hNone => by simp [hNone] at hPlace
  have hWritable : Numeral.isWritable roll = true :=
    Numeral.isWritable_of_between Numeral.isWritable_one hLimit hFirst hLast
  obtain ⟨j, d, hWinner, hReach, hLeast, hPick⟩ :=
    pick_of_le hWeights hSome hLimit hRoll hWritable hLast
  rw [hPick]
  constructor
  · intro hSame
    -- the places of candidates differ, so that the winner stands where the candidate does
    have hIndex : ((candidates entries).map (·.1))[j]? = ((candidates entries).map (·.1))[k]? := by
      cases hSame
      simp [hWinner, hPlace]
    have hBound : j < ((candidates entries).map (·.1)).length := by
      simpa using (List.getElem?_eq_some_iff.mp hWinner).1
    obtain rfl : j = k := (List.getElem?_inj hBound (nodup_candidates entries)).mp hIndex
    refine ⟨?_, hReach⟩
    cases j with
    | zero =>
        rw [weightUpTo_zero]
        omega
    | succ j => exact hLeast j (by omega)
  · rintro ⟨hLow, hHigh⟩
    obtain rfl := eq_of_between hWeights hLow hHigh hReach hLeast
    rw [hPlace] at hWinner
    rw [Option.some.inj hWinner]

/-- As many rolls pick a candidate as it weighs. -/
theorem ncard_rolls {dice : Dice σ} {states : Int → σ} {c : Nat × Choice}
    (hLimit : Numeral.isWritable (rollLimit entries) = true)
    (hRolls : ∀ roll, ∃ next, dice.roll (states roll) 1 (rollLimit entries) = .ok (roll, next))
    (hMem : c ∈ candidates entries) :
    ({roll : Int | 1 ≤ roll ∧ roll ≤ rollLimit entries ∧
      (pick dice entries (states roll)).outcome = .ok (some c)}.ncard : Int) = c.2.weight := by
  obtain ⟨k, hPlace⟩ := List.mem_iff_getElem?.mp hMem
  obtain ⟨hBefore, hPositive, hSum, hTotal⟩ := between_of_candidate hWeights hPlace
  have hInterval : {roll : Int | 1 ≤ roll ∧ roll ≤ rollLimit entries ∧
      (pick dice entries (states roll)).outcome = .ok (some c)} =
        Finset.Ioc (weightUpTo (candidates entries) k)
          (weightUpTo (candidates entries) (k + 1)) := by
    ext roll
    obtain ⟨next, hRoll⟩ := hRolls roll
    simp only [Set.mem_ofPred_eq, Finset.coe_Ioc, Set.mem_Ioc]
    constructor
    · rintro ⟨hFirst, hLast, hPick⟩
      exact (pick_eq_some_iff hWeights hLimit hPlace hRoll hFirst hLast).mp hPick
    · rintro ⟨hLow, hHigh⟩
      have hFirst : 1 ≤ roll := by omega
      have hLast : roll ≤ rollLimit entries := by omega
      exact ⟨hFirst, hLast,
        (pick_eq_some_iff hWeights hLimit hPlace hRoll hFirst hLast).mpr ⟨hLow, hHigh⟩⟩
  rw [hInterval, Set.ncard_coe_finset, Int.card_Ioc]
  omega

/-- A pick gives every entry whose requirements hold exactly its weight in chances, where no number
is too long to write. -/
theorem picksByWeight (hLimit : Numeral.isWritable (rollLimit entries) = true) :
    PicksByWeight entries where
  unrolled dice state := pick_of_no_candidates dice state
  rolled dice state := calls_pick dice state
  picked _ _ _ _ hSome hRoll hWritable hLow := pick_of_le hWeights hSome hLimit hRoll hWritable hLow
  missed _ _ _ _ hSome hRoll hWritable hHigh :=
    pick_of_gt hWeights hSome hLimit hRoll hWritable hHigh
  won _ _ _ _ _ _ hPlace hRoll hFirst hLast :=
    pick_eq_some_iff hWeights hLimit hPlace hRoll hFirst hLast
  share _ _ _ hRolls hMem := ncard_rolls hWeights hLimit hRolls hMem
  eligible dice state index entry hPick := by
    obtain ⟨hEntry, hEligible⟩ := mem_candidates_iff.mp (mem_candidates_of_pick dice state hPick)
    refine ⟨hEntry, fun r hr => Requirement.outcome_eq_met_iff.mpr ?_⟩
    exact List.all_eq_true.mp hEligible r hr
  excluded _ _ := mem_exclusions_iff
  counted := length_candidates_add_length_exclusions entries 0

end Chances

/-- Three entries, the second of which is left out. -/
def oneLocked : List Choice :=
  [⟨2, [.nothing], []⟩, ⟨5, [.removeItems], [.check ⟨.never, false, "locked"⟩]⟩,
    ⟨3, [.grantXp 7], []⟩]

/-- Of five rolls, the third one is the first that falls on the last entry. -/
theorem picksByWeight_oneLocked :
    (∀ entry ∈ oneLocked, 1 ≤ entry.weight) ∧
      Numeral.isWritable (rollLimit oneLocked) = true ∧ PicksByWeight oneLocked ∧
      rollLimit oneLocked = 5 ∧
      (pick Script.dice oneLocked ⟨[3], []⟩).outcome = .ok (some (2, ⟨3, [.grantXp 7], []⟩)) := by
  have hWeights : ∀ entry ∈ oneLocked, 1 ≤ entry.weight := by simp [oneLocked]
  have hLimit : rollLimit oneLocked = 5 := by decide
  have hWritable : Numeral.isWritable (rollLimit oneLocked) = true := by
    rw [hLimit]
    decide +kernel
  have hPicks := picksByWeight hWeights hWritable
  refine ⟨hWeights, hWritable, hPicks, hLimit, ?_⟩
  refine (hPicks.won Script.dice ⟨[3], []⟩ ⟨[], [(1, rollLimit oneLocked)]⟩ 3 1 _ rfl rfl
    (by decide) (by decide)).mpr ⟨by decide, by decide⟩

end Bounty
