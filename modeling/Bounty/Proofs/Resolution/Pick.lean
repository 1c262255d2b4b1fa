import Bounty.Proofs.Numeral
import Bounty.Proofs.Resolution
import Bounty.Proofs.Validity

/-! Rolling for amounts and choices. A roll inside the total weight always falls on an entry, and no
number that is logged on the way is longer than the bounds it lies between. -/
namespace Bounty

theorem totalWeight_cons (entry : Choice) (rest : List Choice) :
    totalWeight (entry :: rest) = entry.weight + totalWeight rest := rfl

/-- Weights of at least one never add up to less than nothing. -/
theorem totalWeight_nonneg {entries : List Choice} (h : ∀ entry ∈ entries, 1 ≤ entry.weight) :
    0 ≤ totalWeight entries := by
  induction entries with
  | nil => exact Int.le_refl 0
  | cons entry rest ih =>
      have hHead := h entry (by simp)
      have hRest := ih fun other hOther => h other (by simp [hOther])
      rw [totalWeight_cons]
      omega

/-- Some of the entries weigh no more than all. -/
theorem totalWeight_le_of_sublist {some all : List Choice} (hSublist : some.Sublist all)
    (h : ∀ entry ∈ all, 1 ≤ entry.weight) : totalWeight some ≤ totalWeight all := by
  induction hSublist with
  | slnil => exact Int.le_refl _
  | cons entry _ ih =>
      have hHead := h entry (by simp)
      have hRest := ih fun other hOther => h other (by simp [hOther])
      rw [totalWeight_cons]
      omega
  | cons_cons entry _ ih =>
      have hRest := ih fun other hOther => h other (by simp [hOther])
      rw [totalWeight_cons, totalWeight_cons]
      omega

/-- A roll above what has been passed and not above the whole falls on one of the candidates. -/
theorem entryAt_eq_some {roll passed : Int} (candidates : List (Nat × Choice))
    (hPassed : passed < roll) (hRoll : roll ≤ passed + totalWeight (candidates.map (·.2))) :
    ∃ c ∈ candidates, entryAt roll passed candidates = some c := by
  induction candidates generalizing passed with
  | nil =>
      simp only [List.map_nil, totalWeight, List.foldr_nil] at hRoll
      omega
  | cons first rest ih =>
      obtain ⟨index, entry⟩ := first
      rw [List.map_cons, totalWeight_cons] at hRoll
      dsimp only at hRoll
      by_cases hHere : roll ≤ passed + entry.weight
      · exact ⟨(index, entry), by simp, by rw [entryAt, if_pos hHere]⟩
      · obtain ⟨c, hMem, hFound⟩ := ih (by omega : passed + entry.weight < roll) (by omega)
        exact ⟨c, by simp [hMem], by rw [entryAt, if_neg hHere, hFound]⟩

/-- Candidates are entries in their order, each with its own place. -/
structure Candidates (index : Nat) (entries : List Choice)
    (candidates : List (Nat × Choice)) : Prop where
  sublist : (candidates.map (·.2)).Sublist entries
  place : ∀ c ∈ candidates, index ≤ c.1 ∧ entries[c.1 - index]? = some c.2

/-- An entry may be left out of the candidates. -/
theorem Candidates.skip {index : Nat} {entry : Choice} {rest : List Choice}
    {candidates : List (Nat × Choice)} (h : Candidates (index + 1) rest candidates) :
    Candidates index (entry :: rest) candidates where
  sublist := h.sublist.cons entry
  place c hc := by
    obtain ⟨hIndex, hEntry⟩ := h.place c hc
    have hPlace : c.1 - index = (c.1 - (index + 1)) + 1 := by omega
    rw [hPlace, List.getElem?_cons_succ]
    exact ⟨by omega, hEntry⟩

/-- An entry may be the first of the candidates. -/
theorem Candidates.take {index : Nat} {entry : Choice} {rest : List Choice}
    {candidates : List (Nat × Choice)} (h : Candidates (index + 1) rest candidates) :
    Candidates index (entry :: rest) ((index, entry) :: candidates) where
  sublist := h.sublist.cons_cons entry
  place c hc := by
    rcases List.mem_cons.mp hc with rfl | hOther
    · simp
    · exact h.skip.place c hOther

theorem Candidates.totalWeight_le {index : Nat} {entries : List Choice}
    {candidates : List (Nat × Choice)} (h : Candidates index entries candidates)
    (hWeights : ∀ entry ∈ entries, 1 ≤ entry.weight) :
    totalWeight (candidates.map (·.2)) ≤ totalWeight entries :=
  totalWeight_le_of_sublist h.sublist hWeights

/-- Candidates weigh at least one together, if there are any. -/
theorem Candidates.one_le_totalWeight {index : Nat} {entries : List Choice}
    {first : Nat × Choice} {rest : List (Nat × Choice)}
    (h : Candidates index entries (first :: rest))
    (hWeights : ∀ entry ∈ entries, 1 ≤ entry.weight) :
    1 ≤ totalWeight ((first :: rest).map (·.2)) := by
  have hAll : ∀ entry ∈ (first :: rest).map (·.2), 1 ≤ entry.weight := fun entry hEntry =>
    hWeights entry (h.sublist.subset hEntry)
  have hFirst := hAll first.2 (by simp)
  have hRest : 0 ≤ totalWeight (rest.map (·.2)) :=
    totalWeight_nonneg fun entry hEntry => hAll entry (by simp_all)
  rw [List.map_cons, totalWeight_cons]
  omega

variable {σ : Type}

/-- To look for the eligible entries never fails. -/
theorem eligible_succeeds (index : Nat) (entries : List Choice) :
    (eligible index entries : Resolution σ _).Succeeds (Candidates index entries) := by
  induction entries generalizing index with
  | nil => exact Resolution.succeeds_pure ⟨List.Sublist.slnil, by simp⟩
  | cons entry rest ih =>
      rw [eligible]
      split
      · exact (ih (index + 1)).bind fun others h => Resolution.succeeds_pure h.take
      · refine (Resolution.succeeds_log rfl).bind fun _ _ => ?_
        exact (ih (index + 1)).mono fun others h => h.skip

variable {dice : Dice σ} (hFair : dice.IsFair)

include hFair

/-- With fair dice a pick succeeds, and what is picked is an entry at its place. -/
theorem pick_succeeds {entries : List Choice}
    (hWeights : ∀ entry ∈ entries, ValidWeight entry.weight)
    (hTotal : Numeral.isWritable (totalWeight entries) = true) :
    (pick dice entries).Succeeds fun picked =>
      ∀ index entry, picked = some (index, entry) → entries[index]? = some entry := by
  refine (eligible_succeeds 0 entries).bind fun candidates hCandidates => ?_
  have hPositive : ∀ entry ∈ entries, 1 ≤ entry.weight := fun entry h => (hWeights entry h).1
  cases candidates with
  | nil =>
      refine (Resolution.succeeds_log rfl).bind fun _ _ => Resolution.succeeds_pure ?_
      intro index entry h
      cases h
  | cons first rest =>
      have hLow := hCandidates.one_le_totalWeight hPositive
      have hHigh := hCandidates.totalWeight_le hPositive
      have hTotalWritable :=
        Numeral.isWritable_of_between Numeral.isWritable_one hTotal hLow hHigh
      refine (Resolution.succeeds_roll hFair hLow).bind fun roll hRoll => ?_
      -- the roll is inside the total weight, so that the scan does not run off the end
      obtain ⟨c, hMem, hFound⟩ :=
        entryAt_eq_some (first :: rest) (by omega : 0 < roll) (by omega)
      obtain ⟨-, hPlace⟩ := hCandidates.place c hMem
      have hWeight : ValidWeight c.2.weight := hWeights c.2 (List.mem_of_getElem? hPlace)
      have hRollWritable :=
        Numeral.isWritable_of_between Numeral.isWritable_one hTotalWritable hRoll.1 hRoll.2
      have hLine : (LogLine.picked roll (totalWeight ((first :: rest).map (·.2)))
          c.2.weight).isWritable = true := by
        simp only [LogLine.isWritable, LogLine.integers, List.all_cons, List.all_nil,
          hRollWritable, hTotalWritable, hWeight.2, Bool.and_self]
      rw [hFound]
      refine (Resolution.succeeds_log hLine).bind fun _ _ => Resolution.succeeds_pure ?_
      intro index entry h
      cases h
      exact hPlace

/-- With fair dice a roll in a valid range succeeds and stays in the range. -/
theorem rollRange_succeeds {min max : Int} (h : ValidRange min max) {line : Int → LogLine}
    (hLine : ∀ n, (line n).integers = [min, max, n]) :
    (rollRange dice min max line).Succeeds fun n => min ≤ n ∧ n ≤ max := by
  obtain ⟨hOrder, hMin, hMax⟩ := h
  refine (Resolution.succeeds_roll hFair hOrder).bind fun n hn => ?_
  have hWritable : (line n).isWritable = true := by
    have hAmount := Numeral.isWritable_of_between hMin hMax hn.1 hn.2
    simp [LogLine.isWritable, hLine, hMin, hMax, hAmount]
  exact (Resolution.succeeds_log hWritable).bind fun _ _ => Resolution.succeeds_pure hn

end Bounty
