import Bounty.Proofs.Record.Sound
import Bounty.Proofs.Rules
import Bounty.Proofs.Validity

/-! The bounds that hold at every depth of a tree that has been read, from a record or from a
document: no range is empty, and every weight is positive. -/
namespace Bounty

/-- The bounds of one rule. -/
def Rule.InBounds : Rule → Prop
  | .modifier (.grantXpRange min max) => min ≤ max
  | .modifier (.grantStatRange _ _ min max) => min ≤ max
  | .modifier (.randomChoice entries) => ∀ entry ∈ entries, 1 ≤ entry.weight
  | _ => True

mutual

theorem Requirement.inBounds_within (r : Requirement) : ∀ rule ∈ r.within, rule.InBounds := by
  match r with
  | .check c => simp [within]
  | .conjunction children =>
      rw [within]
      exact Requirement.inBounds_rulesOf children

/-- Requirements have no bounds. -/
theorem Requirement.inBounds_rulesOf (rs : List Requirement) :
    ∀ rule ∈ Requirement.rulesOf rs, rule.InBounds := by
  match rs with
  | [] => simp [rulesOf]
  | r :: rest =>
      rw [rulesOf]
      simp only [List.mem_cons, List.mem_append]
      rintro rule (rfl | hWithin | hRest)
      · trivial
      · exact Requirement.inBounds_within r rule hWithin
      · exact Requirement.inBounds_rulesOf rest rule hRest

end

/-- Whether all rules of a requirement are in their bounds. -/
def Requirement.InBounds (r : Requirement) : Prop := ∀ rule ∈ r.rules, rule.InBounds

/-- A requirement holds no amounts, so it is always in bounds. -/
theorem Requirement.inBounds (r : Requirement) : r.InBounds :=
  List.forall_mem_cons.mpr ⟨trivial, r.inBounds_within⟩

namespace Modifier

/-- Whether all rules of a modifier are in their bounds. -/
def InBounds (m : Modifier) : Prop := ∀ rule ∈ m.rules, rule.InBounds

/-- Whether an alternative and all its rules are in their bounds. -/
def EntryInBounds (entry : Choice) : Prop :=
  1 ≤ entry.weight ∧ ∀ rule ∈ rulesOfEntry entry, rule.InBounds

/-- The rules of a list are in bounds if its modifiers are. -/
theorem inBounds_rulesOf_iff {ms : List Modifier} :
    (∀ rule ∈ rulesOf ms, rule.InBounds) ↔ ∀ m ∈ ms, m.InBounds := by
  simp only [rulesOf_eq_flatMap, List.mem_flatMap, InBounds]
  grind

theorem inBounds_ifThenElse_iff {condition : List Requirement}
    {thenBranch elseBranch : List Modifier} :
    (Modifier.ifThenElse condition thenBranch elseBranch).InBounds ↔
      (∀ m ∈ thenBranch, m.InBounds) ∧ ∀ m ∈ elseBranch, m.InBounds := by
  have hCondition := Requirement.inBounds_rulesOf condition
  rw [← inBounds_rulesOf_iff, ← inBounds_rulesOf_iff]
  simp only [InBounds, rules, within, List.mem_cons, List.mem_append]
  constructor
  · exact fun h => ⟨fun rule hRule => h rule (.inr (.inr (.inl hRule))),
      fun rule hRule => h rule (.inr (.inr (.inr hRule)))⟩
  · rintro ⟨hThen, hElse⟩ rule (rfl | hRule | hRule | hRule)
    · trivial
    · exact hCondition rule hRule
    · exact hThen rule hRule
    · exact hElse rule hRule

theorem entryInBounds_iff {entry : Choice} :
    EntryInBounds entry ↔ 1 ≤ entry.weight ∧ ∀ m ∈ entry.modifiers, m.InBounds := by
  obtain ⟨weight, modifiers, requirements⟩ := entry
  have hRequirements := Requirement.inBounds_rulesOf requirements
  rw [← inBounds_rulesOf_iff]
  simp only [EntryInBounds, rulesOfEntry, List.mem_append]
  refine and_congr_right fun _ => ⟨fun h rule hRule => h rule (.inr hRule), fun h rule hRule => ?_⟩
  rcases hRule with hRule | hRule
  · exact hRequirements rule hRule
  · exact h rule hRule

/-- A choice is in bounds if all of its entries are. -/
theorem inBounds_randomChoice_iff {entries : List Choice} :
    (Modifier.randomChoice entries).InBounds ↔ ∀ entry ∈ entries, EntryInBounds entry := by
  simp only [InBounds, rules, within, List.mem_cons, EntryInBounds, rulesOfEntries_eq_flatMap,
    List.mem_flatMap]
  constructor
  · intro h entry hEntry
    exact ⟨h _ (.inl rfl) entry hEntry, fun rule hRule => h rule (.inr ⟨entry, hEntry, hRule⟩)⟩
  · rintro h rule (rfl | ⟨entry, hEntry, hRule⟩)
    · exact fun entry hEntry => (h entry hEntry).1
    · exact (h entry hEntry).2 rule hRule

mutual

/-- A valid modifier is in bounds. -/
theorem inBounds_of_valid {m : Modifier} (h : m.Valid) : m.InBounds := by
  match m with
  | .ifThenElse _ _ _ =>
      obtain ⟨-, hThen, hElse⟩ := h
      rw [allValid_iff] at hThen hElse
      exact inBounds_ifThenElse_iff.mpr ⟨fun m hm => inBounds_of_valid (hThen m hm),
        fun m hm => inBounds_of_valid (hElse m hm)⟩
  | .randomChoice _ =>
      rw [Valid, allEntriesValid_iff] at h
      exact inBounds_randomChoice_iff.mpr fun entry hEntry =>
        entryInBounds_of_valid (h entry hEntry)
  | .grantXpRange _ _ =>
      simpa [InBounds, rules, within, Rule.InBounds] using h.1
  | .grantStatRange _ _ _ _ =>
      simpa [InBounds, rules, within, Rule.InBounds] using h.2.2.1
  | .grantItem _ | .grantXp _ | .grantStat _ _ _ | .removeItems | .nothing =>
      simp [InBounds, rules, within, Rule.InBounds]
termination_by sizeOf m

theorem entryInBounds_of_valid {entry : Choice} (h : EntryValid entry) : EntryInBounds entry := by
  match entry with
  | ⟨_, _, _⟩ =>
      obtain ⟨hWeight, hModifiers, -⟩ := h
      rw [allValid_iff] at hModifiers
      exact entryInBounds_iff.mpr ⟨hWeight.1, fun m hm => inBounds_of_valid (hModifiers m hm)⟩
termination_by sizeOf entry

end

end Modifier

namespace Record

/-- What holds of every tree read from smaller data holds of all trees in a list field. -/
theorem forall_of_listAt {α : Type} {read : Data → Checked α} {key : String}
    {members : List (Scalar × Data)} {as : List α} {post : α → Prop}
    (h : listAt read key members = .ok as)
    (hEach : ∀ d a, sizeOf d < 1 + sizeOf members → read d = .ok a → post a) :
    ∀ a ∈ as, post a := by
  obtain ⟨items, hItems, hAll⟩ := listAt_eq_ok_iff.mp h
  intro a ha
  obtain ⟨d, hd, hRead⟩ := exists_of_mem_right hAll ha
  exact hEach d a (sizeOf_lt_of_itemsAt hItems hd) hRead

mutual

/-- A modifier that is read from data is in bounds, whatever the data. The recursion goes into the
lists of its fields. -/
theorem modifier_inBounds {o : Origin} {d : Data} {m : Modifier} (h : modifier o d = .ok m) :
    m.InBounds := by
  match d with
  | .mapping members =>
      rw [modifier] at h
      cases hKind : kindOf ModifierKind.ofName? members with
      | error issues => simp [hKind] at h
      | ok kind =>
          simp only [hKind, Checked.inside_eq_ok_iff, nested_eq_ok_iff] at h
          obtain ⟨-, h⟩ := h
          cases kind with
          | grantXpRange =>
              simp only [Checked.map_eq_ok_iff, Checked.ensure_eq_ok_iff, decide_eq_true_eq] at h
              obtain ⟨bounds, ⟨-, hBounds⟩, rfl⟩ := h
              simpa [Modifier.InBounds, Modifier.rules, Modifier.within, Rule.InBounds] using
                hBounds
          | grantStatRange =>
              simp only [Checked.map_eq_ok_iff, Checked.ensure_eq_ok_iff, decide_eq_true_eq] at h
              obtain ⟨fields, ⟨-, hBounds⟩, rfl⟩ := h
              simpa [Modifier.InBounds, Modifier.rules, Modifier.within, Rule.InBounds] using
                hBounds
          | ifThenElse =>
              simp only [Checked.map_eq_ok_iff, Checked.both_eq_ok_iff, modifiersField_eq] at h
              obtain ⟨parts, ⟨-, hThen, hElse⟩, rfl⟩ := h
              exact Modifier.inBounds_ifThenElse_iff.mpr
                ⟨forall_of_listAt hThen fun d m hSize hRead => modifier_inBounds hRead,
                  forall_of_listAt hElse fun d m hSize hRead => modifier_inBounds hRead⟩
          | randomChoice =>
              simp only [Checked.map_eq_ok_iff, choicesField_eq] at h
              obtain ⟨entries, hEntries, rfl⟩ := h
              exact Modifier.inBounds_randomChoice_iff.mpr
                (forall_of_listAt hEntries fun d entry hSize hRead => choice_inBounds hRead)
          | removeItems | nothing =>
              cases h
              simp [Modifier.InBounds, Modifier.rules, Modifier.within, Rule.InBounds]
          | grantItem | grantXp | grantStat =>
              obtain ⟨fields, -, rfl⟩ := Checked.map_eq_ok_iff.mp h
              simp [Modifier.InBounds, Modifier.rules, Modifier.within, Rule.InBounds]
  | .scalar _ | .list _ | .set _ | .pair .. => simp [modifier] at h
termination_by sizeOf d

theorem choice_inBounds {o : Origin} {d : Data} {entry : Choice} (h : choice o d = .ok entry) :
    Modifier.EntryInBounds entry := by
  match d with
  | .mapping members =>
      simp only [choice, nested_eq_ok_iff, Checked.map_eq_ok_iff, Checked.both_eq_ok_iff,
        modifiersField_eq, weight, required_eq_ok_iff, Checked.ensure_eq_ok_iff,
        decide_eq_true_eq] at h
      obtain ⟨-, parts, ⟨⟨d, -, -, hWeight⟩, hModifiers, -⟩, rfl⟩ := h
      exact Modifier.entryInBounds_iff.mpr
        ⟨hWeight, forall_of_listAt hModifiers fun d m hSize hRead => modifier_inBounds hRead⟩
  | .scalar _ | .list _ | .set _ | .pair .. => simp [choice, nested_eq_ok_iff] at h
termination_by sizeOf d

end

end Record

end Bounty
