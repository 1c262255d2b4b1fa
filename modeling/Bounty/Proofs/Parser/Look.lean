import Mathlib.Data.List.Forall2
import Bounty.Proofs.Agreement
import Bounty.Proofs.Parser.Builder

/-! Elements that look the same. A parser looks at names, at the texts under keys, and at children
in their order, so it takes the same steps through two elements that agree in these, and ends in
the same way. -/
namespace Bounty

variable {α β γ δ : Type}

/-- Two elements with the same name, the same text under every key, and children that look the same
one by one. -/
inductive Element.Same : Element → Element → Prop where
  | intro {e e' : Element} : e'.name = e.name → (∀ key, e'.attribute? key = e.attribute? key) →
    List.Forall₂ Element.Same e.children e'.children → Element.Same e e'

namespace Element.Same

variable {e e' : Element}

theorem name_eq (h : Same e e') : e'.name = e.name := by
  cases h
  assumption

theorem attribute?_eq (h : Same e e') (key : String) : e'.attribute? key = e.attribute? key := by
  cases h with
  | intro _ hKeys _ => exact hKeys key

/-- Elements that look the same can be told apart by nothing that an attribute reader sees. -/
theorem sameTag (h : Same e e') : e.SameTag e' := ⟨h.name_eq, h.attribute?_eq⟩

theorem children (h : Same e e') : List.Forall₂ Same e.children e'.children := by
  cases h
  assumption

end Element.Same

namespace Reading

section Lists

variable {cs cs' : List Element} (h : List.Forall₂ Element.Same cs cs')

include h

/-- Lists that look the same are read alike, element by element. -/
theorem each_same {read : Element → Reading α}
    (hRead : ∀ c c', Element.Same c c' → read c' = read c) : each read cs' = each read cs := by
  induction h with
  | nil => rfl
  | cons hChild _ ih => rw [each, each, hRead _ _ hChild, ih]

/-- Optional values are gathered alike. -/
theorem gather_same {read : Element → Reading (Option α)}
    (hRead : ∀ c c', Element.Same c c' → read c' = read c) : gather read cs' = gather read cs := by
  induction h with
  | nil => rfl
  | cons hChild _ ih => rw [gather, gather, hRead _ _ hChild, ih]

theorem foldlM_same {read : β → Element → Reading β}
    (hRead : ∀ b c c', Element.Same c c' → read b c' = read b c) (b : β) :
    cs'.foldlM read b = cs.foldlM read b := by
  induction h generalizing b with
  | nil => rfl
  | cons hChild _ ih =>
      rw [List.foldlM_cons, List.foldlM_cons, hRead _ _ _ hChild]
      exact bind_congr ih

end Lists

/-- Two readings that take the same steps and then both stop for the same reason, or both have
values, and these are related. -/
def Match (Value : α → β → Prop) (r : Reading α) (s : Reading β) : Prop :=
  s.steps = r.steps ∧ r.Agree Value Eq s

theorem match_pure {Value : α → β → Prop} {a : α} {b : β} (h : Value a b) :
    (pure a : Reading α).Match Value (pure b) := ⟨rfl, agree_pure h⟩

theorem match_refl (r : Reading α) : r.Match Eq r :=
  ⟨rfl, agree_of_outcome_eq rfl (fun _ => rfl) fun _ => rfl⟩

/-- Readings with equal values that match are the same. -/
theorem Match.eq {r s : Reading α} (h : r.Match Eq s) : s = r := by
  obtain ⟨hSteps, hAgree⟩ := h
  unfold Agree at hAgree
  have hOutcome : s.outcome = r.outcome := by
    cases hr : r.outcome <;> cases hs : s.outcome <;> simp_all
  ext1
  · exact hSteps
  · exact hOutcome

/-- Sequences match where the second parts do from related values on. -/
theorem Match.bind {Value : α → β → Prop} {Last : γ → δ → Prop} {r : Reading α} {s : Reading β}
    (h : r.Match Value s) {f : α → Reading γ} {g : β → Reading δ}
    (hNext : ∀ a b, Value a b → (f a).Match Last (g b)) : (r >>= f).Match Last (s >>= g) := by
  obtain ⟨hSteps, hAgree⟩ := h
  have hEnds := hAgree.bind fun a b _ hValue => (hNext a b hValue).2
  unfold Agree at hAgree
  refine ⟨?_, hEnds⟩
  cases hr : r.outcome with
  | ok a =>
      cases hs : s.outcome with
      | ok b =>
          have hValue : Value a b := by simpa [hr, hs] using hAgree
          rw [bind_of_ok hr, bind_of_ok hs, hSteps, (hNext a b hValue).1]
      | error y => simp [hr, hs] at hAgree
  | error x =>
      cases hs : s.outcome with
      | ok b => simp [hr, hs] at hAgree
      | error y => rw [bind_of_error hr, bind_of_error hs, hSteps]

/-- One fault matches itself, whatever the values would have been. -/
theorem match_fault {Value : α → β → Prop} (cause : Cause) (element : String) (path : Path) :
    (fault cause element path : Reading α).Match Value (fault cause element path) :=
  ⟨rfl, agree_fault rfl⟩

end Reading

namespace Parser

variable {p : Parser} {here path : Path} {e e' : Element}

theorem enter_same (h : Element.Same e e') : enter path e' = enter path e := by
  simp only [enter, h.name_eq]

theorem tooDeep_same (h : Element.Same e e') :
    (p.tooDeep path e' : Reading α) = p.tooDeep path e := by
  simp only [tooDeep, enter_same h, h.name_eq]

theorem stray_same (h : Element.Same e e') : p.stray here e' = p.stray here e := by
  simp only [stray, h.name_eq]

/-- A requirement of a kind is the same where its children are read alike. -/
theorem requirementOf_same (h : Element.Same e e') {child : Path → Element → Reading Requirement}
    (hChild : ∀ c c', Element.Same c c' → child here c' = child here c) (kind : RequirementKind) :
    requirementOf child here e' kind = requirementOf child here e kind := by
  obtain rfl | hAtomic := kind.eq_or_isAtomic
  · simp only [requirementOf, Reading.each_same h.children hChild]
  · have hRelated := Attribute.related_of_sameTag h.sameTag here
    exact (hRelated.requirementOf Reading.congruence_eq hAtomic child child).symm

/-- By induction on the levels, requirements that look the same are read alike. -/
theorem requirement_same (depth : Nat) (path : Path) (h : Element.Same e e') :
    p.requirement depth path e' = p.requirement depth path e := by
  induction depth generalizing path e e' with
  | zero => exact tooDeep_same h
  | succ depth ih =>
      simp only [requirement, enter_same h, requirementKind, h.name_eq,
        requirementOf_same h fun c c' => ih _]

theorem requirements_same (depth : Nat) (path : Path) (h : Element.Same e e') :
    p.requirements depth path e' = p.requirements depth path e := by
  cases depth with
  | zero => exact tooDeep_same h
  | succ depth =>
      simp only [requirements, enter_same h,
        Reading.each_same h.children fun c c' => requirement_same depth _]

/-- The same branches have been found, or branches that look the same. -/
structure Branches.Same (found found' : Branches (Option Element)) : Prop where
  condition : Option.Rel Element.Same found.condition found'.condition
  thenBranch : Option.Rel Element.Same found.thenBranch found'.thenBranch
  elseBranch : Option.Rel Element.Same found.elseBranch found'.elseBranch

/-- Whether a place is taken does not depend on which of the two elements took it. -/
theorem isSome_eq_of_rel {a b : Option Element} (h : Option.Rel Element.Same a b) :
    b.isSome = a.isSome := by
  cases h <;> rfl

/-- The search for branches takes the same steps and finds branches that look the same. -/
theorem findBranches_match (h : Element.Same e e') {cs cs' : List Element}
    (hChildren : List.Forall₂ Element.Same cs cs') {found found' : Branches (Option Element)}
    (hFound : found.Same found') :
    (p.findBranches here e found cs).Match Branches.Same
      (p.findBranches here e' found' cs') := by
  induction hChildren generalizing found found' with
  | nil => exact Reading.match_pure hFound
  | @cons c c' _ _ hChild _ ih =>
      have hDuplicate : (findBranches.duplicate here e c).Match Branches.Same
          (findBranches.duplicate here e' c') := by
        simp only [findBranches.duplicate, h.name_eq, hChild.name_eq]
        exact Reading.match_fault _ _ _
      obtain ⟨hIf, hThen, hElse⟩ := hFound
      rw [findBranches, findBranches, hChild.name_eq, stray_same hChild, isSome_eq_of_rel hIf,
        isSome_eq_of_rel hThen, isSome_eq_of_rel hElse]
      split
      · split
        · exact hDuplicate
        · exact ih ⟨.some hChild, hThen, hElse⟩
      · split
        · split
          · exact hDuplicate
          · exact ih ⟨hIf, .some hChild, hElse⟩
        · split
          · split
            · exact hDuplicate
            · exact ih ⟨hIf, hThen, .some hChild⟩
          · exact (Reading.match_refl _).bind fun _ _ _ => ih ⟨hIf, hThen, hElse⟩

/-- A conditional that has all its branches has the corresponding ones. -/
theorem branches_match (h : Element.Same e e') :
    (p.branches here e).Match
      (fun found found' => Element.Same found.condition found'.condition ∧
        Element.Same found.thenBranch found'.thenBranch ∧
        Element.Same found.elseBranch found'.elseBranch)
      (p.branches here e') := by
  have hNone : Branches.Same ⟨none, none, none⟩ ⟨none, none, none⟩ := ⟨.none, .none, .none⟩
  refine (findBranches_match h h.children hNone).bind fun found found' hFound => ?_
  obtain ⟨hIf, hThen, hElse⟩ := hFound
  obtain ⟨condition, thenBranch, elseBranch⟩ := found
  obtain ⟨condition', thenBranch', elseBranch'⟩ := found'
  rw [h.name_eq]
  cases hIf with
  | none => exact Reading.match_fault _ _ _
  | some hIf =>
      cases hThen with
      | none => exact Reading.match_fault _ _ _
      | some hThen =>
          cases hElse with
          | none => exact Reading.match_fault _ _ _
          | some hElse => exact Reading.match_pure ⟨hIf, hThen, hElse⟩

variable {depth : Nat} {modifiers : Path → Element → Reading (List Modifier)}
  (hModifiers : ∀ c c', Element.Same c c' → modifiers here c' = modifiers here c)

theorem positive_same (h : Element.Same e e') (here : Path) :
    Attribute.positive "weight" here e' = Attribute.positive "weight" here e :=
  ((Attribute.related_of_sameTag h.sameTag here).positive "weight").symm

theorem weight_same (h : Element.Same e e') (path : Path) :
    p.weight depth path e' = p.weight depth path e := by
  cases depth with
  | zero => exact tooDeep_same h
  | succ depth => simp only [weight, enter_same h, positive_same h]

include hModifiers

/-- One child changes the blocks of an alternative in the same way. -/
theorem block_same (h : Element.Same e e') (blocks : Blocks) :
    p.block depth modifiers here blocks e' = p.block depth modifiers here blocks e := by
  simp only [block, h.name_eq, weight_same h, hModifiers e e' h, requirements_same _ _ h,
    stray_same h]

/-- The blocks and the weight of an alternative come out the same. -/
theorem choiceOf_same (h : Element.Same e e') :
    p.choiceOf depth modifiers here e' = p.choiceOf depth modifiers here e := by
  have hBlocks : e'.children.foldlM (p.block depth modifiers here) ⟨none, [], []⟩ =
      e.children.foldlM (p.block depth modifiers here) ⟨none, [], []⟩ :=
    Reading.foldlM_same h.children
      (fun blocks c c' hChild => block_same hModifiers hChild blocks) _
  simp only [choiceOf, hBlocks, Blocks.weightFor, positive_same h]

/-- A modifier of a kind is the same where lists and alternatives below it are read alike. -/
theorem modifierOf_same (h : Element.Same e e') {choice : Path → Element → Reading Choice}
    (hChoice : ∀ c c', Element.Same c c' → choice here c' = choice here c) (kind : ModifierKind) :
    p.modifierOf depth modifiers choice here e' kind =
      p.modifierOf depth modifiers choice here e kind := by
  obtain rfl | rfl | hAtomic := kind.eq_or_isAtomic
  · refine ((branches_match h).bind fun found found' ⟨hIf, hThen, hElse⟩ => ?_).eq
    rw [requirements_same _ _ hIf, hModifiers _ _ hThen, hModifiers _ _ hElse]
    exact Reading.match_refl _
  · have hEntry (c c' : Element) (hChild : Element.Same c c') :
        p.entry choice here c' = p.entry choice here c := by
      simp only [entry, hChild.name_eq, hChoice c c' hChild, stray_same hChild]
    have hEntries := Reading.gather_same h.children hEntry
    simp only [modifierOf, hEntries]
  · have hRelated := Attribute.related_of_sameTag h.sameTag here
    exact (hRelated.modifierOf Reading.congruence_eq hAtomic p p depth depth modifiers modifiers
      choice choice).symm

omit hModifiers

/-- Modifiers, lists of them and choices, by induction on the levels that are left. -/
private theorem levels_same_look (depth : Nat) : ∀ (path : Path) (e e' : Element),
    Element.Same e e' → p.modifier depth path e' = p.modifier depth path e ∧
      p.modifiers depth path e' = p.modifiers depth path e ∧
      p.choice depth path e' = p.choice depth path e := by
  induction depth with
  | zero =>
      intro path e e' h
      simp only [modifier, modifiers, choice]
      exact ⟨tooDeep_same h, tooDeep_same h, tooDeep_same h⟩
  | succ depth ih =>
      intro path e e' h
      have hModifier (path : Path) (c c' : Element) (hChild : Element.Same c c') :=
        (ih path c c' hChild).1
      have hModifiers (path : Path) (c c' : Element) (hChild : Element.Same c c') :=
        (ih path c c' hChild).2.1
      have hChoice (path : Path) (c c' : Element) (hChild : Element.Same c c') :=
        (ih path c c' hChild).2.2
      simp only [modifier, modifiers, choice, enter_same h]
      refine ⟨bind_congr fun here => ?_, bind_congr fun here => ?_, bind_congr fun here => ?_⟩
      · simp only [modifierKind, h.name_eq, modifierOf_same (hModifiers here) h (hChoice here)]
      · exact Reading.each_same h.children (hModifier here)
      · exact choiceOf_same (hModifiers here) h

/-- Elements that look the same are read alike, with the same steps and the same end. -/
theorem read_same (entry : EntryPoint α) (h : Element.Same e e') (path : Path) :
    p.read entry e' path = p.read entry e path := by
  cases entry with
  | modifier => exact (levels_same_look _ path e e' h).1
  | modifiers => exact (levels_same_look _ path e e' h).2.1
  | requirement => exact requirement_same _ path h
  | requirements => exact requirements_same _ path h

end Parser

end Bounty
