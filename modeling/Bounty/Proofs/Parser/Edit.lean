import Mathlib.Data.List.Forall2
import Bounty.Proofs.Agreement
import Bounty.Proofs.Parser.Builder

/-! What a lenient reading does not see. Children that are not read may come and go, and the
branches of a conditional may stand in any order; how a reading ends stays the same. -/
namespace Bounty.Parser

variable {α : Type}

/-- How the children of an element may change where the children that are read change as `Child`
says. The parent is told by its role and its place. -/
inductive Edits (p : Parser) (reorders : Place → Prop)
    (Child : Role → Path → Element → Element → Prop) :
    Role → Place → List Element → List Element → Prop where
  | nil {role : Role} {parent : Place} : Edits p reorders Child role parent [] []
  | keep {role : Role} {parent : Place} {part : Role} {c c' : Element} {cs cs' : List Element} :
    p.use role parent.element c.name = .part part → Child part parent.path c c' →
      Edits p reorders Child role parent cs cs' →
        Edits p reorders Child role parent (c :: cs) (c' :: cs')
  /-- A child is left out that is not read, if it has no meaning or if no child of its parent is. -/
  | delete {role : Role} {parent : Place} {c : Element} {cs cs' : List Element} :
    (∀ part, p.use role parent.element c.name ≠ .part part) →
      Edits p reorders Child role parent cs cs' → Edits p reorders Child role parent (c :: cs) cs'
  | insert {role : Role} {parent : Place} {c' : Element} {cs cs' : List Element} :
    (∀ part, p.use role parent.element c'.name ≠ .part part) →
      Edits p reorders Child role parent cs cs' → Edits p reorders Child role parent cs (c' :: cs')
  /-- The branches of a conditional come to stand in another order. -/
  | reorder {parent : Place} {cs ds cs' : List Element} : reorders parent →
    p.modifierTable.lookup parent.element = some .ifThenElse → cs.Perm ds →
      Edits p reorders Child .modifier parent ds cs' →
        Edits p reorders Child .modifier parent cs cs'

/-- Two elements that are read in the same role and differ only in what a lenient reading does not
see, at any depth below them. The conditionals whose branches may be reordered are those at the
places that `reorders` tells. -/
inductive Alike (p : Parser) (reorders : Place → Prop) :
    Role → Path → Element → Element → Prop where
  | intro {role : Role} {path : Path} {name : String} {attributes : List (String × String)}
    {cs cs' : List Element} :
    Edits p reorders (Alike p reorders) role ⟨name, path ++ [name]⟩ cs cs' →
      Alike p reorders role path ⟨name, attributes, cs⟩ ⟨name, attributes, cs'⟩

/-- Two stops that differ at most in which of several repeated branches of a reordered conditional
is told. -/
def SameStop (reorders : Place → Prop) (x y : Stop) : Prop :=
  x = y ∨ ∃ first second place, reorders place ∧
    x = .fault ⟨.duplicateBranch first, place⟩ ∧ y = .fault ⟨.duplicateBranch second, place⟩

namespace SameStop

variable {reorders : Place → Prop}

theorem refl (x : Stop) : SameStop reorders x x := .inl rfl

/-- Two stops that may stand for a third may stand for each other. -/
theorem trans {x y z : Stop} (h : SameStop reorders x y) (hNext : SameStop reorders y z) :
    SameStop reorders x z := by
  rcases h with rfl | ⟨first, second, place, hReorders, rfl, rfl⟩
  · exact hNext
  · rcases hNext with rfl | ⟨_, third, _, -, hPlace, rfl⟩
    · exact .inr ⟨first, second, place, hReorders, rfl, rfl⟩
    · cases hPlace
      exact .inr ⟨first, third, place, hReorders, rfl, rfl⟩

end SameStop

/-- Two readings end alike: with the same value, or with stops that are the same. -/
abbrev Same (reorders : Place → Prop) (r s : Reading α) : Prop :=
  r.Agree (· = ·) (SameStop reorders) s

section Same

variable {p : Parser} {reorders : Place → Prop}

/-- Readings that end in the same way are the same here, whatever their steps. -/
theorem Same.of_outcome_eq {r s : Reading α} (h : r.outcome = s.outcome) : Same reorders r s :=
  Reading.agree_of_outcome_eq h (fun _ => rfl) SameStop.refl

/-- Only of two branches that stand twice may another one be told. -/
theorem Same.outcome_cases {r s : Reading α} (h : Same reorders r s) : r.outcome = s.outcome ∨
    ∃ first second place, reorders place ∧
      r.outcome = .error (.fault ⟨.duplicateBranch first, place⟩) ∧
      s.outcome = .error (.fault ⟨.duplicateBranch second, place⟩) := by
  unfold Same Reading.Agree at h
  cases hr : r.outcome <;> cases hs : s.outcome <;> simp only [hr, hs] at h
  · rcases h with rfl | ⟨first, second, place, hReorders, rfl, rfl⟩
    · exact .inl rfl
    · exact .inr ⟨first, second, place, hReorders, rfl, rfl⟩
  · exact .inl (congrArg _ h)

theorem same_refl (r : Reading α) : Same reorders r r := .of_outcome_eq rfl

/-- Sequences end in the same way where their parts do. -/
theorem Same.bind {β : Type} {r s : Reading α} {f g : α → Reading β} (h : Same reorders r s)
    (hNext : ∀ a, r.outcome = .ok a → Same reorders (f a) (g a)) :
    Same reorders (r >>= f) (s >>= g) :=
  Reading.Agree.bind h fun a _ hOutcome hValue => hValue ▸ hNext a hOutcome

/-- A lenient parser passes over a child without meaning. -/
theorem outcome_stray_bind (hLenient : p.strict = false) (here : Path) (child : Element)
    (next : Unit → Reading α) : (p.stray here child >>= next).outcome = (next ()).outcome := by
  simp [stray, hLenient]

end Same

section Children

variable {p : Parser} {reorders : Place → Prop} {Child : Role → Path → Element → Element → Prop}
  {role : Role} {parent : Place} {cs cs' : List Element}

/-- Children that are all read are kept one by one, in their order. -/
theorem Edits.same_each {part : Role} {read : Element → Reading α}
    (h : Edits p reorders Child role parent cs cs')
    (hUse : ∀ child, p.use role parent.element child = .part part)
    (hRead : ∀ c c', Child part parent.path c c' → Same reorders (read c) (read c')) :
    Same reorders (Reading.each read cs) (Reading.each read cs') := by
  induction h with
  | nil => exact same_refl _
  | keep hPart hChild _ ih =>
      rw [hUse] at hPart
      cases hPart
      exact (hRead _ _ hChild).bind fun a _ => (ih hUse hRead).bind fun as _ => same_refl _
  | delete hNone _ _ => exact absurd (hUse _) (hNone part)
  | insert hNone _ _ => exact absurd (hUse _) (hNone part)
  | reorder _ hKind _ _ _ =>
      have hOther := hUse ""
      simp [use_modifier hKind, ModifierKind.use] at hOther

/-- Optional values come out the same, where children without meaning give none. -/
theorem Edits.same_gather {choice : Element → Reading (Option α)}
    (h : Edits p reorders Child role parent cs cs')
    (hKind : p.modifierTable.lookup parent.element ≠ some .ifThenElse)
    (hRead : ∀ part c c', p.use role parent.element c.name = .part part →
      Child part parent.path c c' → Same reorders (choice c) (choice c'))
    (hStray : ∀ c, (∀ part, p.use role parent.element c.name ≠ .part part) →
      (choice c).outcome = .ok none) :
    Same reorders (Reading.gather choice cs) (Reading.gather choice cs') := by
  have hSkip (c : Element) (rest : List Element)
      (hNone : ∀ part, p.use role parent.element c.name ≠ .part part) :
      (Reading.gather choice (c :: rest)).outcome = (Reading.gather choice rest).outcome := by
    rw [Reading.gather, Reading.bind_of_ok (hStray c hNone)]
    simp
  induction h with
  | nil => exact same_refl _
  | keep hPart hChild _ ih =>
      exact (hRead _ _ _ hPart hChild).bind fun found _ =>
        (ih hKind hRead hStray hSkip).bind fun values _ => same_refl _
  | delete hNone _ ih => exact (ih hKind hRead hStray hSkip).of_left (hSkip _ _ hNone)
  | insert hNone _ ih => exact (ih hKind hRead hStray hSkip).of_right (hSkip _ _ hNone)
  | reorder _ hOther _ _ _ => exact absurd hOther hKind

/-- What is carried through the children comes out the same, where children without meaning leave it
alone. -/
theorem Edits.same_foldlM {β : Type} {read : β → Element → Reading β}
    (h : Edits p reorders Child role parent cs cs') (hRole : role ≠ .modifier)
    (hRead : ∀ part b c c', p.use role parent.element c.name = .part part →
      Child part parent.path c c' → Same reorders (read b c) (read b c'))
    (hStray : ∀ b c, (∀ part, p.use role parent.element c.name ≠ .part part) →
      (read b c).outcome = .ok b) (b : β) :
    Same reorders (cs.foldlM read b) (cs'.foldlM read b) := by
  have hSkip (b : β) (c : Element) (rest : List Element)
      (hNone : ∀ part, p.use role parent.element c.name ≠ .part part) :
      ((c :: rest).foldlM read b).outcome = (rest.foldlM read b).outcome := by
    rw [List.foldlM_cons, Reading.bind_of_ok (hStray b c hNone)]
  induction h generalizing b with
  | nil => exact same_refl _
  | keep hPart hChild _ ih =>
      rw [List.foldlM_cons, List.foldlM_cons]
      exact (hRead _ _ _ _ hPart hChild).bind fun next _ => ih hRole hRead hStray next hSkip
  | delete hNone _ ih => exact (ih hRole hRead hStray b hSkip).of_left (hSkip b _ _ hNone)
  | insert hNone _ ih => exact (ih hRole hRead hStray b hSkip).of_right (hSkip b _ _ hNone)
  | reorder _ _ _ _ _ => exact absurd rfl hRole

end Children

/-- There is only one order of at most one element. -/
private theorem eq_of_perm_of_length_le_one {β : Type} {xs ys : List β} (hPerm : xs.Perm ys)
    (hLength : xs.length ≤ 1) : xs = ys := by
  match xs, hLength with
  | [], _ => exact hPerm.nil_eq
  | [x], _ => exact List.singleton_perm.mp hPerm

private theorem rel_of_forall₂_toList {β : Type} {R : β → β → Prop} {x y : Option β}
    (h : List.Forall₂ R x.toList y.toList) : Option.Rel R x y := by
  cases x with
  | none =>
      cases y with
      | none => exact .none
      | some b => cases h
  | some a =>
      cases y with
      | none => cases h
      | some b =>
          cases h with
          | cons hHead _ => exact .some hHead

/-- Branches that have been found in two elements are those of the same names, and related. -/
def Branches.Alike (Child : Role → Element → Element → Prop)
    (found found' : Branches (Option Element)) : Prop :=
  ∀ name ∈ branchNames, ∀ part, ModifierKind.ifThenElse.use name = .part part →
    List.Forall₂ (Child part) (found.held name) (found'.held name)

section Branches

variable {p : Parser} {reorders : Place → Prop} (hLenient : p.strict = false) {here : Path}
  {e e' : Element}

include hLenient

/-- The same children in another order give the same branches, or some name stands twice. -/
theorem findBranches_perm (hReorders : reorders ⟨e.name, here⟩) {cs ds : List Element}
    (hPerm : cs.Perm ds) (found : Branches (Option Element)) :
    (p.findBranches here e found cs).Agree
      (fun a b => ∀ name ∈ branchNames, a.held name = b.held name) (SameStop reorders)
      (p.findBranches here e found ds) := by
  have hLength (name : String) : (found.held name ++ named name cs).length =
      (found.held name ++ named name ds).length := by
    simp [(hPerm.filter (fun e => decide (e.name = name))).length_eq, named]
  have hSpec (es : List Element) : (p.findBranches here e found es).Ensures
      (fun result => ∀ name ∈ branchNames, result.held name = found.held name ++ named name es)
      fun stop => ∃ name ∈ branchNames, 2 ≤ (found.held name ++ named name es).length ∧
        stop = .fault ⟨.duplicateBranch name, ⟨e.name, here⟩⟩ :=
    (findBranches_meets (fun name hName hTwice => ⟨name, hName, hTwice, rfl⟩)
      fun hStrict => by simp [hLenient] at hStrict).mono fun _ _ h => h.1
  -- In both orders a name stands equally often, so it is found once in both or twice in both.
  unfold Reading.Agree
  cases hFirst : (p.findBranches here e found cs).outcome with
  | ok a =>
      have ha := (hSpec cs).of_ok hFirst
      cases hSecond : (p.findBranches here e found ds).outcome with
      | ok b =>
          intro name hName
          have hb := (hSpec ds).of_ok hSecond name hName
          have hHeld : (a.held name).Perm (b.held name) := by
            rw [ha name hName, hb]
            exact (hPerm.filter _).append_left _
          exact eq_of_perm_of_length_le_one hHeld (a.length_held_le name)
      | error y =>
          obtain ⟨name, hName, hTwice, -⟩ := (hSpec ds).of_error hSecond
          have hOnce := a.length_held_le name
          rw [ha name hName, hLength] at hOnce
          exact absurd hTwice (by omega)
  | error x =>
      obtain ⟨first, hName, hTwice, rfl⟩ := (hSpec cs).of_error hFirst
      cases hSecond : (p.findBranches here e found ds).outcome with
      | ok b =>
          have hOnce := b.length_held_le first
          rw [(hSpec ds).of_ok hSecond first hName, ← hLength] at hOnce
          exact absurd hTwice (by omega)
      | error y =>
          obtain ⟨second, -, -, rfl⟩ := (hSpec ds).of_error hSecond
          exact .inr ⟨first, second, _, hReorders, rfl, rfl⟩

variable {Child : Role → Path → Element → Element → Prop}
  (hKind : p.modifierTable.lookup e.name = some .ifThenElse) (hElement : e'.name = e.name)
  (hName : ∀ part c c', Child part here c c' → c'.name = c.name)

include hKind hElement hName

/-- By induction on the changes, the branches that are found stay alike. -/
theorem Edits.agree_findBranches {cs cs' : List Element}
    (h : Edits p reorders Child .modifier ⟨e.name, here⟩ cs cs')
    {found found' : Branches (Option Element)}
    (hFound : Branches.Alike (Child · here) found found') :
    (p.findBranches here e found cs).Agree (Branches.Alike (Child · here)) (SameStop reorders)
      (p.findBranches here e' found' cs') := by
  have hNotPart {child : String}
      (hNone : ∀ part, p.use .modifier e.name child ≠ .part part) : child ∉ branchNames := by
    intro hBranch
    simp only [branchNames, List.mem_cons, List.not_mem_nil, or_false] at hBranch
    rcases hBranch with rfl | rfl | rfl <;> simp [use_modifier hKind, ModifierKind.use] at hNone
  generalize hRole : Role.modifier = role at h
  generalize hParent : (⟨e.name, here⟩ : Place) = parent at h
  induction h generalizing found found' with
  | nil => exact Reading.agree_pure hFound
  | @keep _ _ part c c' _ _ hPart hChild _ ih =>
      subst hRole hParent
      have hSame : c'.name = c.name := hName part c c' hChild
      rw [use_modifier hKind] at hPart
      have hBranch : c.name ∈ branchNames := mem_branchNames_of_use hPart
      have hBranch' : c'.name ∈ branchNames := hSame ▸ hBranch
      -- The place of the branch is free for both of the children or taken for both.
      have hHeld := hFound c.name hBranch part hPart
      by_cases hFree : found.held c.name = []
      · have hFree' : found'.held c'.name = [] := by
          rwa [hFree, List.forall₂_nil_left_iff, ← hSame] at hHeld
        rw [findBranches_cons_of_free p here e hBranch hFree,
          findBranches_cons_of_free p here e' hBranch' hFree']
        refine ih (fun other hOther role hRole => ?_) rfl rfl
        rw [Branches.held_put hBranch, Branches.held_put hBranch', hSame]
        split
        · next hHere =>
          rw [← hHere, hPart] at hRole
          cases hRole
          exact .cons hChild .nil
        · exact hFound other hOther role hRole
      · have hFree' : found'.held c'.name ≠ [] := by
          intro hNil
          rw [hSame] at hNil
          rw [hNil, List.forall₂_nil_right_iff] at hHeld
          exact hFree hHeld
        rw [findBranches_cons_of_held p here e hBranch hFree,
          findBranches_cons_of_held p here e' hBranch' hFree', hElement, hSame]
        exact Reading.agree_fault (.refl _)
  | delete hNone _ ih =>
      subst hRole hParent
      refine (ih hFound rfl rfl).of_left ?_
      rw [findBranches_cons_stray p here e (hNotPart hNone), outcome_stray_bind hLenient]
  | insert hNone _ ih =>
      subst hRole hParent
      refine (ih hFound rfl rfl).of_right ?_
      rw [findBranches_cons_stray p here e' (hNotPart hNone), outcome_stray_bind hLenient]
  | reorder hReorders _ hPerm _ ih =>
      subst hParent
      refine (findBranches_perm hLenient hReorders hPerm found).trans (ih hFound hRole rfl) ?_
        fun _ _ _ => SameStop.trans
      intro a b b' hHeld hAlike other hOther role hRole
      rw [hHeld other hOther]
      exact hAlike other hOther role hRole

/-- A conditional is left with branches that are alike, or is refused for the same reason. -/
theorem Edits.agree_branches
    (h : Edits p reorders Child .modifier ⟨e.name, here⟩ e.children e'.children) :
    (p.branches here e).Agree
      (fun found found' => Child .requirements here found.condition found'.condition ∧
        Child .modifiers here found.thenBranch found'.thenBranch ∧
        Child .modifiers here found.elseBranch found'.elseBranch)
      (SameStop reorders) (p.branches here e') := by
  have hNone : Branches.Alike (Child · here) ⟨none, none, none⟩ ⟨none, none, none⟩ := by
    intro name _ part _
    simp [Branches.held]
  refine (h.agree_findBranches hLenient hKind hElement hName hNone).bind
    fun found found' _ hFound => ?_
  have hIf := rel_of_forall₂_toList (hFound "if" (by simp [branchNames]) .requirements rfl)
  have hThen := rel_of_forall₂_toList (hFound "then" (by simp [branchNames]) .modifiers rfl)
  have hElse := rel_of_forall₂_toList (hFound "else" (by simp [branchNames]) .modifiers rfl)
  obtain ⟨condition, thenBranch, elseBranch⟩ := found
  obtain ⟨condition', thenBranch', elseBranch'⟩ := found'
  cases hIf with
  | none => simpa [hElement] using Reading.agree_fault (.refl _)
  | some hIf =>
      cases hThen with
      | none => simpa [hElement] using Reading.agree_fault (.refl _)
      | some hThen =>
          cases hElse with
          | none => simpa [hElement] using Reading.agree_fault (.refl _)
          | some hElse => exact Reading.agree_pure ⟨hIf, hThen, hElse⟩

end Branches

section Alike

variable {p : Parser} {reorders : Place → Prop} {role : Role} {path : Path} {e e' : Element}

/-- Names are never changed. -/
theorem Alike.name_eq (h : Alike p reorders role path e e') : e'.name = e.name := by
  cases h
  rfl

/-- All changes of an element are changes of its children. -/
theorem Alike.edits (h : Alike p reorders role path e e') :
    Edits p reorders (Alike p reorders) role ⟨e.name, path ++ [e.name]⟩ e.children e'.children := by
  cases h with
  | intro hEdits => exact hEdits

/-- Apart from its children an element stays the same. -/
theorem Alike.eq_with_children (h : Alike p reorders role path e e') :
    e' = { e with children := e'.children } := by
  cases h
  rfl

/-- The attributes of an element that is edited are read as before. -/
theorem Alike.sameTag (h : Alike p reorders role path e e') : e.SameTag e' := by
  cases h
  exact ⟨rfl, fun _ => rfl⟩

/-- Elements of one name are entered with the same step. -/
theorem same_enter_bind {f g : Path → Reading α} (path : Path) (h : e'.name = e.name)
    (hNext : Same reorders (f (path ++ [e.name])) (g (path ++ [e.name]))) :
    Same reorders (enter path e >>= f) (enter path e' >>= g) := by
  unfold enter
  rw [h]
  exact hNext

end Alike

section Walk

variable {p : Parser} {reorders : Place → Prop} {path here : Path} {e e' : Element} {depth : Nat}

/-- An element that lies too deep does so whatever stands in it. -/
theorem same_tooDeep (hName : e'.name = e.name) :
    Same reorders (p.tooDeep path e : Reading α) (p.tooDeep path e') := by
  unfold tooDeep
  rw [hName]
  exact same_enter_bind path hName (same_refl _)

theorem same_requirementKind_bind {f g : RequirementKind → Reading α} (hName : e'.name = e.name)
    (hNext : ∀ kind, p.requirementTable.lookup e.name = some kind →
      Same reorders (f kind) (g kind)) :
    Same reorders (p.requirementKind here e >>= f) (p.requirementKind here e' >>= g) := by
  have hKind : p.requirementKind here e' = p.requirementKind here e := by
    rw [requirementKind, hName, requirementKind]
  rw [hKind]
  exact (same_refl _).bind fun kind hOutcome => hNext kind (lookup_of_requirementKind hOutcome)

theorem same_modifierKind_bind {f g : ModifierKind → Reading α} (hName : e'.name = e.name)
    (hNext : ∀ kind, p.modifierTable.lookup e.name = some kind →
      Same reorders (f kind) (g kind)) :
    Same reorders (p.modifierKind here e >>= f) (p.modifierKind here e' >>= g) := by
  have hKind : p.modifierKind here e' = p.modifierKind here e := by
    rw [modifierKind, hName, modifierKind]
  rw [hKind]
  exact (same_refl _).bind fun kind hOutcome => hNext kind (lookup_of_modifierKind hOutcome)

/-- The children of a weight are not looked at. -/
theorem Alike.same_weight (h : Alike p reorders .weight path e e') :
    Same reorders (p.weight depth path e) (p.weight depth path e') := by
  rw [h.eq_with_children]
  cases depth <;> exact same_refl _

/-- A requirement is read alike, by induction on the levels that are left. -/
theorem Alike.same_requirement (h : Alike p reorders .requirement path e e') :
    Same reorders (p.requirement depth path e) (p.requirement depth path e') := by
  induction depth generalizing path e e' with
  | zero => exact same_tooDeep h.name_eq
  | succ depth ih =>
      refine same_enter_bind path h.name_eq ?_
      refine same_requirementKind_bind h.name_eq fun kind hKind => ?_
      obtain rfl | hAtomic := kind.eq_or_isAtomic
      · refine Same.bind ?_ fun children _ => same_refl _
        exact h.edits.same_each (use_requirement hKind) fun c c' => ih
      · rw [(Attribute.related_of_sameTag h.sameTag _).requirementOf Reading.congruence_eq hAtomic]
        exact same_refl _

/-- A list of requirements is read alike, with one level more than its members have. -/
theorem Alike.same_requirements (h : Alike p reorders .requirements path e e') :
    Same reorders (p.requirements depth path e) (p.requirements depth path e') := by
  cases depth with
  | zero => exact same_tooDeep h.name_eq
  | succ depth =>
      refine same_enter_bind path h.name_eq ?_
      exact h.edits.same_each (fun _ => rfl) fun c c' => Alike.same_requirement

section Choice

variable {modifiers : Path → Element → Reading (List Modifier)}
  (hModifiers : ∀ c c', Alike p reorders .modifiers here c c' →
    Same reorders (modifiers here c) (modifiers here c'))

include hModifiers

/-- A block that is read changes the blocks in the same way. -/
theorem Alike.same_block {role : Role} (h : Alike p reorders role here e e')
    (hUse : blockUse e.name = .part role) (blocks : Blocks) :
    Same reorders (p.block depth modifiers here blocks e)
      (p.block depth modifiers here blocks e') := by
  unfold block
  rw [h.name_eq]
  split
  · next hName =>
    simp [blockUse, hName] at hUse
    subst hUse
    exact h.same_weight.bind fun _ _ => same_refl _
  · next hWeight =>
    split
    · next hName =>
      simp [blockUse, hName] at hUse
      subst hUse
      exact (hModifiers e e' h).bind fun _ _ => same_refl _
    · next hModifier =>
      split
      · next hName =>
        simp [blockUse, hName] at hUse
        subst hUse
        exact h.same_requirements.bind fun _ _ => same_refl _
      · next hRequirement => simp [blockUse, hWeight, hModifier, hRequirement] at hUse

variable (hLenient : p.strict = false)

include hLenient

/-- An alternative ends up with the same blocks and the same weight. -/
theorem Alike.same_choiceOf (h : Alike p reorders .choice path e e')
    (hHere : here = path ++ [e.name]) :
    Same reorders (p.choiceOf depth modifiers here e) (p.choiceOf depth modifiers here e') := by
  subst hHere
  have hStray (blocks : Blocks) (c : Element) (hNone : ∀ part, blockUse c.name ≠ .part part) :
      (p.block depth modifiers (path ++ [e.name]) blocks c).outcome = .ok blocks := by
    unfold block
    split
    · next hName => simp [blockUse, hName] at hNone
    · split
      · next hName => simp [blockUse, hName] at hNone
      · split
        · next hName => simp [blockUse, hName] at hNone
        · rw [outcome_stray_bind hLenient, Reading.outcome_pure]
  refine Same.bind ?_ fun blocks _ => ?_
  · exact h.edits.same_foldlM (by simp) (fun part blocks c c' hPart hChild =>
      hChild.same_block hModifiers hPart blocks) hStray _
  · rw [h.eq_with_children]
    exact same_refl _

/-- A modifier of a known kind is read alike where its parts are. -/
theorem Alike.same_modifierOf {choice : Path → Element → Reading Choice} {kind : ModifierKind}
    (hChoice : ∀ c c', Alike p reorders .choice here c c' →
      Same reorders (choice here c) (choice here c'))
    (h : Alike p reorders .modifier path e e') (hHere : here = path ++ [e.name])
    (hKind : p.modifierTable.lookup e.name = some kind) :
    Same reorders (p.modifierOf depth modifiers choice here e kind)
      (p.modifierOf depth modifiers choice here e' kind) := by
  subst hHere
  obtain rfl | rfl | hAtomic := kind.eq_or_isAtomic
  · refine (h.edits.agree_branches hLenient hKind h.name_eq fun _ _ _ => Alike.name_eq).bind
      fun found found' _ ⟨hIf, hThen, hElse⟩ => ?_
    refine hIf.same_requirements.bind fun condition _ => ?_
    refine (hModifiers _ _ hThen).bind fun thenBranch _ => ?_
    exact (hModifiers _ _ hElse).bind fun elseBranch _ => same_refl _
  · refine Same.bind (h.edits.same_gather ?_ ?_ ?_) fun entries _ => same_refl _
    · simp [hKind]
    · intro part c c' hPart hChild
      rw [use_modifier hKind] at hPart
      unfold entry
      rw [hChild.name_eq]
      split
      · next hName =>
        simp [ModifierKind.use, hName] at hPart
        subst hPart
        exact (hChoice c c' hChild).bind fun _ _ => same_refl _
      · next hName => simp [ModifierKind.use, hName] at hPart
    · intro c hNone
      unfold entry
      split
      · next hName => simp [use_modifier hKind, ModifierKind.use, hName] at hNone
      · rw [outcome_stray_bind hLenient, Reading.outcome_pure]
  · rw [(Attribute.related_of_sameTag h.sameTag _).modifierOf Reading.congruence_eq hAtomic p p]
    exact same_refl _

end Choice

variable (hLenient : p.strict = false)

include hLenient

/-- Modifiers, lists of them and choices, by induction on the levels that are left. -/
private theorem levels_same (depth : Nat) : ∀ (path : Path) (e e' : Element),
    (Alike p reorders .modifier path e e' →
      Same reorders (p.modifier depth path e) (p.modifier depth path e')) ∧
    (Alike p reorders .modifiers path e e' →
      Same reorders (p.modifiers depth path e) (p.modifiers depth path e')) ∧
    (Alike p reorders .choice path e e' →
      Same reorders (p.choice depth path e) (p.choice depth path e')) := by
  induction depth with
  | zero =>
      intro path e e'
      simp only [modifier, modifiers, choice]
      exact ⟨fun h => same_tooDeep h.name_eq, fun h => same_tooDeep h.name_eq,
        fun h => same_tooDeep h.name_eq⟩
  | succ depth ih =>
      intro path e e'
      have hNext (c c' : Element) := ih (path ++ [e.name]) c c'
      simp only [modifier, modifiers, choice]
      refine ⟨fun h => ?_, fun h => ?_, fun h => ?_⟩ <;> refine same_enter_bind path h.name_eq ?_
      · refine same_modifierKind_bind h.name_eq fun kind hKind => ?_
        exact h.same_modifierOf (fun c c' => (hNext c c').2.1) hLenient
          (fun c c' => (hNext c c').2.2) rfl hKind
      · exact h.edits.same_each (fun _ => rfl) fun c c' => (hNext c c').1
      · exact h.same_choiceOf (fun c c' => (hNext c c').2.1) hLenient rfl

/-- What a lenient reading does not see has no say in how it ends. -/
theorem Alike.same_read (entry : EntryPoint α) (h : Alike p reorders entry.role path e e') :
    Same reorders (p.read entry e path) (p.read entry e' path) := by
  cases entry with
  | modifier => exact (levels_same hLenient _ path e e').1 h
  | modifiers => exact (levels_same hLenient _ path e e').2.1 h
  | requirement => exact h.same_requirement
  | requirements => exact h.same_requirements

end Walk

end Bounty.Parser
