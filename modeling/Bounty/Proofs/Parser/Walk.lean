import Mathlib.Data.List.Basic
import Mathlib.Data.List.Perm.Basic
import Bounty.Proofs.Parser.Branches

/-! The order in which the elements of a document are gone through. Every element is gone into
below its parent, in the order in which its parent goes through its children; only a conditional
goes through them several times. -/
namespace Bounty

namespace Parser

/-- How the children of an element are gone through, pass by pass. A conditional looks at all of
them for what is no branch of it, and then for one branch after the other. -/
def passes (p : Parser) (role : Role) (parent : String) : List (String → Use) :=
  match role, p.modifierTable.lookup parent with
  | .modifier, some .ifThenElse =>
    (fun child => if child ∈ branchNames then .unread else .stray) ::
      branchNames.map fun branch child =>
        if child = branch then ModifierKind.ifThenElse.use child else .unread
  | _, _ => [p.use role parent]

section Walk

variable {β : Type}

mutual

/-- Goes through an element that is read in a role and through all that is read below it: `enter`
tells what comes of an element that is read, and `skip` what comes of a child without meaning. -/
def walk (p : Parser) (enter : Role → Path → Element → List β) (skip : String → Path → List β)
    (role : Role) (path : Path) : Element → List β
  | ⟨name, attributes, children⟩ =>
    enter role (path ++ [name]) ⟨name, attributes, children⟩ ++
      (p.passes role name).flatMap fun use => p.walkAmong enter skip use (path ++ [name]) children

/-- One pass through the children of the element at `here`. -/
def walkAmong (p : Parser) (enter : Role → Path → Element → List β)
    (skip : String → Path → List β) (use : String → Use) (here : Path) : List Element → List β
  | [] => []
  | child :: rest =>
    (match use child.name with
      | .part role => p.walk enter skip role here child
      | .stray => skip child.name here
      | .unread => []) ++ p.walkAmong enter skip use here rest

end

variable {p : Parser} {enter : Role → Path → Element → List β} {skip : String → Path → List β}

/-- A walk through an element tells of the element and then of each pass through its children. -/
theorem walk_eq (role : Role) (path : Path) (e : Element) :
    p.walk enter skip role path e = enter role (path ++ [e.name]) e ++
      (p.passes role e.name).flatMap fun use =>
        p.walkAmong enter skip use (path ++ [e.name]) e.children := by
  obtain ⟨name, attributes, children⟩ := e
  rw [walk]

/-- What is told of a child does not depend on those beside it. -/
theorem walkAmong_eq_flatMap (use : String → Use) (here : Path) (es : List Element) :
    p.walkAmong enter skip use here es =
      es.flatMap fun child => p.walkAmong enter skip use here [child] := by
  induction es with
  | nil => rw [walkAmong, List.flatMap_nil]
  | cons child rest ih =>
      rw [walkAmong, ih, List.flatMap_cons, walkAmong, walkAmong, List.append_nil]

theorem walkAmong_cons (use : String → Use) (here : Path) (child : Element)
    (rest : List Element) : p.walkAmong enter skip use here (child :: rest) =
      p.walkAmong enter skip use here [child] ++ p.walkAmong enter skip use here rest := by
  rw [walkAmong_eq_flatMap, List.flatMap_cons, ← walkAmong_eq_flatMap]

/-- A child that is a part is walked through. -/
theorem walkAmong_part {use : String → Use} {here : Path} {child : Element} {role : Role}
    (h : use child.name = .part role) :
    p.walkAmong enter skip use here [child] = p.walk enter skip role here child := by
  simp [walkAmong, h]

/-- A child without meaning is told of and not gone into. -/
theorem walkAmong_stray {use : String → Use} {here : Path} {child : Element}
    (h : use child.name = .stray) :
    p.walkAmong enter skip use here [child] = skip child.name here := by
  simp [walkAmong, h]

/-- A pass in which no child is looked at tells nothing. -/
theorem walkAmong_unread {use : String → Use} {here : Path} {es : List Element}
    (h : ∀ e ∈ es, use e.name = .unread) : p.walkAmong enter skip use here es = [] := by
  induction es with
  | nil => rw [walkAmong]
  | cons child rest ih =>
      rw [walkAmong, h child (by simp), ih fun e he => h e (by simp [he])]
      rfl

/-- A pass that looks for one name goes through the children of this name. -/
theorem walkAmong_named (use : String → Use) (name : String) (here : Path) (es : List Element) :
    p.walkAmong enter skip (fun child => if child = name then use child else .unread) here es =
      p.walkAmong enter skip use here (named name es) := by
  induction es with
  | nil => rw [named_nil, walkAmong, walkAmong]
  | cons child rest ih =>
      rw [walkAmong, ih, named_cons]
      by_cases hName : child.name = name
      · rw [if_pos hName, if_pos hName, walkAmong]
      · rw [if_neg hName, if_neg hName, List.nil_append]

variable {γ : Type}

mutual

/-- What is picked from all that comes of a walk comes of a walk that picks at once. -/
theorem filterMap_walk (pick : β → Option γ) (role : Role) (path : Path) : ∀ e,
    (p.walk enter skip role path e).filterMap pick =
      p.walk (fun role here e => (enter role here e).filterMap pick)
        (fun child here => (skip child here).filterMap pick) role path e
  | ⟨name, attributes, children⟩ => by
      rw [walk, walk, List.filterMap_append, List.filterMap_flatMap]
      congr 2
      funext use
      exact filterMap_walkAmong pick use (path ++ [name]) children

theorem filterMap_walkAmong (pick : β → Option γ) (use : String → Use) (here : Path) : ∀ es,
    (p.walkAmong enter skip use here es).filterMap pick =
      p.walkAmong (fun role here e => (enter role here e).filterMap pick)
        (fun child here => (skip child here).filterMap pick) use here es
  | [] => by rw [walkAmong, walkAmong, List.filterMap_nil]
  | child :: rest => by
      rw [walkAmong, walkAmong, List.filterMap_append, filterMap_walkAmong pick use here rest]
      congr 1
      split
      · next role _ => exact filterMap_walk pick role here child
      · rfl
      · rfl

end

end Walk

/-- The use of a child in a pass is the one that it has in its parent, or none. -/
theorem use_of_mem_passes {p : Parser} {role : Role} {parent child : String}
    {use : String → Use} (h : use ∈ p.passes role parent) :
    use child = .unread ∨ use child = p.use role parent child := by
  unfold passes at h
  split at h
  · next hKind =>
    rw [use_modifier hKind]
    rcases List.mem_cons.mp h with rfl | hBranch
    · by_cases hName : child ∈ branchNames
      · exact .inl (if_pos hName)
      · exact .inr ((if_neg hName).trans (use_of_not_mem_branchNames hName).symm)
    · obtain ⟨branch, -, rfl⟩ := List.mem_map.mp hBranch
      by_cases hName : child = branch
      · exact .inr (if_pos hName)
      · exact .inl (if_neg hName)
  · rw [List.mem_singleton.mp h]
    exact .inr rfl

/-- Every part of an element is met in one of the passes. -/
theorem exists_pass {p : Parser} {role part : Role} {parent child : String}
    (h : p.use role parent child = .part part) :
    ∃ use ∈ p.passes role parent, use child = .part part := by
  unfold passes
  split
  · next hKind =>
    rw [use_modifier hKind] at h
    have hBranch := List.mem_map_of_mem (f := fun branch child =>
      if child = branch then ModifierKind.ifThenElse.use child else .unread)
      (mem_branchNames_of_use h)
    exact ⟨_, List.mem_cons_of_mem _ hBranch, (if_pos rfl).trans h⟩
  · exact ⟨_, List.mem_singleton_self _, h⟩

/-- An element that is read in a role, with the path that leads to it. -/
structure Visit where
  role : Role
  here : Path
  e : Element

/-- The elements that are read, in order. -/
def visits (p : Parser) : Role → Path → Element → List Visit :=
  p.walk (fun role here e => [⟨role, here, e⟩]) fun _ _ => []

/-- The children that are passed over, in order, each with the path of its parent. Nothing that
lies in one of them is gone into. -/
def strays (p : Parser) : Role → Path → Element → List (String × Path) :=
  p.walk (fun _ _ _ => []) fun child here => [(child, here)]

/-- The children without meaning of one element that is read. -/
def strayChildren (p : Parser) (v : Visit) : List (String × Path) :=
  (v.e.children.filter (p.use v.role v.e.name ·.name = .stray)).map (·.name, v.here)

section Visits

variable {p : Parser} {start : Role} {path : Path} {document : Element}

/-- A child without meaning is met in one pass alone. -/
theorem flatMap_passes_strays (role : Role) (parent : String) (es : List Element) :
    (p.passes role parent).flatMap (fun use => es.filter (use ·.name = .stray)) =
      es.filter (p.use role parent ·.name = .stray) := by
  unfold passes
  split
  · next hKind =>
    rw [List.flatMap_cons, List.flatMap_map]
    have hBranch (branch : String) (hMem : branch ∈ branchNames) : es.filter (fun e =>
        (if e.name = branch then ModifierKind.ifThenElse.use e.name else .unread) = .stray) =
          [] := by
      rw [List.filter_eq_nil_iff]
      intro e _
      by_cases hName : e.name = branch
      · simp only [branchNames, List.mem_cons, List.not_mem_nil, or_false] at hMem
        rcases hMem with rfl | rfl | rfl <;> simp [hName, ModifierKind.use]
      · simp [hName]
    rw [List.flatMap_eq_nil_iff.mpr hBranch, List.append_nil]
    congr 1
    funext e
    rw [use_modifier hKind]
    by_cases hName : e.name ∈ branchNames
    · have hUse : ModifierKind.ifThenElse.use e.name ≠ .stray := by
        simp only [branchNames, List.mem_cons, List.not_mem_nil, or_false] at hName
        rcases hName with hIf | hThen | hElse <;> simp [ModifierKind.use, *]
      simp [hName, hUse]
    · simp [hName, use_of_not_mem_branchNames hName]
  · rw [List.flatMap_singleton]

mutual

/-- Every child without meaning of every element that is read is passed over, once for each. -/
theorem strays_perm (p : Parser) (role : Role) (path : Path) : ∀ e,
    (p.strays role path e).Perm ((p.visits role path e).flatMap p.strayChildren)
  | ⟨name, attributes, children⟩ => by
      have hAmong use := straysAmong_perm p use (path ++ [name]) children
      rw [strays, visits, walk, walk, List.nil_append, List.singleton_append, List.flatMap_cons,
        List.flatMap_assoc]
      refine (List.Perm.flatMap_left _ fun use _ => hAmong use).trans ?_
      refine (List.flatMap_append_perm _ _ _).symm.trans ?_
      rw [← List.map_flatMap, flatMap_passes_strays]
      rfl

/-- In one pass the strays are the children that it does not know and those below the others. -/
theorem straysAmong_perm (p : Parser) (use : String → Use) (here : Path) : ∀ es,
    (p.walkAmong (fun _ _ _ => []) (fun child here => [(child, here)]) use here es).Perm
      ((es.filter (use ·.name = .stray)).map (·.name, here) ++
        (p.walkAmong (fun role here e => [⟨role, here, e⟩]) (fun _ _ => []) use here es).flatMap
          p.strayChildren)
  | [] => by
      rw [walkAmong, walkAmong]
      rfl
  | child :: rest => by
      have hRest := straysAmong_perm p use here rest
      rw [walkAmong, walkAmong, List.flatMap_append]
      cases hUse : use child.name with
      | part role =>
          have hChild := strays_perm p role here child
          rw [List.filter_cons_of_neg (by simp [hUse])]
          refine (hChild.append hRest).trans ?_
          rw [← List.append_assoc, ← List.append_assoc]
          exact List.perm_append_comm.append_right _
      | stray =>
          rw [List.filter_cons_of_pos (by simp [hUse]), List.map_cons]
          exact hRest.cons _
      | unread =>
          rw [List.filter_cons_of_neg (by simp [hUse])]
          exact hRest

end

/-- What is gone into below an element are its parts, in whatever pass. -/
theorem mem_visits {role : Role} {e : Element} {v : Visit} :
    v ∈ p.visits role path e ↔ v = ⟨role, path ++ [e.name], e⟩ ∨
      ∃ child ∈ e.children, ∃ part, p.use role e.name child.name = .part part ∧
        v ∈ p.visits part (path ++ [e.name]) child := by
  have hAmong (use : String → Use) (es : List Element) :
      v ∈ p.walkAmong (fun role here e => [⟨role, here, e⟩]) (fun _ _ => []) use
          (path ++ [e.name]) es ↔
        ∃ child ∈ es, ∃ part, use child.name = .part part ∧
          v ∈ p.visits part (path ++ [e.name]) child := by
    rw [walkAmong_eq_flatMap, List.mem_flatMap]
    refine exists_congr fun child => and_congr_right fun _ => ?_
    cases hUse : use child.name with
    | part part => simp [walkAmong_part hUse, visits]
    | stray => simp [walkAmong_stray hUse]
    | unread => simp [walkAmong, hUse]
  rw [visits, walk_eq, List.singleton_append, List.mem_cons, List.mem_flatMap]
  refine or_congr_right ⟨?_, ?_⟩
  · rintro ⟨use, hPass, hMem⟩
    obtain ⟨child, hChild, part, hPart, hVisit⟩ := (hAmong use _).mp hMem
    refine ⟨child, hChild, part, ?_, hVisit⟩
    rcases use_of_mem_passes hPass with hUnread | hUse
    · rw [hUnread] at hPart
      cases hPart
    · rw [← hUse, hPart]
  · rintro ⟨child, hChild, part, hPart, hVisit⟩
    obtain ⟨use, hPass, hUse⟩ := exists_pass hPart
    exact ⟨use, hPass, (hAmong use _).mpr ⟨child, hChild, part, hUse, hVisit⟩⟩

/-- An element is larger than its children, so a walk comes to an end. -/
theorem sizeOf_child_lt {e child : Element} (h : child ∈ e.children) : sizeOf child < sizeOf e := by
  obtain ⟨name, attributes, children⟩ := e
  have hSmaller : sizeOf child < sizeOf children := List.sizeOf_lt_of_mem h
  simp only [Element.mk.sizeOf_spec]
  omega

/-- What a walk goes into is read, with the role and the path that the walk tells. -/
theorem reached_of_mem_visits {role : Role} {here : Path} {v : Visit} (e : Element)
    (hReached : p.Reached start path document role (here ++ [e.name]) e)
    (hVisit : v ∈ p.visits role here e) : p.Reached start path document v.role v.here v.e := by
  rcases mem_visits.mp hVisit with rfl | ⟨child, hChild, part, hPart, hBelow⟩
  · exact hReached
  · have := sizeOf_child_lt hChild
    exact reached_of_mem_visits child (hReached.child hChild hPart) hBelow
termination_by sizeOf e

/-- The parts of an element that is gone into are gone into. -/
theorem child_mem_visits {role part : Role} {here : Path} {v : Visit} {c : Element} (e : Element)
    (hVisit : v ∈ p.visits role here e) (hChild : c ∈ v.e.children)
    (hPart : p.use v.role v.e.name c.name = .part part) :
    ⟨part, v.here ++ [c.name], c⟩ ∈ p.visits role here e := by
  rcases mem_visits.mp hVisit with rfl | ⟨first, hFirst, other, hOther, hBelow⟩
  · exact mem_visits.mpr (.inr ⟨c, hChild, part, hPart, mem_visits.mpr (.inl rfl)⟩)
  · have := sizeOf_child_lt hFirst
    exact mem_visits.mpr (.inr ⟨first, hFirst, other, hOther,
      child_mem_visits first hBelow hChild hPart⟩)
termination_by sizeOf e

/-- An element is gone into exactly if it is read. -/
theorem mem_visits_iff_reached {role : Role} {here : Path} {e : Element} :
    ⟨role, here, e⟩ ∈ p.visits start path document ↔
      p.Reached start path document role here e := by
  refine ⟨reached_of_mem_visits document .root, fun hReached => ?_⟩
  induction hReached with
  | root => exact mem_visits.mpr (.inl rfl)
  | child _ hChild hPart ih => exact child_mem_visits document ih hChild hPart

end Visits

end Parser

end Bounty
