import Bounty.Proofs.Parser.Calls
import Bounty.Proofs.Parser.Contract
import Bounty.Proofs.Parser.Transfer

/-! Nothing that is read is lost. Every modifier and every requirement of a document that is read
stands once in the tree, in the order of the document, unless a later block of the same name takes
the place of its own. -/
namespace Bounty

variable {α : Type}

/-- The rules of what is read in a role. A weight has none. -/
def Role.rules : (role : Role) → role.Value → List Rule
  | .modifier => Modifier.rules
  | .modifiers => Modifier.rulesOf
  | .choice => Modifier.rulesOfEntry
  | .weight => fun _ => []
  | .requirement => Requirement.rules
  | .requirements => Requirement.rulesOf

namespace Parser

/-- The rules of a document are those of its role. -/
theorem EntryPoint.rules_eq (entry : EntryPoint α) (a : α) :
    entry.rules a = entry.role.rules (entry.value a) := by
  cases entry <;> rfl

/-- The rules of a tree are what the parts that are kept lead to, call by call, and the lookups on
the way to it are those of all the parts that are read. -/
structure Tells (p : Parser) (depth : Nat) (here : Path) (kept read : List (Role × Element))
    (rules : List Rule) (lookups : List Step) : Prop where
  rules : rules.map .ok = (kept.flatMap (p.callsWithin .last depth here)).map (Call.outcome p)
  lookups : lookups.Perm ((read.flatMap (p.callsWithin .all depth here)).map Call.step)

namespace Tells

variable {p : Parser} {depth : Nat} {here path : Path}
  {kept read kept' read' : List (Role × Element)}
  {rules rules' : List Rule} {lookups lookups' : List Step} {role : Role} {e : Element}

/-- Where nothing has been read nothing is told. -/
theorem nil : Tells p depth here [] [] [] [] := ⟨rfl, .nil⟩

/-- Parts that follow one another tell their rules in this order. -/
theorem append (h : Tells p depth here kept read rules lookups)
    (hNext : Tells p depth here kept' read' rules' lookups') :
    Tells p depth here (kept ++ kept') (read ++ read') (rules ++ rules') (lookups ++ lookups') where
  rules := by
    rw [List.map_append, List.flatMap_append, List.map_append, h.rules, hNext.rules]
  lookups := by
    rw [List.flatMap_append, List.map_append]
    exact h.lookups.append hNext.lookups

/-- Of what replaces something else the rules are kept, but both have been read. -/
theorem replace (h : Tells p depth here kept read rules lookups)
    (hNext : Tells p depth here kept' read' rules' lookups') :
    Tells p depth here kept' (read ++ read') rules' (lookups ++ lookups') where
  rules := hNext.rules
  lookups := by
    rw [List.flatMap_append, List.map_append]
    exact h.lookups.append hNext.lookups

/-- In which order the lookups came has no say. -/
theorem of_perm (h : Tells p depth here kept read rules lookups)
    (hPerm : lookups'.Perm lookups) : Tells p depth here kept read rules lookups' where
  rules := h.rules
  lookups := hPerm.trans h.lookups

/-- What is told of the parts of an element is told of the element, with its own call in front. -/
theorem enter {own : List Rule} (hOwn : own.map .ok = (Call.here role path e).map (Call.outcome p))
    (h : Tells p depth (path ++ [e.name]) (p.parts .last role e) (p.parts .all role e) rules
      lookups) :
    Tells p (depth + 1) path [(role, e)] [(role, e)] (own ++ rules)
      ((Call.here role path e).map Call.step ++ lookups) where
  rules := by
    rw [List.flatMap_singleton, callsWithin, List.map_append, List.map_append, hOwn, h.rules]
  lookups := by
    rw [List.flatMap_singleton, callsWithin, List.map_append]
    exact h.lookups.append_left _

/-- Where an element is no call itself, all is told by its parts. -/
theorem pass (hNone : Call.here role path e = [])
    (h : Tells p depth (path ++ [e.name]) (p.parts .last role e) (p.parts .all role e) rules
      lookups) : Tells p (depth + 1) path [(role, e)] [(role, e)] rules lookups := by
  have hOwn : ([] : List Rule).map .ok = (Call.here role path e).map (Call.outcome p) := by
    rw [hNone, List.map_nil, List.map_nil]
  simpa [hNone] using enter hOwn h

end Tells

/-- As many levels are left below a path as the limit has more than the path has names. -/
abbrev Level (p : Parser) (_ : Role) (depth : Nat) (path : Path) (_ : Element) : Prop :=
  path.length + depth = p.maxDepth

/-- An element that is read in a role tells the rules of all that is kept below it. -/
abbrev Keeps (p : Parser) (role : Role) (depth : Nat) (path : Path) (e : Element)
    (a : role.Value) (steps : List Step) : Prop :=
  Tells p depth path [(role, e)] [(role, e)] (role.rules a) (steps.filter Step.isLookup)

section Parts

variable {p : Parser} {depth : Nat} {here path : Path} {e : Element} {es : List Element}
  {steps : List Step}

/-- A modifier tells its own rule and those of its parts. Levels are counted along the path, so it
is read by itself from this path on as it is where it stands. -/
theorem keeps_modifier {m : Modifier} (hBecomes : p.Becomes p.Level .modifier depth path e m)
    (h : Tells p depth (path ++ [e.name]) (p.parts .last .modifier e) (p.parts .all .modifier e)
      m.within (steps.filter Step.isLookup)) :
    Keeps p .modifier (depth + 1) path e m
      (.entered (path ++ [e.name]) :: .modifier (path ++ [e.name]) :: steps) := by
  have hOwn : [Rule.modifier m].map .ok = (Call.here .modifier path e).map (Call.outcome p) := by
    simp [Call.here, Call.outcome, readModifier, depthBelow_eq hBecomes.pre, hBecomes.gives,
      Except.map]
  exact h.enter hOwn

/-- A requirement tells its own rule and those of its parts. -/
theorem keeps_requirement {r : Requirement}
    (hBecomes : p.Becomes p.Level .requirement depth path e r)
    (h : Tells p depth (path ++ [e.name]) (p.parts .last .requirement e)
      (p.parts .all .requirement e) r.within (steps.filter Step.isLookup)) :
    Keeps p .requirement (depth + 1) path e r
      (.entered (path ++ [e.name]) :: .requirement (path ++ [e.name]) :: steps) := by
  have hOwn : [Rule.requirement r].map .ok =
      (Call.here .requirement path e).map (Call.outcome p) := by
    simp [Call.here, Call.outcome, readRequirement, depthBelow_eq hBecomes.pre, hBecomes.gives,
      Except.map]
  exact h.enter hOwn

/-- Nothing stands below a modifier without parts, neither in the tree nor among the calls. -/
theorem tells_grant {m : Modifier} (hKind : p.modifierTable.lookup e.name = some m.kind)
    (hAtomic : m.kind.IsAtomic) :
    Tells p depth here (p.parts .last .modifier e) (p.parts .all .modifier e) m.within [] := by
  have hNone (selection : Selection) : p.parts selection .modifier e = [] := by
    simp [parts, hKind, hAtomic.1, hAtomic.2]
  have hWithin : m.within = [] := by
    cases m with
    | ifThenElse => exact absurd rfl hAtomic.1
    | randomChoice => exact absurd rfl hAtomic.2
    | _ => simp only [Modifier.within]
  rw [hNone, hNone, hWithin]
  exact .nil

/-- Nothing stands below a check. -/
theorem tells_check {c : Check} (hKind : p.requirementTable.lookup e.name = some c.demand.kind)
    (hAtomic : c.demand.kind.IsAtomic) :
    Tells p depth here (p.parts .last .requirement e) (p.parts .all .requirement e)
      (Requirement.within (.check c)) [] := by
  have hNone (selection : Selection) : p.parts selection .requirement e = [] := by
    have hOther : c.demand.kind ≠ .conjunction := hAtomic
    simp [parts, hKind, hOther]
  rw [hNone, hNone, Requirement.within]
  exact .nil

/-- Nothing is looked up for a weight. -/
theorem Keeps.lookups_eq_nil {w : Int} (h : Keeps p .weight depth here e w steps) :
    steps.filter Step.isLookup = [] := by
  have hNone : p.callsWithin .all depth here (.weight, e) = [] := by
    cases depth <;> rfl
  simpa [hNone] using h.lookups

/-- A note about a child is no lookup. -/
theorem lookups_skipped (here : Path) (es : List Element) :
    (skipped here es).filter Step.isLookup = [] := by
  refine List.filter_eq_nil_iff.mpr fun s hs => ?_
  obtain ⟨c, -, rfl⟩ := List.mem_map.mp hs
  simp

/-- The branches of a conditional are read in the order of a tree, wherever they stand. -/
theorem parts_conditional (hKind : p.modifierTable.lookup e.name = some .ifThenElse)
    {found : Branches Element} (hAmong : found.Among e.children) (selection : Selection) :
    p.parts selection .modifier e = [(.requirements, found.condition)] ++
      ([(.modifiers, found.thenBranch)] ++ [(.modifiers, found.elseBranch)]) := by
  simp [parts, hKind, hAmong.condition, hAmong.thenBranch, hAmong.elseBranch]

/-- The parts of a random choice are its alternatives. -/
theorem parts_randomChoice (hKind : p.modifierTable.lookup e.name = some .randomChoice)
    (selection : Selection) :
    p.parts selection .modifier e = (named "choice" e.children).map (.choice, ·) := by
  simp [parts, hKind]

/-- All children of a conjunction are its parts. -/
theorem parts_conjunction (hKind : p.requirementTable.lookup e.name = some .conjunction)
    (selection : Selection) :
    p.parts selection .requirement e = e.children.map (.requirement, ·) := by
  simp [parts, hKind]

/-- A list tells what its members do, one after the other. -/
theorem tells_each {part : Role} {as : List part.Value}
    (h : Each (Keeps p part depth here) es as steps) :
    Tells p depth here (es.map (part, ·)) (es.map (part, ·)) (as.flatMap part.rules)
      (steps.filter Step.isLookup) := by
  induction h with
  | nil => exact .nil
  | cons hFirst _ ih =>
      rw [List.filter_append]
      exact hFirst.append ih

/-- The alternatives of a choice tell their rules in order; other children have none. -/
theorem tells_alternatives {as : List Choice}
    (h : Alternatives (Keeps p .choice depth here) here es as steps) :
    Tells p depth here ((named "choice" es).map (.choice, ·))
      ((named "choice" es).map (.choice, ·)) (as.flatMap Modifier.rulesOfEntry)
      (steps.filter Step.isLookup) := by
  induction h with
  | nil => exact .nil
  | choice hName hFirst _ ih =>
      rw [named_cons, if_pos hName, List.filter_append]
      exact hFirst.append ih
  | stray hName _ ih =>
      rw [named_cons, if_neg hName]
      exact ih

/-- The blocks of a choice hold the rules of the last block of each name among the children that
have been gone through, where all the blocks have been read. -/
def Blocks.Tell (p : Parser) (depth : Nat) (here : Path) (done : List Element) (blocks : Blocks)
    (lookups : List Step) : Prop :=
  ∃ first second, lookups.Perm (first ++ second) ∧
    Tells p depth here ((Selection.last.of (named "requirement" done)).map (.requirements, ·))
      ((named "requirement" done).map (.requirements, ·))
      (Requirement.rulesOf blocks.requirements) first ∧
    Tells p depth here ((Selection.last.of (named "modifier" done)).map (.modifiers, ·))
      ((named "modifier" done).map (.modifiers, ·)) (Modifier.rulesOf blocks.modifiers) second

namespace Blocks.Tell

variable {done : List Element} {blocks : Blocks} {lookups : List Step} {c : Element}

theorem nil : Blocks.Tell p depth here [] ⟨none, [], []⟩ [] := by
  refine ⟨[], [], .nil, ?_, ?_⟩
  · rw [Requirement.rulesOf]
    exact .nil
  · rw [Modifier.rulesOf]
    exact .nil

/-- A child that holds no rules changes nothing. -/
theorem skip (h : blocks.Tell p depth here done lookups) (hModifier : c.name ≠ "modifier")
    (hRequirement : c.name ≠ "requirement") : blocks.Tell p depth here (done ++ [c]) lookups := by
  obtain ⟨first, second, hPerm, hFirst, hSecond⟩ := h
  exact ⟨first, second, hPerm, by simpa [hRequirement] using hFirst,
    by simpa [hModifier] using hSecond⟩

/-- A block of modifiers takes the place of the one before, but both have been read. -/
theorem modifiers (h : blocks.Tell p depth here done lookups) (hName : c.name = "modifier")
    {ms : List Modifier} (hBlock : Keeps p .modifiers depth here c ms steps) :
    Blocks.Tell p depth here (done ++ [c]) { blocks with modifiers := ms }
      (lookups ++ steps.filter Step.isLookup) := by
  obtain ⟨first, second, hPerm, hFirst, hSecond⟩ := h
  refine ⟨first, second ++ steps.filter Step.isLookup, ?_, by simpa [hName] using hFirst, ?_⟩
  · rw [← List.append_assoc]
    exact hPerm.append_right _
  · simpa [hName, Selection.of, Role.rules] using hSecond.replace hBlock

/-- Blocks of modifiers may have been read before, but requirements come first in a tree. -/
theorem requirements (h : blocks.Tell p depth here done lookups) (hName : c.name = "requirement")
    {rs : List Requirement} (hBlock : Keeps p .requirements depth here c rs steps) :
    Blocks.Tell p depth here (done ++ [c]) { blocks with requirements := rs }
      (lookups ++ steps.filter Step.isLookup) := by
  obtain ⟨first, second, hPerm, hFirst, hSecond⟩ := h
  refine ⟨first ++ steps.filter Step.isLookup, second, ?_, ?_, by simpa [hName] using hSecond⟩
  · have hMore := hPerm.append_right (steps.filter Step.isLookup)
    rw [List.append_assoc] at hMore ⊢
    exact hMore.trans (List.perm_append_comm.append_left first)
  · simpa [hName, Selection.of, Role.rules] using hFirst.replace hBlock

end Blocks.Tell

/-- The children of a choice are gone through one by one. -/
theorem Fills.tell {blocks last : Blocks} {done : List Element} {lookups : List Step}
    (h : Fills (Keeps p · depth here) here blocks es last steps)
    (hBlocks : blocks.Tell p depth here done lookups) :
    last.Tell p depth here (done ++ es) (lookups ++ steps.filter Step.isLookup) := by
  induction h generalizing done lookups with
  | nil => simpa using hBlocks
  | @weight _ _ c _ _ _ _ hName hWeight _ ih =>
      have hModifier : c.name ≠ "modifier" := by simp [hName]
      have hRequirement : c.name ≠ "requirement" := by simp [hName]
      rw [List.append_cons, List.filter_append, hWeight.lookups_eq_nil, List.nil_append]
      exact ih (hBlocks.skip hModifier hRequirement)
  | modifiers hName hBlock _ ih =>
      rw [List.append_cons, List.filter_append, ← List.append_assoc]
      exact ih (hBlocks.modifiers hName hBlock)
  | requirements hName hBlock _ ih =>
      rw [List.append_cons, List.filter_append, ← List.append_assoc]
      exact ih (hBlocks.requirements hName hBlock)
  | stray hUse _ ih =>
      obtain ⟨-, hModifier, hRequirement⟩ := blockUse_eq_stray_iff.mp hUse
      rw [List.append_cons]
      exact ih (hBlocks.skip hModifier hRequirement)

end Parts

/-- Levels are counted along the path, so an element that is read by itself from this path on gives
what it gives here. -/
theorem keeps_contract (p : Parser) : p.Contract p.Level (Keeps p) fun _ => True where
  tooDeep _ := trivial
  admits _ := admits_true ..
  stray _ _ _ _ := trivial
  below hDepth _ _ := length_concat_add hDepth _
  grant hBecomes hKind hAtomic _ := keeps_modifier hBecomes (tells_grant hKind hAtomic)
  conditional hBecomes hKind hAmong hCondition hThen hElse := by
    refine keeps_modifier hBecomes ?_
    rw [parts_conditional hKind hAmong, parts_conditional hKind hAmong, Modifier.within,
      List.filter_append, List.filter_append, List.filter_append, lookups_skipped, List.nil_append]
    exact hCondition.append (hThen.append hElse)
  randomChoice hBecomes hKind hAll := by
    refine keeps_modifier hBecomes ?_
    rw [parts_randomChoice hKind, parts_randomChoice hKind, Modifier.within,
      Modifier.rulesOfEntries_eq_flatMap]
    exact tells_alternatives hAll
  modifiers _ hEach := by
    have hTells := tells_each hEach
    refine .pass rfl ?_
    rw [Role.rules, Modifier.rulesOf_eq_flatMap]
    exact hTells
  choice _ hFills _ := by
    obtain ⟨first, second, hPerm, hFirst, hSecond⟩ := hFills.tell .nil
    refine .pass rfl ?_
    rw [Role.rules, Modifier.rulesOfEntry]
    exact (hFirst.append hSecond).of_perm hPerm
  weight _ _ := .pass rfl .nil
  check hBecomes hKind hAtomic _ := keeps_requirement hBecomes (tells_check hKind hAtomic)
  conjunction hBecomes hKind hEach := by
    refine keeps_requirement hBecomes ?_
    rw [parts_conjunction hKind, parts_conjunction hKind, Requirement.within,
      Requirement.rulesOf_eq_flatMap]
    exact tells_each hEach
  requirements _ hEach := by
    have hTells := tells_each hEach
    refine .pass rfl ?_
    rw [Role.rules, Requirement.rulesOf_eq_flatMap]
    exact hTells

/-- The rules of a tree are those of the calls in the blocks that are kept, and the lookups on the
way to it are those of all calls. -/
theorem tells_read (p : Parser) (entry : EntryPoint α) (document : Element) (path : Path) {a : α}
    (h : (p.read entry document path).outcome = .ok a) :
    (entry.rules a).map .ok = (p.calls .last entry document path).map (Call.outcome p) ∧
    (p.read entry document path).lookups.Perm
      ((p.calls .all entry document path).map Call.step) := by
  have hPath : path.length ≤ p.maxDepth := by
    refine Nat.le_of_not_lt fun hDeep => ?_
    rw [p.read_eq_tooDeep entry document (Nat.le_of_lt hDeep)] at h
    cases h
  have hTells : Keeps p entry.role (p.depthBelow path) path document (entry.value a) _ :=
    (p.keeps_contract.read_meets entry (length_add_depthBelow hPath)).of_ok h
  rw [entry.rules_eq, calls, calls, Reading.lookups]
  exact ⟨by simpa using hTells.rules, by simpa using hTells.lookups⟩

/-- The rules of a tree stand for the calls in the blocks that are kept, one for each and in the
order of the document, and all the calls have been made on the way. Unless a choice has two blocks
of one name all of them are kept, and then no rule that has been read is lost. -/
theorem rules_of_read (p : Parser) (entry : EntryPoint α) (document : Element) (path : Path)
    {a : α} (h : (p.read entry document path).outcome = .ok a) :
    (entry.rules a).map .ok = (p.calls .last entry document path).map (Call.outcome p) ∧
    (p.read entry document path).lookups.Perm
      ((p.calls .all entry document path).map Call.step) ∧
    ((∀ here v, p.Reached entry.role path document .choice here v →
        ∀ name ∈ ruleBlockNames, (named name v.children).length ≤ 1) →
      p.calls .last entry document path = p.calls .all entry document path ∧
      (entry.rules a).countP Rule.isModifier =
        (p.read entry document path).steps.countP Step.isModifier ∧
      (entry.rules a).countP Rule.isRequirement =
        (p.read entry document path).steps.countP Step.isRequirement) := by
  obtain ⟨hRules, hLookups⟩ := p.tells_read entry document path h
  refine ⟨hRules, hLookups, fun hOnce => ?_⟩
  have hCalls : p.calls .last entry document path = p.calls .all entry document path :=
    callsWithin_last_eq_all hOnce _ .root
  have hCount := countP_rules hRules
  have hSteps := (p.read entry document path).countP_lookups
  rw [hCalls, ← hLookups.countP_eq, ← hLookups.countP_eq, hSteps.1, hSteps.2] at hCount
  exact ⟨hCalls, hCount⟩

/-- An alternative with one block of each sort, all of whose rules are in the tree. -/
theorem rules_of_read_alternative :
    let grant : Element := ⟨"grant_xp", [("value", "1")], []⟩
    let condition : Element := ⟨"true_requirement", [], []⟩
    let alternative : Element := ⟨"choice", [("weight", "1")],
      [⟨"modifier", [], [grant, grant]⟩, ⟨"requirement", [], [condition]⟩]⟩
    let document : Element := ⟨"random_choice", [], [alternative]⟩
    let tree : Modifier :=
      .randomChoice [⟨1, [.grantXp 1, .grantXp 1], [.check ⟨.always, true, ""⟩]⟩]
    (standard.read .modifier document).outcome = .ok tree ∧
    (∀ here v, standard.Reached .modifier [] document .choice here v →
      ∀ name ∈ ruleBlockNames, (named name v.children).length ≤ 1) ∧
    tree.rules.map .ok =
      (standard.calls .all .modifier document []).map (Call.outcome standard) ∧
    tree.rules.countP Rule.isModifier =
      (standard.read .modifier document).steps.countP Step.isModifier ∧
    tree.rules.countP Rule.isRequirement =
      (standard.read .modifier document).steps.countP Step.isRequirement := by
  intro grant condition alternative document tree
  have hOutcome : (standard.read .modifier document).outcome = .ok tree := rfl
  have hReached : ∀ role here v, standard.Reached .modifier [] document role here v →
      (role, v) ∈ [(.modifier, document), (.choice, alternative),
        (.modifiers, ⟨"modifier", [], [grant, grant]⟩),
        (.requirements, ⟨"requirement", [], [condition]⟩), (.modifier, grant),
        (.requirement, condition)] := by
    intro role here v h
    induction h with
    | root => simp
    | @child role here e c part _ hChild hPart ih =>
        simp only [List.mem_cons, Prod.mk.injEq, List.not_mem_nil, or_false] at ih
        rcases ih with ⟨rfl, rfl⟩ | ⟨rfl, rfl⟩ | ⟨rfl, rfl⟩ | ⟨rfl, rfl⟩ | ⟨rfl, rfl⟩ | ⟨rfl, rfl⟩
        · obtain rfl := List.mem_singleton.mp hChild
          cases hPart
          simp
        · rcases List.mem_pair.mp hChild with rfl | rfl <;> cases hPart <;> simp
        · rcases List.mem_pair.mp hChild with rfl | rfl <;> cases hPart <;> simp
        · obtain rfl := List.mem_singleton.mp hChild
          cases hPart
          simp
        · cases hChild
        · cases hChild
  have hOnce : ∀ here v, standard.Reached .modifier [] document .choice here v →
      ∀ name ∈ ruleBlockNames, (named name v.children).length ≤ 1 := by
    intro here v h
    have hMem := hReached _ _ _ h
    simp only [List.mem_cons, Prod.mk.injEq, reduceCtorEq, false_and, true_and, false_or, or_false,
      List.not_mem_nil] at hMem
    subst hMem
    decide
  obtain ⟨hRules, -, hAll⟩ := rules_of_read standard .modifier document [] hOutcome
  obtain ⟨hCalls, hCounts⟩ := hAll hOnce
  exact ⟨hOutcome, hOnce, hCalls ▸ hRules, hCounts⟩

/-- Of two blocks of one name in an alternative the second replaces the first. Nothing is told of
it, but a rule that has been read is not in the tree. -/
theorem not_rules_of_read_repeated :
    let grant (value : String) : Element := ⟨"grant_xp", [("value", value)], []⟩
    let alternative : Element := ⟨"choice", [("weight", "1")],
      [⟨"modifier", [], [grant "1"]⟩, ⟨"modifier", [], [grant "2"]⟩]⟩
    let document : Element := ⟨"random_choice", [], [alternative]⟩
    let tree : Modifier := .randomChoice [⟨1, [.grantXp 2], []⟩]
    (standard.read .modifier document).outcome = .ok tree ∧
    Step.notes (standard.read .modifier document).steps = [] ∧
    tree.rules.countP Rule.isModifier = 2 ∧
    (standard.read .modifier document).steps.countP Step.isModifier = 3 := by
  exact ⟨rfl, rfl, rfl, rfl⟩

end Parser

end Bounty
