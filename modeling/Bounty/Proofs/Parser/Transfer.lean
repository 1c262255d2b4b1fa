import Bounty.Proofs.Parser.Builder

/-! Two parsers in step. A relation between readings that holds of the single steps that two
parsers take holds of everything they read: the recursion over a document is gone through once,
here, for every comparison of two configurations. -/
namespace Bounty.Parser

variable {α : Type}

/-- Steps into an element where `depth` levels are left. -/
def arrive (p : Parser) : Nat → Path → Element → Reading Path
  | 0, path, e => p.tooDeep path e
  | _ + 1, path, e => enter path e

/-- Every reader that goes down a level steps into its element first, whatever it does there. -/
theorem exists_arrive_bind {p : Parser} {path : Path} {e : Element} (reader : Nat → Reading α)
    (hZero : reader 0 = p.tooDeep path e)
    (hSucc : ∀ depth, ∃ rest, reader (depth + 1) = enter path e >>= rest) (depth : Nat) :
    ∃ rest, reader depth = p.arrive depth path e >>= rest := by
  cases depth with
  | zero =>
      rw [hZero]
      exact ⟨fun _ => p.tooDeep path e, rfl⟩
  | succ depth => exact hSucc depth

theorem requirement_eq_arrive_bind (p : Parser) (depth : Nat) (path : Path) (e : Element) :
    ∃ rest, p.requirement depth path e = p.arrive depth path e >>= rest :=
  exists_arrive_bind (p.requirement · path e) rfl (fun _ => ⟨_, rfl⟩) depth

theorem requirements_eq_arrive_bind (p : Parser) (depth : Nat) (path : Path) (e : Element) :
    ∃ rest, p.requirements depth path e = p.arrive depth path e >>= rest :=
  exists_arrive_bind (p.requirements · path e) rfl (fun _ => ⟨_, rfl⟩) depth

theorem weight_eq_arrive_bind (p : Parser) (depth : Nat) (path : Path) (e : Element) :
    ∃ rest, p.weight depth path e = p.arrive depth path e >>= rest :=
  exists_arrive_bind (p.weight · path e) rfl (fun _ => ⟨_, rfl⟩) depth

theorem modifier_eq_arrive_bind (p : Parser) (depth : Nat) (path : Path) (e : Element) :
    ∃ rest, p.modifier depth path e = p.arrive depth path e >>= rest :=
  exists_arrive_bind (p.modifier · path e) (by rw [modifier]) (fun _ => ⟨_, by rw [modifier]⟩) depth

theorem modifiers_eq_arrive_bind (p : Parser) (depth : Nat) (path : Path) (e : Element) :
    ∃ rest, p.modifiers depth path e = p.arrive depth path e >>= rest :=
  exists_arrive_bind (p.modifiers · path e) (by rw [modifiers])
    (fun _ => ⟨_, by rw [modifiers]⟩) depth

theorem choice_eq_arrive_bind (p : Parser) (depth : Nat) (path : Path) (e : Element) :
    ∃ rest, p.choice depth path e = p.arrive depth path e >>= rest :=
  exists_arrive_bind (p.choice · path e) (by rw [choice]) (fun _ => ⟨_, by rw [choice]⟩) depth

/-- Every element that is entered takes one level. -/
theorem length_concat_add {path : Path} {depth limit : Nat} (h : path.length + (depth + 1) = limit)
    (name : String) : (path ++ [name]).length + depth = limit := by
  rw [List.length_append, List.length_singleton]
  omega

/-- The names of a path and the levels left below it make up the limit. -/
theorem length_add_depthBelow {p : Parser} {path : Path} (h : path.length ≤ p.maxDepth) :
    path.length + p.depthBelow path = p.maxDepth := by
  unfold depthBelow
  omega

/-- The levels that are left can be told from the path. -/
theorem depthBelow_eq {p : Parser} {path : Path} {depth : Nat}
    (h : path.length + depth = p.maxDepth) : p.depthBelow path = depth := by
  unfold depthBelow
  omega

/-- Where a reading starts below the depth limit, nothing but this is found. -/
theorem read_eq_tooDeep (p : Parser) (entry : EntryPoint α) (e : Element) {path : Path}
    (hPath : p.maxDepth ≤ path.length) : p.read entry e path = p.tooDeep path e := by
  have hBelow : p.depthBelow path = 0 := Nat.sub_eq_zero_of_le hPath
  cases entry with
  | modifier => rw [read, readModifier, hBelow, modifier]
  | modifiers => rw [read, readModifiers, hBelow, modifiers]
  | requirement => rw [read, readRequirement, hBelow, requirement]
  | requirements => rw [read, readRequirements, hBelow, requirements]

@[simp] theorem steps_requirementKind (p : Parser) (here : Path) (e : Element) :
    (p.requirementKind here e).steps = [.requirement here] := by
  unfold requirementKind
  cases p.requirementTable.lookup e.name <;> rfl

@[simp] theorem steps_modifierKind (p : Parser) (here : Path) (e : Element) :
    (p.modifierKind here e).steps = [.modifier here] := by
  unfold modifierKind
  cases p.modifierTable.lookup e.name <;> rfl

/-- A relation that holds of the single steps of `p` and `q`. Paths of `p` are told to `q` by
`shift`, and `p` has `slack` more levels left than `q` at every element. What `p` does where
nothing is left for `q` does not matter, as long as it steps into the element first. -/
structure Transfer (p q : Parser) (slack : Nat) (shift : Path → Path)
    (Rel : ∀ α : Type, Reading α → Reading α → Prop) : Prop extends Reading.Congruence Rel where
  shift_append (path : Path) (name : String) : shift (path ++ [name]) = shift path ++ [name]
  fault {α : Type} {cause : Cause} (element : String) (here : Path)
    (hCause : ∀ limit, cause ≠ .tooDeep limit) :
    Rel α (.fault cause element here) (.fault cause element (shift here))
  tooManyDigits {α : Type} (digits : Nat) :
    Rel α (.stop (.tooManyDigits digits)) (.stop (.tooManyDigits digits))
  entered (path : Path) (name : String) (hLength : (shift path).length < q.maxDepth) :
    Rel Unit (.step (.entered (path ++ [name]))) (.step (.entered (shift path ++ [name])))
  tooDeep {α : Type} (path : Path) (e : Element) (hLength : (shift path).length = q.maxDepth)
    (rest : Path → Reading α) :
    Rel α (p.arrive slack path e >>= rest) (q.tooDeep (shift path) e)
  stray {here : Path} (hHere : here ≠ []) (child : Element) :
    Rel Unit (p.stray here child) (q.stray (shift here) child)
  requirementKind (path : Path) (e : Element) :
    Rel RequirementKind (p.requirementKind (path ++ [e.name]) e)
      (q.requirementKind (shift (path ++ [e.name])) e)
  modifierKind (path : Path) (e : Element) :
    Rel ModifierKind (p.modifierKind (path ++ [e.name]) e)
      (q.modifierKind (shift (path ++ [e.name])) e)

namespace Transfer

variable {p q : Parser} {slack : Nat} {shift : Path → Path}
  {Rel : ∀ α : Type, Reading α → Reading α → Prop} (h : Transfer p q slack shift Rel)

include h

/-- Stepping into an element leaves the two parsers at the same element, each at its own path. -/
theorem enter {path : Path} (e : Element) (hLength : (shift path).length < q.maxDepth)
    {f g : Path → Reading α}
    (hNext : Rel α (f (path ++ [e.name])) (g (shift (path ++ [e.name])))) :
    Rel α (Parser.enter path e >>= f) (Parser.enter (shift path) e >>= g) := by
  rw [h.shift_append] at hNext
  change Rel α (.step (.entered (path ++ [e.name])) >>= fun _ => f (path ++ [e.name]))
    (.step (.entered (shift path ++ [e.name])) >>= fun _ => g (shift path ++ [e.name]))
  exact h.bind (h.entered path e.name hLength) fun _ => hNext

/-- The path that the second parser tells grows by one name as well. -/
theorem length_below {path : Path} {depth : Nat} (e : Element)
    (hDepth : (shift path).length + (depth + 1) = q.maxDepth) :
    (shift (path ++ [e.name])).length + depth = q.maxDepth := by
  rw [h.shift_append]
  exact length_concat_add hDepth e.name

/-- A text is read alike, or its absence is told at both paths. -/
theorem text (key : String) (here : Path) (e : Element) :
    Rel String (Attribute.text key here e) (Attribute.text key (shift here) e) := by
  unfold Attribute.text
  split
  · exact h.fault _ _ (by simp)
  · split
    · exact h.fault _ _ (by simp)
    · exact h.pure _

/-- A numeral is read alike, or refused for the same reason. -/
theorem integer (key : String) (here : Path) (e : Element) :
    Rel Int (Attribute.integer key here e) (Attribute.integer key (shift here) e) := by
  refine h.bind (h.text key here e) fun raw => ?_
  split
  · exact h.pure _
  · exact h.fault _ _ (by simp)
  · exact h.tooManyDigits _

/-- A weight is read alike. -/
theorem positive (key : String) (here : Path) (e : Element) :
    Rel Int (Attribute.positive key here e) (Attribute.positive key (shift here) e) := by
  refine h.bind (h.integer key here e) fun n => ?_
  split
  · exact h.fault _ _ (by simp)
  · exact h.pure n

/-- The same default stands for a number that is not written. -/
theorem integerOr (default : Int) (key : String) (here : Path) (e : Element) :
    Rel Int (Attribute.integerOr default key here e)
      (Attribute.integerOr default key (shift here) e) := by
  unfold Attribute.integerOr
  split
  · exact h.pure default
  · exact h.integer key here e

/-- The same default stands for a verdict that is not written. -/
theorem booleanOr (default : Bool) (key : String) (here : Path) (e : Element) :
    Rel Bool (Attribute.booleanOr default key here e)
      (Attribute.booleanOr default key (shift here) e) := by
  unfold Attribute.booleanOr
  split
  · exact h.pure default
  · dsimp only
    split
    · exact h.pure _
    · exact h.fault _ _ (by simp)

/-- The bounds of a range are read alike, and compared alike. -/
theorem range (here : Path) (e : Element) :
    Rel (Int × Int) (Attribute.range here e) (Attribute.range (shift here) e) := by
  refine h.bind (h.integer "min" here e) fun min => ?_
  refine h.bind (h.integer "max" here e) fun max => ?_
  split
  · exact h.fault _ _ (by simp)
  · exact h.pure (min, max)

/-- The attributes of an element are read alike from both paths. -/
theorem related (here : Path) (e : Element) : Attribute.Related Rel here e (shift here) e where
  text key := h.text key here e
  integer key := h.integer key here e
  positive key := h.positive key here e
  integerOr default key := h.integerOr default key here e
  booleanOr default key := h.booleanOr default key here e
  range := h.range here e
  textOr _ _ := rfl

/-- A requirement of a kind is read alike where its children are. -/
theorem requirementOf {child child' : Path → Element → Reading Requirement} (here : Path)
    (hChild : ∀ e, Rel Requirement (child here e) (child' (shift here) e)) (e : Element)
    (kind : RequirementKind) :
    Rel Requirement (Parser.requirementOf child here e kind)
      (Parser.requirementOf child' (shift here) e kind) := by
  obtain rfl | hAtomic := kind.eq_or_isAtomic
  · refine h.bind (h.each hChild e.children) fun children => ?_
    exact h.pure (Requirement.conjunction children)
  · exact (h.related here e).requirementOf h.toCongruence hAtomic child child'

/-- By induction on the levels that are left to `q`, requirements are read alike. -/
theorem requirement (depth : Nat) (path : Path) (e : Element)
    (hDepth : (shift path).length + depth = q.maxDepth) :
    Rel Requirement (p.requirement (depth + slack) path e)
      (q.requirement depth (shift path) e) := by
  induction depth generalizing path e with
  | zero =>
      rw [Nat.zero_add]
      obtain ⟨rest, hRest⟩ := p.requirement_eq_arrive_bind slack path e
      rw [hRest]
      exact h.tooDeep path e (by omega) rest
  | succ depth ih =>
      rw [Nat.succ_add]
      refine h.enter e (by omega) ?_
      refine h.bind (h.requirementKind path e) fun kind => ?_
      exact h.requirementOf _ (fun child => ih _ child (h.length_below e hDepth)) e kind

/-- Lists of requirements are read alike, from one level above. -/
theorem requirements (depth : Nat) (path : Path) (e : Element)
    (hDepth : (shift path).length + depth = q.maxDepth) :
    Rel (List Requirement) (p.requirements (depth + slack) path e)
      (q.requirements depth (shift path) e) := by
  cases depth with
  | zero =>
      rw [Nat.zero_add]
      obtain ⟨rest, hRest⟩ := p.requirements_eq_arrive_bind slack path e
      rw [hRest]
      exact h.tooDeep path e (by omega) rest
  | succ depth =>
      rw [Nat.succ_add]
      have hBelow := h.length_below e hDepth
      exact h.enter e (by omega) (h.each (fun child => h.requirement depth _ child hBelow) _)

/-- A block for a weight takes a level of both parsers. -/
theorem weight (depth : Nat) (path : Path) (e : Element)
    (hDepth : (shift path).length + depth = q.maxDepth) :
    Rel Int (p.weight (depth + slack) path e) (q.weight depth (shift path) e) := by
  cases depth with
  | zero =>
      rw [Nat.zero_add]
      obtain ⟨rest, hRest⟩ := p.weight_eq_arrive_bind slack path e
      rw [hRest]
      exact h.tooDeep path e (by omega) rest
  | succ depth =>
      rw [Nat.succ_add]
      exact h.enter e (by omega) (h.positive "weight" _ e)

/-- The same branches are found, for both parsers look at the same children. -/
theorem findBranches {here : Path} (hHere : here ≠ []) (e : Element)
    (found : Branches (Option Element)) (children : List Element) :
    Rel (Branches (Option Element)) (p.findBranches here e found children)
      (q.findBranches (shift here) e found children) := by
  induction children generalizing found with
  | nil => exact h.pure found
  | cons child rest ih =>
      have hDuplicate : Rel (Branches (Option Element)) (findBranches.duplicate here e child)
          (findBranches.duplicate (shift here) e child) := h.fault _ _ (by simp)
      unfold Parser.findBranches
      split
      · split
        · exact hDuplicate
        · exact ih _
      · split
        · split
          · exact hDuplicate
          · exact ih _
        · split
          · split
            · exact hDuplicate
            · exact ih _
          · exact h.bind (h.stray hHere child) fun _ => ih found

theorem branches {here : Path} (hHere : here ≠ []) (e : Element) :
    Rel (Branches Element) (p.branches here e) (q.branches (shift here) e) := by
  refine h.bind (h.findBranches hHere e _ e.children) fun found => ?_
  split
  · exact h.pure _
  all_goals exact h.fault _ _ (by simp)

/-- A child gives the same alternative, or none for both. -/
theorem entry {choice choice' : Path → Element → Reading Choice} {here : Path} (hHere : here ≠ [])
    (hChoice : ∀ e, Rel Choice (choice here e) (choice' (shift here) e)) (child : Element) :
    Rel (Option Choice) (p.entry choice here child) (q.entry choice' (shift here) child) := by
  unfold Parser.entry
  split
  · exact h.bind (hChoice child) fun found => h.pure (some found)
  · exact h.bind (h.stray hHere child) fun _ => h.pure none

variable {modifiers modifiers' : Path → Element → Reading (List Modifier)} {depth : Nat}

/-- A child changes the blocks of an alternative alike. -/
theorem block {here : Path} (hHere : here ≠ [])
    (hDepth : (shift here).length + depth = q.maxDepth)
    (hModifiers : ∀ e, Rel (List Modifier) (modifiers here e) (modifiers' (shift here) e))
    (blocks : Blocks) (child : Element) :
    Rel Blocks (p.block (depth + slack) modifiers here blocks child)
      (q.block depth modifiers' (shift here) blocks child) := by
  unfold Parser.block
  split
  · exact h.bind (h.weight depth here child hDepth) fun _ => h.pure _
  · split
    · exact h.bind (hModifiers child) fun _ => h.pure _
    · split
      · exact h.bind (h.requirements depth here child hDepth) fun _ => h.pure _
      · exact h.bind (h.stray hHere child) fun _ => h.pure blocks

/-- An alternative is read alike, with the same inline weight where no block holds one. -/
theorem choiceOf {here : Path} (hHere : here ≠ [])
    (hDepth : (shift here).length + depth = q.maxDepth)
    (hModifiers : ∀ e, Rel (List Modifier) (modifiers here e) (modifiers' (shift here) e))
    (e : Element) :
    Rel Choice (p.choiceOf (depth + slack) modifiers here e)
      (q.choiceOf depth modifiers' (shift here) e) := by
  refine h.bind (h.foldlM (h.block hHere hDepth hModifiers) _ e.children) fun blocks => ?_
  refine h.bind ?_ fun weight => h.pure _
  unfold Blocks.weightFor
  split
  · exact h.pure _
  · exact h.positive "weight" here e

/-- A modifier of a kind is read alike where lists and alternatives below it are. -/
theorem modifierOf {choice choice' : Path → Element → Reading Choice} {here : Path}
    (hHere : here ≠ []) (hDepth : (shift here).length + depth = q.maxDepth)
    (hModifiers : ∀ e, Rel (List Modifier) (modifiers here e) (modifiers' (shift here) e))
    (hChoice : ∀ e, Rel Choice (choice here e) (choice' (shift here) e)) (e : Element)
    (kind : ModifierKind) :
    Rel Modifier (p.modifierOf (depth + slack) modifiers choice here e kind)
      (q.modifierOf depth modifiers' choice' (shift here) e kind) := by
  obtain rfl | rfl | hAtomic := kind.eq_or_isAtomic
  · refine h.bind (h.branches hHere e) fun found => ?_
    refine h.bind (h.requirements depth here found.condition hDepth) fun condition => ?_
    refine h.bind (hModifiers found.thenBranch) fun thenBranch => ?_
    exact h.bind (hModifiers found.elseBranch) fun elseBranch => h.pure _
  · exact h.bind (h.gather (h.entry hHere hChoice) e.children) fun _ => h.pure _
  · exact (h.related here e).modifierOf h.toCongruence hAtomic p q (depth + slack) depth modifiers
      modifiers' choice choice'

/-- The recursion over modifiers, lists of them and choices. All three go down one level at a time,
so one induction on the levels that are left to `q` carries them together. -/
private theorem levels (depth : Nat) :
    ∀ path : Path, (shift path).length + depth = q.maxDepth → ∀ e : Element,
      Rel Modifier (p.modifier (depth + slack) path e) (q.modifier depth (shift path) e) ∧
      Rel (List Modifier) (p.modifiers (depth + slack) path e)
        (q.modifiers depth (shift path) e) ∧
      Rel Choice (p.choice (depth + slack) path e) (q.choice depth (shift path) e) := by
  induction depth with
  | zero =>
      intro path hDepth e
      rw [Nat.zero_add, Parser.modifier, Parser.modifiers, Parser.choice]
      obtain ⟨afterModifier, hModifier⟩ := p.modifier_eq_arrive_bind slack path e
      obtain ⟨afterModifiers, hModifiers⟩ := p.modifiers_eq_arrive_bind slack path e
      obtain ⟨afterChoice, hChoice⟩ := p.choice_eq_arrive_bind slack path e
      rw [hModifier, hModifiers, hChoice]
      exact ⟨h.tooDeep path e (by omega) _, h.tooDeep path e (by omega) _,
        h.tooDeep path e (by omega) _⟩
  | succ depth ih =>
      intro path hDepth e
      have hBelow := h.length_below e hDepth
      have hHere : path ++ [e.name] ≠ [] := by simp
      have hChildren := ih (path ++ [e.name]) hBelow
      rw [Nat.succ_add, Parser.modifier, Parser.modifier, Parser.modifiers, Parser.modifiers,
        Parser.choice, Parser.choice]
      refine ⟨h.enter e (by omega) ?_, h.enter e (by omega) ?_, h.enter e (by omega) ?_⟩
      · refine h.bind (h.modifierKind path e) fun kind => ?_
        exact h.modifierOf hHere hBelow (fun e => (hChildren e).2.1) (fun e => (hChildren e).2.2)
          e kind
      · exact h.each (fun child => (hChildren child).1) e.children
      · exact h.choiceOf hHere hBelow (fun e => (hChildren e).2.1) e

/-- The two parsers stay related on every document, from every entry point on. -/
theorem read (entry : EntryPoint α) (e : Element) (path : Path)
    (hPath : (shift path).length ≤ q.maxDepth)
    (hSlack : p.depthBelow path = q.depthBelow (shift path) + slack) :
    Rel α (p.read entry e path) (q.read entry e (shift path)) := by
  have hDepth : (shift path).length + q.depthBelow (shift path) = q.maxDepth :=
    length_add_depthBelow hPath
  cases entry with
  | modifier =>
      simpa only [Parser.read, readModifier, hSlack] using (h.levels _ path hDepth e).1
  | modifiers =>
      simpa only [Parser.read, readModifiers, hSlack] using (h.levels _ path hDepth e).2.1
  | requirement =>
      simpa only [Parser.read, readRequirement, hSlack] using h.requirement _ path e hDepth
  | requirements =>
      simpa only [Parser.read, readRequirements, hSlack] using h.requirements _ path e hDepth

end Transfer

end Bounty.Parser
