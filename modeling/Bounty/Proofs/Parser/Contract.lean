import Bounty.Proofs.Parser.Builder

/-! What holds of everything that a parser reads. A contract says what is known of an element before
it is read in a role, and what follows of its value, of the steps to it and of the stop that stands
in its place, part by part. The recursion over a document is gone through once, here, for every
contract. -/
namespace Bounty

variable {α : Type}

/-- Each of some elements gives a value, and the steps follow one another. -/
inductive Each (One : Element → α → List Step → Prop) :
    List Element → List α → List Step → Prop where
  | nil : Each One [] [] []
  | cons {c : Element} {a : α} {es : List Element} {as : List α} {steps more : List Step} :
    One c a steps → Each One es as more → Each One (c :: es) (a :: as) (steps ++ more)

/-- What follows for each value holds of all of them. -/
theorem Each.forall_mem {One : Element → α → List Step → Prop} {P : α → Prop} {es : List Element}
    {as : List α} {steps : List Step} (h : Each One es as steps)
    (hOne : ∀ c a steps, One c a steps → P a) : ∀ a ∈ as, P a := by
  induction h with
  | nil => exact List.forall_mem_nil _
  | cons hFirst _ ih => exact List.forall_mem_cons.mpr ⟨hOne _ _ _ hFirst, ih⟩

namespace Reading

/-- A list of elements is read one by one, with the steps in this order. -/
theorem each_meets {One : Element → α → List Step → Prop} {halt : Stop → Prop}
    {read : Element → Reading α} {es : List Element}
    (hRead : ∀ c ∈ es, (read c).Meets (One c) halt) : (each read es).Meets (Each One es) halt := by
  induction es with
  | nil => exact meets_pure .nil
  | cons c rest ih =>
      refine (hRead c (by simp)).bind fun a steps hFirst => ?_
      refine (ih fun c hc => hRead c (by simp [hc])).bind fun as more hRest => meets_pure ?_
      rw [List.append_nil]
      exact .cons hFirst hRest

end Reading

namespace Parser

/-- The children of a random choice give its alternatives, where they are any. -/
inductive Alternatives (One : Element → Choice → List Step → Prop) (here : Path) :
    List Element → List Choice → List Step → Prop where
  | nil : Alternatives One here [] [] []
  | choice {c : Element} {a : Choice} {es : List Element} {as : List Choice}
    {steps more : List Step} : c.name = "choice" → One c a steps →
      Alternatives One here es as more → Alternatives One here (c :: es) (a :: as) (steps ++ more)
  | stray {c : Element} {es : List Element} {as : List Choice} {more : List Step} :
    c.name ≠ "choice" → Alternatives One here es as more →
      Alternatives One here (c :: es) as (.ignored c.name here :: more)

/-- What follows for each alternative holds of all that are found. -/
theorem Alternatives.forall_mem {One : Element → Choice → List Step → Prop} {here : Path}
    {P : Choice → Prop} {es : List Element} {as : List Choice} {steps : List Step}
    (h : Alternatives One here es as steps) (hOne : ∀ c a steps, One c a steps → P a) :
    ∀ a ∈ as, P a := by
  induction h with
  | nil => exact List.forall_mem_nil _
  | choice _ hFirst _ ih => exact List.forall_mem_cons.mpr ⟨hOne _ _ _ hFirst, ih⟩
  | stray _ _ ih => exact ih

/-- The children of an alternative fill its blocks one after the other, from those that are there
on. -/
inductive Fills (One : (part : Role) → Element → part.Value → List Step → Prop) (here : Path) :
    Blocks → List Element → Blocks → List Step → Prop where
  | nil {blocks : Blocks} : Fills One here blocks [] blocks []
  | weight {blocks last : Blocks} {c : Element} {es : List Element} {w : Int}
    {steps more : List Step} : c.name = "weight" → One .weight c w steps →
      Fills One here { blocks with weight := some w } es last more →
        Fills One here blocks (c :: es) last (steps ++ more)
  | modifiers {blocks last : Blocks} {c : Element} {es : List Element} {ms : List Modifier}
    {steps more : List Step} : c.name = "modifier" → One .modifiers c ms steps →
      Fills One here { blocks with modifiers := ms } es last more →
        Fills One here blocks (c :: es) last (steps ++ more)
  | requirements {blocks last : Blocks} {c : Element} {es : List Element} {rs : List Requirement}
    {steps more : List Step} : c.name = "requirement" → One .requirements c rs steps →
      Fills One here { blocks with requirements := rs } es last more →
        Fills One here blocks (c :: es) last (steps ++ more)
  | stray {blocks last : Blocks} {c : Element} {es : List Element} {more : List Step} :
    blockUse c.name = .stray → Fills One here blocks es last more →
      Fills One here blocks (c :: es) last (.ignored c.name here :: more)

/-- An element that is read in a role gives a value, where `depth` levels are left below it. -/
structure Becomes (p : Parser) (Pre : Role → Nat → Path → Element → Prop) (role : Role)
    (depth : Nat) (path : Path) (e : Element) (a : role.Value) : Prop where
  pre : Pre role (depth + 1) path e
  gives : (p.reader role (depth + 1) path e).outcome = .ok a

/-- What is known of the elements of a document in their roles, and what follows of their values
and of the steps that lead to them, where every stop is one that is allowed. -/
structure Contract (p : Parser) (Pre : Role → Nat → Path → Element → Prop)
    (Post : (role : Role) → Nat → Path → Element → role.Value → List Step → Prop)
    (Halt : Stop → Prop) : Prop where
  /-- Where no level is left, the element is too deep. -/
  tooDeep {role : Role} {path : Path} {e : Element} : Pre role 0 path e →
    Halt (.fault ⟨.tooDeep p.maxDepth, ⟨e.name, path ++ [e.name]⟩⟩)
  /-- What is wrong with the element itself. -/
  admits {role : Role} {depth : Nat} {path : Path} {e : Element} : Pre role (depth + 1) path e →
    p.Admits role (path ++ [e.name]) e Halt
  stray {role : Role} {depth : Nat} {path : Path} {e child : Element} :
    Pre role (depth + 1) path e → child ∈ e.children → p.use role e.name child.name = .stray →
      p.strict = true → Halt (.fault
        ⟨.strayChild child.name e.name, ⟨child.name, path ++ [e.name] ++ [child.name]⟩⟩)
  below {role part : Role} {depth : Nat} {path : Path} {e child : Element} :
    Pre role (depth + 1) path e → child ∈ e.children →
      p.use role e.name child.name = .part part → Pre part depth (path ++ [e.name]) child
  /-- A modifier without parts. -/
  grant {depth : Nat} {path : Path} {e : Element} {m : Modifier} :
    p.Becomes Pre .modifier depth path e m → p.modifierTable.lookup e.name = some m.kind →
      m.kind.IsAtomic → m.Valid →
        Post .modifier (depth + 1) path e m
          [.entered (path ++ [e.name]), .modifier (path ++ [e.name])]
  conditional {depth : Nat} {path : Path} {e : Element} {found : Branches Element}
    {condition : List Requirement} {thenBranch elseBranch : List Modifier}
    {first second third : List Step} :
    p.Becomes Pre .modifier depth path e (.ifThenElse condition thenBranch elseBranch) →
      p.modifierTable.lookup e.name = some .ifThenElse → found.Among e.children →
      Post .requirements depth (path ++ [e.name]) found.condition condition first →
      Post .modifiers depth (path ++ [e.name]) found.thenBranch thenBranch second →
      Post .modifiers depth (path ++ [e.name]) found.elseBranch elseBranch third →
        Post .modifier (depth + 1) path e (.ifThenElse condition thenBranch elseBranch)
          (.entered (path ++ [e.name]) :: .modifier (path ++ [e.name]) ::
            (skipped (path ++ [e.name]) e.children ++ (first ++ (second ++ third))))
  randomChoice {depth : Nat} {path : Path} {e : Element} {entries : List Choice}
    {steps : List Step} : p.Becomes Pre .modifier depth path e (.randomChoice entries) →
      p.modifierTable.lookup e.name = some .randomChoice →
      Alternatives (Post .choice depth (path ++ [e.name])) (path ++ [e.name]) e.children entries
        steps →
        Post .modifier (depth + 1) path e (.randomChoice entries)
          (.entered (path ++ [e.name]) :: .modifier (path ++ [e.name]) :: steps)
  modifiers {depth : Nat} {path : Path} {e : Element} {ms : List Modifier} {steps : List Step} :
    p.Becomes Pre .modifiers depth path e ms →
      Each (Post .modifier depth (path ++ [e.name])) e.children ms steps →
        Post .modifiers (depth + 1) path e ms (.entered (path ++ [e.name]) :: steps)
  /-- An alternative has the weight of the last block for it, or else its own. -/
  choice {depth : Nat} {path : Path} {e : Element} {blocks : Blocks} {weight : Int}
    {steps : List Step} :
    p.Becomes Pre .choice depth path e ⟨weight, blocks.modifiers, blocks.requirements⟩ →
      Fills (Post · depth (path ++ [e.name])) (path ++ [e.name]) ⟨none, [], []⟩ e.children blocks
        steps →
      blocks.weight = some weight ∨ ValidWeight weight →
        Post .choice (depth + 1) path e ⟨weight, blocks.modifiers, blocks.requirements⟩
          (.entered (path ++ [e.name]) :: steps)
  weight {depth : Nat} {path : Path} {e : Element} {w : Int} :
    p.Becomes Pre .weight depth path e w → ValidWeight w →
      Post .weight (depth + 1) path e w [.entered (path ++ [e.name])]
  /-- A requirement without parts. -/
  check {depth : Nat} {path : Path} {e : Element} {c : Check} :
    p.Becomes Pre .requirement depth path e (.check c) →
      p.requirementTable.lookup e.name = some c.demand.kind → c.demand.kind.IsAtomic →
      c.demand.Valid →
        Post .requirement (depth + 1) path e (.check c)
          [.entered (path ++ [e.name]), .requirement (path ++ [e.name])]
  conjunction {depth : Nat} {path : Path} {e : Element} {rs : List Requirement}
    {steps : List Step} : p.Becomes Pre .requirement depth path e (.conjunction rs) →
      p.requirementTable.lookup e.name = some .conjunction →
      Each (Post .requirement depth (path ++ [e.name])) e.children rs steps →
        Post .requirement (depth + 1) path e (.conjunction rs)
          (.entered (path ++ [e.name]) :: .requirement (path ++ [e.name]) :: steps)
  requirements {depth : Nat} {path : Path} {e : Element} {rs : List Requirement}
    {steps : List Step} : p.Becomes Pre .requirements depth path e rs →
      Each (Post .requirement depth (path ++ [e.name])) e.children rs steps →
        Post .requirements (depth + 1) path e rs (.entered (path ++ [e.name]) :: steps)

section Entering

variable {p : Parser} {path here : Path} {e : Element} {post : α → List Step → Prop}
  {halt : Stop → Prop}

/-- An element that lies too deep has no value to answer for. -/
theorem tooDeep_meets
    (h : halt (.fault ⟨.tooDeep p.maxDepth, ⟨e.name, path ++ [e.name]⟩⟩)) :
    (p.tooDeep path e : Reading α).Meets post halt := h

/-- The step into an element comes before all that follows. -/
theorem enter_meets {next : Path → Reading α}
    (h : (next (path ++ [e.name])).Meets
      (fun a more => post a (.entered (path ++ [e.name]) :: more)) halt) :
    (enter path e >>= next).Meets post halt := h

/-- The lookup of a kind is recorded before it is known to fail. -/
theorem modifierKind_meets {next : ModifierKind → Reading α}
    (hUnknown : p.modifierTable.lookup e.name = none →
      halt (.fault ⟨.unknownModifier e.name, ⟨e.name, here⟩⟩))
    (h : ∀ kind, p.modifierTable.lookup e.name = some kind →
      (next kind).Meets (fun a more => post a (.modifier here :: more)) halt) :
    (p.modifierKind here e >>= next).Meets post halt := by
  unfold modifierKind
  cases hLookup : p.modifierTable.lookup e.name with
  | none => exact hUnknown hLookup
  | some kind => exact h kind hLookup

/-- The kind of a requirement is looked up in a table of its own. -/
theorem requirementKind_meets {next : RequirementKind → Reading α}
    (hUnknown : p.requirementTable.lookup e.name = none →
      halt (.fault ⟨.unknownRequirement e.name, ⟨e.name, here⟩⟩))
    (h : ∀ kind, p.requirementTable.lookup e.name = some kind →
      (next kind).Meets (fun a more => post a (.requirement here :: more)) halt) :
    (p.requirementKind here e >>= next).Meets post halt := by
  unfold requirementKind
  cases hLookup : p.requirementTable.lookup e.name with
  | none => exact hUnknown hLookup
  | some kind => exact h kind hLookup

end Entering

section Children

variable {p : Parser} {here : Path} {halt : Stop → Prop} {es : List Element}

/-- A child of a random choice gives one alternative or none. -/
theorem entry_meets {One : Choice → List Step → Prop} {choice : Path → Element → Reading Choice}
    {c : Element} (hChoice : c.name = "choice" → (choice here c).Meets One halt)
    (hStray : c.name ≠ "choice" → p.strict = true → halt (.fault
      ⟨.strayChild c.name (here.getLastD ""), ⟨c.name, here ++ [c.name]⟩⟩)) :
    (p.entry choice here c).Meets (fun found steps =>
      (c.name = "choice" ∧ ∃ a, found = some a ∧ One a steps) ∨
        c.name ≠ "choice" ∧ found = none ∧ steps = [.ignored c.name here]) halt := by
  unfold entry
  split
  · next hName =>
    refine (hChoice hName).bind fun a steps hOne => Reading.meets_pure (.inl ⟨hName, a, rfl, ?_⟩)
    rwa [List.append_nil]
  · next hName =>
    refine (stray_meets (hStray hName)).bind fun _ steps hSteps => Reading.meets_pure (.inr ?_)
    rw [List.append_nil]
    exact ⟨hName, rfl, hSteps⟩

/-- By induction on the children, alternatives and notes come in the order in which they stand. -/
theorem entries_meet {One : Element → Choice → List Step → Prop}
    {choice : Path → Element → Reading Choice}
    (hChoice : ∀ c ∈ es, c.name = "choice" → (choice here c).Meets (One c) halt)
    (hStray : ∀ c ∈ es, c.name ≠ "choice" → p.strict = true → halt (.fault
      ⟨.strayChild c.name (here.getLastD ""), ⟨c.name, here ++ [c.name]⟩⟩)) :
    (Reading.gather (p.entry choice here) es).Meets (Alternatives One here es) halt := by
  induction es with
  | nil => exact Reading.meets_pure .nil
  | cons c rest ih =>
      have hMem : c ∈ c :: rest := List.mem_cons_self ..
      have hRest := ih (fun d hd => hChoice d (List.mem_cons_of_mem c hd))
        fun d hd => hStray d (List.mem_cons_of_mem c hd)
      refine (entry_meets (hChoice c hMem) (hStray c hMem)).bind fun found steps hFound => ?_
      refine hRest.bind fun as more hAs => Reading.meets_pure ?_
      rw [List.append_nil]
      obtain ⟨hName, a, rfl, hOne⟩ | ⟨hName, rfl, rfl⟩ := hFound
      · exact .choice hName hOne hAs
      · exact .stray hName hAs

/-- By induction on the children, every block is put where its name says, and a later one replaces
an earlier one. -/
theorem blocks_meet {One : (part : Role) → Element → part.Value → List Step → Prop} {depth : Nat}
    {modifiers : Path → Element → Reading (List Modifier)}
    (hWeight : ∀ c ∈ es, c.name = "weight" → (p.weight depth here c).Meets (One .weight c) halt)
    (hModifiers : ∀ c ∈ es, c.name = "modifier" → (modifiers here c).Meets (One .modifiers c) halt)
    (hRequirements : ∀ c ∈ es, c.name = "requirement" →
      (p.requirements depth here c).Meets (One .requirements c) halt)
    (hStray : ∀ c ∈ es, blockUse c.name = .stray → p.strict = true → halt (.fault
      ⟨.strayChild c.name (here.getLastD ""), ⟨c.name, here ++ [c.name]⟩⟩)) (blocks : Blocks) :
    (es.foldlM (p.block depth modifiers here) blocks).Meets (Fills One here blocks es) halt := by
  induction es generalizing blocks with
  | nil => exact Reading.meets_pure .nil
  | cons c rest ih =>
      have hMem : c ∈ c :: rest := List.mem_cons_self ..
      have hRest := ih (fun d hd => hWeight d (List.mem_cons_of_mem c hd))
        (fun d hd => hModifiers d (List.mem_cons_of_mem c hd))
        (fun d hd => hRequirements d (List.mem_cons_of_mem c hd))
        fun d hd => hStray d (List.mem_cons_of_mem c hd)
      rw [List.foldlM_cons, block]
      split
      · next hName =>
        rw [bind_assoc]
        refine (hWeight c hMem hName).bind fun w steps hOne => ?_
        rw [pure_bind]
        exact (hRest _).mono fun last more hLast => .weight hName hOne hLast
      · next hNoWeight =>
        split
        · next hName =>
          rw [bind_assoc]
          refine (hModifiers c hMem hName).bind fun ms steps hOne => ?_
          rw [pure_bind]
          exact (hRest _).mono fun last more hLast => .modifiers hName hOne hLast
        · next hNoModifier =>
          split
          · next hName =>
            rw [bind_assoc]
            refine (hRequirements c hMem hName).bind fun rs steps hOne => ?_
            rw [pure_bind]
            exact (hRest _).mono fun last more hLast => .requirements hName hOne hLast
          · next hNoRequirement =>
            have hUse : blockUse c.name = .stray :=
              blockUse_eq_stray_iff.mpr ⟨hNoWeight, hNoModifier, hNoRequirement⟩
            rw [bind_assoc]
            refine (stray_meets (hStray c hMem hUse)).bind fun _ steps hSteps => ?_
            rw [pure_bind]
            subst hSteps
            exact (hRest blocks).mono fun last more hLast => .stray hUse hLast

end Children

/-- Without a level left all readers do the same. -/
theorem reader_zero (p : Parser) (role : Role) (path : Path) (e : Element) :
    p.reader role 0 path e = p.tooDeep path e := by
  cases role with
  | modifier => rw [reader, modifier]
  | modifiers => rw [reader, modifiers]
  | choice => rw [reader, choice]
  | weight => rw [reader, weight]
  | requirement => rw [reader, requirement]
  | requirements => rw [reader, requirements]

namespace Contract

variable {p : Parser} {Pre : Role → Nat → Path → Element → Prop}
  {Post : (role : Role) → Nat → Path → Element → role.Value → List Step → Prop}
  {Halt : Stop → Prop} {depth : Nat} {path : Path} {e : Element}

section Level

variable (h : p.Contract Pre Post Halt) (hBelow : ∀ {role : Role} {path : Path} {e : Element},
  Pre role depth path e → (p.reader role depth path e).Meets (Post role depth path e) Halt)

include h

/-- A child without meaning is told of by the name of the element that it stands in. -/
theorem stray_fault {role : Role} {child : Element} (hPre : Pre role (depth + 1) path e)
    (hMem : child ∈ e.children) (hUse : p.use role e.name child.name = .stray)
    (hStrict : p.strict = true) : Halt (.fault
      ⟨.strayChild child.name ((path ++ [e.name]).getLastD ""),
        ⟨child.name, path ++ [e.name] ++ [child.name]⟩⟩) := by
  rw [List.getLastD_concat]
  exact h.stray hPre hMem hUse hStrict

include hBelow

/-- Whatever becomes of a child, it is read one level below and in the role that it has there. -/
theorem below_meets (role part : Role) {child : Element} (hPre : Pre role (depth + 1) path e)
    (hMem : child ∈ e.children) (hUse : p.use role e.name child.name = .part part) :
    (p.reader part depth (path ++ [e.name]) child).Meets
      (Post part depth (path ++ [e.name]) child) Halt :=
  hBelow (h.below hPre hMem hUse)

/-- A requirement is a check or a conjunction. -/
theorem requirement_meets (hPre : Pre .requirement (depth + 1) path e) :
    (p.requirement (depth + 1) path e).Meets (Post .requirement (depth + 1) path e) Halt := by
  refine Reading.Meets.of_eq (by rw [Parser.requirement]) ?_
  have hAdmits := h.admits hPre
  refine enter_meets (requirementKind_meets
    (fun hUnknown => hAdmits.shown ⟨rfl, rfl, hUnknown⟩ nofun) fun kind hKind => ?_)
  obtain rfl | hAtomic := kind.eq_or_isAtomic
  · have hUse (c : Element) : p.use .requirement e.name c.name = .part .requirement :=
      use_requirement hKind c.name
    refine (Reading.each_meets fun c hMem =>
      h.below_meets hBelow .requirement .requirement hPre hMem (hUse c)).bind
        fun rs steps hEach => ?_
    refine Reading.meets_pure fun hGives => ?_
    rw [List.append_nil]
    exact h.conjunction ⟨hPre, hGives⟩ hKind hEach
  · refine (requirementOf_meets hAdmits hKind hAtomic _).mono fun r steps hMade hGives => ?_
    obtain ⟨c, rfl, rfl, hValid, rfl⟩ := hMade
    exact h.check ⟨hPre, hGives⟩ hKind hAtomic hValid

/-- A conditional finds its branches among the children and reads them in its own order. -/
theorem conditional_meets (hPre : Pre .modifier (depth + 1) path e)
    (hKind : p.modifierTable.lookup e.name = some .ifThenElse) :
    (p.modifierOf depth (p.modifiers depth) (p.choice depth) (path ++ [e.name]) e
      .ifThenElse).Meets (fun m more => (p.modifier (depth + 1) path e).outcome = .ok m →
        Post .modifier (depth + 1) path e m
          (.entered (path ++ [e.name]) :: .modifier (path ++ [e.name]) :: more)) Halt := by
  have hAdmits := h.admits hPre
  have hUse := use_modifier hKind
  have hPart {child : Element} (part : Role) (hMem : child ∈ e.children)
      (hRole : ModifierKind.ifThenElse.use child.name = .part part) :=
    h.below_meets hBelow .modifier part hPre hMem ((hUse child.name).trans hRole)
  have hBranches : (p.branches (path ++ [e.name]) e).Meets (fun found steps =>
      found.Among e.children ∧ steps = skipped (path ++ [e.name]) e.children) Halt :=
    branches_meets (fun name hName hTwice => hAdmits.shown ⟨rfl, hKind, hName, hTwice⟩ nofun)
      (fun hStrict child hMem hName => h.stray_fault hPre hMem
        ((hUse child.name).trans (use_of_not_mem_branchNames hName)) hStrict)
      fun name hName hNone =>
        hAdmits.shown ⟨rfl, hKind, hName, named_eq_nil_iff.mp hNone⟩ nofun
  refine hBranches.bind fun found steps hFound => ?_
  obtain ⟨hAmong, rfl⟩ := hFound
  have hCondition := mem_of_named_eq hAmong.condition
  have hThen := mem_of_named_eq hAmong.thenBranch
  have hElse := mem_of_named_eq hAmong.elseBranch
  refine (hPart .requirements hCondition.1 (by simp [ModifierKind.use, hCondition.2])).bind
    fun condition first hFirst => ?_
  refine (hPart .modifiers hThen.1 (by simp [ModifierKind.use, hThen.2])).bind
    fun thenBranch second hSecond => ?_
  refine (hPart .modifiers hElse.1 (by simp [ModifierKind.use, hElse.2])).bind
    fun elseBranch third hThird => Reading.meets_pure fun hGives => ?_
  rw [List.append_nil]
  exact h.conditional ⟨hPre, hGives⟩ hKind hAmong hFirst hSecond hThird

/-- A random choice reads its children in the order in which they stand. -/
theorem randomChoice_meets (hPre : Pre .modifier (depth + 1) path e)
    (hKind : p.modifierTable.lookup e.name = some .randomChoice) :
    (p.modifierOf depth (p.modifiers depth) (p.choice depth) (path ++ [e.name]) e
      .randomChoice).Meets (fun m more => (p.modifier (depth + 1) path e).outcome = .ok m →
        Post .modifier (depth + 1) path e m
          (.entered (path ++ [e.name]) :: .modifier (path ++ [e.name]) :: more)) Halt := by
  have hUse := use_modifier hKind
  have hEntries : (Reading.gather (p.entry (p.choice depth) (path ++ [e.name])) e.children).Meets
      (Alternatives (Post .choice depth (path ++ [e.name])) (path ++ [e.name]) e.children) Halt :=
    entries_meet (fun c hMem hName => h.below_meets hBelow .modifier .choice hPre hMem
        ((hUse c.name).trans (by simp [ModifierKind.use, hName])))
      fun c hMem hName => h.stray_fault hPre hMem
        ((hUse c.name).trans (by simp [ModifierKind.use, hName]))
  refine hEntries.bind fun entries steps hAll => Reading.meets_pure fun hGives => ?_
  rw [List.append_nil]
  exact h.randomChoice ⟨hPre, hGives⟩ hKind hAll

/-- A modifier is a conditional, a random choice or has no parts. -/
theorem modifier_meets (hPre : Pre .modifier (depth + 1) path e) :
    (p.modifier (depth + 1) path e).Meets (Post .modifier (depth + 1) path e) Halt := by
  refine Reading.Meets.of_eq (by rw [Parser.modifier]) ?_
  have hAdmits := h.admits hPre
  refine enter_meets (modifierKind_meets
    (fun hUnknown => hAdmits.shown ⟨rfl, rfl, hUnknown⟩ nofun) fun kind hKind => ?_)
  obtain rfl | rfl | hAtomic := kind.eq_or_isAtomic
  · exact h.conditional_meets hBelow hPre hKind
  · exact h.randomChoice_meets hBelow hPre hKind
  · refine (modifierOf_meets hAdmits hKind hAtomic ..).mono fun m steps hMade hGives => ?_
    obtain ⟨rfl, hValid, rfl⟩ := hMade
    exact h.grant ⟨hPre, hGives⟩ hKind hAtomic hValid

/-- An alternative reads its blocks first and its inline weight only where none of them holds one.
-/
theorem choice_meets (hPre : Pre .choice (depth + 1) path e) :
    (p.choice (depth + 1) path e).Meets (Post .choice (depth + 1) path e) Halt := by
  refine Reading.Meets.of_eq (by rw [Parser.choice]) ?_
  refine enter_meets ?_
  have hPart {c : Element} (part : Role) (hMem : c ∈ e.children)
      (hUse : blockUse c.name = .part part) := h.below_meets hBelow .choice part hPre hMem hUse
  have hStray {c : Element} (hMem : c ∈ e.children)
      (hUse : p.use .choice e.name c.name = .stray) := h.stray_fault hPre hMem hUse
  have hBlocks : (e.children.foldlM (p.block depth (p.modifiers depth) (path ++ [e.name]))
      ⟨none, [], []⟩).Meets
        (Fills (Post · depth (path ++ [e.name])) (path ++ [e.name]) ⟨none, [], []⟩ e.children)
          Halt :=
    blocks_meet (fun c hMem hName => hPart .weight hMem (by simp [blockUse, hName]))
      (fun c hMem hName => hPart .modifiers hMem (by simp [blockUse, hName]))
      (fun c hMem hName => hPart .requirements hMem (by simp [blockUse, hName]))
      (fun c hMem hUse => hStray hMem hUse) _
  refine hBlocks.bind fun blocks steps hFills => ?_
  have hWeight : (blocks.weightFor (path ++ [e.name]) e).Meets
      (fun w steps => (blocks.weight = some w ∨ ValidWeight w) ∧ steps = []) Halt := by
    unfold Blocks.weightFor
    split
    · next w hSome => exact Reading.meets_pure ⟨.inl hSome, rfl⟩
    · have hGives := positive_gives (h.admits hPre) (List.mem_singleton_self ("weight", _))
      exact hGives.mono fun w hValid => ⟨.inr hValid, Attribute.steps_positive ..⟩
  refine hWeight.bind fun w more hMore => Reading.meets_pure fun hGives => ?_
  obtain ⟨hEither, rfl⟩ := hMore
  rw [List.append_nil, List.append_nil]
  exact h.choice ⟨hPre, hGives⟩ hFills hEither

/-- One level of a document: what holds of the readings of the children holds of those of the
element. -/
theorem level_meets {role : Role} (hPre : Pre role (depth + 1) path e) :
    (p.reader role (depth + 1) path e).Meets (Post role (depth + 1) path e) Halt := by
  cases role with
  | modifier => exact h.modifier_meets hBelow hPre
  | choice => exact h.choice_meets hBelow hPre
  | requirement => exact h.requirement_meets hBelow hPre
  | modifiers =>
      refine Reading.Meets.of_eq (by rw [reader, Parser.modifiers]) (enter_meets ?_)
      refine (Reading.each_meets fun c hMem =>
        h.below_meets hBelow .modifiers .modifier hPre hMem rfl).mono
          fun ms steps hEach hGives => ?_
      exact h.modifiers ⟨hPre, hGives⟩ hEach
  | requirements =>
      refine Reading.Meets.of_eq (by rw [reader, Parser.requirements]) (enter_meets ?_)
      refine (Reading.each_meets fun c hMem =>
        h.below_meets hBelow .requirements .requirement hPre hMem rfl).mono
          fun rs steps hEach hGives => ?_
      exact h.requirements ⟨hPre, hGives⟩ hEach
  | weight =>
      refine Reading.Meets.of_eq (by rw [reader, Parser.weight]) (enter_meets ?_)
      have hGives := positive_gives (h.admits hPre) (List.mem_singleton_self ("weight", _))
      refine Reading.Ensures.mono hGives fun w hValid hOutcome => ?_
      rw [Attribute.steps_positive]
      exact h.weight ⟨hPre, hOutcome⟩ hValid

end Level

/-- What a contract says of the parts of a document it says of the whole, by induction on the levels
that are left. -/
theorem meets (h : p.Contract Pre Post Halt) (depth : Nat) {role : Role} {path : Path}
    {e : Element} (hPre : Pre role depth path e) :
    (p.reader role depth path e).Meets (Post role depth path e) Halt := by
  induction depth generalizing role path e with
  | zero =>
      rw [reader_zero]
      exact tooDeep_meets (h.tooDeep hPre)
  | succ depth ih => exact h.level_meets ih hPre

/-- A document is read in the role of its entry point. -/
theorem read_meets (h : p.Contract Pre Post Halt) (entry : EntryPoint α)
    (hPre : Pre entry.role (p.depthBelow path) path e) :
    (p.read entry e path).Meets
      (fun a => Post entry.role (p.depthBelow path) path e (entry.value a)) Halt := by
  cases entry <;> exact h.meets _ hPre

end Contract

end Parser

end Bounty
