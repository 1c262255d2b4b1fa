import Bounty.Proofs.Parser.Soundness

/-! A document for every valid tree. The document has no level that the tree does not need, so
whatever is valid and fits under the depth limit is read from some document. -/
namespace Bounty

/-- The attributes that say what a check asks for. -/
def Demand.attributes : Demand → List (String × String)
  | .always => []
  | .never => []
  | .friends required => [("required", Numeral.write required)]
  | .level required => [("level", Numeral.write required)]
  | .item itemKey number => [("ikey", itemKey), ("number", Numeral.write number)]
  | .stat statType itemKey value =>
    [("type", statType), ("ikey", itemKey), ("value", Numeral.write value)]

/-- A check with its verdict and its reason written out, also where they go without saying. -/
def Check.toElement (c : Check) : Element where
  name := c.demand.kind.name
  attributes := c.demand.attributes ++
    [("ok", if c.ok then "true" else "false"), ("reason", c.reason)]
  children := []

mutual

def Requirement.toElement : Requirement → Element
  | .check c => c.toElement
  | .conjunction children => ⟨"and", [], Requirement.toElements children⟩

def Requirement.toElements : List Requirement → List Element
  | [] => []
  | r :: rest => r.toElement :: Requirement.toElements rest

end

mutual

def Modifier.toElement : Modifier → Element
  | .grantItem itemKey => ⟨"grant_item", [("ikey", itemKey)], []⟩
  | .grantXp value => ⟨"grant_xp", [("value", Numeral.write value)], []⟩
  | .grantXpRange min max =>
    ⟨"grant_xp_range", [("min", Numeral.write min), ("max", Numeral.write max)], []⟩
  | .grantStat statType itemKey value =>
    ⟨"grant_stat", [("type", statType), ("ikey", itemKey), ("value", Numeral.write value)], []⟩
  | .grantStatRange statType itemKey min max =>
    ⟨"grant_stat_range", [("type", statType), ("ikey", itemKey), ("min", Numeral.write min),
      ("max", Numeral.write max)], []⟩
  | .removeItems => ⟨"remove_items", [], []⟩
  | .nothing => ⟨"nothing", [], []⟩
  | .ifThenElse condition thenBranch elseBranch =>
    ⟨"if_then_else", [], [⟨"if", [], Requirement.toElements condition⟩,
      ⟨"then", [], Modifier.toElements thenBranch⟩,
      ⟨"else", [], Modifier.toElements elseBranch⟩]⟩
  | .randomChoice entries => ⟨"random_choice", [], Modifier.entriesToElements entries⟩

def Modifier.toElements : List Modifier → List Element
  | [] => []
  | m :: rest => m.toElement :: Modifier.toElements rest

def Modifier.entriesToElements : List Choice → List Element
  | [] => []
  | entry :: rest => Modifier.entryToElement entry :: Modifier.entriesToElements rest

/-- The weight stands on the choice itself and empty blocks are left out, so that no level is taken
for them. -/
def Modifier.entryToElement : Choice → Element
  | ⟨weight, modifiers, requirements⟩ =>
    ⟨"choice", [("weight", Numeral.write weight)],
      (if modifiers.isEmpty then [] else [⟨"modifier", [], Modifier.toElements modifiers⟩]) ++
      if requirements.isEmpty then []
      else [⟨"requirement", [], Requirement.toElements requirements⟩]⟩

end

/-- A list of requirements is written member by member. -/
theorem Requirement.toElements_eq_map (rs : List Requirement) :
    toElements rs = rs.map toElement := by
  induction rs with
  | nil => rfl
  | cons r rest ih => rw [toElements, ih, List.map_cons]

/-- A list of modifiers is written member by member. -/
theorem Modifier.toElements_eq_map (ms : List Modifier) : toElements ms = ms.map toElement := by
  induction ms with
  | nil => rfl
  | cons m rest ih => rw [toElements, ih, List.map_cons]

/-- Alternatives are written one after the other. -/
theorem Modifier.entriesToElements_eq_map (entries : List Choice) :
    entriesToElements entries = entries.map entryToElement := by
  induction entries with
  | nil => rfl
  | cons entry rest ih => rw [entriesToElements, ih, List.map_cons]

namespace Reading

variable {α β : Type}

/-- For the outcome a part that has a value can be taken out of a sequence. -/
theorem outcome_bind_of_ok {r : Reading α} {a : α} (h : r.outcome = .ok a)
    (next : α → Reading β) : (r >>= next).outcome = (next a).outcome := by
  rw [bind_of_ok h]

/-- What is read back one by one is read back as a list. -/
theorem outcome_each_map {read : Element → Reading α} {write : α → Element} {as : List α}
    (h : ∀ a ∈ as, (read (write a)).outcome = .ok a) :
    (each read (as.map write)).outcome = .ok as := by
  induction as with
  | nil => rfl
  | cons a rest ih =>
      rw [List.map_cons, each, outcome_bind_of_ok (h a (by simp)),
        outcome_bind_of_ok (ih fun b hb => h b (by simp [hb])), outcome_pure]

/-- Where every element gives a value, gathering loses none. -/
theorem outcome_gather_map {read : Element → Reading (Option α)} {write : α → Element}
    {as : List α} (h : ∀ a ∈ as, (read (write a)).outcome = .ok (some a)) :
    (gather read (as.map write)).outcome = .ok as := by
  induction as with
  | nil => rfl
  | cons a rest ih =>
      rw [List.map_cons, gather, outcome_bind_of_ok (h a (by simp)),
        outcome_bind_of_ok (ih fun b hb => h b (by simp [hb])), outcome_pure]
      rfl

end Reading

namespace Attribute

variable {key : String} {e : Element}

/-- A text that is written and not empty is read as it is. -/
theorem text_eq_pure {raw : String} (h : e.attribute? key = some raw) (hRaw : raw ≠ "")
    (here : Path) : text key here e = pure raw := by
  simp [text, h, hRaw]

/-- An integer that can be written is read back from its numeral. -/
theorem integer_eq_pure {n : Int} (h : e.attribute? key = some (Numeral.write n))
    (hn : Numeral.isWritable n = true) (here : Path) : integer key here e = pure n := by
  rw [integer, text_eq_pure h (Numeral.write_ne_empty n), pure_bind, Numeral.read_write hn]

/-- A weight that is valid is read back from its numeral. -/
theorem positive_eq_pure {n : Int} (h : e.attribute? key = some (Numeral.write n))
    (hn : ValidWeight n) (here : Path) : positive key here e = pure n := by
  have hPositive : ¬ n ≤ 0 := by
    have := hn.1
    omega
  rw [positive, integer_eq_pure h hn.2, pure_bind, if_neg hPositive]

/-- A number that is written down needs no default, even where it is the same. -/
theorem integerOr_eq_pure {n : Int} (h : e.attribute? key = some (Numeral.write n))
    (hn : Numeral.isWritable n = true) (default : Int) (here : Path) :
    integerOr default key here e = pure n := by
  have hBlank : isBlank key e = false := by simp [isBlank, h, Numeral.write_ne_empty]
  rw [integerOr, hBlank, integer_eq_pure h hn]
  rfl

/-- A verdict that is written down needs no default. -/
theorem booleanOr_eq_pure {ok : Bool}
    (h : e.attribute? key = some (if ok then "true" else "false")) (default : Bool)
    (here : Path) : booleanOr default key here e = pure ok := by
  cases ok with
  | true =>
      have hTruth : truth? "true" = some true := rfl
      simp [booleanOr, isBlank, h, hTruth]
  | false =>
      have hTruth : truth? "false" = some false := rfl
      simp [booleanOr, isBlank, h, hTruth]

/-- The bounds of a range that is not empty are read back in their order. -/
theorem range_eq_pure {min max : Int} (hMin : e.attribute? "min" = some (Numeral.write min))
    (hMax : e.attribute? "max" = some (Numeral.write max)) (h : ValidRange min max)
    (here : Path) : range here e = pure (min, max) := by
  have hOrder : ¬ min > max := Int.not_lt.mpr h.1
  rw [range, integer_eq_pure hMin h.2.1, pure_bind, integer_eq_pure hMax h.2.2, pure_bind,
    if_neg hOrder]

end Attribute

namespace Parser

open Reading

/-- All kinds are known, each under its own name. -/
structure KnowsAll (p : Parser) : Prop where
  modifier (kind : ModifierKind) : p.modifierTable.lookup kind.name = some kind
  requirement (kind : RequirementKind) : p.requirementTable.lookup kind.name = some kind

theorem outcome_enter_bind {α : Type} (path : Path) (e : Element) (next : Path → Reading α) :
    (enter path e >>= next).outcome = (next (path ++ [e.name])).outcome := rfl

/-- Verdict and reason of a check are read back whatever they are. -/
theorem check_toElement (c : Check) (here : Path) :
    check c.demand here c.toElement = pure (.check c) := by
  obtain ⟨demand, ok, reason⟩ := c
  have hOk : (Check.toElement ⟨demand, ok, reason⟩).attribute? "ok" =
      some (if ok then "true" else "false") := by
    cases demand <;> rfl
  have hReason : (Check.toElement ⟨demand, ok, reason⟩).attribute? "reason" = some reason := by
    cases demand <;> rfl
  simp [check, Attribute.booleanOr_eq_pure hOk, Attribute.textOr, hReason]

/-- A valid check is read back from its element. -/
theorem requirementOf_toElement {c : Check} (hValid : c.demand.Valid)
    (child : Path → Element → Reading Requirement) (here : Path) :
    requirementOf child here c.toElement c.demand.kind = pure (.check c) := by
  have hCheck := check_toElement c here
  obtain ⟨demand, ok, reason⟩ := c
  cases demand with
  | always => exact hCheck
  | never => exact hCheck
  | friends required =>
      rw [← hCheck]
      simp only [Demand.kind, requirementOf]
      rw [Attribute.integer_eq_pure rfl hValid, pure_bind]
  | level required =>
      rw [← hCheck]
      simp only [Demand.kind, requirementOf]
      rw [Attribute.integer_eq_pure rfl hValid, pure_bind]
  | item itemKey number =>
      rw [← hCheck]
      simp only [Demand.kind, requirementOf]
      rw [Attribute.text_eq_pure rfl hValid.1, pure_bind,
        Attribute.integerOr_eq_pure rfl hValid.2, pure_bind]
  | stat statType itemKey value =>
      rw [← hCheck]
      simp only [Demand.kind, requirementOf]
      rw [Attribute.text_eq_pure rfl hValid.1, pure_bind,
        Attribute.text_eq_pure rfl hValid.2.1, pure_bind,
        Attribute.integer_eq_pure rfl hValid.2.2, pure_bind]

/-- Branches that are written in the order of their names are found without a note. -/
theorem branches_eq_pure (p : Parser) (here : Path) (name : String)
    (condition thenBranch elseBranch : List Element) :
    p.branches here ⟨name, [], [⟨"if", [], condition⟩, ⟨"then", [], thenBranch⟩,
      ⟨"else", [], elseBranch⟩]⟩ =
    pure ⟨⟨"if", [], condition⟩, ⟨"then", [], thenBranch⟩, ⟨"else", [], elseBranch⟩⟩ := by
  simp [branches, findBranches]

variable {p : Parser} (h : p.KnowsAll)

include h

/-- A parser that knows all kinds finds a requirement under its own name. -/
theorem outcome_requirementKind (kind : RequirementKind) {e : Element}
    (hName : e.name = kind.name) (here : Path) :
    (p.requirementKind here e).outcome = .ok kind := by
  rw [Parser.requirementKind, hName, h.requirement, step_bind, outcome_pure]

/-- A parser that knows all kinds finds a modifier under its own name. -/
theorem outcome_modifierKind (kind : ModifierKind) {e : Element}
    (hName : e.name = kind.name) (here : Path) :
    (p.modifierKind here e).outcome = .ok kind := by
  rw [Parser.modifierKind, hName, h.modifier, step_bind, outcome_pure]

/-- A valid requirement is read back where there is room for it, by induction on the levels that are
left. -/
theorem outcome_requirement {depth : Nat} {r : Requirement} (hValid : r.Valid)
    (hHeight : r.height ≤ depth) (path : Path) :
    (p.requirement depth path r.toElement).outcome = .ok r := by
  induction depth generalizing r path with
  | zero => exact absurd hHeight (Nat.not_le.mpr r.height_pos)
  | succ depth ih =>
      cases r with
      | check c =>
          rw [Requirement.Valid] at hValid
          rw [Requirement.toElement, Parser.requirement, outcome_enter_bind,
            outcome_bind_of_ok (outcome_requirementKind h c.demand.kind rfl _),
            requirementOf_toElement hValid, outcome_pure]
      | conjunction children =>
          rw [Requirement.Valid, Requirement.allValid_iff] at hValid
          have hChildren : ∀ r ∈ children, r.height ≤ depth := by
            apply Requirement.greatestHeight_le_iff.mp
            rw [Requirement.height] at hHeight
            omega
          rw [Requirement.toElement, Requirement.toElements_eq_map, Parser.requirement,
            outcome_enter_bind,
            outcome_bind_of_ok (outcome_requirementKind h .conjunction rfl _)]
          rw [Parser.requirementOf, outcome_bind_of_ok (outcome_each_map fun r hr =>
            ih (hValid r hr) (hChildren r hr) _), outcome_pure]

/-- A list of them is read back from one level above, under any name. -/
theorem outcome_requirements {depth : Nat} {rs : List Requirement}
    (hValid : Requirement.AllValid rs) (hHeight : Requirement.listHeight rs ≤ depth)
    (path : Path) (name : String) :
    (p.requirements depth path ⟨name, [], Requirement.toElements rs⟩).outcome = .ok rs := by
  rw [Requirement.listHeight] at hHeight
  rw [Requirement.allValid_iff] at hValid
  cases depth with
  | zero => omega
  | succ depth =>
      have hMembers : ∀ r ∈ rs, r.height ≤ depth :=
        Requirement.greatestHeight_le_iff.mp (by omega)
      rw [Requirement.toElements_eq_map, Parser.requirements, outcome_enter_bind]
      exact outcome_each_map fun r hr => outcome_requirement h (hValid r hr) (hMembers r hr) _

section Levels

variable {modifiers : Path → Element → Reading (List Modifier)} {depth : Nat} {here : Path}
  (hModifiers : ∀ (ms : List Modifier) (name : String), Modifier.AllValid ms →
    Modifier.listHeight ms ≤ depth →
      (modifiers here ⟨name, [], Modifier.toElements ms⟩).outcome = .ok ms)

include hModifiers

omit h in
/-- The block of modifiers is read back, also where it is left out because it is empty. -/
theorem outcome_modifierBlock (p : Parser) {ms : List Modifier} (hValid : Modifier.AllValid ms)
    (hHeight : Modifier.blockHeight ms ≤ depth) :
    (List.foldlM (p.block depth modifiers here) ⟨none, [], []⟩
      (if ms.isEmpty then [] else [⟨"modifier", [], Modifier.toElements ms⟩])).outcome =
    .ok ⟨none, ms, []⟩ := by
  cases ms with
  | nil => rfl
  | cons m rest =>
      have hRead := hModifiers (m :: rest) "modifier" hValid hHeight
      rw [List.isEmpty_cons, if_neg Bool.false_ne_true, List.foldlM_cons]
      simp only [block, String.reduceEq, if_false, if_true, List.foldlM_nil, bind_pure]
      rw [outcome_bind_of_ok hRead, outcome_pure]

omit hModifiers in
/-- The block of requirements comes after it and leaves it as it is. -/
theorem outcome_requirementBlock (modifiers : Path → Element → Reading (List Modifier))
    (depth : Nat) (here : Path) {rs : List Requirement} (hValid : Requirement.AllValid rs)
    (hHeight : Requirement.blockHeight rs ≤ depth) (ms : List Modifier) :
    (List.foldlM (p.block depth modifiers here) ⟨none, ms, []⟩
      (if rs.isEmpty then [] else [⟨"requirement", [], Requirement.toElements rs⟩])).outcome =
    .ok ⟨none, ms, rs⟩ := by
  cases rs with
  | nil => rfl
  | cons r rest =>
      have hRead := outcome_requirements h hValid hHeight here "requirement"
      rw [List.isEmpty_cons, if_neg Bool.false_ne_true, List.foldlM_cons]
      simp only [block, String.reduceEq, if_false, if_true, List.foldlM_nil, bind_pure]
      rw [outcome_bind_of_ok hRead, outcome_pure]

/-- An alternative is read back from its inline weight and its two blocks. -/
theorem outcome_choiceOf {entry : Choice} (hValid : Modifier.EntryValid entry)
    (hHeight : Modifier.entryHeight entry ≤ depth + 1) :
    (p.choiceOf depth modifiers here (Modifier.entryToElement entry)).outcome = .ok entry := by
  obtain ⟨weight, ms, rs⟩ := entry
  obtain ⟨hWeight, hMs, hRs⟩ := Modifier.entryValid_iff.mp hValid
  rw [Modifier.entryHeight_eq] at hHeight
  dsimp only at hWeight hMs hRs hHeight
  have hModifierBlock := outcome_modifierBlock hModifiers p hMs (by omega)
  have hRequirementBlock := outcome_requirementBlock h modifiers depth here hRs (by omega) ms
  rw [Modifier.entryToElement, choiceOf, List.foldlM_append, LawfulMonad.bind_assoc,
    outcome_bind_of_ok hModifierBlock, outcome_bind_of_ok hRequirementBlock]
  rw [Blocks.weightFor, Attribute.positive_eq_pure rfl hWeight, pure_bind, outcome_pure]

/-- A modifier is read back where lists and alternatives are, one level below. -/
theorem outcome_modifierOf {choice : Path → Element → Reading Choice}
    (hChoice : ∀ entry, Modifier.EntryValid entry → Modifier.entryHeight entry ≤ depth →
      (choice here (Modifier.entryToElement entry)).outcome = .ok entry)
    {m : Modifier} (hValid : m.Valid) (hHeight : m.height ≤ depth + 1) :
    (p.modifierOf depth modifiers choice here m.toElement m.kind).outcome = .ok m := by
  cases m with
  | grantItem itemKey =>
      simp only [Modifier.Valid] at hValid
      simp only [Modifier.kind, modifierOf, Modifier.toElement]
      rw [Attribute.text_eq_pure rfl hValid, pure_bind, outcome_pure]
  | grantXp value =>
      simp only [Modifier.Valid] at hValid
      simp only [Modifier.kind, modifierOf, Modifier.toElement]
      rw [Attribute.integer_eq_pure rfl hValid, pure_bind, outcome_pure]
  | grantXpRange min max =>
      simp only [Modifier.Valid] at hValid
      simp only [Modifier.kind, modifierOf, Modifier.toElement]
      rw [Attribute.range_eq_pure rfl rfl hValid, pure_bind, outcome_pure]
  | grantStat statType itemKey value =>
      simp only [Modifier.Valid] at hValid
      simp only [Modifier.kind, modifierOf, Modifier.toElement]
      rw [Attribute.text_eq_pure rfl hValid.1, pure_bind,
        Attribute.text_eq_pure rfl hValid.2.1, pure_bind,
        Attribute.integer_eq_pure rfl hValid.2.2, pure_bind, outcome_pure]
  | grantStatRange statType itemKey min max =>
      simp only [Modifier.Valid] at hValid
      simp only [Modifier.kind, modifierOf, Modifier.toElement]
      rw [Attribute.text_eq_pure rfl hValid.1, pure_bind,
        Attribute.text_eq_pure rfl hValid.2.1, pure_bind,
        Attribute.range_eq_pure rfl rfl hValid.2.2, pure_bind, outcome_pure]
  | removeItems => rfl
  | nothing => rfl
  | ifThenElse condition thenBranch elseBranch =>
      simp only [Modifier.Valid] at hValid
      obtain ⟨hCondition, hThen, hElse⟩ := hValid
      rw [Modifier.height] at hHeight
      have hThenHeight : Modifier.listHeight thenBranch ≤ depth := by
        rw [Modifier.listHeight]
        omega
      have hElseHeight : Modifier.listHeight elseBranch ≤ depth := by
        rw [Modifier.listHeight]
        omega
      simp only [Modifier.kind, modifierOf, Modifier.toElement]
      rw [branches_eq_pure, pure_bind,
        outcome_bind_of_ok (outcome_requirements h hCondition (by omega) here "if"),
        outcome_bind_of_ok (hModifiers thenBranch "then" hThen hThenHeight),
        outcome_bind_of_ok (hModifiers elseBranch "else" hElse hElseHeight), outcome_pure]
  | randomChoice entries =>
      simp only [Modifier.Valid] at hValid
      rw [Modifier.allEntriesValid_iff] at hValid
      have hEntries : ∀ entry ∈ entries, Modifier.entryHeight entry ≤ depth := by
        apply Modifier.greatestEntryHeight_le_iff.mp
        rw [Modifier.height] at hHeight
        omega
      have hGather : (Reading.gather (p.entry choice here)
          (entries.map Modifier.entryToElement)).outcome = .ok entries := by
        refine outcome_gather_map fun entry hEntry => ?_
        rw [Parser.entry, if_pos (by cases entry; rfl),
          outcome_bind_of_ok (hChoice entry (hValid entry hEntry) (hEntries entry hEntry)),
          outcome_pure]
      simp only [Modifier.kind, modifierOf, Modifier.toElement,
        Modifier.entriesToElements_eq_map]
      rw [outcome_bind_of_ok hGather, outcome_pure]

end Levels

/-- Modifiers and choices are read back from what is written for them, by induction on the levels
that are left. -/
private theorem outcome_levels (depth : Nat) :
    (∀ m path, m.Valid → m.height ≤ depth →
      (p.modifier depth path m.toElement).outcome = .ok m) ∧
    (∀ ms path name, Modifier.AllValid ms → Modifier.listHeight ms ≤ depth →
      (p.modifiers depth path ⟨name, [], Modifier.toElements ms⟩).outcome = .ok ms) ∧
    ∀ entry path, Modifier.EntryValid entry → Modifier.entryHeight entry ≤ depth →
      (p.choice depth path (Modifier.entryToElement entry)).outcome = .ok entry := by
  induction depth with
  | zero =>
      refine ⟨?_, ?_, ?_⟩
      · intro m path _ hHeight
        exact absurd hHeight (Nat.not_le.mpr m.height_pos)
      · intro ms path name _ hHeight
        rw [Modifier.listHeight] at hHeight
        omega
      · intro entry path _ hHeight
        rw [Modifier.entryHeight_eq] at hHeight
        omega
  | succ depth ih =>
      obtain ⟨hModifier, hModifiers, hChoice⟩ := ih
      refine ⟨?_, ?_, ?_⟩
      · intro m path hValid hHeight
        have hName : m.toElement.name = m.kind.name := by cases m <;> rfl
        rw [modifier, outcome_enter_bind,
          outcome_bind_of_ok (outcome_modifierKind h m.kind hName _)]
        exact outcome_modifierOf h (fun ms name => hModifiers ms _ name)
          (fun entry => hChoice entry _) hValid hHeight
      · intro ms path name hValid hHeight
        rw [Modifier.allValid_iff] at hValid
        rw [Modifier.listHeight] at hHeight
        have hMembers : ∀ m ∈ ms, m.height ≤ depth :=
          Modifier.greatestHeight_le_iff.mp (by omega)
        rw [modifiers, outcome_enter_bind, Modifier.toElements_eq_map]
        exact outcome_each_map fun m hm => hModifier m _ (hValid m hm) (hMembers m hm)
      · intro entry path hValid hHeight
        rw [choice, outcome_enter_bind]
        exact outcome_choiceOf h (fun ms name => hModifiers ms _ name) hValid hHeight

/-- A list of modifiers that fits under the limit is read back, under any name of its element. -/
theorem outcome_modifiers {depth : Nat} {ms : List Modifier} (hValid : Modifier.AllValid ms)
    (hHeight : Modifier.listHeight ms ≤ depth) (path : Path) (name : String) :
    (p.modifiers depth path ⟨name, [], Modifier.toElements ms⟩).outcome = .ok ms :=
  (outcome_levels h depth).2.1 ms path name hValid hHeight

omit h

/-- Without kinds of its own, a parser knows all. -/
theorem create_knowsAll {maxDepth : Int} (hLow : 1 ≤ maxDepth) (hHigh : maxDepth ≤ depthCeiling)
    (strict : Bool) :
    ∃ p, create maxDepth strict [] [] = .ok p ∧ p.maxDepth = maxDepth.toNat ∧ p.KnowsAll := by
  refine ⟨⟨maxDepth.toNat, strict, ModifierKind.tableOf ModifierKind.all,
    RequirementKind.tableOf RequirementKind.all⟩, ?_, rfl, ?_⟩
  · rw [create, if_neg (by omega), if_neg (by omega)]
    rfl
  · exact ⟨fun kind => by cases kind <;> rfl, fun kind => by cases kind <;> rfl⟩

/-- A parser that knows all kinds reads exactly the valid modifiers that fit under its depth limit,
and it does not matter for them whether the parser is strict. -/
theorem readModifiers_image {maxDepth : Int} (hLow : 1 ≤ maxDepth)
    (hHigh : maxDepth ≤ depthCeiling) (strict : Bool) :
    ∃ p, create maxDepth strict [] [] = .ok p ∧ ∀ ms,
      (∃ e, (p.readModifiers e).outcome = .ok ms) ↔
        Modifier.AllValid ms ∧ (Modifier.listHeight ms : Int) ≤ maxDepth := by
  obtain ⟨p, hCreate, hDepth, hKnows⟩ := create_knowsAll hLow hHigh strict
  have hBelow : p.depthBelow [] = maxDepth.toNat := hDepth
  refine ⟨p, hCreate, fun ms => ⟨?_, ?_⟩⟩
  · rintro ⟨e, hRead⟩
    obtain ⟨hValid, hHeight⟩ : Modifier.AllValid ms ∧ Modifier.listHeight ms ≤ p.depthBelow [] :=
      p.fits_of_read .modifiers hRead
    rw [hBelow] at hHeight
    exact ⟨hValid, by omega⟩
  · rintro ⟨hValid, hHeight⟩
    have hFits : Modifier.listHeight ms ≤ p.depthBelow [] := by
      rw [hBelow]
      omega
    exact ⟨⟨"modifiers", [], Modifier.toElements ms⟩,
      outcome_modifiers hKnows hValid hFits [] "modifiers"⟩

/-- Five levels are enough for a grant in a choice, and too few where a branch is put around it. -/
theorem readModifiers_image_choice :
    ∃ p, create 5 true [] [] = .ok p ∧
      (∃ e, (p.readModifiers e).outcome = .ok [.randomChoice [⟨1, [.grantXp 7], []⟩]]) ∧
      ¬ ∃ e, (p.readModifiers e).outcome =
        .ok [.ifThenElse [] [.randomChoice [⟨1, [.grantXp 7], []⟩]] []] := by
  obtain ⟨p, hCreate, hImage⟩ :=
    readModifiers_image (show (1 : Int) ≤ 5 by decide) (by decide) true
  refine ⟨p, hCreate, (hImage _).mpr ⟨?_, ?_⟩, fun h => ?_⟩
  · have hSeven : Numeral.isWritable 7 = true := by decide +kernel
    simp [Modifier.AllValid, Modifier.Valid, Modifier.AllEntriesValid, Modifier.EntryValid,
      Requirement.AllValid, ValidWeight, Numeral.isWritable_one, hSeven]
  · decide
  · exact absurd ((hImage _).mp h).2 (by decide)

end Parser

end Bounty
