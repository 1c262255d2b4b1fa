import Bounty.Proofs.Parser.Relocation
import Bounty.Proofs.Parser.Shown

/-! The blocks of an alternative. They may stand in any order: the last of each name counts, and the
weight that is written on the alternative itself is looked at only where no block holds one. -/
namespace Bounty

/-- Two lists that are related member by member end with related members, or are both empty. -/
theorem forall₂_getLast? {α β : Type} {R : α → β → Prop} {as : List α} {bs : List β}
    (h : List.Forall₂ R as bs) : Option.Rel R as.getLast? bs.getLast? := by
  induction h with
  | nil => exact .none
  | @cons a b as bs hFirst _ ih =>
      rw [List.getLast?_cons, List.getLast?_cons]
      generalize as.getLast? = last at ih
      generalize bs.getLast? = last' at ih
      cases ih with
      | none => exact .some hFirst
      | some hLast => exact .some hLast

/-- Elements can be read one after the other where each of them can. -/
theorem Reading.exists_each_iff {α : Type} {read : Element → Reading α} {es : List Element} :
    (∃ values, (Reading.each read es).outcome = .ok values) ↔
      ∀ e ∈ es, ∃ a, (read e).outcome = .ok a := by
  induction es with
  | nil => simp [Reading.each]
  | cons e rest ih =>
      rw [List.forall_mem_cons, ← ih]
      simp only [Reading.each, Reading.outcome_bind_eq_ok_iff]
      constructor
      · rintro ⟨_, a, hFirst, values, hRest, -⟩
        exact ⟨⟨a, hFirst⟩, values, hRest⟩
      · rintro ⟨⟨a, hFirst⟩, values, hRest⟩
        exact ⟨a :: values, a, hFirst, values, hRest, rfl⟩

namespace Attribute

variable {key : String} {here : Path} {e : Element} {n : Int}

/-- An integer is read where its text stands for it. -/
theorem outcome_integer_eq_ok_iff :
    (integer key here e).outcome = .ok n ↔ Parser.ReadsAs e key n := by
  unfold integer text Parser.ReadsAs
  cases hSome : e.attribute? key with
  | none => simp [Reading.fault, Reading.stop, Reading.bind_of_error]
  | some raw =>
      cases hEmpty : raw.isEmpty with
      | true =>
          have hNone : Numeral.read raw = .error .malformed := by
            rw [String.isEmpty_iff.mp hEmpty]
            rfl
          simp [hNone, Reading.fault, Reading.stop, Reading.bind_of_error, hEmpty]
      | false =>
          simp only [hEmpty, Bool.false_eq_true, if_false, pure_bind, Option.some.injEq,
            exists_eq_left']
          cases hRead : Numeral.read raw with
          | ok m => simp
          | error fault => cases fault <;> simp [Reading.fault, Reading.stop]

/-- A weight has to be positive besides. -/
theorem outcome_positive_eq_ok_iff :
    (positive key here e).outcome = .ok n ↔ Parser.ReadsAs e key n ∧ 0 < n := by
  have hInteger : (integer key here e).outcome = .ok n ↔ Parser.ReadsAs e key n :=
    outcome_integer_eq_ok_iff
  unfold positive
  rw [← hInteger]
  cases h : (integer key here e).outcome with
  | error s => simp [Reading.bind_of_error h]
  | ok m =>
      rw [Reading.bind_of_ok h]
      dsimp only
      split
      · simp only [Reading.fault, Reading.stop, reduceCtorEq, Except.ok.injEq, false_iff, not_and]
        omega
      · simp only [Reading.outcome_pure, Except.ok.injEq]
        omega

end Attribute

namespace Parser

/-- What a child gives to the alternative that it stands in. -/
inductive Block where
  | weight (n : Int)
  | modifiers (ms : List Modifier)
  | requirements (rs : List Requirement)
  | nothing

namespace Block

def weight? : Block → Option Int
  | .weight n => some n
  | _ => none

def modifiers? : Block → Option (List Modifier)
  | .modifiers ms => some ms
  | _ => none

def requirements? : Block → Option (List Requirement)
  | .requirements rs => some rs
  | _ => none

end Block

def Blocks.put (blocks : Blocks) : Block → Blocks
  | .weight n => { blocks with weight := some n }
  | .modifiers ms => { blocks with modifiers := ms }
  | .requirements rs => { blocks with requirements := rs }
  | .nothing => blocks

section Put

/-- Of the blocks that say something of one kind the last counts. -/
theorem Blocks.foldl_put_eq {β : Type} (view : Blocks → β) (select : Block → Option β)
    (hPut : ∀ blocks b, view (blocks.put b) = (select b).getD (view blocks))
    (found : List Block) (blocks : Blocks) :
    view (found.foldl put blocks) =
      ((found.filterMap select).getLast?).getD (view blocks) := by
  induction found generalizing blocks with
  | nil => rfl
  | cons b rest ih =>
      rw [List.foldl_cons, ih, hPut, List.filterMap_cons]
      cases select b with
      | none => rfl
      | some value => simp [List.getLast?_cons]

/-- The blocks of an alternative that has not been looked into yet. -/
def Blocks.empty : Blocks := ⟨none, [], []⟩

variable (found : List Block)

/-- The weight that is left is that of the last block for it. -/
theorem Blocks.weight_foldl_put :
    (found.foldl put empty).weight = (found.filterMap Block.weight?).getLast? := by
  have hLast := foldl_put_eq Blocks.weight (fun b => b.weight?.map some)
    (fun blocks b => by cases b <;> rfl) found empty
  have hSome : found.filterMap (fun b => b.weight?.map some) =
      (found.filterMap Block.weight?).map some := (List.map_filterMap ..).symm
  rw [hLast, hSome, List.getLast?_map]
  cases (found.filterMap Block.weight?).getLast? <;> rfl

/-- The modifiers that are left are those of the last block of them. -/
theorem Blocks.modifiers_foldl_put : (found.foldl put empty).modifiers =
    ((found.filterMap Block.modifiers?).getLast?).getD [] :=
  foldl_put_eq Blocks.modifiers Block.modifiers? (fun blocks b => by cases b <;> rfl) found empty

/-- The requirements that are left are those of the last block of them. -/
theorem Blocks.requirements_foldl_put : (found.foldl put empty).requirements =
    ((found.filterMap Block.requirements?).getLast?).getD [] :=
  foldl_put_eq Blocks.requirements Block.requirements? (fun blocks b => by cases b <;> rfl) found
    empty

end Put

/-- A child of the alternative at `here`, read by itself. -/
def readBlock (p : Parser) (here : Path) (child : Element) : Reading Block :=
  if child.name = "weight" then do
    let n ← p.weight (p.depthBelow here) here child
    return .weight n
  else if child.name = "modifier" then do
    let ms ← p.read .modifiers child here
    return .modifiers ms
  else if child.name = "requirement" then do
    let rs ← p.read .requirements child here
    return .requirements rs
  else do
    p.stray here child
    return .nothing

section Choice

variable {p : Parser} {here path : Path} {e child : Element}

/-- What a block is read as does not depend on the blocks before it. -/
theorem block_eq_readBlock_bind (blocks : Blocks) :
    p.block (p.depthBelow here) (p.modifiers (p.depthBelow here)) here blocks child =
      p.readBlock here child >>= fun b => pure (blocks.put b) := by
  unfold block readBlock
  split
  · rw [bind_assoc]
    rfl
  · split
    · rw [bind_assoc]
      rfl
    · split <;>
      · rw [bind_assoc]
        rfl

/-- The children are read one after the other, each by itself, and then put together. -/
theorem foldlM_block_eq (p : Parser) (here : Path) (es : List Element) (blocks : Blocks) :
    es.foldlM (p.block (p.depthBelow here) (p.modifiers (p.depthBelow here)) here) blocks =
      Reading.each (p.readBlock here) es >>= fun found => pure (found.foldl Blocks.put blocks) := by
  induction es generalizing blocks with
  | nil => rfl
  | cons child rest ih =>
      rw [List.foldlM_cons, block_eq_readBlock_bind, Reading.each]
      simp only [bind_assoc, pure_bind, ih, List.foldl_cons]

/-- What an alternative is made of, once all its children have been read. -/
def Blocks.finish (blocks : Blocks) (here : Path) (e : Element) : Reading Choice := do
  let weight ← blocks.weightFor here e
  return ⟨weight, blocks.modifiers, blocks.requirements⟩

/-- An alternative reads all its blocks first and then picks the last ones. -/
theorem choice_eq (hPath : path.length < p.maxDepth) :
    p.choice (p.depthBelow path) path e =
      Reading.step (.entered (path ++ [e.name])) >>= fun _ =>
        Reading.each (p.readBlock (path ++ [e.name])) e.children >>= fun found =>
          (found.foldl Blocks.put .empty).finish (path ++ [e.name]) e := by
  have hDepth : p.depthBelow path = p.depthBelow (path ++ [e.name]) + 1 := by
    unfold depthBelow
    rw [List.length_append, List.length_singleton]
    omega
  have hBlocks := foldlM_block_eq p (path ++ [e.name]) e.children .empty
  rw [hDepth, choice]
  change (Reading.step (.entered (path ++ [e.name])) >>= fun _ =>
    e.children.foldlM (p.block _ (p.modifiers _) _) .empty >>= fun blocks =>
      blocks.finish (path ++ [e.name]) e) = _
  rw [hBlocks]
  simp only [bind_assoc, pure_bind]

end Choice

/-- The weight that an element holds, as integers are read: with no more digits than can be
converted. -/
def Weighs (e : Element) (n : Int) : Prop := ReadsAs e "weight" n ∧ 0 < n

section Named

variable {p : Parser} {here : Path} {child : Element} {es : List Element} {found : List Block}

/-- A block for the weight needs a level of its own. -/
theorem outcome_weight_eq_ok_iff {n : Int} :
    (p.weight (p.depthBelow here) here child).outcome = .ok n ↔
      here.length < p.maxDepth ∧ Weighs child n := by
  cases hDepth : p.depthBelow here with
  | zero =>
      have hLength : ¬ here.length < p.maxDepth := by
        unfold depthBelow at hDepth
        omega
      simp [weight, tooDeep, hLength, Reading.outcome_bind_eq_ok_iff, Reading.fault, Reading.stop]
  | succ depth =>
      have hLength : here.length < p.maxDepth := by
        unfold depthBelow at hDepth
        omega
      change (Attribute.positive "weight" (here ++ [child.name]) child).outcome = .ok n ↔ _
      rw [Attribute.outcome_positive_eq_ok_iff]
      simp [Weighs, hLength]

/-- What a child gives by its name. -/
theorem readBlock_cases {b : Block} (h : (p.readBlock here child).outcome = .ok b) :
    (child.name = "weight" ∧ ∃ n, b = .weight n ∧ here.length < p.maxDepth ∧ Weighs child n) ∨
    (child.name = "modifier" ∧
      ∃ ms, b = .modifiers ms ∧ (p.read .modifiers child here).outcome = .ok ms) ∨
    (child.name = "requirement" ∧
      ∃ rs, b = .requirements rs ∧ (p.read .requirements child here).outcome = .ok rs) ∨
    b = .nothing ∧ ∀ name ∈ ["weight", "modifier", "requirement"], child.name ≠ name := by
  unfold readBlock at h
  split at h
  · next hName =>
    obtain ⟨n, hRead, hBlock⟩ := Reading.outcome_bind_eq_ok_iff.mp h
    cases hBlock
    exact .inl ⟨hName, n, rfl, outcome_weight_eq_ok_iff.mp hRead⟩
  · next hWeight =>
    split at h
    · next hName =>
      obtain ⟨ms, hRead, hBlock⟩ := Reading.outcome_bind_eq_ok_iff.mp h
      cases hBlock
      exact .inr (.inl ⟨hName, ms, rfl, hRead⟩)
    · next hModifier =>
      split at h
      · next hName =>
        obtain ⟨rs, hRead, hBlock⟩ := Reading.outcome_bind_eq_ok_iff.mp h
        cases hBlock
        exact .inr (.inr (.inl ⟨hName, rs, rfl, hRead⟩))
      · next hRequirement =>
        obtain ⟨_, -, hBlock⟩ := Reading.outcome_bind_eq_ok_iff.mp h
        cases hBlock
        exact .inr (.inr (.inr ⟨rfl, by simp [hWeight, hModifier, hRequirement]⟩))

/-- The children of one name are what gives the blocks of one kind, in their order. -/
theorem forall₂_named {β : Type} {name : String} {select : Block → Option β}
    {R : Element → β → Prop}
    (hNamed : ∀ c b, (p.readBlock here c).outcome = .ok b → c.name = name →
      ∃ value, select b = some value ∧ R c value)
    (hOther : ∀ c b, (p.readBlock here c).outcome = .ok b → c.name ≠ name → select b = none)
    (h : List.Forall₂ (fun c b => (p.readBlock here c).outcome = .ok b) es found) :
    List.Forall₂ R (named name es) (found.filterMap select) := by
  induction h with
  | nil => exact .nil
  | @cons c b es found hFirst _ ih =>
      rw [named_cons, List.filterMap_cons]
      by_cases hName : c.name = name
      · obtain ⟨value, hSelect, hR⟩ := hNamed c b hFirst hName
        rw [if_pos hName, hSelect]
        exact .cons hR ih
      · rw [if_neg hName, hOther c b hFirst hName]
        exact ih

variable (h : List.Forall₂ (fun c b => (p.readBlock here c).outcome = .ok b) es found)

include h

/-- The weights that are found are those of the blocks for weights, in order. -/
theorem forall₂_weights : List.Forall₂ (fun c n => here.length < p.maxDepth ∧ Weighs c n)
    (named "weight" es) (found.filterMap Block.weight?) := by
  refine forall₂_named (fun c b hRead hName => ?_) (fun c b hRead hName => ?_) h
  all_goals
    rcases readBlock_cases hRead with ⟨hOwn, n, rfl, hWeight⟩ | ⟨hOwn, ms, rfl, -⟩ |
      ⟨hOwn, rs, rfl, -⟩ | ⟨rfl, hOwn⟩ <;> simp_all [Block.weight?]

/-- The lists of modifiers that are found are those of their blocks, in order. -/
theorem forall₂_modifiers :
    List.Forall₂ (fun c ms => (p.read .modifiers c here).outcome = .ok ms)
      (named "modifier" es) (found.filterMap Block.modifiers?) := by
  refine forall₂_named (fun c b hRead hName => ?_) (fun c b hRead hName => ?_) h
  all_goals
    rcases readBlock_cases hRead with ⟨hOwn, n, rfl, -⟩ | ⟨hOwn, ms, rfl, hModifiers⟩ |
      ⟨hOwn, rs, rfl, -⟩ | ⟨rfl, hOwn⟩ <;> simp_all [Block.modifiers?]

/-- The lists of requirements that are found are those of their blocks, in order. -/
theorem forall₂_requirements :
    List.Forall₂ (fun c rs => (p.read .requirements c here).outcome = .ok rs)
      (named "requirement" es) (found.filterMap Block.requirements?) := by
  refine forall₂_named (fun c b hRead hName => ?_) (fun c b hRead hName => ?_) h
  all_goals
    rcases readBlock_cases hRead with ⟨hOwn, n, rfl, -⟩ | ⟨hOwn, ms, rfl, -⟩ |
      ⟨hOwn, rs, rfl, hRequirements⟩ | ⟨rfl, hOwn⟩ <;> simp_all [Block.requirements?]

end Named

/-- The last of some elements is read as a list, which is empty where there is none. -/
def LastReads {α : Type} (read : Element → Reading (List α)) (es : List Element)
    (values : List α) : Prop :=
  match es.getLast? with
  | none => values = []
  | some e => (read e).outcome = .ok values

/-- Everything in an alternative that is looked at can be read. -/
structure BlocksRead (p : Parser) (here : Path) (e : Element) : Prop where
  weights : ∀ c ∈ named "weight" e.children, here.length < p.maxDepth ∧ ∃ n, Weighs c n
  modifiers : ∀ c ∈ named "modifier" e.children,
    ∃ ms, (p.read .modifiers c here).outcome = .ok ms
  requirements : ∀ c ∈ named "requirement" e.children,
    ∃ rs, (p.read .requirements c here).outcome = .ok rs
  inline : named "weight" e.children = [] → ∃ n, Weighs e n

/-- An entry is what the last blocks of each name say. Where no block holds a weight, it is the one
of the alternative itself. -/
structure SaidByLast (p : Parser) (here : Path) (e : Element) (entry : Choice) : Prop where
  weight : Weighs ((named "weight" e.children).getLast?.getD e) entry.weight
  modifiers : LastReads (p.read .modifiers · here) (named "modifier" e.children) entry.modifiers
  requirements : LastReads (p.read .requirements · here) (named "requirement" e.children)
    entry.requirements

section Entry

variable {p : Parser} {here path : Path} {e : Element} {entry : Choice}

/-- Where every block is read the last one is, or there is none. -/
theorem LastReads.of_forall₂ {α : Type} {read : Element → Reading (List α)} {es : List Element}
    {found : List (List α)} (h : List.Forall₂ (fun c as => (read c).outcome = .ok as) es found) :
    LastReads read es (found.getLast?.getD []) := by
  have hLast := forall₂_getLast? h
  unfold LastReads
  generalize es.getLast? = last at hLast
  generalize found.getLast? = value at hLast
  cases hLast with
  | none => rfl
  | some hRead => exact hRead

/-- What the last block says is one thing only. -/
theorem LastReads.eq {α : Type} {read : Element → Reading (List α)} {es : List Element}
    {values values' : List α} (h : LastReads read es values) (h' : LastReads read es values') :
    values = values' := by
  unfold LastReads at h h'
  cases hLast : es.getLast? with
  | none => simp_all
  | some e => simp_all

/-- An element weighs one thing only. -/
theorem Weighs.eq {n n' : Int} (h : Weighs e n) (h' : Weighs e n') : n = n' := by
  obtain ⟨⟨raw, hSome, hRead⟩, -⟩ := h
  obtain ⟨⟨raw', hSome', hRead'⟩, -⟩ := h'
  simp_all

/-- The last blocks settle the alternative. -/
theorem SaidByLast.eq {entry' : Choice} (h : SaidByLast p here e entry)
    (h' : SaidByLast p here e entry') : entry = entry' := by
  obtain ⟨w, ms, rs⟩ := entry
  obtain ⟨w', ms', rs'⟩ := entry'
  have hWeight : w = w' := h.weight.eq h'.weight
  have hModifiers : ms = ms' := h.modifiers.eq h'.modifiers
  have hRequirements : rs = rs' := h.requirements.eq h'.requirements
  rw [hWeight, hModifiers, hRequirements]

section Finish

variable {found : List Block}
  (h : List.Forall₂ (fun c b => (p.readBlock here c).outcome = .ok b) e.children found)

include h

/-- The weight is asked of the last block for it, and of the element where there is none. -/
theorem weightFor_eq_ok_iff {n : Int} :
    ((found.foldl Blocks.put .empty).weightFor here e).outcome = .ok n ↔
      Weighs ((named "weight" e.children).getLast?.getD e) n := by
  have hLast := forall₂_getLast? (forall₂_weights h)
  rw [Blocks.weightFor, Blocks.weight_foldl_put]
  generalize (named "weight" e.children).getLast? = last at hLast
  generalize (found.filterMap Block.weight?).getLast? = value at hLast
  cases hLast with
  | none => exact Attribute.outcome_positive_eq_ok_iff
  | @some c m hWeighs =>
      simp only [Reading.outcome_pure, Except.ok.injEq, Option.getD_some]
      constructor
      · rintro rfl
        exact hWeighs.2
      · exact fun hOther => hWeighs.2.eq hOther

/-- What has been read of all the children comes to what the last of each name say. -/
theorem finish_eq_ok_iff :
    ((found.foldl Blocks.put .empty).finish here e).outcome = .ok entry ↔
      SaidByLast p here e entry := by
  have hModifiers := LastReads.of_forall₂ (forall₂_modifiers h)
  have hRequirements := LastReads.of_forall₂ (forall₂_requirements h)
  rw [← Blocks.modifiers_foldl_put] at hModifiers
  rw [← Blocks.requirements_foldl_put] at hRequirements
  rw [Blocks.finish, Reading.outcome_bind_eq_ok_iff]
  constructor
  · rintro ⟨n, hWeight, hEntry⟩
    cases hEntry
    exact ⟨(weightFor_eq_ok_iff h).mp hWeight, hModifiers, hRequirements⟩
  · intro hSaid
    refine ⟨entry.weight, (weightFor_eq_ok_iff h).mpr hSaid.weight, ?_⟩
    rw [hModifiers.eq hSaid.modifiers, hRequirements.eq hSaid.requirements]
    rfl

/-- Where all the children have been read, only the weight of the alternative itself may be amiss,
if it is looked at. -/
theorem finish_eq_error_iff {s : Stop} :
    ((found.foldl Blocks.put .empty).finish here e).outcome = .error s ↔
      named "weight" e.children = [] ∧
        (Attribute.positive "weight" here e).outcome = .error s := by
  have hLast := forall₂_getLast? (forall₂_weights h)
  rw [Blocks.finish, Reading.outcome_bind_eq_error_iff, Blocks.weightFor, Blocks.weight_foldl_put,
    ← List.getLast?_eq_none_iff]
  generalize (named "weight" e.children).getLast? = last at hLast
  generalize (found.filterMap Block.weight?).getLast? = value at hLast
  cases hLast <;> simp

end Finish

/-- Children are read as long as the parser is lenient and those of the names that mean something
can be read. -/
theorem exists_readBlock_iff (hLenient : p.strict = false) {child : Element} :
    (∃ b, (p.readBlock here child).outcome = .ok b) ↔
      (child.name = "weight" → here.length < p.maxDepth ∧ ∃ n, Weighs child n) ∧
      (child.name = "modifier" → ∃ ms, (p.read .modifiers child here).outcome = .ok ms) ∧
      (child.name = "requirement" → ∃ rs, (p.read .requirements child here).outcome = .ok rs) := by
  constructor
  · rintro ⟨b, hBlock⟩
    rcases readBlock_cases hBlock with ⟨hOwn, n, rfl, hDepth, hWeighs⟩ | ⟨hOwn, ms, rfl, hRead⟩ |
      ⟨hOwn, rs, rfl, hRead⟩ | ⟨rfl, hOwn⟩
    · exact ⟨fun _ => ⟨hDepth, n, hWeighs⟩, by simp [hOwn], by simp [hOwn]⟩
    · exact ⟨by simp [hOwn], fun _ => ⟨ms, hRead⟩, by simp [hOwn]⟩
    · exact ⟨by simp [hOwn], by simp [hOwn], fun _ => ⟨rs, hRead⟩⟩
    · simp_all
  · rintro ⟨hWeight, hModifiers, hRequirements⟩
    unfold readBlock
    split
    · next hName =>
      obtain ⟨hDepth, n, hWeighs⟩ := hWeight hName
      exact ⟨_, Reading.outcome_bind_eq_ok_iff.mpr
        ⟨n, outcome_weight_eq_ok_iff.mpr ⟨hDepth, hWeighs⟩, rfl⟩⟩
    · split
      · next hName =>
        obtain ⟨ms, hRead⟩ := hModifiers hName
        exact ⟨_, Reading.outcome_bind_eq_ok_iff.mpr ⟨ms, hRead, rfl⟩⟩
      · split
        · next hName =>
          obtain ⟨rs, hRead⟩ := hRequirements hName
          exact ⟨_, Reading.outcome_bind_eq_ok_iff.mpr ⟨rs, hRead, rfl⟩⟩
        · refine ⟨.nothing, Reading.outcome_bind_eq_ok_iff.mpr ⟨(), ?_, rfl⟩⟩
          simp [stray, hLenient, Reading.step]

/-- All the children are read where the blocks are. -/
theorem forall_readBlock_iff (hLenient : p.strict = false) {es : List Element} :
    (∀ c ∈ es, ∃ b, (p.readBlock here c).outcome = .ok b) ↔
      (∀ c ∈ named "weight" es, here.length < p.maxDepth ∧ ∃ n, Weighs c n) ∧
      (∀ c ∈ named "modifier" es, ∃ ms, (p.read .modifiers c here).outcome = .ok ms) ∧
      (∀ c ∈ named "requirement" es, ∃ rs, (p.read .requirements c here).outcome = .ok rs) := by
  simp only [exists_readBlock_iff hLenient, mem_named]
  constructor
  · intro h
    exact ⟨fun c hc => (h c hc.1).1 hc.2, fun c hc => (h c hc.1).2.1 hc.2,
      fun c hc => (h c hc.1).2.2 hc.2⟩
  · rintro ⟨hWeights, hModifiers, hRequirements⟩ c hc
    exact ⟨fun hName => hWeights c ⟨hc, hName⟩, fun hName => hModifiers c ⟨hc, hName⟩,
      fun hName => hRequirements c ⟨hc, hName⟩⟩

/-- Within the limit the step into the element has no say in the outcome. -/
theorem outcome_choice_of_lt (hPath : path.length < p.maxDepth) :
    (p.choice (p.depthBelow path) path e).outcome =
      (Reading.each (p.readBlock (path ++ [e.name])) e.children >>= fun found =>
        (found.foldl Blocks.put .empty).finish (path ++ [e.name]) e).outcome := by
  rw [choice_eq hPath, Reading.step_bind]

/-- At the limit no alternative is read. -/
theorem choice_of_le (hPath : p.maxDepth ≤ path.length) :
    p.choice (p.depthBelow path) path e = p.tooDeep path e := by
  have hBelow : p.depthBelow path = 0 := Nat.sub_eq_zero_of_le hPath
  rw [hBelow, choice]

/-- An alternative that is read had a level left. -/
theorem lt_of_outcome_choice (h : (p.choice (p.depthBelow path) path e).outcome = .ok entry) :
    path.length < p.maxDepth := by
  apply Nat.lt_of_not_le
  intro hPath
  rw [choice_of_le hPath] at h
  cases h

/-- A lenient parser finds an alternative exactly where its blocks can be read. -/
theorem exists_outcome_choice_iff (hLenient : p.strict = false) :
    (∃ entry, (p.choice (p.depthBelow path) path e).outcome = .ok entry) ↔
      path.length < p.maxDepth ∧ BlocksRead p (path ++ [e.name]) e := by
  constructor
  · rintro ⟨entry, hEntry⟩
    have hPath := lt_of_outcome_choice hEntry
    rw [outcome_choice_of_lt hPath] at hEntry
    obtain ⟨found, hEach, hFinish⟩ := Reading.outcome_bind_eq_ok_iff.mp hEntry
    have hSaid := (finish_eq_ok_iff (Reading.each_eq_ok_iff.mp hEach)).mp hFinish
    obtain ⟨hWeights, hModifiers, hRequirements⟩ :=
      (forall_readBlock_iff hLenient).mp (Reading.exists_each_iff.mp ⟨found, hEach⟩)
    refine ⟨hPath, hWeights, hModifiers, hRequirements, fun hNone => ⟨entry.weight, ?_⟩⟩
    simpa [hNone] using hSaid.weight
  · rintro ⟨hPath, hBlocks⟩
    obtain ⟨found, hEach⟩ := Reading.exists_each_iff.mpr ((forall_readBlock_iff hLenient).mpr
      ⟨hBlocks.weights, hBlocks.modifiers, hBlocks.requirements⟩)
    rw [outcome_choice_of_lt hPath, Reading.bind_of_ok hEach]
    cases hFinish : ((found.foldl Blocks.put .empty).finish (path ++ [e.name]) e).outcome with
    | ok entry => exact ⟨entry, rfl⟩
    | error s =>
        obtain ⟨hNone, hStop⟩ := (finish_eq_error_iff (Reading.each_eq_ok_iff.mp hEach)).mp hFinish
        obtain ⟨n, hWeighs⟩ := hBlocks.inline hNone
        have hRead : (Attribute.positive "weight" (path ++ [e.name]) e).outcome = .ok n :=
          Attribute.outcome_positive_eq_ok_iff.mpr hWeighs
        rw [hStop] at hRead
        cases hRead

/-- An alternative that is read is the one that its last blocks say. -/
theorem saidByLast_of_choice (h : (p.choice (p.depthBelow path) path e).outcome = .ok entry) :
    SaidByLast p (path ++ [e.name]) e entry := by
  rw [outcome_choice_of_lt (lt_of_outcome_choice h)] at h
  obtain ⟨found, hEach, hFinish⟩ := Reading.outcome_bind_eq_ok_iff.mp h
  exact (finish_eq_ok_iff (Reading.each_eq_ok_iff.mp hEach)).mp hFinish

/-- In a lenient parser that is all there is to it: every block has to be read, but only the last
ones count. -/
theorem outcome_choice_eq_ok_iff (hLenient : p.strict = false) :
    (p.choice (p.depthBelow path) path e).outcome = .ok entry ↔
      path.length < p.maxDepth ∧ BlocksRead p (path ++ [e.name]) e ∧
        SaidByLast p (path ++ [e.name]) e entry := by
  constructor
  · intro h
    obtain ⟨hPath, hBlocks⟩ := (exists_outcome_choice_iff hLenient).mp ⟨entry, h⟩
    exact ⟨hPath, hBlocks, saidByLast_of_choice h⟩
  · rintro ⟨hPath, hBlocks, hSaid⟩
    obtain ⟨entry', h⟩ := (exists_outcome_choice_iff hLenient).mpr ⟨hPath, hBlocks⟩
    rw [hSaid.eq (saidByLast_of_choice h), h]

/-- The first child that cannot be read is where an alternative stops, and its own weight comes
after all of them. -/
theorem outcome_choice_eq_error_iff {s : Stop} :
    (p.choice (p.depthBelow path) path e).outcome = .error s ↔
      (p.maxDepth ≤ path.length ∧
        s = .fault ⟨.tooDeep p.maxDepth, ⟨e.name, path ++ [e.name]⟩⟩) ∨
      path.length < p.maxDepth ∧
        ((∃ c, e.children.find? (fun c => !(p.readBlock (path ++ [e.name]) c).outcome.isOk) =
            some c ∧ (p.readBlock (path ++ [e.name]) c).outcome = .error s) ∨
          (∀ c ∈ e.children, ∃ b, (p.readBlock (path ++ [e.name]) c).outcome = .ok b) ∧
            named "weight" e.children = [] ∧
            (Attribute.positive "weight" (path ++ [e.name]) e).outcome = .error s) := by
  by_cases hPath : path.length < p.maxDepth
  · rw [outcome_choice_of_lt hPath, Reading.outcome_bind_eq_error_iff, Reading.each_eq_error_iff,
      ← Reading.exists_each_iff]
    simp only [hPath, Nat.not_le.mpr hPath, false_and, true_and, false_or]
    refine or_congr_right ⟨?_, ?_⟩
    · rintro ⟨found, hEach, hFinish⟩
      exact ⟨⟨found, hEach⟩, (finish_eq_error_iff (Reading.each_eq_ok_iff.mp hEach)).mp hFinish⟩
    · rintro ⟨⟨found, hEach⟩, hWeight⟩
      exact ⟨found, hEach, (finish_eq_error_iff (Reading.each_eq_ok_iff.mp hEach)).mpr hWeight⟩
  · rw [choice_of_le (Nat.le_of_not_lt hPath)]
    simp [tooDeep, enter, Reading.fault, Reading.stop, hPath, Nat.le_of_not_lt hPath, eq_comm]

section Reordered

variable {children : List Element} (hNamed : ∀ name, named name children = named name e.children)

include hNamed

/-- Every block is still read where they stand in another order. -/
theorem BlocksRead.reorder (h : BlocksRead p here e) : BlocksRead p here { e with children } := by
  obtain ⟨hWeights, hModifiers, hRequirements, hInline⟩ := h
  rw [← hNamed] at hWeights hModifiers hRequirements hInline
  exact ⟨hWeights, hModifiers, hRequirements, hInline⟩

/-- The last blocks are the same where blocks of one name keep their order. -/
theorem SaidByLast.reorder (h : SaidByLast p here e entry) :
    SaidByLast p here { e with children } entry := by
  obtain ⟨hWeight, hModifiers, hRequirements⟩ := h
  rw [← hNamed] at hWeight hModifiers hRequirements
  refine ⟨?_, hModifiers, hRequirements⟩
  show Weighs ((named "weight" children).getLast?.getD { e with children }) entry.weight
  cases hLast : (named "weight" children).getLast? with
  | none =>
      rw [hLast] at hWeight
      exact hWeight
  | some c =>
      rw [hLast] at hWeight
      exact hWeight

/-- An entry stays what it is where blocks of different names change places. -/
theorem outcome_choice_reorder (hLenient : p.strict = false)
    (h : (p.choice (p.depthBelow path) path e).outcome = .ok entry) :
    (p.choice (p.depthBelow path) path { e with children }).outcome = .ok entry := by
  obtain ⟨hPath, hBlocks, hSaid⟩ := (outcome_choice_eq_ok_iff hLenient).mp h
  exact (outcome_choice_eq_ok_iff hLenient).mpr
    ⟨hPath, hBlocks.reorder hNamed, hSaid.reorder hNamed⟩

end Reordered

/-- Beside a block that holds a weight, nothing is asked of the alternative itself but its name. -/
theorem choice_eq_of_weight (hWeight : named "weight" e.children ≠ [])
    (attributes : List (String × String)) :
    p.choice (p.depthBelow path) path { e with attributes } =
      p.choice (p.depthBelow path) path e := by
  by_cases hPath : path.length < p.maxDepth
  · rw [choice_eq hPath, choice_eq hPath]
    cases hEach : (Reading.each (p.readBlock (path ++ [e.name])) e.children).outcome with
    | error s => simp [Reading.bind_of_error hEach]
    | ok found =>
        have hLast := forall₂_getLast? (forall₂_weights (Reading.each_eq_ok_iff.mp hEach))
        have hNamed := List.getLast?_eq_none_iff.not.mpr hWeight
        simp only [Reading.bind_of_ok hEach, Blocks.finish, Blocks.weightFor,
          Blocks.weight_foldl_put]
        generalize (named "weight" e.children).getLast? = last at hLast hNamed
        generalize (found.filterMap Block.weight?).getLast? = value at hLast
        cases hLast with
        | none => exact absurd rfl hNamed
        | some _ => rfl
  · rw [choice_of_le (Nat.le_of_not_lt hPath), choice_of_le (Nat.le_of_not_lt hPath)]
    rfl

end Entry

/-- How an alternative is read by the blocks that stand in it. -/
structure ReadsByBlocks (p : Parser) (path : Path) (e : Element) : Prop where
  /-- There is an entry where the alternative can be entered and everything in it can be read. -/
  exists_iff : (∃ entry, (p.choice (p.depthBelow path) path e).outcome = .ok entry) ↔
    path.length < p.maxDepth ∧ BlocksRead p (path ++ [e.name]) e
  /-- The last block of each name counts. -/
  said (entry : Choice) : (p.choice (p.depthBelow path) path e).outcome = .ok entry →
    SaidByLast p (path ++ [e.name]) e entry
  /-- The children may be put into any order that leaves those of one name in theirs. -/
  reordered (children : List Element) :
    (∀ name, named name children = named name e.children) → ∀ entry,
      (p.choice (p.depthBelow path) path { e with children }).outcome = .ok entry ↔
        (p.choice (p.depthBelow path) path e).outcome = .ok entry
  /-- Beside a block that holds a weight, the attributes of the alternative are never read. -/
  unread (attributes : List (String × String)) : named "weight" e.children ≠ [] →
    p.choice (p.depthBelow path) path { e with attributes } =
      p.choice (p.depthBelow path) path e
  /-- The first child that cannot be read is where the alternative stops, and its own weight comes
  after all of them. -/
  stops (s : Stop) : (p.choice (p.depthBelow path) path e).outcome = .error s ↔
    (p.maxDepth ≤ path.length ∧
      s = .fault ⟨.tooDeep p.maxDepth, ⟨e.name, path ++ [e.name]⟩⟩) ∨
    path.length < p.maxDepth ∧
      ((∃ c, e.children.find? (fun c => !(p.readBlock (path ++ [e.name]) c).outcome.isOk) =
          some c ∧ (p.readBlock (path ++ [e.name]) c).outcome = .error s) ∨
        (∀ c ∈ e.children, ∃ b, (p.readBlock (path ++ [e.name]) c).outcome = .ok b) ∧
          named "weight" e.children = [] ∧
          (Attribute.positive "weight" (path ++ [e.name]) e).outcome = .error s)

/-- A lenient parser reads every alternative by its blocks, in whatever order they stand. -/
theorem readsByBlocks_choice (p : Parser) (path : Path) (e : Element) :
    ReadsByBlocks p.leniently path e where
  exists_iff := exists_outcome_choice_iff rfl
  said _ h := saidByLast_of_choice h
  reordered children hNamed entry := by
    constructor
    · intro h
      obtain ⟨name, attributes, former⟩ := e
      exact outcome_choice_reorder (fun name => (hNamed name).symm) rfl h
    · intro h
      exact outcome_choice_reorder hNamed rfl h
  unread attributes hWeight := choice_eq_of_weight hWeight attributes
  stops _ := outcome_choice_eq_error_iff

/-- Two blocks hold a weight, so that of the alternative itself does not have to be one. -/
example : (standard.choice standard.maxDepth [] ⟨"choice", [("weight", "heavy")],
    [⟨"weight", [("weight", "2")], []⟩, ⟨"modifier", [], []⟩, ⟨"weight", [("weight", "3")], []⟩]⟩
      ).outcome = .ok ⟨3, [], []⟩ := rfl

end Parser

end Bounty
