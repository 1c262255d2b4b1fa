import Bounty.Proofs.Parser.Conservation
import Bounty.Proofs.Replay

/-! Parsers that know only some kinds. Such a parser takes the steps of the one that knows all kinds
up to the first lookup of a name that is not among its own, and stops there. -/
namespace Bounty

variable {α : Type} {ks : List ModifierKind} {ls : List RequirementKind}

section Table

variable {κ : Type} {name : κ → String} {kinds : List κ} {key : String}

/-- In a table of kinds under their own names, a kind is found by its name. -/
theorem lookup_named (name : κ → String) (kinds : List κ) (key : String) :
    (kinds.map fun kind => (name kind, kind)).lookup key = kinds.find? (name · == key) := by
  induction kinds with
  | nil => rfl
  | cons kind rest ih => rw [List.map_cons, List.lookup_cons, List.find?_cons, ih, BEq.comm]

/-- A kind that is found is one of the table and stands under its own name. -/
theorem lookup_named_eq_some {kind : κ}
    (h : (kinds.map fun kind => (name kind, kind)).lookup key = some kind) :
    kind ∈ kinds ∧ name kind = key := by
  rw [lookup_named] at h
  exact ⟨List.mem_of_find?_eq_some h, by simpa using List.find?_some h⟩

/-- A name that is not found is none of the table. -/
theorem lookup_named_eq_none
    (h : (kinds.map fun kind => (name kind, kind)).lookup key = none) :
    key ∉ kinds.map name := by
  rw [lookup_named, List.find?_eq_none] at h
  intro hMem
  obtain ⟨kind, hKind, hName⟩ := List.mem_map.mp hMem
  exact h kind hKind (by simp [hName])

end Table

/-- Among all kinds no two have one name, so each is found. -/
theorem ModifierKind.lookup_tableOf_all (kind : ModifierKind) :
    (tableOf all).lookup kind.name = some kind := by
  cases kind <;> rfl

/-- The kinds of requirements have different names, too. -/
theorem RequirementKind.lookup_tableOf_all (kind : RequirementKind) :
    (tableOf all).lookup kind.name = some kind := by
  cases kind <;> rfl

/-- The fault of a lookup that finds nothing among some kinds. The name that is looked up is the
last one of the path. -/
def Step.refusal? (ks : List ModifierKind) (ls : List RequirementKind) : Step → Option Fault
  | .modifier here =>
    let name := here.getLastD ""
    if name ∈ ks.map (·.name) then none else some ⟨.unknownModifier name, ⟨name, here⟩⟩
  | .requirement here =>
    let name := here.getLastD ""
    if name ∈ ls.map (·.name) then none else some ⟨.unknownRequirement name, ⟨name, here⟩⟩
  | .entered _ | .ignored .. => none

theorem Step.refusal?_modifier (path : Path) (name : String) :
    (Step.modifier (path ++ [name])).refusal? ks ls =
      if name ∈ ks.map (·.name) then none
      else some ⟨.unknownModifier name, ⟨name, path ++ [name]⟩⟩ := by
  rw [refusal?, List.getLastD_concat]

theorem Step.refusal?_requirement (path : Path) (name : String) :
    (Step.requirement (path ++ [name])).refusal? ks ls =
      if name ∈ ls.map (·.name) then none
      else some ⟨.unknownRequirement name, ⟨name, path ++ [name]⟩⟩ := by
  rw [refusal?, List.getLastD_concat]

/-- What a parser that knows only some kinds makes of a step: a lookup that finds nothing is
recorded still, but is a fault. -/
def Step.restricted (ks : List ModifierKind) (ls : List RequirementKind) (s : Step) :
    Reading Unit :=
  match s.refusal? ks ls with
  | none => .step s
  | some fault => ⟨[s], .error (.fault fault)⟩

/-- A step that is not refused is taken as before. -/
theorem Step.restricted_eq_step {s : Step} (h : s.refusal? ks ls = none) :
    s.restricted ks ls = .step s := by
  rw [restricted, h]

/-- A lookup that is refused is recorded and then a fault. -/
theorem Step.restricted_of_refusal {s : Step} {fault : Fault} (h : s.refusal? ks ls = some fault) :
    s.restricted ks ls = ⟨[s], .error (.fault fault)⟩ := by
  rw [restricted, h]

namespace Reading

/-- A reading in which nothing is refused is the same under the restriction. -/
theorem replay_restricted_eq_self {r : Reading α} (h : ∀ s ∈ r.steps, s.refusal? ks ls = none) :
    r.replay (Step.restricted ks ls) = r := by
  apply replay_eq_self
  intro s hs
  exact Step.restricted_eq_step (h s hs)

/-- How a lookup ends, by what has been found. -/
def found {κ : Type} (fault : Fault) : Option κ → Reading κ
  | some kind => pure kind
  | none => stop (.fault fault)

/-- Looking up one of some kinds among all comes to the same as looking it up among those. -/
theorem replay_found {κ : Type} {s : Step} {fault : Fault} {all own : Option κ}
    (hKnown : ∀ kind, own = some kind → all = some kind ∧ s.refusal? ks ls = none)
    (hUnknown : own = none → s.refusal? ks ls = some fault) :
    (step s >>= fun _ => found fault all).replay (Step.restricted ks ls) =
      step s >>= fun _ => found fault own := by
  rw [replay_step_bind]
  cases own with
  | some kind =>
      obtain ⟨hAll, hRefusal⟩ := hKnown kind rfl
      rw [hAll, Step.restricted_eq_step hRefusal]
      rfl
  | none =>
      rw [Step.restricted_of_refusal (hUnknown rfl), bind_of_error rfl]
      rfl

/-- The first lookup that finds nothing decides, whatever comes after it. -/
theorem outcome_replay_restricted {r : Reading α} {fault : Fault}
    (h : r.steps.findSome? (Step.refusal? ks ls) = some fault) :
    (r.replay (Step.restricted ks ls)).outcome = .error (.fault fault) := by
  obtain ⟨before, s, after, hSteps, hFault, hBefore⟩ := List.findSome?_eq_some_iff.mp h
  rw [replay_of_first hSteps (fun t ht => Step.restricted_eq_step (hBefore t ht))
    (Step.restricted_of_refusal hFault)]

end Reading

namespace Parser

/-- The same parser with some kinds, each under its own name. -/
def withKinds (p : Parser) (ks : List ModifierKind) (ls : List RequirementKind) : Parser :=
  { p with
    modifierTable := ModifierKind.tableOf ks
    requirementTable := RequirementKind.tableOf ls }

/-- The lookup of a requirement as a step and what is found after it. -/
theorem requirementKind_eq (p : Parser) (here : Path) (e : Element) :
    p.requirementKind here e = .step (.requirement here) >>= fun _ =>
      .found ⟨.unknownRequirement e.name, ⟨e.name, here⟩⟩ (p.requirementTable.lookup e.name) := by
  unfold requirementKind
  cases p.requirementTable.lookup e.name <;> rfl

/-- The lookup of a modifier as a step and what is found after it. -/
theorem modifierKind_eq (p : Parser) (here : Path) (e : Element) :
    p.modifierKind here e = .step (.modifier here) >>= fun _ =>
      .found ⟨.unknownModifier e.name, ⟨e.name, here⟩⟩ (p.modifierTable.lookup e.name) := by
  unfold modifierKind
  cases p.modifierTable.lookup e.name <;> rfl

/-- The parser with some kinds takes the steps of the one with all kinds, but stops at a name that
is not among its own. -/
theorem transfer_restricted (p : Parser) (ks : List ModifierKind) (ls : List RequirementKind) :
    Transfer (p.withKinds ModifierKind.all RequirementKind.all) (p.withKinds ks ls) 0 id
      fun _ full restricted => full.replay (Step.restricted ks ls) = restricted where
  toCongruence := Reading.congruence_replay _
  shift_append _ _ := rfl
  fault _ _ _ := rfl
  tooManyDigits _ := rfl
  entered _ _ _ := rfl
  tooDeep _ _ _ _ := rfl
  stray _ child := by
    apply Reading.replay_eq_self
    cases hStrict : p.strict <;>
      simp [stray, withKinds, hStrict, Reading.fault, Reading.stop, Reading.step, Step.restricted,
        Step.refusal?]
  requirementKind path e := by
    rw [requirementKind_eq, requirementKind_eq]
    apply Reading.replay_found
    · intro kind hLookup
      obtain ⟨hKind, hName⟩ := lookup_named_eq_some hLookup
      refine ⟨hName ▸ kind.lookup_tableOf_all, ?_⟩
      rw [Step.refusal?_requirement, if_pos (hName ▸ List.mem_map_of_mem hKind)]
    · intro hLookup
      rw [Step.refusal?_requirement, if_neg (lookup_named_eq_none hLookup)]
  modifierKind path e := by
    rw [modifierKind_eq, modifierKind_eq]
    apply Reading.replay_found
    · intro kind hLookup
      obtain ⟨hKind, hName⟩ := lookup_named_eq_some hLookup
      refine ⟨hName ▸ kind.lookup_tableOf_all, ?_⟩
      rw [Step.refusal?_modifier, if_pos (hName ▸ List.mem_map_of_mem hKind)]
    · intro hLookup
      rw [Step.refusal?_modifier, if_neg (lookup_named_eq_none hLookup)]

/-- For a whole document too, fewer kinds come to a replay of the reading with all of them. -/
theorem withKinds_read (p : Parser) (ks : List ModifierKind) (ls : List RequirementKind)
    (entry : EntryPoint α) (e : Element) (path : Path) :
    (p.withKinds ks ls).read entry e path =
      ((p.withKinds ModifierKind.all RequirementKind.all).read entry e path).replay
        (Step.restricted ks ls) := by
  by_cases hPath : path.length ≤ p.maxDepth
  · exact ((transfer_restricted p ks ls).read entry e path hPath rfl).symm
  · have hDeep : p.maxDepth ≤ path.length := by omega
    rw [(p.withKinds ks ls).read_eq_tooDeep entry e hDeep,
      (p.withKinds ModifierKind.all RequirementKind.all).read_eq_tooDeep entry e hDeep]
    rfl

/-- What is read of an element is of the kind that the table has for its name. -/
def Looked (p : Parser) : (role : Role) → String → role.Value → Prop
  | .modifier, name, m => p.modifierTable.lookup name = some m.kind
  | .requirement, name, r => p.requirementTable.lookup name = some r.kind
  | .modifiers, _, _ | .choice, _, _ | .weight, _, _ | .requirements, _, _ => True

/-- Parts are looked up by themselves, so nothing follows for lists and alternatives. -/
theorem looked_contract (p : Parser) :
    p.Contract (fun _ _ _ _ => True) (fun role _ _ e a _ => p.Looked role e.name a)
      fun _ => True where
  tooDeep _ := trivial
  admits _ := admits_true ..
  stray _ _ _ _ := trivial
  below _ _ _ := trivial
  grant _ hKind _ _ := hKind
  conditional _ hKind _ _ _ _ := hKind
  randomChoice _ hKind _ := hKind
  modifiers _ _ := trivial
  choice _ _ _ := trivial
  weight _ _ := trivial
  check _ hKind _ _ := hKind
  conjunction _ hKind _ := hKind
  requirements _ _ := trivial

/-- A modifier is of the kind that stands for the name of its element. -/
theorem lookup_of_readModifier {p : Parser} {e : Element} {path : Path} {m : Modifier}
    (h : (p.readModifier e path).outcome = .ok m) :
    p.modifierTable.lookup e.name = some m.kind :=
  (p.looked_contract.read_meets .modifier trivial).of_ok h

/-- A requirement is of the kind that stands for the name of its element. -/
theorem lookup_of_readRequirement {p : Parser} {e : Element} {path : Path} {r : Requirement}
    (h : (p.readRequirement e path).outcome = .ok r) :
    p.requirementTable.lookup e.name = some r.kind :=
  (p.looked_contract.read_meets .requirement trivial).of_ok h

end Parser

/-- A rule of one of some kinds. -/
def Rule.IsOf (ks : List ModifierKind) (ls : List RequirementKind) : Rule → Prop
  | .modifier m => m.kind ∈ ks
  | .requirement r => r.kind ∈ ls

namespace Parser

/-- A parser that knows only some kinds reads no rules but of these, however deep they stand. -/
theorem isOf_of_withKinds_read (p : Parser) {entry : EntryPoint α} {e : Element} {path : Path}
    {a : α} (h : ((p.withKinds ks ls).read entry e path).outcome = .ok a) :
    ∀ rule ∈ entry.rules a, rule.IsOf ks ls := by
  intro rule hRule
  have hCalls := ((p.withKinds ks ls).tells_read entry e path h).1
  have hMem : .ok rule ∈ (entry.rules a).map (Except.ok : Rule → Except Stop Rule) :=
    List.mem_map_of_mem hRule
  rw [hCalls] at hMem
  obtain ⟨call, -, hOutcome⟩ := List.mem_map.mp hMem
  cases call with
  | modifier path e =>
      obtain ⟨m, hRead, rfl⟩ := exists_of_ok_eq_map hOutcome.symm
      exact (lookup_named_eq_some (lookup_of_readModifier hRead)).1
  | requirement path e =>
      obtain ⟨r, hRead, rfl⟩ := exists_of_ok_eq_map hOutcome.symm
      exact (lookup_named_eq_some (lookup_of_readRequirement hRead)).1

/-- The reading of a document by a parser that knows only some kinds, told by the reading of one
that knows all. -/
structure FilteredReads (ks : List ModifierKind) (ls : List RequirementKind)
    (rules : α → List Rule) (full restricted : Reading α) : Prop where
  /-- What is read with some kinds is read with all, in the same steps, and all of it is of those
  kinds. -/
  sound (a : α) : restricted.outcome = .ok a →
    full = restricted ∧ ∀ rule ∈ rules a, rule.IsOf ks ls
  /-- What is read with all kinds is read with some where every name that is looked up is one of
  theirs. -/
  accepted (a : α) : full.outcome = .ok a →
    (restricted.outcome = .ok a ↔ ∀ s ∈ full.steps, s.refusal? ks ls = none)
  /-- Else the first name that is looked up and is not one of theirs is the fault. -/
  refused : (¬ ∀ s ∈ full.steps, s.refusal? ks ls = none) →
    ∃ fault, full.steps.findSome? (Step.refusal? ks ls) = some fault ∧
      restricted.outcome = .error (.fault fault)
  /-- What is not read with all kinds is not read with some. -/
  stopped (s : Stop) : full.outcome = .error s → ∃ t, restricted.outcome = .error t

/-- A replay under the restriction is either the reading itself or a stop at the first name that is
refused. -/
theorem filteredReads_replay {rules : α → List Rule} {full : Reading α}
    (hRules : ∀ a, (full.replay (Step.restricted ks ls)).outcome = .ok a →
      ∀ rule ∈ rules a, rule.IsOf ks ls) :
    FilteredReads ks ls rules full (full.replay (Step.restricted ks ls)) := by
  have hRefused (h : ¬ ∀ s ∈ full.steps, s.refusal? ks ls = none) :
      ∃ fault, full.steps.findSome? (Step.refusal? ks ls) = some fault ∧
        (full.replay (Step.restricted ks ls)).outcome = .error (.fault fault) := by
    cases hFirst : full.steps.findSome? (Step.refusal? ks ls) with
    | none => exact absurd (List.findSome?_eq_none_iff.mp hFirst) h
    | some fault => exact ⟨fault, rfl, Reading.outcome_replay_restricted hFirst⟩
  by_cases hAll : ∀ s ∈ full.steps, s.refusal? ks ls = none
  · rw [Reading.replay_restricted_eq_self hAll] at hRules ⊢
    exact ⟨fun a h => ⟨rfl, hRules a h⟩, fun a h => ⟨fun _ => hAll, fun _ => h⟩,
      fun h => absurd hAll h, fun s h => ⟨s, h⟩⟩
  · obtain ⟨fault, -, hFault⟩ := hRefused hAll
    have hNever (a : α) : (full.replay (Step.restricted ks ls)).outcome ≠ .ok a := by
      simp [hFault]
    exact ⟨fun a h => absurd h (hNever a),
      fun a _ => ⟨fun h => absurd h (hNever a), fun h => absurd h hAll⟩, hRefused,
      fun _ _ => ⟨_, hFault⟩⟩

/-- Parsers that are made with the same limit and strictness differ in their kinds alone. -/
theorem create_withKinds {limit : Int} {strict : Bool} (hModifiers : ks ≠ [])
    (hRequirements : ls ≠ []) {full restricted : Parser}
    (hFull : create limit strict [] [] = .ok full)
    (hRestricted : create limit strict ks ls = .ok restricted) :
    full = full.withKinds ModifierKind.all RequirementKind.all ∧
      restricted = full.withKinds ks ls := by
  have hSome : ks.isEmpty = false := List.isEmpty_eq_false_iff.mpr hModifiers
  have hOther : ls.isEmpty = false := List.isEmpty_eq_false_iff.mpr hRequirements
  unfold create at hFull hRestricted
  rw [hSome, hOther] at hRestricted
  split at hFull
  · cases hFull
  · next hLow =>
    split at hFull
    · cases hFull
    · next hHigh =>
      rw [if_neg hLow, if_neg hHigh] at hRestricted
      cases hFull
      cases hRestricted
      exact ⟨rfl, rfl⟩

/-- A parser that knows only some kinds is a filter: it reads what the one that knows all kinds
reads with those alone, and nothing else. -/
theorem filteredReads_read {limit : Int} {strict : Bool} (hModifiers : ks ≠ [])
    (hRequirements : ls ≠ []) {full restricted : Parser}
    (hFull : create limit strict [] [] = .ok full)
    (hRestricted : create limit strict ks ls = .ok restricted)
    (entry : EntryPoint α) (e : Element) (path : Path) :
    FilteredReads ks ls entry.rules (full.read entry e path) (restricted.read entry e path) := by
  obtain ⟨hAll, rfl⟩ := create_withKinds hModifiers hRequirements hFull hRestricted
  have hRules (a : α) (h : ((full.withKinds ks ls).read entry e path).outcome = .ok a) :=
    full.isOf_of_withKinds_read h
  rw [withKinds_read, ← hAll] at hRules ⊢
  exact filteredReads_replay hRules

/-- A grant of an item in a choice, which is told where only grants of experience are known. -/
theorem filteredReads_grantItem :
    let e : Element := ⟨"random_choice", [], [⟨"choice", [("weight", "1")], [⟨"modifier", [],
      [⟨"grant_xp", [("value", "5")], []⟩, ⟨"grant_item", [("ikey", "sword")], []⟩]⟩]⟩]⟩
    let ks : List ModifierKind := [.randomChoice, .grantXp]
    let restricted := standard.withKinds ks [.level]
    ks ≠ [] ∧ [RequirementKind.level] ≠ [] ∧ create 64 false [] [] = .ok standard ∧
      create 64 false ks [.level] = .ok restricted ∧
      FilteredReads ks [.level] EntryPoint.modifier.rules (standard.read .modifier e)
        (restricted.read .modifier e) ∧
      (restricted.read .modifier e).outcome = .error (.fault ⟨.unknownModifier "grant_item",
        ⟨"grant_item", ["random_choice", "choice", "modifier", "grant_item"]⟩⟩) :=
  ⟨by decide, by decide, rfl, rfl,
    filteredReads_read (by decide) (by decide) (show create 64 false [] [] = .ok standard from rfl)
      rfl .modifier _ [], rfl⟩

end Parser

end Bounty
