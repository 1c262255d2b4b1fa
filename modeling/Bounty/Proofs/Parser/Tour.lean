import Bounty.Proofs.Parser.Contract
import Bounty.Proofs.Parser.Depth
import Bounty.Proofs.Parser.Strict
import Bounty.Proofs.Parser.Walk

/-! The steps of a lenient reading. They are known before it: where the reading has a value, they
are those of a walk through the document, and what it reports are the children without meaning that
this walk meets. -/
namespace Bounty

variable {α : Type}

namespace Parser

/-- The lookup of the kind of an element that is read in a role. -/
def asks (role : Role) (here : Path) : List Step :=
  match role with
  | .modifier => [.modifier here]
  | .requirement => [.requirement here]
  | _ => []

/-- The steps of a reading. -/
abbrev tour (p : Parser) : Role → Path → Element → List Step :=
  p.walk (fun role here _ => .entered here :: asks role here)
    fun child here => [.ignored child here]

/-- The steps of one pass through the children of an element. -/
abbrev tourAmong (p : Parser) : (String → Use) → Path → List Element → List Step :=
  p.walkAmong (fun role here _ => .entered here :: asks role here)
    fun child here => [.ignored child here]

section Tour

variable {p : Parser} {here path : Path} {e : Element} {es : List Element} {steps : List Step}

/-- Only a conditional is gone through more than once. -/
theorem passes_of_ne_modifier (p : Parser) (role : Role) (h : role ≠ .modifier) (parent : String) :
    p.passes role parent = [p.use role parent] := by
  cases role <;> first | rfl | exact absurd rfl h

/-- Modifiers of all other kinds are gone through once. -/
theorem passes_modifier {kind : ModifierKind} (hKind : p.modifierTable.lookup e.name = some kind)
    (hOther : kind ≠ .ifThenElse) : p.passes .modifier e.name = [kind.use] := by
  have hUse : p.use .modifier e.name = kind.use := funext (use_modifier hKind)
  rw [← hUse]
  cases kind with
  | ifThenElse => exact absurd rfl hOther
  | _ => simp [passes, hKind]

/-- The steps for an element all of whose children are gone through once. -/
theorem tour_eq_of_passes {role : Role} {use : String → Use} (h : p.passes role e.name = [use]) :
    p.tour role path e = .entered (path ++ [e.name]) :: (asks role (path ++ [e.name]) ++
      p.tourAmong use (path ++ [e.name]) e.children) := by
  rw [tour, walk_eq, h, List.flatMap_singleton, List.cons_append]

/-- An element that does not look at its children takes its own steps alone. -/
theorem tour_of_unread {role : Role} {use : String → Use} (h : p.passes role e.name = [use])
    (hUse : ∀ child, use child = .unread) :
    p.tour role path e = .entered (path ++ [e.name]) :: asks role (path ++ [e.name]) := by
  rw [tour_eq_of_passes h, tourAmong, walkAmong_unread fun c _ => hUse c.name, List.append_nil]

/-- The first pass of a conditional meets the children that are no branches. -/
theorem tourAmong_skipped (here : Path) (es : List Element) :
    p.tourAmong (fun child => if child ∈ branchNames then .unread else .stray) here es =
      skipped here es := by
  induction es with
  | nil => rw [tourAmong, walkAmong, skipped, List.filter_nil, List.map_nil]
  | cons c rest ih =>
      rw [tourAmong, walkAmong_cons]
      by_cases hBranch : c.name ∈ branchNames
      · rw [walkAmong_unread (by simp [hBranch]), skipped_cons_of_mem hBranch, List.nil_append]
        exact ih
      · rw [walkAmong_stray (by simp [hBranch]), skipped_cons_of_notMem hBranch]
        exact congrArg _ ih

/-- A conditional with one branch of each name. -/
theorem tour_conditional (hKind : p.modifierTable.lookup e.name = some .ifThenElse)
    {found : Branches Element} (hAmong : found.Among e.children) :
    p.tour .modifier path e = .entered (path ++ [e.name]) :: .modifier (path ++ [e.name]) ::
      (skipped (path ++ [e.name]) e.children ++
        (p.tour .requirements (path ++ [e.name]) found.condition ++
          (p.tour .modifiers (path ++ [e.name]) found.thenBranch ++
            p.tour .modifiers (path ++ [e.name]) found.elseBranch))) := by
  have hCondition : ModifierKind.ifThenElse.use found.condition.name = .part .requirements := by
    simp [(mem_of_named_eq hAmong.condition).2, ModifierKind.use]
  have hThen : ModifierKind.ifThenElse.use found.thenBranch.name = .part .modifiers := by
    simp [(mem_of_named_eq hAmong.thenBranch).2, ModifierKind.use]
  have hElse : ModifierKind.ifThenElse.use found.elseBranch.name = .part .modifiers := by
    simp [(mem_of_named_eq hAmong.elseBranch).2, ModifierKind.use]
  rw [tour, walk_eq]
  simp only [passes, hKind, branchNames, List.map_cons, List.map_nil, List.flatMap_cons,
    List.flatMap_nil, walkAmong_named, hAmong.condition, hAmong.thenBranch, hAmong.elseBranch,
    List.append_nil]
  rw [walkAmong_part hCondition, walkAmong_part hThen, walkAmong_part hElse, ← tourAmong_skipped]
  rfl

/-- Members of a list are gone through one by one, and so are all children that are parts. -/
theorem tour_each {part : Role} {use : String → Use} {as : List part.Value}
    (hUse : ∀ child, use child = .part part)
    (h : Each (fun c _ steps => steps = p.tour part here c) es as steps) :
    steps = p.tourAmong use here es := by
  induction h with
  | nil => rw [tourAmong, walkAmong]
  | @cons c _ _ _ _ _ hFirst _ ih =>
      rw [tourAmong, walkAmong_cons, walkAmong_part (hUse c.name), hFirst, ih]

/-- Alternatives and the children between them are met in one pass. -/
theorem tour_alternatives {as : List Choice}
    (h : Alternatives (fun c _ steps => steps = p.tour .choice here c) here es as steps) :
    steps = p.tourAmong ModifierKind.randomChoice.use here es := by
  induction h with
  | nil => rw [tourAmong, walkAmong]
  | choice hName hFirst _ ih =>
      rw [tourAmong, walkAmong_cons, walkAmong_part (if_pos hName), hFirst, ih]
  | stray hName _ ih =>
      rw [tourAmong, walkAmong_cons, walkAmong_stray (if_neg hName), ih]
      rfl

/-- Blocks are met in the order in which they stand, the replaced ones included. -/
theorem tour_fills {blocks last : Blocks}
    (h : Fills (fun part c _ steps => steps = p.tour part here c) here blocks es last steps) :
    steps = p.tourAmong blockUse here es := by
  have hPart {c : Element} {part : Role} {own : List Step} (hUse : blockUse c.name = .part part)
      (hOwn : own = p.tour part here c) : own = p.tourAmong blockUse here [c] := by
    rw [hOwn, tourAmong, walkAmong_part hUse]
  induction h with
  | nil => rw [tourAmong, walkAmong]
  | weight hName hOwn _ ih =>
      rw [tourAmong, walkAmong_cons, hPart (by simp [blockUse, hName]) hOwn, ih]
  | modifiers hName hOwn _ ih =>
      rw [tourAmong, walkAmong_cons, hPart (by simp [blockUse, hName]) hOwn, ih]
  | requirements hName hOwn _ ih =>
      rw [tourAmong, walkAmong_cons, hPart (by simp [blockUse, hName]) hOwn, ih]
  | stray hUse _ ih =>
      rw [tourAmong, walkAmong_cons, walkAmong_stray hUse, ih]
      rfl

end Tour

/-- Whatever is read is gone through as the walk goes. -/
theorem tour_contract (p : Parser) :
    p.Contract (fun _ _ _ _ => True) (fun role _ path e _ steps => steps = p.tour role path e)
      fun _ => True where
  tooDeep _ := trivial
  admits _ := admits_true ..
  stray _ _ _ _ := trivial
  below _ _ _ := trivial
  grant _ hKind hAtomic _ :=
    (tour_of_unread (passes_modifier hKind hAtomic.1) hAtomic.use_eq).symm
  conditional _ hKind hAmong hCondition hThen hElse := by
    rw [tour_conditional hKind hAmong, hCondition, hThen, hElse]
  randomChoice _ hKind hAll := by
    rw [tour_eq_of_passes (passes_modifier hKind nofun), tour_alternatives hAll]
    rfl
  modifiers _ hEach := by
    rw [tour_eq_of_passes (p.passes_of_ne_modifier .modifiers nofun _),
      tour_each (fun _ => rfl) hEach]
    rfl
  choice _ hFills _ := by
    rw [tour_eq_of_passes (p.passes_of_ne_modifier .choice nofun _), tour_fills hFills]
    rfl
  weight _ _ := (tour_of_unread (p.passes_of_ne_modifier .weight nofun _) fun _ => rfl).symm
  check _ hKind hAtomic _ := by
    have hUse := use_requirement hKind
    exact (tour_of_unread (p.passes_of_ne_modifier .requirement nofun _) fun child =>
      (hUse child).trans hAtomic.use_eq).symm
  conjunction _ hKind hEach := by
    rw [tour_eq_of_passes (p.passes_of_ne_modifier .requirement nofun _),
      tour_each (use_requirement hKind) hEach]
    rfl
  requirements _ hEach := by
    rw [tour_eq_of_passes (p.passes_of_ne_modifier .requirements nofun _),
      tour_each (fun _ => rfl) hEach]
    rfl

/-- The steps of a reading that has a value. -/
theorem steps_read (p : Parser) (entry : EntryPoint α) {e : Element} {path : Path} {a : α}
    (h : (p.read entry e path).outcome = .ok a) :
    (p.read entry e path).steps = p.tour entry.role path e :=
  (p.tour_contract.read_meets entry trivial).of_ok h

/-- A walk picks the children without meaning out of the steps of a reading. -/
theorem filterMap_ignored?_tour (p : Parser) (role : Role) (path : Path) (e : Element) :
    (p.tour role path e).filterMap Step.ignored? = p.strays role path e := by
  rw [tour, filterMap_walk, strays]
  congr 1
  funext role here e
  cases role <;> rfl

/-- The steps into elements are the visits of the walk. -/
theorem filterMap_entered?_tour (p : Parser) (role : Role) (path : Path) (e : Element) :
    (p.tour role path e).filterMap Step.entered? = (p.visits role path e).map Visit.here := by
  rw [tour, filterMap_walk, visits, ← List.filterMap_eq_map, filterMap_walk]
  congr 1
  funext role here e
  cases role <;> rfl

/-- What a reading reports of a document. -/
structure ReportsStrays (p : Parser) (role : Role) (path : Path) (document : Element)
    (r : Reading α) : Prop where
  /-- A trace gets a line about each child without meaning, in the order of the walk, and no line
  besides. -/
  reported (trace : Option Trace) : r.attached trace = (r.outcome, trace.map
    (· ++ (p.strays role path document).map fun (child, parent) => ignoredLine child parent))
  /-- The elements are entered in the order of the walk. -/
  entered : r.visited = (p.visits role path document).map Visit.here
  /-- The walk goes into the elements that are read, and into no others. -/
  reached (part : Role) (here : Path) (e : Element) :
    ⟨part, here, e⟩ ∈ p.visits role path document ↔ p.Reached role path document part here e
  /-- Every child without meaning of an element that is gone into is reported once, by its name and
  the path of this element. -/
  once : (p.strays role path document).Perm
    ((p.visits role path document).flatMap p.strayChildren)

/-- A lenient reading that has a value reports every child without meaning. -/
theorem reportsStrays_of_read {p : Parser} (_hLenient : p.strict = false) (entry : EntryPoint α)
    (document : Element) (path : Path) {a : α}
    (hRead : (p.read entry document path).outcome = .ok a) :
    ReportsStrays p entry.role path document (p.read entry document path) := by
  have hSteps := p.steps_read entry hRead
  refine ⟨fun trace => ?_, ?_, fun _ _ _ => mem_visits_iff_reached, p.strays_perm ..⟩
  · rw [Reading.attached_eq, Reading.notes_eq_map_ignored, Reading.ignored, hSteps,
      filterMap_ignored?_tour]
  · rw [Reading.visited, hSteps, filterMap_entered?_tour]

/-- The branches of a conditional stand the other way round, with a child without meaning behind
each; of the random choice in one of them, the first alternative holds another. -/
theorem reportsStrays_conditional :
    let note (name : String) : Element := ⟨name, [], [⟨"choice", [], []⟩]⟩
    let grant : Element := ⟨"grant_xp", [("value", "1")], [note "a"]⟩
    let alternative : Element :=
      ⟨"choice", [("weight", "1")], [note "b", ⟨"modifier", [], [grant]⟩]⟩
    let document : Element := ⟨"if_then_else", [],
      [⟨"else", [], [grant]⟩, note "c", ⟨"then", [], [⟨"random_choice", [],
        [note "d", alternative, note "e"]⟩]⟩, note "f", ⟨"if", [], []⟩]⟩
    let here : Path := ["if_then_else"]
    let choice : Path := ["if_then_else", "then", "random_choice"]
    standard.strict = false ∧
    (standard.read .modifier document).outcome = .ok (.ifThenElse []
      [.randomChoice [⟨1, [.grantXp 1], []⟩]] [.grantXp 1]) ∧
    ReportsStrays standard .modifier [] document (standard.read .modifier document) ∧
    standard.strays .modifier [] document =
      [("c", here), ("f", here), ("d", choice), ("b", choice ++ ["choice"]), ("e", choice)] := by
  intro note grant alternative document here choice
  have hRead : (standard.read .modifier document).outcome = .ok (.ifThenElse []
      [.randomChoice [⟨1, [.grantXp 1], []⟩]] [.grantXp 1]) :=
    rfl
  exact ⟨rfl, hRead, reportsStrays_of_read rfl .modifier document [] hRead, by decide +kernel⟩

end Parser

end Bounty
