import Bounty.Proofs.Parser.Edit
import Bounty.Proofs.Parser.Location

/-! Documents without children that have no meaning. To leave these out is an edit that a lenient
reading does not see, and what is left over is read in the same way by the strict parser. -/
namespace Bounty.Parser

mutual

/-- Leaves out the children that have no meaning, of the element and of all that is read below. -/
def tidy (p : Parser) (role : Role) : Element → Element
  | ⟨name, attributes, children⟩ => ⟨name, attributes, p.tidyAmong role name children⟩

def tidyAmong (p : Parser) (role : Role) (parent : String) : List Element → List Element
  | [] => []
  | c :: rest =>
    match p.use role parent c.name with
    | .part part => p.tidy part c :: p.tidyAmong role parent rest
    | .stray => p.tidyAmong role parent rest
    | .unread => c :: p.tidyAmong role parent rest

end

variable {p : Parser}

/-- Tidying keeps the name of an element. -/
theorem name_tidy (role : Role) (e : Element) : (p.tidy role e).name = e.name := by
  cases e
  rw [tidy]

/-- The children of a tidied element are the tidied ones that have a meaning. -/
theorem children_tidy (role : Role) (e : Element) :
    (p.tidy role e).children = p.tidyAmong role e.name e.children := by
  cases e
  rw [tidy]

mutual

/-- Strict or lenient makes no difference to what has a meaning. -/
theorem tidy_strictly (role : Role) : ∀ e, p.strictly.tidy role e = p.tidy role e
  | ⟨name, attributes, children⟩ => by
      rw [tidy, tidy, tidyAmong_strictly role name children]

/-- Strictness has no say in which children have a meaning. -/
theorem tidyAmong_strictly (role : Role) (parent : String) :
    ∀ cs, p.strictly.tidyAmong role parent cs = p.tidyAmong role parent cs
  | [] => by rw [tidyAmong, tidyAmong]
  | c :: rest => by
      have hUse : p.strictly.use role parent c.name = p.use role parent c.name := rfl
      rw [tidyAmong, tidyAmong, hUse, tidyAmong_strictly role parent rest]
      cases p.use role parent c.name with
      | part part => exact congrArg (· :: _) (tidy_strictly part c)
      | stray | unread => rfl

end

mutual

/-- To leave out what has no meaning is an edit that a lenient reading does not see. -/
theorem alike_tidy (reorders : Place → Prop) (role : Role) (path : Path) :
    ∀ e, Alike p reorders role path e (p.tidy role e)
  | ⟨name, attributes, children⟩ => by
      rw [tidy]
      exact .intro (edits_tidyAmong reorders role ⟨name, path ++ [name]⟩ children)

/-- Tidying is one of the changes that a lenient reading does not see. -/
theorem edits_tidyAmong (reorders : Place → Prop) (role : Role) (parent : Place) :
    ∀ cs, Edits p reorders (Alike p reorders) role parent cs
      (p.tidyAmong role parent.element cs)
  | [] => by
      rw [tidyAmong]
      exact .nil
  | c :: rest => by
      have hRest := edits_tidyAmong reorders role parent rest
      rw [tidyAmong]
      split
      · next part hPart => exact .keep hPart (alike_tidy reorders part parent.path c) hRest
      · next hStray => exact .delete (by simp [hStray]) hRest
      · next hUnread => exact .delete (by simp [hUnread]) (.insert (by simp [hUnread]) hRest)

end

/-- What is left among the children are those that are read, tidied in turn, and those that nobody
looks at. -/
theorem mem_tidyAmong {role : Role} {parent : String} {c : Element} {cs : List Element}
    (h : c ∈ p.tidyAmong role parent cs) :
    p.use role parent c.name = .unread ∨
    ∃ part before, p.use role parent c.name = .part part ∧ c = p.tidy part before := by
  induction cs with
  | nil => simp [tidyAmong] at h
  | cons first rest ih =>
      rw [tidyAmong] at h
      split at h
      · next part hPart =>
        rcases List.mem_cons.mp h with rfl | hRest
        · exact .inr ⟨part, first, by rwa [name_tidy], rfl⟩
        · exact ih hRest
      · exact ih h
      · next hUnread =>
        rcases List.mem_cons.mp h with rfl | hRest
        · exact .inl hUnread
        · exact ih hRest

/-- Every element that is read in a tidied document has been tidied itself. -/
theorem Reached.exists_tidy {start role : Role} {path here : Path} {document e : Element}
    (h : p.Reached start path (p.tidy start document) role here e) :
    ∃ before, e = p.tidy role before := by
  induction h with
  | root => exact ⟨document, rfl⟩
  | child _ hChild hPart ih =>
      obtain ⟨before, rfl⟩ := ih
      rw [children_tidy] at hChild
      rw [name_tidy] at hPart
      rcases mem_tidyAmong hChild with hUnread | ⟨other, c, hOther, rfl⟩
      · rw [hUnread] at hPart
        cases hPart
      · rw [hOther] at hPart
        cases hPart
        exact ⟨c, rfl⟩

/-- Nothing without meaning is found in a tidy document. -/
theorem Located.false_of_stray {start : Role} {path here : Path} {document v : Element}
    {child parent : String}
    (h : p.Located start path (p.tidy start document) (.strayChild child parent) here v) :
    False := by
  cases h with
  | shown _ hShows => exact hShows
  | stray _ hReached hChild hStray =>
      obtain ⟨before, rfl⟩ := hReached.exists_tidy
      rw [children_tidy] at hChild
      rw [name_tidy] at hStray
      rcases mem_tidyAmong hChild with hUnread | ⟨part, _, hPart, -⟩
      · rw [hUnread] at hStray
        cases hStray
      · rw [hPart] at hStray
        cases hStray

section Read

variable {α : Type}

/-- The strict parser stops at nothing in a tidy document that the lenient one passes over. -/
theorem outcome_strictly_read_tidy (p : Parser) (entry : EntryPoint α) (document : Element)
    (path : Path) :
    (p.strictly.read entry (p.tidy entry.role document) path).outcome =
      (p.leniently.read entry (p.tidy entry.role document) path).outcome := by
  have hStrict := p.strictly_read entry (p.tidy entry.role document) path
  by_cases hPath : path.length ≤ p.maxDepth
  · cases hIgnored : (p.leniently.read entry (p.tidy entry.role document) path).ignored with
    | nil => rw [hStrict, Reading.replay_refused_eq_self hIgnored]
    | cons first rest =>
        -- The strict parser would stop at the first of these, and it would stand in the document.
        have hOutcome := Reading.outcome_replay_refused hIgnored
        rw [← hStrict, ← tidy_strictly] at hOutcome
        obtain ⟨⟨v, hLocated, -⟩, -⟩ :=
          (p.strictly.read_accounts entry _ hPath).of_error hOutcome
        exact hLocated.false_of_stray.elim
  · have hDeep : p.maxDepth ≤ path.length := by omega
    rw [p.leniently.read_eq_tooDeep entry _ hDeep, p.strictly.read_eq_tooDeep entry _ hDeep]
    rfl

/-- Edits that a lenient reading does not see leave its value, or its stop, as it was, except that
another of several repeated branches may be told of a conditional that is reordered. Where all that
has no meaning is left out, the strict parser ends as the lenient one does on the whole document. -/
theorem outcome_read_of_alike (p : Parser) (hLenient : p.strict = false) (entry : EntryPoint α)
    (document : Element) (path : Path) :
    (∀ reorders document', Alike p reorders entry.role path document document' →
      (p.read entry document path).outcome = (p.read entry document' path).outcome ∨
      ∃ first second place, reorders place ∧
        (p.read entry document path).outcome = .error (.fault ⟨.duplicateBranch first, place⟩) ∧
        (p.read entry document' path).outcome =
          .error (.fault ⟨.duplicateBranch second, place⟩)) ∧
    (p.strictly.read entry (p.tidy entry.role document) path).outcome =
      (p.read entry document path).outcome := by
  have hRead (reorders : Place → Prop) (document' : Element)
      (h : Alike p reorders entry.role path document document') :=
    (h.same_read hLenient entry).outcome_cases
  refine ⟨hRead, ?_⟩
  have hSelf : p.leniently = p := by
    rw [leniently, ← hLenient]
  rw [outcome_strictly_read_tidy, hSelf]
  rcases hRead (fun _ => False) _ (alike_tidy _ _ path document) with hSame | ⟨_, _, _, hNever, -⟩
  · exact hSame.symm
  · exact hNever.elim

/-- The branches of a conditional change places, a child without meaning is gone, and a grant gets
a child that nobody looks at. -/
theorem outcome_read_of_alike_conditional :
    let grant (children : List Element) : Element := ⟨"grant_xp", [("value", "1")], children⟩
    let document : Element := ⟨"if_then_else", [],
      [⟨"else", [], []⟩, ⟨"comment", [], []⟩, ⟨"then", [], [grant []]⟩, ⟨"if", [], []⟩]⟩
    let document' : Element := ⟨"if_then_else", [],
      [⟨"if", [], []⟩, ⟨"then", [], [grant [⟨"comment", [], []⟩]]⟩, ⟨"else", [], []⟩]⟩
    standard.strict = false ∧
    Alike standard (· = ⟨"if_then_else", ["if_then_else"]⟩) .modifier [] document document' ∧
    (standard.read .modifier document).outcome = (standard.read .modifier document').outcome ∧
    (standard.strictly.read .modifier (standard.tidy .modifier document)).outcome =
      (standard.read .modifier document).outcome := by
  intro grant document document'
  have hAlike : Alike standard (· = ⟨"if_then_else", ["if_then_else"]⟩) .modifier [] document
      document' := by
    refine .intro (.reorder rfl rfl (List.reverse_perm _).symm ?_)
    refine .keep rfl (.intro .nil) ?_
    refine .keep rfl (.intro ?_) (.delete nofun ?_)
    · refine .keep rfl (.intro ?_) .nil
      exact .insert nofun .nil
    · exact .keep rfl (.intro .nil) .nil
  obtain ⟨hRead, hTidy⟩ := outcome_read_of_alike standard rfl .modifier document []
  refine ⟨rfl, hAlike, ?_, hTidy⟩
  rcases hRead _ document' hAlike with hSame | ⟨first, second, place, -, hFault, -⟩
  · exact hSame
  · cases hFault

end Read

end Bounty.Parser
