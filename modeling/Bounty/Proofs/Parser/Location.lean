import Bounty.Proofs.Parser.Contract
import Bounty.Proofs.Parser.Depth
import Bounty.Proofs.Parser.Strict

/-! Where a reading stops. Every fault is told of an element of the document that shows it, with the
names of the elements that lead there; the only other stop is a numeral with too many digits. -/
namespace Bounty.Parser

variable {p : Parser} {start role : Role} {path here : Path} {document e : Element}

/-- Where nothing is left of the depth, the element is one level below the limit. -/
theorem accounts_of_tooDeep (hReached : p.Reached start path document role (here ++ [e.name]) e)
    (hDepth : here.length = p.maxDepth) :
    p.Accounts start path document
      (.fault ⟨.tooDeep p.maxDepth, ⟨e.name, here ++ [e.name]⟩⟩) := by
  have hShows : p.Shows role e (.tooDeep p.maxDepth) := rfl
  exact accounts_of_shows hReached hShows (by simp [Cause.FitsDepth, hDepth])

/-- The strict parser tells of a child without meaning that it is one. -/
theorem accounts_of_stray (hStrict : p.strict = true)
    (hReached : p.Reached start path document role here e)
    (hLength : here.length ≤ p.maxDepth) {child : Element} (hChild : child ∈ e.children)
    (hUse : p.use role e.name child.name = .stray) :
    p.Accounts start path document (.fault
      ⟨.strayChild child.name e.name, ⟨child.name, here ++ [child.name]⟩⟩) :=
  ⟨⟨child, .stray hStrict hReached hChild hUse, rfl⟩, by simpa [Cause.FitsDepth] using hLength⟩

/-- The levels that are left are counted along the path, so that no more names than the limit lead
to an element that is read. -/
theorem accounts_contract (p : Parser) (start : Role) (path : Path) (document : Element) :
    p.Contract (fun role depth here e => here.length + depth = p.maxDepth ∧
        p.Reached start path document role (here ++ [e.name]) e)
      (fun _ _ _ _ _ _ => True) (p.Accounts start path document) where
  tooDeep := fun ⟨hDepth, hReached⟩ => accounts_of_tooDeep hReached hDepth
  admits := fun ⟨hDepth, hReached⟩ =>
    admits_accounts hReached (Nat.le.intro (length_concat_add hDepth _))
  stray := fun ⟨hDepth, hReached⟩ hChild hUse hStrict =>
    accounts_of_stray hStrict hReached (Nat.le.intro (length_concat_add hDepth _)) hChild hUse
  below := fun ⟨hDepth, hReached⟩ hChild hUse =>
    ⟨length_concat_add hDepth _, hReached.child hChild hUse⟩
  grant _ _ _ _ := trivial
  conditional _ _ _ _ _ _ := trivial
  randomChoice _ _ _ := trivial
  modifiers _ _ := trivial
  choice _ _ _ := trivial
  weight _ _ := trivial
  check _ _ _ _ := trivial
  conjunction _ _ _ := trivial
  requirements _ _ := trivial

/-- Whatever stops a reading is so of the document. -/
theorem read_accounts (p : Parser) {α : Type} (entry : EntryPoint α) (document : Element)
    {path : Path} (hPath : path.length ≤ p.maxDepth) :
    (p.read entry document path).Ensures (fun _ => True)
      (p.Accounts entry.role path document) :=
  (p.accounts_contract entry.role path document).read_meets entry
    ⟨length_add_depthBelow hPath, .root⟩

/-- A reading ends with a value, or with a fault of the last element on the path that it is told
with; only a numeral of too many digits ends it in another way. -/
theorem read_ends (p : Parser) {α : Type} (entry : EntryPoint α) (document : Element)
    (path : Path) :
    (∃ a, (p.read entry document path).outcome = .ok a) ∨
    (∃ f, (p.read entry document path).outcome = .error (.fault f) ∧
      f.place.path.getLast? = some f.place.element) ∨
    ∃ length, (p.read entry document path).outcome = .error (.tooManyDigits length) ∧
      p.TooLong entry.role path document length := by
  by_cases hPath : path.length ≤ p.maxDepth
  · have hAccounts := p.read_accounts entry document hPath
    cases hOutcome : (p.read entry document path).outcome with
    | ok a => exact .inl ⟨a, rfl⟩
    | error stop =>
        have hStop := hAccounts.of_error hOutcome
        cases stop with
        | fault f =>
            obtain ⟨⟨v, hLocated, hName⟩, -⟩ := hStop
            exact .inr (.inl ⟨f, rfl, hName ▸ hLocated.getLast?⟩)
        | tooManyDigits length => exact .inr (.inr ⟨length, rfl, hStop⟩)
  · rw [p.read_eq_tooDeep entry document (by omega)]
    exact .inr (.inl ⟨_, rfl, List.getLast?_concat⟩)

/-- A grant whose value is a numeral of too many digits. -/
theorem outcome_read_grant_of_tooLong {raw : String} {length : Nat}
    (hRead : Numeral.read raw = .error (.tooLong length)) :
    (standard.read .modifier ⟨"grant_xp", [("value", raw)], []⟩).outcome =
      .error (.tooManyDigits length) := by
  have hRaw : raw ≠ "" := by
    rintro rfl
    cases hRead
  have hText : Attribute.text "value" ["grant_xp"] ⟨"grant_xp", [("value", raw)], []⟩ =
      pure raw := by
    simp [Attribute.text, Element.attribute?, hRaw]
  have hInteger : Attribute.integer "value" ["grant_xp"] ⟨"grant_xp", [("value", raw)], []⟩ =
      .stop (.tooManyDigits length) := by
    rw [Attribute.integer, hText, pure_bind, hRead]
  change (Reading.step _ >>= fun _ => Reading.step _ >>= fun _ =>
    Attribute.integer "value" ["grant_xp"] ⟨"grant_xp", [("value", raw)], []⟩ >>= fun value =>
      pure (Modifier.grantXp value)).outcome = _
  rw [hInteger]
  rfl

/-- One digit more than are converted, and the reading of a plain grant has neither a value nor a
fault that is told of an element. -/
theorem not_read_ends_located :
    let document : Element :=
      ⟨"grant_xp", [("value", String.ofList (List.replicate 4301 '1'))], []⟩
    (standard.read .modifier document).outcome = .error (.tooManyDigits 4301) ∧
    ¬ ((∃ a, (standard.read .modifier document).outcome = .ok a) ∨
      ∃ f, (standard.read .modifier document).outcome = .error (.fault f)) := by
  intro document
  have hDigits (n : Nat) (h : 0 < n) : Numeral.isDigits (List.replicate n '1') = true := by
    have hOne : '1'.isDigit = true := rfl
    simp [Numeral.isDigits, Nat.ne_of_gt h, hOne]
  have hRead : Numeral.read (String.ofList (List.replicate 4301 '1')) = .error (.tooLong 4301) :=
    Numeral.read_eq_tooLong_iff.mpr
      ⟨_, Numeral.hasDigits_ofList (hDigits 4301 (by decide)), List.length_replicate, by decide⟩
  have hOutcome : (standard.read .modifier document).outcome = .error (.tooManyDigits 4301) :=
    outcome_read_grant_of_tooLong hRead
  refine ⟨hOutcome, ?_⟩
  rw [hOutcome]
  rintro (⟨a, h⟩ | ⟨f, h⟩) <;> cases h

/-- What is told of a document that is read from its root on is so: the path leads from the root to
the element of the fault, and that element shows its cause. -/
theorem located_of_read (p : Parser) {α : Type} (entry : EntryPoint α) (document : Element)
    {f : Fault} (h : (p.read entry document).outcome = .error (.fault f)) :
    f.place.path ≠ [] ∧ f.place.path.getLast? = some f.place.element ∧
    (∃ v, document.Leads f.place.path v ∧ v.name = f.place.element ∧
      p.Located entry.role [] document f.cause f.place.path v) ∧
    f.cause.FitsDepth p.maxDepth f.place.path.length := by
  have hAccounts : (p.read entry document).Ensures (fun _ => True)
      (p.Accounts entry.role [] document) :=
    p.read_accounts entry document (Nat.zero_le p.maxDepth)
  obtain ⟨⟨v, hLocated, hName⟩, hFits⟩ := hAccounts.of_error h
  obtain ⟨names, hPath, hLeads⟩ := hLocated.leads
  have hLast : f.place.path.getLast? = some f.place.element := hName ▸ hLocated.getLast?
  rw [List.nil_append] at hPath
  refine ⟨fun hNil => ?_, hLast, ⟨v, hPath ▸ hLeads, hName, hLocated⟩, hFits⟩
  rw [hNil] at hLast
  cases hLast

/-- The strict parser tells of a child without meaning one level below the limit. -/
theorem located_of_read_stray :
    let p := (standard.withDepth 2).strictly
    let document : Element :=
      ⟨"modifiers", [], [⟨"if_then_else", [], [⟨"comment", [], []⟩]⟩]⟩
    let path : Path := ["modifiers", "if_then_else", "comment"]
    (p.read .modifiers document).outcome =
      .error (.fault ⟨.strayChild "comment" "if_then_else", ⟨"comment", path⟩⟩) ∧
    path.length = p.maxDepth + 1 ∧
    ∃ v, document.Leads path v ∧ v.name = "comment" ∧
      p.Located .modifiers [] document (.strayChild "comment" "if_then_else") path v := by
  intro p document path
  have hOutcome : (p.read .modifiers document).outcome =
      .error (.fault ⟨.strayChild "comment" "if_then_else", ⟨"comment", path⟩⟩) := rfl
  exact ⟨hOutcome, rfl, (located_of_read p .modifiers document hOutcome).2.2.1⟩

end Bounty.Parser
