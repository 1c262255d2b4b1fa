import Bounty.Proofs.Parser.Role

/-! What is found among the children of a conditional, in whatever order they stand. -/
namespace Bounty

/-- The elements of a name among some elements. -/
def named (name : String) (es : List Element) : List Element := es.filter (·.name = name)

@[simp] theorem named_nil (name : String) : named name [] = [] := rfl

@[simp] theorem named_cons (name : String) (e : Element) (rest : List Element) :
    named name (e :: rest) = if e.name = name then e :: named name rest else named name rest := by
  simp [named, List.filter_cons]

@[simp] theorem named_append (name : String) (es rest : List Element) :
    named name (es ++ rest) = named name es ++ named name rest := List.filter_append ..

theorem mem_named {name : String} {e : Element} {es : List Element} :
    e ∈ named name es ↔ e ∈ es ∧ e.name = name := by
  simp [named]

/-- No element of a name is found where none among the elements has it. -/
theorem named_eq_nil_iff {name : String} {es : List Element} :
    named name es = [] ↔ ∀ e ∈ es, e.name ≠ name := by
  simp [named]

namespace Parser

/-- The branch of a name that has been found, if there is one. -/
def Branches.held {β : Type} (found : Branches (Option β)) (name : String) : List β :=
  if name = "if" then found.condition.toList
  else if name = "then" then found.thenBranch.toList
  else if name = "else" then found.elseBranch.toList
  else []

/-- Puts a branch where its name says. -/
def Branches.put (found : Branches (Option Element)) (child : Element) :
    Branches (Option Element) :=
  if child.name = "if" then { found with condition := some child }
  else if child.name = "then" then { found with thenBranch := some child }
  else if child.name = "else" then { found with elseBranch := some child }
  else found

/-- What is put is found under its own name, and what is found under the others stays. -/
theorem Branches.held_put {child : Element} (hBranch : child.name ∈ branchNames)
    (found : Branches (Option Element)) (name : String) :
    (found.put child).held name = if child.name = name then [child] else found.held name := by
  simp only [branchNames, List.mem_cons, List.not_mem_nil, or_false] at hBranch
  by_cases hName : child.name = name
  · subst hName
    rcases hBranch with hChild | hChild | hChild <;> simp [put, held, hChild]
  · have hOther : name ≠ child.name := Ne.symm hName
    rcases hBranch with hChild | hChild | hChild <;>
      · rw [hChild] at hOther
        simp [put, held, hChild, hOther, Ne.symm hOther]

/-- A branch that has been found stands in the branches. -/
theorem Branches.length_held_le {β : Type} (found : Branches (Option β)) (name : String) :
    (found.held name).length ≤ 1 := by
  unfold held
  split
  · cases found.condition <;> simp
  · split
    · cases found.thenBranch <;> simp
    · split
      · cases found.elseBranch <;> simp
      · simp

variable (p : Parser) (here : Path) (e : Element) {found : Branches (Option Element)}
  {child : Element} {rest : List Element}

/-- A branch whose place is taken is a fault of the conditional, whatever follows. -/
theorem findBranches_cons_of_held (hBranch : child.name ∈ branchNames)
    (hHeld : found.held child.name ≠ []) :
    p.findBranches here e found (child :: rest) =
      .fault (.duplicateBranch child.name) e.name here := by
  simp only [branchNames, List.mem_cons, List.not_mem_nil, or_false] at hBranch
  unfold findBranches
  rcases hBranch with hChild | hChild | hChild <;>
    simp_all [Branches.held, Option.isSome_iff_ne_none, findBranches.duplicate]

/-- A branch whose place is free takes it. -/
theorem findBranches_cons_of_free (hBranch : child.name ∈ branchNames)
    (hFree : found.held child.name = []) :
    p.findBranches here e found (child :: rest) =
      p.findBranches here e (found.put child) rest := by
  simp only [branchNames, List.mem_cons, List.not_mem_nil, or_false] at hBranch
  rw [findBranches]
  rcases hBranch with hChild | hChild | hChild <;>
    simp_all [Branches.held, Branches.put]

/-- Any other child is passed over or a fault by itself. -/
theorem findBranches_cons_stray (hStray : child.name ∉ branchNames) :
    p.findBranches here e found (child :: rest) =
      p.stray here child >>= fun _ => p.findBranches here e found rest := by
  simp only [branchNames, List.mem_cons, List.not_mem_nil, or_false, not_or] at hStray
  rw [findBranches, if_neg hStray.1, if_neg hStray.2.1, if_neg hStray.2.2]

/-- The notes about the children of a conditional that are no branches of it. -/
def skipped (here : Path) (es : List Element) : List Step :=
  (es.filter (·.name ∉ branchNames)).map (.ignored ·.name here)

/-- Nothing is noted about a branch. -/
theorem skipped_cons_of_mem {here : Path} {child : Element} (h : child.name ∈ branchNames)
    (rest : List Element) : skipped here (child :: rest) = skipped here rest := by
  rw [skipped, List.filter_cons_of_neg (by simpa using h), skipped]

/-- Whatever is no branch is noted where it stands. -/
theorem skipped_cons_of_notMem {here : Path} {child : Element} (h : child.name ∉ branchNames)
    (rest : List Element) :
    skipped here (child :: rest) = .ignored child.name here :: skipped here rest := by
  rw [skipped, List.filter_cons_of_pos (by simpa using h), List.map_cons, skipped]

/-- The branches of a conditional, each of them the only child of its name. -/
structure Branches.Among (found : Branches Element) (es : List Element) : Prop where
  condition : named "if" es = [found.condition]
  thenBranch : named "then" es = [found.thenBranch]
  elseBranch : named "else" es = [found.elseBranch]

/-- The only child of a name is a child, and has this name. -/
theorem mem_of_named_eq {name : String} {es : List Element} {c : Element}
    (h : named name es = [c]) : c ∈ es ∧ c.name = name :=
  mem_named.mp (h ▸ List.mem_singleton_self c)

variable {p here e} {halt : Stop → Prop}

/-- A child that has no meaning is noted, or is a fault where the parser is strict. -/
theorem stray_meets (hStray : p.strict = true →
      halt (.fault ⟨.strayChild child.name (here.getLastD ""),
        ⟨child.name, here ++ [child.name]⟩⟩)) :
    (p.stray here child).Meets (fun _ steps => steps = [.ignored child.name here]) halt := by
  unfold stray
  split
  · next hStrict => exact Reading.meets_fault (hStray hStrict)
  · exact rfl

/-- Every branch is found once at most, and a name that stands twice is a fault. -/
theorem findBranches_meets
    (hDuplicate : ∀ name ∈ branchNames, 2 ≤ (found.held name ++ named name rest).length →
      halt (.fault ⟨.duplicateBranch name, ⟨e.name, here⟩⟩))
    (hStray : p.strict = true → ∀ child ∈ rest, child.name ∉ branchNames →
      halt (.fault ⟨.strayChild child.name (here.getLastD ""),
        ⟨child.name, here ++ [child.name]⟩⟩)) :
    (p.findBranches here e found rest).Meets
      (fun result steps => (∀ name ∈ branchNames,
        result.held name = found.held name ++ named name rest) ∧ steps = skipped here rest)
      halt := by
  induction rest generalizing found with
  | nil => exact Reading.meets_pure ⟨by simp, rfl⟩
  | cons child rest ih =>
      have hStrayRest : p.strict = true → ∀ child ∈ rest, child.name ∉ branchNames →
          halt (.fault ⟨.strayChild child.name (here.getLastD ""),
            ⟨child.name, here ++ [child.name]⟩⟩) :=
        fun hStrict c hMem => hStray hStrict c (List.mem_cons_of_mem child hMem)
      by_cases hBranch : child.name ∈ branchNames
      · rw [skipped_cons_of_mem hBranch]
        by_cases hFree : found.held child.name = []
        · rw [findBranches_cons_of_free p here e hBranch hFree]
          have hNext (name : String) : (found.put child).held name ++ named name rest =
              found.held name ++ named name (child :: rest) := by
            rw [Branches.held_put hBranch, named_cons]
            split
            · next hName =>
              subst hName
              simp [hFree]
            · rfl
          refine (ih (fun name hName h => ?_) hStrayRest).mono fun result steps hResult => ?_
          · rw [hNext name] at h
            exact hDuplicate name hName h
          · exact ⟨fun name hName => (hResult.1 name hName).trans (hNext name), hResult.2⟩
        · rw [findBranches_cons_of_held p here e hBranch hFree]
          refine Reading.meets_fault (hDuplicate child.name hBranch ?_)
          have := List.length_pos_iff.mpr hFree
          simp
          omega
      · rw [findBranches_cons_stray p here e hBranch, skipped_cons_of_notMem hBranch]
        refine (stray_meets fun hStrict =>
          hStray hStrict child (List.mem_cons_self ..) hBranch).bind fun _ steps hSteps => ?_
        subst hSteps
        have hNext (name : String) (hName : name ∈ branchNames) :
            named name (child :: rest) = named name rest := by
          rw [named_cons, if_neg fun (h : child.name = name) => hBranch (h ▸ hName)]
        refine (ih (fun name hName h => ?_) hStrayRest).mono fun result steps hResult => ?_
        · rw [← hNext name hName] at h
          exact hDuplicate name hName h
        · refine ⟨fun name hName => ?_, congrArg _ hResult.2⟩
          rw [hResult.1 name hName, hNext name hName]

/-- A conditional that is read has each of its branches exactly once. -/
theorem branches_meets
    (hDuplicate : ∀ name ∈ branchNames, 2 ≤ (named name e.children).length →
      halt (.fault ⟨.duplicateBranch name, ⟨e.name, here⟩⟩))
    (hStray : p.strict = true → ∀ child ∈ e.children, child.name ∉ branchNames →
      halt (.fault ⟨.strayChild child.name (here.getLastD ""),
        ⟨child.name, here ++ [child.name]⟩⟩))
    (hMissing : ∀ name ∈ branchNames, named name e.children = [] →
      halt (.fault ⟨.missingBranch name, ⟨e.name, here⟩⟩)) :
    (p.branches here e).Meets
      (fun found steps => found.Among e.children ∧ steps = skipped here e.children) halt := by
  have hFind : (p.findBranches here e ⟨none, none, none⟩ e.children).Meets
      (fun found steps => (∀ name ∈ branchNames, found.held name = named name e.children) ∧
        steps = skipped here e.children) halt := by
    have hNone (name : String) : Branches.held (β := Element) ⟨none, none, none⟩ name = [] := by
      simp [Branches.held]
    refine (findBranches_meets (fun name hName h => ?_) hStray).mono fun found steps h => ?_
    · rw [hNone, List.nil_append] at h
      exact hDuplicate name hName h
    · refine ⟨fun name hName => ?_, h.2⟩
      rw [h.1 name hName, hNone, List.nil_append]
  refine hFind.bind fun found steps hFound => ?_
  obtain ⟨hHeld, rfl⟩ := hFound
  have hIf := hHeld "if" (by simp [branchNames])
  have hThen := hHeld "then" (by simp [branchNames])
  have hElse := hHeld "else" (by simp [branchNames])
  simp only [Branches.held, String.reduceEq, if_true, if_false] at hIf hThen hElse
  split
  · exact Reading.meets_pure ⟨⟨hIf.symm, hThen.symm, hElse.symm⟩, List.append_nil _⟩
  · exact Reading.meets_fault (hMissing "if" (by simp [branchNames]) hIf.symm)
  · exact Reading.meets_fault (hMissing "then" (by simp [branchNames]) hThen.symm)
  · exact Reading.meets_fault (hMissing "else" (by simp [branchNames]) hElse.symm)

end Parser

end Bounty
