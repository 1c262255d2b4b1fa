import Bounty.Markup

/-! Which tags of a text are active: those with an even number of backslashes right before them.
An escaped text has none, and no part of it becomes one by what is put behind it, unless that closes
a bracket of it. How many backslashes it leaves at its end is what decides about a tag that follows
at once. -/
namespace Bounty.Markup

/-- The active tags of a text that `pending` backslashes stand before, each with all that comes
after it. -/
def activeFrom (pending : Nat) : List Char → List (List Char)
  | [] => []
  | c :: rest =>
    if c = backslash then activeFrom (pending + 1) rest
    else if c = '[' ∧ opensTag rest ∧ pending % 2 = 0 then (c :: rest) :: activeFrom 0 rest
    else activeFrom 0 rest

def active (s : String) : List (List Char) := activeFrom 0 s.toList

/-- How many backslashes stand at the end of a text that `pending` of them stand before. -/
def pendingAfter (pending : Nat) : List Char → Nat
  | [] => pending
  | c :: rest => if c = backslash then pendingAfter (pending + 1) rest else pendingAfter 0 rest

/-- Whether a bracket before a text would be closed in it. -/
def closes (cs : List Char) : Bool := (cs.takeWhile (· != '[')).contains ']'

section Active

variable {pending : Nat} {c : Char} {cs rest tail : List Char}

/-- A backslash is remembered for what stands behind it. -/
theorem activeFrom_backslash : activeFrom pending (backslash :: rest) =
    activeFrom (pending + 1) rest := by
  rw [activeFrom, if_pos rfl]

/-- Any other character makes the backslashes before it plain. -/
theorem activeFrom_of_ne (hBackslash : c ≠ backslash) (hBracket : c ≠ '[') :
    activeFrom pending (c :: rest) = activeFrom 0 rest := by
  rw [activeFrom, if_neg hBackslash, if_neg fun h => hBracket h.1]

/-- Behind an even number of backslashes a tag is one, for they escape each other. -/
theorem activeFrom_tag (hTag : opensTag rest) (hEven : pending % 2 = 0) :
    activeFrom pending ('[' :: rest) = ('[' :: rest) :: activeFrom 0 rest := by
  rw [activeFrom, if_neg (by decide), if_pos ⟨rfl, hTag, hEven⟩]

/-- Behind an odd number the last backslash escapes the bracket. -/
theorem activeFrom_escaped (hOdd : pending % 2 ≠ 0) :
    activeFrom pending ('[' :: rest) = activeFrom 0 rest := by
  rw [activeFrom, if_neg (by decide), if_neg fun h => hOdd h.2.2]

/-- A bracket that opens no tag is plain, however it stands. -/
theorem activeFrom_bracket (hPlain : opensTag rest = false) :
    activeFrom pending ('[' :: rest) = activeFrom 0 rest := by
  rw [activeFrom, if_neg (by decide), if_neg fun h => by simp [hPlain] at h]

/-- A run of backslashes only adds to those that are remembered. -/
theorem activeFrom_backslashes (n : Nat) :
    activeFrom pending (backslashes n ++ tail) = activeFrom (pending + n) tail := by
  induction n generalizing pending with
  | zero => rfl
  | succ n ih =>
      rw [backslashes, List.replicate_succ, List.cons_append, activeFrom_backslash]
      exact ih.trans (by congr 1; omega)

/-- Without an opening bracket there is no tag. -/
theorem activeFrom_eq_nil (h : '[' ∉ cs) : activeFrom pending cs = [] := by
  induction cs generalizing pending with
  | nil => rfl
  | cons c rest ih =>
      simp only [List.mem_cons, not_or] at h
      by_cases hBackslash : c = backslash
      · rw [hBackslash, activeFrom_backslash]
        exact ih h.2
      · rw [activeFrom_of_ne hBackslash (Ne.symm h.1)]
        exact ih h.2

/-- A place in a text is its front or a place behind it. -/
theorem exists_place_cons {Place : List Char → List Char → Prop} :
    (∃ before rest, c :: cs = before ++ '[' :: rest ∧ Place before rest) ↔
      (c = '[' ∧ Place [] cs) ∨
        ∃ before rest, cs = before ++ '[' :: rest ∧ Place (c :: before) rest := by
  constructor
  · rintro ⟨before, rest, hSplit, hPlace⟩
    cases before with
    | nil =>
        cases hSplit
        exact .inl ⟨rfl, hPlace⟩
    | cons d before =>
        cases hSplit
        exact .inr ⟨before, rest, rfl, hPlace⟩
  · rintro (⟨rfl, hPlace⟩ | ⟨before, rest, rfl, hPlace⟩)
    · exact ⟨[], cs, rfl, hPlace⟩
    · exact ⟨c :: before, rest, rfl, hPlace⟩

/-- The active tags are at the places of a text where a tag stands behind an even number of
backslashes. -/
theorem mem_activeFrom : tail ∈ activeFrom pending cs ↔
    ∃ before rest, cs = before ++ '[' :: rest ∧
      tail = '[' :: rest ∧ opensTag rest ∧ pendingAfter pending before % 2 = 0 := by
  induction cs generalizing pending with
  | nil => simp [activeFrom]
  | cons c cs ih =>
      rw [exists_place_cons, activeFrom]
      by_cases hBackslash : c = backslash
      · rw [if_pos hBackslash, ih]
        simp [pendingAfter, hBackslash, backslash]
      · rw [if_neg hBackslash]
        by_cases hTag : c = '[' ∧ opensTag cs ∧ pending % 2 = 0
        · rw [if_pos hTag, List.mem_cons, ih]
          simp [pendingAfter, hTag, backslash]
        · rw [if_neg hTag, ih]
          simp only [pendingAfter, if_neg hBackslash]
          exact ⟨.inr, fun h => h.resolve_left fun hHere => hTag ⟨hHere.1, hHere.2.2⟩⟩

end Active

def Piece.tag? : Piece → Option (List Char)
  | .tag name => some name
  | _ => none

/-- The name of a tag, from its opening bracket on. -/
def activeName (tail : List Char) : List Char := (tail.drop 1).takeWhile (· != ']')

section Pieces

variable {pending : Nat} {c : Char} {cs rest name : List Char}

/-- A tag is closed by the next bracket, and by none behind another opening one. -/
theorem closes_cons (h : c ≠ ']') : closes (c :: rest) = (c != '[' && closes rest) := by
  by_cases hBracket : c = '['
  · simp [closes, hBracket]
  · simp [closes, hBracket, Ne.symm h]

/-- What opens a tag is closed somewhere. -/
theorem closes_of_opensTag (h : opensTag cs) : closes cs := by
  cases cs with
  | nil => simp [opensTag] at h
  | cons c rest =>
      obtain ⟨hBegins, hRest⟩ := Bool.and_eq_true_iff.mp h
      have hOpen : c ≠ '[' := fun h => by simp [h, beginsTag] at hBegins
      have hClose : c ≠ ']' := fun h => by simp [h, beginsTag] at hBegins
      rw [closes_cons hClose]
      exact Bool.and_eq_true_iff.mpr ⟨by simpa using hOpen, hRest⟩

/-- Plain text has no tags in it. -/
theorem filterMap_plains (cs : List Char) : (plains cs).filterMap Piece.tag? = [] := by
  simp [plains, Piece.tag?]

/-- The tags that are found in a text from each position on. Inside of a tag, the text has to close
it. -/
structure TagsFound (cs : List Char) : Prop where
  text (pending : Nat) : (piecesFrom (.text pending) cs).filterMap Piece.tag? =
    (activeFrom pending cs).map activeName
  tag (pending : Nat) (name : List Char) : closes cs →
    (piecesFrom (.tag name) cs).filterMap Piece.tag? =
      (name ++ cs.takeWhile (· != ']')) :: (activeFrom pending cs).map activeName
  escapedTag (pending : Nat) : closes cs → (piecesFrom .escapedTag cs).filterMap Piece.tag? =
    (activeFrom pending cs).map activeName

theorem tagsFound_nil : TagsFound [] where
  text _ := filterMap_plains _
  tag _ _ h := nomatch h
  escapedTag _ h := nomatch h

/-- In plain text the scanner finds the tag that a character opens, and those behind it. -/
theorem TagsFound.text_cons (h : TagsFound rest) :
    (piecesFrom (.text pending) (c :: rest)).filterMap Piece.tag? =
      (activeFrom pending (c :: rest)).map activeName := by
  rw [piecesFrom]
  by_cases hBackslash : c = backslash
  · rw [if_pos hBackslash, hBackslash, activeFrom_backslash]
    exact h.text (pending + 1)
  · rw [if_neg hBackslash]
    by_cases hBracket : c = '['
    · rw [if_pos hBracket, hBracket]
      cases hTag : opensTag rest with
      | false =>
          rw [if_neg (by decide), List.filterMap_append, filterMap_plains,
            activeFrom_bracket hTag]
          exact h.text 0
      | true =>
          have hCloses := closes_of_opensTag hTag
          rw [if_pos rfl]
          by_cases hEven : pending % 2 = 0
          · rw [if_pos hEven, List.filterMap_append, filterMap_plains,
              activeFrom_tag hTag hEven, h.tag 0 [] hCloses]
            rfl
          · rw [if_neg hEven, List.filterMap_append, filterMap_plains,
              activeFrom_escaped hEven]
            exact h.escapedTag 0 hCloses
    · rw [if_neg hBracket, List.filterMap_append, filterMap_plains,
        activeFrom_of_ne hBackslash hBracket]
      exact h.text 0

/-- The active tags behind a character are those of what follows. -/
theorem exists_activeFrom_cons (pending : Nat) (rest : List Char) (h : c ≠ '[') :
    ∃ later, activeFrom pending (c :: rest) = activeFrom later rest := by
  by_cases hBackslash : c = backslash
  · exact ⟨pending + 1, by rw [hBackslash, activeFrom_backslash]⟩
  · exact ⟨0, activeFrom_of_ne hBackslash h⟩

/-- One more character in front, in whatever state the scanner is. -/
theorem tagsFound_cons (c : Char) (h : TagsFound rest) : TagsFound (c :: rest) := by
  by_cases hClose : c = ']'
  · subst hClose
    have hActive (pending : Nat) : activeFrom pending (']' :: rest) = activeFrom 0 rest :=
      activeFrom_of_ne (by decide) (by decide)
    refine ⟨fun _ => h.text_cons, fun pending name _ => ?_, fun pending _ => ?_⟩
    · rw [piecesFrom, if_pos rfl, hActive, ← h.text 0]
      simp [Piece.tag?]
    · rw [piecesFrom, if_pos rfl, hActive, ← h.text 0]
      rfl
  · -- A tag that is not closed here is closed later, and before the next bracket.
    have hLater (hCloses : closes (c :: rest)) : c ≠ '[' ∧ closes rest := by
      rw [closes_cons hClose, Bool.and_eq_true_iff] at hCloses
      exact ⟨by simpa using hCloses.1, hCloses.2⟩
    refine ⟨fun _ => h.text_cons, fun pending name hCloses => ?_, fun pending hCloses => ?_⟩
    · obtain ⟨later, hActive⟩ := exists_activeFrom_cons pending rest (hLater hCloses).1
      rw [piecesFrom, if_neg hClose, h.tag later _ (hLater hCloses).2, hActive]
      simp [hClose]
    · obtain ⟨later, hActive⟩ := exists_activeFrom_cons pending rest (hLater hCloses).1
      rw [piecesFrom, if_neg hClose, hActive, ← h.escapedTag later (hLater hCloses).2]
      rfl

/-- By induction on the text, all active tags are found from every state. -/
theorem tagsFound (cs : List Char) : TagsFound cs := by
  induction cs with
  | nil => exact tagsFound_nil
  | cons c rest ih => exact tagsFound_cons c ih

/-- The active tags are those that have an effect where a label is shown. -/
theorem filterMap_pieces (s : String) :
    (pieces s).filterMap Piece.tag? = (active s).map activeName := (tagsFound s.toList).text 0

end Pieces

section Escape

variable {pending : Nat} {cs tail : List Char} (hTail : closes tail = false)

/-- Backslashes in front neither open a tag nor close one. -/
theorem closes_backslashes (n : Nat) (rest : List Char) :
    closes (backslashes n ++ rest) = closes rest := by
  induction n with
  | zero => rfl
  | succ n ih =>
      rw [backslashes, List.replicate_succ, List.cons_append, closes_cons (by decide)]
      exact ih

include hTail

/-- To escape a text does not change where brackets are closed. -/
theorem closes_escapeFrom : closes (escapeFrom pending cs ++ tail) = closes cs := by
  induction cs generalizing pending with
  | nil => rw [escapeFrom, closes_backslashes, hTail]; rfl
  | cons c rest ih =>
      rw [escapeFrom]
      by_cases hBackslash : c = backslash
      · rw [if_pos hBackslash, ih, hBackslash, closes_cons (by decide)]
        rfl
      · rw [if_neg hBackslash]
        have hClosed : closes (c :: (escapeFrom 0 rest ++ tail)) = closes (c :: rest) := by
          by_cases hClose : c = ']'
          · simp [closes, hClose]
          · rw [closes_cons hClose, closes_cons hClose, ih]
        split
        · rw [List.append_assoc, closes_backslashes]
          exact hClosed
        · rw [List.append_assoc, closes_backslashes]
          exact hClosed

omit hTail in
/-- Held back backslashes come first. -/
theorem escapeFrom_succ (pending : Nat) (cs : List Char) :
    ∃ rest, escapeFrom (pending + 1) cs = backslash :: rest := by
  induction cs generalizing pending with
  | nil =>
      rw [escapeFrom]
      split <;> exact ⟨_, List.replicate_succ⟩
  | cons c cs ih =>
      rw [escapeFrom]
      split
      · exact ih (pending + 1)
      · split <;> exact ⟨_, congrArg (· ++ _) List.replicate_succ⟩

/-- What is never closed opens no tag. -/
theorem opensTag_of_closes : opensTag tail = false := by
  cases tail with
  | nil => rfl
  | cons c rest =>
      rw [opensTag]
      cases hBegins : beginsTag c with
      | false => rfl
      | true =>
          have hOpen : c ≠ '[' := fun h => by simp [h, beginsTag] at hBegins
          have hClose : c ≠ ']' := fun h => by simp [h, beginsTag] at hBegins
          have hRest : closes rest = false := by simpa [closes_cons hClose, hOpen] using hTail
          exact hRest

/-- A bracket before an escaped text opens a tag only if it does so before the text itself. -/
theorem opensTag_escapeFrom : opensTag (escapeFrom 0 cs ++ tail) = opensTag cs := by
  cases cs with
  | nil => exact opensTag_of_closes hTail
  | cons c rest =>
      rw [escapeFrom]
      by_cases hBackslash : c = backslash
      · obtain ⟨more, hMore⟩ := escapeFrom_succ 0 rest
        rw [if_pos hBackslash, hMore, hBackslash]
        rfl
      · rw [if_neg hBackslash]
        split
        · next hTag =>
          have hBracket : c = '[' := by simpa using (Bool.and_eq_true_iff.mp hTag).1
          rw [hBracket]
          rfl
        · exact congrArg (beginsTag c && ·) (closes_escapeFrom hTail)

/-- No tag of an escaped text is active, whatever follows; and what follows is as it is behind the
backslashes that stand at the end of the text, of which a single one is doubled. -/
theorem activeFrom_escapeFrom : activeFrom 0 (escapeFrom pending cs ++ tail) =
    activeFrom (if pendingAfter pending cs = 1 then 2 else pendingAfter pending cs) tail := by
  induction cs generalizing pending with
  | nil => rw [escapeFrom, activeFrom_backslashes, Nat.zero_add, pendingAfter]
  | cons c rest ih =>
      rw [escapeFrom, pendingAfter]
      by_cases hBackslash : c = backslash
      · rw [if_pos hBackslash, if_pos hBackslash, ih]
      · rw [if_neg hBackslash, if_neg hBackslash, ← ih]
        by_cases hBracket : c = '['
        · subst hBracket
          cases hTag : opensTag rest with
          | true =>
              rw [if_pos (by decide), List.append_assoc, activeFrom_backslashes]
              exact activeFrom_escaped (by omega)
          | false =>
              rw [if_neg (by decide), List.append_assoc, activeFrom_backslashes]
              exact activeFrom_bracket ((opensTag_escapeFrom hTail).trans hTag)
        · rw [if_neg (by simp [hBracket]), List.append_assoc, activeFrom_backslashes]
          exact activeFrom_of_ne hBackslash hBracket

end Escape

end Bounty.Markup
