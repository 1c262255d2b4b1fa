import Bounty.Proofs.Document
import Bounty.Proofs.FileTree.Listing
import Bounty.Survey

/-! What a survey accounts for. Every document at the paths is visited once, in order, and leaves
its modifiers or one line about its fault, whatever becomes of the others. A survey ends early only
at a path that cannot be looked up, or below which there is something that cannot be. -/
namespace Bounty

namespace Document

variable {host : Host} {t : FileTree} {p : FilePath}

/-- The documents at a path. -/
inductive Finds (t : FileTree) (p : FilePath) : List FilePath → Prop where
  | nothing : t.node? p = none → Finds t p []
  /-- A file is a document whatever its suffix is. -/
  | file {content : ByteArray} : t.node? p = some (.file content) → Finds t p [p]
  /-- Below a folder the documents are told by their suffixes. Their ways ascend, so that none is
  there twice. -/
  | folder {entries : List (String × FileNode)} {ways : List (List String)} :
    t.node? p = some (.folder entries) → ways.Pairwise (· < ·) →
    (∀ way, way ∈ ways ↔
      (FileNode.folder entries).EndsAtFile way ∧ (p.append way).suffix ∈ suffixes) →
    Finds t p (ways.map p.append)

/-- What ends the search for documents at a path. -/
inductive Unfound (room : Nat) (t : FileTree) (p : FilePath) : Mishap → Prop where
  | path : t.locate p = .error .nameTooLong → Unfound room t p (.file ⟨.nameTooLong, p⟩)
  | below {fault : ListingFault} : t.Unlisted room p fault → Unfound room t p (.ofListing fault)

theorem distinct_of_node? (h : t.root.Distinct) {node : FileNode} (hNode : t.node? p = some node) :
    node.Distinct := by
  unfold FileTree.node? at hNode
  split at hNode
  · exact h.find? hNode
  · cases hNode

/-- A search that ends with a mishap has met a name that is too long, or a way below the folder that
is. -/
theorem unfound_of_error (h : t.root.Distinct) {mishap : Mishap}
    (hFound : found host t p suffixes = .error mishap) : Unfound host.folderRoom t p mishap := by
  unfold found at hFound
  split at hFound
  · next fault hNode =>
      cases hFound
      obtain ⟨hLocate, rfl⟩ := FileTree.findNode_eq_error_iff.mp hNode
      exact .path hLocate
  · cases hFound
  · cases hFound
  · next entries hNode =>
      have hThere := FileTree.node?_of_findNode hNode
      split at hFound
      · next fault hFault =>
          cases hFound
          exact .below (FileTree.unlisted_of_error hThere (distinct_of_node? h hThere) hFault)
      · cases hFound

/-- What makes a search fail keeps the path from being listable. -/
theorem not_listable_of_unfound {room : Nat} {mishap : Mishap} (h : Unfound room t p mishap) :
    ¬ t.Listable room p := by
  cases h with
  | path hLocate => exact fun hListable => hListable.located hLocate
  | below hUnlisted => exact FileTree.not_listable_of_unlisted hUnlisted

/-- Where documents are found, all that is at the path and below it could be looked up. -/
theorem listable_of_found (h : t.root.Distinct) {documents : List FilePath}
    (hFound : found host t p suffixes = .ok documents) : t.Listable host.folderRoom p := by
  unfold found at hFound
  have hLocated {node : Option FileNode} (hNode : t.findNode p = .ok node) :
      t.locate p ≠ .error .nameTooLong := by
    intro hLong
    rw [FileTree.findNode_eq_error_iff.mpr ⟨hLong, rfl⟩] at hNode
    cases hNode
  have hEmpty {node : Option FileNode} (hNode : t.findNode p = .ok node)
      (hFile : ∀ entries, node ≠ some (.folder entries)) : t.Listable host.folderRoom p := by
    have hNone (way : List String) (found : FileNode) : ¬ t.Holds p way found := by
      rintro ⟨entries, hThere, -⟩
      rw [FileTree.node?_of_findNode hNode] at hThere
      exact hFile entries hThere
    exact ⟨hLocated hNode, fun way found hHolds => absurd hHolds (hNone way found),
      fun way inner hHolds => absurd hHolds (hNone way _)⟩
  split at hFound
  · cases hFound
  · next hNode => exact hEmpty hNode fun _ hFolder => nomatch hFolder
  · next hNode => exact hEmpty hNode fun _ hFolder => nomatch hFolder
  · next entries hNode =>
      have hThere := FileTree.node?_of_findNode hNode
      have hDistinct := distinct_of_node? h hThere
      split at hFound
      · cases hFound
      · next files hFiles =>
          refine ⟨hLocated hNode, fun way node hHolds => ?_, fun way inner hHolds => ?_⟩
          · have hWay := (FileTree.holds_iff hThere).mp hHolds
            exact FileTree.short_of_filesBelow hThere hFiles hDistinct hWay
          · have hWay := (FileTree.holds_iff hThere).mp hHolds
            exact FileTree.length_lt_of_filesBelow hThere hFiles hDistinct hWay

/-- Exactly where all can be looked up, documents are found. -/
theorem exists_found_iff (h : t.root.Distinct) :
    (∃ documents, found host t p suffixes = .ok documents) ↔ t.Listable host.folderRoom p := by
  constructor
  · rintro ⟨documents, hFound⟩
    exact listable_of_found h hFound
  · intro hListable
    cases hFound : found host t p suffixes with
    | ok documents => exact ⟨documents, rfl⟩
    | error mishap => exact absurd hListable (not_listable_of_unfound (unfound_of_error h hFound))

/-- A search that succeeds finds the documents at the path, each once and in the order of their
names. -/
theorem finds_of_found (h : t.root.Distinct) {documents : List FilePath}
    (hFound : found host t p suffixes = .ok documents) : Finds t p documents := by
  unfold found at hFound
  split at hFound
  · cases hFound
  · next hNode =>
      cases hFound
      exact .nothing (FileTree.node?_of_findNode hNode)
  · next hNode =>
      cases hFound
      exact .file (FileTree.node?_of_findNode hNode)
  · next entries hNode =>
      have hThere := FileTree.node?_of_findNode hNode
      split at hFound
      · cases hFound
      · next files hFiles =>
          cases hFound
          obtain ⟨ways, rfl, hOrder, hMem⟩ :=
            FileTree.exists_ways hThere hFiles (distinct_of_node? h hThere)
          rw [List.filter_map]
          refine .folder hThere (hOrder.filter _) fun way => ?_
          simp [hMem]

theorem readModifiers_snd (host : Host) (t : FileTree) (p : FilePath) (parser : Parser) :
    (readModifiers host t p parser).2 =
      (load host t p).bind fun e => (parser.readModifiers e).outcome.mapError .stop := by
  unfold readModifiers
  cases load host t p <;> rfl

/-- The reading of a document comes to modifiers or to a fault that is reported. -/
def Answers (host : Host) (t : FileTree) (parser : Parser) (p : FilePath) : Prop :=
  (∃ modifiers, (readModifiers host t p parser).2 = .ok modifiers) ∨
    ∃ fault, (readModifiers host t p parser).2 = .error (.stop (.fault fault))

theorem answers_of_isOk {parser : Parser} (h : (readModifiers host t p parser).2.isOk = true) :
    Answers host t parser p := by
  cases hOutcome : (readModifiers host t p parser).2 with
  | ok modifiers => exact .inl ⟨modifiers, hOutcome⟩
  | error mishap =>
      rw [hOutcome] at h
      cases h

/-- The modifiers of a document, if it can be read. -/
def modifiers? (host : Host) (t : FileTree) (parser : Parser) (p : FilePath) :
    Option (List Modifier) :=
  (readModifiers host t p parser).2.toOption

/-- The fault of a document. -/
def fault? (host : Host) (t : FileTree) (parser : Parser) (p : FilePath) : Option Fault :=
  match (readModifiers host t p parser).2 with
  | .error (.stop (.fault fault)) => some fault
  | _ => none

end Document

namespace Survey

variable (host : Host) (t : FileTree) (parser : Parser)

/-- The entry about a document that can be read. -/
def parsedOf (p : FilePath) : Option (FilePath × List Modifier) :=
  (Document.modifiers? host t parser p).map (p, ·)

/-- The line about a document that cannot. -/
def errorOf (p : FilePath) : Option String :=
  (Document.fault? host t parser p).map fun fault => line p fault.message

/-- The lines of the notes about a document that can be read. -/
def warningsOf (p : FilePath) : List String :=
  if (Document.modifiers? host t parser p).isSome then
    (Step.notes (Document.readModifiers host t p parser).1).map (line p)
  else []

/-- The error lines about a path. -/
def errorsAt (p : FilePath) (documents : List FilePath) : List String :=
  if documents = [] then [line p "no rule documents found"]
  else documents.filterMap (errorOf host t parser)

section Documents

variable {host t parser} {p : FilePath}

/-- The survey of a document with an answer holds what was parsed, the error and the warnings of it.
-/
theorem ofDocument_of_answers (h : Document.Answers host t parser p) :
    ofDocument host t parser p = .ok ⟨(parsedOf host t parser p).toList,
      (errorOf host t parser p).toList, warningsOf host t parser p⟩ := by
  unfold ofDocument parsedOf errorOf warningsOf Document.modifiers? Document.fault?
  rcases h with ⟨modifiers, hOutcome⟩ | ⟨fault, hOutcome⟩
  · cases hRead : Document.readModifiers host t p parser with
    | mk steps outcome =>
        rw [hRead] at hOutcome
        cases hOutcome
        rfl
  · cases hRead : Document.readModifiers host t p parser with
    | mk steps outcome =>
        rw [hRead] at hOutcome
        cases hOutcome
        rfl

/-- A document leaves one entry. -/
theorem length_entries_of_answers (h : Document.Answers host t parser p) :
    (parsedOf host t parser p).toList.length + (errorOf host t parser p).toList.length = 1 := by
  unfold parsedOf errorOf Document.modifiers? Document.fault?
  rcases h with ⟨modifiers, hOutcome⟩ | ⟨fault, hOutcome⟩ <;> simp [hOutcome, Except.toOption]

/-- There is no line about a document whose modifiers are known. -/
theorem errorOf_eq_none_iff (h : Document.Answers host t parser p) :
    errorOf host t parser p = none ↔ (Document.modifiers? host t parser p).isSome := by
  have hOne := length_entries_of_answers h
  unfold parsedOf at hOne
  cases hModifiers : Document.modifiers? host t parser p <;>
    cases hError : errorOf host t parser p <;> simp [hModifiers, hError] at hOne ⊢

/-- A survey of several documents holds what the single surveys hold, document by document. -/
theorem ofDocuments_of_answers {documents : List FilePath}
    (h : ∀ p ∈ documents, Document.Answers host t parser p) :
    ofDocuments host t parser documents = .ok ⟨documents.filterMap (parsedOf host t parser),
      documents.filterMap (errorOf host t parser),
      documents.flatMap (warningsOf host t parser)⟩ := by
  induction documents with
  | nil => rfl
  | cons p rest ih =>
      have hFirst := ofDocument_of_answers (h p (by simp))
      have hRest := ih fun q hq => h q (by simp [hq])
      rw [ofDocuments, hFirst, hRest]
      simp [List.filterMap_eq_flatMap_toList, append, bind, Except.bind, pure, Except.pure]

/-- The survey of a path holds the answers of the documents found at it, or one error if there are
none. -/
theorem ofPath_of_found {documents : List FilePath}
    (hFound : Document.found host t p Document.suffixes = .ok documents)
    (h : ∀ p ∈ documents, Document.Answers host t parser p) :
    ofPath host t parser p = .ok ⟨documents.filterMap (parsedOf host t parser),
      errorsAt host t parser p documents, documents.flatMap (warningsOf host t parser)⟩ := by
  unfold ofPath errorsAt
  rw [hFound]
  cases documents with
  | nil => rfl
  | cons first rest => simpa using ofDocuments_of_answers h

/-- What ends the search for documents ends a survey. -/
theorem ofPath_of_unlisted (hTree : t.root.Distinct) (h : ¬ t.Listable host.folderRoom p) :
    ∃ mishap, Document.Unfound host.folderRoom t p mishap ∧
      ofPath host t parser p = .error mishap := by
  cases hFound : Document.found host t p Document.suffixes with
  | ok documents => exact absurd (Document.listable_of_found hTree hFound) h
  | error mishap =>
      refine ⟨mishap, Document.unfound_of_error hTree hFound, ?_⟩
      rw [ofPath, hFound]

end Documents

/-- What a survey of some paths holds, after the documents at each of them. -/
structure Accounts (ps : List FilePath) (visits : List (List FilePath)) (s : Survey) : Prop where
  visited : List.Forall₂ (Document.Finds t) ps visits
  parsed : s.parsed = visits.flatten.filterMap (parsedOf host t parser)
  errors : s.errors =
    (ps.zip visits).flatMap fun (p, documents) => errorsAt host t parser p documents
  warnings : s.warnings = visits.flatten.flatMap (warningsOf host t parser)
  /-- Every visit leaves one entry. -/
  entries : ∀ p ∈ visits.flatten,
    (parsedOf host t parser p).toList.length + (errorOf host t parser p).toList.length = 1
  isOk_iff : s.isOk = true ↔
    [] ∉ visits ∧ ∀ p ∈ visits.flatten, (Document.modifiers? host t parser p).isSome

variable {host t parser} {ps : List FilePath}

/-- One more path before the others adds the answers of its documents in front. -/
theorem Accounts.cons {p : FilePath} {documents : List FilePath} {visits : List (List FilePath)}
    {s : Survey} (hFinds : Document.Finds t p documents)
    (h : ∀ p ∈ documents, Document.Answers host t parser p)
    (hRest : Accounts host t parser ps visits s) :
    Accounts host t parser (p :: ps) (documents :: visits) <|
      append ⟨documents.filterMap (parsedOf host t parser), errorsAt host t parser p documents,
        documents.flatMap (warningsOf host t parser)⟩ s where
  visited := .cons hFinds hRest.visited
  parsed := by simp [append, hRest.parsed]
  errors := by simp [append, hRest.errors]
  warnings := by simp [append, hRest.warnings]
  entries q hq := by
    rw [List.flatten_cons, List.mem_append] at hq
    rcases hq with hq | hq
    · exact length_entries_of_answers (h q hq)
    · exact hRest.entries q hq
  isOk_iff := by
    have hErrors : errorsAt host t parser p documents = [] ↔
        documents ≠ [] ∧ ∀ q ∈ documents, (Document.modifiers? host t parser q).isSome := by
      unfold errorsAt
      split
      · next hNone => simp [hNone]
      · next hSome =>
          simp only [List.filterMap_eq_nil_iff, ne_eq, hSome, not_false_eq_true, true_and]
          exact forall₂_congr fun q hq => errorOf_eq_none_iff (h q hq)
    have hOthers := hRest.isOk_iff
    simp only [isOk, List.isEmpty_iff, append, List.append_eq_nil_iff, hErrors] at hOthers ⊢
    rw [hOthers]
    grind

/-- The findings about some paths. They are made unless something at or below a path cannot be
looked up, and the first path with something like that ends the survey. -/
structure Surveyed (host : Host) (t : FileTree) (parser : Parser) (ps : List FilePath) : Prop where
  reported : (∀ p ∈ ps, t.Listable host.folderRoom p) →
    ∃ visits s, ofPaths host t parser ps = .ok s ∧ Accounts host t parser ps visits s
  stopped (before after : List FilePath) (p : FilePath) : ps = before ++ p :: after →
    (∀ q ∈ before, t.Listable host.folderRoom q) → ¬ t.Listable host.folderRoom p →
    ∃ mishap, Document.Unfound host.folderRoom t p mishap ∧
      ofPaths host t parser ps = .error mishap
  /-- Paths may be surveyed in two parts. -/
  appended (qs : List FilePath) : ofPaths host t parser (ps ++ qs) = do
    let first ← ofPaths host t parser ps
    let others ← ofPaths host t parser qs
    return first.append others

/-- Surveys are put together in sequence, so it does not matter which two are put together first. -/
theorem append_assoc (a b c : Survey) : (a.append b).append c = a.append (b.append c) := by
  simp [append]

theorem empty_append (a : Survey) : empty.append a = a := by
  simp [append, empty]

/-- A survey of two lists of paths is the survey of the first and then that of the second. -/
theorem ofPaths_append (ps qs : List FilePath) :
    ofPaths host t parser (ps ++ qs) = do
      let first ← ofPaths host t parser ps
      let others ← ofPaths host t parser qs
      return first.append others := by
  induction ps with
  | nil =>
      cases h : ofPaths host t parser qs <;>
        simp [ofPaths, h, bind, Except.bind, pure, Except.pure, empty_append]
  | cons p rest ih =>
      rw [List.cons_append, ofPaths, ofPaths, ih]
      cases ofPath host t parser p with
      | error mishap => rfl
      | ok first =>
          cases ofPaths host t parser rest with
          | error mishap => rfl
          | ok others =>
              cases ofPaths host t parser qs with
              | error mishap => rfl
              | ok more => simp [bind, Except.bind, pure, Except.pure, append_assoc]

section Paths

variable (hTree : t.root.Distinct)
  (hReads : ∀ p ∈ ps, ∀ documents, Document.found host t p Document.suffixes = .ok documents →
    ∀ q ∈ documents, Document.Answers host t parser q)

include hTree hReads

/-- If every path can be listed and every document has an answer, the survey comes to an end and
accounts for all of them. By induction on the paths. -/
theorem exists_accounts (hListable : ∀ p ∈ ps, t.Listable host.folderRoom p) :
    ∃ visits s, ofPaths host t parser ps = .ok s ∧ Accounts host t parser ps visits s := by
  induction ps with
  | nil => exact ⟨[], empty, rfl, .nil, rfl, rfl, rfl, by simp, by simp [isOk, empty]⟩
  | cons p rest ih =>
      obtain ⟨visits, s, hRest, hAccounts⟩ :=
        ih (fun q hq => hReads q (by simp [hq])) fun q hq => hListable q (by simp [hq])
      obtain ⟨documents, hFound⟩ :=
        (Document.exists_found_iff hTree).mpr (hListable p (List.mem_cons_self ..))
      have hAnswers := hReads p (List.mem_cons_self ..) documents hFound
      refine ⟨documents :: visits, _, ?_,
        hAccounts.cons (Document.finds_of_found hTree hFound) hAnswers⟩
      rw [ofPaths, ofPath_of_found hFound hAnswers, hRest]
      rfl

theorem ofPaths_accounts : Surveyed host t parser ps where
  reported := exists_accounts hTree hReads
  stopped before after p hSplit hListable hUnlisted := by
    subst hSplit
    obtain ⟨visits, s, hBefore, -⟩ :=
      exists_accounts hTree (fun q hq => hReads q (by simp [hq])) hListable
    obtain ⟨mishap, hUnfound, hPath⟩ : ∃ mishap, Document.Unfound host.folderRoom t p mishap ∧
        ofPath host t parser p = .error mishap := ofPath_of_unlisted hTree hUnlisted
    refine ⟨mishap, hUnfound, ?_⟩
    rw [ofPaths_append, hBefore, ofPaths, hPath]
    rfl
  appended := ofPaths_append ps

end Paths

section Shelf

/-- The document of an element that holds nothing. -/
def bareText : String := "\x7b\"m\": null\x7d"

/-- A folder with one document, and a file beside it that is none. -/
def shelf : FileTree where
  root := .folder
    [("rules", .folder [("b.txt", .file .empty), ("a.JSON", .file bareText.toUTF8)]),
      ("notes.md", .file .empty)]
  working := []
  home := []

def rulesPath : FilePath := ⟨false, ["rules"]⟩

def barePath : FilePath := ⟨false, ["rules", "a.JSON"]⟩

def notesPath : FilePath := ⟨false, ["notes.md"]⟩

def missingPath : FilePath := ⟨false, ["gone"]⟩

theorem distinct_shelf : shelf.root.Distinct := by
  simp [shelf, FileNode.Distinct, FileNode.DistinctAmong]

theorem filesBelow_rulesPath : shelf.filesBelow Host.standard.folderRoom rulesPath =
    .ok [barePath, ⟨false, ["rules", "b.txt"]⟩] := by
  have hWays : shelf.filesBelow Host.standard.folderRoom rulesPath =
      .ok (([["b.txt"], ["a.JSON"]].mergeSort FilePath.namesLe).map rulesPath.append) := rfl
  have hOrder : FilePath.namesLe ["b.txt"] ["a.JSON"] = false := by decide +kernel
  rw [hWays]
  simp [List.mergeSort, hOrder, rulesPath, barePath, FilePath.append]

theorem found_rulesPath :
    Document.found .standard shelf rulesPath Document.suffixes = .ok [barePath] := by
  have hNode : shelf.findNode rulesPath = .ok (some (.folder
      [("b.txt", .file .empty), ("a.JSON", .file bareText.toUTF8)])) := rfl
  have hSuffixes : [barePath, ⟨false, ["rules", "b.txt"]⟩].filter (fun p =>
      Document.suffixes.contains p.suffix) = [barePath] := by decide +kernel
  rw [Document.found, hNode]
  dsimp only
  rw [filesBelow_rulesPath]
  dsimp only
  rw [hSuffixes]

theorem load_barePath :
    Document.load .standard shelf barePath = Document.jsonElement .standard barePath bareText :=
  Document.load_eq_jsonElement (by decide +kernel) rfl (by decide +kernel)

theorem isOk_bare : ((Document.jsonElement .standard barePath bareText).bind fun e =>
    (Parser.standard.readModifiers e).outcome.mapError Mishap.stop).isOk = true := by
  decide +kernel

/-- The document without any modifier in it has an answer. -/
theorem answers_barePath : Document.Answers .standard shelf .standard barePath := by
  apply Document.answers_of_isOk
  rw [Document.readModifiers_snd, load_barePath]
  exact isOk_bare

theorem answers_notesPath : Document.Answers .standard shelf .standard notesPath :=
  .inr ⟨_, rfl⟩

theorem answers_shelf : ∀ p ∈ [rulesPath, notesPath, missingPath], ∀ documents,
    Document.found .standard shelf p Document.suffixes = .ok documents →
      ∀ q ∈ documents, Document.Answers .standard shelf .standard q := by
  intro p hp documents hFound q hq
  simp only [List.mem_cons, List.not_mem_nil, or_false] at hp
  rcases hp with rfl | rfl | rfl
  · rw [found_rulesPath] at hFound
    cases hFound
    rw [List.mem_singleton.mp hq]
    exact answers_barePath
  · have hFile : Document.found .standard shelf notesPath Document.suffixes = .ok [notesPath] := rfl
    rw [hFile] at hFound
    cases hFound
    rw [List.mem_singleton.mp hq]
    exact answers_notesPath
  · have hNothing : Document.found .standard shelf missingPath Document.suffixes = .ok [] := rfl
    rw [hNothing] at hFound
    cases hFound
    cases hq

/-- All three paths can be listed, for the names are short and only one folder stands below them. -/
theorem listable_shelf : ∀ p ∈ [rulesPath, notesPath, missingPath],
    shelf.Listable Host.standard.folderRoom p := by
  intro p hp
  apply (Document.exists_found_iff distinct_shelf).mp
  simp only [List.mem_cons, List.not_mem_nil, or_false] at hp
  rcases hp with rfl | rfl | rfl
  · exact ⟨_, found_rulesPath⟩
  · exact ⟨_, rfl⟩
  · exact ⟨_, rfl⟩

/-- Of a folder, a file of another sort and a path that leads nowhere, the folder alone is in order.
-/
theorem ofPaths_accounts_shelf :
    shelf.root.Distinct ∧
      (∀ p ∈ [rulesPath, notesPath, missingPath], ∀ documents,
        Document.found .standard shelf p Document.suffixes = .ok documents →
          ∀ q ∈ documents, Document.Answers .standard shelf .standard q) ∧
      Surveyed .standard shelf .standard [rulesPath, notesPath, missingPath] ∧
      ∃ visits s,
        ofPaths .standard shelf .standard [rulesPath, notesPath, missingPath] = .ok s ∧
        Accounts .standard shelf .standard [rulesPath, notesPath, missingPath] visits s := by
  have hSurveyed := ofPaths_accounts distinct_shelf answers_shelf
  exact ⟨distinct_shelf, answers_shelf, hSurveyed, hSurveyed.reported listable_shelf⟩

/-- A name that no file can have. -/
def longName : String := String.ofList (List.replicate 256 'n')

def longPath : FilePath := ⟨false, [longName]⟩

theorem utf8ByteSize_replicate (count : Nat) :
    (String.ofList (List.replicate count 'n')).utf8ByteSize = count := by
  induction count with
  | zero => rfl
  | succ count ih =>
      have hOne : (String.ofList ['n']).utf8ByteSize = 1 := rfl
      rw [List.replicate_succ, ← List.singleton_append, String.ofList_append,
        String.utf8ByteSize_append, hOne, ih, Nat.add_comm]

theorem zero_notMem_replicate (count : Nat) :
    '\x00' ∉ (String.ofList (List.replicate count 'n')).toList := by
  rw [String.toList_ofList, List.mem_replicate]
  exact fun h => absurd h.2 (by decide)

/-- A name beyond the limit of the file system cannot even be looked up. -/
theorem locate_longPath : shelf.locate longPath = .error .nameTooLong := by
  have hSize : longName.utf8ByteSize = 256 := utf8ByteSize_replicate 256
  have hName : longName ≠ ".." := by
    intro hSame
    rw [hSame] at hSize
    exact absurd hSize (by decide)
  have hZero : '\x00' ∉ longName.toList := zero_notMem_replicate 256
  have hText : longPath.toString = longName := by simp [longPath, FilePath.toString]
  have hShort : longPath.isTooLong = false := by
    simp [FilePath.isTooLong, hText, hSize, FilePath.sizeLimit]
  rw [FileTree.locate, hShort]
  simp [longPath, hZero, hName, hSize, FileTree.start, FileTree.follow, FileTree.nameLimit,
    FileNode.find?, shelf]

/-- The failed lookup of such a name leaves the search for documents. -/
theorem found_longPath : Document.found .standard shelf longPath Document.suffixes =
    .error (.file ⟨.nameTooLong, longPath⟩) := by
  rw [Document.found, FileTree.findNode_eq_error_iff.mpr ⟨locate_longPath, rfl⟩]

/-- Not every survey comes to an end, though all documents are in order. -/
theorem not_ofPaths_reported : ¬ ∀ (host : Host) (t : FileTree) (parser : Parser)
    (ps : List FilePath), t.root.Distinct →
    (∀ p ∈ ps, ∀ documents, Document.found host t p Document.suffixes = .ok documents →
      ∀ q ∈ documents, Document.Answers host t parser q) →
    ∃ s, ofPaths host t parser ps = .ok s := by
  intro h
  have hAnswers : ∀ p ∈ [rulesPath, longPath], ∀ documents,
      Document.found .standard shelf p Document.suffixes = .ok documents →
        ∀ q ∈ documents, Document.Answers .standard shelf .standard q := by
    intro p hp documents hFound
    rcases List.mem_pair.mp hp with rfl | rfl
    · exact answers_shelf rulesPath (by simp) documents hFound
    · rw [found_longPath] at hFound
      cases hFound
  obtain ⟨s, hSurvey⟩ := h .standard shelf .standard [rulesPath, longPath] distinct_shelf hAnswers
  have hRules := ofPath_of_found found_rulesPath (hAnswers rulesPath (by simp) _ found_rulesPath)
  have hLong : ofPath .standard shelf .standard longPath =
      .error (.file ⟨.nameTooLong, longPath⟩) := by
    rw [ofPath, found_longPath]
  simp only [ofPaths, hRules, hLong] at hSurvey
  cases hSurvey

end Shelf

end Survey

end Bounty
