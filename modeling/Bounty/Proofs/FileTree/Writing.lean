import Mathlib.Data.List.Induction
import Bounty.FileTree

/-! Writing a file. It is found again where it was written, under the same path: folders stay
folders, and what they hold stays there, so every path that could be followed still can. -/
namespace Bounty

namespace FileNode

section SetEntry

variable {name other : String} {node : FileNode} {entries : List (String × FileNode)}

@[simp] theorem lookup_setEntry_self (name : String) (node : FileNode)
    (entries : List (String × FileNode)) :
    (setEntry name node entries).lookup name = some node := by
  induction entries with
  | nil => simp [setEntry]
  | cons entry rest ih =>
      obtain ⟨n, old⟩ := entry
      by_cases hName : n = name
      · simp [setEntry, hName]
      · have hOther : (name == n) = false := beq_eq_false_iff_ne.mpr (Ne.symm hName)
        simp [setEntry, hName, List.lookup_cons, hOther, ih]

/-- To set an entry leaves the others as they are. -/
theorem lookup_setEntry_of_ne (h : other ≠ name) :
    (setEntry name node entries).lookup other = entries.lookup other := by
  have hTest : (other == name) = false := beq_eq_false_iff_ne.mpr h
  induction entries with
  | nil => simp [setEntry, List.lookup_cons, hTest]
  | cons entry rest ih =>
      obtain ⟨n, old⟩ := entry
      by_cases hName : n = name
      · simp [setEntry, hName, List.lookup_cons, hTest]
      · simp [setEntry, hName, List.lookup_cons, ih]

theorem isSome_lookup_setEntry (h : (entries.lookup other).isSome) :
    ((setEntry name node entries).lookup other).isSome := by
  by_cases hName : other = name
  · simp [hName]
  · rwa [lookup_setEntry_of_ne hName]

end SetEntry

/-- A way in two parts is followed in two steps. -/
theorem find?_append (node : FileNode) (way rest : List String) :
    node.find? (way ++ rest) = (node.find? way).bind (·.find? rest) := by
  induction way generalizing node with
  | nil => rfl
  | cons name way ih =>
      rw [List.cons_append, find?, find?, Option.bind_assoc]
      exact congrArg _ (funext fun inner => ih inner)

/-- What lies above something is a folder. -/
theorem exists_folder_of_find?_append {root node : FileNode} {way : List String} {name : String}
    {rest : List String} (h : root.find? (way ++ name :: rest) = some node) :
    ∃ entries, root.find? way = some (.folder entries) := by
  rw [find?_append] at h
  obtain ⟨inner, hInner, hRest⟩ := Option.bind_eq_some_iff.mp h
  cases inner with
  | file content => simp [find?, entry?] at hRest
  | folder entries => exact ⟨entries, hInner⟩

/-- Folders that stay folders, with all names that they have. -/
def Keeps (root root' : FileNode) : Prop :=
  ∀ way entries, root.find? way = some (.folder entries) →
    ∃ entries', root'.find? way = some (.folder entries') ∧
      ∀ name, (entries.lookup name).isSome → (entries'.lookup name).isSome

theorem keeps_refl (root : FileNode) : root.Keeps root :=
  fun _ entries h => ⟨entries, h, fun _ => id⟩

theorem keeps_folder {entries entries' : List (String × FileNode)}
    (hNames : ∀ name, (entries.lookup name).isSome → (entries'.lookup name).isSome)
    (h : ∀ name inner, entries.lookup name = some inner →
      ∃ inner', entries'.lookup name = some inner' ∧ inner.Keeps inner') :
    (FileNode.folder entries).Keeps (.folder entries') := by
  intro way found hFound
  cases way with
  | nil =>
      cases hFound
      exact ⟨entries', rfl, hNames⟩
  | cons name rest =>
      obtain ⟨inner, hInner, hRest⟩ := Option.bind_eq_some_iff.mp hFound
      obtain ⟨inner', hInner', hKeeps⟩ := h name inner hInner
      obtain ⟨found', hFound', hFoundNames⟩ := hKeeps rest found hRest
      exact ⟨found', Option.bind_eq_some_iff.mpr ⟨inner', hInner', hFound'⟩, hFoundNames⟩

/-- A file holds no folder that would have to be kept. -/
theorem keeps_file (content : ByteArray) (root' : FileNode) : (file content).Keeps root' := by
  intro way entries h
  cases way <;> simp [find?, entry?] at h

section Put

variable {new : FileNode} {name : String} {entries : List (String × FileNode)} {rest : List String}

/-- A node is put below an entry that is there. -/
theorem put_cons_of_some {inner : FileNode} (hRest : rest ≠ [])
    (h : entries.lookup name = some inner) : (folder entries).put new (name :: rest) =
      folder (setEntry name (inner.put new rest) entries) := by
  cases rest with
  | nil => exact absurd rfl hRest
  | cons next rest => simp only [put, h]

theorem put_cons_of_none (hRest : rest ≠ []) (h : entries.lookup name = none) :
    (folder entries).put new (name :: rest) = folder entries := by
  cases rest with
  | nil => exact absurd rfl hRest
  | cons next rest => simp only [put, h]

/-- What is put where no folder is leaves all folders. -/
theorem keeps_put {root : FileNode} (new : FileNode) {way : List String}
    (h : ∀ entries, root.find? way ≠ some (folder entries)) : root.Keeps (root.put new way) := by
  induction way generalizing root with
  | nil =>
      cases root with
      | folder entries => exact absurd rfl (h entries)
      | file content => exact keeps_file content _
  | cons name rest ih =>
      cases root with
      | file content => exact keeps_refl _
      | folder entries =>
          have hInner {inner : FileNode} (hName : entries.lookup name = some inner) :
              inner.find? rest = (folder entries).find? (name :: rest) := by
            rw [find?, entry?, hName, Option.bind_some]
          by_cases hRest : rest = []
          · subst hRest
            refine keeps_folder (fun _ => isSome_lookup_setEntry) fun other inner hOther => ?_
            by_cases hName : other = name
            · subst hName
              cases inner with
              | folder found => exact absurd (hInner hOther).symm (h found)
              | file content => exact ⟨new, lookup_setEntry_self .., keeps_file content new⟩
            · exact ⟨inner, (lookup_setEntry_of_ne hName).trans hOther, keeps_refl inner⟩
          · cases hName : entries.lookup name with
            | none =>
                rw [put_cons_of_none hRest hName]
                exact keeps_refl _
            | some inner =>
                rw [put_cons_of_some hRest hName]
                refine keeps_folder (fun _ => isSome_lookup_setEntry) fun other found hOther => ?_
                by_cases hSame : other = name
                · subst hSame
                  cases hName.symm.trans hOther
                  exact ⟨_, lookup_setEntry_self .., ih fun es => hInner hName ▸ h es⟩
                · exact ⟨found, (lookup_setEntry_of_ne hSame).trans hOther, keeps_refl found⟩

/-- What is put into a folder is found there. -/
theorem find?_put {root : FileNode} (new : FileNode) {way : List String} (name : String)
    (h : root.find? way = some (folder entries)) :
    (root.put new (way ++ [name])).find? (way ++ [name]) = some new := by
  induction way generalizing root with
  | nil =>
      cases h
      simp [put, find?, entry?]
  | cons first rest ih =>
      cases root with
      | file content => simp [find?, entry?] at h
      | folder others =>
          obtain ⟨inner, hInner, hRest⟩ := Option.bind_eq_some_iff.mp h
          have hPut := ih hRest
          rw [List.cons_append, put_cons_of_some (by simp) hInner, find?, entry?,
            lookup_setEntry_self, Option.bind_some, hPut]

end Put

end FileNode

namespace FileTree

variable {t t' : FileTree} {p : FilePath} {reached way : List String} {content : ByteArray}

/-- Names are followed one after the other. -/
theorem follow_append (names more : List String) : t.follow reached (names ++ more) =
    (t.follow reached names).bind fun place => t.follow place more := by
  induction names generalizing reached with
  | nil => rfl
  | cons name rest ih =>
      rw [List.cons_append, follow, follow]
      split
      · rfl
      · rfl
      · split
        · exact ih
        · split
          · rfl
          · split
            · exact ih
            · rfl

/-- From a folder a name leads up, fails because it is too long or missing, or leads to its entry.
-/
theorem follow_of_folder {entries : List (String × FileNode)} {name : String}
    {rest : List String} (h : t.root.find? reached = some (.folder entries)) :
    t.follow reached (name :: rest) =
      if name = ".." then t.follow reached.dropLast rest
      else if name.utf8ByteSize > nameLimit then .error .nameTooLong
      else if (entries.lookup name).isSome then t.follow (reached ++ [name]) rest
      else .error .noSuchFile := by
  rw [follow, h]
  simp only [beq_iff_eq]

/-- Names only lead on from a folder. -/
theorem exists_folder_of_follow {name : String} {rest : List String}
    (h : t.follow reached (name :: rest) = .ok way) :
    ∃ entries, t.root.find? reached = some (.folder entries) := by
  rw [follow] at h
  split at h
  · cases h
  · cases h
  · next entries hFolder => exact ⟨entries, hFolder⟩

/-- Where folders stay what they are, ways stay open. -/
theorem follow_of_keeps (hKeeps : t.root.Keeps t'.root) {names : List String}
    (h : t.follow reached names = .ok way) : t'.follow reached names = .ok way := by
  induction names generalizing reached with
  | nil => exact h
  | cons name rest ih =>
      obtain ⟨entries, hFolder⟩ := exists_folder_of_follow h
      obtain ⟨entries', hFolder', hNames⟩ := hKeeps reached entries hFolder
      rw [follow_of_folder hFolder] at h
      rw [follow_of_folder hFolder']
      by_cases hUp : name = ".."
      · rw [if_pos hUp] at h ⊢
        exact ih h
      · rw [if_neg hUp] at h ⊢
        by_cases hLong : name.utf8ByteSize > nameLimit
        · rw [if_pos hLong] at h
          cases h
        · rw [if_neg hLong] at h ⊢
          by_cases hEntry : (entries.lookup name).isSome
          · rw [if_pos hEntry] at h
            rw [if_pos (hNames name hEntry)]
            exact ih h
          · rw [if_neg hEntry] at h
            cases h

/-- A path that can be looked up as a whole. -/
structure Sound (p : FilePath) : Prop where
  noZero : (p.names.any fun name => name.toList.contains '\x00') = false
  short : p.isTooLong = false

theorem locate_of_sound (h : Sound p) : t.locate p = t.follow (t.start p) p.names := by
  rw [locate, h.noZero, if_neg (by decide), h.short, if_neg (by decide)]

/-- A path with a place is one that can be looked up as a whole. -/
theorem sound_of_place (h : t.place p = .ok way) : Sound p := by
  by_cases hZero : (p.names.any fun name => name.toList.contains '\x00') = true
  · have hLocate : t.locate p = .error .zeroInPath := by rw [locate, if_pos hZero]
    simp [place, hLocate] at h
  · by_cases hLong : p.isTooLong = true
    · have hLocate : t.locate p = .error .nameTooLong := by
        rw [locate, if_neg hZero, if_pos hLong]
      simp [place, hLocate] at h
    · exact ⟨by simpa using hZero, by simpa using hLong⟩

/-- Where a file can be put: in a folder that the path without its last name leads to, under this
name, but not in place of a folder. -/
structure Place (t : FileTree) (p : FilePath) (above : List String) (name : String) : Prop where
  sound : Sound p
  names : p.names = p.names.dropLast ++ [name]
  leads : t.follow (t.start p) p.names.dropLast = .ok above
  folder : ∃ entries, t.root.find? above = some (.folder entries)
  below : name ≠ ".."
  shortName : name.utf8ByteSize ≤ nameLimit
  free : ∀ entries, t.root.find? (above ++ [name]) ≠ some (.folder entries)

/-- Above a folder there are folders. -/
theorem find?_dropLast {root : FileNode} {entries : List (String × FileNode)}
    (h : root.find? way = some (.folder entries)) :
    ∃ others, root.find? way.dropLast = some (.folder others) := by
  cases way using List.reverseRecOn with
  | nil => exact ⟨entries, h⟩
  | append_singleton way name =>
      rw [List.dropLast_concat]
      exact FileNode.exists_folder_of_find?_append h

/-- If names can be followed to the end, the first of them can. -/
theorem exists_follow_of_append {names more : List String}
    (h : t.follow reached (names ++ more) = .ok way) :
    ∃ place, t.follow reached names = .ok place ∧ t.follow place more = .ok way := by
  rw [follow_append] at h
  cases hPlace : t.follow reached names with
  | error problem =>
      rw [hPlace] at h
      cases h
  | ok place =>
      rw [hPlace] at h
      exact ⟨place, rfl, h⟩

/-- A path that leads to something other than a folder goes through folders to its last name. -/
theorem place_of_locate {name : String} (hSound : Sound p)
    (hNames : p.names = p.names.dropLast ++ [name]) (h : t.locate p = .ok way)
    (hFree : ∀ entries, t.root.find? way ≠ some (.folder entries)) :
    ∃ above, t.Place p above name := by
  rw [locate_of_sound hSound, hNames] at h
  obtain ⟨above, hAbove, hLast⟩ := exists_follow_of_append h
  obtain ⟨entries, hFolder⟩ := exists_folder_of_follow hLast
  rw [follow_of_folder hFolder] at hLast
  by_cases hUp : name = ".."
  · rw [if_pos hUp] at hLast
    cases hLast
    obtain ⟨others, hOthers⟩ := find?_dropLast hFolder
    exact absurd hOthers (hFree others)
  · rw [if_neg hUp] at hLast
    by_cases hLong : name.utf8ByteSize > nameLimit
    · rw [if_pos hLong] at hLast
      cases hLast
    · rw [if_neg hLong] at hLast
      by_cases hEntry : (entries.lookup name).isSome
      · rw [if_pos hEntry] at hLast
        cases hLast
        exact ⟨above, hSound, hNames, hAbove, ⟨entries, hFolder⟩, hUp, Nat.not_lt.mp hLong, hFree⟩
      · rw [if_neg hEntry] at hLast
        cases hLast

/-- Where a path leads nowhere, its last name may be a new one in a folder. -/
theorem place_of_new {problem : FileProblem} {above : List String} {name : String}
    (hSound : Sound p) (hNames : p.names = p.names.dropLast ++ [name])
    (h : t.locate p = .error problem) (hProblem : problem ≠ .nameTooLong)
    (hLeads : t.follow (t.start p) p.names.dropLast = .ok above) (hBelow : name ≠ "..")
    (hFolder : (t.root.find? above).any (·.isFolder))
    (hFree : ∀ entries, t.root.find? (above ++ [name]) ≠ some (.folder entries)) :
    t.Place p above name := by
  cases hNode : t.root.find? above with
  | none => simp [hNode] at hFolder
  | some node => cases node with
    | file content => simp [hNode, FileNode.isFolder] at hFolder
    | folder entries =>
      refine ⟨hSound, hNames, hLeads, ⟨entries, hNode⟩, hBelow, Nat.not_lt.mp fun hLong => ?_,
        hFree⟩
      rw [locate_of_sound hSound, hNames, follow_append, hLeads] at h
      change t.follow above [name] = _ at h
      rw [follow_of_folder hNode, if_neg hBelow, if_pos hLong] at h
      cases h
      exact hProblem rfl

/-- Where something can be put is where a path leads to, or else a new name in a folder. -/
theorem place_cases (h : t.place p = .ok way) : t.locate p = .ok way ∨
    ∃ problem above name, t.locate p = .error problem ∧ problem ≠ .nameTooLong ∧
      t.follow (t.start p) p.names.dropLast = .ok above ∧ p.names.getLast? = some name ∧
      name ≠ ".." ∧ (t.root.find? above).any (·.isFolder) ∧ way = above ++ [name] := by
  rw [place] at h
  split at h
  · next hLocate =>
    cases h
    exact .inl hLocate
  · cases h
  · cases h
  · next problem _ hLong hLocate =>
    split at h
    · next above name hLeads hLast =>
      split at h
      · next hFolder =>
        cases h
        rw [Bool.and_eq_true, bne_iff_ne] at hFolder
        exact .inr ⟨problem, above, name, hLocate, hLong, hLeads, hLast, hFolder.1, hFolder.2, rfl⟩
      · cases h
    · cases h

/-- Files are only written in such a place. -/
theorem exists_place_of_write (hNamed : p.names ≠ []) (h : t.write p content = .ok t') :
    ∃ above name, t.Place p above name := by
  have hNames : p.names = p.names.dropLast ++ [p.names.getLast hNamed] :=
    (List.dropLast_concat_getLast hNamed).symm
  rw [write] at h
  cases hPlace : t.place p with
  | error problem =>
      rw [hPlace] at h
      cases h
  | ok way =>
      have hSound := sound_of_place hPlace
      have hFree : ∀ entries, t.root.find? way ≠ some (.folder entries) := by
        intro entries hFolder
        simp [hPlace, hFolder, FileNode.isFolder] at h
      rcases place_cases hPlace with
        hLocate | ⟨problem, above, name, hLocate, hLong, hLeads, hLast, hBelow, hFolder, rfl⟩
      · obtain ⟨above, hAbove⟩ := place_of_locate hSound hNames hLocate hFree
        exact ⟨above, _, hAbove⟩
      · have hName : p.names.getLast hNamed = name := by
          rw [List.getLast?_eq_some_getLast hNamed] at hLast
          exact Option.some.inj hLast
        rw [hName] at hNames
        exact ⟨above, name,
          place_of_new hSound hNames hLocate hLong hLeads hBelow hFolder hFree⟩

namespace Place

variable {above : List String} {name : String} (h : t.Place p above name)

include h

/-- A path to an entry of a folder is located if the entry is there. -/
theorem locate_eq {entries : List (String × FileNode)}
    (hFolder : t.root.find? above = some (.folder entries)) :
    t.locate p = if (entries.lookup name).isSome then .ok (above ++ [name])
      else .error .noSuchFile := by
  rw [locate_of_sound h.sound, h.names, follow_append, h.leads]
  change t.follow above [name] = _
  rw [follow_of_folder hFolder, if_neg h.below, if_neg (Nat.not_lt.mpr h.shortName)]
  rfl

theorem place_eq : t.place p = .ok (above ++ [name]) := by
  obtain ⟨entries, hFolder⟩ := h.folder
  rw [place, h.locate_eq hFolder]
  by_cases hEntry : (entries.lookup name).isSome
  · rw [if_pos hEntry]
  · have hLast : p.names.getLast? = some name := by rw [h.names, List.getLast?_concat]
    rw [if_neg hEntry]
    simp [h.leads, hLast, h.below, hFolder, FileNode.isFolder]

/-- To write a file puts its content in its place and leaves the working folder as it is. -/
theorem write_eq (content : ByteArray) : t.write p content =
    .ok { t with root := t.root.put (.file content) (above ++ [name]) } := by
  have hFree : (t.root.find? (above ++ [name])).any (·.isFolder) = false := by
    cases hNode : t.root.find? (above ++ [name]) with
    | none => rfl
    | some node => cases node with
      | file content => rfl
      | folder entries => exact absurd hNode (h.free entries)
  rw [write, h.place_eq]
  simp [hFree]

/-- Where folders stay what they are, the path leads to what is in the place then. -/
theorem locate_of_keeps {node : FileNode} (hWorking : t'.working = t.working)
    (hKeeps : t.root.Keeps t'.root) (hFound : t'.root.find? (above ++ [name]) = some node) :
    t'.locate p = .ok (above ++ [name]) := by
  obtain ⟨entries, hFolder⟩ := h.folder
  obtain ⟨entries', hFolder', -⟩ := hKeeps above entries hFolder
  have hStart : t'.start p = t.start p := by rw [start, start, hWorking]
  have hEntry : (entries'.lookup name).isSome := by
    rw [FileNode.find?_append, hFolder', Option.bind_some, FileNode.find?, FileNode.entry?]
      at hFound
    obtain ⟨inner, hInner, -⟩ := Option.bind_eq_some_iff.mp hFound
    rw [hInner, Option.isSome_some]
  rw [locate_of_sound h.sound, h.names, follow_append, hStart, follow_of_keeps hKeeps h.leads]
  change t'.follow above [name] = _
  rw [follow_of_folder hFolder', if_neg h.below, if_neg (Nat.not_lt.mpr h.shortName),
    if_pos hEntry]
  rfl

/-- What is written in a place, whatever it is, is found there and read again. -/
theorem read_write (content : ByteArray) : ∃ t', t.write p content = .ok t' ∧
    t'.findNode p = .ok (some (.file content)) ∧ t'.read p = .ok content := by
  obtain ⟨entries, hFolder⟩ := h.folder
  have hFound := FileNode.find?_put (.file content) name hFolder
  let t' : FileTree := { t with root := t.root.put (.file content) (above ++ [name]) }
  have hLocate : t'.locate p = .ok (above ++ [name]) :=
    h.locate_of_keeps rfl (FileNode.keeps_put (.file content) h.free) hFound
  have hNode : t'.root.find? (above ++ [name]) = some (.file content) := hFound
  refine ⟨t', h.write_eq content, ?_, ?_⟩
  · simp only [findNode, hLocate, hNode]
  · simp only [read, hLocate, hNode]

end Place

/-- A path with a name under which a file can be written, once the folders above it are made. -/
structure CanWrite (t : FileTree) (p : FilePath) : Prop where
  named : p.names ≠ []
  writes : ∃ folders content t', t.ensureFolder p.parent = .ok folders ∧
    folders.write p content = .ok t'

/-- If any file can be written under a path, every file can be, and is read there again. -/
theorem CanWrite.read_write (h : t.CanWrite p) : ∃ folders, t.ensureFolder p.parent = .ok folders ∧
    ∀ content, ∃ t', folders.write p content = .ok t' ∧
      t'.findNode p = .ok (some (.file content)) ∧ t'.read p = .ok content := by
  obtain ⟨folders, content, t', hFolders, hWrite⟩ := h.writes
  obtain ⟨above, name, hPlace⟩ := exists_place_of_write h.named hWrite
  exact ⟨folders, hFolders, hPlace.read_write⟩

end FileTree

end Bounty
