import Mathlib.Data.List.Perm.Basic
import Bounty.Proofs.FileTree
import Bounty.Proofs.FileTree.Writing

/-! The files below a folder are listed by looking up all that is below it. Each file is listed once
and in order, unless the path to something below the folder is too long or there is no room for the
folders inside of each other. -/
namespace Bounty

namespace FileNode

/-- The files below a folder are those among its entries and those below the folders in it. -/
theorem filesAmong_eq (entries : List (String × FileNode)) :
    filesAmong entries = entries.flatMap fun (name, node) => node.filesBelow.map (name :: ·) := by
  induction entries with
  | nil => rfl
  | cons entry rest ih =>
      obtain ⟨name, node⟩ := entry
      rw [filesAmong, ih, List.flatMap_cons]

theorem filterMap_under (name : String) (sights : List Sight) :
    (sights.map (.under name)).filterMap Sight.file? =
      (sights.filterMap Sight.file?).map (name :: ·) := by
  rw [List.filterMap_map, List.map_filterMap]
  congr 1
  funext sight
  rcases sight with ⟨way, _ | _⟩ | _ <;> rfl

theorem sights_file (room : Nat) (content : ByteArray) : (file content).sights room = [] := by
  cases room <;> rfl

/-- The sights in a folder that is not too deep are those of its entries and of what is below them.
-/
theorem sights_folder (room : Nat) (entries : List (String × FileNode)) :
    (FileNode.folder entries).sights (room + 1) =
      entries.map (fun (name, node) => .entry [name] node) ++
        entries.flatMap fun (name, node) => (node.sights room).map (.under name) := rfl

/-- Where no folder is too deep, every file below is come upon once. By induction on the room. -/
theorem filterMap_sights_perm {room : Nat} {entries : List (String × FileNode)}
    (h : .tooDeep ∉ (FileNode.folder entries).sights room) :
    (((FileNode.folder entries).sights room).filterMap Sight.file?).Perm
      (FileNode.folder entries).filesBelow := by
  induction room generalizing entries with
  | zero => exact absurd (List.mem_singleton_self _) h
  | succ room ih =>
      rw [sights_folder] at h ⊢
      rw [filesBelow, filesAmong_eq, List.filterMap_append, List.filterMap_map,
        List.filterMap_eq_flatMap_toList, List.filterMap_flatMap]
      refine (List.flatMap_append_perm _ _ _).trans (List.Perm.flatMap_left _ ?_)
      rintro ⟨name, node⟩ hEntry
      dsimp only [Function.comp_apply]
      rw [filterMap_under]
      cases node with
      | file content =>
          rw [sights_file]
          exact .refl _
      | folder inner =>
          have hInner : .tooDeep ∉ (FileNode.folder inner).sights room := by
            intro hMem
            apply h
            rw [List.mem_append, List.mem_flatMap]
            exact .inr ⟨_, hEntry, List.mem_map.mpr ⟨_, hMem, rfl⟩⟩
          exact (ih hInner).map _

/-- Where names are different, an entry is found by its name. -/
theorem mem_iff_lookup {entries : List (String × FileNode)} (hNames : (entries.map (·.1)).Nodup)
    {name : String} {node : FileNode} :
    (name, node) ∈ entries ↔ entries.lookup name = some node := by
  induction entries with
  | nil => simp
  | cons entry rest ih =>
      obtain ⟨first, inner⟩ := entry
      rw [List.map_cons, List.nodup_cons] at hNames
      rw [List.mem_cons, ih hNames.2, List.lookup_cons, Prod.mk.injEq]
      by_cases hFirst : name = first
      · subst hFirst
        have hOther : rest.lookup name ≠ some node := fun hFound =>
          hNames.1 (List.mem_map.mpr ⟨_, (ih hNames.2).mpr hFound, rfl⟩)
        simp [hOther, eq_comm]
      · have hTest : (name == first) = false := beq_eq_false_iff_ne.mpr hFirst
        simp [hFirst, hTest]

/-- What is come upon in a folder is one of its entries, or it is come upon in one of them. -/
theorem mem_sights_folder_iff {entries : List (String × FileNode)}
    (hNames : (entries.map (·.1)).Nodup) {room : Nat} {sight : Sight} :
    sight ∈ (FileNode.folder entries).sights (room + 1) ↔
      ∃ name node, entries.lookup name = some node ∧
        (sight = .entry [name] node ∨ ∃ inner ∈ node.sights room, inner.under name = sight) := by
  rw [sights_folder, List.mem_append, List.mem_map, List.mem_flatMap]
  simp only [Prod.exists, mem_iff_lookup hNames, List.mem_map]
  constructor
  · rintro (⟨name, node, hFound, rfl⟩ | ⟨name, node, hFound, hInner⟩)
    · exact ⟨name, node, hFound, .inl rfl⟩
    · exact ⟨name, node, hFound, .inr hInner⟩
  · rintro ⟨name, node, hFound, rfl | hInner⟩
    · exact .inl ⟨name, node, hFound, rfl⟩
    · exact .inr ⟨name, node, hFound, hInner⟩

/-- Of what is below a folder, all that is not too deep is come upon by its way, and nothing else.
By induction on the room. -/
theorem entry_mem_sights_iff {node found : FileNode} (h : node.Distinct) {room : Nat}
    {way : List String} : .entry way found ∈ node.sights room ↔
      way ≠ [] ∧ way.length ≤ room ∧ node.find? way = some found := by
  induction room generalizing node way with
  | zero =>
      have hNone : .entry way found ∉ node.sights 0 := by
        cases node <;> simp [sights]
      simp only [hNone, false_iff]
      rintro ⟨hWay, hLength, -⟩
      exact hWay (List.length_eq_zero_iff.mp (Nat.le_zero.mp hLength))
  | succ room ih =>
      cases node with
      | file content =>
          rw [sights_file]
          cases way <;> simp [find?, entry?]
      | folder entries =>
          rw [Distinct] at h
          rw [mem_sights_folder_iff h.1]
          cases way with
          | nil =>
              simp only [ne_eq, not_true_eq_false, false_and, iff_false]
              rintro ⟨name, node, -, hEntry | ⟨⟨_, _⟩ | _, -, hEntry⟩⟩ <;> cases hEntry
          | cons name rest =>
              have hLookup : (folder entries).find? (name :: rest) = some found ↔
                  ∃ node, entries.lookup name = some node ∧ node.find? rest = some found :=
                Option.bind_eq_some_iff
              rw [hLookup, List.length_cons, Nat.succ_le_succ_iff]
              constructor
              · rintro ⟨name', node, hFound, hEntry | ⟨⟨way, _⟩ | _, hMem, hEntry⟩⟩ <;> cases hEntry
                · exact ⟨List.cons_ne_nil _ _, Nat.zero_le _, _, hFound, rfl⟩
                · obtain ⟨-, hLength, hRest⟩ := (ih (h.2.lookup hFound)).mp hMem
                  exact ⟨List.cons_ne_nil _ _, hLength, _, hFound, hRest⟩
              · rintro ⟨-, hLength, node, hFound, hRest⟩
                refine ⟨name, node, hFound, ?_⟩
                by_cases hEnd : rest = []
                · subst hEnd
                  cases hRest
                  exact .inl rfl
                · exact .inr ⟨_, (ih (h.2.lookup hFound)).mpr ⟨hEnd, hLength, hRest⟩, rfl⟩

/-- There is no room below a folder that is inside of as many others as there is room for. By
induction on the room. -/
theorem tooDeep_mem_sights_iff {node : FileNode} (h : node.Distinct) {room : Nat} :
    .tooDeep ∈ node.sights room ↔
      ∃ way entries, way.length = room ∧ node.find? way = some (.folder entries) := by
  induction room generalizing node with
  | zero =>
      cases node with
      | file content => simp [sights, find?]
      | folder entries => simp [sights, find?]
  | succ room ih =>
      cases node with
      | file content =>
          rw [sights_file]
          simp only [List.not_mem_nil, false_iff, not_exists, not_and]
          rintro (_ | ⟨name, rest⟩) entries hLength hFound
          · cases hLength
          · cases hFound
      | folder entries =>
          rw [Distinct] at h
          rw [mem_sights_folder_iff h.1]
          constructor
          · rintro ⟨name, node, hFound, hEntry | ⟨⟨_, _⟩ | _, hMem, hEntry⟩⟩ <;> cases hEntry
            obtain ⟨way, inner, hLength, hWay⟩ := (ih (h.2.lookup hFound)).mp hMem
            exact ⟨name :: way, inner, by rw [List.length_cons, hLength],
              Option.bind_eq_some_iff.mpr ⟨node, hFound, hWay⟩⟩
          · rintro ⟨_ | ⟨name, rest⟩, inner, hLength, hWay⟩
            · cases hLength
            · obtain ⟨node, hFound, hRest⟩ := Option.bind_eq_some_iff.mp hWay
              have hMem := (ih (h.2.lookup hFound)).mpr ⟨rest, inner, Nat.succ.inj hLength, hRest⟩
              exact ⟨name, node, hFound, .inr ⟨_, hMem, rfl⟩⟩

end FileNode

namespace FileTree

variable {t : FileTree} {p : FilePath} {room : Nat}

/-- A lookup fails only at a name that is too long. -/
theorem findNode_eq_error_iff {fault : FileFault} :
    t.findNode p = .error fault ↔ t.locate p = .error .nameTooLong ∧ fault = ⟨.nameTooLong, p⟩ := by
  unfold findNode
  cases t.locate p with
  | ok way => simp
  | error problem => cases problem <;> simp [eq_comm]

theorem node?_of_findNode {node : Option FileNode} (h : t.findNode p = .ok node) :
    t.node? p = node := by
  unfold findNode at h
  unfold node?
  cases hWay : t.locate p with
  | ok way => simpa [hWay] using h
  | error problem => cases problem <;> simp_all

/-- What can be looked up has no path that is too long. -/
theorem isTooLong_of_node? {node : FileNode} (h : t.node? p = some node) : p.isTooLong = false := by
  cases hLong : p.isTooLong with
  | false => rfl
  | true =>
      have hLocate : ∃ problem, t.locate p = .error problem := by
        rw [locate, hLong]
        split <;> exact ⟨_, rfl⟩
      obtain ⟨problem, hProblem⟩ := hLocate
      rw [node?, hProblem] at h
      cases h

/-- Below the folder at a path a way leads to a node. -/
def Holds (t : FileTree) (p : FilePath) (way : List String) (node : FileNode) : Prop :=
  ∃ entries, t.node? p = some (.folder entries) ∧ (FileNode.folder entries).find? way = some node

/-- A path and all paths below it can be looked up, and there is room for the folders. -/
structure Listable (room : Nat) (t : FileTree) (p : FilePath) : Prop where
  located : t.locate p ≠ .error .nameTooLong
  short (way : List String) (node : FileNode) : t.Holds p way node →
    (p.append way).isTooLong = false
  shallow (way : List String) (entries : List (String × FileNode)) :
    t.Holds p way (.folder entries) → way.length < room

/-- What keeps the files below a folder from being listed. -/
inductive Unlisted (room : Nat) (t : FileTree) (p : FilePath) : ListingFault → Prop where
  | tooLong {way : List String} {node : FileNode} : t.Holds p way node →
    (p.append way).isTooLong = true → Unlisted room t p (.file ⟨.nameTooLong, p.append way⟩)
  | tooDeep {way : List String} {entries : List (String × FileNode)} :
    t.Holds p way (.folder entries) → room ≤ way.length → Unlisted room t p .tooDeep

/-- What makes a listing fail keeps the path from being listable. -/
theorem not_listable_of_unlisted {fault : ListingFault} (h : Unlisted room t p fault) :
    ¬ Listable room t p := by
  intro hListable
  cases h with
  | tooLong hHolds hLong =>
      rw [hListable.short _ _ hHolds] at hLong
      cases hLong
  | tooDeep hHolds hRoom => exact absurd (hListable.shallow _ _ hHolds) (Nat.not_lt.mpr hRoom)

section Folder

variable {entries : List (String × FileNode)} (hNode : t.node? p = some (.folder entries))

include hNode

theorem holds_iff {way : List String} {node : FileNode} :
    t.Holds p way node ↔ (FileNode.folder entries).find? way = some node := by
  simp [Holds, hNode]

/-- The files below a folder are listed where every sight can be looked up. -/
theorem filesBelow_of_folder :
    t.filesBelow room p = ((FileNode.folder entries).sights room).forM (lookUp p) >>= fun _ =>
      .ok (((((FileNode.folder entries).sights room).filterMap FileNode.Sight.file?).mergeSort
        FilePath.namesLe).map p.append) := by
  rw [filesBelow, hNode]
  rfl

end Folder

/-- A check of all items passes if each of them passes. -/
theorem forM_eq_ok_iff {α ε : Type} {f : α → Except ε Unit} {items : List α} :
    items.forM f = .ok () ↔ ∀ item ∈ items, f item = .ok () := by
  induction items with
  | nil => simp [pure, Except.pure]
  | cons item rest ih =>
      rw [List.forM, List.forall_mem_cons, ← ih]
      cases f item <;> simp [bind, Except.bind]

/-- A check of all items that fails has failed at one of them. -/
theorem exists_of_forM_eq_error {α ε : Type} {f : α → Except ε Unit} {items : List α} {x : ε}
    (h : items.forM f = .error x) : ∃ item ∈ items, f item = .error x := by
  induction items with
  | nil => cases h
  | cons item rest ih =>
      rw [List.forM] at h
      cases hItem : f item with
      | error y =>
          rw [hItem] at h
          cases h
          exact ⟨item, List.mem_cons_self .., hItem⟩
      | ok _ =>
          rw [hItem] at h
          obtain ⟨other, hMem, hOther⟩ := ih h
          exact ⟨other, List.mem_cons_of_mem _ hMem, hOther⟩

/-- Nothing keeps a sight from being looked up but its path or that it is too deep. -/
theorem cause_of_lookUp {sight : FileNode.Sight} {fault : ListingFault}
    (h : lookUp p sight = .error fault) : (sight = .tooDeep ∧ fault = .tooDeep) ∨
      ∃ way node, sight = .entry way node ∧ (p.append way).isTooLong = true ∧
        fault = .file ⟨.nameTooLong, p.append way⟩ := by
  cases sight with
  | tooDeep =>
      cases h
      exact .inl ⟨rfl, rfl⟩
  | entry way node =>
      rw [lookUp] at h
      split at h
      · next hLong =>
          cases h
          exact .inr ⟨way, node, rfl, hLong, rfl⟩
      · cases h

section Listing

variable {entries : List (String × FileNode)} (hNode : t.node? p = some (.folder entries))
  {files : List FilePath} (hFiles : t.filesBelow room p = .ok files)
  (hDistinct : (FileNode.folder entries).Distinct)

section Sight

include hNode hFiles

/-- Where files are listed, all that is come upon could be looked up. -/
theorem lookUp_of_filesBelow {sight : FileNode.Sight}
    (hMem : sight ∈ (FileNode.folder entries).sights room) : lookUp p sight = .ok () := by
  rw [filesBelow_of_folder hNode] at hFiles
  cases hSights : ((FileNode.folder entries).sights room).forM (lookUp p) with
  | ok _ => exact forM_eq_ok_iff.mp hSights sight hMem
  | error found =>
      rw [hSights] at hFiles
      cases hFiles

/-- Where files are listed, no folder below is deeper than there is room for. -/
theorem tooDeep_notMem_sights : .tooDeep ∉ (FileNode.folder entries).sights room := by
  intro hMem
  have hSight := lookUp_of_filesBelow hNode hFiles hMem
  cases hSight

end Sight

include hNode hDistinct

/-- Where files are not listed, there is something below the folder that keeps them from it. -/
theorem unlisted_of_error {fault : ListingFault} (h : t.filesBelow room p = .error fault) :
    Unlisted room t p fault := by
  rw [filesBelow_of_folder hNode] at h
  cases hSights : ((FileNode.folder entries).sights room).forM (lookUp p) with
  | ok _ =>
      rw [hSights] at h
      cases h
  | error found =>
      rw [hSights] at h
      cases h
      obtain ⟨sight, hMem, hSight⟩ := exists_of_forM_eq_error hSights
      rcases cause_of_lookUp hSight with ⟨rfl, rfl⟩ | ⟨way, node, rfl, hLong, rfl⟩
      · obtain ⟨way, inner, hLength, hWay⟩ :=
          (FileNode.tooDeep_mem_sights_iff hDistinct).mp hMem
        exact .tooDeep ((holds_iff hNode).mpr hWay) (Nat.le_of_eq hLength.symm)
      · obtain ⟨-, -, hWay⟩ := (FileNode.entry_mem_sights_iff hDistinct).mp hMem
        exact .tooLong ((holds_iff hNode).mpr hWay) hLong

include hFiles

/-- The files below a folder, by their ways. -/
theorem exists_ways : ∃ ways : List (List String), files = ways.map p.append ∧
    ways.Pairwise (· < ·) ∧ ∀ way, way ∈ ways ↔ (FileNode.folder entries).EndsAtFile way := by
  have hPerm := FileNode.filterMap_sights_perm (tooDeep_notMem_sights hNode hFiles)
  refine ⟨(((FileNode.folder entries).sights room).filterMap FileNode.Sight.file?).mergeSort
    FilePath.namesLe, ?_, ?_, ?_⟩
  · rw [filesBelow_of_folder hNode] at hFiles
    cases hSights : ((FileNode.folder entries).sights room).forM (lookUp p) with
    | ok _ =>
        rw [hSights] at hFiles
        cases hFiles
        rfl
    | error fault =>
        rw [hSights] at hFiles
        cases hFiles
  · have hSorted := List.pairwise_mergeSort FilePath.namesLe_trans FilePath.namesLe_total
      (((FileNode.folder entries).sights room).filterMap FileNode.Sight.file?)
    have hNodup := ((List.mergeSort_perm _ FilePath.namesLe).trans hPerm).nodup_iff.mpr
      (FileNode.nodup_filesBelow hDistinct)
    exact (hSorted.and hNodup).imp fun ⟨hLe, hNe⟩ =>
      (FilePath.namesLe_iff.mp hLe).resolve_right hNe
  · intro way
    rw [List.mem_mergeSort, hPerm.mem_iff, FileNode.mem_filesBelow_iff hDistinct]

/-- A folder whose files are listed is not deeper than there is room for. -/
theorem length_lt_of_filesBelow {way : List String} {inner : List (String × FileNode)}
    (h : (FileNode.folder entries).find? way = some (.folder inner)) : way.length < room := by
  by_contra hRoom
  apply tooDeep_notMem_sights hNode hFiles
  have hFolder :
      ∃ others, (FileNode.folder entries).find? (way.take room) = some (.folder others) := by
    cases hRest : way.drop room with
    | nil =>
        rw [List.drop_eq_nil_iff] at hRest
        rw [List.take_of_length_le hRest]
        exact ⟨inner, h⟩
    | cons name rest =>
        rw [← List.take_append_drop room way, hRest] at h
        exact FileNode.exists_folder_of_find?_append h
  obtain ⟨others, hOthers⟩ := hFolder
  rw [FileNode.tooDeep_mem_sights_iff hDistinct]
  exact ⟨way.take room, others, List.length_take_of_le (Nat.not_lt.mp hRoom), hOthers⟩

/-- Whatever is below a folder whose files are listed has a path that can be looked up. -/
theorem short_of_filesBelow {way : List String} {node : FileNode}
    (h : (FileNode.folder entries).find? way = some node) : (p.append way).isTooLong = false := by
  by_cases hHere : way = []
  · subst hHere
    have hSame : p.append [] = p := by simp [FilePath.append]
    rw [hSame]
    exact isTooLong_of_node? hNode
  · have hLength : way.length ≤ room := by
      obtain ⟨above, name, rfl⟩ := List.eq_nil_or_concat' way |>.resolve_left hHere
      obtain ⟨inner, hInner⟩ := FileNode.exists_folder_of_find?_append h
      have hAbove := length_lt_of_filesBelow hNode hFiles hDistinct hInner
      rw [List.length_append, List.length_singleton]
      omega
    have hMem := (FileNode.entry_mem_sights_iff hDistinct).mpr ⟨hHere, hLength, h⟩
    have hSight := lookUp_of_filesBelow hNode hFiles hMem
    cases hLong : (p.append way).isTooLong with
    | false => rfl
    | true =>
        rw [lookUp, hLong] at hSight
        cases hSight

end Listing

end FileTree

end Bounty
