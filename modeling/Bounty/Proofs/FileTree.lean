import Mathlib.Data.List.Nodup
import Bounty.FileTree

/-! The files below a folder. Each way that ends at a file is listed once, and the ways ascend name
by name. -/
namespace Bounty

namespace FilePath

/-- The order of ways is that of lists: name by name, and the shorter way first. -/
theorem namesLe_iff {a b : List String} : namesLe a b = true ↔ a < b ∨ a = b := by
  induction a generalizing b with
  | nil => cases b <;> simp [namesLe]
  | cons x xs ih =>
      cases b with
      | nil => simp [namesLe]
      | cons y ys =>
          by_cases h : x = y
          · simp [namesLe, h, ih]
          · simp [namesLe, List.cons_lt_cons_iff, h]

/-- Of two ways one comes first. -/
theorem namesLe_total (a b : List String) : (namesLe a b || namesLe b a) = true := by
  rw [Bool.or_eq_true, namesLe_iff, namesLe_iff]
  by_cases hLess : a < b
  · exact .inl (.inl hLess)
  · by_cases hMore : b < a
    · exact .inr (.inl hMore)
    · exact .inl (.inr (List.le_antisymm (List.not_lt.mp hMore) (List.not_lt.mp hLess)))

theorem namesLe_trans (a b c : List String) (hab : namesLe a b = true)
    (hbc : namesLe b c = true) : namesLe a c = true := by
  rw [namesLe_iff] at *
  rcases hab with hab | rfl
  · rcases hbc with hbc | rfl
    · exact .inl (List.lt_trans hab hbc)
    · exact .inl hab
  · exact hbc

end FilePath

namespace FileNode

mutual

/-- In every folder the entries have different names. -/
def Distinct : FileNode → Prop
  | .file _ => True
  | .folder entries => (entries.map (·.1)).Nodup ∧ DistinctAmong entries

def DistinctAmong : List (String × FileNode) → Prop
  | [] => True
  | (_, node) :: rest => node.Distinct ∧ DistinctAmong rest

end

/-- Whether a way leads to a file. -/
def EndsAtFile (node : FileNode) (way : List String) : Prop :=
  ∃ content, node.find? way = some (.file content)

/-- A way from a folder to a file starts with the name of an entry and goes on from there. -/
theorem endsAtFile_folder_iff {entries : List (String × FileNode)} {way : List String} :
    (FileNode.folder entries).EndsAtFile way ↔
      ∃ name rest node, way = name :: rest ∧ entries.lookup name = some node ∧
        node.EndsAtFile rest := by
  cases way with
  | nil => simp [EndsAtFile, find?]
  | cons name rest =>
      cases h : entries.lookup name with
      | none => simp [EndsAtFile, find?, entry?, h]
      | some node => simp [EndsAtFile, find?, entry?, h]

/-- The names of ways start with the names of the entries. -/
theorem exists_name_of_mem_filesAmong {entries : List (String × FileNode)} {way : List String}
    (h : way ∈ filesAmong entries) :
    ∃ name rest, way = name :: rest ∧ name ∈ entries.map (·.1) := by
  induction entries with
  | nil => simp [filesAmong] at h
  | cons entry others ih =>
      obtain ⟨name, node⟩ := entry
      rw [filesAmong, List.mem_append, List.mem_map] at h
      rcases h with ⟨rest, -, rfl⟩ | h
      · exact ⟨name, rest, rfl, by simp⟩
      · obtain ⟨first, rest, hWay, hMem⟩ := ih h
        exact ⟨first, rest, hWay, by simp [hMem]⟩

mutual

/-- The files below a node are those that a way from it ends at. -/
theorem mem_filesBelow_iff {node : FileNode} (h : node.Distinct) {way : List String} :
    way ∈ node.filesBelow ↔ node.EndsAtFile way := by
  match node with
  | .file content => cases way <;> simp [filesBelow, EndsAtFile, find?, entry?]
  | .folder entries =>
      rw [Distinct] at h
      rw [filesBelow, mem_filesAmong_iff h.1 h.2, endsAtFile_folder_iff]

/-- A file among the entries of a folder is one below the entry that its way starts with. -/
theorem mem_filesAmong_iff {entries : List (String × FileNode)}
    (hNames : (entries.map (·.1)).Nodup) (h : DistinctAmong entries) {way : List String} :
    way ∈ filesAmong entries ↔
      ∃ name rest node, way = name :: rest ∧ entries.lookup name = some node ∧
        node.EndsAtFile rest := by
  match entries with
  | [] => simp [filesAmong]
  | (first, node) :: others =>
      rw [DistinctAmong] at h
      rw [List.map_cons, List.nodup_cons] at hNames
      rw [filesAmong, List.mem_append, List.mem_map, mem_filesAmong_iff hNames.2 h.2]
      constructor
      · rintro (⟨rest, hRest, rfl⟩ | ⟨name, rest, found, rfl, hFound, hEnds⟩)
        · exact ⟨first, rest, node, rfl, by simp, (mem_filesBelow_iff h.1).mp hRest⟩
        · -- the name of a later entry is another one
          have hOther : name ≠ first := by
            rintro rfl
            obtain ⟨before, after, hSplit, -⟩ := List.lookup_eq_some_iff.mp hFound
            exact hNames.1 (by simp [hSplit])
          have hTest : (name == first) = false := beq_eq_false_iff_ne.mpr hOther
          exact ⟨name, rest, found, rfl, by simp [List.lookup_cons, hTest, hFound], hEnds⟩
      · rintro ⟨name, rest, found, rfl, hFound, hEnds⟩
        by_cases hFirst : name = first
        · subst hFirst
          obtain rfl : node = found := by simpa using hFound
          exact .inl ⟨rest, (mem_filesBelow_iff h.1).mpr hEnds, rfl⟩
        · have hTest : (name == first) = false := beq_eq_false_iff_ne.mpr hFirst
          have hLater : others.lookup name = some found := by
            simpa [List.lookup_cons, hTest] using hFound
          exact .inr ⟨name, rest, found, rfl, hLater, hEnds⟩

end

mutual

/-- No file below a node is listed twice. -/
theorem nodup_filesBelow {node : FileNode} (h : node.Distinct) : node.filesBelow.Nodup := by
  match node with
  | .file content => simp [filesBelow]
  | .folder entries =>
      rw [Distinct] at h
      rw [filesBelow]
      exact nodup_filesAmong h.1 h.2

theorem nodup_filesAmong {entries : List (String × FileNode)}
    (hNames : (entries.map (·.1)).Nodup) (h : DistinctAmong entries) :
    (filesAmong entries).Nodup := by
  match entries with
  | [] => simp [filesAmong]
  | (name, node) :: others =>
      rw [DistinctAmong] at h
      rw [List.map_cons, List.nodup_cons] at hNames
      rw [filesAmong, List.nodup_append]
      refine ⟨(nodup_filesBelow h.1).map (List.cons_injective), nodup_filesAmong hNames.2 h.2, ?_⟩
      rintro way hWay other hOther rfl
      obtain ⟨rest, -, rfl⟩ := List.mem_map.mp hWay
      obtain ⟨first, more, hSame, hMem⟩ := exists_name_of_mem_filesAmong hOther
      cases hSame
      exact hNames.1 hMem

end

/-- The entries of a folder with distinct names all over have distinct names themselves. -/
theorem DistinctAmong.lookup {entries : List (String × FileNode)} (h : DistinctAmong entries)
    {name : String} {node : FileNode} (hFound : entries.lookup name = some node) :
    node.Distinct := by
  induction entries with
  | nil => cases hFound
  | cons entry rest ih =>
      obtain ⟨first, inner⟩ := entry
      rw [DistinctAmong] at h
      rw [List.lookup_cons] at hFound
      split at hFound
      · cases hFound
        exact h.1
      · exact ih h.2 hFound

/-- Wherever a way leads, the entries there have different names again. -/
theorem Distinct.find? {node found : FileNode} (h : node.Distinct) {way : List String}
    (hFound : node.find? way = some found) : found.Distinct := by
  induction way generalizing node with
  | nil =>
      cases hFound
      exact h
  | cons name rest ih =>
      cases node with
      | file content => cases hFound
      | folder entries =>
          obtain ⟨inner, hInner, hRest⟩ := Option.bind_eq_some_iff.mp hFound
          rw [Distinct] at h
          exact ih (h.2.lookup hInner) hRest

end FileNode

end Bounty
