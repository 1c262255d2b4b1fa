import Bounty.Proofs.Json.Reader
import Bounty.Proofs.Parser.Calls
import Bounty.Proofs.Parser.Soundness
import Bounty.Proofs.Record.Dump

/-! What the validation of records guarantees. A tree that it accepts is in its bounds, and it is
read back from its own dump. There is always room for the dump as data. As a text it may be too deep
for a reader, where the tree itself comes from data or from a document. -/
namespace Bounty

namespace Record

variable {α : Type}

/-- How a tree is read back from its dump: from the data, from any text that holds it, and from the
text that is written of it exactly where the dump is no deeper than a text may be. A half of a
surrogate pair cannot be written. -/
structure ReadsBack (read : Origin → Data → Checked α) (dump : Data) (a : α) : Prop where
  data : read (.value 0) dump = .ok a
  held {s : String} (h : Json.read? tolerance s = some dump) : ofText read s = .ok a
  written (layout : Json.Layout) (hAscii : layout.ascii = false)
    (hHalves : Text.holdsHalf (Json.write layout dump) = false) :
    ofText read (Json.write layout dump) = .ok a ↔ dump.depth ≤ 200

theorem held_of_ofText {read : Origin → Data → Checked α} {s : String} {a : α}
    (h : ofText read s = .ok a) : ∃ d, Json.Held 200 0 d ∧ read .text d = .ok a := by
  unfold ofText at h
  split at h
  · next d hRead => exact ⟨d, Json.held_read? rfl rfl hRead, h⟩
  · simp at h

/-- No tree comes of a text that is less deep than the dump of the tree. -/
theorem readsBack {read : Origin → Data → Checked α} {dump : Data} {a : α}
    (hData : read (.value 0) dump = .ok a) (hText : read .text dump = .ok a)
    (hKept : ∀ d, read .text d = .ok a → dump.depth ≤ d.depth) (hPlain : dump.IsPlain) :
    ReadsBack read dump a where
  data := hData
  held hHeld := by
    rw [ofText, hHeld]
    exact hText
  written layout hAscii _ := by
    constructor
    · intro h
      obtain ⟨d, hHeld, hRead⟩ := held_of_ofText h
      have hDepth := hKept d hRead
      have hLimit := hHeld.depth_le
      omega
    · intro hDepth
      rw [ofText, Json.read?_write hAscii rfl rfl hPlain hDepth]
      exact hText

/-- A modifier in bounds is read back where there is room for its dump. -/
theorem readsBack_modifier {m : Modifier} (hBounds : m.InBounds)
    (hRoom : (Origin.value 0).Admits m.toData.depth) (hWritable : m.toData.isWritable = true) :
    ReadsBack modifier m.toData m :=
  readsBack (modifier_toData hBounds hRoom) (modifier_toData hBounds trivial)
    (fun _ h => (modifier_kept h).depth_le) (m.plainIfWritable_toData hWritable)

/-- A requirement is read back where there is room for its dump. -/
theorem readsBack_requirement {r : Requirement} (hRoom : (Origin.value 0).Admits r.toData.depth)
    (hWritable : r.toData.isWritable = true) : ReadsBack requirement r.toData r :=
  readsBack (requirement_toData hRoom) (requirement_toData trivial)
    (fun _ h => (requirement_kept h).depth_le) (r.plainIfWritable_toData hWritable)

theorem readsBack_choice {entry : Choice} (hBounds : Modifier.EntryInBounds entry)
    (hRoom : (Origin.value 0).Admits (Modifier.entryToData entry).depth)
    (hWritable : (Modifier.entryToData entry).isWritable = true) :
    ReadsBack choice (Modifier.entryToData entry) entry :=
  readsBack (choice_toData hBounds hRoom) (choice_toData hBounds trivial)
    (fun _ h => (choice_kept h).depth_le) (Modifier.plainIfWritable_entryToData entry hWritable)

/-- What comes of data and of texts that are accepted. A tree that was read from a text is never too
deep to be written and read again. -/
structure Accepts (read : Origin → Data → Checked α) (dump : α → Data) (InBounds : α → Prop) :
    Prop where
  ofData {d : Data} {a : α} (hWritable : d.isWritable = true) (h : read (.value 0) d = .ok a) :
    InBounds a ∧ ReadsBack read (dump a) a
  ofText {s : String} {a : α} (h : ofText read s = .ok a) :
    InBounds a ∧ ReadsBack read (dump a) a ∧ (dump a).depth ≤ 200

/-- There is room for what a text may hold. -/
theorem admits_of_le {depth : Nat} (h : depth ≤ 200) : (Origin.value 0).Admits depth := by
  simp only [Origin.Admits, Origin.nestingLimit]
  omega

/-- Trees that are in bounds and kept wherever they are read, and read back where there is room, are
accepted in both forms. -/
theorem accepts {read : Origin → Data → Checked α} {dump : α → Data} {InBounds : α → Prop}
    (hBounds : ∀ {o d a}, read o d = .ok a → InBounds a)
    (hKept : ∀ {o d a}, read o d = .ok a → Kept o d (dump a))
    (hReads : ∀ {a}, InBounds a → (Origin.value 0).Admits (dump a).depth →
      (dump a).isWritable = true → ReadsBack read (dump a) a) : Accepts read dump InBounds where
  ofData hWritable h :=
    ⟨hBounds h, hReads (hBounds h) (hKept h).admitted ((hKept h).isWritable hWritable)⟩
  ofText h := by
    obtain ⟨d, hHeld, hRead⟩ := held_of_ofText h
    have hKept := hKept hRead
    have hDepth := Nat.le_trans hKept.depth_le (by simpa using hHeld.depth_le)
    exact ⟨hBounds hRead,
      hReads (hBounds hRead) (admits_of_le hDepth) (hKept.isWritable hHeld.isWritable), hDepth⟩

theorem accepts_modifier : Accepts modifier Modifier.toData Modifier.InBounds :=
  accepts modifier_inBounds modifier_kept readsBack_modifier

theorem accepts_requirement : Accepts requirement Requirement.toData Requirement.InBounds :=
  accepts (fun {_ _ r} _ => r.inBounds) requirement_kept fun _ => readsBack_requirement

theorem accepts_choice : Accepts choice Modifier.entryToData Modifier.EntryInBounds :=
  accepts choice_inBounds choice_kept readsBack_choice

end Record

/-- Whether a rule is read back from its dump. -/
def Rule.ReadsBack : Rule → Prop
  | .modifier m => Record.ReadsBack Record.modifier m.toData m
  | .requirement r => Record.ReadsBack Record.requirement r.toData r

namespace Parser

/-- The trees that an entry point answers. -/
def EntryPoint.roots : EntryPoint α → α → List Rule
  | .modifier => fun m => [.modifier m]
  | .modifiers => List.map .modifier
  | .requirement => fun r => [.requirement r]
  | .requirements => List.map .requirement

/-- The levels of a document leave room for the records of a tree. -/
theorem admits_of_height {height depth : Nat} (hHeight : height ≤ depthCeiling)
    (hDepth : depth < 2 * height) : (Record.Origin.value 0).Admits depth := by
  simp only [depthCeiling, Record.Origin.Admits, Record.Origin.nestingLimit] at *
  omega

theorem readsBack_modifier {m : Modifier} (hValid : m.Valid) (hHeight : m.height ≤ depthCeiling) :
    (Rule.modifier m).ReadsBack :=
  Record.readsBack_modifier (Modifier.inBounds_of_valid hValid)
    (admits_of_height hHeight m.depth_toData_lt) (Modifier.isWritable_toData hValid)

theorem readsBack_requirement {r : Requirement} (hValid : r.Valid)
    (hHeight : r.height ≤ depthCeiling) : (Rule.requirement r).ReadsBack :=
  Record.readsBack_requirement (admits_of_height hHeight r.depth_toData_lt)
    (Requirement.isWritable_toData hValid)

/-- Trees from a document are in their bounds and are read back. -/
theorem readsBack_of_read {α : Type} {p : Parser} (hDepth : p.maxDepth ≤ depthCeiling)
    (entry : EntryPoint α) {e : Element} {path : Path} {a : α}
    (h : (p.read entry e path).outcome = .ok a) :
    (∀ rule ∈ entry.rules a, rule.InBounds) ∧ ∀ root ∈ entry.roots a, root.ReadsBack := by
  have hBelow : p.depthBelow path ≤ depthCeiling := Nat.le_trans (Nat.sub_le _ _) hDepth
  have hFits := p.fits_of_read entry h
  cases entry with
  | modifier =>
      obtain ⟨hValid, hHeight⟩ := hFits
      refine ⟨Modifier.inBounds_of_valid hValid, ?_⟩
      rw [EntryPoint.roots, List.forall_mem_singleton]
      exact readsBack_modifier hValid (Nat.le_trans hHeight hBelow)
  | modifiers =>
      obtain ⟨hValid, hHeight⟩ := hFits
      rw [Modifier.allValid_iff] at hValid
      refine ⟨Modifier.inBounds_rulesOf_iff.mpr fun m hm =>
        Modifier.inBounds_of_valid (hValid m hm), List.forall_mem_map.mpr fun m hm => ?_⟩
      have hMember := Modifier.greatestHeight_le_iff.mp (Nat.le_refl _) m hm
      rw [Modifier.listHeight] at hHeight
      exact readsBack_modifier (hValid m hm) (by omega)
  | requirement =>
      obtain ⟨hValid, hHeight⟩ := hFits
      refine ⟨Requirement.inBounds a, ?_⟩
      rw [EntryPoint.roots, List.forall_mem_singleton]
      exact readsBack_requirement hValid (Nat.le_trans hHeight hBelow)
  | requirements =>
      obtain ⟨hValid, hHeight⟩ := hFits
      rw [Requirement.allValid_iff] at hValid
      refine ⟨Requirement.inBounds_rulesOf a, List.forall_mem_map.mpr fun r hr => ?_⟩
      have hMember := Requirement.greatestHeight_le_iff.mp (Nat.le_refl _) r hr
      rw [Requirement.listHeight] at hHeight
      exact readsBack_requirement (hValid r hr) (by omega)

end Parser

namespace Record

/-- Whatever tree is accepted or comes from a document, it is in its bounds and is read back from
its dump. -/
structure KeepsTrees : Prop where
  modifier : Accepts modifier Modifier.toData Modifier.InBounds
  requirement : Accepts requirement Requirement.toData Requirement.InBounds
  choice : Accepts choice Modifier.entryToData Modifier.EntryInBounds
  document {α : Type} {p : Parser} (hDepth : p.maxDepth ≤ Parser.depthCeiling)
    (entry : Parser.EntryPoint α) {e : Element} {path : Path} {a : α}
    (h : (p.read entry e path).outcome = .ok a) :
    (∀ rule ∈ entry.rules a, rule.InBounds) ∧ ∀ root ∈ entry.roots a, root.ReadsBack

theorem keepsTrees : KeepsTrees where
  modifier := accepts_modifier
  requirement := accepts_requirement
  choice := accepts_choice
  document := Parser.readsBack_of_read

/-- A choice with all of its integers written in other ways. -/
def looseChoice : Data := .object [
  ("kind", .text "random_choice"),
  ("choices", .list [.object [
    ("weight", .text " 02 "),
    ("modifiers", .list [.object [
      ("kind", .text "grant_xp_range"), ("min", .bool true), ("max", .text "4.0")]])]])]

/-- The integers are accepted in all of these forms, and the tree is read back from its own dump. -/
theorem keepsTrees_looseChoice :
    modifier (.value 0) looseChoice = .ok (.randomChoice [⟨2, [.grantXpRange 1 4], []⟩]) ∧
      (Modifier.randomChoice [⟨2, [.grantXpRange 1 4], []⟩]).InBounds ∧
      ReadsBack modifier (Modifier.randomChoice [⟨2, [.grantXpRange 1 4], []⟩]).toData
        (.randomChoice [⟨2, [.grantXpRange 1 4], []⟩]) :=
  ⟨rfl, keepsTrees.modifier.ofData (d := looseChoice) rfl rfl⟩

/-- One conjunction inside of some others. -/
def conjunctions : Nat → Requirement
  | 0 => .conjunction []
  | n + 1 => .conjunction [conjunctions n]

/-- Each conjunction takes a level for its record and one for the list that holds the next. -/
theorem depth_conjunctions (n : Nat) : (conjunctions n).toData.depth = 2 * n + 1 := by
  induction n with
  | zero => rfl
  | succ n ih =>
      have hDepth : (conjunctions (n + 1)).toData.depth = (conjunctions n).toData.depth + 2 := by
        simp [conjunctions, Requirement.toData, Requirement.toDataList, recordOf, Data.object,
          Data.depth, Data.depthOf, Data.entriesDepth]
      omega

/-- A hundred and one conjunctions are accepted as data, but their written form is too deep. -/
theorem not_ofText_write_conjunctions :
    requirement (.value 0) (conjunctions 100).toData = .ok (conjunctions 100) ∧
      ofText requirement (Json.write ⟨none, false⟩ (conjunctions 100).toData) ≠
        .ok (conjunctions 100) := by
  have hDepth := depth_conjunctions 100
  refine ⟨requirement_toData ?_, fun h => ?_⟩
  · simp only [hDepth, Origin.Admits, Origin.nestingLimit]
    omega
  · obtain ⟨d, hHeld, hRead⟩ := held_of_ofText h
    have hKept := (requirement_kept hRead).depth_le
    have hLimit := hHeld.depth_le
    omega

end Record

end Bounty
