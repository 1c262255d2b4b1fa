import Bounty.Proofs.Document
import Bounty.Proofs.FileTree.Writing
import Bounty.Proofs.Json.RoundTrip
import Bounty.Proofs.Record.Complete
import Bounty.Settings

/-! Settings and the file that keeps them. Settings that can be written are loaded as they were
saved, and all of them make a parser. -/
namespace Bounty

/-- Without carriage returns there is no line end to unify. -/
theorem Text.unifyLines_eq_self {cs : List Char} (h : '\r' ∉ cs) : Text.unifyLines cs = cs := by
  induction cs with
  | nil => rw [unifyLines]
  | cons c rest ih =>
      rw [List.mem_cons, not_or] at h
      rw [unifyLines, ih h.2]
      · exact fun _ hReturn _ => h.1 hReturn.symm
      · exact fun hReturn => h.1 hReturn.symm

namespace Settings

variable (s : Settings)

section Text

/-- Every depth limit can be written. -/
theorem isWritable_depth (d : Depth) : Numeral.isWritable d.val = true :=
  Numeral.isWritable_of_between Numeral.isWritable_one (by decide +kernel) d.property.1
    d.property.2

theorem depth_integer (d : Depth) : depth (.integer d.val) = .ok d := by
  obtain ⟨n, hLow, hHigh⟩ := d
  have hBelow : ¬ n < 1 := by omega
  have hAbove : ¬ n > (Parser.depthCeiling : Int) := by omega
  simp [depth, Record.integer, hBelow, hAbove]

/-- A field that is present is read, and its default is not used. -/
theorem optional_of_field {α : Type} (read : Data → Checked α) (default : α) {a : α}
    (key : String) {d : Data} {fields : List (String × Data)}
    (hField : (fields.find? (·.1 == key)).map (·.2) = some d) (hRead : read d = .ok a) :
    Record.optional read default key (fields.map fun (name, value) => (.text name, value)) =
      .ok a :=
  Record.optional_eq_ok_iff.mpr (.inr ⟨d, (Record.find?_object key fields).trans hField, hRead⟩)

/-- Settings are read from their own record. -/
theorem ofData_toData : ofData s.toData = .ok s := by
  rw [toData, Data.object, ofData,
    optional_of_field depth default.maxDepth "max_depth" rfl (depth_integer s.maxDepth),
    optional_of_field Record.boolean default.strict "strict_unknown_children" rfl rfl,
    optional_of_field Record.text default.seedMode "rng_seed_mode" rfl rfl,
    optional_of_field Record.integer default.seed "rng_seed" rfl rfl]
  rfl

/-- Settings are written as plain data if the seed has not too many digits. -/
theorem isPlain_toData (hSeed : Numeral.isWritable s.seed = true) : s.toData.IsPlain := by
  refine .object (by simp) fun field hField => ?_
  simp only [List.mem_cons, List.not_mem_nil, or_false] at hField
  rcases hField with rfl | rfl | rfl | rfl
  · exact .integer (isWritable_depth s.maxDepth)
  · exact .bool s.strict
  · exact .text s.seedMode
  · exact .integer hSeed

theorem depth_toData_le : s.toData.depth ≤ 200 := by
  rw [toData, Data.depth_object_le_iff]
  simp [Data.depth]

/-- Settings are read from the bytes of the text that is written of them. -/
theorem ofBytes_write (hSeed : Numeral.isWritable s.seed = true) :
    ofBytes s.write.toUTF8 = .ok s := by
  have hPlain := s.isPlain_toData hSeed
  have hText : ofText s.write = .ok s := by
    rw [ofText, Record.ofText, write, Json.read?_write rfl rfl rfl hPlain s.depth_toData_le]
    exact s.ofData_toData
  have hLines : Text.unifyLines s.write.toList = s.write.toList :=
    Text.unifyLines_eq_self (Json.return_notMem_writeAt hPlain 0)
  rw [ofBytes, Document.ofUtf8_toUTF8]
  simp only [hLines, String.ofList_toList, hText]

end Text

section File

variable {s : Settings} {t : FileTree} {p : FilePath}

/-- A text can be written exactly where it holds no half. -/
theorem findHalves_eq_none_iff (start : Nat) (points : List Text.Point) :
    Text.findHalves start points = none ↔ points.any Text.Point.isHalf = false := by
  induction points generalizing start with
  | nil => simp [Text.findHalves]
  | cons point rest ih =>
      cases point with
      | char c => simp [Text.findHalves, Text.Point.isHalf, ih]
      | half code => simp [Text.findHalves, Text.Point.isHalf]

/-- Settings are loaded from a file that could be written as they were saved. -/
theorem load_save (hSeed : Numeral.isWritable s.seed = true)
    (hMode : Text.holdsHalf s.seedMode = false) (hPath : t.CanWrite p) :
    ∃ saved content, save t p s = (saved, .ok ()) ∧
      saved.findNode p = .ok (some (.file content)) ∧ load saved p = (saved, .ok s) := by
  obtain ⟨folders, hFolders, hWrite⟩ := hPath.read_write
  obtain ⟨saved, hSaved, hFound, hRead⟩ := hWrite s.write.toUTF8
  have hNone : Text.findHalves 0 (Text.points s.seedMode.toList) = none :=
    (findHalves_eq_none_iff 0 _).mpr hMode
  refine ⟨saved, _, ?_, hFound, ?_⟩
  · simp only [save, hFolders, hNone, hSaved]
  · simp only [load, hFound, hRead, s.ofBytes_write hSeed]

/-- A mode that has no encoding is refused once the folders are made, and no file is written. -/
theorem save_of_holdsHalf (hMode : Text.holdsHalf s.seedMode = true) {folders : FileTree}
    (hFolders : t.ensureFolder p.parent = .ok folders) :
    ∃ fault, save t p s = (folders, .error (.halves fault)) := by
  have hSome : Text.findHalves 0 (Text.points s.seedMode.toList) ≠ none := fun hNone => by
    rw [findHalves_eq_none_iff] at hNone
    exact absurd hMode (by simp [Text.holdsHalf, hNone])
  obtain ⟨fault, hFault⟩ := Option.ne_none_iff_exists'.mp hSome
  exact ⟨fault, by simp only [save, hFolders, hFault]⟩

/-- Settings that are not there are made, and are those by default. -/
theorem load_of_absent (hAbsent : t.findNode p = .ok none) (hPath : t.CanWrite p) :
    ∃ saved content, load t p = (saved, .ok default) ∧
      saved.findNode p = .ok (some (.file content)) ∧ load saved p = (saved, .ok default) := by
  have hMode : Text.holdsHalf default.seedMode = false := by decide
  obtain ⟨saved, content, hSave, hFound, hLoad⟩ :=
    load_save (s := default) (by decide +kernel) hMode hPath
  refine ⟨saved, content, ?_, hFound, hLoad⟩
  simp only [load, hAbsent, hSave]
  rfl

/-- What some loads in a row give. -/
def loads (t : FileTree) (p : FilePath) : Nat → List (Except Fault Settings)
  | 0 => []
  | count + 1 => (load t p).2 :: loads (load t p).1 p count

/-- If loading leaves the file tree as it is, it gives the same settings each time. -/
theorem loads_eq_replicate (h : load t p = (t, .ok s)) (count : Nat) :
    loads t p count = List.replicate count (.ok s) := by
  induction count with
  | zero => rfl
  | succ count ih => rw [loads, h, ih, List.replicate_succ]

/-- What is not there stays unread where it cannot be written. -/
theorem load_of_not_canWrite (hNamed : p.names ≠ []) (hAbsent : t.findNode p = .ok none)
    (hPath : ¬ t.CanWrite p) : ∃ rest fault, load t p = (rest, .error fault) := by
  have hNone : Text.findHalves 0 (Text.points default.seedMode.toList) = none := by decide
  cases hFolders : t.ensureFolder p.parent with
  | error fault => exact ⟨t, .file fault, by simp only [load, hAbsent, save, hFolders]; rfl⟩
  | ok folders =>
      cases hWrite : folders.write p default.write.toUTF8 with
      | ok saved => exact absurd ⟨hNamed, folders, _, saved, hFolders, hWrite⟩ hPath
      | error fault =>
          refine ⟨folders, .file fault, ?_⟩
          simp only [load, hAbsent, save, hFolders, hNone, hWrite]
          rfl

end File

section Limit

/-- The settings make a parser, since their bound on the depth is a valid one. -/
theorem create_eq_ok (s : Settings) :
    Parser.create s.maxDepth.val s.strict [] [] = .ok s.parser := by
  have hBelow : ¬ s.maxDepth.val < 1 := Int.not_lt.mpr s.maxDepth.property.1
  have hAbove : ¬ s.maxDepth.val > Parser.depthCeiling := Int.not_lt.mpr s.maxDepth.property.2
  rw [Parser.create, if_neg hBelow, if_neg hAbove]
  rfl

/-- The depth limits with which parsers are made. -/
theorem exists_create_iff_between (n : Int) (strict : Bool) (modifierKinds : List ModifierKind)
    (requirementKinds : List RequirementKind) :
    (∃ p, Parser.create n strict modifierKinds requirementKinds = .ok p) ↔
      1 ≤ n ∧ n ≤ Parser.depthCeiling := by
  rw [Parser.create]
  by_cases hBelow : n < 1
  · simp only [if_pos hBelow, reduceCtorEq, exists_false, false_iff]
    omega
  · by_cases hAbove : n > Parser.depthCeiling
    · simp only [if_neg hBelow, if_pos hAbove, reduceCtorEq, exists_false, false_iff]
      omega
    · simp only [if_neg hBelow, if_neg hAbove, Except.ok.injEq, exists_eq', true_iff]
      omega

/-- Settings of which only the depth limit is given. -/
theorem ofData_depth (d : Depth) :
    ofData (.object [("max_depth", .integer d.val)]) = .ok { default with maxDepth := d } := by
  rw [Data.object, ofData,
    optional_of_field depth default.maxDepth "max_depth" rfl (depth_integer d)]
  rfl

/-- A parser is made with exactly the depth limits that settings accept. -/
theorem exists_create_iff (n : Int) (strict : Bool) (modifierKinds : List ModifierKind)
    (requirementKinds : List RequirementKind) :
    (∃ p, Parser.create n strict modifierKinds requirementKinds = .ok p) ↔
      ∃ s, ofData (.object [("max_depth", .integer n)]) = .ok s ∧ s.maxDepth.val = n := by
  rw [exists_create_iff_between]
  constructor
  · exact fun hBetween => ⟨_, ofData_depth ⟨n, hBetween⟩, rfl⟩
  · rintro ⟨s, -, rfl⟩
    exact s.maxDepth.property

end Limit

/-- Settings last: the file that they are saved in gives them back, and they make a parser. -/
structure Lasting : Prop where
  /-- Settings that can be written are loaded as they were saved, however often. -/
  loaded (t : FileTree) (p : FilePath) (s : Settings) : Numeral.isWritable s.seed = true →
    Text.holdsHalf s.seedMode = false → t.CanWrite p →
    ∃ saved, save t p s = (saved, .ok ()) ∧ load saved p = (saved, .ok s) ∧
      ∀ count, loads saved p count = List.replicate count (.ok s)
  /-- A mode with a half in it is never written. -/
  refused (t folders : FileTree) (p : FilePath) (s : Settings) :
    Text.holdsHalf s.seedMode = true → t.ensureFolder p.parent = .ok folders →
    ∃ fault, save t p s = (folders, .error (.halves fault))
  /-- The file that is made where none is gives the same settings again, however often. -/
  made (t : FileTree) (p : FilePath) : t.findNode p = .ok none → t.CanWrite p →
    ∃ saved content, load t p = (saved, .ok default) ∧
      saved.findNode p = .ok (some (.file content)) ∧
      ∀ count, loads saved p count = List.replicate count (.ok default)
  /-- Where none can be made, there are no settings. -/
  unmade (t : FileTree) (p : FilePath) : p.names ≠ [] → t.findNode p = .ok none →
    ¬ t.CanWrite p → ∃ rest fault, load t p = (rest, .error fault)
  /-- Settings make a parser with their limit and their strictness. -/
  parser (s : Settings) : Parser.create s.maxDepth.val s.strict [] [] = .ok s.parser ∧
    (s.parser.maxDepth : Int) = s.maxDepth.val ∧ s.parser.strict = s.strict
  /-- The limits of parsers are the limits of settings. -/
  limits (n : Int) (strict : Bool) (modifierKinds : List ModifierKind)
    (requirementKinds : List RequirementKind) :
    (∃ p, Parser.create n strict modifierKinds requirementKinds = .ok p) ↔
      ∃ s, ofData (.object [("max_depth", .integer n)]) = .ok s ∧ s.maxDepth.val = n

theorem lasting : Lasting where
  loaded _ _ _ hSeed hMode hPath := by
    obtain ⟨saved, _, hSave, -, hLoad⟩ := load_save hSeed hMode hPath
    exact ⟨saved, hSave, hLoad, loads_eq_replicate hLoad⟩
  refused _ _ _ _ hMode hFolders := save_of_holdsHalf hMode hFolders
  made _ _ hAbsent hPath := by
    obtain ⟨saved, content, hMade, hFound, hLoad⟩ := load_of_absent hAbsent hPath
    exact ⟨saved, content, hMade, hFound, loads_eq_replicate hLoad⟩
  unmade _ _ hNamed hAbsent hPath := load_of_not_canWrite hNamed hAbsent hPath
  parser s := ⟨s.create_eq_ok,
    Int.toNat_of_nonneg (Int.le_trans (by decide) s.maxDepth.property.1), rfl⟩
  limits := exists_create_iff

theorem canWrite_empty : FileTree.empty.CanWrite ⟨false, ["bounty", "settings.json"]⟩ :=
  ⟨by decide, _, ByteArray.empty, _, rfl, rfl⟩

/-- Below an empty folder settings can be saved and loaded, and the defaults are written where there
is no file. -/
theorem lasting_empty : (∃ saved, save .empty ⟨false, ["bounty", "settings.json"]⟩
      ⟨⟨12, by decide⟩, true, "random", -9⟩ = (saved, .ok ()) ∧
      load saved ⟨false, ["bounty", "settings.json"]⟩ =
        (saved, .ok ⟨⟨12, by decide⟩, true, "random", -9⟩)) ∧
    ∃ saved, load .empty ⟨false, ["bounty", "settings.json"]⟩ = (saved, .ok default) ∧
      loads saved ⟨false, ["bounty", "settings.json"]⟩ 2 = [.ok default, .ok default] := by
  constructor
  · obtain ⟨saved, hSave, hLoad, -⟩ := lasting.loaded .empty _ ⟨⟨12, by decide⟩, true, "random", -9⟩
      (by decide +kernel) (by decide) canWrite_empty
    exact ⟨saved, hSave, hLoad⟩
  · obtain ⟨saved, _, hMade, -, hLoads⟩ := lasting.made .empty _ rfl canWrite_empty
    exact ⟨saved, hMade, hLoads 2⟩

/-- The settings by default, but for a mode that is a single half. -/
def halved : Settings := { default with seedMode := String.ofList (Text.charsOfCode 0xD800) }

/-- A half of a pair in the mode of the seed cannot be written, so the settings with it are not
saved. -/
theorem not_load_save : ¬ ∀ (t : FileTree) (p : FilePath) (s : Settings),
    Numeral.isWritable s.seed = true → t.CanWrite p →
      ∃ saved, save t p s = (saved, .ok ()) ∧ load saved p = (saved, .ok s) := by
  intro h
  obtain ⟨saved, hSave, -⟩ := h .empty _ halved (by decide +kernel) canWrite_empty
  obtain ⟨folders, hFolders, -⟩ := canWrite_empty.read_write
  obtain ⟨fault, hFault⟩ := save_of_holdsHalf (s := halved) (by decide) hFolders
  simp [hFault] at hSave

end Settings

end Bounty
