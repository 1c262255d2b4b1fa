import Bounty.Document
import Bounty.Proofs.Data.View

/-! How the loading of a file ends, whatever the readers of the formats do. What they refuse is a
fault of the file, and so is nearly all that they accept and that describes no element. -/
namespace Bounty.Document

variable (host : Host) (t : FileTree) (p : FilePath)

/-- A file of data is read as a value that has some property. -/
def HasValue (P : {V : Type} → View V → V → Prop) : Prop :=
  ∃ bytes text, t.read p = .ok bytes ∧ textOf bytes = .ok text ∧
    ((p.suffix = ".json" ∧ ∃ d, host.readJson text = .ok d ∧ P Data.view d) ∨
      (p.suffix ∈ [".yaml", ".yml"] ∧ ∃ n, host.readYaml text = .ok n ∧ P n.view n.root))

/-- There is no room for the elements of a file inside of each other, or to show a value in it. -/
def Exceeds : Prop :=
  HasValue host t p fun view => view.Exceeds host.displayRoom host.elementRoom

/-- A file has a solid scalar of some sort in the place of children. -/
def Hides (type : String) : Prop := HasValue host t p fun view => view.Hides type

/-- The reader of a file fails in another way than by refusing it. -/
inductive ReaderFails (f : ReaderFailure) : Prop where
  | xml {bytes : ByteArray} : p.suffix = ".xml" → t.read p = .ok bytes →
    host.readXml bytes = .error (.failed f) → ReaderFails f
  | json {bytes : ByteArray} {text : String} : p.suffix = ".json" → t.read p = .ok bytes →
    textOf bytes = .ok text → host.readJson text = .error (.failed f) → ReaderFails f
  | yaml {bytes : ByteArray} {text : String} : p.suffix ∈ [".yaml", ".yml"] →
    t.read p = .ok bytes → textOf bytes = .ok text → host.readYaml text = .error (.failed f) →
    ReaderFails f

/-- How the loading of a file may end. -/
inductive Ending : Except Mishap Element → Prop where
  | element (e : Element) : Ending (.ok e)
  /-- A fault of the file, at the file. -/
  | reported (why : Unreadable) : Ending (unreadable p why)
  /-- No file of the system has such a path. -/
  | noPath {fault : FileFault} : p.suffix = ".xml" → t.read p = .error fault →
    fault.problem.code? = none → Ending (.error (.file fault))
  | readerFails {f : ReaderFailure} : ReaderFails host t p f → Ending (.error (.reader f))
  | tooDeep : Exceeds host t p → Ending (.error .tooDeep)
  /-- The children of an element cannot be gone through. -/
  | notChildren {type : String} : Hides host t p type → Ending (.error (.notChildren type))

variable {host t p}

/-- What a value comes to: an element, a fault of the file, or what the value has in it. -/
theorem ofData_ends {V : Type} {view : View V} {root : V}
    (hDeep : view.Exceeds host.displayRoom host.elementRoom root → Exceeds host t p)
    (hHides : ∀ type, view.Hides type root → Hides host t p type) :
    Ending host t p (ofData p (element host view root)) := by
  have hAccounts := (View.element_accounts host.elementRoom root :
    Blames (view.Accounts host.displayRoom host.elementRoom root) _)
  unfold element
  cases hElement : view.element host.displayRoom host.elementRoom root with
  | ok e => exact .element e
  | error fault =>
      have hFault := hAccounts fault hElement
      cases fault with
      | tooDeep => exact .tooDeep (hDeep hFault)
      | shape fault =>
          cases fault with
          | notChildren type => exact .notChildren (hHides type (hFault type rfl))
          | _ => exact .reported _

section Read

variable {bytes : ByteArray} (hRead : t.read p = .ok bytes)

include hRead

/-- A document of markup comes to an element, to a fault that is reported, or to a failure of the
reader. -/
theorem xmlElement_ends (hSuffix : p.suffix = ".xml") :
    Ending host t p (xmlElement host p bytes) := by
  unfold xmlElement
  cases hXml : host.readXml bytes with
  | ok e => exact .element e
  | error fault =>
      cases fault with
      | refused => exact .reported _
      | failed f => exact .readerFails (.xml hSuffix hRead hXml)

variable {text : String} (hText : textOf bytes = .ok text)

include hText

/-- A document in JSON has no reader that could fail in another way, so only what data may hide is
left. -/
theorem jsonElement_ends (hSuffix : p.suffix = ".json") :
    Ending host t p (jsonElement host p text) := by
  unfold jsonElement
  cases hJson : host.readJson text with
  | ok d =>
      have hValue (P : {V : Type} → View V → V → Prop) (h : P Data.view d) : HasValue host t p P :=
        ⟨bytes, text, hRead, hText, .inl ⟨hSuffix, d, hJson, h⟩⟩
      apply ofData_ends
      · exact hValue fun view => view.Exceeds host.displayRoom host.elementRoom
      · exact fun type => hValue fun view => view.Hides type
  | error fault =>
      cases fault with
      | refused => exact .reported _
      | failed f => exact .readerFails (.json hSuffix hRead hText hJson)

/-- A document in YAML is read into values, which may hold each other. -/
theorem yamlElement_ends (hSuffix : p.suffix ∈ [".yaml", ".yml"]) :
    Ending host t p (yamlElement host p text) := by
  unfold yamlElement
  cases hYaml : host.readYaml text with
  | ok n =>
      have hValue (P : {V : Type} → View V → V → Prop) (h : P n.view n.root) :
          HasValue host t p P :=
        ⟨bytes, text, hRead, hText, .inr ⟨hSuffix, n, hYaml, h⟩⟩
      have hExceeds := hValue fun view => view.Exceeds host.displayRoom host.elementRoom
      dsimp only
      split
      · -- what counts as nothing has no children, and no room for it is no room for anything
        apply ofData_ends
        · exact fun hDeep => hExceeds (Data.exceeds_of_exceeds_empty hDeep)
        · exact fun type hHides => absurd hHides (Data.not_hides_empty type)
      · apply ofData_ends
        · exact hExceeds
        · exact fun type => hValue fun view => view.Hides type
  | error fault =>
      cases fault with
      | refused => exact .reported _
      | failed f => exact .readerFails (.yaml hSuffix hRead hText hYaml)

end Read

/-- A suffix of documents that is not one of data with one of two names is one of the others. -/
theorem mem_yaml_of_mem_suffixes (h : p.suffix ∈ suffixes) (hXml : p.suffix ≠ ".xml")
    (hJson : p.suffix ≠ ".json") : p.suffix ∈ [".yaml", ".yml"] := by
  simpa [suffixes, hXml, hJson] using h

/-- The loading of a file comes to an element, or to a fault of the file that is reported under its
name, unless the system or a reader fails in a way of its own, or there is no room for the content,
or it has a scalar in the place of children that cannot be gone through. -/
theorem load_ends (host : Host) (t : FileTree) (p : FilePath) :
    Ending host t p (load host t p) := by
  unfold load
  split
  · exact .reported _
  · next hKnown =>
      have hSuffix : p.suffix ∈ suffixes := by simpa using hKnown
      cases hRead : t.read p with
      | error fault =>
          dsimp only
          split
          · exact .reported _
          · next hCode =>
              split
              · next hXml => exact .noPath (by simpa using hXml) hRead (by simpa using hCode)
              · exact .reported _
      | ok bytes =>
          dsimp only
          split
          · next hXml => exact xmlElement_ends hRead (by simpa using hXml)
          · next hXml =>
              unfold dataElement
              cases hText : textOf bytes with
              | error fault => exact .reported _
              | ok text =>
                  dsimp only
                  split
                  · next hJson => exact jsonElement_ends hRead hText (by simpa using hJson)
                  · next hJson =>
                      have hYaml := mem_yaml_of_mem_suffixes hSuffix (by simpa using hXml)
                        (by simpa using hJson)
                      exact yamlElement_ends hRead hText hYaml

/-- Text that is written as UTF-8 is read back. -/
theorem ofUtf8_toUTF8 (s : String) : Text.ofUtf8 s.toUTF8 = .ok s := by
  have hText : String.fromUTF8? s.toUTF8 = some s := by
    simp only [String.fromUTF8?, String.toUTF8_eq_toByteArray, String.isValidUTF8, dite_true]
    rfl
  rw [Text.ofUtf8, hText]

/-- A text of JSON is read as it stands in the file, where no line end has to be unified. -/
theorem load_eq_jsonElement {text : String} (hSuffix : p.suffix = ".json")
    (hRead : t.read p = .ok text.toUTF8) (hLines : Text.unifyLines text.toList = text.toList) :
    load host t p = jsonElement host p text := by
  have hKnown : suffixes.contains p.suffix = true := by
    rw [hSuffix]
    decide
  have hText : textOf text.toUTF8 = .ok text := by
    rw [textOf, ofUtf8_toUTF8, Except.map, hLines, String.ofList_toList]
  have hData : dataElement host p text.toUTF8 = jsonElement host p text := by
    rw [dataElement, hText]
    simp [hSuffix]
  rw [load, hKnown, hRead, hSuffix]
  simpa using hData

/-- An element whose children are a number. -/
def spoiltText : String := "\x7b\"a\": \x7b\"children\": 5\x7d\x7d"

def spoiltTree : FileTree where
  root := .folder [("work", .folder [("a.json", .file spoiltText.toUTF8)])]
  working := ["work"]
  home := []

def spoiltPath : FilePath := ⟨false, ["a.json"]⟩

/-- The sort of the children that cannot be gone through. -/
def unlisted? : Except Mishap Element → Option String
  | .error (.notChildren type) => some type
  | _ => none

/-- Only the mishap of children that cannot be gone through names a type. -/
theorem eq_of_unlisted? {r : Except Mishap Element} {type : String}
    (h : unlisted? r = some type) : r = .error (.notChildren type) := by
  unfold unlisted? at h
  split at h
  · cases h
    rfl
  · cases h

/-- A number in the place of the children ends the loading with a bare type error. -/
theorem load_spoilt : load .standard spoiltTree spoiltPath = .error (.notChildren "int") := by
  have hSuffix : spoiltPath.suffix = ".json" := by decide +kernel
  have hRead : spoiltTree.read spoiltPath = .ok spoiltText.toUTF8 := rfl
  have hLines : Text.unifyLines spoiltText.toList = spoiltText.toList := by decide +kernel
  rw [load_eq_jsonElement hSuffix hRead hLines]
  exact eq_of_unlisted? (by decide +kernel)

theorem not_readerFails_spoilt (f : ReaderFailure) :
    ¬ ReaderFails .standard spoiltTree spoiltPath f := by
  have hSuffix : spoiltPath.suffix = ".json" := by decide +kernel
  intro h
  cases h with
  | xml hXml _ _ =>
      rw [hSuffix] at hXml
      exact absurd hXml (by decide)
  | yaml hYaml _ _ _ =>
      rw [hSuffix] at hYaml
      exact absurd hYaml (by decide)
  | json _ _ _ hJson =>
      -- the reader of JSON only ever refuses
      unfold Host.standard at hJson
      dsimp only at hJson
      split at hJson <;> cases hJson

/-- Not every file that is loaded comes to an element or to a fault of the file, though its reader
only ever refuses what it reads and the system only reports faults. -/
theorem not_load_ends_reported : ¬ ∀ (host : Host) (t : FileTree) (p : FilePath),
    (∀ f, ¬ ReaderFails host t p f) →
    (∀ fault, t.read p = .error fault → fault.problem.code?.isSome = true) →
    (∃ e, load host t p = .ok e) ∨ ∃ why, load host t p = unreadable p why := by
  intro h
  have hRead : spoiltTree.read spoiltPath = .ok spoiltText.toUTF8 := rfl
  have hSystem : ∀ fault, spoiltTree.read spoiltPath = .error fault →
      fault.problem.code?.isSome = true := fun fault hFault => by
    rw [hRead] at hFault
    cases hFault
  rcases h .standard spoiltTree spoiltPath not_readerFails_spoilt hSystem with
    ⟨e, hLoad⟩ | ⟨why, hLoad⟩
  · rw [load_spoilt] at hLoad
    cases hLoad
  · rw [load_spoilt] at hLoad
    cases hLoad

end Bounty.Document
