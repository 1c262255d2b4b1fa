import Bounty.Proofs.Data.Shape
import Bounty.Proofs.Parser.Look

/-! Elements written as data. An element may be written in many ways: its attributes in any order,
with keys among them that say nothing, as texts or as other scalars of the same text, and its
children at any place. Whichever way is taken, for every element by itself, reading comes to an
element that looks the same. -/
namespace Bounty

/-- A scalar that stands for a text. -/
inductive Scalar.Spells : Scalar → String → Prop where
  | text (s : String) : Spells (.text s) s
  | integer {n : Int} : Numeral.isWritable n = true → Spells (.integer n) (Numeral.write n)
  | bool (b : Bool) : Spells (.bool b) (if b then "true" else "false")

namespace Data

mutual

/-- Data that an element without an attribute `children` may be written as. -/
inductive Writes : Data → Element → Prop where
  | bare {name : String} : Writes (.mapping [(.text name, .null)]) ⟨name, [], []⟩
  | list {name : String} {items : List Data} {children : List Element} :
    List.Forall₂ Writes items children →
    Writes (.mapping [(.text name, .list items)]) ⟨name, [], children⟩
  | mapping {name : String} {attributes : List (String × String)} {children : List Element}
      {entries : List (Scalar × Data)} :
    (∀ entry ∈ entries, Tells entry ⟨name, attributes, children⟩) →
    (∀ a ∈ attributes, a.1 ≠ "children" ∧ .text a.1 ∈ entries.map (·.1)) →
    (.text "children" ∉ entries.map (·.1) → children = []) →
    Writes (.mapping [(.text name, .mapping entries)]) ⟨name, attributes, children⟩

/-- What an entry of a body may tell of an element: its children, the text of one attribute,
or that there is none. -/
inductive Tells : Scalar × Data → Element → Prop where
  | children {e : Element} {items : List Data} : List.Forall₂ Writes items e.children →
    Tells (.text "children", .list items) e
  | noChildren {e : Element} : e.children = [] → Tells (.text "children", .null) e
  | given {e : Element} {key text : String} {s : Scalar} : key ≠ "children" →
    e.attribute? key = some text → s.Spells text → Tells (.text key, .scalar s) e
  | unset {e : Element} {key : String} : key ≠ "children" → e.attribute? key = none →
    Tells (.text key, .null) e

end

/-- No attribute is called `children`, neither of an element nor of any below it. -/
inductive Plain : Element → Prop where
  | intro {name : String} {attributes : List (String × String)} {children : List Element} :
    (∀ a ∈ attributes, a.1 ≠ "children") → (∀ child ∈ children, Plain child) →
    Plain ⟨name, attributes, children⟩

/-- If every element of a list can be written, the list can be written item by item. -/
theorem exists_forall₂_writes {es : List Element} (h : ∀ e ∈ es, ∃ d, Writes d e) :
    ∃ items, List.Forall₂ Writes items es := by
  induction es with
  | nil => exact ⟨[], .nil⟩
  | cons e es ih =>
      obtain ⟨d, hFirst⟩ := h e (List.mem_cons_self ..)
      obtain ⟨items, hRest⟩ := ih fun other hOther => h other (List.mem_cons_of_mem _ hOther)
      exact ⟨d :: items, .cons hFirst hRest⟩

/-- The text of an attribute as an entry of a body. -/
def attributeEntry (attributes : List (String × String)) (a : String × String) : Scalar × Data :=
  (.text a.1, .text ((attributes.lookup a.1).getD a.2))

/-- An entry made of an attribute tells of the element that has it. -/
theorem tells_attributeEntry {e : Element} {a : String × String} (hMem : a ∈ e.attributes)
    (hName : a.1 ≠ "children") : Tells (attributeEntry e.attributes a) e := by
  have hGiven : (e.attribute? a.1).isSome :=
    List.lookup_isSome_iff.mpr ⟨a, hMem, beq_self_eq_true _⟩
  obtain ⟨text, hText⟩ := Option.isSome_iff_exists.mp hGiven
  have hEntry : attributeEntry e.attributes a = (.text a.1, .text text) := by
    rw [attributeEntry, ← Element.attribute?, hText, Option.getD_some]
  rw [hEntry]
  exact .given hName hText (.text text)

/-- Every plain element can be written, with its children first and its attributes as texts after
them. -/
theorem exists_writes {e : Element} (h : Plain e) : ∃ d, Writes d e := by
  induction h with
  | @intro name attributes children hNames _ ih =>
      obtain ⟨items, hItems⟩ := exists_forall₂_writes ih
      refine ⟨.mapping [(.text name, .mapping
        ((.text "children", .list items) :: attributes.map (attributeEntry attributes)))],
        .mapping ?_ ?_ ?_⟩
      · intro entry hEntry
        rw [List.mem_cons, List.mem_map] at hEntry
        rcases hEntry with rfl | ⟨a, hMem, rfl⟩
        · exact .children hItems
        · exact tells_attributeEntry (e := ⟨name, attributes, children⟩) hMem (hNames a hMem)
      · intro a hMem
        refine ⟨hNames a hMem, ?_⟩
        simp only [List.map_cons, List.map_map, List.mem_cons, List.mem_map]
        exact .inr ⟨a, hMem, rfl⟩
      · intro hAbsent
        simp at hAbsent

theorem mem_of_lookup {attributes : List (String × String)} {key text : String}
    (h : attributes.lookup key = some text) : (key, text) ∈ attributes := by
  obtain ⟨before, after, hAttributes, _⟩ := List.lookup_eq_some_iff.mp h
  rw [hAttributes]
  exact List.mem_append_right _ (List.mem_cons_self ..)

/-- The first attribute of a list hides the later ones of its name. -/
theorem lookup_cons_eq (key value : String) (rest : List (String × String)) (k : String) :
    ((key, value) :: rest).lookup k = if k = key then some value else rest.lookup k := by
  by_cases h : k = key
  · simp [h]
  · have hKey : (k == key) = false := beq_false_of_ne h
    simp [List.lookup_cons, hKey, h]

/-- To set an attribute changes what is found under its name, and nothing else. -/
theorem lookup_setAttribute (key value : String) (found : List (String × String)) (k : String) :
    (setAttribute key value found).lookup k = if k = key then some value else found.lookup k := by
  induction found with
  | nil => rw [setAttribute, lookup_cons_eq]
  | cons first rest ih =>
      obtain ⟨name, old⟩ := first
      rw [setAttribute]
      by_cases hName : name = key
      · simp only [hName, beq_self_eq_true, if_true, lookup_cons_eq]
        split <;> rfl
      · simp only [beq_iff_eq, hName, if_false, lookup_cons_eq, ih]
        split
        · next h => simp [h, hName]
        · rfl

/-- A scalar that spells a text is read as that text. -/
theorem attributeText_of_spells {s : Scalar} {text : String} (h : s.Spells text)
    (key name : Scalar) : attributeText key name (.scalar s) = .ok text := by
  cases h with
  | text s => rfl
  | integer hWritable =>
      simp [attributeText, scalarText, Scalar.isWritable, hWritable, Scalar.write]
  | bool b => rfl

theorem scalarText_text (s : String) : scalarText (.text s) = .ok s := rfl

/-- An entry other than the children sets the attribute of its name. -/
theorem attributesOf_cons_of_spells {key text : String} {s : Scalar} (hName : key ≠ "children")
    (hSpells : s.Spells text) (name : Scalar) (found : List (String × String))
    (rest : List (Scalar × Data)) :
    attributesOf name found ((.text key, .scalar s) :: rest) =
      attributesOf name (setAttribute key text found) rest := by
  have hText := attributeText_of_spells hSpells (.text key) name
  have hKey : (Scalar.text key == .text "children") = false := by simpa using hName
  have hNotNull : s ≠ .null := by cases hSpells <;> simp
  rw [attributesOf, hKey]
  · simp [hText, scalarText_text, bind, Except.bind]
  · simpa using hNotNull

variable {e : Element}

/-- Some attributes that have been found are all those of an element. -/
def TrueOf (e : Element) (found : List (String × String)) : Prop :=
  ∀ key text, found.lookup key = some text → e.attribute? key = some text

/-- The attributes that come of some entries and of those found before are attributes of the
element, and none of them has been left out. -/
structure Gathered (e : Element) (entries : List (Scalar × Data))
    (found attributes : List (String × String)) : Prop where
  sound : TrueOf e attributes
  complete (key text : String) : e.attribute? key = some text → key ≠ "children" →
    .text key ∈ entries.map (·.1) ∨ found.lookup key = some text →
      attributes.lookup key = some text

/-- An entry that is no attribute of the element leaves what is gathered as it is. -/
theorem Gathered.skip {key : Scalar} {value : Data} {rest : List (Scalar × Data)}
    {found attributes : List (String × String)} (h : Gathered e rest found attributes)
    (hKey : ∀ k text, e.attribute? k = some text → k ≠ "children" → key ≠ .text k) :
    Gathered e ((key, value) :: rest) found attributes where
  sound := h.sound
  complete k text hText hName hGiven := by
    apply h.complete k text hText hName
    rw [List.map_cons, List.mem_cons] at hGiven
    rcases hGiven with (hHere | hLater) | hFound
    · exact absurd hHere.symm (hKey k text hText hName)
    · exact .inl hLater
    · exact .inr hFound

/-- An entry with the text of an attribute gathers that attribute. -/
theorem Gathered.set {key text : String} {value : Data} {rest : List (Scalar × Data)}
    {found attributes : List (String × String)}
    (h : Gathered e rest (setAttribute key text found) attributes)
    (hText : e.attribute? key = some text) :
    Gathered e ((.text key, value) :: rest) found attributes where
  sound := h.sound
  complete k text' hText' hName hGiven := by
    apply h.complete k text' hText' hName
    rw [lookup_setAttribute]
    by_cases hHere : k = key
    · subst hHere
      right
      rw [if_pos rfl, ← hText, hText']
    · rw [if_neg hHere]
      simpa [hHere] using hGiven

/-- What is found stays true of an element when one of its attributes is set. -/
theorem TrueOf.set {key text : String} {found : List (String × String)} (h : TrueOf e found)
    (hText : e.attribute? key = some text) : TrueOf e (setAttribute key text found) := by
  intro k text' hLookup
  rw [lookup_setAttribute] at hLookup
  by_cases hHere : k = key
  · rw [if_pos hHere] at hLookup
    rw [hHere, hText, hLookup]
  · rw [if_neg hHere] at hLookup
    exact h k text' hLookup

/-- Entries that all tell of an element are read without a fault, and what is gathered from them is
true of it. -/
theorem attributesOf_of_tells (name : Scalar) {entries : List (Scalar × Data)}
    (hTells : ∀ entry ∈ entries, Tells entry e) {found : List (String × String)}
    (hFound : TrueOf e found) :
    ∃ attributes, attributesOf name found entries = .ok attributes ∧
      Gathered e entries found attributes := by
  induction entries generalizing found with
  | nil =>
      refine ⟨found, rfl, hFound, fun key text _ _ hGiven => ?_⟩
      simpa using hGiven
  | cons entry rest ih =>
      have hRest : ∀ other ∈ rest, Tells other e := fun other hOther =>
        hTells other (List.mem_cons_of_mem _ hOther)
      cases hTells entry (List.mem_cons_self ..) with
      | children _ | noChildren _ =>
          obtain ⟨attributes, hRead, hGathered⟩ := ih hRest hFound
          refine ⟨attributes, by simpa [attributesOf] using hRead, hGathered.skip ?_⟩
          intro k text _ hName hSame
          cases hSame
          exact hName rfl
      | @unset _ key hName hNone =>
          obtain ⟨attributes, hRead, hGathered⟩ := ih hRest hFound
          refine ⟨attributes, by simpa [attributesOf, hName] using hRead, hGathered.skip ?_⟩
          intro k text hText _ hSame
          cases hSame
          simp [hNone] at hText
      | @given _ key text s hName hText hSpells =>
          obtain ⟨attributes, hRead, hGathered⟩ := ih hRest (hFound.set hText)
          exact ⟨attributes, by rw [attributesOf_cons_of_spells hName hSpells, hRead],
            hGathered.set hText⟩

/-- Where all entries tell of an element, and none of its attributes is left out, what is gathered
from them has the same text under every key. -/
theorem Gathered.lookup_eq {entries : List (Scalar × Data)} {attributes : List (String × String)}
    (h : Gathered e entries [] attributes)
    (hAll : ∀ a ∈ e.attributes, a.1 ≠ "children" ∧ .text a.1 ∈ entries.map (·.1)) (key : String) :
    attributes.lookup key = e.attribute? key := by
  cases hText : e.attribute? key with
  | none =>
      cases hFound : attributes.lookup key with
      | none => rfl
      | some text => simp [h.sound key text hFound] at hText
  | some text =>
      obtain ⟨hName, hMem⟩ := hAll (key, text) (mem_of_lookup hText)
      exact h.complete key text hText hName (.inl hMem)

/-- Some items that elements are written as are read as elements that look the same. -/
def ReadsItems (items : List Data) : Prop :=
  ∀ es, List.Forall₂ Writes items es →
    ∃ es', toElements items = .ok es' ∧ List.Forall₂ Element.Same es es'

/-- The entry of the children, or its absence, gives the children of the element that the entries
tell of. -/
theorem entryChildren_of_tells {entries : List (Scalar × Data)}
    (hTells : ∀ entry ∈ entries, Tells entry e)
    (hNone : .text "children" ∉ entries.map (·.1) → e.children = [])
    (hItems : ∀ items, sizeOf items < sizeOf entries → ReadsItems items) :
    ∃ children, entryChildren entries = .ok children ∧
      List.Forall₂ Element.Same e.children children := by
  rw [entryChildren_eq]
  cases hFind : entries.find? (·.1 == childrenKey) with
  | none =>
      have hAbsent : .text "children" ∉ entries.map (·.1) := by
        intro hMem
        obtain ⟨entry, hEntry, hKey⟩ := List.mem_map.mp hMem
        exact List.find?_eq_none.mp hFind entry hEntry (by simp [hKey, childrenKey])
      rw [hNone hAbsent]
      exact ⟨[], rfl, .nil⟩
  | some entry =>
      have hMem := List.mem_of_find?_eq_some hFind
      have hKey : entry.1 = .text "children" := by simpa [childrenKey] using List.find?_some hFind
      cases hTells entry hMem with
      | @children _ items hWrites =>
          exact hItems items (sizeOf_lt_of_mem_entries hMem) _ hWrites
      | noChildren hEmpty =>
          rw [hEmpty]
          exact ⟨[], rfl, .nil⟩
      | given hName _ _ | unset hName _ => exact absurd (by simpa using hKey) hName

mutual

/-- However an element is written, it is read as an element that looks the same. By recursion on
the data. -/
theorem toElement_of_writes {d : Data} {e : Element} (h : Writes d e) :
    ∃ e', d.toElement = .ok e' ∧ Element.Same e e' := by
  cases h with
  | @bare name => exact ⟨⟨name, [], []⟩, rfl, .intro rfl (fun _ => rfl) .nil⟩
  | @list name items _ hItems =>
      obtain ⟨children, hRead, hSame⟩ := toElements_of_writes items _ hItems
      refine ⟨⟨name, [], children⟩, ?_, .intro rfl (fun _ => rfl) hSame⟩
      simp [toElement, bodyElement, hRead, scalarText_text, bind, Except.bind, pure, Except.pure]
  | @mapping name attributes children entries hTells hAll hNone =>
      have hEmpty : TrueOf ⟨name, attributes, children⟩ [] := fun _ _ h => nomatch h
      obtain ⟨attributes', hAttributes, hGathered⟩ :=
        attributesOf_of_tells (.text name) hTells hEmpty
      obtain ⟨children', hRead, hSame⟩ := entryChildren_of_tells hTells hNone
        fun items _ => toElements_of_writes items
      refine ⟨⟨name, attributes', children'⟩, ?_, .intro rfl (hGathered.lookup_eq hAll) hSame⟩
      simp [toElement, bodyElement, hAttributes, hRead, scalarText_text, bind, Except.bind, pure,
        Except.pure]
termination_by sizeOf d

/-- Items that write elements are read as the same elements. The recursion follows the size of the
items and goes through the body of each. -/
theorem toElements_of_writes (items : List Data) : ReadsItems items := by
  intro es h
  cases h with
  | nil => exact ⟨[], rfl, .nil⟩
  | @cons d e rest es hFirst hRest =>
      obtain ⟨e', hRead, hSame⟩ := toElement_of_writes hFirst
      obtain ⟨es', hReadRest, hSameRest⟩ := toElements_of_writes rest es hRest
      refine ⟨e' :: es', ?_, .cons hSame hSameRest⟩
      simp [toElements, hRead, hReadRest, bind, Except.bind, pure, Except.pure]
termination_by sizeOf items

end

/-- However an element is written, the data is read, and a parser cannot tell what it is read as
from the element itself: from any entry point on it takes the same steps to the same end. -/
theorem read_of_writes {d : Data} {e : Element} (h : Writes d e) :
    ∃ e', d.toElement = .ok e' ∧ Element.Same e e' ∧
      ∀ {α : Type} (p : Parser) (entry : Parser.EntryPoint α) (path : Path),
        p.read entry e' path = p.read entry e path := by
  obtain ⟨e', hRead, hSame⟩ := toElement_of_writes h
  exact ⟨e', hRead, hSame, fun _ entry path => Parser.read_same entry hSame path⟩

/-- A choice with a weight that is a number, a truth value in what it requires, and attributes
that are not in the order of the element. -/
def prize : Element :=
  ⟨"random_choice", [], [
    ⟨"choice", [("weight", "78")], [
      ⟨"requirement", [], [⟨"false_requirement", [("ok", "false"), ("reason", "closed")], []⟩]⟩,
      ⟨"modifier", [], [⟨"grant_xp_range", [("min", "-1"), ("max", "10")], []⟩,
        ⟨"nothing", [], []⟩]⟩]⟩]⟩

def prizeData : Data :=
  .mapping [(.text "random_choice", .list [.mapping [(.text "choice", .mapping [
    (.text "limit", .null),
    (.text "children", .list [
      .mapping [(.text "requirement", .list [.mapping [(.text "false_requirement", .mapping [
        (.text "reason", .text "closed"), (.text "children", .null),
        (.text "ok", .bool false)])]])],
      .mapping [(.text "modifier", .mapping [(.text "children", .list [
        .mapping [(.text "grant_xp_range", .mapping [
          (.text "max", .text "10"), (.text "min", .integer (-1))])],
        .mapping [(.text "nothing", .null)]])])]]),
    (.text "weight", .integer 78)])]])]

/-- The data writes the element: the entries come in another order, some are numbers, and one that
is null says nothing. -/
theorem writes_prizeData : Writes prizeData prize := by
  have hReason : Writes (.mapping [(.text "false_requirement", .mapping [
      (.text "reason", .text "closed"), (.text "children", .null), (.text "ok", .bool false)])])
      ⟨"false_requirement", [("ok", "false"), ("reason", "closed")], []⟩ := by
    apply Writes.mapping
    · simp only [List.forall_mem_cons, List.not_mem_nil, false_imp_iff, implies_true, and_true]
      exact ⟨.given (by decide) rfl (.text _), .noChildren rfl,
        .given (by decide) rfl (.bool false)⟩
    · decide
    · exact fun _ => rfl
  have hRange : Writes (.mapping [(.text "grant_xp_range", .mapping [
      (.text "max", .text "10"), (.text "min", .integer (-1))])])
      ⟨"grant_xp_range", [("min", "-1"), ("max", "10")], []⟩ := by
    apply Writes.mapping
    · simp only [List.forall_mem_cons, List.not_mem_nil, false_imp_iff, implies_true, and_true]
      exact ⟨.given (by decide) rfl (.text _),
        .given (by decide) rfl (.integer (n := -1) (by decide +kernel))⟩
    · decide
    · exact fun _ => rfl
  refine .list (.cons ?_ .nil)
  apply Writes.mapping
  · simp only [List.forall_mem_cons, List.not_mem_nil, false_imp_iff, implies_true, and_true]
    refine ⟨.unset (by decide) rfl, .children (.cons (.list (.cons hReason .nil)) (.cons ?_ .nil)),
      .given (by decide) rfl (.integer (n := 78) (by decide +kernel))⟩
    apply Writes.mapping
    · simp only [List.forall_mem_cons, List.not_mem_nil, false_imp_iff, implies_true, and_true]
      exact .children (.cons hRange (.cons .bare .nil))
    · decide
    · exact fun h => absurd (List.mem_cons_self ..) h
  · decide
  · exact fun h => absurd (List.mem_cons_of_mem _ (List.mem_cons_self ..)) h

/-- From the data an element is read of which every parser makes the same as of the original. -/
theorem read_of_writes_prizeData :
    Writes prizeData prize ∧ ∃ e', prizeData.toElement = .ok e' ∧ Element.Same prize e' ∧
      ∀ {α : Type} (p : Parser) (entry : Parser.EntryPoint α) (path : Path),
        p.read entry e' path = p.read entry prize path :=
  ⟨writes_prizeData, read_of_writes writes_prizeData⟩

end Data

end Bounty
