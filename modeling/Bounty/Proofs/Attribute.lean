import Bounty.Proofs.Numeral.Lenient
import Bounty.Proofs.Parser.Blocks
import Bounty.Proofs.Parser.Completeness

/-! Integers in attributes. The text of an attribute is read as an integer where the whole of it is
spelt as one, and then the spelling has no say but by its value. All other texts are told of as they
stand. -/
namespace Bounty.Attribute

open Numeral

variable {key raw : String} {here : Path} {e : Element}

/-- An attribute has a text that is no numeral. The text is told as it stands. -/
def malformed (key raw : String) (here : Path) (e : Element) : Stop :=
  .fault ⟨.invalidNumber key raw "not an integer", ⟨e.name, here⟩⟩

/-- An attribute that is not there is missing, and so is one that is empty. -/
theorem outcome_integer_of_blank (h : e.attribute? key = none ∨ e.attribute? key = some "") :
    (integer key here e).outcome =
      .error (.fault ⟨.missingAttribute key, ⟨e.name, here⟩⟩) := by
  have hText : text key here e = .fault (.missingAttribute key) e.name here := by
    rcases h with hNone | hEmpty
    · simp [text, hNone]
    · simp [text, hEmpty]
  rw [integer, hText]
  rfl

/-- A value comes from the text under the key alone. -/
theorem outcome_integer_eq_ok_iff_read {n : Int} (h : e.attribute? key = some raw) :
    (integer key here e).outcome = .ok n ↔ read raw = .ok n := by
  rw [outcome_integer_eq_ok_iff]
  simp [Parser.ReadsAs, h]

/-- Within the limit, a text is read where it has a spelling, as the value of this. -/
theorem outcome_integer_eq_ok_iff_exists {n : Int} (h : e.attribute? key = some raw)
    (hDigits : raw.toList.countP Char.isDigit ≤ digitLimit) :
    (integer key here e).outcome = .ok n ↔ ∃ w : Spelling, w.text = raw ∧ w.value = n := by
  rw [outcome_integer_eq_ok_iff_read h, read_eq_ok_iff_exists]
  constructor
  · rintro ⟨w, hText, -, hValue⟩
    exact ⟨w, hText, hValue⟩
  · rintro ⟨w, rfl, hValue⟩
    exact ⟨w, rfl, w.countP_isDigit_text ▸ hDigits, hValue⟩

/-- Every spelling with few enough digits is read as its value. -/
theorem outcome_integer_of_spelling {w : Spelling} (h : e.attribute? key = some w.text)
    (hLength : w.digits.length ≤ digitLimit) : (integer key here e).outcome = .ok w.value :=
  (outcome_integer_eq_ok_iff_exists h (w.countP_isDigit_text ▸ hLength)).mpr ⟨w, rfl, rfl⟩

/-- A text that is no spelling is told in the fault as it stands. -/
theorem outcome_integer_of_malformed (h : e.attribute? key = some raw) (hRaw : raw ≠ "")
    (hNone : ∀ w : Spelling, w.text ≠ raw) :
    (integer key here e).outcome = .error (malformed key raw here e) := by
  rw [integer, text_eq_pure h hRaw, pure_bind, read_eq_malformed hNone]
  rfl

/-- A character that no numeral has makes a text malformed. -/
theorem outcome_integer_of_foreign {c : Char} (h : e.attribute? key = some raw)
    (hMem : c ∈ raw.toList) (hBlank : Text.isAsciiBlank c = false) (hPlus : c ≠ '+')
    (hMinus : c ≠ '-') (hDigit : c.isDigit = false) :
    (integer key here e).outcome = .error (malformed key raw here e) := by
  have hRaw : raw ≠ "" := by
    rintro rfl
    cases hMem
  refine outcome_integer_of_malformed h hRaw fun w hText => ?_
  rw [← hText, w.toList_text] at hMem
  rcases w.mem_chars hMem with hOther | hOther | hOther | hOther
  · exact absurd hOther (by simp [hBlank])
  · exact hPlus hOther
  · exact hMinus hOther
  · exact absurd hOther (by simp [hDigit])

/-- A blank between two characters that are none makes a text malformed. -/
theorem outcome_integer_of_inner {front back : List Char} {c first last : Char}
    (h : e.attribute? key = some raw) (hParts : raw.toList = front ++ c :: back)
    (hBlank : Text.isAsciiBlank c = true) (hFirst : first ∈ front)
    (hFirstBlank : Text.isAsciiBlank first = false) (hLast : last ∈ back)
    (hLastBlank : Text.isAsciiBlank last = false) :
    (integer key here e).outcome = .error (malformed key raw here e) := by
  have hRaw : raw ≠ "" := by
    rintro rfl
    simp at hParts
  refine outcome_integer_of_malformed h hRaw fun w hText => ?_
  rw [← hText, w.toList_text] at hParts
  rcases w.blank_of_chars_eq hParts hBlank with hFront | hBack
  · exact absurd (hFront first hFirst) (by simp [hFirstBlank])
  · exact absurd (hBack last hLast) (by simp [hLastBlank])

/-- Behind the pattern, an integer is what it is in the lenient form. -/
theorem outcome_integer_eq_ok_iff_lenient {n : Int} (h : e.attribute? key = some raw)
    (hMatch : raw.toList ∈ pattern.matches') :
    (integer key here e).outcome = .ok n ↔ groupedInteger? raw.toList = some n := by
  have hLenient := toOption_read raw
  rw [if_pos ((RegularExpression.rmatch_iff_matches' _ _).mpr hMatch)] at hLenient
  rw [outcome_integer_eq_ok_iff_read h, ← hLenient]
  cases read raw with
  | ok m => simp [Except.toOption]
  | error fault => simp [Except.toOption]

/-- What becomes of the attributes that are asked for as integers. -/
structure ReadsNumerals (key : String) (here : Path) (e : Element) : Prop where
  /-- An attribute that is absent or empty is missing. -/
  missing : e.attribute? key = none ∨ e.attribute? key = some "" →
    (integer key here e).outcome = .error (.fault ⟨.missingAttribute key, ⟨e.name, here⟩⟩)
  /-- A text is read where the whole of it is spelt as a numeral, and as the value of this. -/
  read_iff (raw : String) (n : Int) : e.attribute? key = some raw →
    raw.toList.countP Char.isDigit ≤ digitLimit →
    ((integer key here e).outcome = .ok n ↔ ∃ w : Spelling, w.text = raw ∧ w.value = n)
  /-- Every other text is malformed. -/
  refused (raw : String) : e.attribute? key = some raw → raw ≠ "" →
    (∀ w : Spelling, w.text ≠ raw) →
    (integer key here e).outcome = .error (malformed key raw here e)
  /-- So are all texts with a character other than ASCII blanks, signs and ASCII digits. -/
  foreign (raw : String) (c : Char) : e.attribute? key = some raw → c ∈ raw.toList →
    Text.isAsciiBlank c = false → c ≠ '+' → c ≠ '-' → c.isDigit = false →
    (integer key here e).outcome = .error (malformed key raw here e)
  /-- So are all texts with a blank between characters that are none. -/
  inner (raw : String) (front back : List Char) (c first last : Char) :
    e.attribute? key = some raw → raw.toList = front ++ c :: back →
    Text.isAsciiBlank c = true → first ∈ front → Text.isAsciiBlank first = false →
    last ∈ back → Text.isAsciiBlank last = false →
    (integer key here e).outcome = .error (malformed key raw here e)
  /-- Blanks around, a plus, and zeros in front make no difference. -/
  alike (other : Element) (v w : Spelling) : v.Alike w →
    v.digits.length ≤ digitLimit → w.digits.length ≤ digitLimit →
    e.attribute? key = some v.text → other.attribute? key = some w.text →
    (integer key here e).outcome = .ok v.value ∧ (integer key here other).outcome = .ok v.value
  /-- An integer is read from what is written of it. -/
  written (n : Int) : isWritable n = true → e.attribute? key = some (write n) →
    (integer key here e).outcome = .ok n
  /-- The pattern lets through what is spelt as a numeral. -/
  matched (raw : String) : raw.toList ∈ pattern.matches' ↔ ∃ w : Spelling, w.text = raw
  /-- What the pattern lets through is the same integer in the lenient form, or in neither. -/
  lenient_iff (raw : String) (n : Int) : e.attribute? key = some raw →
    raw.toList ∈ pattern.matches' →
    ((integer key here e).outcome = .ok n ↔ groupedInteger? raw.toList = some n)
  /-- Within the limit, what the pattern lets through is never refused in the lenient form. -/
  lenient_isSome (raw : String) : raw.toList ∈ pattern.matches' →
    raw.toList.countP Char.isDigit ≤ digitLimit → (groupedInteger? raw.toList).isSome = true

/-- Every attribute that is asked for as an integer is read by the grammar of numerals. -/
theorem readsNumerals_integer (key : String) (here : Path) (e : Element) :
    ReadsNumerals key here e where
  missing := outcome_integer_of_blank
  read_iff _ _ := outcome_integer_eq_ok_iff_exists
  refused _ := outcome_integer_of_malformed
  foreign _ _ := outcome_integer_of_foreign
  inner _ _ _ _ _ _ := outcome_integer_of_inner
  alike other v w hAlike hLength hOther h h' := by
    refine ⟨outcome_integer_of_spelling h hLength, ?_⟩
    rw [hAlike.value_eq]
    exact outcome_integer_of_spelling h' hOther
  written n hn h := by
    rw [integer_eq_pure h hn]
    rfl
  matched _ := toList_mem_pattern
  lenient_iff _ _ := outcome_integer_eq_ok_iff_lenient
  lenient_isSome raw hMatch hDigits := by
    obtain ⟨w, rfl⟩ := toList_mem_pattern.mp hMatch
    rw [w.countP_isDigit_text] at hDigits
    rw [w.toList_text, w.groupedInteger?_chars, if_pos hDigits]
    rfl

/-- An element with an attribute that is asked for as an integer. -/
def grant (raw : String) : Element := ⟨"grant_xp", [("value", raw)], []⟩

def padded : Spelling := ⟨['\t'], .minus, ['0', '0', '7'], ['\r'],
  List.forall_mem_singleton.mpr rfl, rfl, List.forall_mem_singleton.mpr rfl⟩

def bare : Spelling := ⟨[], .minus, ['7'], [], List.forall_mem_nil _, rfl, List.forall_mem_nil _⟩

theorem readsNumerals_integer_padded :
    (integer "value" ["grant_xp"] (grant padded.text)).outcome = .ok (-7) ∧
    groupedInteger? padded.text.toList = some (-7) ∧
    (integer "value" ["grant_xp"] (grant bare.text)).outcome = .ok (-7) ∧
    (integer "value" ["grant_xp"] (grant "4٢")).outcome =
      .error (malformed "value" "4٢" ["grant_xp"] (grant "4٢")) ∧
    (integer "value" ["grant_xp"] (grant "- 5")).outcome =
      .error (malformed "value" "- 5" ["grant_xp"] (grant "- 5")) := by
  have hReads (raw : String) := readsNumerals_integer "value" ["grant_xp"] (grant raw)
  have hDigits : padded.text.toList.countP Char.isDigit ≤ digitLimit := by decide
  have hRead := ((hReads padded.text).read_iff _ (-7) rfl hDigits).mpr ⟨padded, rfl, rfl⟩
  have hMatch := ((hReads "").matched padded.text).mpr ⟨padded, rfl⟩
  have hLenient := ((hReads padded.text).lenient_iff _ (-7) rfl hMatch).mp hRead
  obtain ⟨-, hBare⟩ := (hReads padded.text).alike (grant bare.text) padded bare ⟨rfl, rfl⟩
    (by decide) (by decide) rfl rfl
  refine ⟨hRead, hLenient, hBare, ?_, ?_⟩
  · exact (hReads "4٢").foreign _ '٢' rfl (by decide) rfl (by decide) (by decide) rfl
  · exact (hReads "- 5").inner _ ['-'] ['5'] ' ' '-' '5' rfl (by decide) rfl (by decide) rfl
      (by decide) rfl

end Bounty.Attribute
