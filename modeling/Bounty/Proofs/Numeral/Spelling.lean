import Bounty.Proofs.Numeral
import Mathlib.Computability.RegularExpressions
import Mathlib.Data.List.DropRight
import Mathlib.Data.Nat.Digits.Defs

/-! How integers are spelt. A spelling is put together from blanks, a sign, digits and blanks, and
its value is told by the places of its digits. A text is a numeral where it has a spelling, which is
the same as matching one regular expression. -/
namespace Bounty

/-- All that is taken off a text is blank. -/
theorem Text.exists_trim (blank : Char → Bool) (cs : List Char) : ∃ before after,
    before ++ (Text.trim blank cs ++ after) = cs ∧ (∀ c ∈ before, blank c = true) ∧
      ∀ c ∈ after, blank c = true := by
  refine ⟨cs.takeWhile blank, (cs.dropWhile blank).rtakeWhile blank, ?_, ?_, ?_⟩
  · have hBack : Text.trim blank cs ++ (cs.dropWhile blank).rtakeWhile blank = cs.dropWhile blank :=
      List.rdropWhile_append_rtakeWhile
    rw [hBack, List.takeWhile_append_dropWhile]
  · exact fun c hc => List.mem_takeWhile_imp hc
  · exact fun c hc => List.mem_rtakeWhile_imp hc

namespace Numeral

/-- What stands in front of the digits. -/
inductive Sign where
  | absent
  | plus
  | minus
deriving DecidableEq, Repr

def Sign.chars : Sign → List Char
  | .absent => []
  | .plus => ['+']
  | .minus => ['-']

def Sign.isMinus : Sign → Bool
  | .minus => true
  | _ => false

/-- A sign is written with one of two characters, or not at all. -/
theorem Sign.mem_chars {sign : Sign} {c : Char} (h : c ∈ sign.chars) : c = '+' ∨ c = '-' := by
  cases sign with
  | absent => cases h
  | plus => exact .inl (List.mem_singleton.mp h)
  | minus => exact .inr (List.mem_singleton.mp h)

/-- The sign that a spelling starts with is the one that is taken off. -/
theorem splitSign_append (sign : Sign) {digits : List Char} (h : isDigits digits = true) :
    splitSign (sign.chars ++ digits) = (sign.isMinus, digits) := by
  cases sign with
  | absent => exact splitSign_of_isDigits h
  | plus => rfl
  | minus => rfl

/-- Every text is a sign, if only an absent one, and what is left of it without. -/
theorem exists_sign (cs : List Char) : ∃ sign : Sign,
    sign.chars ++ (splitSign cs).2 = cs ∧ sign.isMinus = (splitSign cs).1 := by
  unfold splitSign
  split
  · exact ⟨.minus, rfl, rfl⟩
  · exact ⟨.plus, rfl, rfl⟩
  · exact ⟨.absent, rfl, rfl⟩

/-- A numeral as it is spelt. -/
structure Spelling where
  before : List Char
  sign : Sign
  digits : List Char
  after : List Char
  blank_before : ∀ c ∈ before, Text.isAsciiBlank c = true
  isDigits_digits : isDigits digits = true
  blank_after : ∀ c ∈ after, Text.isAsciiBlank c = true

namespace Spelling

/-- The sign and the digits, with the blanks around left out. -/
def core (w : Spelling) : List Char := w.sign.chars ++ w.digits

def chars (w : Spelling) : List Char := w.before ++ (w.core ++ w.after)

def text (w : Spelling) : String := String.ofList w.chars

/-- The sum of the digits, each of them times the power of ten that its place stands for. -/
def magnitude (w : Spelling) : Nat :=
  Nat.ofDigits 10 (w.digits.reverse.map fun c => c.toNat - '0'.toNat)

def value (w : Spelling) : Int := if w.sign.isMinus then -(w.magnitude : Int) else w.magnitude

variable (w : Spelling)

@[simp] theorem toList_text : w.text.toList = w.chars := String.toList_ofList

/-- A spelling is compared by its characters. -/
theorem text_eq_iff {s : String} : w.text = s ↔ w.chars = s.toList := by
  rw [← String.toList_inj, toList_text]

/-- What a spelling carries as digits are digits. -/
theorem isDigit_of_mem_digits {c : Char} (h : c ∈ w.digits) : c.isDigit = true := by
  have hDigits := w.isDigits_digits
  simp only [isDigits, Bool.and_eq_true, List.all_eq_true] at hDigits
  exact hDigits.2 c h

/-- Between the blanks of a spelling stand signs and digits. -/
theorem mem_core {c : Char} (h : c ∈ w.core) : c = '+' ∨ c = '-' ∨ c.isDigit = true := by
  rcases List.mem_append.mp h with hSign | hDigit
  · exact (Sign.mem_chars hSign).imp_right .inl
  · exact .inr (.inr (w.isDigit_of_mem_digits hDigit))

/-- No blank stands inside a spelling, so trimming ends where the core begins. -/
theorem not_blank_of_mem_core {c : Char} (h : c ∈ w.core) : Text.isAsciiBlank c = false := by
  rcases w.mem_core h with rfl | rfl | hDigit
  · rfl
  · rfl
  · exact Text.isAsciiBlank_of_isDigit hDigit

/-- Trimmed and without its sign a spelling is its digits. -/
theorem splitSign_trim :
    splitSign (Text.trim Text.isAsciiBlank w.chars) = (w.sign.isMinus, w.digits) := by
  rw [chars, Text.trim_append w.blank_before (fun c hc => w.not_blank_of_mem_core hc) w.blank_after]
  exact splitSign_append w.sign w.isDigits_digits

end Spelling

/-- The numerals of some digits are the texts that have a spelling with these digits. -/
theorem hasDigits_iff {s : String} {digits : List Char} :
    HasDigits s digits ↔ ∃ w : Spelling, w.text = s ∧ w.digits = digits := by
  constructor
  · rintro ⟨rfl, hDigits⟩
    obtain ⟨before, after, hTrim, hBefore, hAfter⟩ := Text.exists_trim Text.isAsciiBlank s.toList
    obtain ⟨sign, hSign, -⟩ := exists_sign (Text.trim Text.isAsciiBlank s.toList)
    refine ⟨⟨before, sign, _, after, hBefore, hDigits, hAfter⟩, ?_, rfl⟩
    rw [Spelling.text_eq_iff, Spelling.chars, Spelling.core, hSign, hTrim]
  · rintro ⟨w, rfl, rfl⟩
    refine ⟨?_, w.isDigits_digits⟩
    rw [w.toList_text, w.splitSign_trim]

/-- Digits that are read one after the other have the value that their places give them. -/
theorem ofDigitChars_eq_ofDigits (cs : List Char) :
    Nat.ofDigitChars 10 cs 0 = Nat.ofDigits 10 (cs.reverse.map fun c => c.toNat - '0'.toNat) := by
  induction cs with
  | nil => rfl
  | cons c rest ih =>
      rw [Nat.ofDigitChars_cons, Nat.ofDigitChars_eq_ofDigitChars_zero, ih, List.reverse_cons,
        List.map_append, Nat.ofDigits_append, List.map_singleton, Nat.ofDigits_singleton,
        List.length_map, List.length_reverse]
      ring

namespace Spelling

/-- The value by places is the one that the reader makes of sign and digits. -/
theorem value_eq_signed (w : Spelling) :
    w.value = signed w.sign.isMinus (Nat.ofDigitChars 10 w.digits 0) := by
  rw [ofDigitChars_eq_ofDigits]
  rfl

/-- A spelling is read as its value, unless it has too many digits. -/
theorem read_text (w : Spelling) : read w.text =
    if w.digits.length ≤ digitLimit then .ok w.value else .error (.tooLong w.digits.length) := by
  have hParts : splitSign (Text.trim Text.isAsciiBlank w.text.toList) =
      (w.sign.isMinus, w.digits) := by
    rw [w.toList_text, w.splitSign_trim]
  by_cases hLength : w.digits.length ≤ digitLimit
  · rw [if_pos hLength, read_eq_ok_iff]
    exact ⟨_, _, hParts, w.isDigits_digits, hLength, w.value_eq_signed⟩
  · rw [if_neg hLength, read_eq_tooLong_iff]
    exact ⟨w.digits, hasDigits_iff.mpr ⟨w, rfl, rfl⟩, rfl, Nat.lt_of_not_le hLength⟩

end Spelling

/-- What is read is the value of a spelling whose digits are not too many. -/
theorem read_eq_ok_iff_exists {s : String} {n : Int} :
    read s = .ok n ↔ ∃ w : Spelling, w.text = s ∧ w.digits.length ≤ digitLimit ∧ w.value = n := by
  constructor
  · intro h
    obtain ⟨_, digits, hParts, hDigits, hLength, -⟩ := read_eq_ok_iff.mp h
    obtain ⟨w, rfl, rfl⟩ := hasDigits_iff.mp ⟨congrArg Prod.snd hParts, hDigits⟩
    rw [w.read_text, if_pos hLength] at h
    exact ⟨w, rfl, hLength, Except.ok.inj h⟩
  · rintro ⟨w, rfl, hLength, rfl⟩
    rw [w.read_text, if_pos hLength]

/-- A text without a spelling is malformed. -/
theorem read_eq_malformed {s : String} (h : ∀ w : Spelling, w.text ≠ s) :
    read s = .error .malformed := by
  rw [read_eq_malformed_iff]
  intro digits hDigits
  obtain ⟨w, hText, -⟩ := hasDigits_iff.mp hDigits
  exact h w hText

/-- Zeros in front count for nothing. -/
theorem ofDigitChars_dropWhile_zero (cs : List Char) :
    Nat.ofDigitChars 10 (cs.dropWhile (· == '0')) 0 = Nat.ofDigitChars 10 cs 0 := by
  induction cs with
  | nil => rfl
  | cons c rest ih =>
      by_cases hZero : c = '0'
      · subst hZero
        exact ih
      · rw [List.dropWhile_cons_of_neg (by simpa using hZero)]

namespace Spelling

/-- Two spellings differ in nothing but blanks, a plus, and zeros in front. -/
structure Alike (v w : Spelling) : Prop where
  isMinus_eq : v.sign.isMinus = w.sign.isMinus
  digits_eq : v.digits.dropWhile (· == '0') = w.digits.dropWhile (· == '0')

/-- Spellings that differ in blanks, a plus and zeros in front have one value. -/
theorem Alike.value_eq {v w : Spelling} (h : v.Alike w) : v.value = w.value := by
  rw [value_eq_signed, value_eq_signed, h.isMinus_eq, ← ofDigitChars_dropWhile_zero v.digits,
    h.digits_eq, ofDigitChars_dropWhile_zero]

/-- The digits of the text are those of the number; neither blanks nor signs are any. -/
theorem countP_isDigit_text (w : Spelling) :
    w.text.toList.countP Char.isDigit = w.digits.length := by
  have hBlanks (cs : List Char) (h : ∀ c ∈ cs, Text.isAsciiBlank c = true) :
      cs.countP Char.isDigit = 0 := by
    rw [List.countP_eq_zero]
    intro c hc hDigit
    exact absurd (h c hc) (by simp [Text.isAsciiBlank_of_isDigit hDigit])
  have hSign : w.sign.chars.countP Char.isDigit = 0 := by
    cases w.sign <;> rfl
  have hDigits : w.digits.countP Char.isDigit = w.digits.length :=
    List.countP_eq_length.mpr fun c hc => w.isDigit_of_mem_digits hc
  simp only [toList_text, chars, core, List.countP_append, hBlanks _ w.blank_before,
    hBlanks _ w.blank_after, hSign, hDigits, Nat.zero_add, Nat.add_zero]

/-- Nothing else stands in a spelling than blanks, signs and digits. -/
theorem mem_chars {w : Spelling} {c : Char} (h : c ∈ w.chars) :
    Text.isAsciiBlank c = true ∨ c = '+' ∨ c = '-' ∨ c.isDigit = true := by
  simp only [chars, List.mem_append] at h
  rcases h with hBefore | hCore | hAfter
  · exact .inl (w.blank_before c hBefore)
  · exact .inr (w.mem_core hCore)
  · exact .inl (w.blank_after c hAfter)

/-- Blanks stand in front of everything else or behind it. -/
theorem blank_of_chars_eq {w : Spelling} {front back : List Char} {c : Char}
    (h : w.chars = front ++ c :: back) (hBlank : Text.isAsciiBlank c = true) :
    (∀ d ∈ front, Text.isAsciiBlank d = true) ∨ ∀ d ∈ back, Text.isAsciiBlank d = true := by
  -- The blank is among those in front or behind, since there is none in the core.
  rcases List.append_eq_append_iff.mp h with ⟨front, rfl, hRest⟩ | ⟨rest, hBefore, -⟩
  · rcases List.append_eq_append_iff.mp hRest with ⟨rest, -, hAfter⟩ | ⟨rest, hCore, hBack⟩
    · exact .inr fun d hd => w.blank_after d (by simp [hAfter, hd])
    · cases rest with
      | nil =>
          have hAfter : w.after = c :: back := hBack.symm
          exact .inr fun d hd => w.blank_after d (by simp [hAfter, hd])
      | cons first rest =>
          obtain rfl : c = first := (List.cons.inj hBack).1
          exact absurd hBlank (by simp [w.not_blank_of_mem_core (c := c) (by simp [hCore])])
  · exact .inl fun d hd => w.blank_before d (by simp [hBefore, hd])

end Spelling

section Pattern

open RegularExpression

/-- Any single one of some characters. -/
def oneOf (cs : List Char) : RegularExpression Char := (cs.map char).sum

/-- The white space of ASCII. -/
def blanks : List Char := [' ', '\t', '\n', '\x0b', '\x0c', '\r']

def digitChars : List Char := ['0', '1', '2', '3', '4', '5', '6', '7', '8', '9']

/-- Blanks, at most one sign, one digit or more, and blanks. -/
def pattern : RegularExpression Char :=
  star (oneOf blanks) *
    ((1 + oneOf ['+', '-']) * (oneOf digitChars * star (oneOf digitChars)) * star (oneOf blanks))

/-- A class of characters matches the words of one of them. -/
theorem mem_oneOf {cs word : List Char} :
    word ∈ (oneOf cs).matches' ↔ ∃ c ∈ cs, word = [c] := by
  induction cs with
  | nil => simp [oneOf]
  | cons c rest ih =>
      have hSum : oneOf (c :: rest) = char c + oneOf rest := rfl
      rw [hSum, matches'_add, Language.mem_add, ih, matches'_char, List.exists_mem_cons_iff]
      exact Iff.rfl

/-- Repeated, it matches the words that are made of them. -/
theorem mem_star_oneOf {cs word : List Char} :
    word ∈ (star (oneOf cs)).matches' ↔ ∀ c ∈ word, c ∈ cs := by
  rw [matches'_star, Language.mem_kstar]
  constructor
  · rintro ⟨parts, rfl, hParts⟩ c hc
    obtain ⟨part, hPart, hMem⟩ := List.mem_flatten.mp hc
    obtain ⟨d, hd, rfl⟩ := mem_oneOf.mp (hParts part hPart)
    rwa [List.mem_singleton.mp hMem]
  · intro h
    refine ⟨word.map fun c => [c], (List.flatMap_singleton' word).symm, ?_⟩
    intro part hPart
    obtain ⟨c, hc, rfl⟩ := List.mem_map.mp hPart
    exact mem_oneOf.mpr ⟨c, h c hc, rfl⟩

/-- The listed blanks are those that the trimming takes off. -/
theorem mem_blanks {c : Char} : c ∈ blanks ↔ Text.isAsciiBlank c = true := by
  simp only [blanks, List.mem_cons, List.not_mem_nil, or_false, ← Char.toNat_inj,
    Char.reduceToNat, Text.isAsciiBlank, Bool.or_eq_true, Bool.and_eq_true, beq_iff_eq,
    decide_eq_true_eq]
  omega

/-- The padding of the pattern is whatever consists of blanks. -/
theorem mem_star_blanks {word : List Char} :
    word ∈ (star (oneOf blanks)).matches' ↔ ∀ c ∈ word, Text.isAsciiBlank c = true := by
  simp only [mem_star_oneOf, mem_blanks]

/-- The listed digits are the ones that the reader knows. -/
theorem mem_digitChars {c : Char} : c ∈ digitChars ↔ c.isDigit = true := by
  simp only [digitChars, List.mem_cons, List.not_mem_nil, or_false, ← Char.toNat_inj,
    Char.reduceToNat, Char.isDigit_iff_toNat]
  omega

/-- The optional sign of the pattern is a sign of a spelling. -/
theorem mem_sign {word : List Char} :
    word ∈ (1 + oneOf ['+', '-']).matches' ↔ ∃ sign : Sign, sign.chars = word := by
  rw [matches'_add, Language.mem_add, matches'_epsilon, Language.mem_one, mem_oneOf]
  constructor
  · rintro (rfl | ⟨c, hc, rfl⟩)
    · exact ⟨.absent, rfl⟩
    · rcases List.mem_pair.mp hc with rfl | rfl
      · exact ⟨.plus, rfl⟩
      · exact ⟨.minus, rfl⟩
  · rintro ⟨sign, rfl⟩
    cases sign with
    | absent => exact .inl rfl
    | plus => exact .inr ⟨'+', by simp, rfl⟩
    | minus => exact .inr ⟨'-', by simp, rfl⟩

/-- The pattern asks for one digit at least, as the reader does. -/
theorem mem_digits {word : List Char} :
    word ∈ (oneOf digitChars * star (oneOf digitChars)).matches' ↔ isDigits word = true := by
  rw [matches'_mul, Language.mem_mul]
  constructor
  · rintro ⟨first, hFirst, rest, hRest, rfl⟩
    obtain ⟨c, hc, rfl⟩ := mem_oneOf.mp hFirst
    simpa [isDigits, mem_digitChars.mp hc, ← mem_digitChars] using mem_star_oneOf.mp hRest
  · intro h
    cases word with
    | nil => cases h
    | cons c rest =>
        simp only [isDigits, List.isEmpty_cons, Bool.not_false, Bool.true_and, List.all_cons,
          Bool.and_eq_true, List.all_eq_true, ← mem_digitChars] at h
        exact ⟨[c], mem_oneOf.mpr ⟨c, h.1, rfl⟩, rest, mem_star_oneOf.mpr h.2, rfl⟩

/-- The pattern matches exactly the texts that have a spelling. -/
theorem toList_mem_pattern {s : String} :
    s.toList ∈ pattern.matches' ↔ ∃ w : Spelling, w.text = s := by
  simp only [Spelling.text_eq_iff]
  generalize s.toList = cs
  constructor
  · intro h
    obtain ⟨before, hBefore, _, hRest, rfl⟩ := Language.mem_mul.mp h
    obtain ⟨_, hCore, after, hAfter, rfl⟩ := Language.mem_mul.mp hRest
    obtain ⟨_, hSign, digits, hDigits, rfl⟩ := Language.mem_mul.mp hCore
    obtain ⟨sign, rfl⟩ := mem_sign.mp hSign
    exact ⟨⟨before, sign, digits, after, mem_star_blanks.mp hBefore, mem_digits.mp hDigits,
      mem_star_blanks.mp hAfter⟩, rfl⟩
  · rintro ⟨w, rfl⟩
    have hBefore := mem_star_blanks.mpr w.blank_before
    have hCore := Language.append_mem_mul (mem_sign.mpr ⟨w.sign, rfl⟩)
      (mem_digits.mpr w.isDigits_digits)
    have hAfter := mem_star_blanks.mpr w.blank_after
    exact Language.append_mem_mul hBefore (Language.append_mem_mul hCore hAfter)

end Pattern

end Numeral

end Bounty
