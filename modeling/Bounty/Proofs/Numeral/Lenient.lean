import Bounty.Numeral.Lenient
import Bounty.Proofs.Numeral.Spelling

/-! Lenient integers beside strict ones. In the most lenient form the digits and the blanks may be
of any script and underscores may stand between the digits. What the pattern of strict integers
matches is the same integer in both forms, so strict reading is lenient reading behind it. -/
namespace Bounty.Numeral

def isDecimal (c : Char) : Bool := (Text.digitValue? c).isSome

/-- The integer that a text is in base ten, in the most lenient form. An underscore has to stand
between two digits. -/
def groupedInteger? (cs : List Char) : Option Int :=
  let groups := cs.splitOn '_'
  -- Without an underscore there is one group, and nothing is asked of its ends.
  if groups.dropLast.all (fun group => group.getLast?.any isDecimal) &&
      groups.tail.all (fun group => group.head?.any isDecimal) then
    lenientInteger? 10 groups.flatten
  else none

/-- Without underscores there are no groups to check. -/
theorem groupedInteger?_of_notMem {cs : List Char} (h : '_' ∉ cs) :
    groupedInteger? cs = lenientInteger? 10 cs := by
  have hGroups : cs.splitOn '_' = [cs] := List.splitOn_eq_singleton h
  simp [groupedInteger?, hGroups]

/-- Characters of ASCII stand for themselves, whatever a decimal digit of another script would
become. -/
theorem plainForm_eq_self {cs : List Char} (h : ∀ c ∈ cs, c.toNat < 0x80) : plainForm cs = cs :=
  (List.map_congr_left fun c hc => if_pos (h c hc)).trans (List.map_id' cs)

/-- A decimal numeral has no mark of its base. -/
theorem withoutMark_ten (cs : List Char) : withoutMark 10 cs = cs := by
  unfold withoutMark
  split
  · exact if_neg (by simp [baseMark?])
  · rfl

/-- A digit has the same value in the base of sixteen as in that of ten. -/
theorem hexValue?_filter_eq_some {c : Char} (h : c.isDigit = true) :
    (hexValue? c).filter (· < 10) = some (c.toNat - '0'.toNat) := by
  simp only [hexValue?, h, if_true, Option.filter_some, decide_eq_true_eq]
  exact if_pos (Nat.lt_succ_of_le (digit_le_nine h))

/-- Digit by digit the lenient reader builds up the number that the digits stand for. -/
theorem foldlM_hexValue? {cs : List Char} (h : ∀ c ∈ cs, c.isDigit = true) (n : Nat) :
    cs.foldlM (fun n c => ((hexValue? c).filter (· < 10)).map (10 * n + ·)) n =
      some (Nat.ofDigitChars 10 cs n) := by
  induction cs generalizing n with
  | nil => rfl
  | cons c rest ih =>
      rw [List.foldlM_cons, hexValue?_filter_eq_some (h c (by simp)), Nat.ofDigitChars_cons]
      exact ih (fun d hd => h d (by simp [hd])) _

/-- Plain digits make no difference between the two readers. -/
theorem ofDigits?_eq_some {cs : List Char} (h : isDigits cs = true) :
    ofDigits? 10 cs = some (Nat.ofDigitChars 10 cs 0) := by
  simp only [isDigits, Bool.and_eq_true, Bool.not_eq_true', List.all_eq_true] at h
  rw [ofDigits?, if_neg (by simp [h.1])]
  exact foldlM_hexValue? h.2 0

namespace Spelling

variable (w : Spelling)

/-- A spelling that the pattern lets through is of ASCII throughout. -/
theorem toNat_lt_of_mem_chars {c : Char} (h : c ∈ w.chars) : c.toNat < 0x80 := by
  rcases mem_chars h with hBlank | rfl | rfl | hDigit
  · simp only [Text.isAsciiBlank, Bool.or_eq_true, beq_iff_eq, Bool.and_eq_true,
      decide_eq_true_eq] at hBlank
    rcases hBlank with rfl | hRange
    · decide
    · omega
  · decide
  · decide
  · have hUpper := (Text.toNat_of_isDigit hDigit).2
    omega

/-- A spelling is its value also in the lenient form, unless it has too many digits. -/
theorem groupedInteger?_chars : groupedInteger? w.chars =
    if w.digits.length ≤ digitLimit then some w.value else none := by
  have hMark : '_' ∉ w.chars := by
    intro h
    rcases mem_chars h with hBlank | hPlus | hMinus | hDigit
    · cases hBlank
    · cases hPlus
    · cases hMinus
    · cases hDigit
  rw [groupedInteger?_of_notMem hMark, lenientInteger?,
    plainForm_eq_self fun c hc => w.toNat_lt_of_mem_chars hc, w.splitSign_trim]
  by_cases hLength : w.digits.length ≤ digitLimit
  · simp [hLength, Nat.not_lt.mpr hLength, withoutMark_ten, ofDigits?_eq_some w.isDigits_digits,
      value_eq_signed]
  · simp [hLength, Nat.lt_of_not_le hLength]

end Spelling

/-- Strict reading is lenient reading of what the pattern lets through. -/
theorem toOption_read (s : String) :
    (read s).toOption = if pattern.rmatch s.toList then groupedInteger? s.toList else none := by
  have hMatch : pattern.rmatch s.toList = true ↔ ∃ w : Spelling, w.text = s :=
    (RegularExpression.rmatch_iff_matches' _ _).trans toList_mem_pattern
  by_cases h : ∃ w : Spelling, w.text = s
  · rw [if_pos (hMatch.mpr h)]
    obtain ⟨w, rfl⟩ := h
    rw [w.read_text, w.toList_text, w.groupedInteger?_chars]
    split <;> rfl
  · rw [if_neg (hMatch.not.mpr h), read_eq_malformed fun w hText => h ⟨w, hText⟩]
    rfl

/-- Digits of another script and underscores are for the lenient form alone. -/
example : groupedInteger? "٤_2".toList = some 42 ∧ read "٤_2" = .error .malformed := by decide

end Bounty.Numeral
