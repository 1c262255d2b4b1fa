import Bounty.Numeral

/-! Numerals that are read and written. What is read has no more digits than are written, and what
is written is read back. -/
namespace Bounty

namespace Text

variable {blank : Char → Bool}

/-- Where no character is blank nothing is dropped. -/
theorem dropWhile_eq_self {cs : List Char} (h : ∀ c ∈ cs, blank c = false) :
    cs.dropWhile blank = cs := by
  cases cs with
  | nil => rfl
  | cons c rest => exact List.dropWhile_cons_of_neg (by simp [h c])

/-- The blanks around a text are taken off, and no more than these. -/
theorem trim_append {before cs after : List Char} (hBefore : ∀ c ∈ before, blank c = true)
    (hCs : ∀ c ∈ cs, blank c = false) (hAfter : ∀ c ∈ after, blank c = true) :
    trim blank (before ++ (cs ++ after)) = cs := by
  have hBack : ∀ c ∈ after.reverse, blank c = true := by simpa using hAfter
  cases cs with
  | nil =>
      have hNone : (after ++ []).dropWhile blank = [] := List.dropWhile_append_of_pos hAfter
      rw [trim, List.dropWhile_append_of_pos hBefore, List.nil_append, ← List.append_nil after,
        hNone]
      rfl
  | cons c rest =>
      have hFront : (before ++ (c :: rest ++ after)).dropWhile blank = c :: rest ++ after := by
        rw [List.dropWhile_append_of_pos hBefore, List.cons_append]
        exact List.dropWhile_cons_of_neg (by simp [hCs c])
      rw [trim, hFront, List.reverse_append, List.dropWhile_append_of_pos hBack,
        dropWhile_eq_self (fun d hd => hCs d (List.mem_reverse.mp hd)), List.reverse_reverse]

/-- A text without blanks is its own core. -/
theorem trim_eq_self {cs : List Char} (h : ∀ c ∈ cs, blank c = false) : trim blank cs = cs := by
  have hBare : trim blank ([] ++ (cs ++ [])) = cs := trim_append (by simp) h (by simp)
  simpa using hBare

/-- The codes of the digits are ten in a row. -/
theorem toNat_of_isDigit {c : Char} (h : c.isDigit = true) :
    48 ≤ c.toNat ∧ c.toNat ≤ 57 :=
  Char.isDigit_iff_toNat.mp h

/-- No digit counts as a blank, so trimming leaves numerals alone. -/
theorem isAsciiBlank_of_isDigit {c : Char} (h : c.isDigit = true) : isAsciiBlank c = false := by
  have hLower := (toNat_of_isDigit h).1
  have hSpace : c ≠ ' ' := by
    intro hc
    subst hc
    exact absurd hLower (by decide)
  simp only [isAsciiBlank, Bool.or_eq_false_iff, beq_eq_false_iff_ne, Bool.and_eq_false_iff,
    decide_eq_false_iff_not]
  exact ⟨hSpace, Or.inr (by omega)⟩

end Text

namespace Numeral

/-- An integer can be written if its magnitude has no more digits than the limit. -/
theorem isWritable_iff {n : Int} : isWritable n = true ↔ n.natAbs < Nat.pow 10 digitLimit :=
  decide_eq_true_iff

theorem isWritable_one : isWritable 1 = true := by decide +kernel

/-- Between numbers that can be written lie only such numbers. -/
theorem isWritable_of_between {low n high : Int} (hLow : isWritable low = true)
    (hHigh : isWritable high = true) (hAbove : low ≤ n) (hBelow : n ≤ high) :
    isWritable n = true := by
  rw [isWritable_iff] at *
  generalize Nat.pow 10 digitLimit = bound at *
  omega

/-- Only integers of at most `digitLimit` digits can be written. -/
theorem isWritable_iff_length {n : Int} :
    isWritable n = true ↔ (Nat.toDigits 10 n.natAbs).length ≤ digitLimit := by
  have hLimit (limit : Nat) (h : 0 < limit) :
      (Nat.toDigits 10 n.natAbs).length ≤ limit ↔ n.natAbs < Nat.pow 10 limit :=
    Nat.length_toDigits_le_iff (by decide) h
  rw [isWritable_iff, hLimit digitLimit (by decide)]

/-- The value of a digit is that of its place after zero. -/
theorem digit_le_nine {c : Char} (h : c.isDigit = true) : c.toNat - '0'.toNat ≤ 9 := by
  have hUpper := (Text.toNat_of_isDigit h).2
  have hZero : '0'.toNat = 48 := rfl
  omega

/-- So many digits stay below the power of ten with as many zeros. -/
theorem ofDigitChars_lt {cs : List Char} (h : cs.all Char.isDigit = true) :
    Nat.ofDigitChars 10 cs 0 < Nat.pow 10 cs.length := by
  induction cs with
  | nil => exact Nat.one_pos
  | cons c rest ih =>
      simp only [List.all_cons, Bool.and_eq_true] at h
      have hRest := ih h.2
      have hHead : Nat.pow 10 rest.length * (c.toNat - '0'.toNat) ≤ Nat.pow 10 rest.length * 9 :=
        Nat.mul_le_mul_left _ (digit_le_nine h.1)
      have hPower : Nat.pow 10 (rest.length + 1) = Nat.pow 10 rest.length * 10 := rfl
      rw [Nat.ofDigitChars_cons, Nat.ofDigitChars_eq_ofDigitChars_zero, Nat.mul_zero,
        Nat.zero_add, List.length_cons, hPower, ← Nat.pow_eq]
      omega

/-- A bound for the number of digits gives one for the number. -/
theorem ofDigitChars_lt_of_length_le {cs : List Char} (h : cs.all Char.isDigit = true)
    {limit : Nat} (hLength : cs.length ≤ limit) :
    Nat.ofDigitChars 10 cs 0 < Nat.pow 10 limit :=
  Nat.lt_of_lt_of_le (ofDigitChars_lt h) (Nat.pow_le_pow_right (by decide) hLength)

/-- The sign has no say in the magnitude. -/
theorem natAbs_signed (negative : Bool) (magnitude : Nat) :
    (signed negative magnitude).natAbs = magnitude := by
  cases negative <;> simp [signed]

/-- What has been read from few enough digits can be written again. -/
theorem isWritable_signed {digits : List Char} (h : digits.all Char.isDigit = true)
    (hLength : digits.length ≤ digitLimit) (negative : Bool) :
    isWritable (signed negative (Nat.ofDigitChars 10 digits 0)) = true := by
  rw [isWritable_iff, natAbs_signed]
  exact ofDigitChars_lt_of_length_le h hLength

/-- What is read is a sign, which may be left out, and digits that are not too many. -/
theorem read_eq_ok_iff {s : String} {n : Int} :
    read s = .ok n ↔ ∃ negative digits,
      splitSign (Text.trim Text.isAsciiBlank s.toList) = (negative, digits) ∧
        isDigits digits = true ∧ digits.length ≤ digitLimit ∧
        n = signed negative (Nat.ofDigitChars 10 digits 0) := by
  unfold read
  generalize splitSign (Text.trim Text.isAsciiBlank s.toList) = parts
  obtain ⟨negative, digits⟩ := parts
  simp only [Prod.mk.injEq, Bool.not_eq_true', gt_iff_lt]
  constructor
  · intro h
    split at h
    · cases h
    · split at h
      · cases h
      · next hDigits hLength =>
          exact ⟨negative, digits, ⟨rfl, rfl⟩, by simpa using hDigits, Nat.le_of_not_lt hLength,
            (Except.ok.inj h).symm⟩
  · rintro ⟨_, _, ⟨rfl, rfl⟩, hDigits, hLength, rfl⟩
    rw [if_neg (by simp [hDigits]), if_neg (Nat.not_lt.mpr hLength)]

/-- A text is a numeral with some digits: it has a sign, which may be left out, and one digit or
more, between blanks. -/
def HasDigits (s : String) (digits : List Char) : Prop :=
  (splitSign (Text.trim Text.isAsciiBlank s.toList)).2 = digits ∧ isDigits digits = true

/-- What is no numeral is malformed, and nothing else is. -/
theorem read_eq_malformed_iff {s : String} :
    read s = .error .malformed ↔ ∀ digits, ¬ HasDigits s digits := by
  unfold read HasDigits
  generalize splitSign (Text.trim Text.isAsciiBlank s.toList) = parts
  obtain ⟨negative, found⟩ := parts
  dsimp only
  constructor
  · rintro h _ ⟨rfl, hFound⟩
    rw [if_neg (by simp [hFound])] at h
    split at h <;> simp at h
  · intro h
    rw [if_pos]
    simpa using h found

/-- A numeral is too long where it has more digits than are converted. -/
theorem read_eq_tooLong_iff {s : String} {length : Nat} :
    read s = .error (.tooLong length) ↔
      ∃ digits, HasDigits s digits ∧ digits.length = length ∧ digitLimit < length := by
  unfold read HasDigits
  generalize splitSign (Text.trim Text.isAsciiBlank s.toList) = parts
  obtain ⟨negative, found⟩ := parts
  dsimp only
  constructor
  · intro h
    by_cases hFound : isDigits found = true
    · rw [if_neg (by simp [hFound])] at h
      split at h
      · next hLong =>
        cases h
        exact ⟨found, ⟨rfl, hFound⟩, rfl, hLong⟩
      · cases h
    · rw [if_pos (by simpa using hFound)] at h
      cases h
  · rintro ⟨_, ⟨rfl, hFound⟩, rfl, hLong⟩
    rw [if_neg (by simp [hFound]), if_pos hLong]

/-- Nothing is read that could not be written. -/
theorem isWritable_of_read {s : String} {n : Int} (h : read s = .ok n) :
    isWritable n = true := by
  obtain ⟨negative, digits, -, hDigits, hLength, rfl⟩ := read_eq_ok_iff.mp h
  simp only [isDigits, Bool.and_eq_true] at hDigits
  exact isWritable_signed hDigits.2 hLength negative

/-- The decimal digits of a number are digits, and there is one at least. -/
theorem isDigits_toDigits (n : Nat) : isDigits (Nat.toDigits 10 n) = true := by
  have hDigits : ∀ c ∈ Nat.toDigits 10 n, c.isDigit = true := fun c hc =>
    Nat.isDigit_of_mem_toDigits (by decide) (by decide) hc
  simpa [isDigits, Nat.toDigits_ne_nil] using hDigits

/-- Digits start with no sign. -/
theorem splitSign_of_isDigits {cs : List Char} (h : isDigits cs = true) :
    splitSign cs = (false, cs) := by
  unfold splitSign
  split
  · simp [isDigits] at h
  · simp [isDigits] at h
  · rfl

/-- A text of digits alone is a numeral of just these. -/
theorem hasDigits_ofList {cs : List Char} (h : isDigits cs = true) :
    HasDigits (String.ofList cs) cs := by
  have hBlank : ∀ c ∈ cs, Text.isAsciiBlank c = false := by
    simp only [isDigits, Bool.and_eq_true, List.all_eq_true] at h
    exact fun c hc => Text.isAsciiBlank_of_isDigit (h.2 c hc)
  refine ⟨?_, h⟩
  rw [String.toList_ofList, Text.trim_eq_self hBlank, splitSign_of_isDigits h]

/-- A written integer is a minus, where it is negative, and the digits of its magnitude. -/
theorem toList_write (n : Int) :
    (write n).toList = (if n < 0 then ['-'] else []) ++ Nat.toDigits 10 n.natAbs := by
  unfold write
  split
  · rw [String.toList_append, Nat.toList_repr]
    rfl
  · rw [Nat.toList_repr]
    rfl

/-- A written integer has only digits in it, and a minus where it is negative. -/
theorem mem_toList_write {n : Int} {c : Char} (h : c ∈ (write n).toList) :
    c = '-' ∨ c.isDigit = true := by
  rw [toList_write] at h
  rcases List.mem_append.mp h with hSign | hDigit
  · split at hSign
    · exact .inl (List.mem_singleton.mp hSign)
    · cases hSign
  · exact .inr (Nat.isDigit_of_mem_toDigits (by decide) (by decide) hDigit)

/-- Even zero is written with a digit. -/
theorem write_ne_empty (n : Int) : write n ≠ "" := by
  intro h
  have hNil := congrArg String.toList h
  rw [toList_write] at hNil
  simp [Nat.toDigits_ne_nil] at hNil

/-- Sign and magnitude together make the integer again. -/
theorem signed_natAbs (n : Int) : signed (decide (n < 0)) n.natAbs = n := by
  by_cases h : n < 0
  · simp only [signed, h, decide_true, if_true]
    omega
  · simp only [signed, h, decide_false]
    simp only [Bool.false_eq_true, if_false]
    omega

/-- What can be written is read back. -/
theorem read_write {n : Int} (h : isWritable n = true) : read (write n) = .ok n := by
  have hDigits := isDigits_toDigits n.natAbs
  have hBlank : ∀ c ∈ (write n).toList, Text.isAsciiBlank c = false := by
    intro c hc
    rcases mem_toList_write hc with rfl | hDigit
    · rfl
    · exact Text.isAsciiBlank_of_isDigit hDigit
  refine read_eq_ok_iff.mpr ⟨decide (n < 0), Nat.toDigits 10 n.natAbs, ?_, hDigits, ?_, ?_⟩
  · rw [Text.trim_eq_self hBlank, toList_write]
    by_cases hSign : n < 0
    · simp [hSign, splitSign]
    · simp [hSign, splitSign_of_isDigits hDigits]
  · exact isWritable_iff_length.mp h
  · rw [Nat.ofDigitChars_ten_toDigits, signed_natAbs]

end Numeral

end Bounty
