import Mathlib.Data.List.Forall2
import Mathlib.Data.List.TakeWhile
import Bounty.Json.Reader
import Bounty.Json.Writer
import Bounty.Proofs.Data.Depth
import Bounty.Proofs.Numeral
import Bounty.Proofs.Text.Half

/-! What is written as JSON with all characters as they are is read back, in any layout. -/
namespace Bounty

/-- A hexadecimal digit is read as the number below 16 that it was written for. -/
theorem Text.hexValue?_hexDigit (n : Nat) : Numeral.hexValue? (hexDigit n) = some (n % 16) := by
  have hAll : ∀ digit < 16, Numeral.hexValue? (hexDigit digit) = some digit := by decide
  have hDigit : hexDigit n = hexDigit (n % 16) := by simp [hexDigit]
  rw [hDigit]
  exact hAll _ (Nat.mod_lt _ (by decide))

/-- A number other than zero is written without a zero in front. -/
theorem Numeral.head?_toDigits_ne_zero {n : Nat} (h : 0 < n) :
    (Nat.toDigits 10 n).head? ≠ some '0' := by
  induction n using Nat.strongRecOn with
  | ind n ih =>
      rw [Nat.toDigits_eq_if (by decide)]
      split
      · have hSmall : ∀ digit < 10, 0 < digit → [Nat.digitChar digit].head? ≠ some '0' := by decide
        exact hSmall n ‹_› h
      · have hShorter := ih (n / 10) (by omega) (by omega)
        rw [List.head?_append]
        cases hHead : (Nat.toDigits 10 (n / 10)).head? with
        | none => exact absurd (List.head?_eq_none_iff.mp hHead) Nat.toDigits_ne_nil
        | some digit => simpa [hHead] using hShorter

theorem Numeral.toDigits_eq_cons (n : Nat) :
    ∃ digit others, Nat.toDigits 10 n = digit :: others ∧ digit.isDigit = true := by
  cases hDigits : Nat.toDigits 10 n with
  | nil => exact absurd hDigits Nat.toDigits_ne_nil
  | cons digit others =>
      exact ⟨digit, others, rfl,
        Nat.isDigit_of_mem_toDigits (by decide) (by decide) (hDigits ▸ List.mem_cons_self ..)⟩

/-- An integer that is written starts with a digit or a minus. -/
theorem Numeral.toList_write_eq_cons (n : Int) :
    ∃ c others, (write n).toList = c :: others ∧ (c.isDigit = true ∨ c = '-') := by
  obtain ⟨digit, others, hCons, hDigit⟩ := toDigits_eq_cons n.natAbs
  rw [toList_write, hCons]
  split
  · exact ⟨_, _, rfl, .inr rfl⟩
  · exact ⟨_, _, rfl, .inl hDigit⟩

/-- Data that stands for itself in JSON. -/
inductive Data.IsPlain : Data → Prop where
  | null : IsPlain .null
  | bool (b : Bool) : IsPlain (.bool b)
  | integer {n : Int} (h : Numeral.isWritable n = true) : IsPlain (.integer n)
  | text (s : String) : IsPlain (.text s)
  | list {items : List Data} (h : ∀ d ∈ items, IsPlain d) : IsPlain (.list items)
  | object {fields : List (String × Data)} (hKeys : (fields.map (·.1)).Nodup)
    (h : ∀ field ∈ fields, IsPlain field.2) : IsPlain (.object fields)

/-- A new key is added at the end. -/
theorem Data.setKey_of_notMem {key : String} {value : Data} {fields : List (String × Data)}
    (h : key ∉ fields.map (·.1)) :
    setKey (.text key) value (fields.map fun (name, value) => (.text name, value)) =
      (fields ++ [(key, value)]).map fun (name, value) => (.text name, value) := by
  induction fields with
  | nil => rfl
  | cons field rest ih =>
      rw [List.map_cons, List.mem_cons, not_or] at h
      have hSame : (Scalar.text field.1).sameKey (.text key) = false := by
        simp [Scalar.sameKey, Scalar.sameValue, Scalar.integral?, Scalar.instant?, Ne.symm h.1]
      rw [List.map_cons, setKey, hSame, ih h.2]
      rfl

/-- No member of an object takes the place of another one. -/
theorem Data.ofPairs_object {fields : List (String × Data)} (h : (fields.map (·.1)).Nodup) :
    ofPairs (fields.map fun (name, value) => (.text name, value)) = .object fields := by
  have hFold (done : List (String × Data)) (hAll : ((done ++ fields).map (·.1)).Nodup) :
      (fields.map fun (name, value) => (Scalar.text name, value)).foldl
          (fun entries pair => setKey pair.1 pair.2 entries)
          (done.map fun (name, value) => (Scalar.text name, value)) =
        (done ++ fields).map fun (name, value) => (Scalar.text name, value) := by
    clear h
    induction fields generalizing done with
    | nil => simp
    | cons field rest ih =>
        have hNew : field.1 ∉ done.map (·.1) := by
          rw [List.map_append, List.nodup_append] at hAll
          exact fun hMem => hAll.2.2 _ hMem _ (List.mem_cons_self ..) rfl
        have hRest := ih (done ++ [field]) (by simpa using hAll)
        rw [List.append_assoc, List.singleton_append] at hRest
        rw [← hRest, ← setKey_of_notMem hNew]
        rfl
  exact congrArg Data.mapping (hFold [] h)

namespace Json

variable {t : Tolerance} {fuel outer limit : Nat}

section Blanks

/-- Blanks in front are skipped, all of them. -/
theorem skipBlanks_append {blanks : List Char} (h : ∀ c ∈ blanks, isBlank c = true)
    (cs : List Char) : skipBlanks (blanks ++ cs) = skipBlanks cs :=
  List.dropWhile_append_of_pos h

theorem skipBlanks_cons {c : Char} (h : isBlank c = false) (cs : List Char) :
    skipBlanks (c :: cs) = c :: cs :=
  List.dropWhile_cons_of_neg (by simp [h])

/-- Parts of a collection are separated by nothing but blanks. -/
theorem isBlank_of_mem_breakAt {layout : Layout} {depth : Nat} {gap : String}
    (h : gap = "" ∨ gap = " ") : ∀ c ∈ (breakAt layout depth gap).toList, isBlank c = true := by
  unfold breakAt
  split
  · rcases h with rfl | rfl <;> simp [isBlank]
  · intro c hc
    rw [String.toList_append, List.mem_append] at hc
    rcases hc with hc | hc
    · have hBreak : c = '\n' := by simpa using hc
      subst hBreak
      rfl
    · rw [String.toList_ofList] at hc
      rw [(List.mem_replicate.mp hc).2]
      rfl

/-- Blanks before a value do not matter. -/
theorem value?_append {blanks : List Char} (h : ∀ c ∈ blanks, isBlank c = true) (cs : List Char) :
    value? t outer fuel (blanks ++ cs) = value? t outer fuel cs := by
  cases fuel with
  | zero => simp [value?]
  | succ fuel => rw [value?, value?, skipBlanks_append h]

theorem items?_append {blanks : List Char} (h : ∀ c ∈ blanks, isBlank c = true) (cs : List Char) :
    items? t outer fuel (blanks ++ cs) = items? t outer fuel cs := by
  cases fuel with
  | zero => simp [items?]
  | succ fuel => rw [items?, items?, value?_append h]

theorem members?_append {blanks : List Char} (h : ∀ c ∈ blanks, isBlank c = true)
    (cs : List Char) : members? t outer fuel (blanks ++ cs) = members? t outer fuel cs := by
  cases fuel with
  | zero => simp [members?]
  | succ fuel => rw [members?, members?, skipBlanks_append h]

end Blanks

section Text

/-- A code unit is read from the four digits it is written with. -/
theorem unit?_hexDigits {n : Nat} (h : n < 0x10000) (rest : List Char) :
    unit? (Text.hexDigits 4 n ++ rest) = some (n, rest) := by
  simp only [Text.hexDigits, List.nil_append, List.cons_append, unit?, Text.hexValue?_hexDigit,
    Option.bind_eq_bind, Option.bind_some, Option.pure_def, Option.some.injEq, Prod.mk.injEq,
    and_true]
  omega

/-- Controls are the only characters that are written by their code. -/
theorem escape?_control {c : Char} (h : c.toNat < 0x20) :
    ∃ code, unitEscapes c = '\x5c' :: code ∧
      ∀ t rest, escape? t (code ++ rest) = some ([c], rest) := by
  have hHigh : Text.isHighHalf c.toNat = false := by
    simp only [Text.isHighHalf, Bool.and_eq_false_iff, decide_eq_false_iff_not]
    omega
  have hLow : Text.isLowHalf c.toNat = false := by
    simp only [Text.isLowHalf, Bool.and_eq_false_iff, decide_eq_false_iff_not]
    omega
  refine ⟨'u' :: Text.hexDigits 4 c.toNat, ?_, fun t rest => ?_⟩
  · rw [unitEscapes, if_pos (by omega)]
    rfl
  · simp only [List.cons_append, escape?, unit?_hexDigits (by omega : c.toNat < 0x10000),
      Option.bind_eq_bind, Option.bind_some, charsOfUnits?, Text.isHalf, hHigh, hLow,
      Text.charsOfCode]
    simp

/-- A character is written as it is, or escaped. -/
theorem charText_eq (c : Char) :
    (charText false c = [c] ∧ c ≠ '\x22' ∧ c ≠ '\x5c' ∧ ¬ c.toNat < 0x20) ∨
      ∃ code, charText false c = '\x5c' :: code ∧
        ∀ t rest, escape? t (code ++ rest) = some ([c], rest) := by
  by_cases hOwn : c ∈ ['\x22', '\x5c', '\n', '\r', '\t', '\x08', '\x0c']
  · -- these characters have escapes of their own
    simp only [List.mem_cons, List.not_mem_nil, or_false] at hOwn
    rcases hOwn with rfl | rfl | rfl | rfl | rfl | rfl | rfl <;>
      exact .inr ⟨_, rfl, fun t rest => rfl⟩
  · simp only [List.mem_cons, List.not_mem_nil, or_false, not_or] at hOwn
    obtain ⟨hQuote, hSlash, hLine, hReturn, hTab, hBack, hFeed⟩ := hOwn
    have hText : charText false c = if c.toNat < 0x20 then unitEscapes c else [c] := by
      simp only [charText, beq_iff_eq, hQuote, hSlash, hLine, hReturn, hTab, hBack, hFeed,
        if_false, Bool.false_and, Bool.or_false, decide_eq_true_eq]
    by_cases hControl : c.toNat < 0x20
    · obtain ⟨code, hEscape, hRead⟩ := escape?_control hControl
      exact .inr ⟨code, by rw [hText, if_pos hControl, hEscape], hRead⟩
    · exact .inl ⟨by rw [hText, if_neg hControl], hQuote, hSlash, hControl⟩

/-- The reader takes in one step what is written for a character, be it the character itself or an
escape. -/
theorem text?_charText (c : Char) (done rest : List Char) :
    text? t (fuel + 1) done (charText false c ++ rest) = text? t fuel (c :: done) rest := by
  rcases charText_eq c with ⟨hSelf, hQuote, hSlash, hControl⟩ | ⟨code, hEscape, hRead⟩
  · rw [hSelf, List.singleton_append, text?]
    · rw [if_neg hControl]
    · exact hQuote
    · exact hSlash
  · rw [hEscape, List.cons_append, text?, hRead]
    rfl

/-- A text is read character by character up to the quote. By induction on the characters. -/
theorem text?_flatMap {s : List Char} (hFuel : s.length < fuel) (done rest : List Char) :
    text? t fuel done (s.flatMap (charText false) ++ '\x22' :: rest) =
      some (String.ofList (done.reverse ++ s), rest) := by
  induction s generalizing fuel done with
  | nil =>
      obtain ⟨fuel, rfl⟩ := Nat.exists_eq_add_of_lt hFuel
      simp [text?]
  | cons c s ih =>
      cases fuel with
      | zero => simp at hFuel
      | succ fuel =>
          rw [List.flatMap_cons, List.append_assoc, text?_charText,
            ih (Nat.lt_of_succ_lt_succ hFuel)]
          simp

theorem length_le_flatMap (s : List Char) : s.length ≤ (s.flatMap (charText false)).length := by
  induction s with
  | nil => simp
  | cons c s ih =>
      have hPart : 1 ≤ (charText false c).length := by
        rcases charText_eq c with ⟨hSelf, -⟩ | ⟨code, hEscape, -⟩
        · simp [hSelf]
        · simp [hEscape]
      rw [List.flatMap_cons, List.length_append, List.length_cons]
      omega

end Text

section Number

/-- What may stand after a number without being read as a part of it. -/
def EndsNumber (rest : List Char) : Prop :=
  ∀ c, rest.head? = some c → c.isDigit = false ∧ c ≠ '.' ∧ c ≠ 'e' ∧ c ≠ 'E'

theorem endsNumber_nil : EndsNumber [] := by simp [EndsNumber]

theorem endsNumber_cons {c : Char} (h : c.isDigit = false ∧ c ≠ '.' ∧ c ≠ 'e' ∧ c ≠ 'E')
    (rest : List Char) : EndsNumber (c :: rest) := by
  simpa [EndsNumber] using h

/-- Blanks after a number end it. -/
theorem endsNumber_append {blanks rest : List Char} (h : ∀ c ∈ blanks, isBlank c = true)
    (hRest : EndsNumber rest) : EndsNumber (blanks ++ rest) := by
  cases blanks with
  | nil => exact hRest
  | cons c others =>
      have hBlank := h c (List.mem_cons_self ..)
      simp only [isBlank, Bool.or_eq_true, beq_iff_eq] at hBlank
      refine endsNumber_cons ?_ _
      rcases hBlank with ((rfl | rfl) | rfl) | rfl <;> decide

/-- All digits in front are taken, and no more. -/
theorem digitsOf_append {digits rest : List Char} (h : Numeral.isDigits digits = true)
    (hRest : EndsNumber rest) : digitsOf (digits ++ rest) = (digits, rest) := by
  simp only [Numeral.isDigits, Bool.and_eq_true, List.all_eq_true] at h
  unfold digitsOf
  rw [List.takeWhile_append_of_pos h.2, List.dropWhile_append_of_pos h.2]
  cases rest with
  | nil => simp
  | cons c rest => simp [(hRest c rfl).1]

/-- The digits of a number are its whole part. -/
theorem whole?_toDigits (n : Nat) {rest : List Char} (hRest : EndsNumber rest) :
    whole? (Nat.toDigits 10 n ++ rest) = some (Nat.toDigits 10 n, rest) := by
  unfold whole?
  rw [digitsOf_append (Numeral.isDigits_toDigits n) hRest]
  split
  · next hNone => exact absurd (Prod.ext_iff.mp hNone).1 Nat.toDigits_ne_nil
  · next second others after hZero =>
      have hDigits : Nat.toDigits 10 n = '0' :: second :: others := (Prod.ext_iff.mp hZero).1
      rcases Nat.eq_zero_or_pos n with rfl | hPos
      · simp at hDigits
      · exact absurd (by rw [hDigits]; rfl) (Numeral.head?_toDigits_ne_zero hPos)
  · rfl

/-- What ends a number starts no fraction. -/
theorem fraction?_eq_none {rest : List Char} (h : EndsNumber rest) : fraction? rest = none := by
  unfold fraction?
  split
  · exact absurd rfl (h _ rfl).2.1
  · rfl

theorem power?_eq_none {rest : List Char} (h : EndsNumber rest) : power? rest = none := by
  unfold power?
  split
  · next e rest =>
      obtain ⟨-, -, hLower, hUpper⟩ := h e rfl
      simp [hLower, hUpper]
  · rfl

theorem plain?_digit {c : Char} (h : c.isDigit = true) (cs : List Char) :
    plain? t (c :: cs) = number? t false (c :: cs) := by
  unfold plain?
  split <;> simp_all

theorem plain?_minus {c : Char} (h : c.isDigit = true) (cs : List Char) :
    plain? t ('-' :: c :: cs) = number? t true (c :: cs) := by
  unfold plain?
  split <;> simp_all

variable (hDigits : t.digits = some Numeral.digitLimit)

include hDigits

/-- Digits are read as the number that they are written for, unless there are too many. -/
theorem number?_toDigits {n : Nat} (h : (Nat.toDigits 10 n).length ≤ Numeral.digitLimit)
    (negative : Bool) {rest : List Char} (hRest : EndsNumber rest) :
    number? t negative (Nat.toDigits 10 n ++ rest) =
      some (.integer (Numeral.signed negative n), rest) := by
  have hRoom : ¬ Numeral.digitLimit < (Nat.toDigits 10 n).length := Nat.not_lt.mpr h
  simp [number?, whole?_toDigits n hRest, fraction?_eq_none hRest, power?_eq_none hRest, hDigits,
    hRoom, Nat.ofDigitChars_ten_toDigits]

/-- An integer is read from what is written for it. -/
theorem plain?_write {n : Int} (h : Numeral.isWritable n = true) {rest : List Char}
    (hRest : EndsNumber rest) :
    plain? t ((Numeral.write n).toList ++ rest) = some (.integer n, rest) := by
  have hRead := number?_toDigits hDigits (Numeral.isWritable_iff_length.mp h) (decide (n < 0)) hRest
  rw [Numeral.signed_natAbs] at hRead
  obtain ⟨digit, others, hCons, hDigit⟩ := Numeral.toDigits_eq_cons n.natAbs
  rw [hCons, List.cons_append] at hRead
  rw [Numeral.toList_write, List.append_assoc, hCons]
  by_cases hSign : n < 0
  · simpa [hSign, plain?_minus hDigit] using hRead
  · simpa [hSign, plain?_digit hDigit] using hRead

end Number

/-- A text stands for a value. It is read as that value whatever follows, with any fuel beyond its
length. -/
structure Reads (t : Tolerance) (outer : Nat) (cs : List Char) (d : Data) : Prop where
  opens : ∃ c others, cs = c :: others ∧ isBlank c = false ∧ c ≠ ']'
  value?_eq {fuel : Nat} {rest : List Char} (hFuel : cs.length < fuel)
    (hRest : EndsNumber rest) : value? t outer fuel (cs ++ rest) = some (d, rest)

/-- A text stands for a member of an object. -/
def MemberReads (t : Tolerance) (outer : Nat) (cs : List Char) (field : String × Data) : Prop :=
  ∃ value, cs = (textBetweenQuotes false field.1).toList ++ ':' :: ' ' :: value ∧
    Reads t outer value field.2

section Collections

theorem intercalate_cons_eq (separator cs : List Char) (texts : List (List Char)) :
    ∃ tail, separator.intercalate (cs :: texts) = cs ++ tail := by
  cases texts with
  | nil => exact ⟨[], by simp⟩
  | cons second others =>
      exact ⟨_, by rw [List.intercalate_cons_cons, List.append_assoc]⟩

/-- Characters above ASCII stand as they are. -/
theorem charText_of_le {c : Char} (h : 0x80 ≤ c.toNat) : charText false c = [c] := by
  rcases charText_eq c with ⟨hSelf, -⟩ | ⟨code, hCode, hRead⟩
  · exact hSelf
  · have hNe {d : Char} (hSmall : d.toNat < 0x80) : c ≠ d := by
      rintro rfl
      omega
    have hControl : ¬ c.toNat < 0x20 := by omega
    simp [charText, hNe (d := '\x22') (by decide), hNe (d := '\x5c') (by decide),
      hNe (d := '\n') (by decide), hNe (d := '\r') (by decide), hNe (d := '\t') (by decide),
      hNe (d := '\x08') (by decide), hNe (d := '\x0c') (by decide), hControl]

/-- Where nothing above ASCII is escaped, a half stays as the text keeps it. -/
theorem flatMap_pointText (cs : List Char) :
    (Text.points cs).flatMap (pointText false) = cs.flatMap (charText false) := by
  induction cs using Text.points.induct with
  | case1 => rfl
  | case2 c => rfl
  | case3 c kept rest code hHalf ih =>
      split at hHalf
      · next hSign =>
          have hKept := Text.le_of_half? hHalf
          have hChars : pointText false (.half code) = [c, kept] := by
            rw [eq_of_beq hSign, Text.char_eq_of_half? hHalf]
            rfl
          have hSignText := charText_of_le (c := Text.halfSign) (by decide)
          rw [Text.points, if_pos hSign, hHalf]
          simp only [List.flatMap_cons, ih, hChars, eq_of_beq hSign, hSignText,
            charText_of_le (Nat.le_trans (by decide) hKept), List.cons_append, List.nil_append]
      · cases hHalf
  | case4 c kept rest hNone ih =>
      rw [Text.points, hNone]
      simp only [List.flatMap_cons, ih, pointText]

/-- A text is written as a quote, its characters one by one, and a quote. -/
theorem toList_textBetweenQuotes (s : String) :
    (textBetweenQuotes false s).toList =
      '\x22' :: (s.toList.flatMap (charText false) ++ ['\x22']) := by
  rw [textBetweenQuotes, String.toList_ofList, List.cons_append, flatMap_pointText]

/-- A text between quotes is read back, with the fuel that the reader takes for it. -/
theorem text?_quoted (s : String) (rest : List Char) :
    text? t ((s.toList.flatMap (charText false) ++ '\x22' :: rest).length + 1) []
      (s.toList.flatMap (charText false) ++ '\x22' :: rest) = some (s, rest) := by
  have hLength := length_le_flatMap s.toList
  rw [text?_flatMap (by rw [List.length_append]; omega)]
  simp

theorem reads_text (s : String) : Reads t outer (textBetweenQuotes false s).toList (.text s) where
  opens := ⟨_, _, toList_textBetweenQuotes s, rfl, by decide⟩
  value?_eq {fuel rest} hFuel _ := by
    cases fuel with
    | zero => simp at hFuel
    | succ fuel =>
        rw [toList_textBetweenQuotes, List.cons_append, List.append_assoc, value?,
          skipBlanks_cons rfl]
        simp only [List.singleton_append, text?_quoted]
        rfl

/-- A scalar other than a text is told by its first character. -/
theorem reads_of_plain? {c : Char} (others : List Char) {d : Data}
    (hBlank : isBlank c = false) (hPlain : c ≠ '\x22' ∧ c ≠ '[' ∧ c ≠ '\x7b' ∧ c ≠ ']')
    (h : ∀ rest, EndsNumber rest → plain? t (c :: others ++ rest) = some (d, rest)) :
    Reads t outer (c :: others) d where
  opens := ⟨c, others, rfl, hBlank, hPlain.2.2.2⟩
  value?_eq {fuel rest} hFuel hRest := by
    cases fuel with
    | zero => simp at hFuel
    | succ fuel =>
        rw [← h rest hRest, List.cons_append, value?, skipBlanks_cons hBlank]
        split <;> simp_all

/-- A member of an object is read, and then a brace or a comma and the other members. -/
theorem MemberReads.members?_succ {cs : List Char} {field : String × Data}
    (h : MemberReads t outer cs field) (hFuel : cs.length ≤ fuel) {rest : List Char}
    (hRest : EndsNumber rest) :
    members? t outer (fuel + 1) (cs ++ rest) = match skipBlanks rest with
      | '\x7d' :: rest => some ([(.text field.1, field.2)], rest)
      | ',' :: rest => do
        let (members, rest) ← members? t outer fuel rest
        return ((.text field.1, field.2) :: members, rest)
      | _ => none := by
  obtain ⟨value, hText, hValue⟩ := h
  rw [hText] at hFuel ⊢
  have hLength : value.length < fuel := by
    simp only [List.length_append, List.length_cons] at hFuel
    omega
  have hSpace : value? t outer fuel ([' '] ++ (value ++ rest)) = some (field.2, rest) := by
    rw [value?_append (by simp [isBlank]), hValue.value?_eq hLength hRest]
  rw [toList_textBetweenQuotes, members?]
  simp only [List.cons_append, List.append_assoc, skipBlanks_cons (c := '\x22') rfl,
    List.nil_append, text?_quoted, Option.bind_eq_bind, Option.bind_some,
    skipBlanks_cons (c := ':') rfl]
  simp only [List.cons_append, List.nil_append] at hSpace
  rw [hSpace]
  rfl

variable {gap last : List Char} (hGap : ∀ c ∈ gap, isBlank c = true)
  (hLast : ∀ c ∈ last, isBlank c = true)

include hGap hLast

/-- Items with commas between them are read up to the bracket. By induction on the items. -/
theorem items?_intercalate {texts : List (List Char)} {ds : List Data}
    (h : List.Forall₂ (Reads t outer) texts ds) (hSome : texts ≠ [])
    (hFuel : ((',' :: gap).intercalate texts).length + 1 < fuel) (rest : List Char) :
    items? t outer fuel ((',' :: gap).intercalate texts ++ (last ++ ']' :: rest)) =
      some (ds, rest) := by
  induction h generalizing fuel with
  | nil => exact absurd rfl hSome
  | @cons cs d texts ds hHead hRest ih =>
      cases fuel with
      | zero => simp at hFuel
      | succ fuel =>
          cases hRest with
          | nil =>
              rw [List.intercalate_singleton] at hFuel ⊢
              have hEnds := endsNumber_append hLast (endsNumber_cons (c := ']') (by decide) rest)
              rw [items?, hHead.value?_eq (by omega) hEnds]
              simp only [Option.bind_eq_bind, Option.bind_some, skipBlanks_append hLast,
                skipBlanks_cons (c := ']') rfl]
              rfl
          | @cons second d' others ds hSecond hOthers =>
              rw [List.intercalate_cons_cons] at hFuel ⊢
              simp only [List.length_append, List.length_cons] at hFuel
              have hItems := ih (List.cons_ne_nil _ _) (show _ < fuel by omega)
              rw [items?, List.append_assoc, List.append_assoc, List.cons_append,
                hHead.value?_eq (by omega) (endsNumber_cons (by decide) _)]
              simp only [Option.bind_eq_bind, Option.bind_some,
                skipBlanks_cons (c := ',') rfl, items?_append hGap, hItems]
              rfl

/-- Members with commas between them are read up to the brace. By induction on the members. -/
theorem members?_intercalate {texts : List (List Char)} {fields : List (String × Data)}
    (h : List.Forall₂ (MemberReads t outer) texts fields) (hSome : texts ≠ [])
    (hFuel : ((',' :: gap).intercalate texts).length + 1 < fuel) (rest : List Char) :
    members? t outer fuel ((',' :: gap).intercalate texts ++ (last ++ '\x7d' :: rest)) =
      some (fields.map fun (name, value) => (.text name, value), rest) := by
  induction h generalizing fuel with
  | nil => exact absurd rfl hSome
  | @cons cs field texts fields hHead hRest ih =>
      cases fuel with
      | zero => simp at hFuel
      | succ fuel =>
          cases hRest with
          | nil =>
              rw [List.intercalate_singleton] at hFuel ⊢
              have hEnds := endsNumber_append hLast
                (endsNumber_cons (c := '\x7d') (by decide) rest)
              rw [hHead.members?_succ (by omega) hEnds, skipBlanks_append hLast,
                skipBlanks_cons (c := '\x7d') rfl]
              rfl
          | @cons second field' others fields hSecond hOthers =>
              rw [List.intercalate_cons_cons] at hFuel ⊢
              simp only [List.length_append, List.length_cons] at hFuel
              have hMembers := ih (List.cons_ne_nil _ _) (show _ < fuel by omega)
              rw [List.append_assoc, List.append_assoc, List.cons_append,
                hHead.members?_succ (by omega) (endsNumber_cons (by decide) _)]
              simp only [skipBlanks_cons (c := ',') rfl, members?_append hGap, hMembers]
              rfl

variable {first : List Char} (hFirst : ∀ c ∈ first, isBlank c = true)
  (hDepth : t.depth = some limit) (hOuter : outer < limit)

include hFirst hDepth hOuter

/-- A list that is not empty is read if its items are read one level further in. -/
theorem reads_list {texts : List (List Char)} {ds : List Data}
    (h : List.Forall₂ (Reads t (outer + 1)) texts ds) (hSome : texts ≠ []) :
    Reads t outer ('[' :: (first ++ ((',' :: gap).intercalate texts ++ (last ++ [']']))))
      (.list ds) where
  opens := ⟨_, _, rfl, rfl, by decide⟩
  value?_eq {fuel rest} hFuel _ := by
    cases fuel with
    | zero => simp at hFuel
    | succ fuel =>
        simp only [List.length_append, List.length_cons] at hFuel
        have hItems := items?_intercalate hGap hLast h hSome (show _ < fuel by omega) rest
        have hRoom : ¬ t.depth.any (· ≤ outer) = true := by simpa [hDepth] using hOuter
        have hStart : ∀ after, skipBlanks (first ++ ((',' :: gap).intercalate texts ++
            (last ++ ']' :: rest))) ≠ ']' :: after := by
          intro after
          cases h with
          | nil => exact absurd rfl hSome
          | cons hHead _ =>
              obtain ⟨c, others, rfl, hBlank, hOpens⟩ := hHead.opens
              obtain ⟨tail, hTail⟩ := intercalate_cons_eq (',' :: gap) (c :: others) _
              rw [skipBlanks_append hFirst, hTail, List.cons_append, List.cons_append,
                skipBlanks_cons hBlank]
              simp [hOpens]
        rw [value?, List.cons_append, skipBlanks_cons rfl]
        simp only [List.append_assoc, List.cons_append, List.nil_append]
        -- nothing but a bracket would end the list before its first item
        rw [if_neg hRoom, items?_append hFirst, hItems]
        rfl

/-- An object that is not empty is read if its members are read one level further in. No key may be
there twice. -/
theorem reads_object {texts : List (List Char)} {fields : List (String × Data)}
    (hKeys : (fields.map (·.1)).Nodup)
    (h : List.Forall₂ (MemberReads t (outer + 1)) texts fields) (hSome : texts ≠ []) :
    Reads t outer ('\x7b' :: (first ++ ((',' :: gap).intercalate texts ++ (last ++ ['\x7d']))))
      (.object fields) where
  opens := ⟨_, _, rfl, rfl, by decide⟩
  value?_eq {fuel rest} hFuel _ := by
    cases fuel with
    | zero => simp at hFuel
    | succ fuel =>
        simp only [List.length_append, List.length_cons] at hFuel
        have hMembers := members?_intercalate hGap hLast h hSome (show _ < fuel by omega) rest
        have hRoom : ¬ t.depth.any (· ≤ outer) = true := by simpa [hDepth] using hOuter
        have hStart : ∀ after, skipBlanks (first ++ ((',' :: gap).intercalate texts ++
            (last ++ '\x7d' :: rest))) ≠ '\x7d' :: after := by
          intro after
          cases h with
          | nil => exact absurd rfl hSome
          | cons hHead _ =>
              obtain ⟨value, hText, -⟩ := hHead
              obtain ⟨tail, hTail⟩ := intercalate_cons_eq (',' :: gap) _ _
              rw [skipBlanks_append hFirst, hTail, hText, toList_textBetweenQuotes,
                List.cons_append, List.cons_append, List.cons_append, skipBlanks_cons rfl]
              simp
        rw [value?, List.cons_append, skipBlanks_cons rfl]
        simp only [List.append_assoc, List.cons_append, List.nil_append]
        rw [if_neg hRoom, members?_append hFirst, hMembers]
        rw [← Data.ofPairs_object hKeys]
        rfl

end Collections

section Layout

variable {layout : Layout}

/-- The characters of a collection: its brackets, and between them the parts with what separates
them. -/
theorem toList_enclose {depth : Nat} {first last : String} {parts : List String}
    (h : parts ≠ []) :
    (enclose layout depth first last parts).toList =
      first.toList ++ ((breakAt layout (depth + 1) "").toList ++
        ((',' :: (breakAt layout (depth + 1) " ").toList).intercalate (parts.map String.toList) ++
          ((breakAt layout depth "").toList ++ last.toList))) := by
  rw [enclose, if_neg (by simpa using h)]
  simp only [String.toList_append, String.toList_intercalate, List.append_assoc]
  rfl

theorem itemTexts_eq_map (depth : Nat) (items : List Data) :
    itemTexts layout depth items = items.map (writeAt layout depth) := by
  induction items with
  | nil => rfl
  | cons d rest ih => rw [itemTexts, ih, List.map_cons]

theorem memberTexts_eq_map (depth : Nat) (entries : List (Scalar × Data)) :
    memberTexts layout depth entries = entries.map fun (key, value) =>
      keyText layout.ascii key ++ ": " ++ writeAt layout depth value := by
  induction entries with
  | nil => rfl
  | cons entry rest ih => rw [memberTexts, ih, List.map_cons]

theorem reads_empty_list : Reads t outer ['[', ']'] (.list []) where
  opens := ⟨_, _, rfl, rfl, by decide⟩
  value?_eq {fuel rest} hFuel _ := by
    cases fuel with
    | zero => simp at hFuel
    | succ fuel => rfl

theorem reads_empty_object : Reads t outer ['\x7b', '\x7d'] (.object []) where
  opens := ⟨_, _, rfl, rfl, by decide⟩
  value?_eq {fuel rest} hFuel _ := by
    cases fuel with
    | zero => simp at hFuel
    | succ fuel => rfl

variable (hAscii : layout.ascii = false) (hDigits : t.digits = some Numeral.digitLimit)
  (hDepth : t.depth = some limit)

include hAscii hDigits hDepth

/-- By induction on the data, at any depth of the text and inside of any collections that leave
room for the data. -/
theorem reads_writeAt {d : Data} (h : d.IsPlain) {outer : Nat} (depth : Nat)
    (hRoom : outer + d.depth ≤ limit) : Reads t outer (writeAt layout depth d).toList d := by
  induction h generalizing outer depth with
  | null =>
      rw [writeAt, scalarText]
      exact reads_of_plain? (c := 'n') "ull".toList rfl (by decide) fun rest _ => rfl
  | bool b =>
      rw [writeAt, scalarText]
      cases b with
      | true =>
          exact reads_of_plain? (c := 't') "rue".toList rfl (by decide) fun rest _ => rfl
      | false =>
          exact reads_of_plain? (c := 'f') "alse".toList rfl (by decide) fun rest _ => rfl
  | text s =>
      rw [writeAt, scalarText, hAscii]
      · exact reads_text s
      all_goals simp
  | @integer n hWritable =>
      obtain ⟨c, others, hCons, hSign⟩ := Numeral.toList_write_eq_cons n
      rw [writeAt, scalarText, hCons]
      have hSign : isBlank c = false ∧ c ≠ '\x22' ∧ c ≠ '[' ∧ c ≠ '\x7b' ∧ c ≠ ']' := by
        rcases hSign with hDigit | rfl
        · have hNot : ∀ other : Char, other.isDigit = false → c ≠ other := by
            rintro other hOther rfl
            simp [hOther] at hDigit
          refine ⟨?_, hNot _ rfl, hNot _ rfl, hNot _ rfl, hNot _ rfl⟩
          simp [isBlank, hNot ' ' rfl, hNot '\t' rfl, hNot '\n' rfl, hNot '\r' rfl]
        · decide
      exact reads_of_plain? others hSign.1 hSign.2 fun rest hRest =>
        hCons ▸ plain?_write hDigits hWritable hRest
  | @list items h ih =>
      rw [writeAt, itemTexts_eq_map]
      by_cases hSome : items = []
      · subst hSome
        rw [List.map_nil, enclose, if_pos List.isEmpty_nil]
        exact reads_empty_list
      · have hItems : ∀ d ∈ items, Reads t (outer + 1) (writeAt layout (depth + 1) d).toList d :=
          fun d hd => ih d hd (depth + 1) (by
            have hLess := Data.depth_lt_of_mem_list hd
            omega)
        have hOuter : outer < limit := by
          obtain ⟨d, hd⟩ := List.exists_mem_of_ne_nil items hSome
          have hLess := Data.depth_lt_of_mem_list hd
          omega
        rw [toList_enclose (by simpa using hSome)]
        refine reads_list (isBlank_of_mem_breakAt (.inr rfl)) (isBlank_of_mem_breakAt (.inl rfl))
          (isBlank_of_mem_breakAt (.inl rfl)) hDepth hOuter ?_ (by simpa using hSome)
        rw [List.map_map, List.forall₂_map_left_iff, List.forall₂_same]
        exact hItems
  | @object fields hKeys h ih =>
      rw [Data.object, writeAt, memberTexts_eq_map]
      by_cases hSome : fields = []
      · subst hSome
        rw [List.map_nil, List.map_nil, enclose, if_pos List.isEmpty_nil]
        exact reads_empty_object
      · have hLess : ∀ field ∈ fields, field.2.depth < (Data.object fields).depth :=
          fun field hField => Data.depth_lt_of_mem_mapping
            (List.mem_map_of_mem (f := fun (name, value) => (Scalar.text name, value)) hField)
        have hFields : ∀ field ∈ fields, MemberReads t (outer + 1)
            (keyText layout.ascii (.text field.1) ++ ": " ++
              writeAt layout (depth + 1) field.2).toList field := by
          intro field hField
          refine ⟨(writeAt layout (depth + 1) field.2).toList, ?_, ih field hField (depth + 1) (by
            have hThis := hLess field hField
            omega)⟩
          rw [hAscii, keyText, String.toList_append, String.toList_append, List.append_assoc]
          rfl
        have hOuter : outer < limit := by
          obtain ⟨field, hField⟩ := List.exists_mem_of_ne_nil fields hSome
          have hThis := hLess field hField
          omega
        rw [toList_enclose (by simpa using hSome)]
        refine reads_object (isBlank_of_mem_breakAt (.inr rfl))
          (isBlank_of_mem_breakAt (.inl rfl)) (isBlank_of_mem_breakAt (.inl rfl)) hDepth hOuter
          hKeys ?_ (by simpa using hSome)
        rw [List.map_map, List.map_map, List.forall₂_map_left_iff, List.forall₂_same]
        exact hFields

/-- What is written is read back, where a reader puts up with its depth. -/
theorem read?_write {d : Data} (h : d.IsPlain) (hRoom : d.depth ≤ limit) :
    read? t (write layout d) = some d := by
  have hReads : Reads t 0 (write layout d).toList d :=
    reads_writeAt hAscii hDigits hDepth h 0 (by omega)
  have hValue := hReads.value?_eq (Nat.lt_add_one _) endsNumber_nil
  rw [List.append_nil] at hValue
  rw [read?]
  simp only [hValue, Option.bind_eq_bind, Option.bind_some, skipBlanks, List.dropWhile_nil,
    List.isEmpty_nil, if_true]

end Layout

/-! Carriage returns are always escaped, so no line end of what is written is one that a reader of
files would unify. -/

theorem hexDigit_ne_return (n : Nat) : Text.hexDigit n ≠ '\r' := by
  have hDigits : ∀ k < 16, "0123456789abcdef".toList.getD k '0' ≠ '\r' := by decide
  exact hDigits (n % 16) (Nat.mod_lt n (by decide))

theorem return_notMem_hexDigits (width n : Nat) : '\r' ∉ Text.hexDigits width n := by
  induction width generalizing n with
  | zero => simp [Text.hexDigits]
  | succ width ih => simp [Text.hexDigits, ih, Ne.symm (hexDigit_ne_return n)]

theorem return_notMem_unitEscape (n : Nat) : '\r' ∉ unitEscape n := by
  simp [unitEscape, return_notMem_hexDigits]

theorem return_notMem_unitEscapes (c : Char) : '\r' ∉ unitEscapes c := by
  unfold unitEscapes
  split
  · exact return_notMem_unitEscape _
  · exact fun h => (List.mem_append.mp h).elim (return_notMem_unitEscape _)
      (return_notMem_unitEscape _)

/-- What is written for a character holds no carriage return, for that is escaped. -/
theorem return_notMem_charText (ascii : Bool) (c : Char) : '\r' ∉ charText ascii c := by
  by_cases hReturn : c = '\r'
  · subst hReturn
    simp [charText]
  · unfold charText
    split_ifs
    all_goals first | exact return_notMem_unitEscapes c | simp [Ne.symm hReturn]

theorem return_notMem_pointText (ascii : Bool) (point : Text.Point) :
    '\r' ∉ pointText ascii point := by
  cases point with
  | char c => exact return_notMem_charText ascii c
  | half code =>
      rw [pointText]
      split
      · exact return_notMem_unitEscape code
      · have hBelow : '\r'.toNat < Text.halfShift := by decide
        have hKept : '\r' ≠ Char.ofNat (code + Text.halfShift) :=
          (Text.ofNat_ne (by decide) (Nat.ne_of_lt (Nat.lt_add_left code hBelow))).symm
        have hSign : '\r' ≠ Text.halfSign := by decide
        simp [Text.Point.chars, hSign, hKept]

theorem return_notMem_textBetweenQuotes (ascii : Bool) (s : String) :
    '\r' ∉ (textBetweenQuotes ascii s).toList := by
  simp [textBetweenQuotes, return_notMem_pointText]

theorem return_notMem_numeral (n : Int) : '\r' ∉ (Numeral.write n).toList := by
  intro h
  exact absurd (Numeral.mem_toList_write h) (by decide)

theorem return_notMem_breakAt (layout : Layout) (depth : Nat) {gap : String}
    (h : '\r' ∉ gap.toList) : '\r' ∉ (breakAt layout depth gap).toList := by
  unfold breakAt
  split
  · exact h
  · simp

theorem return_notMem_intercalate {separator : List Char} {texts : List (List Char)}
    (hSeparator : '\r' ∉ separator) (h : ∀ text ∈ texts, '\r' ∉ text) :
    '\r' ∉ separator.intercalate texts := by
  induction texts with
  | nil => simp
  | cons text rest ih =>
      cases rest with
      | nil => simpa using h
      | cons next rest =>
          rw [List.intercalate_cons_cons, List.mem_append, List.mem_append]
          have hRest := ih fun text hText => h text (List.mem_cons_of_mem _ hText)
          exact fun hMem => hMem.elim (fun hFirst => hFirst.elim (h text List.mem_cons_self)
            hSeparator) hRest

/-- A collection adds none to those of its parts. -/
theorem return_notMem_enclose {layout : Layout} {depth : Nat} {first last : String}
    {parts : List String} (hFirst : '\r' ∉ first.toList) (hLast : '\r' ∉ last.toList)
    (h : ∀ part ∈ parts, '\r' ∉ part.toList) :
    '\r' ∉ (enclose layout depth first last parts).toList := by
  by_cases hSome : parts = []
  · rw [enclose, if_pos (by simpa using hSome), String.toList_append, List.mem_append]
    exact fun hMem => hMem.elim hFirst hLast
  · have hBreak : '\r' ∉ (breakAt layout (depth + 1) " ").toList :=
      return_notMem_breakAt layout (depth + 1) (by decide)
    have hGap : '\r' ∉ ',' :: (breakAt layout (depth + 1) " ").toList := by simp [hBreak]
    rw [toList_enclose hSome]
    simp only [List.mem_append, not_or]
    refine ⟨hFirst, return_notMem_breakAt _ _ (by decide), return_notMem_intercalate hGap ?_,
      return_notMem_breakAt _ _ (by decide), hLast⟩
    intro text hText
    obtain ⟨part, hPart, rfl⟩ := List.mem_map.mp hText
    exact h part hPart

/-- Plain data is written without carriage returns, so that unifying line ends changes nothing. By
induction on the data. -/
theorem return_notMem_writeAt {layout : Layout} {d : Data} (h : d.IsPlain) (depth : Nat) :
    '\r' ∉ (writeAt layout depth d).toList := by
  induction h generalizing depth with
  | null => exact (by decide : '\r' ∉ "null".toList)
  | bool b =>
      cases b with
      | true => exact (by decide : '\r' ∉ "true".toList)
      | false => exact (by decide : '\r' ∉ "false".toList)
  | text s => exact return_notMem_textBetweenQuotes layout.ascii s
  | integer => exact return_notMem_numeral _
  | list h ih =>
      rw [writeAt, itemTexts_eq_map]
      refine return_notMem_enclose (by decide) (by decide) fun part hPart => ?_
      obtain ⟨d, hd, rfl⟩ := List.mem_map.mp hPart
      exact ih d hd _
  | object hKeys h ih =>
      rw [Data.object, writeAt, memberTexts_eq_map]
      refine return_notMem_enclose (by decide) (by decide) fun part hPart => ?_
      rw [List.map_map, List.mem_map] at hPart
      obtain ⟨field, hField, rfl⟩ := hPart
      simp only [Function.comp_apply, keyText, String.toList_append, List.mem_append, not_or]
      exact ⟨⟨return_notMem_textBetweenQuotes layout.ascii field.1, by decide⟩,
        ih field hField (depth + 1)⟩

end Json

end Bounty
