import Bounty.Binary64
import Bounty.Numeral
import Bounty.Text.Digit
/-!
Numerals in lenient forms: with digits of any script, between blanks of any script, and integers
with a mark of their base.
-/
namespace Bounty.Numeral

/-- A text with ASCII digits and blanks in place of those of other scripts. -/
def plainForm (cs : List Char) : List Char :=
  cs.map fun c =>
    if c.toNat < 0x80 then c
    else match Text.digitValue? c with
      | some n => Nat.digitChar n
      | none => if Text.isBlank c then ' ' else c

/-- The letter that marks a base after a zero. -/
def baseMark? : Nat → Option Char
  | 2 => some 'b'
  | 8 => some 'o'
  | 16 => some 'x'
  | _ => none

/-- Takes off a zero and the mark of a base. -/
def withoutMark (base : Nat) : List Char → List Char
  | '0' :: c :: rest => if baseMark? base == some c.toLower then rest else '0' :: c :: rest
  | cs => cs

/-- The integer in a base that a text is. Only in base ten is the count of digits limited. -/
def lenientInteger? (base : Nat) (cs : List Char) : Option Int :=
  let (negative, digits) := splitSign (Text.trim Text.isAsciiBlank (plainForm cs))
  if base == 10 && digits.length > digitLimit then none
  else (ofDigits? base (withoutMark base digits)).map (signed negative ·)

/-- The power of ten that a text is, with its letter; nothing at all is none. -/
def power? : List Char → Option Int
  | [] => some 0
  | e :: rest =>
    let (negative, digits) := splitSign rest
    if e.toLower == 'e' && isDigits digits then
      some (signed negative (Nat.ofDigitChars 10 digits 0))
    else none

/-- The decimal that digits with a point and a power of ten are. -/
def unsigned? (negative : Bool) (cs : List Char) : Option Binary64 := do
  let whole := cs.takeWhile Char.isDigit
  let rest := cs.drop whole.length
  let part := match rest with
    | '.' :: rest => rest.takeWhile Char.isDigit
    | _ => []
  let rest := match rest with
    | '.' :: rest => rest.drop part.length
    | _ => rest
  if whole.isEmpty && part.isEmpty then none
  else do
    let power ← power? rest
    return .ofDecimal negative (Nat.ofDigitChars 10 (whole ++ part) 0) (power - part.length)

/-- The decimal that a text is, in digits or by a word. -/
def lenientDecimal? (cs : List Char) : Option Binary64 :=
  let (negative, cs) := splitSign (Text.trim Text.isAsciiBlank (plainForm cs))
  let word := String.ofList (cs.map Char.toLower)
  if word == "inf" || word == "infinity" then some (.infinite negative)
  else if word == "nan" then some .nan
  else unsigned? negative cs

end Bounty.Numeral
