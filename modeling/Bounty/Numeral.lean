import Bounty.Text.Blank
/-!
Decimal integers. A numeral may stand between blanks and carry one sign; neither reading nor
writing goes beyond `digitLimit` digits. Single digits are also read to base sixteen.
-/
namespace Bounty.Numeral

/-- The longest numeral, in digits, that is converted in either direction. -/
def digitLimit : Nat := 4300

inductive Fault where
  | malformed
  | tooLong (digits : Nat)
deriving DecidableEq, Repr

/-- Takes off one sign; `true` stands for a minus. -/
def splitSign : List Char → Bool × List Char
  | '-' :: rest => (true, rest)
  | '+' :: rest => (false, rest)
  | rest => (false, rest)

/-- The value of a digit to base sixteen. -/
def hexValue? (c : Char) : Option Nat :=
  if c.isDigit then some (c.toNat - '0'.toNat)
  else if 'a' ≤ c && c ≤ 'f' then some (c.toNat - 'a'.toNat + 10)
  else if 'A' ≤ c && c ≤ 'F' then some (c.toNat - 'A'.toNat + 10)
  else none

/-- The number that one or more digits are to a base of at most sixteen. -/
def ofDigits? (base : Nat) (cs : List Char) : Option Nat :=
  if cs.isEmpty then none
  else cs.foldlM (fun n c => ((hexValue? c).filter (· < base)).map (base * n + ·)) 0

/-- One or more ASCII digits. -/
def isDigits (cs : List Char) : Bool := !cs.isEmpty && cs.all Char.isDigit

def signed (negative : Bool) (magnitude : Nat) : Int :=
  if negative then -(magnitude : Int) else magnitude

/-- Reads a whole text as an integer. -/
def read (s : String) : Except Fault Int :=
  let (negative, digits) := splitSign (Text.trim Text.isAsciiBlank s.toList)
  if !isDigits digits then .error .malformed
  else if digits.length > digitLimit then .error (.tooLong digits.length)
  else .ok (signed negative (Nat.ofDigitChars 10 digits 0))

def write (n : Int) : String :=
  if n < 0 then "-" ++ n.natAbs.repr else n.natAbs.repr

/-- Whether an integer has at most `digitLimit` digits. -/
def isWritable (n : Int) : Bool := n.natAbs < Nat.pow 10 digitLimit

/-- What is said of a number of too many digits, with a detail where there is one. -/
def tooLong (detail : String) : String :=
  s!"Exceeds the limit ({digitLimit} digits) for integer string conversion" ++ detail ++
    "; use sys.set_int_max_str_digits() to increase the limit"

/-- What is said of a numeral that is too long to read. -/
def tooLongToRead (digits : Nat) : String := tooLong (s!": value has {digits} digits")

/-- What is said of an integer that is too long to write. -/
def tooLongToWrite : String := tooLong ""

end Bounty.Numeral
