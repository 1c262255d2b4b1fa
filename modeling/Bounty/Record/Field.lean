import Bounty.Data
import Bounty.Record.Issue
/-!
Fields of records. Integers and truth values are read leniently: from each other, from decimals that
are integers, and from texts.
-/
namespace Bounty.Record

def isNonzeroDigit (c : Char) : Bool := c.isDigit && c != '0'

/-- An integer after at most a minus, without zeros in front of other digits. -/
def plainInteger (cs : List Char) : Checked Int :=
  let (negative, digits) := match cs with
    | '-' :: rest => (true, rest)
    | rest => (false, rest)
  let padded := match digits with
    | '0' :: _ :: _ => true
    | _ => false
  if padded then .fail .malformedInteger
  else if (digits.takeWhile Char.isDigit).length > Numeral.digitLimit then .fail .tooLongInteger
  else if !Numeral.isDigits digits then .fail .malformedInteger
  else .ok (Numeral.signed negative (Nat.ofDigitChars 10 digits 0))

/-- Drops zeros and underscores in front of a digit or a minus, but keeps what stands right before a
point. -/
def dropZeros (previous : Char) : List Char → Option (List Char)
  | [] => some [previous]
  | c :: rest =>
    if c == '0' || c == '_' then dropZeros c rest
    else if isNonzeroDigit c || c == '-' then some (c :: rest)
    else if c == '.' then some (previous :: c :: rest)
    else none

def withoutPadding : List Char → Option (List Char)
  | [] => none
  | c :: rest =>
    if c == '-' || isNonzeroDigit c then some (c :: rest)
    else if c == '0' then dropZeros c rest
    else none

/-- Drops the padding after a minus, or at the front. -/
def withoutSignedPadding : List Char → Option (List Char)
  | '-' :: rest => (withoutPadding rest).map ('-' :: ·)
  | cs => withoutPadding cs

/-- Drops the first point that a zero follows, if all after it is zeros. -/
def withoutFraction : List Char → List Char
  | [] => []
  | '.' :: '0' :: rest => if rest.all (· == '0') then [] else '.' :: '0' :: rest
  | c :: rest => c :: withoutFraction rest

def hasDoubleUnderscore : List Char → Bool
  | '_' :: '_' :: _ => true
  | _ :: rest => hasDoubleUnderscore rest
  | [] => false

/-- Drops single underscores between other characters. -/
def withoutUnderscores (cs : List Char) : List Char :=
  if cs.head? == some '_' || cs.getLast? == some '_' || hasDoubleUnderscore cs then cs
  else cs.filter (· != '_')

/-- The plain form of an integer that may be surrounded by blanks and may have a plus, leading
zeros, single underscores, and a fraction of zeros. -/
def cleaned (cs : List Char) : Option (List Char) := do
  let unsigned ← match Text.trim Text.isWideBlank cs with
    | '+' :: '-' :: _ => none
    | '+' :: rest => some rest
    | rest => some rest
  let digits ← withoutSignedPadding unsigned
  return withoutUnderscores (withoutFraction digits)

def integerOfText (s : String) : Checked Int :=
  match plainInteger s.toList with
  | .ok n => .ok n
  | .error issues =>
    match cleaned s.toList with
    | some cs => plainInteger cs
    | none => .error issues

/-- The magnitude that a machine word of 64 bits with a sign does not reach. -/
def wordBound : Int := 0x8000000000000000

/-- The integer that a decimal is. It has to fit into a machine word. -/
def integerOfDecimal (x : Binary64) : Checked Int :=
  match x with
  | .finite .. => match x.toInt? with
    | some n => if -wordBound < n && n < wordBound then .ok n else .fail .tooLongInteger
    | none => .fail .fractionalInteger
  | _ => .fail .infiniteInteger

def integer : Data → Checked Int
  | .scalar (.integer n) => .ok n
  | .scalar (.bool b) => .ok (if b then 1 else 0)
  | .scalar (.decimal x) => integerOfDecimal x
  | .scalar (.text s) => integerOfText s
  | _ => .fail .notInteger

def falseWords : List String := ["0", "f", "n", "no", "off", "false"]

def trueWords : List String := ["1", "t", "y", "yes", "on", "true"]

def booleanOfInteger (n : Int) : Checked Bool :=
  if n = 0 then .ok false else if n = 1 then .ok true else .fail .malformedBoolean

def boolean : Data → Checked Bool
  | .scalar (.bool b) => .ok b
  | .scalar (.integer n) =>
    if -wordBound ≤ n && n < wordBound then booleanOfInteger n else .fail .notBoolean
  | .scalar (.decimal x) => match integerOfDecimal x with
    | .ok n => booleanOfInteger n
    | .error _ => .fail .notBoolean
  | .scalar (.text s) =>
    let word := String.ofList (s.toList.map Char.toLower)
    if falseWords.contains word then .ok false
    else if trueWords.contains word then .ok true
    else .fail .malformedBoolean
  | _ => .fail .notBoolean

def text : Data → Checked String
  | .scalar (.text s) => .ok s
  | _ => .fail .notText

/-- The value under a key, among members whose keys are all different. -/
def find? (key : String) (members : List (Scalar × Data)) : Option Data :=
  (members.find? fun member => member.1 == .text key).map (·.2)

/-- A field that has to be there. -/
def required (read : Data → Checked α) (key : String)
    (members : List (Scalar × Data)) : Checked α :=
  Checked.inside (.key key) <| match find? key members with
    | some d => read d
    | none => .fail .missing

/-- A field that may be left out. -/
def optional (read : Data → Checked α) (default : α) (key : String)
    (members : List (Scalar × Data)) : Checked α :=
  Checked.inside (.key key) <| match find? key members with
    | some d => read d
    | none => .ok default

end Bounty.Record
