import Bounty.Data
import Bounty.Yaml.Cursor
/-!
How days and moments are written: a day by its numbers, a moment with hours, minutes and seconds
behind it, and perhaps the distance of its clock from universal time.
-/
namespace Bounty.Yaml.Timestamp

def digitsOf (cs : List Char) : List Char × List Char :=
  (cs.takeWhile Char.isDigit, cs.dropWhile Char.isDigit)

/-- One or two digits, and what follows them. -/
def oneOrTwo? (cs : List Char) : Option (Nat × List Char) :=
  match digitsOf cs with
  | ([a], rest) => some (Nat.ofDigitChars 10 [a] 0, rest)
  | ([a, b], rest) => some (Nat.ofDigitChars 10 [a, b] 0, rest)
  | _ => none

/-- Two digits, and what follows them. -/
def two? (cs : List Char) : Option (Nat × List Char) :=
  match digitsOf cs with
  | ([a, b], rest) => some (Nat.ofDigitChars 10 [a, b] 0, rest)
  | _ => none

/-- Year, month and day, and what follows them. -/
def date? (cs : List Char) : Option (Date × List Char) := do
  let (year, rest) := digitsOf cs
  if year.length != 4 then none
  else do
    let rest ← ['-'].isPrefixOf? rest
    let (month, rest) ← oneOrTwo? rest
    let rest ← ['-'].isPrefixOf? rest
    let (day, rest) ← oneOrTwo? rest
    return (⟨Nat.ofDigitChars 10 year 0, month, day⟩, rest)

/-- A distance from universal time in minutes; nothing at all where none is written. -/
def offset? (cs : List Char) : Option (Option Int) :=
  match cs.dropWhile isBlank with
  | [] => if cs.isEmpty then some none else none
  | ['Z'] => some (some 0)
  | sign :: rest =>
    if sign == '-' || sign == '+' then do
      let (hours, rest) ← oneOrTwo? rest
      let minutes ← match rest with
        | [] => some 0
        | ':' :: rest => match two? rest with
          | some (minutes, []) => some minutes
          | _ => none
        | _ => none
      return some (Numeral.signed (sign == '-') (60 * hours + minutes))
    else none

/-- The first six digits of a fraction of a second. -/
def microseconds (digits : List Char) : Nat :=
  Nat.ofDigitChars 10 ((digits ++ List.replicate 6 '0').take 6) 0

/-- What follows the day in a moment. -/
def time? (date : Date) (cs : List Char) : Option Moment := do
  let rest ← match cs with
    | 'T' :: rest | 't' :: rest => some rest
    | c :: _ => if isBlank c then some (cs.dropWhile isBlank) else none
    | [] => none
  let (hour, rest) ← oneOrTwo? rest
  let rest ← [':'].isPrefixOf? rest
  let (minute, rest) ← two? rest
  let rest ← [':'].isPrefixOf? rest
  let (second, rest) ← two? rest
  let (fraction, rest) := match rest with
    | '.' :: rest => digitsOf rest
    | rest => ([], rest)
  let offset ← offset? rest
  return ⟨date, hour, minute, second, microseconds fraction, offset⟩

/-- The day or the moment that a text is written as, whether or not there is such a day. -/
def read? (cs : List Char) : Option Scalar := do
  let (date, rest) ← date? cs
  if rest.isEmpty then return .date date else (time? date rest).map .moment

/-- Whether a text is a day or a moment by its form. A day alone needs all digits. -/
def isPlain (cs : List Char) : Bool :=
  match read? cs with
  | some (.date _) => cs.length == 10
  | some _ => true
  | none => false

def isValid : Scalar → Bool
  | .date d => d.isValid
  | .moment m => m.isValid
  | _ => true

end Bounty.Yaml.Timestamp
