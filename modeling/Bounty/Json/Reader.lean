import Bounty.Data
import Bounty.Text.Half
/-!
Reading JSON. Beside the standard forms of numbers, `NaN`, `Infinity` and `-Infinity` are read. A
number with a point or an exponent is a decimal one, any other an integer. A key that is repeated
keeps its first place and takes its last value.
-/
namespace Bounty.Json

def isBlank (c : Char) : Bool := c == ' ' || c == '\t' || c == '\n' || c == '\r'

def skipBlanks (cs : List Char) : List Char := cs.dropWhile isBlank

/-- Four hexadecimal digits. -/
def unit? : List Char → Option (Nat × List Char)
  | a :: b :: c :: d :: rest => do
    let a ← Numeral.hexValue? a
    let b ← Numeral.hexValue? b
    let c ← Numeral.hexValue? c
    let d ← Numeral.hexValue? d
    return (((a * 16 + b) * 16 + c) * 16 + d, rest)
  | _ => none

/-- What a reader puts up with. -/
structure Tolerance where
  /-- The most digits of an integer, if there is a limit. -/
  digits : Option Nat
  /-- How deep collections may nest, not counting empty ones, if there is a limit. -/
  depth : Option Nat
  /-- Whether half of a surrogate pair may stand alone. -/
  halves : Bool

/-- For data of any size. -/
def Tolerance.full : Tolerance := ⟨none, none, true⟩

/-- What one code unit stands for, or two where they are a pair of surrogates. -/
def charsOfUnits? (t : Tolerance) (unit : Nat) (rest : List Char) :
    Option (List Char × List Char) :=
  let alone := if !Text.isHalf unit || t.halves then some (Text.charsOfCode unit, rest) else none
  if Text.isHighHalf unit then
    match rest with
    | '\x5c' :: 'u' :: more => match unit? more with
      | some (low, after) =>
        if Text.isLowHalf low then some ([Text.joined unit low], after) else alone
      | none => alone
    | _ => alone
  else alone

/-- One escape after its backslash. -/
def escape? (t : Tolerance) : List Char → Option (List Char × List Char)
  | '\x22' :: rest => some (['\x22'], rest)
  | '\x5c' :: rest => some (['\x5c'], rest)
  | '/' :: rest => some (['/'], rest)
  | 'b' :: rest => some (['\x08'], rest)
  | 'f' :: rest => some (['\x0c'], rest)
  | 'n' :: rest => some (['\n'], rest)
  | 'r' :: rest => some (['\r'], rest)
  | 't' :: rest => some (['\t'], rest)
  | 'u' :: rest => do
    let (unit, rest) ← unit? rest
    charsOfUnits? t unit rest
  | _ => none

/-- A text after its opening quote. Controls have to be escaped. -/
def text? (t : Tolerance) : Nat → List Char → List Char → Option (String × List Char)
  | 0, _, _ => none
  | fuel + 1, done, cs => match cs with
    | [] => none
    | '\x22' :: rest => some (String.ofList done.reverse, rest)
    | '\x5c' :: rest => do
      let (cs, rest) ← escape? t rest
      text? t fuel (cs.reverse ++ done) rest
    | c :: rest => if c.toNat < 0x20 then none else text? t fuel (c :: done) rest

def digitsOf (cs : List Char) : List Char × List Char :=
  (cs.takeWhile Char.isDigit, cs.dropWhile Char.isDigit)

/-- The digits after a point, if a point and a digit follow. -/
def fraction? : List Char → Option (List Char × List Char)
  | '.' :: rest => match digitsOf rest with
    | ([], _) => none
    | found => some found
  | _ => none

/-- A power of ten after its letter. -/
def power? : List Char → Option (Int × List Char)
  | e :: rest =>
    if e == 'e' || e == 'E' then
      let (negative, rest) := Numeral.splitSign rest
      match digitsOf rest with
      | ([], _) => none
      | (digits, rest) => some (Numeral.signed negative (Nat.ofDigitChars 10 digits 0), rest)
    else none
  | [] => none

/-- The digits before any point: no zero in front of others. -/
def whole? (cs : List Char) : Option (List Char × List Char) :=
  match digitsOf cs with
  | ([], _) => none
  | ('0' :: _ :: _, _) => none
  | found => some found

/-- A number without its sign. -/
def number? (t : Tolerance) (negative : Bool) (cs : List Char) :
    Option (Data × List Char) := do
  let (whole, rest) ← whole? cs
  let (fraction, rest, isDecimal) := match fraction? rest with
    | some (digits, rest) => (digits, rest, true)
    | none => ([], rest, false)
  let (power, rest, isDecimal) := match power? rest with
    | some (power, rest) => (power, rest, true)
    | none => (0, rest, isDecimal)
  if isDecimal then
    let digits := Nat.ofDigitChars 10 (whole ++ fraction) 0
    return (.scalar (.decimal (Binary64.ofDecimal negative digits (power - fraction.length))), rest)
  else if t.digits.any (whole.length > ·) then none
  else return (.integer (Numeral.signed negative (Nat.ofDigitChars 10 whole 0)), rest)

/-- A value that is no text, list or object. -/
def plain? (t : Tolerance) (cs : List Char) : Option (Data × List Char) :=
  match cs with
  | 'n' :: rest => ("ull".toList.isPrefixOf? rest).map (.null, ·)
  | 't' :: rest => ("rue".toList.isPrefixOf? rest).map (.bool true, ·)
  | 'f' :: rest => ("alse".toList.isPrefixOf? rest).map (.bool false, ·)
  | 'N' :: rest => ("aN".toList.isPrefixOf? rest).map (.scalar (.decimal .nan), ·)
  | 'I' :: rest => ("nfinity".toList.isPrefixOf? rest).map (.scalar (.decimal (.infinite false)), ·)
  | '-' :: 'I' :: rest =>
    ("nfinity".toList.isPrefixOf? rest).map (.scalar (.decimal (.infinite true)), ·)
  | '-' :: rest => number? t true rest
  | rest => number? t false rest

mutual

/-- A value, after any blanks, inside of `outer` collections. -/
def value? (t : Tolerance) (outer : Nat) : Nat → List Char → Option (Data × List Char)
  | 0, _ => none
  | fuel + 1, cs => match skipBlanks cs with
    | '\x22' :: rest => do
      let (s, rest) ← text? t (rest.length + 1) [] rest
      return (.text s, rest)
    | '[' :: rest => match skipBlanks rest with
      | ']' :: rest => some (.list [], rest)
      | _ => do
        if t.depth.any (· ≤ outer) then none
        else do
          let (items, rest) ← items? t (outer + 1) fuel rest
          return (.list items, rest)
    | '\x7b' :: rest => match skipBlanks rest with
      | '\x7d' :: rest => some (.mapping [], rest)
      | _ => do
        if t.depth.any (· ≤ outer) then none
        else do
          let (members, rest) ← members? t (outer + 1) fuel rest
          return (.ofPairs members, rest)
    | rest => plain? t rest

/-- The items of a list up to its closing bracket. -/
def items? (t : Tolerance) (outer : Nat) : Nat → List Char → Option (List Data × List Char)
  | 0, _ => none
  | fuel + 1, cs => do
    let (item, rest) ← value? t outer fuel cs
    match skipBlanks rest with
    | ']' :: rest => return ([item], rest)
    | ',' :: rest => do
      let (items, rest) ← items? t outer fuel rest
      return (item :: items, rest)
    | _ => none

/-- The members of an object up to its closing brace. -/
def members? (t : Tolerance) (outer : Nat) :
    Nat → List Char → Option (List (Scalar × Data) × List Char)
  | 0, _ => none
  | fuel + 1, cs => match skipBlanks cs with
    | '\x22' :: rest => do
      let (key, rest) ← text? t (rest.length + 1) [] rest
      match skipBlanks rest with
      | ':' :: rest => do
        let (value, rest) ← value? t outer fuel rest
        match skipBlanks rest with
        | '\x7d' :: rest => return ([(.text key, value)], rest)
        | ',' :: rest => do
          let (members, rest) ← members? t outer fuel rest
          return ((.text key, value) :: members, rest)
        | _ => none
      | _ => none
    | _ => none

end

/-- Reads a whole text. -/
def read? (t : Tolerance) (s : String) : Option Data := do
  let cs := s.toList
  let (value, rest) ← value? t 0 (cs.length + 1) cs
  if (skipBlanks rest).isEmpty then some value else none

end Bounty.Json
