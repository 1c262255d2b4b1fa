/-!
Halves of surrogate pairs. A file of data can name such a half by its code, although no character
has it. A text keeps the half as two characters: a sign that is no character of any script, and the
private character that lies above the half by `halfShift`. So the private characters of a text are
taken for halves only behind this sign, which texts are not meant to hold.
-/
namespace Bounty.Text

def isHighHalf (code : Nat) : Bool := 0xD800 ≤ code && code < 0xDC00

def isLowHalf (code : Nat) : Bool := 0xDC00 ≤ code && code < 0xE000

def isHalf (code : Nat) : Bool := isHighHalf code || isLowHalf code

/-- The character that two halves encode together. -/
def joined (high low : Nat) : Char :=
  Char.ofNat (0x10000 + (high - 0xD800) * 0x400 + (low - 0xDC00))

/-- What stands before the character that keeps a half. -/
def halfSign : Char := Char.ofNat 0x10FFFF

def halfShift : Nat := 0x100000

/-- A character of a text, or a half by its code. -/
inductive Point where
  | char (c : Char)
  | half (code : Nat)
deriving DecidableEq, Repr

def Point.isHalf : Point → Bool
  | .char _ => false
  | .half _ => true

/-- The characters by which a text keeps a point. -/
def Point.chars : Point → List Char
  | .char c => [c]
  | .half code => [halfSign, Char.ofNat (code + halfShift)]

/-- The text of a single point. -/
def Point.text (p : Point) : String := String.ofList p.chars

/-- The characters that keep what has a code. -/
def charsOfCode (code : Nat) : List Char :=
  if isHalf code then (Point.half code).chars else [Char.ofNat code]

/-- The code of the half that a character keeps after the sign. -/
def half? (c : Char) : Option Nat :=
  if halfShift ≤ c.toNat && isHalf (c.toNat - halfShift) then some (c.toNat - halfShift) else none

/-- The points that some characters keep. -/
def points : List Char → List Point
  | [] => []
  | [c] => [.char c]
  | c :: kept :: rest =>
    match if c == halfSign then half? kept else none with
    | some code => .half code :: points rest
    | none => .char c :: points (kept :: rest)

def holdsHalf (s : String) : Bool := (points s.toList).any Point.isHalf

end Bounty.Text
