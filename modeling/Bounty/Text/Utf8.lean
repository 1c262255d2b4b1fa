import Bounty.Text.Quoted
/-!
Text as bytes. Bytes that are no text are described by the first place at which they fail, and so
is a text that has no bytes, since it holds a half of a surrogate pair.
-/
namespace Bounty.Text

/-- A faulty stretch of bytes. -/
structure Utf8Fault where
  first : UInt8
  start : Nat
  length : Nat
  reason : String
deriving DecidableEq, Repr

def isContinuation (b : UInt8) : Bool := 0x80 ≤ b && b < 0xC0

/-- How many bytes a character has that starts with the given one; none for other bytes. -/
def sequenceLength? (b : UInt8) : Option Nat :=
  if b < 0x80 then some 1
  else if b < 0xC2 then none
  else if b < 0xE0 then some 2
  else if b < 0xF0 then some 3
  else if b < 0xF5 then some 4
  else none

/-- Whether a byte can be the second one of a character of more than one byte. Overlong forms,
surrogates and too great codes are left out. -/
def isSecond (first second : UInt8) : Bool :=
  isContinuation second &&
    !(first == 0xE0 && second < 0xA0) && !(first == 0xED && second ≥ 0xA0) &&
    !(first == 0xF0 && second < 0x90) && !(first == 0xF4 && second ≥ 0x90)

/-- How many bytes at the front belong to one character, of `length` that it needs. -/
def goodBytes (length : Nat) : List UInt8 → Nat
  | first :: second :: rest =>
    if 1 < length && isSecond first second then
      2 + ((rest.take (length - 2)).takeWhile isContinuation).length
    else 1
  | bytes => bytes.length

/-- The first fault in some bytes, if there is one. -/
def findFault : Nat → Nat → List UInt8 → Option Utf8Fault
  | 0, _, _ => none
  | fuel + 1, start, bytes => match bytes with
    | [] => none
    | first :: _ => match sequenceLength? first with
      | none => some ⟨first, start, 1, "invalid start byte"⟩
      | some length =>
        let good := goodBytes length bytes
        if good = length then findFault fuel (start + length) (bytes.drop length)
        else if good = bytes.length then some ⟨first, start, good, "unexpected end of data"⟩
        else some ⟨first, start, good, "invalid continuation byte"⟩

def byteText (b : UInt8) : String :=
  let digit (n : Nat) : Char := "0123456789abcdef".toList.getD n '0'
  String.ofList ['0', 'x', digit (b.toNat / 16), digit (b.toNat % 16)]

def Utf8Fault.message (f : Utf8Fault) : String :=
  if f.length = 1 then
    s!"'utf-8' codec can't decode byte {byteText f.first} in position {f.start}: {f.reason}"
  else
    s!"'utf-8' codec can't decode bytes in position {f.start}-{f.start + f.length - 1}: {f.reason}"

/-- The text that some bytes encode. -/
def ofUtf8 (bytes : ByteArray) : Except Utf8Fault String :=
  match String.fromUTF8? bytes with
  | some s => .ok s
  | none =>
    .error ((findFault (bytes.size + 1) 0 bytes.toList).getD ⟨0, 0, 1, "invalid start byte"⟩)

/-- A stretch of halves in a text. -/
structure HalfFault where
  /-- The code of the first half. -/
  first : Nat
  start : Nat
  length : Nat
deriving DecidableEq, Repr

def HalfFault.message (f : HalfFault) : String :=
  let place :=
    if f.length = 1 then s!"character '{String.ofList (codeEscape f.first)}' in position {f.start}"
    else s!"characters in position {f.start}-{f.start + f.length - 1}"
  s!"'utf-8' codec can't encode {place}: surrogates not allowed"

/-- The first stretch of halves in a text, of which the first point is at a position. -/
def findHalves (start : Nat) : List Point → Option HalfFault
  | [] => none
  | .half code :: rest => some ⟨code, start, 1 + (rest.takeWhile Point.isHalf).length⟩
  | .char _ :: rest => findHalves (start + 1) rest

/-- Line ends of every convention as single line feeds. -/
def unifyLines : List Char → List Char
  | '\r' :: '\n' :: rest => '\n' :: unifyLines rest
  | '\r' :: rest => '\n' :: unifyLines rest
  | c :: rest => c :: unifyLines rest
  | [] => []

end Bounty.Text
