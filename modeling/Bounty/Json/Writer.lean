import Bounty.Data
import Bounty.Text.Quoted
/-!
Writing JSON, on one line or indented, in ASCII or with all characters as they are.
-/
namespace Bounty.Json

/-- How JSON is laid out. -/
structure Layout where
  /-- Blanks per level; on one line where there is none. -/
  indent : Option Nat
  /-- Whether characters above ASCII are escaped. -/
  ascii : Bool

/-- One escaped code unit. -/
def unitEscape (n : Nat) : List Char := '\x5c' :: 'u' :: Text.hexDigits 4 n

/-- The escape of a character by its code units. -/
def unitEscapes (c : Char) : List Char :=
  if c.toNat < 0x10000 then unitEscape c.toNat
  else
    let n := c.toNat - 0x10000
    unitEscape (0xD800 + n / 0x400) ++ unitEscape (0xDC00 + n % 0x400)

def charText (ascii : Bool) (c : Char) : List Char :=
  if c == '\x22' then ['\x5c', '\x22']
  else if c == '\x5c' then ['\x5c', '\x5c']
  else if c == '\n' then ['\x5c', 'n']
  else if c == '\r' then ['\x5c', 'r']
  else if c == '\t' then ['\x5c', 't']
  else if c == '\x08' then ['\x5c', 'b']
  else if c == '\x0c' then ['\x5c', 'f']
  else if c.toNat < 0x20 || (ascii && c.toNat ≥ 0x7F) then unitEscapes c
  else [c]

/-- A character as it stands between quotes. A half is escaped where all above ASCII is. -/
def pointText (ascii : Bool) : Text.Point → List Char
  | .char c => charText ascii c
  | .half code => if ascii then unitEscape code else (Text.Point.half code).chars

def textBetweenQuotes (ascii : Bool) (s : String) : String :=
  String.ofList ('\x22' :: (Text.points s.toList).flatMap (pointText ascii) ++ ['\x22'])

/-- The text of a scalar as a value. -/
def scalarText (ascii : Bool) : Scalar → String
  | .null => "null"
  | .bool b => if b then "true" else "false"
  | .integer n => Numeral.write n
  | .decimal .nan => "NaN"
  | .decimal (.infinite negative) => if negative then "-Infinity" else "Infinity"
  | .decimal x => x.write
  | s => textBetweenQuotes ascii s.write

/-- The text of a scalar as a key. -/
def keyText (ascii : Bool) : Scalar → String
  | .text s => textBetweenQuotes ascii s
  | s => "\x22" ++ scalarText ascii s ++ "\x22"

/-- What separates two parts of a collection at a depth. -/
def breakAt (layout : Layout) (depth : Nat) (gap : String) : String :=
  match layout.indent with
  | none => gap
  | some width => "\n" ++ String.ofList (List.replicate (width * depth) ' ')

/-- A collection between brackets, one part per line where it is indented. -/
def enclose (layout : Layout) (depth : Nat) (first last : String) (parts : List String) : String :=
  if parts.isEmpty then first ++ last
  else
    first ++ breakAt layout (depth + 1) "" ++
      ("," ++ breakAt layout (depth + 1) " ").intercalate parts ++
      breakAt layout depth "" ++ last

mutual

def writeAt (layout : Layout) (depth : Nat) : Data → String
  | .scalar s => scalarText layout.ascii s
  | .list items => enclose layout depth "[" "]" (itemTexts layout (depth + 1) items)
  | .mapping entries =>
    enclose layout depth "\x7b" "\x7d" (memberTexts layout (depth + 1) entries)
  -- Sets and pairs are written as lists.
  | .set members => enclose layout depth "[" "]" (members.map (scalarText layout.ascii))
  | .pair first second =>
    enclose layout depth "[" "]"
      [writeAt layout (depth + 1) first, writeAt layout (depth + 1) second]

def itemTexts (layout : Layout) (depth : Nat) : List Data → List String
  | [] => []
  | d :: rest => writeAt layout depth d :: itemTexts layout depth rest

def memberTexts (layout : Layout) (depth : Nat) : List (Scalar × Data) → List String
  | [] => []
  | (key, value) :: rest =>
    (keyText layout.ascii key ++ ": " ++ writeAt layout depth value) ::
      memberTexts layout depth rest

end

def write (layout : Layout) (d : Data) : String := writeAt layout 0 d

end Bounty.Json
