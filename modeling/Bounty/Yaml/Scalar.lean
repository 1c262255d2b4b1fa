import Bounty.Numeral
import Bounty.Text.Half
import Bounty.Yaml.Cursor
import Bounty.Yaml.Fault
/-!
The texts of scalars: plain, between single or double quotes, and in literal or folded blocks.
-/
namespace Bounty.Yaml

/-- What line ends inside a text come to: a single one becomes a blank, each further one stays. -/
def folded (first : Char) (others : List Char) : List Char :=
  if first != '\n' then first :: others
  else if others.isEmpty then [' ']
  else others

/-- Line ends and the blanks before and after them. There are none where a document marker starts a
line. -/
def plainBreaks? : Nat → List Char → Cursor → Option (List Char × Cursor)
  | 0, _, _ => none
  | fuel + 1, found, c =>
    let c := c.skip (· == ' ')
    match c.lineBreak? with
    | none => some (found, c)
    | some (b, c) => if c.atDocumentMarker then none else plainBreaks? fuel (found ++ [b]) c

/-- What may stand between two words of a plain text, and the place after it. The flag tells whether
a line has ended; no text comes back where the plain text cannot go on. -/
def plainGap (c : Cursor) : List Char × Bool × Cursor :=
  let (blanks, c) := c.span (· == ' ')
  match c.lineBreak? with
  | none => (blanks, false, c)
  | some (b, c) =>
    if c.atDocumentMarker then ([], true, c)
    else match plainBreaks? (c.rest.length + 1) [] c with
      | some (others, c) => (folded b others, true, c)
      | none => ([], true, (c.skip fun ch => ch == ' ' || isBreak ch))

/-- The next word of a plain text. Inside brackets some more characters end it. -/
def plainWord (inFlow : Bool) : List Char → List Char
  | [] => []
  | ch :: rest =>
    if isBlank ch || isBreak ch then []
    else if ch == ':' && (Cursor.endsWord rest.head? ||
        inFlow && rest.head?.any (",[]\x7b\x7d".toList.contains ·)) then []
    else if inFlow && ",?[]\x7b\x7d".toList.contains ch then []
    else ch :: plainWord inFlow rest

/-- A plain text from the second part on. The flag tells whether the last thing after it was a line
end. -/
def plainFrom (inFlow : Bool) (indent : Int) :
    Nat → List Char → List Char → Bool → Cursor → List Char × Bool × Cursor
  | 0, text, _, ended, c => (text, ended, c)
  | fuel + 1, text, gap, ended, c =>
    if c.peek? == some '#' then (text, ended, c)
    else
      let word := plainWord inFlow c.rest
      if word.isEmpty then (text, ended, c)
      else
        let text := text ++ gap ++ word
        let (gap, ended, c) := plainGap (c.advanceBy word.length)
        if gap.isEmpty || c.peek? == some '#' || (!inFlow && (c.column : Int) < indent) then
          (text, ended, c)
        else plainFrom inFlow indent fuel text gap ended c

/-- A plain text inside an indentation. -/
def plain (inFlow : Bool) (indent : Int) (c : Cursor) : List Char × Bool × Cursor :=
  plainFrom inFlow (indent + 1) (c.rest.length + 1) [] [] false c

/-- The character that a short escape stands for. -/
def shortEscape? : Char → Option Char
  | '0' => some '\x00'
  | 'a' => some '\x07'
  | 'b' => some '\x08'
  | 't' => some '\t'
  | '\t' => some '\t'
  | 'n' => some '\n'
  | 'v' => some '\x0b'
  | 'f' => some '\x0c'
  | 'r' => some '\r'
  | 'e' => some '\x1b'
  | ' ' => some ' '
  | '\x22' => some '\x22'
  | '\x5c' => some '\x5c'
  | '/' => some '/'
  | 'N' => some '\u0085'
  | '_' => some '\u00a0'
  | 'L' => some '\u2028'
  | 'P' => some '\u2029'
  | _ => none

/-- How many digits the code of a long escape has. -/
def codeLength? : Char → Option Nat
  | 'x' => some 2
  | 'u' => some 4
  | 'U' => some 8
  | _ => none

/-- What has a code in hexadecimal digits. -/
def codeChars (digits : List Char) : Except Fault (List Char) := do
  let code ← Numeral.ofDigits? 16 digits
  if code < 0x110000 then return Text.charsOfCode code
  else if code < 0x80000000 then .error .malformed
  else .error .hugeCode

/-- Line ends inside quotes after the first one. A document marker may not start a line. -/
def quotedBreaks? : Nat → List Char → Cursor → Option (List Char × Cursor)
  | 0, _, _ => none
  | fuel + 1, found, c =>
    if c.atDocumentMarker then none
    else
      let c := c.skip isBlank
      match c.lineBreak? with
      | none => some (found, c)
      | some (b, c) => quotedBreaks? fuel (found ++ [b]) c

/-- An escape after its backslash. An escaped line end stands for nothing. -/
def escape (c : Cursor) : Except Fault (List Char × Cursor) := do
  let ch ← c.peek?
  match shortEscape? ch, codeLength? ch with
  | some value, _ => return ([value], c.advance)
  | none, some length =>
    let digits := c.advance.rest.take length
    if digits.length < length then .error .malformed
    else do
      let value ← codeChars digits
      return (value, c.advance.advanceBy length)
  | none, none => do
    let (_, c) ← c.lineBreak?
    quotedBreaks? (c.rest.length + 1) [] c

/-- Blanks and line ends inside quotes. -/
def quotedGap? (c : Cursor) : Option (List Char × Cursor) :=
  let (blanks, c) := c.span isBlank
  if c.rest.isEmpty then none
  else match c.lineBreak? with
    | none => some (blanks, c)
    | some (b, c) => do
      let (others, c) ← quotedBreaks? (c.rest.length + 1) [] c
      return (folded b others, c)

/-- A text between quotes after the opening one. -/
def quotedFrom (double : Bool) : Nat → List Char → Cursor → Except Fault (List Char × Cursor)
  | 0, _, _ => .error .malformed
  | fuel + 1, text, c => match c.peek? with
    | none => .error .malformed
    | some ch =>
      if isBlank ch || isBreak ch then do
        let (gap, c) ← quotedGap? c
        quotedFrom double fuel (text ++ gap) c
      else if double && ch == '\x22' then .ok (text, c.advance)
      else if double && ch == '\x5c' then do
        let (value, c) ← escape c.advance
        quotedFrom double fuel (text ++ value) c
      else if !double && ch == '\x27' then
        if c.second? == some '\x27' then quotedFrom double fuel (text ++ [ch]) (c.advanceBy 2)
        else .ok (text, c.advance)
      else quotedFrom double fuel (text ++ [ch]) c.advance

def quoted (double : Bool) (c : Cursor) : Except Fault (List Char × Cursor) :=
  quotedFrom double (c.rest.length + 1) [] c.advance

/-- What happens to the line ends at the end of a block. -/
inductive Chomping where
  | strip | clip | keep
deriving DecidableEq

def Chomping.ofChar? : Option Char → Option Chomping
  | some '-' => some .strip
  | some '+' => some .keep
  | _ => none

/-- The number of a digit; zero is none. -/
def increment? (ch : Option Char) : Option (Option Nat) :=
  match ch with
  | some d =>
    if d == '0' then none
    else if d.isDigit then some (some (d.toNat - '0'.toNat))
    else some none
  | none => some none

/-- The indicators after the opening of a block, in either order. -/
def blockHeader? (c : Cursor) : Option (Chomping × Option Nat × Cursor) :=
  match Chomping.ofChar? c.peek? with
  | some chomping => do
    let c := c.advance
    let increment ← increment? c.peek?
    let c := if increment.isSome then c.advance else c
    return (chomping, increment, c)
  | none => do
    let increment ← increment? c.peek?
    let c := if increment.isSome then c.advance else c
    match Chomping.ofChar? c.peek? with
    | some chomping =>
      if increment.isSome then return (chomping, increment, c.advance)
      else none
    | none => return (.clip, increment, c)

/-- Blank lines at the start of a block, and the widest indentation among them and of the first line
with text. -/
def blockStart : Nat → List Char → Nat → Cursor → List Char × Nat × Cursor
  | 0, found, widest, c => (found, widest, c)
  | fuel + 1, found, widest, c =>
    if c.peek? == some ' ' then blockStart fuel found (max widest c.advance.column) c.advance
    else match c.lineBreak? with
      | some (b, c) => blockStart fuel (found ++ [b]) widest c
      | none => (found, widest, c)

/-- Goes on over blanks, up to a column. -/
def indentTo (column : Nat) : Nat → Cursor → Cursor
  | 0, c => c
  | fuel + 1, c =>
    if c.column < column && c.peek? == some ' ' then indentTo column fuel c.advance else c

/-- Blank lines inside a block with the given indentation. -/
def blockBreaks (column : Nat) : Nat → List Char → Cursor → List Char × Cursor
  | 0, found, c => (found, c)
  | fuel + 1, found, c =>
    let c := indentTo column (c.rest.length + 1) c
    match c.lineBreak? with
    | some (b, c) => blockBreaks column fuel (found ++ [b]) c
    | none => (found, c)

/-- The lines of a block. Folding joins two lines that both start with text. -/
def blockLines (fold : Bool) (column : Nat) :
    Nat → List Char → List Char → Cursor → List Char × List Char × List Char × Cursor
  | 0, text, breaks, c => (text, [], breaks, c)
  | fuel + 1, text, breaks, c =>
    let startsWithText := !(c.peek?.any isBlank)
    let (line, c) := c.span (!isBreak ·)
    let (last, c) := match c.lineBreak? with
      | some (b, c) => ([b], c)
      | none => ([], c)
    let text := text ++ breaks ++ line
    let (breaks, c) := blockBreaks column (c.rest.length + 1) [] c
    if c.column == column && !c.rest.isEmpty then
      let gap :=
        if fold && last == ['\n'] && startsWithText && !(c.peek?.any isBlank) then
          if breaks.isEmpty then [' '] else []
        else last
      blockLines fold column fuel (text ++ gap) breaks c
    else (text, last, breaks, c)

/-- A block inside an indentation, from its opening on. -/
def block? (indent : Int) (c : Cursor) : Option (List Char × Cursor) := do
  let fold := c.peek? == some '>'
  let (chomping, increment, c) ← blockHeader? c.advance
  if !(c.peek? == some ' ' || Cursor.endsLine c.peek?) then none
  else do
    let c ← c.restOfLine?
    let least := (max (indent + 1) 1).toNat
    let (breaks, column, c) := match increment with
      | none =>
        let (breaks, widest, c) := blockStart (c.rest.length + 1) [] 0 c
        (breaks, max least widest, c)
      | some n =>
        let column := least + n - 1
        let (breaks, c) := blockBreaks column (c.rest.length + 1) [] c
        (breaks, column, c)
    let (text, last, breaks, c) :=
      if c.column == column && !c.rest.isEmpty then
        blockLines fold column (c.rest.length + 1) [] breaks c
      else ([], [], breaks, c)
    return (text ++ (if chomping == .strip then [] else last) ++
      (if chomping == .keep then breaks else []), c)

end Bounty.Yaml
