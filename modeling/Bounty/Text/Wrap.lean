import Bounty.Text.Blank
import Bounty.Text.Width
/-!
Wrapping: a line is cut into lines that are no wider than a page. Cuts are made between words, and
inside a word only where it is wider than the page.
-/
namespace Bounty.Text

/-- Characters that are never cut apart, and their cells. -/
structure Cluster where
  chars : List Char
  cells : Nat
deriving DecidableEq, Repr

namespace Cluster

def add (c : Cluster) (chars : List Char) (cells : Nat) : Cluster :=
  ⟨c.chars ++ chars, c.cells + cells⟩

/-- The clusters of the rest of a line after the one that has been begun; `last` is the character
that the sign for a picture would widen. -/
def ofRest (begun : Cluster) (last : Option Char) : List Char → List Cluster
  | [] => [begun]
  | [c] =>
    if c == joiner then [begun.add [c] 0]
    else if c == pictureSign then
      [begun.add [c] (if last.any (isWithin pictureRanges) then 1 else 0)]
    else if charWidth c = 0 then [begun.add [c] 0]
    else [begun, ⟨[c], charWidth c⟩]
  | c :: next :: rest =>
    if c == joiner then ofRest (begun.add [c, next] 0) last rest
    else if c == pictureSign then
      ofRest (begun.add [c] (if last.any (isWithin pictureRanges) then 1 else 0)) none
        (next :: rest)
    else if charWidth c = 0 then ofRest (begun.add [c] 0) last (next :: rest)
    else begun :: ofRest ⟨[c], charWidth c⟩ (some c) (next :: rest)

/-- The clusters of a line. -/
def ofLine : List Char → List Cluster
  | [] => []
  | c :: rest => ofRest ⟨[c], charWidth c⟩ (if charWidth c = 0 then none else some c) rest

/-- The first clusters of a line that is no wider than the page. Half of the last one is replaced
by a blank. -/
def cropped : Nat → List Cluster → List Char
  | _, [] => []
  | room, c :: rest =>
    if c.cells ≤ room then c.chars ++ cropped (room - c.cells) rest
    else List.replicate room ' '

/-- Lines that are filled one after the other. There is still `room` on the first one. -/
def filled (page : Nat) (room : Nat) : List Cluster → List (List Char)
  | [] => [[]]
  | c :: rest =>
    if c.cells ≤ room then match filled page (room - c.cells) rest with
      | line :: others => (c.chars ++ line) :: others
      | [] => [c.chars]
    else [] :: match filled page (page - c.cells) rest with
      | line :: others => (c.chars ++ line) :: others
      | [] => [c.chars]

end Cluster

/-- The words of a line, each with the blanks after it, and the first also with those before it. -/
def words (cs : List Char) : List (List Char) :=
  match cs.splitBy fun c d => !isBlank c || isBlank d with
  | blanks :: word :: rest => if blanks.all isBlank then (blanks ++ word) :: rest
    else blanks :: word :: rest
  | words => words

/-- The lines of some words after the line that has been begun, with the cells that it takes. The
blanks at the end of a word need not fit. -/
def linesOf (page : Nat) (line : List Char) (cells : Nat) : List (List Char) → List (List Char)
  | [] => [line]
  | word :: rest =>
    let needed := width (trimEnd isBlank word)
    if cells + needed ≤ page then linesOf page (line ++ word) (cells + width word) rest
    else if needed ≤ page then line :: linesOf page word (width word) rest
    else
      let parts := Cluster.filled page page (Cluster.ofLine word)
      let last := parts.getLastD []
      (if line.isEmpty then [] else [line]) ++ parts.dropLast ++
        linesOf page last (width last) rest

/-- A line without the blanks at its end that are beyond the page. -/
def withoutOverhang (page : Nat) (line : List Char) : List Char :=
  let blanks := line.length - (trimEnd isBlank line).length
  line.take (line.length - min blanks (line.length - page))

/-- The lines of a page that a line is cut into. -/
def wrap (page : Nat) (line : List Char) : List (List Char) :=
  let lines := if (trimEnd isBlank line).isEmpty then [line] else linesOf page [] 0 (words line)
  lines.map fun line =>
    let line := withoutOverhang page line
    if width line ≤ page then line else Cluster.cropped page (Cluster.ofLine line)

end Bounty.Text
