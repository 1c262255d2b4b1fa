/-!
Markup in labels. A tag is a bracket, one of the characters that begin a tag, and anything but an
opening bracket up to the next closing one. A backslash before a tag makes it plain text, and a pair
of backslashes there stands for one.
-/
namespace Bounty.Markup

def backslash : Char := '\x5c'

def backslashes (n : Nat) : List Char := List.replicate n backslash

def beginsTag (c : Char) : Bool :=
  ('a' ≤ c && c ≤ 'z') || c == '#' || c == '/' || c == '@'

/-- Whether a tag has its opening bracket right before a text. -/
def opensTag : List Char → Bool
  | [] => false
  | c :: rest => beginsTag c && (rest.takeWhile (· != '[')).contains ']'

/-- Escapes a text that `pending` backslashes stand before. A single backslash at the end is
doubled, so that it does not escape what follows. -/
def escapeFrom (pending : Nat) : List Char → List Char
  | [] => backslashes (if pending = 1 then 2 else pending)
  | c :: rest =>
    if c = backslash then escapeFrom (pending + 1) rest
    else if c = '[' && opensTag rest then backslashes (2 * pending + 1) ++ c :: escapeFrom 0 rest
    else backslashes pending ++ c :: escapeFrom 0 rest

/-- A text with every tag in it made plain. -/
def escape (s : String) : String := String.ofList (escapeFrom 0 s.toList)

/-- A piece of a label. -/
inductive Piece where
  | plain (c : Char)
  | tag (name : List Char)
  /-- An end of an escaped tag, which no emoji code reaches across. -/
  | seam
deriving DecidableEq, Repr

/-- Where a reading of a label stands: in plain text, after some backslashes, or inside of a tag,
with the characters of its name so far, or inside of an escaped tag. -/
inductive Position where
  | text (pending : Nat)
  | tag (name : List Char)
  | escapedTag

def plains (cs : List Char) : List Piece := cs.map .plain

/-- The pieces of a label from a position on. A backslash before a bracket that opens no tag is
dropped. -/
def piecesFrom : Position → List Char → List Piece
  | .text pending, [] => plains (backslashes pending)
  | .tag _, [] => []
  | .escapedTag, [] => []
  | .tag name, c :: rest =>
    if c = ']' then .tag name :: piecesFrom (.text 0) rest
    else piecesFrom (.tag (name ++ [c])) rest
  | .escapedTag, c :: rest =>
    if c = ']' then .plain c :: .seam :: piecesFrom (.text 0) rest
    else .plain c :: piecesFrom .escapedTag rest
  | .text pending, c :: rest =>
    if c = backslash then piecesFrom (.text (pending + 1)) rest
    else if c = '[' then
      if opensTag rest then
        if pending % 2 = 0 then plains (backslashes (pending / 2)) ++ piecesFrom (.tag []) rest
        else plains (backslashes (pending / 2)) ++ .seam :: .plain c :: piecesFrom .escapedTag rest
      else plains (backslashes (pending - 1) ++ [c]) ++ piecesFrom (.text 0) rest
    else plains (backslashes pending ++ [c]) ++ piecesFrom (.text 0) rest

def pieces (s : String) : List Piece := piecesFrom (.text 0) s.toList

end Bounty.Markup
