import Bounty.Emoji.Names
import Bounty.Numeral
import Bounty.Text.LowerCase
/-!
Emoji codes: the name of an emoji between two colons stands for the emoji.
-/
namespace Bounty

structure Emoji where
  name : String
  glyph : List Char
  /-- Whether a skin tone may follow the first character of the glyph. -/
  isToned : Bool

namespace Emoji

/-- The characters of code points that are divided by hyphens. -/
def glyphOf (codePoints : List Char) : List Char :=
  (codePoints.splitOn '-').map fun digits =>
    Char.ofNat ((Numeral.ofDigits? 16 digits).getD 0)

/-- What an entry of the table says: one emoji for each of its names. -/
def ofEntry (entry : List Char) : List Emoji :=
  match (entry.splitOnP Text.isBlank).filter (!·.isEmpty) with
  | [] => []
  | codePoints :: names => names.map fun name =>
    ⟨String.ofList (name.filter (· != '~')), glyphOf codePoints, name.contains '~'⟩

def all : List Emoji := (entries.toList.splitOn ';').flatMap ofEntry

/-- The skin tones, by their names. -/
def tones : List (String × Char) := [
  ("light", Char.ofNat 0x1F3FB), ("medium-light", Char.ofNat 0x1F3FC),
  ("medium", Char.ofNat 0x1F3FD), ("medium-dark", Char.ofNat 0x1F3FE),
  ("dark", Char.ofNat 0x1F3FF)]

/-- The sign that asks for an emoji to be shown as text. -/
def asText : Char := '\ufe0e'

/-- The sign that asks for an emoji to be shown as a picture. -/
def asPicture : Char := '\ufe0f'

/-- A glyph in a skin tone, which takes the place of the sign for a picture. -/
def withTone (tone : Char) : List Char → List Char
  | [] => [tone]
  | c :: rest => c :: tone :: if rest.head? = some asPicture then rest.tail else rest

/-- The glyph of an emoji under a name of its own, or of one in a skin tone that its name has after
that of the emoji. -/
def named? (name : String) : Option (List Char) :=
  match all.find? (·.name == name) with
  | some emoji => some emoji.glyph
  | none => tones.findSome? fun (toneName, tone) =>
    (all.find? fun emoji =>
      emoji.isToned && emoji.name ++ "_" ++ toneName ++ "_skin_tone" == name).map fun emoji =>
        withTone tone emoji.glyph

/-- Takes a word off the end of a text. -/
def dropEnd? (word cs : List Char) : Option (List Char) :=
  if word.isSuffixOf cs then some (cs.take (cs.length - word.length)) else none

/-- What stands between two colons, as a name and the signs that follow the emoji. -/
def splitCode (code : List Char) : List Char × List Char :=
  match dropEnd? "-emoji".toList code, dropEnd? "-text".toList code with
  | some name, _ => (name, [asPicture])
  | _, some name => (name, [asText])
  | none, none => (code, [])

/-- What a code is shown as: the emoji of its name in lower case, or the code itself. -/
def shown (code : List Char) : List Char :=
  let (name, signs) := splitCode code
  match named? (Text.lower (String.ofList name)) with
  | some glyph => glyph ++ signs
  | none => ':' :: code ++ [':']

/-- Shows the codes in a text. After a colon, `code` holds what has been read since; a blank ends
it as plain text. -/
def expandFrom (code : Option (List Char)) : List Char → List Char
  | [] => (code.map (':' :: ·)).getD []
  | c :: rest => match code with
    | none => if c = ':' then expandFrom (some []) rest else c :: expandFrom none rest
    | some code =>
      if c = ':' then shown code ++ expandFrom none rest
      else if Text.isBlank c then ':' :: code ++ c :: expandFrom none rest
      else expandFrom (some (code ++ [c])) rest

def expand (cs : List Char) : List Char := expandFrom none cs

end Emoji

end Bounty
