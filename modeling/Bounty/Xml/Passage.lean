import Bounty.Xml.Name
/-!
Passages of a document: comments, instructions and quoted texts, and what follows them.
-/
namespace Bounty.Xml

def skipBlanks (cs : List Char) : List Char := cs.dropWhile isBlank

/-- What follows the first place at which a word stands; all before it has to be allowed. -/
def after? (word : List Char) : List Char → Option (List Char)
  | [] => none
  | c :: rest => match word.isPrefixOf? (c :: rest) with
    | some rest => some rest
    | none => if isAllowed c then after? word rest else none

/-- What follows a comment, after its opening. Two hyphens end it. -/
def afterComment? (cs : List Char) : Option (List Char) := do
  let rest ← after? ['-', '-'] cs
  ['>'].isPrefixOf? rest

/-- What follows a processing instruction, after its opening. No name that reads as `xml` is
allowed. -/
def afterInstruction? (hasRare : Bool) (cs : List Char) : Option (List Char) := do
  let (target, rest) ← name? hasRare cs
  if target.map Char.toLower == ['x', 'm', 'l'] then none
  else match rest with
    | '?' :: '>' :: rest => some rest
    | c :: rest => if isBlank c then after? ['?', '>'] rest else none
    | [] => none

/-- A text between quotes, and what follows it. -/
def quotedText? : List Char → Option (List Char × List Char)
  | mark :: rest =>
    if mark == '\x22' || mark == '\x27' then
      let text := rest.takeWhile (· != mark)
      match rest.drop text.length with
      | _ :: rest => some (text, rest)
      | [] => none
    else none
  | [] => none

/-- An equals sign between blanks. -/
def equals? (cs : List Char) : Option (List Char) :=
  (['='].isPrefixOf? (skipBlanks cs)).map skipBlanks

end Bounty.Xml
