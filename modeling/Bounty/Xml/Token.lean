import Bounty.Xml.Passage
/-!
The tokens of declarations. What may follow a token is part of its grammar, so that blanks have to
stand where two tokens could be taken for one.
-/
namespace Bounty.Xml

/-- How often a part of some content may occur. -/
inductive Occurrence where
  | once
  | any
  | other
deriving DecidableEq, Repr

inductive Token where
  /-- A name without a colon. -/
  | name (text : String)
  /-- A name with one colon in it. -/
  | prefixed (text : String)
  /-- Characters of names that make no name. -/
  | word (text : String)
  /-- A name with a mark of its occurrence. -/
  | counted
  | quoted (text : List Char)
  /-- A word after a hash sign. -/
  | hash (text : String)
  | opening
  | closing (occurrence : Occurrence)
  | bar
  | comma
  | percent
deriving DecidableEq, Repr

namespace Token

def endsWord (c : Char) : Bool := isBlank c || ['>', ')', ',', '|', '[', '%'].contains c

/-- The token of characters that have been read as a name up to the number of colons in it; more
than one colon, or one in a wrong place, counts as two. -/
def ofWord (colons : Nat) (text : List Char) : Token :=
  match colons with
  | 0 => .name (String.ofList text)
  | 1 => .prefixed (String.ofList text)
  | _ => .word (String.ofList text)

section Next

variable (hasRare : Bool)

/-- The rest of a word, after `text` with `colons` colons. -/
def wordFrom? (colons : Nat) (text : List Char) : List Char → Option (Token × List Char)
  | [] => none
  | c :: rest =>
    if isNameChar hasRare c then wordFrom? colons (text ++ [c]) rest
    else if c == ':' then
      let isInside := colons = 0 && rest.head?.any (isNameChar hasRare)
      wordFrom? (if isInside then 1 else 2) (text ++ [c]) rest
    else if ['?', '*', '+'].contains c && colons < 2 then some (.counted, rest)
    else if endsWord c then some (ofWord colons text, c :: rest)
    else none

/-- A quoted text after its opening mark. -/
def quotedFrom? (mark : Char) (cs : List Char) : Option (Token × List Char) :=
  let text := cs.takeWhile (· != mark)
  match cs.drop text.length with
  | _ :: next :: rest =>
    if text.all isAllowed && (isBlank next || ['>', '%', '['].contains next) then
      some (.quoted text, next :: rest)
    else none
  | _ => none

/-- A word after a hash sign. -/
def hashFrom? (cs : List Char) : Option (Token × List Char) := do
  let (text, rest) ← name? hasRare cs
  let next ← rest.head?
  if isBlank next || [')', '>', '%', '|'].contains next then
    return (.hash (String.ofList text), rest)
  else none

/-- A closing bracket after its sign. -/
def closingFrom? (cs : List Char) : Option (Token × List Char) :=
  match cs with
  | '*' :: rest => some (.closing .any, rest)
  | '?' :: rest | '+' :: rest => some (.closing .other, rest)
  | next :: _ =>
    if isBlank next || ['>', ',', '|', ')'].contains next then some (.closing .once, cs) else none
  | [] => none

/-- The next token, which does not begin with a blank. -/
def next? : List Char → Option (Token × List Char)
  | [] => none
  | c :: rest =>
    if c == '\x22' || c == '\x27' then quotedFrom? c rest
    else if c == '#' then hashFrom? hasRare rest
    else if c == '(' then some (.opening, rest)
    else if c == ')' then closingFrom? rest
    else if c == '|' then some (.bar, rest)
    else if c == ',' then some (.comma, rest)
    else if c == '%' then if rest.head?.any isBlank then some (.percent, rest) else none
    else if isNameStart hasRare c then wordFrom? hasRare 0 [c] rest
    else if isNameChar hasRare c || c == ':' then wordFrom? hasRare 2 [c] rest
    else none

/-- The tokens up to a bracket that ends a declaration or opens a subset, which is left. -/
def upTo? : Nat → List Char → Option (List Token × List Char)
  | 0, _ => none
  | fuel + 1, cs => match skipBlanks cs with
    | '>' :: rest => some ([], '>' :: rest)
    | '[' :: rest => some ([], '[' :: rest)
    | rest => do
      let (token, rest) ← next? hasRare rest
      let (tokens, rest) ← upTo? fuel rest
      return (token :: tokens, rest)

/-- The tokens of a declaration, which begins with a blank, and what follows its end. -/
def all? (cs : List Char) : Option (List Token × List Char) := do
  if !cs.head?.any isBlank then none
  let (tokens, rest) ← upTo? hasRare (cs.length + 1) cs
  let rest ← ['>'].isPrefixOf? rest
  return (tokens, rest)

end Next

end Token

end Bounty.Xml
