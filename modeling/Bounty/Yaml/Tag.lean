import Bounty.Yaml.Timestamp
/-!
Tags tell what sort of value a node stands for. A plain text has its tag by its form.
-/
namespace Bounty.Yaml

inductive Tag where
  | null
  | bool
  | int
  | float
  | binary
  | timestamp
  | str
  | seq
  | map
  | omap
  | pairs
  | set
  | merge
  | value
  | unknown
deriving DecidableEq, Repr

namespace Tag

/-- What the names of all tags start with. -/
def namePrefix : String := "tag:yaml.org,2002:"

def names : List (String × Tag) := [
  ("null", null), ("bool", bool), ("int", int), ("float", float), ("binary", binary),
  ("timestamp", timestamp), ("str", str), ("seq", seq), ("map", map), ("omap", omap),
  ("pairs", pairs), ("set", set), ("merge", merge), ("value", value)]

def ofName (name : String) : Tag :=
  if name.startsWith namePrefix then
    (names.lookup (name.drop namePrefix.length).toString).getD unknown
  else unknown

def trueWords : List String := ["yes", "true", "on"]

def falseWords : List String := ["no", "false", "off"]

/-- The three spellings of a word: lower case, capitalised, upper case. -/
def spellings (word : String) : List String :=
  let cs := word.toList
  [word, String.ofList (cs.take 1 |>.map Char.toUpper) ++ String.ofList (cs.drop 1),
    String.ofList (cs.map Char.toUpper)]

def isSpellingOf (words : List String) (s : String) : Bool :=
  words.any fun word => (spellings word).contains s

def isDigitOrBar (c : Char) : Bool := c.isDigit || c == '_'

/-- Two digits below sixty, or one. -/
def isSixtieth : List Char → Bool
  | [a] => a.isDigit
  | [a, b] => '0' ≤ a && a ≤ '5' && b.isDigit
  | _ => false

/-- A decimal digit and more of them or underscores. -/
def isWhole : List Char → Bool
  | c :: rest => c.isDigit && rest.all isDigitOrBar
  | [] => false

def isNonzeroWhole : List Char → Bool
  | c :: rest => c != '0' && isWhole (c :: rest)
  | [] => false

def isHexDigit (c : Char) : Bool :=
  c.isDigit || ('a' ≤ c && c ≤ 'f') || ('A' ≤ c && c ≤ 'F')

/-- Whether a text without its sign has the form of an integer. -/
def isInteger (cs : List Char) : Bool :=
  match cs with
  | '0' :: 'b' :: rest => !rest.isEmpty && rest.all fun c => c == '0' || c == '1' || c == '_'
  | '0' :: 'x' :: rest => !rest.isEmpty && rest.all fun c => isHexDigit c || c == '_'
  | '0' :: rest => rest.all fun c => ('0' ≤ c && c ≤ '7') || c == '_'
  | _ => match cs.splitOn ':' with
    | whole :: others => isNonzeroWhole whole && others.all isSixtieth
    | [] => false

/-- A power of ten with its sign, or nothing at all. -/
def isPower : List Char → Bool
  | [] => true
  | e :: sign :: rest =>
    (e == 'e' || e == 'E') && (sign == '-' || sign == '+') && !rest.isEmpty && rest.all Char.isDigit
  | _ => false

/-- The digits and underscores of a fraction, and then a power of ten. -/
def isFraction (cs : List Char) : Bool := isPower (cs.dropWhile isDigitOrBar)

/-- Whether a text, with its sign apart, has the form of a decimal. -/
def isDecimal (signed : Bool) (cs : List Char) : Bool :=
  match cs with
  | '.' :: rest =>
    (spellings "inf").contains (String.ofList rest) ||
      (!signed && (["nan", "NaN", "NAN"].contains (String.ofList rest) ||
        (rest.head?.any Char.isDigit && isFraction rest)))
  | _ =>
    let whole := cs.takeWhile (· != '.')
    match cs.drop whole.length with
    | '.' :: rest => match whole.splitOn ':' with
      | [whole] => isWhole whole && isFraction rest
      | whole :: others => isWhole whole && others.all isSixtieth && rest.all isDigitOrBar
      | [] => false
    | _ => false

/-- The tag of a plain text on one line. -/
def ofLine (s : String) : Tag :=
  let (signed, unsigned) := match s.toList with
    | '-' :: rest | '+' :: rest => (true, rest)
    | rest => (false, rest)
  if isSpellingOf (trueWords ++ falseWords) s then bool
  else if isDecimal signed unsigned then float
  else if isInteger unsigned then int
  else if s == "<<" then merge
  else if s.isEmpty || s == "~" || isSpellingOf ["null"] s then null
  else if Timestamp.isPlain s.toList then timestamp
  else if s == "=" then value
  else if s == "!" || s == "&" || s == "*" then unknown
  else str

/-- The tag of a plain text. A line end after it makes no difference, unless there is nothing else.
-/
def ofPlain (s : String) : Tag :=
  if s == "\n" then str
  else match s.toList.getLast? with
    | some '\n' => ofLine (String.ofList s.toList.dropLast)
    | _ => ofLine s

end Tag

end Bounty.Yaml
