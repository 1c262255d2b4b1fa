import Bounty.Numeral
/-!
Which texts write down a value that a tag can carry: numbers, texts, names of constants, and
collections of these.
-/
namespace Bounty.Markup.Literal

def isBlank (c : Char) : Bool := c == ' ' || c == '\t' || c == '\x0c' || c == '\n'

def skip (cs : List Char) : List Char := cs.dropWhile isBlank

/-- Whether a character goes on with a name or a number. -/
def isWordChar (c : Char) : Bool := c.isAlphanum || c == '_' || 0x80 ≤ c.toNat

/-- What follows digits of a base, with single underscores between them. -/
def afterDigits? (base : Nat) : List Char → Option (List Char)
  | [] => none
  | [c] => if ((Numeral.hexValue? c).any (· < base)) then some [] else none
  | c :: '_' :: rest =>
    if (Numeral.hexValue? c).any (· < base) then afterDigits? base rest else none
  | c :: next :: rest =>
    if (Numeral.hexValue? c).any (· < base) then
      if (Numeral.hexValue? next).any (· < base) then afterDigits? base (next :: rest)
      else some (next :: rest)
    else none

/-- What follows a power of ten, if there is one. -/
def afterPower (cs : List Char) : Option (List Char) :=
  match cs with
  | e :: rest =>
    if e.toLower == 'e' then
      match afterDigits? 10 (Numeral.splitSign rest).2 with
      | some rest => some rest
      | none => none
    else some cs
  | [] => some []

/-- What follows the fraction and the power of a number, and whether it has one of them. -/
def afterFraction? (hasWhole : Bool) (cs : List Char) : Option (Bool × List Char) :=
  match cs with
  | '.' :: rest =>
    let inside := match afterDigits? 10 rest with
      | some after => some after
      | none =>
        if hasWhole && !rest.head?.any (fun (c : Char) => c.isDigit || c == '_') then some rest
        else none
    inside.bind fun rest => (afterPower rest).map (true, ·)
  | _ => (afterPower cs).map fun rest => (rest.length != cs.length, rest)

/-- What follows a number, and whether the number is imaginary. -/
def number? (cs : List Char) : Option (Bool × List Char) := do
  let base? := match cs with
    | '0' :: c :: _ => [('x', 16), ('o', 8), ('b', 2)].lookup c.toLower
    | _ => none
  match base? with
  | some base =>
    let digits := match cs.drop 2 with
      | '_' :: rest => rest
      | rest => rest
    let rest ← afterDigits? base digits
    if rest.head?.any isWordChar then none else return (false, rest)
  | none =>
    let whole := afterDigits? 10 cs
    let (hasPart, rest) ← afterFraction? whole.isSome (whole.getD cs)
    let digits := (cs.take (cs.length - (whole.getD cs).length)).filter (· != '_')
    let isPadded := digits.length > 1 && digits.head? == some '0' && digits.any (· != '0')
    let (isImaginary, rest) := match rest with
      | 'j' :: rest | 'J' :: rest => (true, rest)
      | rest => (false, rest)
    if whole.isNone && !hasPart then none
    else if !hasPart && !isImaginary && (isPadded || digits.length > Numeral.digitLimit) then none
    else if rest.head?.any isWordChar then none
    else return (isImaginary, rest)

/-- How many hexadecimal digits an escape needs. -/
def escapeLength (isBytes : Bool) : Char → Nat
  | 'x' => 2
  | 'u' => if isBytes then 0 else 4
  | 'U' => if isBytes then 0 else 8
  | _ => 0

/-- What follows a text up to its closing quotes. -/
def afterText? (isRaw isBytes : Bool) (quotes : List Char) : Nat → List Char → Option (List Char)
  | 0, _ => none
  | fuel + 1, cs =>
    match quotes.isPrefixOf? cs, cs with
    | some rest, _ => some rest
    | none, '\x5c' :: c :: rest =>
      let length := if isRaw then 0 else escapeLength isBytes c
      let digits := rest.take length
      if digits.length = length && digits.all (fun d => (Numeral.hexValue? d).isSome) &&
          !(c == 'N' && !isRaw && !isBytes) then
        afterText? isRaw isBytes quotes fuel rest
      else none
    | none, c :: rest =>
      if (c == '\n' && quotes.length = 1) || (isBytes && 0x80 ≤ c.toNat) then none
      else afterText? isRaw isBytes quotes fuel rest
    | none, [] => none

/-- The letters that may stand before a text: whether they make it raw, and whether bytes. -/
def textMarks : List (String × Bool × Bool) := [
  ("", false, false), ("u", false, false), ("r", true, false), ("b", false, true),
  ("br", true, true), ("rb", true, true)]

/-- What follows one text, and whether it holds bytes. -/
def text? (cs : List Char) : Option (Bool × List Char) := do
  let marks := (cs.takeWhile Char.isAlpha).map Char.toLower
  let (isRaw, isBytes) ← textMarks.lookup (String.ofList marks)
  let rest := cs.drop marks.length
  let mark ← rest.head?
  if mark == '\x22' || mark == '\x27' then
    let triple := [mark, mark, mark]
    let quotes := if triple.isPrefixOf rest then triple else [mark]
    let rest ← afterText? isRaw isBytes quotes (rest.length + 1) (rest.drop quotes.length)
    return (isBytes, rest)
  else none

/-- What follows texts in a row. They are all texts, or all bytes. -/
def texts? (isBytes : Bool) : Nat → List Char → Option (List Char)
  | 0, _ => none
  | fuel + 1, cs => match text? (skip cs) with
    | none => some cs
    | some (more, rest) => if more == isBytes then texts? isBytes fuel rest else none

/-- What follows a value that is no collection. -/
def simple? (cs : List Char) : Option (List Char) :=
  let word := cs.takeWhile isWordChar
  match text? cs with
  | some (isBytes, rest) => texts? isBytes (rest.length + 1) rest
  | none =>
    if ["None", "True", "False"].contains (String.ofList word) then some (cs.drop word.length)
    else match "...".toList.isPrefixOf? cs with
      | some rest => some rest
      | none => do
        let unsigned := match cs with
          | '+' :: rest | '-' :: rest => skip rest
          | _ => cs
        let (isImaginary, rest) ← number? unsigned
        match skip rest with
        | sign :: more =>
          if (sign == '+' || sign == '-') && !isImaginary then
            match number? (skip more) with
            | some (true, rest) => some rest
            | _ => none
          else some rest
        | [] => some rest

mutual

/-- What follows a value, and whether it can be a key. -/
def value? : Nat → List Char → Option (Bool × List Char)
  | 0, _ => none
  | fuel + 1, cs => match skip cs with
    | '(' :: rest => match skip rest with
      | ')' :: rest => some (true, rest)
      | _ => do
        let (isKey, rest) ← values? fuel rest
        let rest ← [')'].isPrefixOf? (skip rest)
        return (isKey, rest)
    | '\x7b' :: rest => match skip rest with
      | '\x7d' :: rest => some (false, rest)
      | _ => do
        let (isKey, after) ← value? fuel rest
        let rest ← match skip after with
          | ':' :: _ => members? fuel rest
          | _ => do
            let (areKeys, rest) ← values? fuel rest
            if areKeys then some rest else none
        let rest ← ['\x7d'].isPrefixOf? (skip rest)
        if isKey then return (false, rest) else none
    | 's' :: 'e' :: 't' :: rest => do
      let rest ← ['('].isPrefixOf? (skip rest)
      let rest ← [')'].isPrefixOf? (skip rest)
      return (false, rest)
    | rest => (simple? rest).map (true, ·)

/-- What follows values with commas between them, and whether all can be keys. -/
def values? : Nat → List Char → Option (Bool × List Char)
  | 0, _ => none
  | fuel + 1, cs => do
    let (isKey, rest) ← value? fuel cs
    match skip rest with
    | ',' :: rest => match skip rest with
      | ')' :: _ | '\x7d' :: _ | [] => return (isKey, rest)
      | _ => do
        let (areKeys, rest) ← values? fuel rest
        return (isKey && areKeys, rest)
    | _ => return (isKey, rest)

/-- What follows keys with their values. -/
def members? : Nat → List Char → Option (List Char)
  | 0, _ => none
  | fuel + 1, cs => do
    let (isKey, rest) ← value? fuel cs
    let rest ← [':'].isPrefixOf? (skip rest)
    let (_, rest) ← value? fuel rest
    if !isKey then none
    else match skip rest with
      | ',' :: rest => match skip rest with
        | '\x7d' :: _ => return rest
        | _ => members? fuel rest
      | _ => return rest

end

/-- Whether a text writes down a value, or some with commas between them. -/
def isLiteral (cs : List Char) : Bool :=
  match values? (2 * cs.length + 2) cs with
  | some (_, rest) => (skip rest).isEmpty
  | none => false

end Bounty.Markup.Literal
