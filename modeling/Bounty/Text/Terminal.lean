import Bounty.Text.Quoted
/-!
Lines for a terminal without colours: the sequences that set colours or move the cursor are left
out.
-/
namespace Bounty.Text

def escapeCharacter : Char := '\x1b'

/-- Whether a character goes on with a sequence that begins with `held`. -/
def continuesSequence (held : List Char) (c : Char) : Bool :=
  match held with
  | [] => c == escapeCharacter
  | [_] => c == '['
  | _ => c.isDigit || c == ';' || c == '?'

/-- Whether a character ends a sequence that begins with `held`. -/
def endsSequence (held : List Char) (c : Char) : Bool := held.length ≥ 2 && c.isAlpha

/-- The characters outside of sequences. What was held as the beginning of one is given back when it
does not become one. -/
def outsideSequences (held : List Char) : List Char → List Char
  | [] => held
  | c :: rest =>
    if continuesSequence held c then outsideSequences (held ++ [c]) rest
    else if endsSequence held c then outsideSequences [] rest
    else if c == escapeCharacter then held ++ outsideSequences [c] rest
    else held ++ c :: outsideSequences [] rest

def withoutSequences (line : String) : String := String.ofList (outsideSequences [] line.toList)

/-- A line with every half of a surrogate pair escaped by its code. -/
def escapeHalves (line : String) : String :=
  String.ofList ((points line.toList).flatMap fun point => match point with
    | .char c => [c]
    | .half code => codeEscape code)

end Bounty.Text
