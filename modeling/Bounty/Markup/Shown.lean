import Bounty.Emoji
import Bounty.Markup
import Bounty.Markup.Literal
import Bounty.Markup.Style
/-!
What is shown of a label: its text without tags, with emoji in place of their codes. A tag names a
style, which has an effect up to the tag that closes it, and may carry a value after an equals sign.
-/
namespace Bounty.Markup

/-- Why a label cannot be shown. -/
inductive Fault where
  /-- A closing tag has nothing to close. -/
  | nothingToClose
  /-- A tag carries a value that cannot be read. -/
  | badValue
  /-- A part of a colour should be a number and is none. -/
  | noNumber
deriving DecidableEq, Repr

def Fault.message : Fault → String
  | .nothingToClose => "a closing tag has nothing to close"
  | .badValue => "a tag carries a value that cannot be read"
  | .noNumber => "a colour has a part that is no number"

/-- A run of plain text, or a tag. -/
inductive Run where
  | plain (cs : List Char)
  | tag (name : List Char)
deriving DecidableEq, Repr

/-- The runs in some pieces; a seam ends a run. -/
def runs : List Piece → List Run
  | [] => []
  | .plain c :: .plain d :: rest => match runs (.plain d :: rest) with
    | .plain cs :: others => .plain (c :: cs) :: others
    | others => .plain [c] :: others
  | .plain c :: rest => .plain [c] :: runs rest
  | .tag name :: rest => .tag name :: runs rest
  | .seam :: rest => runs rest

/-- Controls that are never shown: bell, backspace, vertical tab, form feed, carriage return. -/
def isHidden (c : Char) : Bool := [0x07, 0x08, 0x0B, 0x0C, 0x0D].contains c.toNat

/-- What is shown of a run of plain text. -/
def shownText (cs : List Char) : List Char := (Emoji.expand cs).filter fun c => !isHidden c

/-- A tag that has not been closed. -/
structure Opened where
  name : String
  value : Option (List Char)
  /-- What has been shown before it. -/
  start : Nat
deriving DecidableEq, Repr

/-- Whether the style of a tag with its value has a colour with a part that is no number. -/
def Opened.isFaulty (o : Opened) : Bool :=
  let words := match o.value with
    | some value => o.name.toList ++ ' ' :: value
    | none => o.name.toList
  match normalStyle words with
  | .error _ => true
  | .ok _ => false

/-- Whether a tag carries data and no style. -/
def Opened.isData (o : Opened) : Bool := o.name.startsWith "@"

def isNameChar (c : Char) : Bool := Literal.isWordChar c || c == '.'

/-- Whether the value of a tag with data can be read: it is a name with values in brackets, or only
one of these, or any other literal. -/
def isData (value : List Char) : Bool :=
  let value := Text.trim Text.isBlank value
  match value.dropWhile isNameChar with
  | [] => true
  | '(' :: rest =>
    let isClosed := rest.getLast? == some ')' && !rest.contains '\n'
    Literal.isLiteral (if isClosed then '(' :: rest else value)
  | _ => Literal.isLiteral value

/-- How far a label has been read. -/
structure Progress where
  shown : List Char
  /-- The tags to close, the latest first. -/
  opened : List Opened
  /-- From where to where a faulty style has an effect. -/
  faulty : List (Nat × Nat)

/-- Ends the effect of a tag. -/
def Progress.close (p : Progress) (o : Opened) : Except Fault Progress :=
  if o.isData then
    if o.value.any fun value => !value.isEmpty && !isData value then .error .badValue else .ok p
  else if o.isFaulty then .ok { p with faulty := (o.start, p.shown.length) :: p.faulty }
  else .ok p

/-- The form of a style in which tags compare it. -/
def tagName (cs : List Char) : Except Fault String := match normalStyle cs with
  | .ok name => .ok name
  | .error _ => .error .noNumber

/-- Reads a run. -/
def Progress.step (p : Progress) : Run → Except Fault Progress
  | .plain cs => .ok { p with shown := p.shown ++ shownText cs }
  | .tag cs => match cs.takeWhile (· != '=') with
    | '/' :: closed => match Text.trim Text.isBlank closed, p.opened with
      | [], [] => .error .nothingToClose
      | [], o :: opened => Progress.close { p with opened } o
      | closed, opened => do
        let name ← tagName closed
        match opened.find? (·.name == name) with
        | none => .error .nothingToClose
        | some o => Progress.close { p with opened := opened.eraseP (·.name == name) } o
    | name => do
      let value := (cs.drop name.length).tail?
      let o : Opened := ⟨← tagName name, value, p.shown.length⟩
      return { p with opened := o :: p.opened }

/-- The stretches in which faulty styles have an effect at the end of a label. -/
def Progress.allFaulty (p : Progress) : List (Nat × Nat) :=
  p.faulty ++ (p.opened.filter (·.isFaulty)).map fun o => (o.start, p.shown.length)

/-- Whether a faulty style is of consequence: some text that is not the end of a line is under it,
or the label is one line without tabs. -/
def Progress.matters (p : Progress) : Bool :=
  let isSimple := p.shown.all fun c => c != '\n' && c != '\t'
  p.allFaulty.any fun (start, stop) =>
    isSimple || ((p.shown.drop start).take (stop - start)).any (· != '\n')

/-- What is shown of a label. -/
def shown (s : String) : Except Fault String := do
  let p ← (runs (pieces s)).foldlM Progress.step ⟨[], [], []⟩
  if p.matters then .error .noNumber else return String.ofList p.shown

end Bounty.Markup
