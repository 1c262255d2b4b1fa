import Bounty.Numeral
import Bounty.Xml.Name
/-!
References to characters and to entities, and the values of attributes.
-/
namespace Bounty.Xml

/-- The entities that a document may refer to. -/
structure Entities where
  /-- Each with its text, or without one where the text stands in another file. -/
  declared : List (String × Option (List Char))
  /-- Whether others may be declared in another file. -/
  isOpen : Bool
  /-- Whether names may hold rare letters. -/
  hasRare : Bool

namespace Entities

def text? (entities : Entities) (name : String) : Option (List Char) :=
  (entities.declared.lookup name).join

/-- The entities while the text of one of them is read: it may not contain itself, and names in it
hold no rare letters. -/
def without (entities : Entities) (name : String) : Entities :=
  { entities with declared := (name, none) :: entities.declared, hasRare := false }

/-- Declares an entity. The first declaration counts. -/
def declare (entities : Entities) (name : String) (text : Option (List Char)) : Entities :=
  { entities with declared := entities.declared ++ [(name, text)] }

/-- The length of all texts together. -/
def size (entities : Entities) : Nat :=
  entities.declared.foldl (fun total entity => total + (entity.2.getD []).length + 1) 0

end Entities

inductive Reference where
  | char (c : Char)
  | entity (name : String)

/-- The character with a number, if it may stand in a document. -/
def charOf? (n : Nat) : Option Char :=
  let c := Char.ofNat n
  if c.toNat == n && isAllowed c then some c else none

/-- A reference after its ampersand. -/
def reference? (hasRare : Bool) (cs : List Char) : Option (Reference × List Char) := do
  match cs with
  | '#' :: rest =>
    let (base, rest) := match rest with
      | 'x' :: rest => (16, rest)
      | rest => (10, rest)
    let digits := rest.takeWhile (· != ';')
    match rest.drop digits.length with
    | ';' :: rest => do
      let n ← Numeral.ofDigits? base digits
      let c ← charOf? n
      return (.char c, rest)
    | _ => none
  | _ =>
    let (name, rest) ← name? hasRare cs
    match rest with
    | ';' :: rest => return (.entity (String.ofList name), rest)
    | _ => none

/-- The entities that need no declaration. -/
def predefined? : String → Option Char
  | "lt" => some '<'
  | "gt" => some '>'
  | "amp" => some '&'
  | "quot" => some '\x22'
  | "apos" => some '\x27'
  | _ => none

/-- The value of an attribute from its text between the quotes. White space becomes blanks, entities
are replaced, and an entity may not contain itself. One that may be declared elsewhere is left out.
-/
def attributeValue? : Nat → Entities → List Char → Option (List Char)
  | 0, _, _ => none
  | fuel + 1, entities, cs => match cs with
    | [] => some []
    | '<' :: _ => none
    | '&' :: rest => do
      let (r, rest) ← reference? entities.hasRare rest
      let value ← match r with
        | .char c => some [c]
        | .entity name => match predefined? name with
          | some c => some [c]
          | none => match entities.declared.lookup name with
            | none => if entities.isOpen then some [] else none
            | some text => do
              let text ← text
              attributeValue? fuel (entities.without name) text
      let others ← attributeValue? fuel entities rest
      return value ++ others
    | c :: rest =>
      if isBlank c then (attributeValue? fuel entities rest).map (' ' :: ·)
      else if isAllowed c then (attributeValue? fuel entities rest).map (c :: ·)
      else none

/-- The text of an entity from its declaration: only references to characters are replaced. -/
def entityText? (hasRare : Bool) : Nat → List Char → Option (List Char)
  | 0, _ => none
  | fuel + 1, cs => match cs with
    | [] => some []
    | '%' :: _ => none
    | '&' :: rest => do
      let (r, rest) ← reference? hasRare rest
      let value := match r with
        | .char c => [c]
        | .entity name => '&' :: name.toList ++ [';']
      let others ← entityText? hasRare fuel rest
      return value ++ others
    | c :: rest => if isAllowed c then (entityText? hasRare fuel rest).map (c :: ·) else none

end Bounty.Xml
