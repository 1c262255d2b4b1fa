import Bounty.Text.Utf8
import Bounty.Xml.DocumentType
import Bounty.Xml.Namespace
/-!
Reading XML documents. Only elements and attributes are kept; text, comments and processing
instructions are checked and passed over.
-/
namespace Bounty.Xml

/-- The attributes up to the end of a tag. Blanks have to stand before each. -/
def attributesUpTo? (entities : Entities) :
    Nat → List (String × String) → List Char → Option (List (String × String) × List Char)
  | 0, _, _ => none
  | fuel + 1, found, cs => match skipBlanks cs with
    | '>' :: rest => some (found.reverse, '>' :: rest)
    | '/' :: rest => some (found.reverse, '/' :: rest)
    | rest => do
      if !(cs.head?.any isBlank) then none
      else do
        let (name, rest) ← qualifiedName? entities.hasRare rest
        let rest ← equals? rest
        let (text, rest) ← quotedText? rest
        let value ← attributeValue? (entities.size + text.length + 1) entities text
        let name := String.ofList name
        if (found.lookup name).isSome then none
        else attributesUpTo? entities fuel ((name, String.ofList value) :: found) rest

/-- What follows an end tag with the given name, after its opening. -/
def afterEndTag? (name : List Char) (cs : List Char) : Option (List Char) := do
  let rest ← name.isPrefixOf? cs
  ['>'].isPrefixOf? (skipBlanks rest)

mutual

/-- An element after its opening bracket. -/
def element? : Nat → DocumentType → List Char → Option (Element × List Char)
  | 0, _, _ => none
  | fuel + 1, type, cs => do
    let (name, rest) ← qualifiedName? type.entities.hasRare cs
    let (attributes, rest) ← attributesUpTo? type.entities (rest.length + 1) [] rest
    let attributes := type.complete (String.ofList name) attributes
    match rest with
    | '/' :: '>' :: rest => return (⟨String.ofList name, attributes, []⟩, rest)
    | '>' :: rest => do
      let (children, rest) ← content? fuel type [] rest
      let rest ← ['<', '/'].isPrefixOf? rest
      let rest ← afterEndTag? name rest
      return (⟨String.ofList name, attributes, children⟩, rest)
    | _ => none

/-- The elements of some content, up to an end tag or the end. -/
def content? : Nat → DocumentType → List Element → List Char → Option (List Element × List Char)
  | 0, _, _, _ => none
  | fuel + 1, type, found, cs => match cs with
    | [] => some (found.reverse, [])
    | '<' :: '/' :: rest => some (found.reverse, '<' :: '/' :: rest)
    | '<' :: '!' :: '-' :: '-' :: rest => do
      let rest ← afterComment? rest
      content? fuel type found rest
    | '<' :: '!' :: rest => do
      let rest ← "[CDATA[".toList.isPrefixOf? rest
      let rest ← after? "]]>".toList rest
      content? fuel type found rest
    | '<' :: '?' :: rest => do
      let rest ← afterInstruction? type.entities.hasRare rest
      content? fuel type found rest
    | '<' :: rest => do
      let (e, rest) ← element? fuel type rest
      content? fuel type (e :: found) rest
    | '&' :: rest => do
      let (r, rest) ← reference? type.entities.hasRare rest
      match r with
      | .char _ => content? fuel type found rest
      | .entity name =>
        if (predefined? name).isSome then content? fuel type found rest
        else do
          let text ← type.entities.text? name
          let (inner, left) ← content? fuel (type.without name) [] text
          if left.isEmpty then content? fuel type (inner.reverse ++ found) rest
          else none
    | ']' :: ']' :: '>' :: _ => none
    | c :: rest => if isAllowed c then content? fuel type found rest else none

end

section Document

variable (hasRare : Bool)

/-- What follows any blanks, comments and processing instructions. -/
def afterMisc? : Nat → List Char → Option (List Char)
  | 0, _ => none
  | fuel + 1, cs => match skipBlanks cs with
    | '<' :: '!' :: '-' :: '-' :: rest => do
      let rest ← afterComment? rest
      afterMisc? fuel rest
    | '<' :: '?' :: rest => do
      let rest ← afterInstruction? hasRare rest
      afterMisc? fuel rest
    | rest => some rest

/-- A quoted value of the XML declaration after its name, with blanks in front of the name. -/
def pseudoAttribute? (name : String) (cs : List Char) : Option (List Char × List Char) := do
  if !(cs.head?.any isBlank) then none
  else do
    let rest ← name.toList.isPrefixOf? (skipBlanks cs)
    let rest ← equals? rest
    quotedText? rest

/-- A value of the XML declaration that may be left out. -/
def optionalAttribute (name : String) (cs : List Char) : Option (List Char) × List Char :=
  match pseudoAttribute? name cs with
  | some (value, rest) => (some value, rest)
  | none => (none, cs)

def isVersionChar (c : Char) : Bool :=
  c.isAlphanum || c == '.' || c == '_' || c == '-'

/-- What a document says of itself in front of everything else. -/
structure Declaration where
  encoding : Option String
  /-- Whether nothing in another file counts. -/
  standalone : Bool

/-- The declaration, if there is one, and what follows it. -/
def declaration? (cs : List Char) : Option (Declaration × List Char) :=
  match "<?xml".toList.isPrefixOf? cs with
  | none => some (⟨none, false⟩, cs)
  | some rest =>
    if !(rest.head?.any isBlank) then
      -- A longer name makes it a processing instruction.
      if rest.head?.any (isNameChar hasRare) then some (⟨none, false⟩, cs) else none
    else do
      let (version, rest) ← pseudoAttribute? "version" rest
      let (encoding, rest) := optionalAttribute "encoding" rest
      let (standalone, rest) := optionalAttribute "standalone" rest
      let rest ← ['?', '>'].isPrefixOf? (skipBlanks rest)
      if !version.all isVersionChar then none
      else if !(standalone.all fun s => s == "yes".toList || s == "no".toList) then none
      else if !(encoding.all fun e => e.all isVersionChar && e.head?.any Char.isAlpha) then none
      else return (⟨encoding.map String.ofList, standalone == some "yes".toList⟩, rest)

/-- The document type, if there is one, and what follows it. -/
def prologue? (fuel : Nat) (standalone : Bool) (cs : List Char) :
    Option (DocumentType × List Char) :=
  match "<!DOCTYPE".toList.isPrefixOf? cs with
  | none => some (.empty hasRare, cs)
  | some rest => do
    let (type, rest) ← doctype? hasRare standalone rest
    let rest ← afterMisc? hasRare fuel rest
    return (type, rest)

/-- The root element of a document without its declaration. -/
def root? (standalone : Bool) (cs : List Char) : Option Element := do
  let fuel := 2 * cs.length + 2
  let rest ← afterMisc? hasRare fuel cs
  let (type, rest) ← prologue? hasRare fuel standalone rest
  let rest ← ['<'].isPrefixOf? rest
  let (e, rest) ← element? fuel type rest
  let rest ← afterMisc? hasRare fuel rest
  if rest.isEmpty then resolve? rootScope e else none

/-- Reads a document whose characters are known; the encoding that it names is ignored. -/
def document? (s : String) : Option Element := do
  let (declaration, rest) ← declaration? hasRare (Text.unifyLines s.toList)
  root? hasRare declaration.standalone rest

end Document

/-- Reads a document that may have a mark at its front. -/
def read? (s : String) : Option Element :=
  document? false (if s.startsWith "\uFEFF" then String.ofList (s.toList.drop 1) else s)

end Bounty.Xml
