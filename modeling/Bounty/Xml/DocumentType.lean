import Bounty.Xml.Reference
import Bounty.Xml.Token
/-!
Document types: the entities that are declared in a document, and the attributes that its elements
have by default. Files that a document type refers to are not read.
-/
namespace Bounty.Xml

/-- What is declared about one attribute of one kind of element. -/
structure AttributeRule where
  element : String
  key : String
  /-- Whether the value is a list of words, so that only single blanks between them count. -/
  isWords : Bool
  default : Option String

structure DocumentType where
  entities : Entities
  rules : List AttributeRule
  /-- Whether declarations still count. -/
  isFollowed : Bool

/-- The words of a value with single blanks between them. -/
def singleBlanks (value : String) : String :=
  " ".intercalate ((value.splitOn " ").filter (· != ""))

namespace DocumentType

/-- The document type of a document that has none. -/
def empty (hasRare : Bool) : DocumentType := ⟨⟨[], false, hasRare⟩, [], true⟩

def without (type : DocumentType) (name : String) : DocumentType :=
  { type with entities := type.entities.without name }

def declareEntity (type : DocumentType) (name : String) (text : Option (List Char)) :
    DocumentType :=
  { type with entities := type.entities.declare name text }

/-- Declares an attribute. The first declaration counts. -/
def declare (type : DocumentType) (rule : AttributeRule) : DocumentType :=
  if type.rules.any fun r => r.element == rule.element && r.key == rule.key then type
  else { type with rules := type.rules ++ [rule] }

/-- The attributes of an element together with those that it has by default. -/
def complete (type : DocumentType) (element : String) (attributes : List (String × String)) :
    List (String × String) :=
  let rules := type.rules.filter (·.element == element)
  let isWords (key : String) : Bool := rules.any fun r => r.key == key && r.isWords
  let own := attributes.map fun (key, value) =>
    (key, if isWords key then singleBlanks value else value)
  let others := rules.filterMap fun r =>
    if (attributes.lookup r.key).isSome then none
    else r.default.map fun value => (r.key, if r.isWords then singleBlanks value else value)
  own ++ others

end DocumentType

/-- A character that may stand in a public name. -/
def isPublicChar (c : Char) : Bool :=
  c.isAlphanum || " \r\n-'()+,./:=?;!*#@$_%".toList.contains c

/-- What follows the place of another file: its address alone, or a public name and its address. -/
def afterPlace? : List Token → Option (List Token)
  | .name "SYSTEM" :: .quoted _ :: rest => some rest
  | .name "PUBLIC" :: .quoted text :: .quoted _ :: rest =>
    if text.all isPublicChar then some rest else none
  | _ => none

/-- Whether tokens are the value of an entity and not a text: the place of another file. -/
def isElsewhere (isParameter : Bool) (tokens : List Token) : Bool :=
  match afterPlace? tokens with
  | some [] => true
  | some [.name "NDATA", .name _] => !isParameter
  | _ => false

namespace DocumentType

/-- The text of an entity that is declared in a document. -/
def entityText? (type : DocumentType) (text : List Char) : Option (List Char) :=
  Xml.entityText? type.entities.hasRare (text.length + 1) text

/-- A declaration of an entity. -/
def entity? (type : DocumentType) : List Token → Option DocumentType
  | [.percent, .name _, .quoted text] =>
    if type.isFollowed then (type.entityText? text).map fun _ => type else some type
  | .percent :: .name _ :: value => if isElsewhere true value then some type else none
  | [.name name, .quoted text] =>
    if type.isFollowed then
      (type.entityText? text).map fun text => type.declareEntity name (some text)
    else some type
  | .name name :: value =>
    if isElsewhere false value then
      some (if type.isFollowed then type.declareEntity name none else type)
    else none
  | _ => none

end DocumentType

/-- Whether tokens are words between bars up to a closing bracket, and what follows. -/
def afterChoices? (isChoice : Token → Bool) : List Token → Option (List Token)
  | word :: .bar :: rest => if isChoice word then afterChoices? isChoice rest else none
  | word :: .closing .once :: rest => if isChoice word then some rest else none
  | _ => none

/-- The types of values that are lists of words. -/
def wordTypes : List String :=
  ["ID", "IDREF", "IDREFS", "ENTITY", "ENTITIES", "NMTOKEN", "NMTOKENS"]

/-- The type of an attribute: whether it is a list of words. -/
def attributeType? : List Token → Option (Bool × List Token)
  | .name "CDATA" :: rest => some (false, rest)
  | .name "NOTATION" :: .opening :: rest =>
    (afterChoices? (fun t => t matches .name _) rest).map (true, ·)
  | .name type :: rest => if wordTypes.contains type then some (true, rest) else none
  | .opening :: rest =>
    (afterChoices? (fun t => t matches .name _ | .prefixed _ | .word _) rest).map (true, ·)
  | _ => none

/-- The default of an attribute, if it has one. -/
def attributeDefault? : List Token → Option (Option (List Char) × List Token)
  | .hash "REQUIRED" :: rest | .hash "IMPLIED" :: rest => some (none, rest)
  | .hash "FIXED" :: .quoted text :: rest | .quoted text :: rest => some (some text, rest)
  | _ => none

namespace DocumentType

/-- Declares an attribute with a default that is not read yet. -/
def attribute? (type : DocumentType) (element key : String) (isWords : Bool) :
    Option (List Char) → Option DocumentType
  | none => some (type.declare ⟨element, key, isWords, none⟩)
  | some text =>
    (attributeValue? (type.entities.size + text.length + 1) type.entities text).map fun value =>
      type.declare ⟨element, key, isWords, some (String.ofList value)⟩

/-- The declarations of attributes of an element. -/
def attributes? (element : String) : Nat → DocumentType → List Token → Option DocumentType
  | _, type, [] => some type
  | 0, _, _ => none
  | fuel + 1, type, key :: rest => do
    let key ← match key with
      | .name key | .prefixed key => some key
      | _ => none
    let (isWords, rest) ← attributeType? rest
    let (default, rest) ← attributeDefault? rest
    let type ← if type.isFollowed then type.attribute? element key isWords default else some type
    attributes? element fuel type rest

end DocumentType

/-- Whether tokens are groups of parts, inside of `opened` groups with the sign that links the parts
of each. A part has to come next if `wantsPart`. -/
def isGroups (wantsPart : Bool) (opened : List (Option Token)) : List Token → Bool
  | [] => !wantsPart && opened.isEmpty
  | token :: rest => match opened with
    | [] => false
    | sign :: outer => match token with
      | .opening => wantsPart && isGroups true (none :: opened) rest
      | .name _ | .prefixed _ | .counted => wantsPart && isGroups false opened rest
      | .closing _ => !wantsPart && isGroups false outer rest
      | .bar | .comma =>
        !wantsPart && sign.all (· == token) && isGroups true (some token :: outer) rest
      | _ => false

/-- Whether tokens are names of elements between bars in brackets that may occur any number of
times. -/
def isMixed : List Token → Bool
  | [.closing .any] => true
  | .bar :: .name _ :: rest | .bar :: .prefixed _ :: rest => isMixed rest
  | _ => false

/-- Whether tokens tell what an element may contain. -/
def isContent : List Token → Bool
  | [.name "EMPTY"] | [.name "ANY"] => true
  | .opening :: .hash "PCDATA" :: rest => rest == [.closing .once] || isMixed rest
  | .opening :: rest => isGroups true [none] rest
  | _ => false

/-- Whether tokens declare a notation. -/
def isNotation : List Token → Bool
  | [.name _, .name "SYSTEM", .quoted _] => true
  | [.name _, .name "PUBLIC", .quoted text] | [.name _, .name "PUBLIC", .quoted text, .quoted _] =>
    text.all isPublicChar
  | _ => false

namespace DocumentType

/-- A declaration by the word that opens it. -/
def declaration? (type : DocumentType) (word : String) (tokens : List Token) :
    Option DocumentType :=
  match word, tokens with
  | "ENTITY", tokens => type.entity? tokens
  | "ATTLIST", .name element :: rest | "ATTLIST", .prefixed element :: rest =>
    attributes? element rest.length type rest
  | "ELEMENT", .name _ :: rest | "ELEMENT", .prefixed _ :: rest =>
    if isContent rest then some type else none
  | "NOTATION", tokens => if isNotation tokens then some type else none
  | _, _ => none

/-- The document type after a reference to parameters, which stands for declarations in another
file. Unless nothing in another file counts, later declarations may not be the first ones, and are
not followed. -/
def afterParameters (type : DocumentType) (standalone : Bool) : DocumentType :=
  if standalone then type
  else { type with entities.isOpen := true, isFollowed := false }

end DocumentType

/-- The declarations inside a document type, up to the closing bracket. -/
def subset? (standalone : Bool) : Nat → DocumentType → List Char → Option (DocumentType × List Char)
  | 0, _, _ => none
  | fuel + 1, type, cs => match skipBlanks cs with
    | ']' :: rest => some (type, rest)
    | '%' :: rest => do
      let (_, rest) ← name? type.entities.hasRare rest
      let rest ← [';'].isPrefixOf? rest
      subset? standalone fuel (type.afterParameters standalone) rest
    | '<' :: '!' :: '-' :: '-' :: rest => do
      let rest ← afterComment? rest
      subset? standalone fuel type rest
    | '<' :: '?' :: rest => do
      let rest ← afterInstruction? type.entities.hasRare rest
      subset? standalone fuel type rest
    | '<' :: '!' :: rest => do
      let word := rest.takeWhile Char.isUpper
      let (tokens, rest) ← Token.all? type.entities.hasRare (rest.drop word.length)
      let type ← type.declaration? (String.ofList word) tokens
      subset? standalone fuel type rest
    | _ => none

/-- Whether a document type has a part in another file, from the tokens after its name. -/
def isShared? : List Token → Option Bool
  | [] => some false
  | tokens => if afterPlace? tokens == some [] then some true else none

/-- A document type after its opening, and what follows it. -/
def doctype? (hasRare standalone : Bool) (cs : List Char) : Option (DocumentType × List Char) := do
  if !cs.head?.any isBlank then none
  let (tokens, rest) ← Token.upTo? hasRare (cs.length + 1) cs
  let isShared ← match tokens with
    | .name _ :: place | .prefixed _ :: place => isShared? place
    | _ => none
  let type : DocumentType := ⟨⟨[], isShared && !standalone, hasRare⟩, [], true⟩
  match rest with
  | '[' :: rest => do
    let (type, rest) ← subset? standalone (rest.length + 1) type rest
    let rest ← ['>'].isPrefixOf? (skipBlanks rest)
    return (type, rest)
  | rest => return (type, rest.drop 1)

end Bounty.Xml
