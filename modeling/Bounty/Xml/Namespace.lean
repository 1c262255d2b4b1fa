import Bounty.Element
import Bounty.Xml.Name
/-!
Namespaces: a prefix stands for the address that the nearest declaration binds it to. Expanded names
carry the address in braces in front.
-/
namespace Bounty.Xml

/-- The address that the prefix `xml` always stands for. -/
def xmlAddress : String := "http://www.w3.org/XML/1998/namespace"

/-- The address of declarations themselves. -/
def xmlnsAddress : String := "http://www.w3.org/2000/xmlns/"

/-- The bindings in force, the nearest one first. The empty prefix is the default. -/
abbrev Scope := List (String × String)

def rootScope : Scope := [("xml", xmlAddress)]

/-- Splits a qualified name at its colon. -/
def splitName (s : String) : String × String :=
  let cs := s.toList
  let first := cs.takeWhile (· != ':')
  match cs.drop first.length with
  | ':' :: rest => (String.ofList first, String.ofList rest)
  | _ => ("", s)

/-- The prefix that an attribute declares, if it is a declaration. -/
def declared? (key : String) : Option String :=
  if key == "xmlns" then some ""
  else match splitName key with
    | ("xmlns", name) => some name
    | _ => none

/-- Whether a prefix may be bound to an address. -/
def isBinding (pre address : String) : Bool :=
  pre != "xmlns" && address != xmlnsAddress && !address.toList.contains '\x7d' &&
    (if pre == "xml" then address == xmlAddress else address != xmlAddress) &&
    (pre == "" || address != "")

/-- The scope inside an element with the given attributes. -/
def extend? (scope : Scope) : List (String × String) → Option Scope
  | [] => some scope
  | (key, address) :: rest => match declared? key with
    | none => extend? scope rest
    | some pre => if isBinding pre address then extend? ((pre, address) :: scope) rest else none

def expanded (address name : String) : String := "\x7b" ++ address ++ "\x7d" ++ name

/-- The expanded name of an element. -/
def elementName? (scope : Scope) (qualified : String) : Option String :=
  let (pre, name) := splitName qualified
  match scope.lookup pre with
  | some "" => some name
  | some address => some (expanded address name)
  | none => if pre == "" then some name else none

/-- The expanded name of an attribute; the default does not count here. -/
def attributeName? (scope : Scope) (qualified : String) : Option String :=
  let (pre, name) := splitName qualified
  if pre == "" then some name
  else (scope.lookup pre).map fun address => expanded address name

/-- The attributes that are no declarations, with their expanded names. -/
def attributes? (scope : Scope) : List (String × String) → Option (List (String × String))
  | [] => some []
  | (key, value) :: rest =>
    if (declared? key).isSome then attributes? scope rest
    else do
      let name ← attributeName? scope key
      let others ← attributes? scope rest
      if (others.lookup name).isSome then none
      else return (name, value) :: others

mutual

/-- The element with all its names expanded, if every prefix in it is bound. -/
def resolve? (scope : Scope) : Element → Option Element
  | ⟨name, attributes, children⟩ => do
    let inner ← extend? scope attributes
    let name ← elementName? inner name
    let attributes ← attributes? inner attributes
    let children ← resolveAll? inner children
    return ⟨name, attributes, children⟩

def resolveAll? (scope : Scope) : List Element → Option (List Element)
  | [] => some []
  | e :: rest => do
    let e ← resolve? scope e
    let es ← resolveAll? scope rest
    return e :: es

end

end Bounty.Xml
