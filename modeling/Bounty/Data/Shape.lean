import Bounty.Data.Display
import Bounty.Element
/-!
Elements written as data. An element is a mapping with one key, its name. The body under it is
nothing at all, the list of the children, or a mapping whose scalars are the attributes and whose
key `children` holds the children.
-/
namespace Bounty

/-- Why data is not an element. -/
inductive ShapeFault where
  /-- There is something else, which messages show in this form. -/
  | notElement (shown : String)
  | attributeNotScalar (key name : Scalar)
  | invalidBody (name : Scalar)
  /-- Children that are neither a list nor nothing; `type` is the sort of value that they are. -/
  | notChildren (type : String)
  | tooLongToWrite
deriving Repr

def ShapeFault.message : ShapeFault → String
  | .notElement shown => "element must be a single-key mapping, got " ++ shown
  | .attributeNotScalar key name => s!"attribute '{key.write}' of <{name.write}> must be a scalar"
  | .invalidBody name => s!"body of <{name.write}> must be null, a list or a mapping"
  | .notChildren type => s!"'{type}' object is not iterable"
  | .tooLongToWrite => Numeral.tooLongToWrite

namespace Data

mutual

/-- Whether every integer can be written. -/
def isWritable : Data → Bool
  | .scalar s => s.isWritable
  | .list items => areWritable items
  | .mapping entries => entriesWritable entries
  | .set members => members.all (·.isWritable)
  | .pair first second => first.isWritable && second.isWritable

def areWritable : List Data → Bool
  | [] => true
  | d :: rest => d.isWritable && areWritable rest

def entriesWritable : List (Scalar × Data) → Bool
  | [] => true
  | (key, value) :: rest => key.isWritable && value.isWritable && entriesWritable rest

end

def notElement (d : Data) : Except ShapeFault α :=
  .error (if d.isWritable then .notElement d.display else .tooLongToWrite)

/-- The text of a scalar, if it can be written. -/
def scalarText (s : Scalar) : Except ShapeFault String :=
  if s.isWritable then .ok s.write else .error .tooLongToWrite

/-- The text of an attribute. Truth values keep the spelling of documents, and collections are no
attributes, except for sets. -/
def attributeText (key name : Scalar) : Data → Except ShapeFault String
  | .scalar (.bool b) => .ok (if b then "true" else "false")
  | .scalar s => scalarText s
  | .set members =>
    if members.all (·.isWritable) then .ok (setDisplay members) else .error .tooLongToWrite
  | .list _ | .mapping _ | .pair .. =>
    .error (if key.isWritable && name.isWritable then .attributeNotScalar key name
      else .tooLongToWrite)

/-- Sets an attribute, at the place where it already stands or else at the end. -/
def setAttribute (key value : String) : List (String × String) → List (String × String)
  | [] => [(key, value)]
  | (k, v) :: rest => if k == key then (k, value) :: rest else (k, v) :: setAttribute key value rest

/-- The attributes of a body: all its scalars but nulls and the children. -/
def attributesOf (name : Scalar) (found : List (String × String)) :
    List (Scalar × Data) → Except ShapeFault (List (String × String))
  | [] => .ok found
  | (key, value) :: rest =>
    if key == .text "children" then attributesOf name found rest
    else match value with
      | .scalar .null => attributesOf name found rest
      | value => do
        let text ← attributeText key name value
        let key ← scalarText key
        attributesOf name (setAttribute key text found) rest

def childrenKey : Scalar := .text "children"

/-- The sort of a scalar that cannot be gone through item by item. -/
def typeName : Scalar → String
  | .null => "NoneType"
  | .bool _ => "bool"
  | .integer _ => "int"
  | .decimal _ => "float"
  | .text _ => "str"
  | .bytes _ => "bytes"
  | .date _ => "datetime.date"
  | .moment _ => "datetime.datetime"

/-- The children where the value under `children` is no list. A text is gone through by character,
bytes by number, and a mapping by key, and none of these is an element. -/
def looseChildren : Data → Except ShapeFault Unit
  | .scalar (.text s) => match Text.points s.toList with
    | [] => .ok ()
    | first :: _ => notElement (text first.text)
  | .scalar (.bytes (b :: _)) => notElement (integer b.toNat)
  | .scalar s => if s.isFalsy then .ok () else .error (.notChildren (typeName s))
  | .mapping ((key, _) :: _) | .set (key :: _) => notElement (.scalar key)
  | .pair first _ => notElement first
  | .mapping [] | .set [] | .list _ => .ok ()

mutual

/-- The element that data describes. An element's own attributes are looked at before any of its
children. -/
def toElement : Data → Except ShapeFault Element
  | .mapping [(name, body)] => bodyElement name body
  | d => notElement d

/-- The element of a name and a body. -/
def bodyElement (name : Scalar) : Data → Except ShapeFault Element
  | .scalar .null => do
    return ⟨← scalarText name, [], []⟩
  | .list items => do
    let written ← scalarText name
    let children ← toElements items
    return ⟨written, [], children⟩
  | .mapping entries => do
    let attributes ← attributesOf name [] entries
    let written ← scalarText name
    let children ← entryChildren entries
    return ⟨written, attributes, children⟩
  | _ => .error (if name.isWritable then .invalidBody name else .tooLongToWrite)

/-- The children of a body that is a mapping. -/
def entryChildren : List (Scalar × Data) → Except ShapeFault (List Element)
  | [] => .ok []
  | (key, value) :: rest => if key == childrenKey then valueChildren value else entryChildren rest

def valueChildren : Data → Except ShapeFault (List Element)
  | .list items => toElements items
  | d => do
    looseChildren d
    return []

def toElements : List Data → Except ShapeFault (List Element)
  | [] => .ok []
  | d :: rest => do
    let e ← d.toElement
    let es ← toElements rest
    return e :: es

end

end Data

end Bounty
