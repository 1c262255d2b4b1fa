/-!
Elements of a rule document. The same tree is read from marked-up text, from keyed data and from
an API, so nothing here depends on the file format.
-/
namespace Bounty

/-- One element of a rule document. -/
structure Element where
  name : String
  attributes : List (String × String)
  children : List Element

/-- The names on the way from the start of a reading down to one element. -/
abbrev Path := List String

/-- The text of an attribute, `none` where the element does not carry it. -/
def Element.attribute? (e : Element) (key : String) : Option String :=
  e.attributes.lookup key

end Bounty
