import Bounty.Text.LowerCase
/-!
Paths of files, as texts and as the names that they go through.
-/
namespace Bounty

structure FilePath where
  absolute : Bool
  names : List String
deriving DecidableEq, Repr

namespace FilePath

/-- Empty names and single dots do not count; double dots stay. -/
def ofString (s : String) : FilePath where
  absolute := s.startsWith "/"
  names := (s.splitOn "/").filter fun name => name != "" && name != "."

def toString (p : FilePath) : String :=
  let joined := "/".intercalate p.names
  if p.absolute then "/" ++ joined
  else if p.names.isEmpty then "."
  else joined

/-- The last name; empty where there is none. -/
def name (p : FilePath) : String := p.names.getLastD ""

def parent (p : FilePath) : FilePath := { p with names := p.names.dropLast }

/-- How many bytes a path may have. -/
def sizeLimit : Nat := 4095

def isTooLong (p : FilePath) : Bool := p.toString.utf8ByteSize > sizeLimit

/-- A path that goes on from another one. -/
def append (p : FilePath) (names : List String) : FilePath := { p with names := p.names ++ names }

/-- A name from its last dot on, if something stands before and after the dot. -/
def suffixOf (name : String) : String :=
  let reversed := name.toList.reverse
  let tail := reversed.takeWhile (· != '.')
  match reversed.drop tail.length with
  | _ :: _ :: _ => if tail.isEmpty then "" else String.ofList ('.' :: tail.reverse)
  | _ => ""

/-- The suffix of the last name, in lower case. -/
def suffix (p : FilePath) : String := Text.lower (suffixOf p.name)

/-- Names are compared one after the other. -/
def namesLe : List String → List String → Bool
  | [], _ => true
  | _ :: _, [] => false
  | a :: as, b :: bs => if a == b then namesLe as bs else decide (a < b)

end FilePath

end Bounty
