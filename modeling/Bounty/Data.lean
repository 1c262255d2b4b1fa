import Bounty.Binary64
import Bounty.Calendar
import Bounty.Numeral
import Bounty.Text.Quoted
/-!
Data as files hold it: scalars, lists, and mappings from scalars, in the order of the file. Some
files hold sets of scalars and lists of pairs, too.
-/
namespace Bounty

inductive Scalar where
  | null
  | bool (b : Bool)
  | integer (n : Int)
  | decimal (x : Binary64)
  | text (s : String)
  | bytes (bs : List UInt8)
  | date (d : Date)
  | moment (m : Moment)
deriving DecidableEq, Repr

inductive Data where
  | scalar (s : Scalar)
  | list (items : List Data)
  | mapping (entries : List (Scalar × Data))
  | set (members : List Scalar)
  | pair (first second : Data)
deriving Repr

namespace Scalar

/-- The text of a scalar by itself. Bytes are quoted. -/
def write : Scalar → String
  | .null => "None"
  | .bool b => if b then "True" else "False"
  | .integer n => Numeral.write n
  | .decimal x => x.write
  | .text s => s
  | .bytes bs => Text.quotedBytes bs
  | .date d => d.write
  | .moment m => m.write

def isWritable : Scalar → Bool
  | .integer n => Numeral.isWritable n
  | _ => true

/-- The numeric value of the scalars that have an integer one. -/
def integral? : Scalar → Option Int
  | .bool b => some (if b then 1 else 0)
  | .integer n => some n
  | .decimal x => x.toInt?
  | _ => none

/-- The moment of universal time that a scalar is, where that is known. -/
def instant? : Scalar → Option Int
  | .moment m => m.instant?
  | _ => none

def sameValue (a b : Option Int) : Bool := a.isSome && a == b

/-- Whether two scalars are one key of a mapping. Numbers are compared by value, the truth values
count as one and zero, and moments are the same wherever the clock stands. -/
def sameKey (a b : Scalar) : Bool :=
  a == b || sameValue a.integral? b.integral? || sameValue a.instant? b.instant?

/-- Whether a scalar counts as nothing. -/
def isFalsy : Scalar → Bool
  | .null => true
  | .bool b => !b
  | .integer n => n == 0
  | .decimal x => x.isZero
  | .text s => s.isEmpty
  | .bytes bs => bs.isEmpty
  | .date _ | .moment _ => false

end Scalar

namespace Data

abbrev null : Data := .scalar .null
abbrev bool (b : Bool) : Data := .scalar (.bool b)
abbrev integer (n : Int) : Data := .scalar (.integer n)
abbrev text (s : String) : Data := .scalar (.text s)

/-- A mapping whose keys are texts. -/
def object (entries : List (String × Data)) : Data :=
  .mapping (entries.map fun (key, value) => (.text key, value))

/-- Sets the value of a key, at the place where the key already stands or else at the end. -/
def setKey (key : Scalar) (value : Data) : List (Scalar × Data) → List (Scalar × Data)
  | [] => [(key, value)]
  | (k, v) :: rest =>
    if k.sameKey key then (k, value) :: rest else (k, v) :: setKey key value rest

/-- A mapping in which every key stands once: at its first place, with its last value. -/
def ofPairs (pairs : List (Scalar × Data)) : Data :=
  .mapping (pairs.foldl (fun entries (key, value) => setKey key value entries) [])

/-- The value under a key that is a text. -/
def field? (key : String) : Data → Option Data
  | .mapping entries => (entries.find? fun entry => entry.1 == .text key).map (·.2)
  | _ => none

/-- Whether data counts as nothing: a falsy scalar or an empty collection. -/
def isFalsy : Data → Bool
  | .scalar s => s.isFalsy
  | .list items => items.isEmpty
  | .mapping entries => entries.isEmpty
  | .set members => members.isEmpty
  | .pair .. => false

end Data

end Bounty
