import Bounty.Numeral.Lenient
import Bounty.Text.Base64
import Bounty.Text.LowerCase
import Bounty.Yaml.Fault
import Bounty.Yaml.Tag
/-!
What the texts of scalars mean under their tags: truth values, nothing, integers in several bases
and in minutes and seconds, decimals, bytes, and dates.
-/
namespace Bounty.Yaml

/-- Takes off one sign of a number that is not empty. -/
def signOf (cs : List Char) : Except Fault (Bool × List Char) :=
  if cs.isEmpty then .error .noDigits else .ok (Numeral.splitSign cs)

def truth (s : String) : Except Fault Scalar :=
  let word := Text.lower s
  if Tag.trueWords.contains word then .ok (.bool true)
  else if Tag.falseWords.contains word then .ok (.bool false)
  else .error (.notTruth word)

/-- The integer of parts of sixty. -/
def sixties (parts : List Int) : Int := parts.foldl (fun n part => 60 * n + part) 0

/-- The integer that a text without bars and its sign stands for. -/
def magnitude (cs : List Char) : Except Fault Int :=
  match cs with
  | [] => .error .noDigits
  | '0' :: 'b' :: rest => liftM (Numeral.lenientInteger? 2 rest)
  | '0' :: 'x' :: rest => liftM (Numeral.lenientInteger? 16 rest)
  | '0' :: _ => liftM (Numeral.lenientInteger? 8 cs)
  | _ => do
    let parts ← (cs.splitOn ':').mapM fun part => liftM (Numeral.lenientInteger? 10 part)
    return sixties parts

def integer (s : String) : Except Fault Scalar := do
  let (negative, cs) ← signOf (s.toList.filter (· != '_'))
  let n ← magnitude cs
  return .integer (if negative then -n else n)

/-- The number of powers of sixty, from one on, that are decimals. -/
def powerCount : Nat := 174

/-- A decimal of parts of sixty: every sum is rounded. -/
def decimalSixties (parts : List Binary64) : Except Fault Binary64 :=
  if parts.length > powerCount then .error .tooManyParts
  else
    let step := fun ((sum, base) : Binary64 × Nat) (part : Binary64) =>
      (sum.add (part.mul (.ofNat base)), base * 60)
    .ok (parts.reverse.foldl step (Binary64.zero false, 1)).1

def decimal (s : String) : Except Fault Scalar := do
  let (negative, cs) ← signOf (Text.lower (String.ofList (s.toList.filter (· != '_')))).toList
  let x ← if cs == ".inf".toList then pure (Binary64.infinite false)
    else if cs == ".nan".toList then pure Binary64.nan
    else match cs.splitOn ':' with
      | [whole] => liftM (Numeral.lenientDecimal? whole)
      | parts => do
        let parts ← parts.mapM fun part => liftM (Numeral.lenientDecimal? part)
        decimalSixties parts
  return .decimal (if negative then x.negate else x)

def binary (s : String) : Except Fault Scalar := do
  if s.toList.any (0x80 ≤ ·.toNat) then .error .malformed
  let bs ← Text.Base64.decode? s.toList
  return .bytes bs

/-- A text as a day or a moment. A line end after it makes no difference. -/
def timestamp (s : String) : Except Fault Scalar :=
  let cs := match s.toList.getLast? with
    | some '\n' => s.toList.dropLast
    | _ => s.toList
  match Timestamp.read? cs with
  | none => .error .notMoment
  | some t => if Timestamp.isValid t then .ok t else .error .malformed

/-- The scalar that a text stands for under a tag. The tags of collections, and the marks of merged
and of default values, are no tags of scalars. -/
def Tag.read (tag : Tag) (s : String) : Except Fault Scalar :=
  match tag with
  | .null => .ok .null
  | .bool => truth s
  | .int => integer s
  | .float => decimal s
  | .binary => Yaml.binary s
  | .timestamp => Yaml.timestamp s
  | .str => .ok (.text s)
  | .seq | .map | .omap | .pairs | .set | .merge | .value | .unknown => .error .malformed

end Bounty.Yaml
