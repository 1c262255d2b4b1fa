import Bounty.Numeral
/-!
Binary floating point numbers of 64 bits, as exact values, with their decimal forms: a decimal is
read as the nearest number, a tie going to the even significand, and a number is written with the
fewest digits that read back.
-/
namespace Bounty

/-- A number of 64 bits. The value of a finite one is `significand * 2 ^ exponent`. -/
inductive Binary64 where
  | nan
  | infinite (negative : Bool)
  | finite (negative : Bool) (significand : Nat) (exponent : Int)
deriving DecidableEq, Repr

namespace Binary64

/-- The exponent of the smallest positive number. -/
def minExponent : Int := -1074

/-- The exponent of the largest finite number. -/
def maxExponent : Int := 971

/-- Significands have at most this many bits. -/
def precision : Nat := 53

/-- A positive fraction `num / den` scaled by `base ^ power`. -/
def scale (base : Nat) (power : Int) (num den : Nat) : Nat × Nat :=
  let factor := base.pow power.natAbs
  if power < 0 then (num, den * factor) else (num * factor, den)

/-- The integer nearest to `num / den`, a tie going to the even one. -/
def roundEven (num den : Nat) : Nat :=
  let quotient := num / den
  let twice := 2 * (num % den)
  if twice > den || (twice == den && quotient % 2 == 1) then quotient + 1 else quotient

/-- The exponent at which the positive fraction `num / den` has a significand of full precision, or
the smallest exponent where that is greater. -/
def exponentFor (num den : Nat) : Int :=
  let guess : Int := (num.log2 : Int) - den.log2 - precision
  let (n, d) := scale 2 (-guess) num den
  -- The guess is one too small where the quotient needs one bit more.
  let exponent := if n / d ≥ 1 <<< precision then guess + 1 else guess
  max exponent minExponent

/-- The number nearest to the positive fraction `num / den`. -/
def ofFraction (negative : Bool) (num den : Nat) : Binary64 :=
  let exponent := exponentFor num den
  let (n, d) := scale 2 (-exponent) num den
  let significand := roundEven n d
  let (significand, exponent) :=
    if significand = 1 <<< precision then (1 <<< (precision - 1), exponent + 1)
    else (significand, exponent)
  if exponent > maxExponent then .infinite negative else .finite negative significand exponent

def zero (negative : Bool) : Binary64 := .finite negative 0 minExponent

/-- The number nearest to `digits * 10 ^ power`. -/
def ofDecimal (negative : Bool) (digits : Nat) (power : Int) : Binary64 :=
  let length := (Nat.toDigits 10 digits).length
  if digits = 0 then zero negative
  else if power + length > 310 then .infinite negative
  else if power + length < -330 then zero negative
  else
    let (num, den) := scale 10 power digits 1
    ofFraction negative num den

/-- A positive decimal fraction: `0.digits * 10 ^ point`. -/
structure Decimal where
  digits : List Char
  point : Int
deriving DecidableEq, Repr

/-- The least `p` with `num / den < 10 ^ p`, for a positive fraction. -/
def decimalPoint (num den : Nat) : Int :=
  let guess : Int := (Nat.toDigits 10 num).length - (Nat.toDigits 10 den).length
  let (n, d) := scale 10 (-guess) num den
  if n ≥ d then guess + 1 else guess

/-- The decimal with the fewest digits that reads back as the given number, and of those the nearest
to it, the even one of two that are equally near. Both neighbours on each grid are tried, from the
coarsest grid on. -/
def shortestFrom (target : Binary64) (num den : Nat) (point : Int) : Nat → Nat → Nat × Int
  | 0, length => (roundEven (num * Nat.pow 10 length) den, -length)
  | fuel + 1, length =>
    let power : Int := point - length
    let (n, d) := scale 10 (-power) num den
    let low := n / d
    let near := roundEven n d
    let candidates := [near, if near = low then low + 1 else low]
    match candidates.find? fun c => c != 0 && ofDecimal false c power == target with
    | some digits => (digits, power)
    | none => shortestFrom target num den point fuel (length + 1)

/-- The shortest decimal of a positive number. -/
def shortest (significand : Nat) (exponent : Int) : Decimal :=
  let (num, den) := scale 2 exponent significand 1
  let (digits, power) :=
    shortestFrom (.finite false significand exponent) num den (decimalPoint num den) 17 1
  let text := Nat.toDigits 10 digits
  let kept := (text.reverse.dropWhile (· == '0')).reverse
  ⟨kept, power + text.length⟩

def negate : Binary64 → Binary64
  | .nan => .nan
  | .infinite negative => .infinite (!negative)
  | .finite negative significand exponent => .finite (!negative) significand exponent

/-- A number without its sign as an exact fraction. -/
def fractionOf (significand : Nat) (exponent : Int) : Nat × Nat := scale 2 exponent significand 1

/-- The number nearest to a fraction with a sign; zero has the sign that is given. -/
def ofRatio (negativeZero : Bool) (num : Int) (den : Nat) : Binary64 :=
  if num = 0 then zero negativeZero else ofFraction (num < 0) num.natAbs den

/-- The number nearest to an integer. -/
def ofNat (n : Nat) : Binary64 := ofRatio false n 1

/-- The product of two numbers, rounded. -/
def mul (x y : Binary64) : Binary64 :=
  match x, y with
  | .nan, _ | _, .nan => .nan
  | .finite s a e, .finite t b f =>
    let (n, d) := fractionOf a e
    let (m, c) := fractionOf b f
    ofRatio (s != t) (Numeral.signed (s != t) (n * m)) (d * c)
  | .infinite s, .infinite t => .infinite (s != t)
  | .infinite s, .finite t b _ | .finite t b _, .infinite s =>
    if b = 0 then .nan else .infinite (s != t)

/-- The sum of two numbers, rounded. -/
def add (x y : Binary64) : Binary64 :=
  match x, y with
  | .nan, _ | _, .nan => .nan
  | .finite s a e, .finite t b f =>
    let (n, d) := fractionOf a e
    let (m, c) := fractionOf b f
    ofRatio (s && t) (Numeral.signed s (n * c) + Numeral.signed t (m * d)) (d * c)
  | .infinite s, .infinite t => if s == t then .infinite s else .nan
  | .infinite s, .finite .. | .finite .., .infinite s => .infinite s

/-- Whether a number is zero, of either sign. -/
def isZero : Binary64 → Bool
  | .finite _ 0 _ => true
  | _ => false

/-- The integer that a finite number is, if it is one. -/
def toInt? : Binary64 → Option Int
  | .finite negative significand exponent =>
    let (num, den) := scale 2 exponent significand 1
    if num % den = 0 then some (if negative then -((num / den : Nat) : Int) else (num / den : Nat))
    else none
  | _ => none

/-- Decimal exponents from this one on up to `scientificFrom` are written positionally. -/
def positionalFrom : Int := -4

def scientificFrom : Int := 16

def zeros (n : Nat) : String := String.ofList (List.replicate n '0')

/-- Writes a decimal positionally, always with a point, or with an exponent of at least two digits.
-/
def Decimal.write (d : Decimal) : String :=
  let exponent := d.point - 1
  let length : Int := d.digits.length
  if exponent < positionalFrom || exponent ≥ scientificFrom then
    let fraction := d.digits.drop 1
    let tail := if fraction.isEmpty then "" else "." ++ String.ofList fraction
    let sign := if exponent < 0 then "-" else "+"
    let pad := if exponent.natAbs < 10 then "0" else ""
    String.ofList (d.digits.take 1) ++ tail ++ "e" ++ sign ++ pad ++ exponent.natAbs.repr
  else if d.point ≤ 0 then "0." ++ zeros d.point.natAbs ++ String.ofList d.digits
  else if d.point ≥ length then String.ofList d.digits ++ zeros (d.point - length).toNat ++ ".0"
  else
    let whole := d.digits.take d.point.toNat
    String.ofList whole ++ "." ++ String.ofList (d.digits.drop whole.length)

def write : Binary64 → String
  | .nan => "nan"
  | .infinite negative => if negative then "-inf" else "inf"
  | .finite negative significand exponent =>
    (if negative then "-" else "") ++
      if significand = 0 then "0.0" else (shortest significand exponent).write

end Binary64

end Bounty
