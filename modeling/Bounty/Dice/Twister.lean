import Bounty.Dice
/-!
The Mersenne twister with words of 32 bits: seeding from an integer of any size, tempered output,
and integers below a bound by rejection.
-/
namespace Bounty

/-- The number of words in the table. -/
def Twister.size : Nat := 624

/-- The state: a table of words, and the place of the next one to be given out, which is behind the
table where all are. -/
structure Twister where
  words : Vector UInt32 Twister.size
  next : Fin (Twister.size + 1)

namespace Twister

/-- How far apart the words are that are combined. -/
def shift : Nat := 397

def word (words : Vector UInt32 size) (i : Nat) : UInt32 := words[i]?.getD 0

/-- The word before a place mixed with its own upper bits. -/
def mixed (words : Vector UInt32 size) (i : Nat) : UInt32 :=
  let w := word words (i - 1)
  w ^^^ (w >>> 30)

/-- The table that grows from one word. -/
def expand (first : UInt32) : Vector UInt32 size :=
  (List.range (size - 1)).foldl
    (fun words k => words.setIfInBounds (k + 1)
      (1812433253 * mixed words (k + 1) + UInt32.ofNat (k + 1)))
    (Vector.replicate size first)

/-- The place after `i`; the first word takes over the last one where the table starts again. -/
def advance (words : Vector UInt32 size) (i : Nat) : Vector UInt32 size × Nat :=
  if i + 1 < size then (words, i + 1)
  else (words.setIfInBounds 0 (word words (size - 1)), 1)

/-- The words of 32 bits of a number, the least significant one first; at least one. -/
def wordsOf (n : Nat) : Nat → List UInt32
  | 0 => []
  | count + 1 => UInt32.ofNat n :: wordsOf (n / 2 ^ 32) count

def keyOf (n : Nat) : Array UInt32 := (wordsOf n (n.log2 / 32 + 1)).toArray

/-- One round over the table that brings in the key. -/
def absorb (key : Array UInt32) (state : Vector UInt32 size × Nat) (k : Nat) :
    Vector UInt32 size × Nat :=
  let (words, i) := state
  let j := k % key.size
  let w := (word words i ^^^ (mixed words i * 1664525)) + key.getD j 0 + UInt32.ofNat j
  advance (words.setIfInBounds i w) i

/-- One round over the table that levels it out. -/
def settle (state : Vector UInt32 size × Nat) : Vector UInt32 size × Nat :=
  let (words, i) := state
  let w := (word words i ^^^ (mixed words i * 1566083941)) - UInt32.ofNat i
  advance (words.setIfInBounds i w) i

/-- The state that grows from the magnitude of an integer. -/
def ofSeed (seed : Int) : Twister :=
  let key := keyOf seed.natAbs
  let rounds := max size key.size
  let absorbed := (List.range rounds).foldl (absorb key) (expand 19650218, 1)
  let settled := (List.range (size - 1)).foldl (fun state _ => settle state) absorbed
  ⟨settled.1.setIfInBounds 0 0x80000000, Fin.last size⟩

/-- The word that replaces the one at `i`. -/
def twisted (words : Vector UInt32 size) (i : Nat) : UInt32 :=
  let y := (word words i &&& 0x80000000) ||| (word words ((i + 1) % size) &&& 0x7FFFFFFF)
  let odd : UInt32 := if y &&& 1 = 1 then 0x9908B0DF else 0
  word words ((i + shift) % size) ^^^ (y >>> 1) ^^^ odd

/-- A new table. -/
def twist (words : Vector UInt32 size) : Vector UInt32 size :=
  (List.range size).foldl (fun words i => words.setIfInBounds i (twisted words i)) words

def temper (w : UInt32) : UInt32 :=
  let w := w ^^^ (w >>> 11)
  let w := w ^^^ ((w <<< 7) &&& 0x9D2C5680)
  let w := w ^^^ ((w <<< 15) &&& 0xEFC60000)
  w ^^^ (w >>> 18)

/-- The next word of output. -/
def output (t : Twister) : UInt32 × Twister :=
  let t := if t.next.val < size then t else ⟨twist t.words, 0⟩
  (temper (word t.words t.next), ⟨t.words, t.next + 1⟩)

/-- A number of `count` random bits. It is filled with words from its lower end, and the upper bits
of the last word are used. -/
def bits (t : Twister) (count : Nat) : Nat × Twister :=
  (List.range ((count + 31) / 32)).foldl
    (fun (n, t) k =>
      let (w, t) := t.output
      let used := min 32 (count - 32 * k)
      (n + (w.toNat >>> (32 - used)) <<< (32 * k), t))
    (0, t)

/-- The first of some draws that is below a bound. A draw is a number of as many bits as the bound
has. -/
def firstBelow? (bound : Nat) : Nat → Twister → Option (Nat × Twister)
  | 0, _ => none
  | draws + 1, t =>
    let (n, next) := t.bits (bound.log2 + 1)
    if n < bound then some (n, next) else firstBelow? bound draws next

/-- How many states there are. -/
def stateCount : Nat := Nat.pow UInt32.size size * (size + 1)

/-- A number below a positive bound: the first draw that is. After as many draws as there are
states, the same ones come again. -/
def below? (bound : Nat) (t : Twister) : Option (Nat × Twister) := firstBelow? bound stateCount t

/-- A number in a range. Where the drawing has no end, the lower bound stands for the answer that
never comes. -/
def roll (t : Twister) (min max : Int) : Except EmptyRange (Int × Twister) :=
  if max < min then .error ⟨min, max⟩
  else
    let (n, next) := (below? (max - min + 1).toNat t).getD (0, t)
    .ok (min + n, next)

def dice : Dice Twister := ⟨roll⟩

end Twister

end Bounty
