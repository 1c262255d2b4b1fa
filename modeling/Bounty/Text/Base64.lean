/-!
Bytes written with the 64 digits of base 64, four digits for three bytes. The last four may be
fewer, filled up with equals signs; other characters do not count.
-/
namespace Bounty.Text.Base64

def digits : List Char :=
  "ABCDEFGHIJKLMNOPQRSTUVWXYZabcdefghijklmnopqrstuvwxyz0123456789+/".toList

/-- The bytes that up to four digits hold completely. -/
def bytesOf : List Nat → List UInt8
  | a :: b :: rest =>
    UInt8.ofNat (a * 4 + b / 16) :: match rest with
      | c :: rest => UInt8.ofNat (b * 16 + c / 4) :: match rest with
        | d :: _ => [UInt8.ofNat (c * 64 + d)]
        | [] => []
      | [] => []
  | _ => []

/-- The bytes of a text after the digits `held`, fewer than four, and a number of equals signs. -/
def bytesFrom? (held : List Nat) (pads : Nat) : List Char → Option (List UInt8)
  | [] => if held.isEmpty then some [] else none
  | c :: rest =>
    if c == '=' then
      if held.length < 2 then bytesFrom? held pads rest
      else if held.length + pads < 3 then bytesFrom? held (pads + 1) rest
      else some (bytesOf held)
    else match digits.idxOf? c with
      | none => bytesFrom? held pads rest
      | some n =>
        if held.length < 3 then bytesFrom? (held ++ [n]) 0 rest
        else (bytesFrom? [] 0 rest).map (bytesOf (held ++ [n]) ++ ·)

/-- The bytes that a text stands for. -/
def decode? (cs : List Char) : Option (List UInt8) := bytesFrom? [] 0 cs

end Bounty.Text.Base64
