import Bounty.Text.Codec
import Bounty.Xml.Reader
/-!
Documents as bytes. A mark at the front or the declaration tells how the bytes encode characters.
-/
namespace Bounty.Xml

/-- What is wrong with the name of an encoding. Documents of one that is named rightly are only ever
malformed. -/
inductive EncodingFault where
  | unknown (name : String)
  | textless (name : String)
  /-- A character may take several bytes. -/
  | wide
  | narrow (name : String)
deriving DecidableEq, Repr

def EncodingFault.message : EncodingFault → String
  | .unknown name => "unknown encoding: " ++ name
  | .textless name =>
    s!"'{name}' is not a text encoding; use codecs.decode() to handle arbitrary codecs"
  | .wide => "multi-byte encodings are not supported"
  | .narrow name => s!"decoding with '{name}' codec failed"

/-- Why bytes are no document. -/
inductive Fault where
  | malformed
  | encoding (f : EncodingFault)
deriving DecidableEq, Repr

inductive Encoding where
  | utf8
  | utf16 (bigEndian : Bool)
  | latin1
  | ascii
  | page (p : Text.CodePage)

/-- Whether names may hold rare letters. -/
def Encoding.hasRare : Encoding → Bool
  | .utf16 _ | .latin1 => true
  | .utf8 | .ascii | .page _ => false

/-- The encoding of a codec, if that is one for documents. -/
def Encoding.ofCodec (name : String) : Except Fault Encoding :=
  match Text.Codec.ofName? name with
  | some (.page p) => .ok (.page p)
  | some .moved => .error .malformed
  | some .wide => .error (.encoding .wide)
  | some .narrow => .error (.encoding (.narrow name))
  | some .textless => .error (.encoding (.textless name))
  | none => .error (.encoding (.unknown name))

/-- How wide the units of a document are. A mark at the front shows it, or else which half of the
first unit is zero. -/
inductive Width where
  | single
  | pair (bigEndian : Bool)
deriving DecidableEq

def Width.ofBytes : List UInt8 → Width
  | 0xFE :: 0xFF :: _ => .pair true
  | 0xFF :: 0xFE :: _ => .pair false
  | 0x00 :: _ :: _ => .pair true
  | _ :: 0x00 :: _ => .pair false
  | _ => .single

/-- The encoding of a document that names none. -/
def Width.encoding : Width → Encoding
  | .single => .utf8
  | .pair bigEndian => .utf16 bigEndian

/-- The encoding with a name, in any case, in a document with units of some width. A name that
speaks of another width is wrong, and so is a page where units are pairs. -/
def Width.encodingOf (width : Width) (name : String) : Except Fault Encoding :=
  match String.ofList (name.toList.map Char.toUpper), width with
  | "UTF-8", .single => .ok .utf8
  | "ISO-8859-1", .single => .ok .latin1
  | "US-ASCII", .single => .ok .ascii
  | "UTF-16", .pair bigEndian => .ok (.utf16 bigEndian)
  | "UTF-16BE", .pair true => .ok (.utf16 true)
  | "UTF-16LE", .pair false => .ok (.utf16 false)
  | "UTF-8", _ | "ISO-8859-1", _ | "US-ASCII", _ => .error .malformed
  | "UTF-16", _ | "UTF-16BE", _ | "UTF-16LE", _ => .error .malformed
  | _, .single => Encoding.ofCodec name
  | _, .pair _ => do
    let _ ← Encoding.ofCodec name
    .error .malformed

/-- Pairs of bytes as numbers. -/
def units? (bigEndian : Bool) : List UInt8 → Option (List Nat)
  | [] => some []
  | [_] => none
  | a :: b :: rest => do
    let unit := if bigEndian then a.toNat * 256 + b.toNat else b.toNat * 256 + a.toNat
    let units ← units? bigEndian rest
    return unit :: units

/-- The characters that units of 16 bits encode; surrogates stand in pairs. -/
def charsOfUnits? : List Nat → Option (List Char)
  | [] => some []
  | unit :: rest =>
    if 0xD800 ≤ unit && unit < 0xDC00 then
      match rest with
      | low :: rest =>
        if 0xDC00 ≤ low && low < 0xE000 then
          (charsOfUnits? rest).map
            (Char.ofNat (0x10000 + (unit - 0xD800) * 0x400 + (low - 0xDC00)) :: ·)
        else none
      | [] => none
    else if 0xDC00 ≤ unit && unit < 0xE000 then none
    else (charsOfUnits? rest).map (Char.ofNat unit :: ·)

/-- The characters of bytes in an encoding. -/
def Encoding.decode? (bytes : List UInt8) : Encoding → Option (List Char)
  | .utf8 => (String.fromUTF8? ⟨bytes.toArray⟩).map (·.toList)
  | .utf16 bigEndian => (units? bigEndian bytes).bind charsOfUnits?
  | .latin1 => some (bytes.map fun b => Char.ofNat b.toNat)
  | .ascii => bytes.mapM fun b => if b < 0x80 then some (Char.ofNat b.toNat) else none
  | .page p => p.decode? bytes

/-- The bytes of a document without the mark at its front. -/
def Width.withoutMark : Width → List UInt8 → List UInt8
  | .single, 0xEF :: 0xBB :: 0xBF :: rest => rest
  | .pair true, 0xFE :: 0xFF :: rest => rest
  | .pair false, 0xFF :: 0xFE :: rest => rest
  | _, bytes => bytes

/-- The name of the encoding that a declaration gives. The declaration holds ASCII characters only,
so it can be read without knowing the encoding. -/
def declaredName (cs : List Char) : Option String :=
  (declaration? false (Text.unifyLines (cs.takeWhile (· != '>') ++ ['>']))).bind (·.1.encoding)

/-- The characters of a document as far as its declaration. -/
def Width.preview (bytes : List UInt8) : Width → List Char
  | .single => bytes.map fun b => Char.ofNat b.toNat
  | .pair bigEndian =>
    ((units? bigEndian (bytes.take (bytes.length / 2 * 2))).getD []).map Char.ofNat

/-- Reads a document from its bytes. What the declaration says counts even where a mark stands
before it. -/
def readBytes (bytes : ByteArray) : Except Fault Element := do
  let width := Width.ofBytes bytes.toList
  let bytes := width.withoutMark bytes.toList
  let encoding ← match declaredName (width.preview bytes) with
    | none => pure width.encoding
    | some name => width.encodingOf name
  match (encoding.decode? bytes).bind fun cs => document? encoding.hasRare (String.ofList cs) with
  | some e => return e
  | none => .error .malformed

end Bounty.Xml
