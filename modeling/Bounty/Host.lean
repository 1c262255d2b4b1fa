import Bounty.Json.Reader
import Bounty.Xml.Encoding
import Bounty.Yaml.Network
/-!
What a run of the program depends on: how the formats are read, and how much room there is for calls
inside of calls.
-/
namespace Bounty

/-- How a reader fails that does not refuse what it reads. -/
inductive ReaderFailure where
  /-- A document is said to be in an encoding that no document can be in. -/
  | encoding (f : Xml.EncodingFault)
  /-- A value does not suit its tag. -/
  | value (f : Yaml.Fault)
  /-- Values stand deeper inside of each other than there is room for. -/
  | tooDeep
deriving DecidableEq, Repr

/-- Why a reader does not come to a value. -/
inductive ReadFault where
  | refused
  | failed (f : ReaderFailure)
deriving DecidableEq, Repr

structure Host where
  readXml : ByteArray → Except ReadFault Element
  readJson : String → Except ReadFault Data
  readYaml : String → Except ReadFault Yaml.Network
  /-- How many elements may stand inside of each other. -/
  elementRoom : Nat
  /-- How deep a value may be shown where there is room for some more elements. -/
  displayRoom : Nat → Nat
  /-- How many folders may stand inside of each other. -/
  folderRoom : Nat

/-- The message about calls inside of calls that there is no room for. -/
def tooDeepMessage : String := "maximum recursion depth exceeded"

def ReaderFailure.message : ReaderFailure → String
  | .encoding f => f.message
  | .value f => f.message
  | .tooDeep => tooDeepMessage

def ReadFault.ofXml : Xml.Fault → ReadFault
  | .malformed => .refused
  | .encoding f => .failed (.encoding f)

def ReadFault.ofYaml : Yaml.Fault → ReadFault
  | .malformed => .refused
  | .endless => .failed .tooDeep
  | f => .failed (.value f)

namespace Host

/-- What documents in JSON may hold. -/
def tolerance : Json.Tolerance := ⟨some Numeral.digitLimit, none, true⟩

/-- How many calls there is room for where a thousand may be under way: the others lead to a reader.
-/
def callRoom : Nat := 960

def standard : Host where
  readXml bytes := (Xml.readBytes bytes).mapError .ofXml
  readJson text := match Json.read? tolerance text with
    | some d => .ok d
    | none => .error .refused
  readYaml text := (Yaml.Network.read text).mapError .ofYaml
  elementRoom := callRoom
  displayRoom _ := callRoom
  folderRoom := callRoom

end Host

end Bounty
