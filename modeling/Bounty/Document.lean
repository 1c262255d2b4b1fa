import Bounty.FileTree
import Bounty.Host
import Bounty.Parser
/-!
Documents in files. The suffix of a file decides how it is read, and what a reader refuses is a
fault of the file.
-/
namespace Bounty

/-- Why there are no modifiers in a file. -/
inductive Mishap where
  | stop (s : Stop)
  /-- The children of an element cannot be gone through; this is the sort of value that they are. -/
  | notChildren (type : String)
  | file (f : FileFault)
  | reader (f : ReaderFailure)
  /-- Values or folders stand deeper inside of each other than there is room for. -/
  | tooDeep
deriving Repr

def Mishap.ofListing : ListingFault → Mishap
  | .file f => .file f
  | .tooDeep => .tooDeep

namespace Document

/-- The suffixes of documents. -/
def suffixes : List String := [".xml", ".json", ".yaml", ".yml"]

/-- A fault of a whole file. -/
def unreadable (p : FilePath) (why : Unreadable) : Except Mishap α :=
  .error (.stop (.fault ⟨.unreadable why, ⟨p.name, []⟩⟩))

/-- What a fault of a reader is, given what it is of the file where the reader refuses it. -/
def unread (p : FilePath) (why : Unreadable) : ReadFault → Except Mishap α
  | .refused => unreadable p why
  | .failed f => .error (.reader f)

/-- The text of a file, with its line ends unified. -/
def textOf (bytes : ByteArray) : Except Text.Utf8Fault String :=
  (Text.ofUtf8 bytes).map fun s => String.ofList (Text.unifyLines s.toList)

/-- The element of a file from what its data describes. -/
def ofData (p : FilePath) : Except ElementFault Element → Except Mishap Element
  | .ok e => .ok e
  | .error .tooDeep => .error .tooDeep
  | .error (.shape (.notChildren type)) => .error (.notChildren type)
  | .error (.shape fault) => unreadable p (.malformedData fault.message)

section Host

variable (host : Host)

/-- The documents at a path: the file that it names, or all files with one of some suffixes below
the folder that it names. -/
def found (t : FileTree) (p : FilePath) (suffixes : List String) :
    Except Mishap (List FilePath) :=
  match t.findNode p with
  | .error fault => .error (.file fault)
  | .ok none => .ok []
  | .ok (some (.file _)) => .ok [p]
  | .ok (some (.folder _)) => match t.filesBelow host.folderRoom p with
    | .error fault => .error (.ofListing fault)
    | .ok files => .ok (files.filter fun p => suffixes.contains p.suffix)

def xmlElement (p : FilePath) (bytes : ByteArray) : Except Mishap Element :=
  match host.readXml bytes with
  | .ok e => .ok e
  | .error fault => unread p .malformedMarkup fault

/-- The element that values describe, as far as there is room for them. -/
def element (view : View V) (root : V) : Except ElementFault Element :=
  view.element host.displayRoom host.elementRoom root

/-- The element that a text of JSON describes. -/
def jsonElement (p : FilePath) (text : String) : Except Mishap Element :=
  match host.readJson text with
  | .ok d => ofData p (element host Data.view d)
  | .error fault => unread p (.malformedData "not well-formed") fault

/-- The element that a text of YAML describes. What counts as nothing is an empty mapping. -/
def yamlElement (p : FilePath) (text : String) : Except Mishap Element :=
  match host.readYaml text with
  | .ok n =>
    if (n.layer n.root).isFalsy then ofData p (element host Data.view (.mapping []))
    else ofData p (element host n.view n.root)
  | .error fault => unread p (.malformedData Yaml.Fault.malformed.message) fault

/-- The element that a file of data describes. -/
def dataElement (p : FilePath) (bytes : ByteArray) : Except Mishap Element :=
  match textOf bytes with
  | .error fault => unreadable p (.malformedData fault.message)
  | .ok text => if p.suffix == ".json" then jsonElement host p text else yamlElement host p text

/-- The root element of a file. -/
def load (t : FileTree) (p : FilePath) : Except Mishap Element :=
  if !suffixes.contains p.suffix then unreadable p (.unsupportedType p.suffix)
  else match t.read p with
    | .error fault =>
      if fault.problem.code?.isSome then unreadable p (.inaccessible fault.problem.message)
      else if p.suffix == ".xml" then .error (.file fault)
      else unreadable p (.malformedData fault.message)
    | .ok bytes =>
      if p.suffix == ".xml" then xmlElement host p bytes else dataElement host p bytes

/-- The modifiers of a file whose root element holds a list of them, with the steps of the reading.
-/
def readModifiers (t : FileTree) (p : FilePath) (parser : Parser) :
    List Step × Except Mishap (List Modifier) :=
  match load host t p with
  | .error mishap => ([], .error mishap)
  | .ok e =>
    let reading := parser.readModifiers e
    (reading.steps, reading.outcome.mapError .stop)

end Host

end Document

end Bounty
