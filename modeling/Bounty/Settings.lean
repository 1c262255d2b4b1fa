import Bounty.FileTree
import Bounty.Json.Writer
import Bounty.Parser
import Bounty.Record.Reader
import Bounty.Text.Utf8
/-!
Settings, and the file that keeps them. A file that is not there is made.
-/
namespace Bounty

/-- A depth limit that a parser can have. -/
abbrev Depth := { n : Int // 1 ≤ n ∧ n ≤ Parser.depthCeiling }

structure Settings where
  maxDepth : Depth
  strict : Bool
  /-- The mode `random` asks for a new seed every time; in any other mode `seed` is taken. -/
  seedMode : String
  seed : Int
deriving DecidableEq, Repr

namespace Settings

def default : Settings := ⟨⟨Parser.defaultDepth, by decide⟩, false, "fixed", 0⟩

/-- A depth limit as a field: the lower bound belongs to the field, the upper one is a rule. -/
def depth (d : Data) : Checked Depth :=
  match Record.integer d with
  | .error issues => .error issues
  | .ok n =>
    if below : n < 1 then .fail .notGreaterOrEqual
    else if above : n > Parser.depthCeiling then
      .fail (.invalid Parser.DepthFault.aboveCeiling.message)
    else .ok ⟨n, by omega⟩

/-- Settings from data; what is left out is as by default. -/
def ofData : Data → Checked Settings
  | .mapping members =>
    ((Record.optional depth default.maxDepth "max_depth" members).both
      ((Record.optional Record.boolean default.strict "strict_unknown_children" members).both
        ((Record.optional Record.text default.seedMode "rng_seed_mode" members).both
          (Record.optional Record.integer default.seed "rng_seed" members)))).map
      fun (maxDepth, strict, seedMode, seed) => ⟨maxDepth, strict, seedMode, seed⟩
  | _ => .fail .notRecord

def toData (s : Settings) : Data := .object [
  ("max_depth", .integer s.maxDepth.val),
  ("strict_unknown_children", .bool s.strict),
  ("rng_seed_mode", .text s.seedMode),
  ("rng_seed", .integer s.seed)]

/-- The text of a settings file. -/
def write (s : Settings) : String := Json.write ⟨some 2, false⟩ s.toData

def ofText (text : String) : Checked Settings := Record.ofText (fun _ => ofData) text

/-- The parser that settings describe. -/
def parser (s : Settings) : Parser :=
  ⟨s.maxDepth.val.toNat, s.strict, ModifierKind.tableOf ModifierKind.all,
    RequirementKind.tableOf RequirementKind.all⟩

/-- The seed to draw with, where `fresh` is a new one. -/
def drawSeed (s : Settings) (fresh : Int) : Int := if s.seedMode = "random" then fresh else s.seed

/-- Why there are no settings. -/
inductive Fault where
  | file (f : FileFault)
  | encoding (f : Text.Utf8Fault)
  /-- The seed mode cannot be written. -/
  | halves (f : Text.HalfFault)
  | issues (issues : List Issue)
deriving Repr

def Fault.message : Fault → String
  | .file f => f.message
  | .encoding f => f.message
  | .halves f => "Error serializing to JSON: UnicodeEncodeError: " ++ f.message
  | .issues found => "\n".intercalate (found.map Issue.text)

/-- Where settings are kept, seen from the home folder. -/
def fileNames : List String := [".rewardrules", "settings.json"]

/-- The settings file in the home folder. -/
def homeFile (t : FileTree) : FilePath := ⟨true, t.home ++ fileNames⟩

/-- Writes settings down, making the folders above the file first. -/
def save (t : FileTree) (p : FilePath) (s : Settings) : FileTree × Except Fault Unit :=
  match t.ensureFolder p.parent with
  | .error f => (t, .error (.file f))
  | .ok t => match Text.findHalves 0 (Text.points s.seedMode.toList) with
    | some f => (t, .error (.halves f))
    | none => match t.write p s.write.toUTF8 with
      | .error f => (t, .error (.file f))
      | .ok t => (t, .ok ())

/-- The settings in the text of a file. -/
def ofBytes (bytes : ByteArray) : Except Fault Settings :=
  match Text.ofUtf8 bytes with
  | .error f => .error (.encoding f)
  | .ok text => match ofText (String.ofList (Text.unifyLines text.toList)) with
    | .error issues => .error (.issues issues)
    | .ok s => .ok s

/-- The settings in a file. Where there is none, it is written with the settings by default. -/
def load (t : FileTree) (p : FilePath) : FileTree × Except Fault Settings :=
  match t.findNode p with
  | .error f => (t, .error (.file f))
  | .ok (some _) => match t.read p with
    | .error f => (t, .error (.file f))
    | .ok bytes => (t, ofBytes bytes)
  | .ok none =>
    let (t, saved) := save t p default
    (t, saved.map fun _ => default)

end Settings

end Bounty
