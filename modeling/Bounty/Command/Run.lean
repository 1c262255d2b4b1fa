import Bounty.Command
import Bounty.Dice.Twister
import Bounty.Outline.Drawing
import Bounty.Resolution
import Bounty.Schema
import Bounty.Settings
import Bounty.Survey
import Bounty.Text.Terminal
/-!
Running commands on a tree of files.
-/
namespace Bounty.Command

/-- What keeps a command from coming to its end. -/
inductive Breakdown where
  | settings (fault : Settings.Fault)
  | document (mishap : Mishap)
  | resolution (failure : Failure)
  | file (fault : FileFault)
  /-- A label has a number with too many digits to be written. -/
  | tooLongToWrite
  /-- A label cannot be shown. -/
  | markup (fault : Markup.Fault)
  /-- The output holds half of a surrogate pair, which has no encoding. -/
  | encoding
deriving Repr

def Breakdown.message : Breakdown → String
  | .settings fault => fault.message
  | .document (.stop (.fault f)) => f.message
  | .document (.stop (.tooManyDigits digits)) => Numeral.tooLongToRead digits
  | .document (.notChildren type) => (ShapeFault.notChildren type).message
  | .document (.file fault) => fault.message
  | .document (.reader failure) => failure.message
  | .document .tooDeep => tooDeepMessage
  | .resolution failure => failure.message
  | .file fault => fault.message
  | .tooLongToWrite => Numeral.tooLongToWrite
  | .markup fault => fault.message
  | .encoding => "half of a surrogate pair cannot be encoded"

inductive Ending where
  | success
  /-- A document is at fault, and this has been reported. -/
  | faulty
  | breakdown (b : Breakdown)
deriving Repr

def Ending.exitCode : Ending → Nat
  | .success => 0
  | .faulty | .breakdown _ => 1

/-- The exit code where the arguments give no command. -/
def usageExitCode : Nat := 2

structure Result where
  tree : FileTree
  /-- What is written at a time: a line, or the lines of an outline. -/
  out : List String
  err : List String
  ending : Ending

/-- The text of some lines. -/
def textOf (lines : List String) : String := String.join (lines.map (· ++ "\n"))

def Result.outText (r : Result) : String := textOf r.out

def Result.errText (r : Result) : String := textOf r.err

def broken (t : FileTree) (b : Breakdown) : Result := ⟨t, [], [], .breakdown b⟩

def errorLine (text : String) : String := Text.withoutSequences ("[ERROR] " ++ text)

/-- The settings of a file, or of the one in the home folder. -/
def loadSettings (t : FileTree) (file : Option FilePath) :
    FileTree × Except Settings.Fault Settings :=
  Settings.load t (file.getD (Settings.homeFile t))

/-- What a survey reports, after its warnings. -/
def reportSurvey (t : FileTree) (s : Survey) : Result :=
  let warnings := s.warnings.map fun text => Text.withoutSequences ("[WARN] " ++ text)
  let errors := s.errors.map errorLine
  if s.isOk then
    ⟨t, warnings ++ [s!"{s.parsed.length} document(s) validated successfully."], [], .success⟩
  else ⟨t, warnings, errors, .faulty⟩

/-- Reads a document for a command that needs its modifiers. -/
def withModifiers (host : Host) (t : FileTree) (path : FilePath) (parser : Parser)
    (next : List Modifier → Result) : Result :=
  match (Document.readModifiers host t path parser).2 with
  | .ok modifiers => next modifiers
  | .error (.stop (.fault f)) => ⟨t, [], [errorLine (Survey.line path f.message)], .faulty⟩
  | .error mishap => broken t (.document mishap)

/-- One round of rewards by its number. -/
def roundLine (number : Nat) (grants : List Grant) : String :=
  let rewards := if grants.isEmpty then "nothing" else ", ".intercalate (grants.map Grant.describe)
  Text.withoutSequences (s!"#{number}: " ++ rewards)

/-- The lines of some rounds, and what ended them early. -/
def roundLines (modifiers : List Modifier) (verbose : Bool) (number : Nat) (dice : Twister) :
    Nat → List String × Option Failure
  | 0 => ([], none)
  | rounds + 1 =>
    let run := Modifier.resolveAll Twister.dice modifiers dice
    match run.outcome with
    | .error failure => ([], some failure)
    | .ok grants =>
      let log := if verbose then run.log.map fun line => Text.withoutSequences line.text else []
      let (others, failure) := roundLines modifiers verbose (number + 1) run.dice rounds
      (log ++ roundLine number grants :: others, failure)

/-- A result as it comes out. Output ends before the first line that cannot be encoded; errors
escape what cannot be. -/
def Result.encoded (r : Result) : Result :=
  if r.out.any Text.holdsHalf then
    { r with out := r.out.takeWhile (!Text.holdsHalf ·), err := [], ending := .breakdown .encoding }
  else { r with err := r.err.map Text.escapeHalves }

/-- What a command does. Where the settings ask for a random seed, it is `fresh`. -/
def result (host : Host) (command : Command) (t : FileTree) (fresh : Int) : Result :=
  match command with
  | .validate paths file => match loadSettings t file with
    | (t, .error fault) => broken t (.settings fault)
    | (t, .ok settings) => match Survey.ofPaths host t settings.parser paths with
      | .error mishap => broken t (.document mishap)
      | .ok survey => reportSurvey t survey
  | .outline path file => match loadSettings t file with
    | (t, .error fault) => broken t (.settings fault)
    | (t, .ok settings) => withModifiers host t path settings.parser fun modifiers =>
      match Outline.ofDocument? path.toString modifiers with
      | none => broken t .tooLongToWrite
      | some o => match o.lines with
        | .error fault => broken t (.markup fault)
        | .ok lines => ⟨t, ["\n".intercalate lines], [], .success⟩
  | .roll path seed times verbose file => match loadSettings t file with
    | (t, .error fault) => broken t (.settings fault)
    | (t, .ok settings) => withModifiers host t path settings.parser fun modifiers =>
      let dice := Twister.ofSeed (seed.getD (settings.drawSeed fresh))
      let (lines, failure) := roundLines modifiers verbose 1 dice times
      ⟨t, lines, [], failure.elim .success fun f => .breakdown (.resolution f)⟩
  | .exportSchemas folder => match Schema.exportTo t folder with
    | .error fault => broken t (.file fault)
    | .ok t =>
      let line := Text.withoutSequences ("Exported schemas to " ++ folder.toString)
      ⟨t, [line], [], .success⟩

/-- Runs a command. -/
def run (host : Host) (command : Command) (t : FileTree) (fresh : Int) : Result :=
  (result host command t fresh).encoded

end Bounty.Command
