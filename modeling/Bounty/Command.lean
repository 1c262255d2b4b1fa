import Bounty.FilePath
import Bounty.Record.Field
/-!
Commands and how they are given: a name, options, and paths in any order among the options. After
two dashes everything is a path.
-/
namespace Bounty

inductive Command where
  /-- Reads all documents at some paths and reports what is wrong with them. -/
  | validate (paths : List FilePath) (settings : Option FilePath)
  /-- Draws the outline of a document. -/
  | outline (path : FilePath) (settings : Option FilePath)
  /-- Resolves a document some number of times. -/
  | roll (path : FilePath) (seed : Option Int) (times : Nat) (verbose : Bool)
    (settings : Option FilePath)
  | exportSchemas (folder : FilePath)
deriving DecidableEq, Repr

namespace Command

/-- The files and folders that a command reads. -/
def sources : Command → List FilePath
  | .validate paths settings => paths ++ settings.toList
  | .outline path settings | .roll path _ _ _ settings => path :: settings.toList
  | .exportSchemas folder => [folder]

inductive Argument where
  | path (text : String)
  | option (name value : String)
  | switch (name : String)
deriving DecidableEq, Repr

/-- The name and the value of an option that are given in one word. -/
def splitOption (word : String) : String × Option String :=
  match word.splitOn "=" with
  | name :: part :: parts => (name, some ("=".intercalate (part :: parts)))
  | _ => (word, none)

/-- The switches that a word of one dash and some letters names. -/
def switches (letters : List (Char × String)) (word : String) : Option (List Argument) :=
  (word.toList.drop 1).mapM fun c => (letters.lookup c).map .switch

/-- What options a command takes. -/
structure Grammar where
  /-- The options with a value. -/
  options : List String
  switches : List String
  /-- The switches that have a short form of one letter. -/
  letters : List (Char × String)

/-- The path that a word is. The character that ends paths is not allowed in it. -/
def path? (word : String) : Option FilePath :=
  if word.toList.contains '\x00' then none else some (.ofString word)

/-- The arguments in some words. An option without its value, an unknown one, and a switch with a
value are mistakes. -/
def arguments (g : Grammar) : List String → Option (List Argument)
  | [] => some []
  | word :: rest =>
    if word == "--" then some (rest.map .path)
    else if word.startsWith "--" then
      match splitOption word with
      | (name, some value) =>
        if g.options.contains name then (arguments g rest).map (.option name value :: ·) else none
      | (name, none) =>
        if g.options.contains name then
          match rest with
          | value :: rest => (arguments g rest).map (.option name value :: ·)
          | [] => none
        else if g.switches.contains name then (arguments g rest).map (.switch name :: ·)
        else none
    else if word.startsWith "-" && word != "-" then do
      let here ← switches g.letters word
      let others ← arguments g rest
      return here ++ others
    else (arguments g rest).map (.path word :: ·)

/-- The paths among some arguments, if all of them can be paths. -/
def paths? (arguments : List Argument) : Option (List FilePath) :=
  (arguments.filterMap fun argument => match argument with
    | .path text => some text
    | _ => none).mapM path?

/-- The last value that an option is given. -/
def value? (name : String) (arguments : List Argument) : Option String :=
  arguments.reverse.findSome? fun argument => match argument with
    | .option n value => if n == name then some value else none
    | _ => none

/-- An option that has to be an integer where it is given. -/
def integerOption (name : String) (arguments : List Argument) : Option (Option Int) :=
  match value? name arguments with
  | none => some none
  | some text => ((Record.integerOfText text).toOption).map some

def settingsOption : String := "--settings"
def seedOption : String := "--seed"
def timesOption : String := "--times"
def verboseSwitch : String := "--verbose"
def folderOption : String := "--out"

/-- An option that has to be a path where it is given. -/
def pathOption (name : String) (arguments : List Argument) : Option (Option FilePath) :=
  match value? name arguments with
  | none => some none
  | some text => (path? text).map some

/-- Where schemas are written where no folder is given. -/
def defaultFolder : FilePath := .ofString "docs/schemas"

def ofValidate (words : List String) : Option Command := do
  let given ← arguments ⟨[settingsOption], [], []⟩ words
  let paths ← paths? given
  let settings ← pathOption settingsOption given
  if paths.isEmpty then none else return .validate paths settings

def ofOutline (words : List String) : Option Command := do
  let given ← arguments ⟨[settingsOption], [], []⟩ words
  let settings ← pathOption settingsOption given
  match ← paths? given with
  | [path] => return .outline path settings
  | _ => none

def ofRoll (words : List String) : Option Command := do
  let options := [settingsOption, seedOption, timesOption]
  let grammar := ⟨options, [verboseSwitch], [('v', verboseSwitch)]⟩
  let given ← arguments grammar words
  let seed ← integerOption seedOption given
  let times ← integerOption timesOption given
  let times := times.getD 1
  let settings ← pathOption settingsOption given
  match ← paths? given with
  | [path] =>
    if times < 1 then none
    else return .roll path seed times.toNat (given.contains (.switch verboseSwitch)) settings
  | _ => none

def ofExportSchemas (words : List String) : Option Command := do
  let given ← arguments ⟨[folderOption], [], []⟩ words
  let folder ← pathOption folderOption given
  match ← paths? given with
  | [] => return .exportSchemas (folder.getD defaultFolder)
  | _ => none

/-- The command after its name. -/
def ofWords? : List String → Option Command
  | "validate" :: words => ofValidate words
  | "show" :: words => ofOutline words
  | "roll" :: words => ofRoll words
  | "export-schemas" :: words => ofExportSchemas words
  | _ => none

/-- The command that some arguments give. Two dashes may stand before its name. -/
def ofArguments? : List String → Option Command
  | "--" :: words => ofWords? words
  | words => ofWords? words

end Command

end Bounty
