import Bounty.FilePath
import Bounty.Text.Quoted
/-!
Trees of files. A path is followed name by name from the working folder, and double dots go back
up, so a path can only lead through folders that are there.
-/
namespace Bounty

inductive FileNode where
  | file (content : ByteArray)
  | folder (entries : List (String × FileNode))

/-- A root folder, with the ways from it to the working folder and to the home folder. -/
structure FileTree where
  root : FileNode
  working : List String
  home : List String

inductive FileProblem where
  | noSuchFile
  | exists
  | notAFolder
  | isAFolder
  | nameTooLong
  /-- The path holds the character that ends paths. -/
  | zeroInPath
deriving DecidableEq, Repr

namespace FileProblem

/-- The number of a problem that the system reports. -/
def code? : FileProblem → Option Nat
  | .noSuchFile => some 2
  | .exists => some 17
  | .notAFolder => some 20
  | .isAFolder => some 21
  | .nameTooLong => some 36
  | .zeroInPath => none

def message : FileProblem → String
  | .noSuchFile => "No such file or directory"
  | .exists => "File exists"
  | .notAFolder => "Not a directory"
  | .isAFolder => "Is a directory"
  | .nameTooLong => "File name too long"
  | .zeroInPath => "embedded null byte"

end FileProblem

structure FileFault where
  problem : FileProblem
  path : FilePath
deriving DecidableEq, Repr

def FileFault.message (f : FileFault) : String :=
  match f.problem.code? with
  | some code => s!"[Errno {code}] {f.problem.message}: {Text.quoted f.path.toString}"
  | none => f.problem.message

namespace FileNode

def entry? (name : String) : FileNode → Option FileNode
  | .folder entries => entries.lookup name
  | .file _ => none

def isFolder : FileNode → Bool
  | .folder _ => true
  | .file _ => false

/-- The node at the end of a way. -/
def find? (node : FileNode) : List String → Option FileNode
  | [] => some node
  | name :: rest => (node.entry? name).bind (·.find? rest)

/-- Sets an entry, at the place where it already stands or else at the end. -/
def setEntry (name : String) (node : FileNode) : List (String × FileNode) → List (String × FileNode)
  | [] => [(name, node)]
  | (n, old) :: rest => if n == name then (n, node) :: rest else (n, old) :: setEntry name node rest

/-- Puts a node at the end of a way. The folders on the way have to be there. -/
def put (node : FileNode) (new : FileNode) : List String → FileNode
  | [] => new
  | name :: rest => match node with
    | .file content => .file content
    | .folder entries => .folder <| match rest, entries.lookup name with
      | [], _ => setEntry name new entries
      | _ :: _, some inner => setEntry name (inner.put new rest) entries
      | _ :: _, none => entries

/-- Takes the node at the end of a way out of its folder. -/
def drop (node : FileNode) : List String → FileNode
  | [] => node
  | name :: rest => match node with
    | .file content => .file content
    | .folder entries => .folder <| match rest, entries.lookup name with
      | [], _ => entries.filter (·.1 != name)
      | _ :: _, some inner => setEntry name (inner.drop rest) entries
      | _ :: _, none => entries

mutual

/-- The ways to all files below a node. -/
def filesBelow : FileNode → List (List String)
  | .file _ => [[]]
  | .folder entries => filesAmong entries

def filesAmong : List (String × FileNode) → List (List String)
  | [] => []
  | (name, node) :: rest => (filesBelow node).map (name :: ·) ++ filesAmong rest

end

/-- What is come upon below a folder. -/
inductive Sight where
  /-- An entry of a folder, by the way to it. -/
  | entry (way : List String) (node : FileNode)
  /-- A folder that is inside of too many others to go into it. -/
  | tooDeep

/-- A sight in a folder inside of another one. -/
def Sight.under (name : String) : Sight → Sight
  | .entry way node => .entry (name :: way) node
  | .tooDeep => .tooDeep

/-- The way to a file. -/
def Sight.file? : Sight → Option (List String)
  | .entry way (.file _) => some way
  | .entry _ (.folder _) | .tooDeep => none

/-- All that is come upon below a folder, in this order: the entries of a folder stand before those
of the folders in it. -/
def sights : Nat → FileNode → List Sight
  | _, .file _ => []
  | 0, .folder _ => [.tooDeep]
  | room + 1, .folder entries =>
    entries.map (fun (name, node) => .entry [name] node) ++
      entries.flatMap fun (name, node) => (sights room node).map (.under name)

end FileNode

/-- Why the files below a folder cannot be listed. -/
inductive ListingFault where
  | file (f : FileFault)
  /-- Folders stand deeper inside of each other than there is room for. -/
  | tooDeep
deriving DecidableEq, Repr

namespace FileTree

/-- The tree with nothing but an empty working folder and an empty home folder. -/
def empty : FileTree where
  root := .folder [("work", .folder []), ("home", .folder [])]
  working := ["work"]
  home := ["home"]

/-- How many bytes a name may have. -/
def nameLimit : Nat := 255

/-- Follows names from a place that has been reached. -/
def follow (t : FileTree) (reached : List String) : List String → Except FileProblem (List String)
  | [] => .ok reached
  | name :: rest =>
    match t.root.find? reached with
    | none => .error .noSuchFile
    | some (.file _) => .error .notAFolder
    | some (.folder entries) =>
      if name == ".." then t.follow reached.dropLast rest
      else if name.utf8ByteSize > nameLimit then .error .nameTooLong
      else if (entries.lookup name).isSome then t.follow (reached ++ [name]) rest
      else .error .noSuchFile

def start (t : FileTree) (p : FilePath) : List String := if p.absolute then [] else t.working

/-- The way from the root to what a path names. -/
def locate (t : FileTree) (p : FilePath) : Except FileProblem (List String) :=
  if p.names.any fun name => name.toList.contains '\x00' then .error .zeroInPath
  else if p.isTooLong then .error .nameTooLong
  else t.follow (t.start p) p.names

/-- What a path names, if anything. A name that is too long is a fault even so. -/
def findNode (t : FileTree) (p : FilePath) : Except FileFault (Option FileNode) :=
  match t.locate p with
  | .ok way => .ok (t.root.find? way)
  | .error .nameTooLong => .error ⟨.nameTooLong, p⟩
  | .error _ => .ok none

def node? (t : FileTree) (p : FilePath) : Option FileNode :=
  match t.locate p with
  | .ok way => t.root.find? way
  | .error _ => none

def isFolder (t : FileTree) (p : FilePath) : Bool := (t.node? p).any (·.isFolder)

/-- The content of a file. -/
def read (t : FileTree) (p : FilePath) : Except FileFault ByteArray :=
  match t.locate p with
  | .error problem => .error ⟨problem, p⟩
  | .ok way => match t.root.find? way with
    | some (.file content) => .ok content
    | some (.folder _) => .error ⟨.isAFolder, p⟩
    | none => .error ⟨.noSuchFile, p⟩

/-- The way to what a path names, or to the place for it in a folder that is there. -/
def place (t : FileTree) (p : FilePath) : Except FileProblem (List String) :=
  match t.locate p with
  | .ok way => .ok way
  | .error .zeroInPath => .error .zeroInPath
  | .error .nameTooLong => .error .nameTooLong
  | .error problem =>
    match t.follow (t.start p) p.names.dropLast, p.names.getLast? with
    | .ok way, some name =>
      if name != ".." && (t.root.find? way).any (·.isFolder) then .ok (way ++ [name])
      else .error problem
    | _, _ => .error problem

/-- Writes a file, a new one or over an old one. -/
def write (t : FileTree) (p : FilePath) (content : ByteArray) : Except FileFault FileTree :=
  match t.place p with
  | .error problem => .error ⟨problem, p⟩
  | .ok way =>
    if (t.root.find? way).any (·.isFolder) then .error ⟨.isAFolder, p⟩
    else .ok { t with root := t.root.put (.file content) way }

/-- Makes one folder, unless it is there already. -/
def makeFolder (t : FileTree) (p : FilePath) : Except FileFault FileTree :=
  match t.locate p, t.place p with
  | .ok _, _ => if t.isFolder p then .ok t else .error ⟨.exists, p⟩
  | .error _, .ok way => .ok { t with root := t.root.put (.folder []) way }
  | .error _, .error problem => .error ⟨problem, p⟩

/-- Makes a folder and those above it that are missing, the upper ones first. -/
def makeFolders (t : FileTree) (p : FilePath) : Nat → Except FileFault FileTree
  | 0 => t.makeFolder p
  | count + 1 =>
    match t.makeFolder p with
    | .error ⟨.noSuchFile, _⟩ => do
      let t ← t.makeFolders p.parent count
      t.makeFolder p
    | result => result

/-- Makes a folder together with all the folders above it. -/
def ensureFolder (t : FileTree) (p : FilePath) : Except FileFault FileTree :=
  t.makeFolders p p.names.length

/-- Removes a file. -/
def remove (t : FileTree) (p : FilePath) : Except FileFault FileTree :=
  match t.locate p with
  | .error problem => .error ⟨problem, p⟩
  | .ok way =>
    if (t.root.find? way).any (·.isFolder) then .error ⟨.isAFolder, p⟩
    else .ok { t with root := t.root.drop way }

/-- What is come upon below a folder is looked up by its whole path. -/
def lookUp (p : FilePath) : FileNode.Sight → Except ListingFault Unit
  | .tooDeep => .error .tooDeep
  | .entry way _ =>
    if (p.append way).isTooLong then .error (.file ⟨.nameTooLong, p.append way⟩) else .ok ()

/-- All files below a folder, ordered by their names, where there is room for some folders inside of
each other. -/
def filesBelow (room : Nat) (t : FileTree) (p : FilePath) :
    Except ListingFault (List FilePath) := do
  let sights := (t.node? p).elim [] (·.sights room)
  sights.forM (lookUp p)
  let ways := sights.filterMap FileNode.Sight.file?
  return (ways.mergeSort FilePath.namesLe).map p.append

end FileTree

end Bounty
