import Bounty.Command.Run
/-!
The program. It takes a copy of the files that a command reads, runs the command on the copy, and
writes down the files that have changed.
-/
namespace Bounty.Main

def usage : String :=
  "usage: bounty (validate PATH... | show PATH | roll PATH | export-schemas) [options]"

def namesOf (path : String) : List String := (FilePath.ofString path).names

/-- What stands at a place on disk. -/
partial def take (e : IO.FS.DirEntry) : IO FileNode := do
  if ← e.path.isDir then
    let entries ← e.path.readDir
    let nodes ← entries.toList.mapM fun inner => do return (inner.fileName, ← take inner)
    return .folder nodes
  else return .file (← IO.FS.readBinFile e.path)

/-- Adds what a path names on disk to a tree, if it names anything. -/
def addTo (t : FileTree) (p : FilePath) : IO FileTree := do
  let e : IO.FS.DirEntry := ⟨p.toString, ""⟩
  if ← e.root.pathExists then
    let node ← if ← e.root.isDir then take ⟨p.toString, "."⟩ else .file <$> IO.FS.readBinFile e.root
    match t.ensureFolder p.parent with
    | .error _ => return t
    | .ok t => match t.place p with
      | .ok way => return { t with root := t.root.put node way }
      | .error _ => return t
  else return t

/-- The files that a command may read. -/
def snapshot (sources : List FilePath) : IO FileTree := do
  let working := namesOf (← IO.currentDir).toString
  let home := namesOf ((← IO.getEnv "HOME").getD "/")
  let t : FileTree := ⟨.folder [], working, home⟩
  let t := (t.ensureFolder ⟨true, working⟩).toOption.getD t
  let t := (t.ensureFolder ⟨true, home⟩).toOption.getD t
  (Settings.homeFile t :: sources).foldlM addTo t

def contentAt (t : FileTree) (way : List String) : Option ByteArray :=
  match t.root.find? way with
  | some (.file content) => some content
  | _ => none

/-- Writes down the files in which a tree differs from an earlier one. -/
def save (earlier later : FileTree) : IO Unit := do
  for way in later.root.filesBelow do
    let content := contentAt later way
    if content != contentAt earlier way then
      let p : FilePath := ⟨true, way⟩
      IO.FS.createDirAll p.parent.toString
      IO.FS.writeBinFile p.toString (content.getD .empty)

end Bounty.Main

open Bounty in
def main (words : List String) : IO UInt32 := do
  match Command.ofArguments? words with
  | none =>
    IO.eprintln Main.usage
    return Command.usageExitCode.toUInt32
  | some command =>
    let before ← Main.snapshot command.sources
    let fresh ← IO.rand 0 0xFFFFFFFF
    let result := command.run .standard before fresh
    Main.save before result.tree
    IO.print result.outText
    IO.eprint result.errText
    match result.ending with
    | .breakdown b => IO.eprintln b.message
    | _ => pure ()
    return result.ending.exitCode.toUInt32
