import Bounty.Document
/-!
Surveys of rule documents: every document at some paths is read, and one that is faulty does not
keep the others from being read.
-/
namespace Bounty

/-- What a survey has found. Warnings come from the documents that could be read only. -/
structure Survey where
  parsed : List (FilePath × List Modifier)
  errors : List String
  warnings : List String

namespace Survey

def empty : Survey := ⟨[], [], []⟩

def isOk (s : Survey) : Bool := s.errors.isEmpty

/-- The findings of two surveys, one after the other. -/
def append (a b : Survey) : Survey :=
  ⟨a.parsed ++ b.parsed, a.errors ++ b.errors, a.warnings ++ b.warnings⟩

def line (p : FilePath) (text : String) : String := p.toString ++ ": " ++ text

section Host

variable (host : Host)

/-- The findings about one document. -/
def ofDocument (t : FileTree) (parser : Parser) (p : FilePath) : Except Mishap Survey :=
  match Document.readModifiers host t p parser with
  | (steps, .ok modifiers) => .ok ⟨[(p, modifiers)], [], (Step.notes steps).map (line p)⟩
  | (_, .error (.stop (.fault f))) => .ok ⟨[], [line p f.message], []⟩
  | (_, .error mishap) => .error mishap

/-- The findings about several documents in order. -/
def ofDocuments (t : FileTree) (parser : Parser) : List FilePath → Except Mishap Survey
  | [] => .ok empty
  | p :: rest => do
    let first ← ofDocument host t parser p
    let others ← ofDocuments t parser rest
    return first.append others

/-- The findings about one path. A path without documents is an error. -/
def ofPath (t : FileTree) (parser : Parser) (p : FilePath) : Except Mishap Survey :=
  match Document.found host t p Document.suffixes with
  | .error mishap => .error mishap
  | .ok [] => .ok ⟨[], [line p "no rule documents found"], []⟩
  | .ok documents => ofDocuments host t parser documents

/-- The findings about several paths in order. -/
def ofPaths (t : FileTree) (parser : Parser) : List FilePath → Except Mishap Survey
  | [] => .ok empty
  | p :: rest => do
    let first ← ofPath host t parser p
    let others ← ofPaths t parser rest
    return first.append others

end Host

end Survey

end Bounty
