import Bounty.Markup.Shown
import Bounty.Outline
import Bounty.Text.Wrap
/-!
Drawing an outline: one line per line of a label, with guides that lead to its children.
-/
namespace Bounty.Outline

def tabWidth : Nat := 8

/-- The cells of a guide. -/
def guideWidth : Nat := 4

/-- The cells of a line on the page. -/
def pageWidth : Nat := 2000

/-- A line with its tabs filled up to the next tab stop, after `before` on column `column`. A tab
takes one cell at least. -/
def expandTabs (column : Nat) (before : List Char) : List Char → List Char
  | [] => before
  | '\t' :: rest =>
    let part := before ++ [' ']
    let column := column + Text.width part
    let filling := (tabWidth - column % tabWidth) % tabWidth
    part ++ List.replicate filling ' ' ++ expandTabs (column + filling) [] rest
  | c :: rest => expandTabs column (before ++ [c]) rest

/-- The lines that are shown of a label below `depth` others. -/
def labelLines (depth : Nat) (label : Label) : Except Markup.Fault (List String) := do
  let text ← Markup.shown label.markup
  return (text.splitOn "\n").flatMap fun line =>
    (Text.wrap (pageWidth - guideWidth * depth) (expandTabs 0 [] line.toList)).map String.ofList

/-- The lines of a label and those below it, after their guides. -/
def guided (first others : String) (lines : List String) : List String :=
  match lines with
  | [] => []
  | line :: rest => (first ++ line) :: rest.map (others ++ ·)

mutual

/-- The lines of an outline below `depth` labels. Its first line follows `first`, the other lines
of its label and all its children follow `others`. -/
def linesAfter (depth : Nat) (first others : String) : Outline → Except Markup.Fault (List String)
  | .node label children => do
    let own ← labelLines depth label
    let below ← childLines (depth + 1) others children
    return guided first others own ++ below

/-- The lines of the children of an outline, whose guides follow `lead`. -/
def childLines (depth : Nat) (lead : String) : List Outline → Except Markup.Fault (List String)
  | [] => .ok []
  | [child] => linesAfter depth (lead ++ "└── ") (lead ++ "    ") child
  | child :: next :: rest => do
    let own ← linesAfter depth (lead ++ "├── ") (lead ++ "│   ") child
    let others ← childLines depth lead (next :: rest)
    return own ++ others

end

/-- The lines of a whole outline. -/
def lines (outline : Outline) : Except Markup.Fault (List String) := linesAfter 0 "" "" outline

end Bounty.Outline
