import TagTooltips.Position
import TagTooltips.Text.Measure

/-! An open document is a list of lines. A line ends at a line feed, before which one carriage return
is dropped; text behind the last line feed is a line if there is any. -/

namespace TagTooltips

structure Document where
  lines : List (List Char)
  deriving DecidableEq, Repr

namespace Document

def dropReturn (line : List Char) : List Char :=
  if line.getLast? = some '\x0d' then line.dropLast else line

def terminated : List (List Char) → List (List Char)
  | [] => []
  | [last] => if last.isEmpty then [] else [last]
  | line :: rest => dropReturn line :: terminated rest

def ofText (text : String) : Document := ⟨terminated (text.toList.splitOn '\n')⟩

/-- A line in two, at a cursor; a cursor inside a character stands behind it. -/
def split? (d : Document) (p : Position) : Option (List Char × List Char) := do
  let line ← d.lines[p.line]?
  let before := Text.covering Text.utf16Size p.character line
  return (before, line.drop before.length)

def before? (d : Document) (p : Position) : Option (List Char) := (d.split? p).map (·.1)

end Document

end TagTooltips
