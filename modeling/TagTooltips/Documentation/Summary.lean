import TagTooltips.Noted
import TagTooltips.Text.Case

/-! The summary of a documentation block is the text between its first opening and its first
closing delimiter; ASCII case does not matter in either. It is extracted whole or not at all. -/

namespace TagTooltips.Documentation

def summaryStart : List Char := "<summary>".toList

def summaryEnd : List Char := "</summary>".toList

inductive Summary
  | found (text : List Char)
  | absent
  /-- The first closing delimiter comes before the end of the first opening one. -/
  | reversed
  deriving DecidableEq, Repr

def Summary.text? : Summary → Option (List Char)
  | .found text => some text
  | _ => none

/-- Both delimiters are sought in a copy without ASCII case; the text is cut from the block itself. -/
def summary (block : List Char) : Summary :=
  let folded := Text.foldCase block
  match Text.indexOf? summaryStart folded, Text.indexOf? summaryEnd folded with
  | some opened, some stop =>
    let start := opened + summaryStart.length
    if stop < start then .reversed else .found ((block.take stop).drop start)
  | _, _ => .absent

def extract (block : Option String) : Noted (Option (List Char)) := do
  let found := (block.map fun text => summary text.toList).getD .absent
  Noted.noteIf (found == .reversed) .reversedSummary
  return found.text?

end TagTooltips.Documentation
