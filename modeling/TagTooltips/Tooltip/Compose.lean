import TagTooltips.Documentation.Reference
import TagTooltips.Documentation.Summary
import TagTooltips.Tooltip.Entry

/-! A tooltip is Markdown with one block for each entry: the header and, where the documentation has
a summary with something in it, the summary without the empty lines around it. -/

namespace TagTooltips

class Entry (α : Type) where
  header : α → Noted String
  documentation : α → Option String

instance : Entry ElementEntry := ⟨ElementEntry.header, ElementEntry.documentation⟩

instance : Entry AttributeEntry := ⟨AttributeEntry.header, AttributeEntry.documentation⟩

namespace Tooltip

def separator : String := "\n\n---\n\n"

def prose (summary : List Char) : Noted String := do
  let text ← Documentation.markdown summary
  return String.ofList (Text.stripBoth (· == '\n') text)

def block {α : Type} [Entry α] (e : α) : Noted String := do
  let header ← Entry.header e
  match ← Documentation.extract (Entry.documentation e) with
  | none => return header
  | some summary =>
    let text ← prose summary
    return if text.isEmpty then header else header ++ "\n\n" ++ text

def compose {α : Type} [Entry α] (entries : List α) : Noted (Option String) := do
  let blocks ← entries.mapM block
  return if entries.isEmpty then none else some (separator.intercalate blocks)

end Tooltip

end TagTooltips
