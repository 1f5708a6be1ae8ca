import TagTooltips.Document.Tag
import TagTooltips.Server.Item

/-! What the server offers at a cursor in an open document: completion items, and the tooltip of the
tag under the cursor. -/

namespace TagTooltips.Document

def completions (d : Document) (p : Position) (s : Store) : Noted (List CompletionItem) := do
  let candidates ← match d.context p with
    | .element => Candidate.elements s
    | .attribute tag => Candidate.attributes tag s
    | .outside => pure []
  return candidates.map .ofCandidate

def hover (d : Document) (p : Position) (s : Store) : Noted (Option String) :=
  match d.tagName? p with
  | none => pure none
  | some tag => (Payload.elements ((s.forTag tag).map .ofDescriptor)).resolve s.lookup

end TagTooltips.Document
