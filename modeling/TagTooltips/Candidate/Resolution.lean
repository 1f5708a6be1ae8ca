import TagTooltips.Candidate.Payload
import TagTooltips.Tooltip.Compose

/-! Tooltips are built late: only when a client asks for that of one candidate. Nothing is read but the
payload and the descriptors known at that moment. -/

namespace TagTooltips

abbrev Lookup := String → Option Descriptor

namespace Payload

def document (lookup : Lookup) (e : ElementEntry) : Noted ElementEntry :=
  match e.documentation, lookup e.typeName with
  | some _, _ => pure e
  | none, some d => pure (.ofDescriptor d)
  | none, none => do
    Noted.note .unknownType
    return e

def resolve (lookup : Lookup) : Payload → Noted (Option String)
  | untyped => pure none
  | elements entries => do
    let entries ← entries.mapM (document lookup)
    Tooltip.compose entries
  | attributes entries => Tooltip.compose entries

def tooltipOfData (lookup : Lookup) (data : Option Json) : Noted (Option String) := do
  let payload ← ofData data
  payload.resolve lookup

end Payload

def makeResolver (lookup : Option Lookup) : Except Failure (Option Json → Noted (Option String)) :=
  match lookup with
  | some lookup => .ok (Payload.tooltipOfData lookup)
  | none => .error .noLookup

end TagTooltips
