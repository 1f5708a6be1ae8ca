import TagTooltips.Noted
import TagTooltips.Tooltip.Entry

/-! The payload of a completion candidate says what its tooltip is made of. It travels as JSON under
one of two reserved keys; data without such a key belongs to someone else and carries no payload. -/

namespace TagTooltips

inductive Payload
  | untyped
  | elements (entries : List ElementEntry)
  | attributes (entries : List AttributeEntry)
  deriving DecidableEq, Repr

namespace Payload

open Json

def elementKey : String := "_TagHelperElementData_"

def attributeKey : String := "_TagHelperAttributeData_"

def isEmpty : Payload → Bool
  | untyped => true
  | elements entries => entries.isEmpty
  | attributes entries => entries.isEmpty

def data? : Payload → Option Json
  | untyped => none
  | elements entries => some (.object [(elementKey, .array (entries.map ElementEntry.toJson))])
  | attributes entries => some (.object [(attributeKey, .array (entries.map AttributeEntry.toJson))])

/-- Find the payload in the data of a candidate. The element key goes before the attribute key, and
other keys are skipped; records that cannot be read leave no payload. -/
def ofData (data : Option Json) : Noted Payload :=
  let found : Option (Option Payload) := do
    let data ← data
    ((data.member? elementKey).map fun j => (list? ElementEntry.ofJson? j).map elements).or
      ((data.member? attributeKey).map fun j => (list? AttributeEntry.ofJson? j).map attributes)
  match found with
  | none => pure untyped
  | some (some payload) => pure payload
  | some none => do
    Noted.note .malformedPayload
    return untyped

def ofJson? : Json → Option Payload
  | .object [(key, j)] =>
    if key = elementKey then (list? ElementEntry.ofJson? j).map elements
    else if key = attributeKey then (list? AttributeEntry.ofJson? j).map attributes
    else none
  | _ => none

end Payload

end TagTooltips
