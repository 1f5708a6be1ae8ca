import TagTooltips.Descriptor
import TagTooltips.Signature.Alias
import TagTooltips.Signature.Segment

/-! The entries of a tooltip: elements are headed by the short name of their type, attributes by their return
type, their owner and their property. The owner is not stored; it is cut out of the display name. -/

namespace TagTooltips

structure ElementEntry where
  typeName : String
  documentation : Option String
  deriving DecidableEq, Repr

structure AttributeEntry where
  returnTypeName : String
  displayName : String
  propertyName : String
  documentation : Option String
  deriving DecidableEq, Repr

/-- An entry that only refers to its type; its documentation is looked up later. -/
def ElementEntry.named (typeName : String) : ElementEntry := ⟨typeName, none⟩

def ElementEntry.ofDescriptor (d : Descriptor) : ElementEntry := ⟨d.typeName, d.documentation⟩

def AttributeEntry.ofBound (a : BoundAttribute) : AttributeEntry :=
  ⟨a.typeName, a.displayName, a.propertyName, a.documentation⟩

open Json

def ElementEntry.toJson (e : ElementEntry) : Json :=
  .object [("tagHelperTypeName", .string e.typeName), ("documentation", .ofOption e.documentation)]

def ElementEntry.ofJson? (j : Json) : Option ElementEntry := do
  let fields ← fields? ["tagHelperTypeName", "documentation"] j
  let typeName ← fields.required? string? "tagHelperTypeName"
  let documentation ← fields.absent? string? "documentation"
  return { typeName, documentation }

def AttributeEntry.toJson (e : AttributeEntry) : Json :=
  .object [("returnTypeName", .string e.returnTypeName), ("displayName", .string e.displayName),
    ("propertyName", .string e.propertyName), ("documentation", .ofOption e.documentation)]

def AttributeEntry.ofJson? (j : Json) : Option AttributeEntry := do
  let fields ← fields? ["returnTypeName", "displayName", "propertyName", "documentation"] j
  let returnTypeName ← fields.required? string? "returnTypeName"
  let displayName ← fields.required? string? "displayName"
  let propertyName ← fields.required? string? "propertyName"
  let documentation ← fields.absent? string? "documentation"
  return { returnTypeName, displayName, propertyName, documentation }

def shortName (name : String) : Noted String := String.ofList <$> Signature.shortName name.toList

def ElementEntry.header (e : ElementEntry) : Noted String := do
  let name ← shortName e.typeName
  return "**" ++ name ++ "**"

def AttributeEntry.returnType (e : AttributeEntry) : Noted String :=
  shortName (Signature.displayName e.returnTypeName)

/-- The owner lies in the display name between as many bytes as the shown return type and a space
take and as many as a dot and the property take. -/
def AttributeEntry.owner (e : AttributeEntry) : Noted (Except Failure String) := do
  let returnType ← e.returnType
  let lead := Text.byteLength returnType.toList + 1
  let tail := Text.byteLength e.propertyName.toList + 1
  let total := Text.byteLength e.displayName.toList
  let found := if tail ≤ total then Text.betweenBytes? lead (total - tail) e.displayName.toList else none
  match found with
  | some owner => return .ok (String.ofList owner)
  | none =>
    let returnType ← e.returnType
    return .error (.noOwner e.displayName returnType e.propertyName)

def AttributeEntry.header (e : AttributeEntry) : Noted String := do
  let returnType ← e.returnType
  match ← e.owner with
  | .ok owner =>
    Noted.noteIf (!returnType.toList.isPrefixOf e.displayName.toList) .foreignDisplayName
    let owner ← shortName owner
    return "**" ++ returnType ++ "** " ++ owner ++ ".**" ++ e.propertyName ++ "**"
  | .error cause =>
    Noted.note (.headerFallback cause)
    return "**" ++ returnType ++ "** **" ++ e.propertyName ++ "**"

end TagTooltips
