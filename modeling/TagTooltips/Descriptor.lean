import TagTooltips.Json.Record

/-! Descriptors say what the compiler knows of a tag helper type: its documentation, the tags it
applies to and the attributes it binds. Each record is written as an object with all its fields. -/

namespace TagTooltips

structure BoundAttribute where
  name : String
  propertyName : String
  typeName : String
  /-- The return type, a space, the owner, a dot and the property. -/
  displayName : String
  documentation : Option String
  deriving DecidableEq, Repr

structure Descriptor where
  typeName : String
  documentation : Option String
  tagNames : List String
  boundAttributes : List BoundAttribute
  deriving DecidableEq, Repr

structure ProjectSnapshot where
  project : String
  descriptors : List Descriptor
  deriving DecidableEq, Repr

structure ProjectRemoval where
  project : String
  deriving DecidableEq, Repr

inductive FileContent
  | project (change : ProjectSnapshot)
  | bare (descriptors : List Descriptor)
  deriving DecidableEq, Repr

open Json

def BoundAttribute.toJson (a : BoundAttribute) : Json :=
  .object [("name", .string a.name), ("propertyName", .string a.propertyName),
    ("typeName", .string a.typeName), ("displayName", .string a.displayName),
    ("documentation", .ofOption a.documentation)]

def BoundAttribute.ofJson? (j : Json) : Option BoundAttribute := do
  let fields ← fields? ["name", "propertyName", "typeName", "displayName", "documentation"] j
  let name ← fields.required? string? "name"
  let propertyName ← fields.required? string? "propertyName"
  let typeName ← fields.required? string? "typeName"
  let displayName ← fields.required? string? "displayName"
  let documentation ← fields.absent? string? "documentation"
  return { name, propertyName, typeName, displayName, documentation }

def Descriptor.toJson (d : Descriptor) : Json :=
  .object [("typeName", .string d.typeName), ("documentation", .ofOption d.documentation),
    ("tagNames", .array (d.tagNames.map .string)),
    ("boundAttributes", .array (d.boundAttributes.map BoundAttribute.toJson))]

def Descriptor.ofJson? (j : Json) : Option Descriptor := do
  let fields ← fields? ["typeName", "documentation", "tagNames", "boundAttributes"] j
  let typeName ← fields.required? string? "typeName"
  let documentation ← fields.absent? string? "documentation"
  let tagNames ← fields.optional? (list? string?) [] "tagNames"
  let boundAttributes ← fields.optional? (list? BoundAttribute.ofJson?) [] "boundAttributes"
  return { typeName, documentation, tagNames, boundAttributes }

def ProjectSnapshot.toJson (c : ProjectSnapshot) : Json :=
  .object [("project", .string c.project), ("descriptors", .array (c.descriptors.map Descriptor.toJson))]

def ProjectSnapshot.ofJson? (j : Json) : Option ProjectSnapshot := do
  let fields ← fields? ["project", "descriptors"] j
  let project ← fields.required? string? "project"
  let descriptors ← fields.required? (list? Descriptor.ofJson?) "descriptors"
  return { project, descriptors }

def ProjectRemoval.toJson (r : ProjectRemoval) : Json := .object [("project", .string r.project)]

def ProjectRemoval.ofJson? (j : Json) : Option ProjectRemoval := do
  let fields ← fields? ["project"] j
  let project ← fields.required? string? "project"
  return { project }

def FileContent.ofJson? (j : Json) : Option FileContent :=
  ((ProjectSnapshot.ofJson? j).map .project).or ((list? Descriptor.ofJson? j).map .bare)

end TagTooltips
