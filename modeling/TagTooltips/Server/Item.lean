import TagTooltips.Candidate.Completion
import TagTooltips.Candidate.Resolution
import TagTooltips.Server.Shape.Document

/-! Completion items are candidates as a client sees them. A client may send one back to have its
tooltip built; all its fields come back as they were, but for the documentation. -/

namespace TagTooltips

def markdown (text : String) : Json :=
  .object [("kind", .string "markdown"), ("value", .string text)]

structure CompletionItem where
  label : String
  kind : Option Int
  detail : Option String
  documentation : Option Json
  data : Option Json
  others : List (String × Json)

namespace CompletionItem

def namedFields : List String := ["label", "kind", "detail", "documentation", "data"]

def ofJson? (j : Json) : Option CompletionItem := do
  let j ← Shape.completionItem.canonical? j
  let members ← match j with
    | .object members => some members
    | _ => none
  let label ← (j.member? "label").bind Json.string?
  return {
    label
    kind := (j.member? "kind").bind Json.int32?
    detail := (j.member? "detail").bind Json.string?
    documentation := j.member? "documentation"
    data := j.member? "data"
    others := members.filter fun member => !namedFields.contains member.1 }

def toJson (item : CompletionItem) : Json :=
  .object ((([("label", some (.string item.label)), ("kind", item.kind.map .ofInt),
    ("detail", item.detail.map .string), ("documentation", item.documentation),
    ("data", item.data)] : List (String × Option Json)).filterMap fun (name, j?) => j?.map (name, ·)) ++
    item.others)

def kindCode : CandidateKind → Int
  | .element => 7
  | .attribute => 10

def ofCandidate (c : Candidate) : CompletionItem where
  label := c.label
  kind := some (kindCode c.kind)
  detail := some c.detail
  documentation := none
  data := c.payload.data?
  others := []

def resolve (lookup : Lookup) (item : CompletionItem) : Noted CompletionItem := do
  let tooltip ← Payload.tooltipOfData lookup item.data
  return match tooltip with
  | some text => { item with documentation := some (markdown text) }
  | none => item

end CompletionItem

end TagTooltips
