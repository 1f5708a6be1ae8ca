import TagTooltips.Json.Record
import TagTooltips.Noted

/-! The options that a client may send when it starts: descriptor files to load. -/

namespace TagTooltips

open Json

def optionsOfJson? (j : Json) : Option (List String) := do
  let fields ← fields? ["descriptorFiles"] j
  fields.optional? (list? string?) [] "descriptorFiles"

def descriptorFiles (options : Option Json) : Noted (List String) :=
  match options.map optionsOfJson? with
  | none => pure []
  | some (some paths) => pure paths
  | some none => do
    Noted.note .malformedOptions
    return []

end TagTooltips
