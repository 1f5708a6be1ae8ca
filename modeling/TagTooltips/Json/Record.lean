import TagTooltips.Json.Basic

/-! Records in JSON. A record is read from an object, where unknown keys are skipped and a known one
may not be repeated, or from an array with the fields in their order. -/

namespace TagTooltips.Json

abbrev Fields := List (String × Json)

def knownMembers? (names : List String) (members : List (String × Json)) : Option Fields :=
  let known := members.filter fun member => names.contains member.1
  if (known.map (·.1)).Nodup then some known else none

/-- Read a record of which the last fields may be left off in an array. -/
def fields? (names : List String) : Json → Option Fields
  | .object members => knownMembers? names members
  | .array items => if items.length ≤ names.length then some (names.zip items) else none
  | _ => none

def objectFields? (names : List String) : Json → Option Fields
  | .object members => knownMembers? names members
  | _ => none

namespace Fields

def required? {α : Type} (read : Json → Option α) (name : String) (fields : Fields) : Option α :=
  (fields.lookup name).bind read

def optional? {α : Type} (read : Json → Option α) (default : α) (name : String) (fields : Fields) :
    Option α :=
  match fields.lookup name with
  | none => some default
  | some j => read j

/-- Read a field that may be `null` or missing. -/
def absent? {α : Type} (read : Json → Option α) (name : String) (fields : Fields) : Option (Option α) :=
  fields.optional? (nullable? read) none name

end Fields

end TagTooltips.Json
