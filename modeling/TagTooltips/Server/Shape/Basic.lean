import TagTooltips.Json.Record
import TagTooltips.Uri.Basic

/-! The shapes of the messages that a client sends. A value of a shape has one written form: records
as objects with the fields they know, without those that are absent. -/

namespace TagTooltips

inductive Presence
  | needed
  /-- It may be `null`, or missing from an object. -/
  | maybe
  /-- It may be missing, from the end of an array as well. -/
  | omissible
  deriving DecidableEq, Repr

inductive Shape where
  | any
  | nothing
  | text
  | flag
  | number
  | int32
  | nat32
  | url
  | word (words : List String)
  | list (item : Shape)
  | pair (first second : Shape)
  /-- Members of which the keys, as texts, and the values have shapes. -/
  | mapping (key value : Shape)
  /-- Fields with their names, in an object or, in this order, in an array. -/
  | record (fields : List (String × Presence × Shape))
  /-- Fields with their names, in an object only. -/
  | flat (fields : List (String × Presence × Shape))
  /-- Fields in an object of which all other members have one shape. -/
  | extended (fields : List (String × Presence × Shape)) (others : Shape)
  /-- One of several shapes, told by a tag: a member of an object, or the first item of an array. A tag is
  the name of a case or its place among the cases. -/
  | tagged (key : String) (cases : List (String × Shape))
  | either (first second : Shape)

namespace Shape

open Json

abbrev Layout := List (String × Presence × Shape)

/-- One of some words, by itself or as the key of `null`. -/
def word? (words : List String) (j : Json) : Option String := do
  let w ← match j with
    | .string w => some w
    | .object [(w, .null)] => some w
    | _ => none
  if words.contains w then some w else none

def fieldsOf? (layout : Layout) (j : Json) : Option Fields :=
  let missing := match j with
    | .array items => layout.drop items.length
    | _ => []
  if missing.all (·.2.1 == .omissible) then fields? (layout.map (·.1)) j else none

def members? : Json → Option (List (String × Json))
  | .object members => some members
  | _ => none

def untag? (key : String) : Json → Option (Json × Json)
  | .object members =>
    (members.lookup key).map fun tag => (tag, .object (members.filter (·.1 != key)))
  | .array (tag :: items) => some (tag, .array items)
  | _ => none

def tagName? (names : List String) : Json → Option String
  | .string name => some name
  | j => (natBelow? names.length j).bind (names[·]?)

mutual

def canonical? : Shape → Json → Option Json
  | any, j => some j
  | nothing, j => if j matches .null then some .null else none
  | text, j => (string? j).map .string
  | flag, j => (bool? j).map .bool
  | number, j => if j matches .number _ then some j else none
  | int32, j => (Json.int32? j).map .ofInt
  | nat32, j => (Json.nat32? j).map .ofNat
  | url, j => ((string? j).bind Uri.normalize?).map .string
  | word words, j => (word? words j).map .string
  | list item, j => (list? item.canonical? j).map .array
  | pair first second, j => do
    let [a, b] ← list? some j | none
    return .array [← first.canonical? a, ← second.canonical? b]
  | mapping key value, j => do
    let members ← (← members? j).mapM fun (k, j) => do
      let k ← (key.canonical? (.string k)).bind string?
      return (k, ← value.canonical? j)
    return .object members
  | record layout, j => do
    let found ← fieldsOf? layout j
    return .object (← canonicalFields? layout found)
  | flat layout, j => do
    let found ← objectFields? (layout.map (·.1)) j
    return .object (← canonicalFields? layout found)
  | extended layout others, j => do
    let found ← objectFields? (layout.map (·.1)) j
    let named ← canonicalFields? layout found
    let rest := (← members? j).filter fun member => !(layout.map (·.1)).contains member.1
    let rest ← rest.mapM fun (k, j) => return (k, ← others.canonical? j)
    return .object (named ++ rest)
  | tagged key cases, j => do
    let (tag, j) ← untag? key j
    let tag ← tagName? (cases.map (·.1)) tag
    let members ← (← canonicalCase? tag cases j) |> members?
    return .object ((key, .string tag) :: members)
  | either first second, j => (first.canonical? j).or (second.canonical? j)

def canonicalFields? : List (String × Presence × Shape) → Fields → Option (List (String × Json))
  | [], _ => some []
  | (name, presence, shape) :: rest, found => do
    let value ← match presence with
      | .needed => (found.required? shape.canonical? name).map some
      | .maybe => found.absent? shape.canonical? name
      | .omissible => found.optional? (fun j => (shape.canonical? j).map some) none name
    let members ← canonicalFields? rest found
    return (value.map fun j => (name, j)).toList ++ members

def canonicalCase? (tag : String) : List (String × Shape) → Json → Option Json
  | [], _ => none
  | (name, shape) :: cases, j => if name = tag then shape.canonical? j else canonicalCase? tag cases j

end

def needed (name : String) (shape : Shape) : String × Presence × Shape := (name, .needed, shape)

def maybe (name : String) (shape : Shape) : String × Presence × Shape := (name, .maybe, shape)

def omissible (name : String) (shape : Shape) : String × Presence × Shape := (name, .omissible, shape)

end Shape

end TagTooltips
