import TagTooltips.Json.Number

/-! JSON values. An object keeps its members in order, repeated keys and all: reading a record from a
text has to see the repetition, while a value that a client sends keeps the last member of a key
(`lastMembers`). -/

namespace TagTooltips

inductive Json where
  | null
  | bool (b : Bool)
  | number (n : Number)
  | string (s : String)
  | array (items : List Json)
  | object (members : List (String × Json))
  /-- A string, or an object with a key, that holds half of a surrogate pair. It can be skipped
  over, but it has no text. -/
  | unpaired
  deriving Inhabited

namespace Json

def ofNat (n : Nat) : Json := .number (.integer n)

def ofInt (i : Int) : Json := .number (.integer i)

def ofOption : Option String → Json
  | none => .null
  | some s => .string s

def string? : Json → Option String
  | .string s => some s
  | _ => none

def bool? : Json → Option Bool
  | .bool b => some b
  | _ => none

def natBelow? (bound : Nat) : Json → Option Nat
  | .number n => n.natBelow? bound
  | _ => none

def nat32? : Json → Option Nat := natBelow? 0x100000000

def int32? : Json → Option Int
  | .number n => n.int32?
  | _ => none

def list? {α : Type} (read : Json → Option α) : Json → Option (List α)
  | .array items => items.mapM read
  | _ => none

def nullable? {α : Type} (read : Json → Option α) : Json → Option (Option α)
  | .null => some none
  | j => (read j).map some

def member? (key : String) : Json → Option Json
  | .object members => members.lookup key
  | _ => none

def ofMembers (members : List (String × Option Json)) : Json :=
  .object (members.filterMap fun (key, value?) => value?.map (key, ·))

mutual

def depth : Json → Nat
  | .array items => depthOfItems items + 1
  | .object members => depthOfMembers members + 1
  | _ => 0

def depthOfItems : List Json → Nat
  | [] => 0
  | j :: js => max j.depth (depthOfItems js)

def depthOfMembers : List (String × Json) → Nat
  | [] => 0
  | (_, j) :: js => max j.depth (depthOfMembers js)

end

mutual

/-- Every string has a text and every number fits a double. -/
def isSound : Json → Bool
  | .array items => itemsSound items
  | .object members => membersSound members
  | .number n => n.isFinite
  | .unpaired => false
  | _ => true

def itemsSound : List Json → Bool
  | [] => true
  | j :: js => j.isSound && itemsSound js

def membersSound : List (String × Json) → Bool
  | [] => true
  | (_, j) :: js => j.isSound && membersSound js

end

def keepLast : List (String × Json) → List (String × Json)
  | [] => []
  | (key, j) :: rest => if rest.any (·.1 == key) then keepLast rest else (key, j) :: keepLast rest

mutual

def lastMembers : Json → Json
  | .array items => .array (lastInItems items)
  | .object members => .object (keepLast (lastInMembers members))
  | j => j

def lastInItems : List Json → List Json
  | [] => []
  | j :: js => j.lastMembers :: lastInItems js

def lastInMembers : List (String × Json) → List (String × Json)
  | [] => []
  | (key, j) :: js => (key, j.lastMembers) :: lastInMembers js

end

end Json

end TagTooltips
