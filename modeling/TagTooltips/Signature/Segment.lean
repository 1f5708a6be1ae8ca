import TagTooltips.Noted
import TagTooltips.Signature.Cursor
import TagTooltips.Text.Measure

/-! A tooltip shows the last segment of a signature: what follows its last dot outside all groups.
A signature with a bracket that closes nothing is shown whole. -/

namespace TagTooltips.Signature

inductive Cut
  /-- At the last dot outside all groups. -/
  | dot (owner name : List Char)
  /-- There is no such dot. -/
  | whole
  /-- A closing bracket has no partner. -/
  | unbalanced
  deriving DecidableEq, Repr

def cutFrom (order : List Bracket) (c : Cursor) : Cut :=
  match _h : c.skipAll order with
  | none => .unbalanced
  | some ⟨[], _⟩ => .whole
  | some ⟨x :: left, right⟩ =>
    if x = '.' then .dot left.reverse right else cutFrom order ⟨left, x :: right⟩
termination_by c.left.length
decreasing_by exact Cursor.length_of_skipAll _h

def cut (s : List Char) : Cut := cutFrom Bracket.all (.ofEnd s)

def Cut.shown (s : List Char) : Cut → List Char
  | .dot _ name => name
  | _ => s

def shortName (s : List Char) : Noted (List Char) := do
  let c := cut s
  Noted.noteIf (c == .unbalanced) .unbalancedGroup
  return c.shown s

/-- The last segment of the beginning of a signature that ends with the character at a byte
offset; an offset beyond the end means the whole signature. -/
def shortNameUpTo (s : List Char) (index : Nat) : Noted (List Char) :=
  shortName (Text.covering Char.utf8Size (index + 1) s)

/-- The last segment of a member's signature and, before it, that of its owner, which ends at the
byte before the dot. -/
def memberName (s : List Char) : Noted (List Char) := do
  let member ← shortName s
  let total := Text.byteLength s
  let size := Text.byteLength member
  if size = total then return member
  if size + 2 ≤ total then
    let owner ← shortNameUpTo s (total - (size + 2))
    return owner ++ '.' :: member
  return member

end TagTooltips.Signature
