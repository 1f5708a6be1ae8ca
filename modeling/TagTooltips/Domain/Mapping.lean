import TagTooltips.Domain.Mapping.Table
import TagTooltips.Text.Composition

/-! Different spellings of a domain name are brought to one: capital letters become small, width and
other variants of a character become that character, and the text is composed. -/

namespace TagTooltips.Domain

open Text

structure Replacement where
  first : Nat
  last : Nat
  step : Nat
  target : List Nat
  deriving DecidableEq, Repr

namespace Replacement

def ofWord (s : List Char) : Replacement :=
  let (source, target) := sides '>' s
  let (first, last) := if source.contains '/' then sides '/' source else sides '-' source
  { first := codePoint first
    last := codePoint last
    step := if source.contains '/' then 2 else 1
    target := (target.splitOn '.').map codePoint }

def image? (r : Replacement) (c : Char) : Option (List Char) :=
  let n := c.toNat
  if r.first ≤ n ∧ n ≤ r.last ∧ (n - r.first) % r.step = 0 then
    match r.target with
    | [] => some []
    | t :: ts => some (((t + (n - r.first)) :: ts).map Char.ofNat)
  else none

end Replacement

def replacements : List Replacement := (tableWords replacementTable).map .ofWord

def ignored : CharSet := .ofTable ignoredTable

def disallowed : CharSet := .ofTable disallowedTable

def mapped? (c : Char) : Option (List Char) :=
  if disallowed.contains c then none
  else if ignored.contains c then some []
  else some ((replacements.findSome? (·.image? c)).getD [c])

def canonical? (s : List Char) : Option (List Char) := do
  let parts ← s.mapM mapped?
  return composed parts.flatten

end TagTooltips.Domain
