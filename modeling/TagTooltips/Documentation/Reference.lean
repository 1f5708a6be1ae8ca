import TagTooltips.Signature.Segment
import TagTooltips.Text.WhiteSpace

/-! Cross-references in a summary are markers such as `<see cref="T:Ns.Type"/>`. Each is replaced by
the short name of what it points at, as inline code; all other text stays. Markers are replaced
from the last to the first. -/

namespace TagTooltips.Documentation

def dropLiteral? (literal s : List Char) : Option (List Char) :=
  if literal.isPrefixOf s then some (s.drop literal.length) else none

def isValueChar (c : Char) : Bool := c != '\x22' && c != '>'

/-- Drop the characters with property `p`, of which there is at least one, from the front of a text;
they are returned with the rest. -/
def dropSome? (p : Char → Bool) (s : List Char) : Option (List Char × List Char) :=
  if (s.takeWhile p).isEmpty then none else some (s.takeWhile p, s.dropWhile p)

def markerBody? (s : List Char) : Option (List Char × List Char) := do
  let (_, s) ← dropSome? Text.isWhiteSpace s
  let s ← dropLiteral? "cref=\x22".toList s
  let (value, s) ← dropSome? isValueChar s
  let s ← dropLiteral? ['\x22'] s
  let s ← dropLiteral? ['>'] (s.dropWhile (· != '>'))
  return (value, s)

/-- A marker at the front of a text: the value and what follows the marker. -/
def marker? (s : List Char) : Option (List Char × List Char) := do
  let s ← dropLiteral? "<see".toList s
  (markerBody? s).or ((dropLiteral? "also".toList s).bind markerBody?)

/-- A marker in a text: the number of characters before it, that up to its end, and its value. -/
structure Occurrence where
  start : Nat
  stop : Nat
  value : List Char
  deriving DecidableEq, Repr

theorem length_of_dropLiteral {literal s r : List Char} (h : dropLiteral? literal s = some r) :
    r.length = s.length - literal.length ∧ literal.length ≤ s.length := by
  unfold dropLiteral? at h
  split at h
  · rename_i hp
    cases h
    exact ⟨List.length_drop, (List.isPrefixOf_iff_prefix.mp hp).length_le⟩
  · cases h

theorem length_of_dropSome {p : Char → Bool} {s found r : List Char}
    (h : dropSome? p s = some (found, r)) : r.length ≤ s.length := by
  unfold dropSome? at h
  split at h
  · cases h
  · cases h
    exact (List.dropWhile_sublist p).length_le

theorem length_of_markerBody {s value r : List Char} (h : markerBody? s = some (value, r)) :
    r.length < s.length := by
  simp only [markerBody?, Option.bind_eq_bind, Option.pure_def, Option.bind_eq_some_iff,
    Option.some.injEq, Prod.mk.injEq, Prod.exists] at h
  obtain ⟨_, s₁, h₁, s₂, h₂, _, s₃, h₃, s₄, h₄, s₅, h₅, _, rfl⟩ := h
  have l₁ := length_of_dropSome h₁
  have l₂ := length_of_dropLiteral h₂
  have l₃ := length_of_dropSome h₃
  have l₄ := length_of_dropLiteral h₄
  have l₅ := length_of_dropLiteral h₅
  have := (List.dropWhile_sublist (· != '>') (l := s₄)).length_le
  simp only [List.length_cons, List.length_nil] at l₄ l₅
  omega

theorem length_of_marker {s value r : List Char} (h : marker? s = some (value, r)) :
    r.length < s.length := by
  simp only [marker?, Option.bind_eq_bind, Option.bind_eq_some_iff, Option.or_eq_some_iff] at h
  obtain ⟨s₁, h₁, h₂ | ⟨_, s₂, h₂, h₃⟩⟩ := h
  · exact Nat.lt_of_lt_of_le (length_of_markerBody h₂) (by have := length_of_dropLiteral h₁; omega)
  · have := length_of_dropLiteral h₁
    have := length_of_dropLiteral h₂
    have := length_of_markerBody h₃
    omega

def occurrences (passed : Nat) : List Char → List Occurrence
  | [] => []
  | c :: cs =>
    match _h : marker? (c :: cs) with
    | some (value, rest) =>
      let stop := passed + ((c :: cs).length - rest.length)
      ⟨passed, stop, value⟩ :: occurrences stop rest
    | none => occurrences (passed + 1) cs
termination_by s => s.length
decreasing_by
  · exact length_of_marker _h
  · exact Nat.lt_succ_self _

def replaceRange (start stop : Nat) (new s : List Char) : List Char :=
  s.take start ++ new ++ s.drop stop

/-- Replace markers in place. The last one goes first, so that those before it stay where they are. -/
def replaceMarkers (shown : List Char → Noted (List Char)) (found : List Occurrence) (s : List Char) :
    Noted (List Char) :=
  found.foldrM (fun o s => do return replaceRange o.start o.stop (← shown o.value) s) s

/-- The angle brackets for which braces stand in a cross-reference. -/
def angleBrackets (s : List Char) : List Char :=
  s.map fun c => if c = '{' then '<' else if c = '}' then '>' else c

def codeSpan (s : List Char) : List Char := '`' :: angleBrackets s ++ ['`']

/-- The text shown for the value of a marker: a kind, one byte that is not looked at, and a
signature. Types, properties and methods are shortened; other kinds are shown as they are. -/
def renderReference (value : List Char) : Noted (List Char) := do
  match value, Text.splitAtByte? 2 value with
  | kind :: _, some (_, s :: signature) =>
    if kind = 'T' then
      let name ← Signature.shortName (s :: signature)
      return codeSpan name
    else if kind = 'P' ∨ kind = 'M' then
      let name ← Signature.memberName (s :: signature)
      return codeSpan name
    else return s :: signature
  | _, _ =>
    Noted.note .malformedReference
    return []

def markdown (s : List Char) : Noted (List Char) := do
  let shown ← replaceMarkers renderReference (occurrences 0 s) s
  return Text.trimLines shown

end TagTooltips.Documentation
