/-! A cursor walks a signature from right to left. Each family of brackets is balanced by itself:
from a closing bracket the cursor steps to its opening partner, whatever lies between. -/

namespace TagTooltips.Signature

inductive Bracket
  | angle
  | round
  | brace
  deriving DecidableEq, Repr

namespace Bracket

def opening : Bracket → Char
  | angle => '<'
  | round => '('
  | brace => '{'

def closing : Bracket → Char
  | angle => '>'
  | round => ')'
  | brace => '}'

/-- The number of open groups of a family to the left of a character, from the number to its right. -/
def depthLeft (b : Bracket) (depth : Nat) (x : Char) : Nat :=
  if x = b.closing then depth + 1 else if x = b.opening then depth - 1 else depth

def all : List Bracket := [angle, round, brace]

end Bracket

/-- A text split at a character. `left` runs from that character leftwards, `right` from the one
behind it rightwards. -/
structure Cursor where
  left : List Char
  right : List Char
  deriving DecidableEq, Repr

namespace Cursor

def ofEnd (s : List Char) : Cursor := ⟨s.reverse, []⟩

def text (c : Cursor) : List Char := c.left.reverse ++ c.right

/-- Walk left until `depth` open groups of one family are closed off, and stop on the opening
bracket that does so; `none` at the start of the text. -/
def seek (b : Bracket) (depth : Nat) : List Char → List Char → Option Cursor
  | [], _ => none
  | x :: left, right =>
    if b.depthLeft depth x = 0 then some ⟨x :: left, right⟩
    else seek b (b.depthLeft depth x) left (x :: right)

/-- On a closing bracket of the family, step to its partner; elsewhere stay. -/
def skip (b : Bracket) (c : Cursor) : Option Cursor :=
  match c.left with
  | [] => some c
  | x :: left => if x = b.closing then seek b 1 left (x :: c.right) else some c

def skipAll (order : List Bracket) (c : Cursor) : Option Cursor := order.foldlM (fun c b => c.skip b) c

theorem length_of_seek {b : Bracket} {depth : Nat} {left right : List Char} {c : Cursor}
    (h : seek b depth left right = some c) : c.left.length ≤ left.length := by
  induction left generalizing depth right with
  | nil => simp [seek] at h
  | cons x left ih =>
    rw [seek] at h
    split at h
    · cases h; simp
    · exact Nat.le_succ_of_le (ih h)

theorem length_of_skip {b : Bracket} {c d : Cursor} (h : c.skip b = some d) :
    d.left.length ≤ c.left.length := by
  unfold skip at h
  split at h
  · cases h; simp
  · rename_i x left hleft
    split at h
    · have := length_of_seek h
      simp only [hleft, List.length_cons]
      omega
    · cases h; simp

theorem length_of_skipAll {order : List Bracket} {c d : Cursor} (h : c.skipAll order = some d) :
    d.left.length ≤ c.left.length := by
  induction order generalizing c with
  | nil => cases h; simp
  | cons b order ih =>
    simp only [skipAll, List.foldlM_cons, Option.bind_eq_bind, Option.bind_eq_some_iff] at h
    obtain ⟨e, he, hd⟩ := h
    exact Nat.le_trans (ih hd) (length_of_skip he)

end Cursor

end TagTooltips.Signature
