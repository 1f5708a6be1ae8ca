/-! How alike two words are. Characters match if they are equal and not too far apart; the measure is
high if most characters match and the matches come in the same order on both sides. -/

namespace TagTooltips.Text

def placed (s : List Char) : List (Nat × Char) := (List.range s.length).zip s

/-- The places that match the characters of a word: each character in turn takes the first free place
that holds the same one and is at most `reach` away. -/
def matched (reach : Nat) : List (Nat × Char) → List (Nat × Char) → List (Nat × Char)
  | [], _ => []
  | (i, c) :: rest, free =>
    match free.find? fun (j, d) => d == c && i ≤ j + reach && j ≤ i + reach with
    | some place => place :: matched reach rest (free.erase place)
    | none => matched reach rest free

def displaced (s : List Char) (found : List (Nat × Char)) : Nat :=
  let inOrder := (placed s).filter found.contains
  (found.zip inOrder).countP fun ((_, c), (_, d)) => c != d

structure Similarity where
  share : Nat
  whole : Nat
  deriving DecidableEq, Repr

namespace Similarity

/-- The mean of three shares: of the matches in either word, and of the matches that are in order,
where two displaced ones count as one. -/
def between (s t : List Char) : Similarity :=
  let found := matched (max s.length t.length / 2 - 1) (placed s) (placed t)
  let count := found.length
  let ordered := count - displaced t found / 2
  if count = 0 then ⟨0, 1⟩
  else ⟨count * count * t.length + count * count * s.length + ordered * s.length * t.length,
    3 * s.length * t.length * count⟩

def isHigh (x : Similarity) : Bool := 7 * x.whole ≤ 10 * x.share

def atLeast (x y : Similarity) : Bool := y.share * x.whole ≤ x.share * y.whole

end Similarity

def closest? (s : List Char) : List (List Char) → Option (List Char) :=
  List.foldl (fun best candidate =>
    let x := Similarity.between s candidate
    if x.isHigh && best.all (fun b => x.atLeast (.between s b)) then some candidate else best) none

end TagTooltips.Text
