/-! Text is cut by measures: a character counts for its UTF-8 bytes or its UTF-16 units.
A cut inside a character either widens to its end (`covering`) or is refused (`splitAtByte?`). -/

namespace TagTooltips.Text

/-- The UTF-16 units of a character: two beyond the basic plane. -/
def utf16Size (c : Char) : Nat := if c.toNat < 0x10000 then 1 else 2

def measure (size : Char → Nat) : List Char → Nat
  | [] => 0
  | c :: cs => size c + measure size cs

def byteLength (s : List Char) : Nat := measure Char.utf8Size s

def utf16Length (s : List Char) : Nat := measure utf16Size s

/-- The shortest beginning of a text that measures at least `n`, or all of it. -/
def covering (size : Char → Nat) (n : Nat) : List Char → List Char
  | [] => []
  | c :: cs => if n = 0 then [] else c :: covering size (n - size c) cs

/-- Cut a text at a byte offset; `none` beyond its end or inside a character. -/
def splitAtByte? (n : Nat) : List Char → Option (List Char × List Char)
  | [] => if n = 0 then some ([], []) else none
  | c :: cs =>
    if n = 0 then some ([], c :: cs)
    else if n < c.utf8Size then none
    else (splitAtByte? (n - c.utf8Size) cs).map fun (a, b) => (c :: a, b)

def betweenBytes? (start stop : Nat) (s : List Char) : Option (List Char) :=
  if start ≤ stop then do
    let (upTo, _) ← splitAtByte? stop s
    let (_, inner) ← splitAtByte? start upTo
    some inner
  else none

end TagTooltips.Text
