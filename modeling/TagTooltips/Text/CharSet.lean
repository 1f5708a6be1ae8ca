import TagTooltips.Text.Numeral

/-! Sets of characters, and tables that tell of characters by code points in hexadecimal. -/

namespace TagTooltips.Text

def tableWords (table : String) : List (List Char) :=
  (table.toList.splitOnP (· ≤ ' ')).filter (!·.isEmpty)

def codePoint (s : List Char) : Nat := (numeral? 16 s).getD 0

def sides (mark : Char) (s : List Char) : List Char × List Char :=
  match s.dropWhile (· != mark) with
  | _ :: after => (s.takeWhile (· != mark), after)
  | [] => (s, s)

structure CharSet where
  ranges : List (Nat × Nat)

namespace CharSet

def ofTable (table : String) : CharSet where
  ranges := (tableWords table).map fun s => (codePoint (sides '-' s).1, codePoint (sides '-' s).2)

def contains (set : CharSet) (c : Char) : Bool :=
  set.ranges.any fun (first, last) => first ≤ c.toNat && c.toNat ≤ last

end CharSet

end TagTooltips.Text
