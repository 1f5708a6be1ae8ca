/-! Numbers written with digits of some radix, most significant digit first. -/

namespace TagTooltips.Text

def digitValue? (radix : Nat) (c : Char) : Option Nat :=
  let value :=
    if c.isDigit then c.toNat - '0'.toNat
    else if c.isUpper then c.toNat - 'A'.toNat + 10
    else if c.isLower then c.toNat - 'a'.toNat + 10
    else radix
  if value < radix then some value else none

def numeral? (radix : Nat) (s : List Char) : Option Nat :=
  s.foldlM (fun n c => (digitValue? radix c).map (n * radix + ·)) 0

end TagTooltips.Text
