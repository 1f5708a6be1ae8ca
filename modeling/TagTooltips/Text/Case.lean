/-! ASCII case is ignored in tag names and in documentation delimiters; other letters count as written. -/

namespace TagTooltips.Text

def foldCase (s : List Char) : List Char := s.map Char.toLower

def sameIgnoringCase (s t : String) : Bool := foldCase s.toList == foldCase t.toList

def indexOf? (pattern : List Char) : List Char → Option Nat
  | [] => if pattern.isEmpty then some 0 else none
  | c :: cs =>
    if pattern.isPrefixOf (c :: cs) then some 0 else (indexOf? pattern cs).map (· + 1)

end TagTooltips.Text
