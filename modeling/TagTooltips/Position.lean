/-! A cursor position: a line and an offset in UTF-16 units, both counted from zero. -/

namespace TagTooltips

structure Position where
  line : Nat
  character : Nat
  deriving DecidableEq, Repr

def Position.describe (p : Position) : String :=
  "Position \x7b line: " ++ toString p.line ++ ", character: " ++ toString p.character ++ " \x7d"

end TagTooltips
