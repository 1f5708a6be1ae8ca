import TagTooltips.Domain.Label

/-! Domain names, as labels between dots. A name that is not all ASCII has an ASCII form, which is the one
that addresses hold. -/

namespace TagTooltips.Domain

/-- No label is in ASCII form, so that capital letters are all that there is to bring to one spelling. -/
def isPlain (s : List Char) : Bool :=
  s.all Punycode.isAscii && !(s.splitOn '.').any fun label => asciiMark.isPrefixOf (label.map Char.toLower)

def directionsFit (labels : List Label) : Bool :=
  !labels.any (needsDirection ·.text) || labels.all fun l => l.text.isEmpty || hasDirection l.text

def ascii? (s : List Char) : Option (List Char) :=
  if isPlain s then
    if s.any isForbidden then none else some (s.map Char.toLower)
  else do
    let labels ← ((← canonical? s).splitOn '.').mapM Label.ofText?
    if directionsFit labels then return ['.'].intercalate (labels.map (·.ascii)) else none

end TagTooltips.Domain
