import TagTooltips.Domain.Mapping
import TagTooltips.Domain.Punycode
import TagTooltips.Text.Direction
import TagTooltips.Text.Joining

/-! The labels of a domain name, between dots. A label may come in its ASCII form; the rules are about
the text that it stands for. -/

namespace TagTooltips.Domain

open Text

def asciiMark : List Char := ['x', 'n', '-', '-']

def isForbidden (c : Char) : Bool :=
  c ≤ ' ' || c == '\x7f' || "%#/:<>?@[\x5c]^|".toList.contains c

def isVirama (c : Char) : Bool := markClass c == 9

def nonJoiner : Char := '\u200c'

def joiner : Char := '\u200d'

/-- The nearest character that letters do not join across is in a set. -/
def meets (set : CharSet) (s : List Char) : Bool :=
  ((s.dropWhile joiningThrough.contains).head?).any set.contains

/-- A joiner or non-joiner stands after a virama, or a non-joiner between letters that would join. The
characters before are in reverse order. -/
def joinersFit (before : List Char) : List Char → Bool
  | [] => true
  | c :: rest =>
    let afterVirama := before.head?.any isVirama
    let parts := meets joiningForward before && meets joiningBackward rest
    let fits :=
      if c = nonJoiner then afterVirama || parts
      else if c = joiner then afterVirama
      else true
    fits && joinersFit (c :: before) rest

def isWellFormed (s : List Char) : Bool := !s.head?.any marks.contains && joinersFit [] s

/-- A label that is written from right to left, or has digits that go with such letters. -/
def needsDirection (s : List Char) : Bool :=
  s.any fun c => direction c == .rightToLeft || direction c == .arabicNumber

def hasDirection (s : List Char) : Bool :=
  let ds := s.map direction
  let last := (ds.reverse.dropWhile (· == .attached)).head?
  match ds.head? with
  | some .leftToRight =>
    ds.all [.leftToRight, .europeanNumber, .neutral, .attached].contains &&
      last.any [.leftToRight, .europeanNumber].contains
  | some .rightToLeft =>
    ds.all [.rightToLeft, .arabicNumber, .europeanNumber, .neutral, .attached].contains &&
      last.any [.rightToLeft, .arabicNumber, .europeanNumber].contains &&
      !(ds.contains .arabicNumber && ds.contains .europeanNumber)
  | _ => false

structure Label where
  ascii : List Char
  text : List Char
  deriving DecidableEq, Repr

/-- The most characters of a label that has an ASCII form of its own. -/
def longestText : Nat := 1000

/-- The most characters behind the mark of an ASCII form that is read. -/
def longestAscii : Nat := 2000

def isSpelledOut (s : List Char) : Bool := s.length ≤ longestText && isWellFormed s

def Label.ofText? (s : List Char) : Option Label :=
  if s.any isForbidden then none
  else if asciiMark.isPrefixOf s then
    let digits := s.drop asciiMark.length
    match if digits.length ≤ longestAscii then Punycode.decode? digits else none with
    | none => none
    | some text =>
      if text.all Punycode.isAscii || canonical? text != some text || !isSpelledOut text then none
      else some ⟨s, text⟩
  else if s.all Punycode.isAscii then some ⟨s, s⟩
  else if isSpelledOut s then some ⟨asciiMark ++ Punycode.encode s, s⟩
  else none

end TagTooltips.Domain
