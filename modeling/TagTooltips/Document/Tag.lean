import TagTooltips.Document.Lines
import TagTooltips.Text.Alphanumeric

/-! What a cursor points at in markup: the tag whose name it touches, or the place in an open tag
where something may be completed. Only the line of the cursor is looked at. -/

namespace TagTooltips.Document

def isNameChar (c : Char) : Bool :=
  Text.isAlphanumeric c || c == '-' || c == '_' || c == ':'

/-- The name of the tag under a cursor, which is not behind the last character of its line: all
name characters around the cursor, if there are any and they stand behind `<` or `</`. -/
def tagName? (d : Document) (p : Position) : Option String := do
  let (before, behind) ← d.split? p
  if behind.isEmpty then none
  let leftwards := before.reverse
  let name := (leftwards.takeWhile isNameChar).reverse ++ behind.takeWhile isNameChar
  if name.isEmpty then none
  match leftwards.dropWhile isNameChar with
  | '<' :: _ | '/' :: '<' :: _ => some (String.ofList name)
  | _ => none

inductive Context
  | element
  | attribute (tag : String)
  | outside
  deriving DecidableEq, Repr

def openTag? (s : List Char) : Option (List Char) :=
  if s.contains '<' then some (s.reverse.takeWhile (· != '<')).reverse else none

def isQuoted (s : List Char) : Bool := s.count '\x22' % 2 == 1 || s.count '\x27' % 2 == 1

def contextAfter (s : List Char) : Context :=
  match openTag? s with
  | none => .outside
  | some inTag =>
    let name := inTag.takeWhile isNameChar
    if inTag.contains '>' || inTag.head? == some '/' || inTag.head? == some '!' || isQuoted inTag then
      .outside
    else if name.length = inTag.length then .element
    else if name.isEmpty then .outside
    else .attribute (String.ofList name)

def context (d : Document) (p : Position) : Context :=
  match d.before? p with
  | none => .outside
  | some s => contextAfter s

end TagTooltips.Document
