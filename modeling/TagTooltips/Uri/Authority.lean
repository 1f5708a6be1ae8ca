import TagTooltips.Domain.Basic
import TagTooltips.Uri.Address
import TagTooltips.Uri.Path

/-! The authority of a URL: perhaps a user, then a host, and perhaps a number. -/

namespace TagTooltips.Uri

def forbiddenInHost : List Char :=
  ['\x00', '\t', '\n', '\x0d', ' ', '#', '/', ':', '<', '>', '?', '@', '[', '\x5c', ']', '^', '|']

def bracketed? (s : List Char) : Option (List Char) := do
  if s.getLast? != some ']' then none
  let groups ← longAddress? s.dropLast
  return '[' :: renderLong groups ++ [']']

def opaqueHost? (s : List Char) : Option (List Char) :=
  match s with
  | '[' :: s => bracketed? s
  | s => if s.any forbiddenInHost.contains then none else some (encode [] s)

def domainHost? (s : List Char) : Option (List Char) :=
  match s with
  | '[' :: s => bracketed? s
  | s => do
    let name ← Domain.ascii? (← decode? s)
    if name.isEmpty then none
    else if isNumeric name then (shortAddress? name).map renderShort
    else some name

def host? (k : Kind) (s : List Char) : Option (List Char) :=
  if k = .other then opaqueHost? s else domainHost? s

def number? (k : Kind) (s : List Char) : Option (List Char) := do
  let n ← Text.numeral? 10 s
  if 65535 < n then none
  else if s.isEmpty ∨ k = .web n then some []
  else some (':' :: decimal n)

def hostText (inBrackets : Bool) : List Char → List Char
  | [] => []
  | c :: rest =>
    if c = ':' ∧ !inBrackets then []
    else c :: hostText (if c = '[' then true else if c = ']' then false else inBrackets) rest

def user (s : List Char) : List Char :=
  let name := s.takeWhile (· != ':')
  let password := s.drop (name.length + 1)
  let shown := encode userSet name ++ (if password.isEmpty then [] else ':' :: encode userSet password)
  if shown.isEmpty then [] else shown ++ ['@']

def endsAuthority (k : Kind) (c : Char) : Bool := isSlash k.isSpecial c || endsPath c

def authority? (k : Kind) (s : List Char) : Option (List Char × List Char) := do
  let text := s.takeWhile (!endsAuthority k ·)
  let after := s.dropWhile (!endsAuthority k ·)
  let hostAndNumber := (text.reverse.takeWhile (· != '@')).reverse
  let shown := user (text.take (text.length - hostAndNumber.length - 1))
  let hostText := hostText false hostAndNumber
  let numberText := hostAndNumber.drop hostText.length
  let afterColon := numberText.drop 1
  let digits := afterColon.takeWhile (· != '\x5c')
  let host ← host? k hostText
  let number ← number? k digits
  let isBare := text.head? = some '@' ∧ hostAndNumber.isEmpty ∧ !after.isEmpty
  if host.isEmpty ∧ (!shown.isEmpty ∨ !numberText.isEmpty ∨ k.isSpecial ∨ isBare) then none
  else return (shown ++ host ++ number, afterColon.drop digits.length ++ after)

end TagTooltips.Uri
