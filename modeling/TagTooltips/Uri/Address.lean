import TagTooltips.Text.Numeral

/-! Numeric addresses of hosts: of four bytes, or of eight groups of two bytes. -/

namespace TagTooltips.Uri

open Text

def addressNumber? (s : List Char) : Option Nat :=
  match s with
  | [] => none
  | '0' :: 'x' :: digits | '0' :: 'X' :: digits => numeral? 16 digits
  | '0' :: d :: digits => numeral? 8 (d :: digits)
  | digits => numeral? 10 digits

def addressParts (s : List Char) : List (List Char) :=
  let parts := s.splitOn '.'
  if 1 < parts.length ∧ parts.getLast? = some [] then parts.dropLast else parts

/-- The last part of a name tells whether it is meant as an address. -/
def isNumeric (s : List Char) : Bool :=
  match (addressParts s).getLast? with
  | none | some [] => false
  | some part => part.all Char.isDigit || (addressNumber? part).isSome

def bytesOf (count n : Nat) : List Nat := (List.range count).map fun i => n / Nat.pow 256 (count - 1 - i) % 256

/-- The four bytes of an address. The last part fills the bytes that are left. -/
def shortAddress? (s : List Char) : Option (List Nat) := do
  let numbers ← (addressParts s).mapM addressNumber?
  let last ← numbers.getLast?
  let first := numbers.dropLast
  if first.length < 4 ∧ first.all (· < 256) ∧ last < Nat.pow 256 (4 - first.length) then
    return first ++ bytesOf (4 - first.length) last
  else none

def decimal (n : Nat) : List Char := Nat.toDigits 10 n

def renderShort (bytes : List Nat) : List Char := ['.'].intercalate (bytes.map decimal)

def byte? (s : List Char) : Option Nat := do
  let n ← numeral? 10 s
  if n < 256 ∧ decimal n = s then some n else none

def group? (isLast : Bool) (s : List Char) : Option (List Nat) :=
  if isLast && s.contains '.' then
    match (s.splitOn '.').mapM byte? with
    | some [a, b, c, d] => some [a * 256 + b, c * 256 + d]
    | _ => none
  else if 1 ≤ s.length ∧ s.length ≤ 4 then (numeral? 16 s).map ([·])
  else none

def groups? (isEnd : Bool) (s : List Char) : Option (List Nat) :=
  if s.isEmpty then some []
  else do
    let parts := s.splitOn ':'
    let first ← parts.dropLast.mapM (group? false)
    let last ← parts.getLast?.bind (group? isEnd)
    return first.flatten ++ last

def cutAtColons? : List Char → Option (List Char × List Char)
  | [] => none
  | ':' :: ':' :: rest => some ([], rest)
  | c :: rest => (cutAtColons? rest).map fun (before, after) => (c :: before, after)

def longAddress? (s : List Char) : Option (List Nat) :=
  match cutAtColons? s with
  | some (before, after) => do
    let before ← groups? false before
    let after ← groups? true after
    if before.length + after.length < 8 then
      return before ++ List.replicate (8 - before.length - after.length) 0 ++ after
    else none
  | none => do
    let groups ← groups? true s
    if groups.length = 8 then return groups else none

def zeros (ns : List Nat) : Nat := (ns.takeWhile (· == 0)).length

def longestZeros (ns : List Nat) : Nat :=
  (List.range ns.length).foldl
    (fun best i => if zeros (ns.drop best) < zeros (ns.drop i) then i else best) 0

def renderGroups (ns : List Nat) : List Char := [':'].intercalate (ns.map (Nat.toDigits 16))

def renderLong (ns : List Nat) : List Char :=
  let start := longestZeros ns
  let count := zeros (ns.drop start)
  if count < 2 then renderGroups ns
  else renderGroups (ns.take start) ++ [':', ':'] ++ renderGroups (ns.drop (start + count))

end TagTooltips.Uri
