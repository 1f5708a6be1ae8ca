import TagTooltips.Json.Basic
import TagTooltips.Text.Numeral

/-! Reading JSON text. The grammar is strict: no comments, trailing commas, byte order mark or raw
control characters. An escape with half of a surrogate pair is read, but leaves no text. -/

namespace TagTooltips.Json

def isBlank (c : Char) : Bool := c == ' ' || c == '\t' || c == '\n' || c == '\x0d'

def skipBlanks (s : List Char) : List Char := s.dropWhile isBlank

def unescape? (c : Char) : Option Char :=
  if c = '\x22' ∨ c = '\x5c' ∨ c = '/' then some c
  else if c = 'b' then some '\x08'
  else if c = 'f' then some '\x0c'
  else if c = 'n' then some '\n'
  else if c = 'r' then some '\x0d'
  else if c = 't' then some '\t'
  else none

/-- A part of a string literal: a character or half of a surrogate pair. -/
inductive Part
  | char (c : Char)
  | half (unit : Nat)
  deriving DecidableEq, Repr

def Part.ofUnit (n : Nat) : Part :=
  if 0xd800 ≤ n ∧ n ≤ 0xdfff then .half n else .char (Char.ofNat n)

def parts? : List Char → Option (List Part × List Char)
  | [] => none
  | '\x5c' :: 'u' :: a :: b :: c :: d :: rest => do
    let unit ← Text.numeral? 16 [a, b, c, d]
    let (parts, rest) ← parts? rest
    return (.ofUnit unit :: parts, rest)
  | '\x5c' :: e :: rest => do
    let c ← unescape? e
    let (parts, rest) ← parts? rest
    return (.char c :: parts, rest)
  | c :: rest =>
    if c = '\x22' then some ([], rest)
    else if c.toNat < 0x20 ∨ c = '\x5c' then none
    else do
      let (parts, rest) ← parts? rest
      return (.char c :: parts, rest)

def joinParts? : List Part → Option (List Char)
  | [] => some []
  | .char c :: rest => (joinParts? rest).map (c :: ·)
  | .half high :: .half low :: rest =>
    if high < 0xdc00 ∧ 0xdc00 ≤ low then
      (joinParts? rest).map (Char.ofNat (0x10000 + (high - 0xd800) * 0x400 + (low - 0xdc00)) :: ·)
    else none
  | .half _ :: _ => none

def literal? (s : List Char) : Option (Option String × List Char) :=
  (parts? s).map fun (parts, rest) => ((joinParts? parts).map String.ofList, rest)

def digitsOf (s : List Char) : List Nat := (s.takeWhile Char.isDigit).map (·.toNat - 48)

def afterDigits (s : List Char) : List Char := s.dropWhile Char.isDigit

def fraction? : List Char → Option (List Nat × List Char)
  | '.' :: s => if (digitsOf s).isEmpty then none else some (digitsOf s, afterDigits s)
  | s => some ([], s)

def exponent? : List Char → Option (Option Int × List Char)
  | [] => some (none, [])
  | e :: s =>
    if e = 'e' ∨ e = 'E' then
      let (negative, s) := match s with
        | '-' :: s => (true, s)
        | '+' :: s => (false, s)
        | s => (false, s)
      let magnitude : Nat := (digitsOf s).foldl (fun n d => n * 10 + d) 0
      if (digitsOf s).isEmpty then none
      else some (some (if negative then -(magnitude : Int) else magnitude), afterDigits s)
    else some (none, e :: s)

def number? (s : List Char) : Option (Number × List Char) := do
  let (negative, s) := match s with
    | '-' :: s => (true, s)
    | s => (false, s)
  let whole := digitsOf s
  guard (!whole.isEmpty && (whole.head? != some 0 || whole.length == 1))
  let (fraction, s) ← fraction? (afterDigits s)
  let (exponent, s) ← exponent? s
  return (Number.ofDigits negative whole fraction exponent, s)

def word? (s : List Char) : Option (Json × List Char) :=
  if "null".toList.isPrefixOf s then some (.null, s.drop 4)
  else if "true".toList.isPrefixOf s then some (.bool true, s.drop 4)
  else if "false".toList.isPrefixOf s then some (.bool false, s.drop 5)
  else none

/-- An object, unless one of its keys has no text. -/
def ofKeyed (members : List (Option String × Json)) : Json :=
  match members.mapM fun (key?, j) => key?.map (·, j) with
  | some members => .object members
  | none => .unpaired

mutual

/-- A value at the front of a text without leading blanks, and what follows it. The first argument
bounds the number of steps. -/
def value? : Nat → List Char → Option (Json × List Char)
  | 0, _ => none
  | _, [] => none
  | n + 1, c :: s =>
    if c = '\x22' then (literal? s).map fun (text?, rest) => ((text?.map .string).getD .unpaired, rest)
    else if c = '[' then
      match skipBlanks s with
      | ']' :: rest => some (.array [], rest)
      | s => (items? n s).map fun (items, rest) => (.array items, rest)
    else if c = '{' then
      match skipBlanks s with
      | '}' :: rest => some (.object [], rest)
      | s => (members? n s).map fun (members, rest) => (ofKeyed members, rest)
    else if c = '-' || c.isDigit then (number? (c :: s)).map fun (n, rest) => (.number n, rest)
    else word? (c :: s)

def items? : Nat → List Char → Option (List Json × List Char)
  | 0, _ => none
  | n + 1, s => do
    let (item, s) ← value? n s
    match skipBlanks s with
    | ',' :: s => do
      let (items, s) ← items? n (skipBlanks s)
      return (item :: items, s)
    | ']' :: s => return ([item], s)
    | _ => none

def members? : Nat → List Char → Option (List (Option String × Json) × List Char)
  | 0, _ => none
  | n + 1, s => do
    let s ← match s with
      | '\x22' :: s => some s
      | _ => none
    let (key, s) ← literal? s
    let s ← match skipBlanks s with
      | ':' :: s => some (skipBlanks s)
      | _ => none
    let (item, s) ← value? n s
    match skipBlanks s with
    | ',' :: s => do
      let (members, s) ← members? n (skipBlanks s)
      return ((key, item) :: members, s)
    | '}' :: s => return ([(key, item)], s)
    | _ => none

end

def ofText? (s : List Char) : Option Json := do
  let s := skipBlanks s
  let (j, rest) ← value? (s.length + 1) s
  if (skipBlanks rest).isEmpty then some j else none

def maxDepth : Nat := 127

/-- Read a text of which every part must be sound, also those that nobody looks at. -/
def ofTextStrict? (s : List Char) : Option Json := do
  let j ← ofText? s
  if j.isSound && j.depth ≤ maxDepth then some j else none

end TagTooltips.Json
