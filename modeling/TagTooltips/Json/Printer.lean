import TagTooltips.Json.Basic

/-! JSON text without blanks. Only quotes, backslashes and control characters are escaped. -/

namespace TagTooltips.Json

def hexDigit (n : Nat) : Char := if n < 10 then Char.ofNat (48 + n) else Char.ofNat (87 + n)

def escape (c : Char) : List Char :=
  if c = '\x22' then ['\x5c', '\x22']
  else if c = '\x5c' then ['\x5c', '\x5c']
  else if c = '\n' then ['\x5c', 'n']
  else if c = '\x0d' then ['\x5c', 'r']
  else if c = '\t' then ['\x5c', 't']
  else if c = '\x08' then ['\x5c', 'b']
  else if c = '\x0c' then ['\x5c', 'f']
  else if c.toNat < 0x20 then
    ['\x5c', 'u', '0', '0', hexDigit (c.toNat / 16), hexDigit (c.toNat % 16)]
  else [c]

def quote (s : List Char) : List Char := '\x22' :: s.flatMap escape ++ ['\x22']

mutual

def render : Json → List Char
  | .null => "null".toList
  | .bool b => if b then "true".toList else "false".toList
  | .number n => n.render
  | .string s => quote s.toList
  | .array [] => ['[', ']']
  | .array (j :: js) => '[' :: j.render ++ renderItems js
  | .object [] => ['{', '}']
  | .object ((key, j) :: js) => '{' :: quote key.toList ++ ':' :: j.render ++ renderMembers js
  | .unpaired => "null".toList

def renderItems : List Json → List Char
  | [] => [']']
  | j :: js => ',' :: j.render ++ renderItems js

def renderMembers : List (String × Json) → List Char
  | [] => ['}']
  | (key, j) :: js => ',' :: quote key.toList ++ ':' :: j.render ++ renderMembers js

end

end TagTooltips.Json
