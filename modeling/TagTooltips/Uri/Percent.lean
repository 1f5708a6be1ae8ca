import TagTooltips.Text.Numeral

/-! Percent encoding: a character as its bytes, each as a percent sign and two hexadecimal digits. -/

namespace TagTooltips.Uri

def hexDigit (n : Nat) : Char := (Nat.digitChar n).toUpper

def percent (c : Char) : List Char :=
  (String.singleton c).toUTF8.toList.flatMap fun b => ['%', hexDigit (b.toNat / 16), hexDigit (b.toNat % 16)]

def encode (set : List Char) (s : List Char) : List Char :=
  s.flatMap fun c => if c.toNat < 0x20 ∨ 0x7e < c.toNat ∨ c ∈ set then percent c else [c]

def fragmentSet : List Char := [' ', '\x22', '<', '>', '`']

def querySet (special : Bool) : List Char :=
  [' ', '\x22', '#', '<', '>'] ++ (if special then ['\x27'] else [])

def pathSet : List Char := fragmentSet ++ ['#', '?', '\x7b', '\x7d']

def userSet : List Char := pathSet ++ ['/', ':', ';', '=', '@', '[', '\x5c', ']', '^', '|']

def bytes : List Char → List UInt8
  | [] => []
  | '%' :: a :: b :: rest =>
    match Text.digitValue? 16 a, Text.digitValue? 16 b with
    | some a, some b => UInt8.ofNat (a * 16 + b) :: bytes rest
    | _, _ => '%'.toNat.toUInt8 :: bytes (a :: b :: rest)
  | c :: rest => (String.singleton c).toUTF8.toList ++ bytes rest

def decode? (s : List Char) : Option (List Char) :=
  (String.fromUTF8? ⟨(bytes s).toArray⟩).map (·.toList)

end TagTooltips.Uri
