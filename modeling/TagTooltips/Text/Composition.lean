import TagTooltips.Text.Composition.Table
import TagTooltips.Text.Mark

/-! A text can spell a letter with marks as one character or as several. In composed form marks are in
the order of their classes and what can be one character is one. -/

namespace TagTooltips.Text

structure Composite where
  whole : Char
  first : Char
  second : Char
  deriving DecidableEq, Repr

def composites : List Composite :=
  (tableWords compositeTable).map fun s =>
    let (whole, parts) := sides '=' s
    let (first, second) := sides '+' parts
    ⟨.ofNat (codePoint whole), .ofNat (codePoint first), .ofNat (codePoint second)⟩

/-! A Korean syllable stands for a consonant, a vowel and perhaps a second consonant. The syllables are
in the order of these parts: 21 vowels to a consonant, 28 endings to a vowel, of which the first is none. -/

namespace Hangul

def parts? (c : Char) : Option (Char × Char) :=
  let n := c.toNat - 0xac00
  if c.toNat < 0xac00 ∨ 0xd7a3 < c.toNat then none
  else if n % 28 = 0 then some (.ofNat (0x1100 + n / 28 / 21), .ofNat (0x1161 + n / 28 % 21))
  else some (.ofNat (c.toNat - n % 28), .ofNat (0x11a7 + n % 28))

def whole? (first second : Char) : Option Char :=
  let initial := first.toNat - 0x1100
  let vowel := second.toNat - 0x1161
  let ending := second.toNat - 0x11a7
  if 0x1100 ≤ first.toNat ∧ initial < 19 ∧ 0x1161 ≤ second.toNat ∧ vowel < 21 then
    some (.ofNat (0xac00 + (initial * 21 + vowel) * 28))
  else if 0xac00 ≤ first.toNat ∧ first.toNat ≤ 0xd7a3 ∧ (first.toNat - 0xac00) % 28 = 0 ∧
      0x11a7 < second.toNat ∧ ending < 28 then
    some (.ofNat (first.toNat + ending))
  else none

end Hangul

def parts? (c : Char) : Option (Char × Char) :=
  (Hangul.parts? c).or ((composites.find? (·.whole == c)).map fun x => (x.first, x.second))

def whole? (first second : Char) : Option Char :=
  (Hangul.whole? first second).or
    ((composites.find? fun x => x.first == first && x.second == second).map (·.whole))

def takeApart (s : List Char) : List Char :=
  s.flatMap fun c => match parts? c with
    | some (first, second) => [first, second]
    | none => [c]

/-- Take composites apart until none is left: at most three are nested. -/
def decompose (s : List Char) : List Char := takeApart (takeApart (takeApart s))

def insertMark (c : Char) : List Char → List Char
  | [] => [c]
  | d :: before =>
    if markClass c ≠ 0 ∧ markClass c < markClass d then d :: insertMark c before else c :: d :: before

def orderMarks (s : List Char) : List Char := (s.foldl (fun done c => insertMark c done) []).reverse

/-- Compose a character with those after it. `between`, in reverse order, are the marks on it that it
could not be composed with; they block marks of the same or a lower class. -/
def composeWith (base : Char) (between : List Char) : List Char → List Char
  | [] => base :: between.reverse
  | c :: rest =>
    match if between.all (markClass · < markClass c) then whole? base c else none with
    | some whole => composeWith whole between rest
    | none =>
      if markClass c = 0 then base :: between.reverse ++ composeWith c [] rest
      else composeWith base (c :: between) rest

def compose : List Char → List Char
  | [] => []
  | c :: rest => if markClass c = 0 then composeWith c [] rest else c :: compose rest

def composed (s : List Char) : List Char := compose (orderMarks (decompose s))

end TagTooltips.Text
