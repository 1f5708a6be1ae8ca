import TagTooltips.Text.Numeral

/-! A label with any characters as a label of ASCII letters, digits and hyphens. Its ASCII characters come
first. Then follow numbers that tell where the other characters are inserted, in ascending order, each
number as the way from one insertion to the next. -/

namespace TagTooltips.Domain.Punycode

def digit (n : Nat) : Char := if n < 26 then Char.ofNat (97 + n) else Char.ofNat (22 + n)

def digitValue? (c : Char) : Option Nat :=
  if c.isDigit then some (c.toNat - 22) else (Text.digitValue? 36 c).map (· - 10)

/-- The digits below this value end a number; `place` counts the digits before. It lies between 1 and 26. -/
def threshold (bias place : Nat) : Nat := max 1 (min 26 (36 * (place + 1) - bias))

def shrink (n : Nat) : Nat × Nat :=
  if 455 < n then
    let (count, quotient) := shrink (n / 35)
    (count + 1, quotient)
  else (0, n)
termination_by n
decreasing_by omega

def adapt (way size : Nat) (isFirst : Bool) : Nat :=
  let way := if isFirst then way / 700 else way / 2
  let (count, quotient) := shrink (way + way / size)
  36 * count + 36 * quotient / (quotient + 38)

def number (bias place n : Nat) : List Char :=
  let t := threshold bias place
  if n < t then [digit n]
  else digit (t + (n - t) % (36 - t)) :: number bias (place + 1) ((n - t) / (36 - t))
termination_by n
decreasing_by
  have : 1 ≤ threshold bias place := Nat.le_max_left ..
  exact Nat.lt_of_le_of_lt (Nat.div_le_self _ _) (by omega)

/-- Read a number; `weight` is the value of the next digit. -/
def number? (bias place weight : Nat) : List Char → Option (Nat × List Char)
  | [] => none
  | c :: rest => do
    let d ← digitValue? c
    let t := threshold bias place
    if d < t then return (d * weight, rest)
    let (n, rest) ← number? bias (place + 1) (weight * (36 - t)) rest
    return (d * weight + n, rest)

theorem length_of_number? {bias place weight n : Nat} {s rest : List Char}
    (h : number? bias place weight s = some (n, rest)) : rest.length < s.length := by
  induction s generalizing place weight n with
  | nil => simp [number?] at h
  | cons c cs ih =>
    simp only [number?, Option.bind_eq_bind, Option.bind_eq_some_iff] at h
    obtain ⟨d, _, h⟩ := h
    split at h
    · obtain ⟨_, rfl⟩ := Prod.mk.inj (Option.some.inj h)
      simp
    · obtain ⟨⟨m, r⟩, hr, h⟩ := Option.bind_eq_some_iff.1 h
      obtain ⟨_, rfl⟩ := Prod.mk.inj (Option.some.inj h)
      exact Nat.lt_succ_of_lt (ih hr)

/-- Where an insertion stands: the character to be inserted and the place for it, and what is needed
for the next number. -/
structure Progress where
  way : Nat
  bias : Nat
  size : Nat
  isFirst : Bool
  written : List Char

def pass (c : Nat) (p : Progress) (d : Char) : Progress :=
  if d.toNat < c then { p with way := p.way + 1 }
  else if d.toNat = c then
    { way := 0
      bias := adapt p.way (p.size + 1) p.isFirst
      size := p.size + 1
      isFirst := false
      written := p.written ++ number p.bias 0 p.way }
  else p

def insertions (s : List Char) (last : Nat) (p : Progress) : List Nat → List Char
  | [] => p.written
  | c :: cs =>
    let p := s.foldl (pass c) { p with way := p.way + (c - last) * (p.size + 1) }
    insertions s (c + 1) { p with way := p.way + 1 } cs

def isAscii (c : Char) : Bool := c.toNat < 128

def ascending (ns : List Nat) : List Nat := (ns.mergeSort).eraseReps

def encode (s : List Char) : List Char :=
  let basic := s.filter isAscii
  let others := ascending ((s.filter (!isAscii ·)).map Char.toNat)
  let start : Progress := ⟨0, 72, basic.length, true, []⟩
  (if basic.isEmpty then [] else basic ++ ['-']) ++ insertions s 128 start others

/-- Read insertions into the text `done`, from the place `at` of the character `c` on. -/
def insert? (bias c place : Nat) (isFirst : Bool) (done : List Char) (s : List Char) : Option (List Char) :=
  if s.isEmpty then some done
  else
    match _found : number? bias 0 1 s with
    | none => none
    | some (way, rest) =>
      let size := done.length + 1
      let next := c + (place + way) / size
      let place := (place + way) % size
      if next.isValidChar then
        insert? (adapt way size isFirst) next (place + 1) false
          (done.take place ++ Char.ofNat next :: done.drop place) rest
      else none
termination_by s.length
decreasing_by exact length_of_number? _found

def decode? (s : List Char) : Option (List Char) :=
  let digits := (s.reverse.takeWhile (· != '-')).reverse
  let basic := s.take (s.length - digits.length - 1)
  if !s.all isAscii then none
  else if s.contains '-' && basic.isEmpty then none
  else insert? 72 128 0 true basic digits

end TagTooltips.Domain.Punycode
