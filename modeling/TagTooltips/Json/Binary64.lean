/-! Doubles in exact arithmetic: rounding a ratio to the nearest double, ties to the even one, and
the shortest decimal that reads back as a given double. -/

namespace TagTooltips

/-- The finite double `mantissa * 2 ^ exponent`, its sign aside. The mantissa has at most 53 bits,
and has fewer only where the exponent is the least one, -1074. -/
structure Binary64 where
  mantissa : Nat
  exponent : Int
  deriving DecidableEq, Repr

namespace Binary64

/-- The integer nearest to a ratio, of two the even one. -/
def roundDiv (num den : Nat) : Nat :=
  let q := num / den
  let twice := 2 * (num % den)
  if twice < den then q else if den < twice then q + 1 else q + q % 2

def scaled (num den : Nat) (e : Int) : Nat × Nat :=
  if 0 ≤ e then (num, den * Nat.pow 2 e.toNat) else (num * Nat.pow 2 (-e).toNat, den)

def ofRatio? (num den : Nat) : Option Binary64 :=
  if num = 0 then some ⟨0, -1074⟩
  else
    let guess : Int := (num.log2 : Int) - (den.log2 : Int) - 53
    let fits (e : Int) : Bool :=
      let (n, d) := scaled num den e
      n < d * Nat.pow 2 53
    let e := max (-1074) (if fits guess then guess else if fits (guess + 1) then guess + 1 else guess + 2)
    let (n, d) := scaled num den e
    let m := roundDiv n d
    let rounded : Binary64 := if m = Nat.pow 2 53 then ⟨Nat.pow 2 52, e + 1⟩ else ⟨m, e⟩
    if 971 < rounded.exponent then none else some rounded

def ratio (x : Binary64) : Nat × Nat :=
  if 0 ≤ x.exponent then (x.mantissa * Nat.pow 2 x.exponent.toNat, 1)
  else (x.mantissa, Nat.pow 2 (-x.exponent).toNat)

def mulPow10? (x : Binary64) (k : Nat) : Option Binary64 := do
  let power ← ofRatio? (Nat.pow 10 k) 1
  let (n, d) := x.ratio
  let (n', d') := power.ratio
  ofRatio? (n * n') (d * d')

def divPow10? (x : Binary64) (k : Nat) : Option Binary64 := do
  let power ← ofRatio? (Nat.pow 10 k) 1
  let (n, d) := x.ratio
  let (n', d') := power.ratio
  ofRatio? (n * d') (d * n')

/-- `significand * 10 ^ exponent`, rounded after each step: the significand first, then one
multiplication or division by a power of ten up to 308; smaller numbers are first divided by the
308th power, at most thrice before nothing is left of them. -/
def ofDecimal? (significand : Nat) (exponent : Int) : Option Binary64 := do
  let x ← ofRatio? significand 1
  if x.mantissa = 0 then return x
  if 308 < exponent then none
  else if 0 ≤ exponent then x.mulPow10? exponent.toNat
  else if -308 ≤ exponent then x.divPow10? (-exponent).toNat
  else
    let x ← x.divPow10? 308
    if -616 ≤ exponent then x.divPow10? (-exponent - 308).toNat
    else return ⟨0, -1074⟩

/-- The digits and the power of ten of the shortest decimal that reads back as `x`, and of those
the nearest to it. -/
def shortest (x : Binary64) : Nat × Int :=
  let (num, den) := x.ratio
  let size : Int := (Nat.toDigits 10 (num / den)).length
  let candidate (digits : Nat) (power : Int) : Option (Nat × Int) :=
    let (up, down) := (Nat.pow 10 power.toNat, Nat.pow 10 (-power).toNat)
    let (n, d) := (num * down, den * up)
    let near := roundDiv n d
    let back := ofRatio? (near * up) down
    if back = some x ∧ 0 < near ∧ near ≤ Nat.pow 10 digits then some (near, power) else none
  let first := if num < den then -((Nat.toDigits 10 (den / num)).length : Int) else size
  let found := (List.range 18).findSome? fun digits =>
    (candidate digits (first - digits)).or (candidate digits (first + 1 - digits))
  found.getD (x.mantissa, 0)

end Binary64

end TagTooltips
