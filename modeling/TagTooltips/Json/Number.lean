import TagTooltips.Json.Binary64

/-! JSON numbers: integers that fit 64 bits are kept as they are, all others are doubles. -/

namespace TagTooltips

inductive Number
  | integer (i : Int)
  | decimal (negative : Bool) (significand : Nat) (exponent : Int)
  deriving DecidableEq, Repr

namespace Number

/-- Append digits to a number as long as the result fits 64 bits; returns the digits left over. -/
def gather (acc : Nat) : List Nat → Nat × List Nat
  | [] => (acc, [])
  | d :: ds => if acc * 10 + d < Nat.pow 2 64 then gather (acc * 10 + d) ds else (acc, d :: ds)

def ofDigits (negative : Bool) (whole fraction : List Nat) (exponent : Option Int) : Number :=
  let (significand, surplus) := gather 0 whole
  if fraction.isEmpty ∧ exponent.isNone ∧ surplus.isEmpty ∧
      (negative → 0 < significand ∧ significand ≤ Nat.pow 2 63) then
    .integer (if negative then -significand else significand)
  else
    let (significand, rest) := gather significand fraction
    let shift : Int := surplus.length - (fraction.length - rest.length : Nat)
    .decimal negative significand (shift + exponent.getD 0)

def isFinite : Number → Bool
  | .integer _ => true
  | .decimal _ significand exponent => (Binary64.ofDecimal? significand exponent).isSome

/-- Digits with a decimal point `point` places from the left, in positional notation from 10^-5 up
to 10^16 and in scientific notation beyond. -/
def layout (digits : List Char) (point : Int) : List Char :=
  let size : Int := digits.length
  if size ≤ point ∧ point ≤ 16 then
    digits ++ List.replicate (point - size).toNat '0' ++ ['.', '0']
  else if 0 < point ∧ point ≤ 16 then
    digits.take point.toNat ++ '.' :: digits.drop point.toNat
  else if -5 < point ∧ point ≤ 0 then
    '0' :: '.' :: List.replicate (-point).toNat '0' ++ digits
  else
    digits.take 1 ++ (if digits.length = 1 then [] else '.' :: digits.drop 1) ++
      'e' :: (toString (point - 1)).toList

def render : Number → List Char
  | .integer i => (toString i).toList
  | .decimal negative significand exponent =>
    let body := match Binary64.ofDecimal? significand exponent with
      | none => []
      | some x =>
        if x.mantissa = 0 then ['0', '.', '0']
        else
          let (n, power) := x.shortest
          let digits := Nat.toDigits 10 n
          layout ((digits.reverse.dropWhile (· == '0')).reverse) (digits.length + power)
    if negative then '-' :: body else body

def natBelow? (bound : Nat) : Number → Option Nat
  | .integer i => if 0 ≤ i ∧ i < bound then some i.toNat else none
  | .decimal .. => none

def int32? : Number → Option Int
  | .integer i => if -0x80000000 ≤ i ∧ i < 0x80000000 then some i else none
  | .decimal .. => none

end Number

end TagTooltips
