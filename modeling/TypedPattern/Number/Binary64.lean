import TypedPattern.Number.Power

/-! Double precision numbers as exact fractions, and rounding to them. -/

namespace TypedPattern

/-- A finite value is `mantissa * 2 ^ exponent` with `mantissa < 2 ^ 53` and `-1074 ≤ exponent`; the mantissa is at
least `2 ^ 52` unless the exponent is the least one. -/
inductive Binary64 where
  | nan
  | infinity (negative : Bool)
  | finite (negative : Bool) (mantissa : Nat) (exponent : Int)
  deriving DecidableEq, Repr

namespace Binary64

def zero (negative : Bool) : Binary64 :=
  finite negative 0 (-1074)

/-- `num / den` to the nearest integer, a half to the even one. -/
def roundHalfEven (num den : Nat) : Nat :=
  let q := num / den
  let twice := 2 * (num % den)
  if twice < den ∨ (twice = den ∧ q % 2 = 0) then q else q + 1

/-- `num * 2 ^ -e / den` as a fraction of naturals. -/
def scaled (num den : Nat) (e : Int) : Nat × Nat :=
  if 0 ≤ e then (num, den * twoTo e.toNat) else (num * twoTo (-e).toNat, den)

/-- The double nearest to a positive fraction, ties to the even mantissa. -/
def ofFraction (negative : Bool) (num den : Nat) : Binary64 :=
  let guess : Int := max ((num.log2 : Int) - den.log2 - 53) (-1074)
  let (n, d) := scaled num den guess
  let e := if n / d < twoTo 53 then guess else guess + 1
  let (n, d) := scaled num den e
  let m := roundHalfEven n d
  let (m, e) := if m = twoTo 53 then (twoTo 52, e + 1) else (m, e)
  if 971 < e then infinity negative else finite negative m e

/-- The double nearest to `digits * 10 ^ exponent`. -/
def ofDecimal (negative : Bool) (digits : Nat) (exponent : Int) : Binary64 :=
  if digits = 0 then zero negative
  else if 310 < exponent then infinity negative
  else if exponent + (digits.log2 / 3 + 1 : Nat) < -330 then zero negative
  else if 0 ≤ exponent then ofFraction negative (digits * tenTo exponent.toNat) 1
  else ofFraction negative digits (tenTo (-exponent).toNat)

def ofInt (n : Int) : Binary64 :=
  ofDecimal (n < 0) n.natAbs 0

def halfOf (n : Nat) : Binary64 :=
  if n = 0 then zero false else ofFraction false n 2

/-- Equality of the numbers: the two zeros are equal, and what is no number equals nothing. -/
def numericEq : Binary64 → Binary64 → Bool
  | nan, _ => false
  | finite _ 0 _, finite _ 0 _ => true
  | a, b => a == b

end Binary64

end TypedPattern
