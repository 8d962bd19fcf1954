/-
# Binary64 numbers, exactly

A finite binary64 number is kept as its sign and an exact magnitude
`significand * 2 ^ exponent`. Rounding a ratio of naturals goes to the nearest
such magnitude, a half to the even neighbour, in exact arithmetic: nothing here
uses the machine's floating point.

Key definitions: `Magnitude`, `Magnitude.ofRatio`, `Magnitude.ofDecimal`,
`Binary64`.
-/

namespace ThriftPages

/-- The magnitude of a finite binary64 number, `significand * 2 ^ exponent`. -/
structure Magnitude where
  significand : Nat
  exponent : Int
deriving DecidableEq

/-- A binary64 number. Zero has a sign too. -/
inductive Binary64
  | finite (negative : Bool) (magnitude : Magnitude)
  | infinite (negative : Bool)
  | nan
deriving DecidableEq

/-- A power of two. -/
def twoTo (n : Nat) : Nat := Nat.pow 2 n

/-- A power of ten. -/
def tenTo (n : Nat) : Nat := Nat.pow 10 n

/-- A ratio rounded to the nearest natural number, a half to the even one. -/
def roundHalfEven (num den : Nat) : Nat :=
  let quotient := num / den
  let twice := 2 * (num % den)
  if twice < den ∨ twice = den ∧ quotient % 2 = 0 then quotient else quotient + 1

/-- The binary logarithm of a positive ratio, rounded down. The logarithms of
the two parts leave two values; a comparison tells which. -/
def log2Ratio (num den : Nat) : Int :=
  let upper : Int := (num.log2 : Int) - (den.log2 : Int)
  if den * twoTo upper.toNat ≤ num * twoTo (-upper).toNat then upper else upper - 1

namespace Magnitude

/-- The exponent of the smallest numbers. -/
def leastExponent : Int := -1074

/-- The exponent of the largest numbers. -/
def greatestExponent : Int := 971

/-- The magnitude of zero. -/
def zero : Magnitude := ⟨0, leastExponent⟩

/-- The numerator of the magnitude as a ratio. -/
def num (m : Magnitude) : Nat := m.significand * twoTo m.exponent.toNat

/-- The denominator of the magnitude as a ratio, a power of two. -/
def den (m : Magnitude) : Nat := twoTo (-m.exponent).toNat

/-- The magnitude nearest to `num / den`; none if it is too large. -/
def ofRatio (num den : Nat) : Option Magnitude :=
  if num = 0 then some zero
  else
    let exponent := max (log2Ratio num den - 52) leastExponent
    let significand := roundHalfEven (num * twoTo (-exponent).toNat) (den * twoTo exponent.toNat)
    let rounded : Magnitude :=
      if significand = twoTo 53 then ⟨twoTo 52, exponent + 1⟩ else ⟨significand, exponent⟩
    if rounded.exponent ≤ greatestExponent then some rounded else none

/-- The product, rounded. -/
def mul (a b : Magnitude) : Option Magnitude := ofRatio (a.num * b.num) (a.den * b.den)

/-- The quotient, rounded. -/
def div (a b : Magnitude) : Option Magnitude := ofRatio (a.num * b.den) (a.den * b.num)

/-- The magnitude nearest to a power of ten. -/
def powerOfTen (n : Nat) : Option Magnitude := ofRatio (tenTo n) 1

/-- The number of decimal digits of a natural number. -/
def decimalLength (n : Nat) : Nat := (Nat.toDigits 10 n).length

/-- The magnitude nearest to `digits * 10 ^ exponent`. A number of more than 310
places before the point is too large, and one that starts more than 330 places
behind it is zero, so the power of ten is built only where it matters. -/
def ofDecimal (digits : Nat) (exponent : Int) : Option Magnitude :=
  let places := (decimalLength digits : Int) + exponent
  if digits = 0 ∨ places < -330 then some zero
  else if 310 < places then none
  else ofRatio (digits * tenTo exponent.toNat) (tenTo (-exponent).toNat)

end Magnitude

/-- The number with the given sign, infinite where the magnitude is too large. -/
def Binary64.ofMagnitude? (negative : Bool) : Option Magnitude → Binary64
  | some m => .finite negative m
  | none => .infinite negative

/-- Whether the number is zero, of either sign. -/
def Binary64.isZero : Binary64 → Bool
  | finite _ m => m.significand = 0
  | _ => false

end ThriftPages
