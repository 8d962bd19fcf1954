/-
# The fewest digits that read back

A decimal reads back as a binary64 number if it lies in the interval of reals
that round to it; the ends belong to the interval when the significand is even.
The shortest text of a number takes the coarsest decimal grid that has a point
in the interval. If a point of a grid lies in the interval, so does one of the
number's two neighbours on that grid, so only those are tried. Of two that fit
the nearer is taken; which of two equally near ones is a matter of the format
(`Tie`).

Key definitions: `Magnitude.shortest`, `Tie`.
-/
import ThriftPages.Decimal.Binary64

namespace ThriftPages

/-- Which of two equally near decimals is written. -/
inductive Tie
  | toEven | up
deriving DecidableEq

/-- A decimal: `digits * 10 ^ exponent`. -/
structure Decimal where
  digits : Nat
  exponent : Int
deriving DecidableEq

namespace Decimal

/-- Whether `a * 10 ^ i ≤ b * 2 ^ j`. -/
def leBinary (a : Nat) (i : Int) (b : Nat) (j : Int) : Bool :=
  a * tenTo i.toNat * twoTo (-j).toNat ≤ b * twoTo j.toNat * tenTo (-i).toNat

/-- Whether `b * 2 ^ j ≤ a * 10 ^ i`. -/
def geBinary (a : Nat) (i : Int) (b : Nat) (j : Int) : Bool :=
  b * twoTo j.toNat * tenTo (-i).toNat ≤ a * tenTo i.toNat * twoTo (-j).toNat

/-- The decimal without trailing zeros among its digits, of which there are at
most `places`. -/
def trimmed : (places : Nat) → Decimal → Decimal
  | 0, d => d
  | places + 1, d =>
    if d.digits % 10 = 0 then trimmed places ⟨d.digits / 10, d.exponent + 1⟩ else d

end Decimal

namespace Magnitude

/-- The power of ten of the leading digit of a positive magnitude. -/
def leadingPower (m : Magnitude) : Int :=
  if m.den ≤ m.num then (decimalLength (m.num / m.den) : Int) - 1
  else -(decimalLength ((m.den + m.num - 1) / m.num - 1) : Int)

/-- The half-way points to the neighbours below and above, in quarters of the
last binary place. Below a power of two the neighbours lie half as far apart. -/
def interval (m : Magnitude) : Nat × Nat :=
  (if m.significand = twoTo 52 ∧ leastExponent < m.exponent then 4 * m.significand - 1
    else 4 * m.significand - 2,
   4 * m.significand + 2)

/-- Whether a decimal reads back as the magnitude. -/
def readsBack (m : Magnitude) (d : Decimal) : Bool :=
  let (low, high) := m.interval
  let scale := m.exponent - 2
  let above := Decimal.geBinary d.digits d.exponent low scale
  let below := Decimal.leBinary d.digits d.exponent high scale
  if m.significand % 2 = 0 then above && below
  else above && below && !Decimal.leBinary d.digits d.exponent low scale
    && !Decimal.geBinary d.digits d.exponent high scale

/-- The decimal of `places` digits that reads back, if there is one. -/
def onGrid? (tie : Tie) (m : Magnitude) (places : Nat) : Option Decimal :=
  let exponent := m.leadingPower - (places : Int) + 1
  let num := m.num * tenTo (-exponent).toNat
  let den := m.den * tenTo exponent.toNat
  let lower : Decimal := ⟨num / den, exponent⟩
  let upper : Decimal := ⟨num / den + 1, exponent⟩
  let twice := 2 * (num % den)
  match m.readsBack lower, m.readsBack upper with
  | true, true =>
    if twice < den then some lower
    else if den < twice then some upper
    else
      match tie with
      | .toEven => if lower.digits % 2 = 0 then some lower else some upper
      | .up => some upper
  | true, false => some lower
  | false, true => some upper
  | false, false => none

/-- The shortest decimal that reads back. Seventeen digits always suffice. -/
def shortest (tie : Tie) (m : Magnitude) : Decimal :=
  if m.significand = 0 then ⟨0, 0⟩
  else
    match (List.range 17).findSome? fun n => m.onGrid? tie (n + 1) with
    | some d => d.trimmed 17
    | none => ⟨0, 0⟩

end Magnitude

end ThriftPages
