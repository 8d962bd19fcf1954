/-
# The layout of a number's digits

How the shortest digits of a binary64 number are laid out is decided by a few
choices, kept in one record: which way a tie goes, for which sizes the number is
written without an exponent, and whether a whole number keeps a point.

Key definitions: `FloatLayout`, `FloatLayout.write`.
-/
import ThriftPages.Decimal.Shortest

namespace ThriftPages

/-- The choices that fix the text of a binary64 number. -/
structure FloatLayout where
  /-- Which of two equally near shortest decimals is written. -/
  tie : Tie
  /-- Whether a number whose leading digit has this power of ten is written
  without an exponent. -/
  positional : Int → Bool
  /-- Whether a whole number without an exponent ends in `.0`. -/
  keepsPoint : Bool

namespace FloatLayout

/-- A row of zeros. -/
def zeros (n : Nat) : List Char := List.replicate n '0'

/-- The digits `ds` with the point after the first `n` of them, in positional
notation. -/
def placePoint (keepsPoint : Bool) (ds : List Char) (n : Int) : List Char :=
  if n ≤ 0 then '0' :: '.' :: zeros (-n).toNat ++ ds
  else if n < ds.length then ds.take n.toNat ++ '.' :: ds.drop n.toNat
  else ds ++ zeros (n.toNat - ds.length) ++ (if keepsPoint then ['.', '0'] else [])

/-- The digits `ds` with an exponent, one digit standing before the point. -/
def withExponent (ds : List Char) (power : Int) : List Char :=
  let fraction := if ds.length ≤ 1 then [] else '.' :: ds.drop 1
  let mark := if power < 0 then ['e', '-'] else ['e', '+']
  ds.take 1 ++ fraction ++ mark ++ Nat.toDigits 10 power.natAbs

/-- The text of a magnitude. -/
def magnitude (layout : FloatLayout) (m : Magnitude) : List Char :=
  let d := m.shortest layout.tie
  let ds := Nat.toDigits 10 d.digits
  let places := (ds.length : Int) + d.exponent
  if d.digits = 0 then if layout.keepsPoint then ['0', '.', '0'] else ['0']
  else if layout.positional (places - 1) then placePoint layout.keepsPoint ds places
  else withExponent ds (places - 1)

/-- The text of a number. -/
def write (layout : FloatLayout) : Binary64 → String
  | .finite negative m =>
    String.ofList ((if negative then ['-'] else []) ++ layout.magnitude m)
  | .infinite negative => if negative then "-inf" else "inf"
  | .nan => "NaN"

end FloatLayout

end ThriftPages
