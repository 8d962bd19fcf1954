/-
# Number literals of a JSON text

A number is an optional minus, digits without a superfluous leading zero, an
optional fraction and an optional exponent.

Without fraction and exponent it is an integer if it fits 64 bits, with a sign
or without one; `-0` and longer numbers are binary64 numbers. The value of such
a number is found in two steps. First as many digits as fit 64 bits are taken as
the significand: of the digits before the point that no longer fit only the
number counts, those behind it are dropped. Then the significand, rounded to
binary64, is multiplied or divided by the power of ten that remains, rounded
too. A result that is too large is refused.

Key definitions: `Json.scanNumber`, `Json.NumberLiteral.value`, `Json.readNumber`.
-/
import ThriftPages.Json.Reader

namespace ThriftPages.Json

open Text (Taken Remaining)

/-- The parts of a number literal: its digits, and the exponent with its sign. -/
structure NumberLiteral where
  negative : Bool
  whole : List Char
  fraction : Option (List Char)
  exponent : Option (Bool × List Char)
deriving DecidableEq

/-- The value of a decimal digit. -/
def digitValue (c : Char) : Nat := c.toNat - '0'.toNat

/-- The natural number that digits stand for. -/
def digitsValue (ds : List Char) : Nat := ds.foldl (fun n c => 10 * n + digitValue c) 0

/-- The largest number of 64 bits. -/
def wordMax : Nat := 0xffffffffffffffff

/-- The absolute value of the least number of 64 bits with a sign. -/
def signedMax : Nat := 0x8000000000000000

/-- Appends digits to a significand as long as it fits 64 bits; also the digits
that are left. -/
def accumulate (significand : Nat) : List Char → Nat × List Char
  | [] => (significand, [])
  | c :: rest =>
    let next := 10 * significand + digitValue c
    if next ≤ wordMax then accumulate next rest else (significand, c :: rest)

/-- The greatest power of ten that binary64 has. -/
def powerMax : Nat := 308

/-- Divides by `divisor` up to `steps` times, until nothing is left. -/
def divideRepeatedly (divisor : Magnitude) : (steps : Nat) → Magnitude → Option Magnitude
  | 0, m => some m
  | steps + 1, m =>
    if m.significand = 0 then some m
    else (m.div divisor).bind (divideRepeatedly divisor steps)

/-- A magnitude times a power of ten, each rounded. A division by more than the
greatest power of ten is done in several steps. -/
def scaleByTen (m : Magnitude) (power : Int) : Option Magnitude :=
  if 0 ≤ power then
    if m.significand = 0 then some m
    else if power ≤ powerMax then (Magnitude.powerOfTen power.toNat).bind m.mul
    else none
  else
    let steps := (power.natAbs - 1) / powerMax
    (Magnitude.powerOfTen powerMax).bind fun greatest =>
      (divideRepeatedly greatest steps m).bind fun smaller =>
        (Magnitude.powerOfTen (power.natAbs - powerMax * steps)).bind smaller.div

/-- A significand of 64 bits times a power of ten. -/
def floatOfParts (negative : Bool) (significand : Nat) (power : Int) :
    Except Malformed Number :=
  match (Magnitude.ofRatio significand 1).bind fun m => scaleByTen m power with
  | some m => .ok (.float (.finite negative m))
  | none => .error .numberOutOfRange

/-- The largest exponent that a literal may be written with: the largest of 32
bits. -/
def exponentMax : Nat := 0x7fffffff

namespace NumberLiteral

/-- The value of a literal with a fraction or an exponent, or with too many
digits for 64 bits. -/
def floatValue (literal : NumberLiteral) : Except Malformed Number :=
  let (wholePart, uncounted) := accumulate 0 literal.whole
  let (significand, dropped) := accumulate wholePart (literal.fraction.getD [])
  let places : Int :=
    (uncounted.length : Int) - ((literal.fraction.getD []).length - dropped.length : Nat)
  match literal.exponent with
  | none => floatOfParts literal.negative significand places
  | some (negativeExponent, ds) =>
    let written := digitsValue ds
    if written ≤ exponentMax then
      floatOfParts literal.negative significand
        (if negativeExponent then places - written else places + written)
    else if significand ≠ 0 ∧ negativeExponent = false then .error .numberOutOfRange
    else .ok (.float (.finite literal.negative .zero))

/-- The value of a literal. -/
def value (literal : NumberLiteral) : Except Malformed Number :=
  match literal.fraction, literal.exponent with
  | none, none =>
    let n := digitsValue literal.whole
    if literal.negative then
      if 0 < n ∧ n ≤ signedMax then .ok (.integer (-(n : Int))) else literal.floatValue
    else if n ≤ wordMax then .ok (.integer n)
    else literal.floatValue
  | _, _ => literal.floatValue

end NumberLiteral

/-- What a missing digit means: the text ends, or goes on with something else. -/
def missingDigit (text : List Char) : Malformed :=
  if text.isEmpty then .endInValue else .invalidNumber

/-- At least one digit. -/
def someDigits (text : List Char) : Except Malformed (Taken (List Char) text) :=
  match Text.takeSome Char.isDigit text with
  | some digits => .ok digits
  | none => .error (missingDigit text)

/-- The digits before the point: a zero alone, or digits that start with none. -/
def wholeDigits (text : List Char) : Except Malformed (Taken (List Char) text) := do
  let digits ← someDigits text
  if digits.value.head? = some '0' ∧ digits.value.length ≠ 1 then .error .invalidNumber
  else return digits

/-- An optional fraction. -/
def scanFraction : (text : List Char) → Except Malformed (Remaining (Option (List Char)) text)
  | '.' :: rest => (someDigits rest).map fun digits => (digits.map some).after.found
  | _ => .ok (.nothing none)

/-- The sign and digits of an exponent after its `e`. -/
def scanExponentDigits : (text : List Char) → Except Malformed (Taken (Bool × List Char) text)
  | '+' :: rest => (someDigits rest).map fun digits => (digits.map (false, ·)).after
  | '-' :: rest => (someDigits rest).map fun digits => (digits.map (true, ·)).after
  | text => (someDigits text).map fun digits => digits.map (false, ·)

/-- An optional exponent. -/
def scanExponent : (text : List Char) →
    Except Malformed (Remaining (Option (Bool × List Char)) text)
  | 'e' :: rest | 'E' :: rest =>
    (scanExponentDigits rest).map fun exponent => (exponent.map some).after.found
  | _ => .ok (.nothing none)

/-- A number literal without its sign. -/
def scanUnsigned (negative : Bool) (text : List Char) :
    Except Malformed (Taken NumberLiteral text) := do
  let whole ← wholeDigits text
  let fraction ← scanFraction whole.rest
  let exponent ← scanExponent fraction.rest
  return (whole.andFound (fraction.and exponent)).map fun (whole, fraction, exponent) =>
    ⟨negative, whole, fraction, exponent⟩

/-- A number literal. -/
def scanNumber : (text : List Char) → Except Malformed (Taken NumberLiteral text)
  | '-' :: rest => (scanUnsigned true rest).map Taken.after
  | text => scanUnsigned false text

/-- A number. -/
def readNumber {ε : Type} : Reader ε Number := fun text =>
  match scanNumber text with
  | .error fault => malformed fault
  | .ok literal =>
    match literal.value.value with
    | .ok value => .ok (literal.map fun _ => value)
    | .error fault => malformed fault

end ThriftPages.Json
