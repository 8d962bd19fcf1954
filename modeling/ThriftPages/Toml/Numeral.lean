/-
# TOML numbers

An integer is decimal with an optional sign, or hexadecimal, octal or binary
without one; it must fit 64 bits. A float has a fraction, an exponent or both,
or is `inf` or `nan`. Single underscores may stand between digits. A decimal
number has no superfluous leading zero.

A float takes the nearest binary64 value. One that is too large is refused,
unless it is negative, when it is infinite.

Key definitions: `Toml.digitRun`, `Toml.scanNumber`.
-/
import ThriftPages.Toml.Value

namespace ThriftPages.Toml

open Text (Taken Remaining)

/-- The digits after the first one of a number: each may follow an underscore,
which needs a digit after it. -/
def moreDigits (isDigit : Char → Bool) : (text : List Char) → Option (Remaining (List Char) text)
  | ['_'] => none
  | '_' :: c :: rest =>
    if isDigit c then
      (moreDigits isDigit rest).map fun digits => (digits.map (c :: ·)).after.after.found
    else none
  | c :: rest =>
    if isDigit c then
      (moreDigits isDigit rest).map fun digits => (digits.map (c :: ·)).after.found
    else some (.nothing [])
  | [] => some (.nothing [])

/-- One or more digits, without the underscores between them. -/
def digitRun (isDigit : Char → Bool) : (text : List Char) → Option (Taken (List Char) text)
  | [] => none
  | c :: rest =>
    if isDigit c then (moreDigits isDigit rest).map fun digits => (digits.map (c :: ·)).after
    else none

/-- The digits of a decimal number before the point: a zero alone, or digits that
start with none. -/
def wholeDigits : (text : List Char) → Option (Taken (List Char) text)
  | '0' :: _ => some (.first ['0'])
  | text => digitRun Char.isDigit text

/-- The value of a digit, up to hexadecimal. -/
def digitValue (c : Char) : Nat :=
  if c.isDigit then c.toNat - '0'.toNat else c.toLower.toNat - 'a'.toNat + 10

/-- The number that digits stand for. -/
def digitsValue (base : Nat) (ds : List Char) : Nat :=
  ds.foldl (fun n c => base * n + digitValue c) 0

/-- The digits of a base. -/
def isDigitOf (base : Nat) (c : Char) : Bool :=
  (c.isDigit || ('a' ≤ c && c ≤ 'f') || ('A' ≤ c && c ≤ 'F')) && digitValue c < base

/-- The base that a letter after a leading zero stands for. -/
def baseOf? : Char → Option Nat
  | 'x' => some 16
  | 'o' => some 8
  | 'b' => some 2
  | _ => none

/-- An integer, if it fits 64 bits with its sign. -/
def integer? (value : Int) : Option Value :=
  if -0x8000000000000000 ≤ value ∧ value < 0x8000000000000000 then some (.integer value)
  else none

/-- A number with the sign that was read. -/
def signed (negative : Bool) (n : Nat) : Int := if negative then -(n : Int) else n

/-- The sign and digits of an exponent after its `e`. -/
def scanExponent : (text : List Char) → Option (Taken Int text)
  | '+' :: rest => (scanDigits false rest).map Taken.after
  | '-' :: rest => (scanDigits true rest).map Taken.after
  | text => scanDigits false text
where
  /-- The digits of an exponent with the sign that was read. -/
  scanDigits (negative : Bool) (text : List Char) : Option (Taken Int text) :=
    (digitRun Char.isDigit text).map fun digits =>
      digits.map fun digits => signed negative (digitsValue 10 digits)

/-- A float from its digits before and after the point and its exponent. -/
def float? (negative : Bool) (whole fraction : List Char) (exponent : Int) : Option Value :=
  let digits := digitsValue 10 (whole ++ fraction)
  let value := Binary64.ofMagnitude? negative
    (Magnitude.ofDecimal digits (exponent - fraction.length))
  if value = .infinite false then none else some (.float value)

/-- An optional exponent. -/
def scanOptionalExponent : (text : List Char) → Option (Remaining (Option Int) text)
  | 'e' :: rest | 'E' :: rest =>
    (scanExponent rest).map fun exponent => (exponent.map some).after.found
  | _ => some (.nothing none)

/-- An optional fraction. -/
def scanOptionalFraction : (text : List Char) → Option (Remaining (Option (List Char)) text)
  | '.' :: rest => (digitRun Char.isDigit rest).map fun digits => (digits.map some).after.found
  | _ => some (.nothing none)

/-- A decimal number from its parts: a float if it has a fraction or an exponent. -/
def decimal? (negative : Bool) (whole : List Char) :
    (fraction : Option (List Char)) → (exponent : Option Int) → Option Value
  | none, none => integer? (signed negative (digitsValue 10 whole))
  | fraction, exponent => float? negative whole (fraction.getD []) (exponent.getD 0)

/-- A decimal number after its sign. -/
def scanDecimal (negative : Bool) (text : List Char) : Option (Taken Value text) := do
  let whole ← wholeDigits text
  let fraction ← scanOptionalFraction whole.rest
  let exponent ← scanOptionalExponent fraction.rest
  let value ← decimal? negative whole.value fraction.value exponent.value
  return (whole.andFound (fraction.and exponent)).map fun _ => value

/-- A number after its sign: `inf`, `nan`, or decimal. -/
def scanUnsigned (negative : Bool) : (text : List Char) → Option (Taken Value text)
  | 'i' :: 'n' :: 'f' :: _ => some (Taken.second (.float (.infinite negative))).after
  | 'n' :: 'a' :: 'n' :: _ => some (Taken.second (.float .nan)).after
  | text => scanDecimal negative text

/-- An integer of another base than ten, after its leading zero and letter. -/
def scanBased (base : Nat) (text : List Char) : Option (Taken Value text) := do
  let digits ← digitRun (isDigitOf base) text
  let value ← integer? (digitsValue base digits.value)
  return digits.map fun _ => value

/-- A number. -/
def scanNumber : (text : List Char) → Option (Taken Value text)
  | '+' :: rest => (scanUnsigned false rest).map Taken.after
  | '-' :: rest => (scanUnsigned true rest).map Taken.after
  | '0' :: c :: rest =>
    match baseOf? c with
    | some base => (scanBased base rest).map fun taken => taken.after.after
    | none => scanUnsigned false ('0' :: c :: rest)
  | text => scanUnsigned false text

end ThriftPages.Toml
