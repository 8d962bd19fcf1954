/-
# Dates and times

A TOML date or time is a date, a time of day, or both; only both together may
have an offset from universal time. It is written back in one form: `T` between
date and time, the fraction of a second without trailing zeros, the offset as
hours and minutes.

There are two readers for one form. `Datetime.scan` takes a date or time off the
front of a TOML document; `Datetime.ofText?` reads a whole text.

Key definitions: `Datetime`, `Datetime.write`, `Datetime.scan`,
`Datetime.ofText?`.
-/
import ThriftPages.Text.Taken

namespace ThriftPages.Toml

open Text (Taken Remaining)

/-- A calendar date. -/
structure Date where
  year : Nat
  month : Nat
  day : Nat
deriving DecidableEq

/-- A time of day. -/
structure Time where
  hour : Nat
  minute : Nat
  second : Nat
  nanosecond : Nat
deriving DecidableEq

/-- The offset from universal time. -/
inductive Offset
  | universal
  | minutes (minutes : Int)
deriving DecidableEq

/-- A date, a time, or both. -/
structure Datetime where
  date : Option Date
  time : Option Time
  offset : Option Offset
deriving DecidableEq

/-- A number with at least `width` digits. -/
def padded (width n : Nat) : List Char :=
  let ds := Nat.toDigits 10 n
  List.replicate (width - ds.length) '0' ++ ds

/-- The text of a date. -/
def Date.write (d : Date) : List Char :=
  padded 4 d.year ++ '-' :: padded 2 d.month ++ '-' :: padded 2 d.day

/-- The text of a time; a whole second has no fraction. -/
def Time.write (t : Time) : List Char :=
  let fraction := (padded 9 t.nanosecond).reverse.dropWhile (· = '0') |>.reverse
  padded 2 t.hour ++ ':' :: padded 2 t.minute ++ ':' :: padded 2 t.second
    ++ (if t.nanosecond = 0 then [] else '.' :: fraction)

/-- The text of an offset. -/
def Offset.write : Offset → List Char
  | universal => ['Z']
  | minutes m =>
    (if m < 0 then '-' else '+') :: padded 2 (m.natAbs / 60) ++ ':' :: padded 2 (m.natAbs % 60)

/-- The text of a date or time. -/
def Datetime.write (d : Datetime) : String :=
  let date := (d.date.map Date.write).getD []
  let time := (d.time.map Time.write).getD []
  let between := if d.date.isSome && d.time.isSome then ['T'] else []
  String.ofList (date ++ between ++ time ++ (d.offset.map Offset.write).getD [])

/-- Whether a year has a 29 February. -/
def isLeapYear (year : Nat) : Bool := year % 4 = 0 && (year % 100 ≠ 0 || year % 400 = 0)

/-- The number of days of a month. -/
def monthDays (year month : Nat) : Nat :=
  if month = 2 then (if isLeapYear year then 29 else 28)
  else if month = 4 ∨ month = 6 ∨ month = 9 ∨ month = 11 then 30
  else 31

/-- Whether month and day are those of a date. -/
def Date.isValid (d : Date) : Bool :=
  1 ≤ d.month && d.month ≤ 12 && 1 ≤ d.day && d.day ≤ monthDays d.year d.month

/-- The value of a digit. -/
def digit? (c : Char) : Option Nat := if c.isDigit then some (c.toNat - '0'.toNat) else none

/-- The number that two digits stand for. -/
def twoDigits? (a b : Char) : Option Nat := do
  let tens ← digit? a
  let ones ← digit? b
  return 10 * tens + ones

/-- A number of two digits at the front of a text. -/
def scanTwoDigits : (text : List Char) → Option (Taken Nat text)
  | a :: b :: _ => (twoDigits? a b).map .second
  | _ => none

/-- A given character at the front of a text. -/
def scanMark (mark : Char) : (text : List Char) → Option (Taken Unit text)
  | c :: _ => if c = mark then some (.first ()) else none
  | [] => none

/-- Year, month and day. -/
def scanDate (text : List Char) : Option (Taken Date text) := do
  let century ← scanTwoDigits text
  let year ← scanTwoDigits century.rest
  let dash ← scanMark '-' year.rest
  let month ← scanTwoDigits dash.rest
  let secondDash ← scanMark '-' month.rest
  let day ← scanTwoDigits secondDash.rest
  let date : Date := ⟨100 * century.value + year.value, month.value, day.value⟩
  if date.isValid then
    return (century.and (year.and (dash.and (month.and (secondDash.and day))))).map fun _ => date
  else none

/-- The digits after the point of a second as nanoseconds; what is beyond the
ninth digit is dropped. -/
def nanoseconds (digits : List Char) : Nat :=
  (digits.take 9 ++ List.replicate (9 - digits.length) '0').foldl
    (fun n c => 10 * n + (c.toNat - '0'.toNat)) 0

/-- The fraction of a second, zero if there is none. -/
def scanFraction : (text : List Char) → Option (Remaining Nat text)
  | '.' :: rest =>
    (Text.takeSome Char.isDigit rest).map fun digits => (digits.map nanoseconds).after.found
  | _ => some (.nothing 0)

/-- Hours, minutes and seconds. A minute may have a leap second. -/
def scanTime (text : List Char) : Option (Taken Time text) := do
  let hour ← scanTwoDigits text
  let colon ← scanMark ':' hour.rest
  let minute ← scanTwoDigits colon.rest
  let secondColon ← scanMark ':' minute.rest
  let second ← scanTwoDigits secondColon.rest
  let fraction ← scanFraction second.rest
  if hour.value ≤ 23 ∧ minute.value ≤ 59 ∧ second.value ≤ 60 then
    return (hour.and (colon.and (minute.and (secondColon.and (second.andFound fraction))))).map
      fun _ => ⟨hour.value, minute.value, second.value, fraction.value⟩
  else none

/-- The hours and minutes of an offset, which is less than a day. -/
def scanOffsetMinutes (text : List Char) : Option (Taken Nat text) := do
  let hours ← scanTwoDigits text
  let colon ← scanMark ':' hours.rest
  let minutes ← scanTwoDigits colon.rest
  if hours.value ≤ 23 ∧ minutes.value ≤ 59 then
    return (hours.and (colon.and minutes)).map fun _ => hours.value * 60 + minutes.value
  else none

/-- An offset, if there is one. -/
def scanOffset : (text : List Char) → Option (Remaining (Option Offset) text)
  | 'Z' :: _ | 'z' :: _ => some (Taken.first (some .universal)).found
  | '+' :: rest => (scanOffsetMinutes rest).map fun taken =>
    (taken.map fun (total : Nat) => some (.minutes total)).after.found
  | '-' :: rest => (scanOffsetMinutes rest).map fun taken =>
    (taken.map fun (total : Nat) => some (.minutes (-total))).after.found
  | _ => some (.nothing none)

/-- Whether a character stands between a date and its time. -/
def isDelimiter (c : Char) : Bool := c = 'T' || c = 't' || c = ' '

/-- The time after a date, with its offset. -/
def scanTimeOfDate (text : List Char) : Option (Taken (Time × Option Offset) text) := do
  let time ← scanTime text
  let offset ← scanOffset time.rest
  return time.andFound offset

/-- A date, with the time that follows it after a `T` or a blank. Where no time
follows, the date stands alone. -/
def scanDateTime (text : List Char) : Option (Taken Datetime text) := do
  let date ← scanDate text
  let time ← timeAfter date.rest
  return (date.andFound time).map fun (date, time) =>
    ⟨some date, time.map Prod.fst, time.bind Prod.snd⟩
where
  /-- The time after a date, if there is one. -/
  timeAfter : (text : List Char) → Option (Remaining (Option (Time × Option Offset)) text)
    | c :: rest =>
      if isDelimiter c && (scanTime rest).isSome then
        (scanTimeOfDate rest).map fun taken => (taken.map some).after.found
      else some (.nothing none)
    | [] => some (.nothing none)

/-- Whether a text starts like a date. -/
def startsLikeDate : List Char → Bool
  | a :: b :: c :: d :: '-' :: _ => a.isDigit && b.isDigit && c.isDigit && d.isDigit
  | _ => false

/-- Whether a text starts like a time. -/
def startsLikeTime : List Char → Bool
  | a :: b :: ':' :: _ => a.isDigit && b.isDigit
  | _ => false

/-- A date or time at the front of a text that starts like one. -/
def Datetime.scan (text : List Char) : Option (Taken Datetime text) :=
  if startsLikeDate text then scanDateTime text
  else (scanTime text).map fun taken => taken.map fun time => ⟨none, some time, none⟩

/-- The date or time that a whole text is. -/
def Datetime.ofText? (text : String) : Option Datetime := do
  let taken ← Datetime.scan text.toList
  if taken.rest.isEmpty then some taken.value else none

end ThriftPages.Toml
