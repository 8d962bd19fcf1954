/-
# JSON values of a text

A value is a scalar or opens an array or an object (`Json.lead`), which is all
that a first look at it tells. `Json.value` reads a whole value in which at most
a given number of brackets are open at once.

Key definitions: `Json.Lead`, `Json.lead`, `Json.value`.
-/
import ThriftPages.Json.NumberLiteral
import ThriftPages.Json.Object

namespace ThriftPages.Json

open Text (Taken Remaining)

/-- How a value begins: with all of a scalar, or with a bracket. -/
inductive Lead
  | scalar (value : Json)
  | array
  | object

/-- What a value that begins so is found to be. -/
def Lead.found : Lead → Found
  | scalar value => value.found
  | array => .sequence
  | object => .map

/-- Matches the rest of a word. -/
def word : (letters text : List Char) → Except Malformed (Remaining Unit text)
  | [], _ => .ok (.nothing ())
  | _ :: _, [] => .error .endInValue
  | c :: letters, d :: text =>
    if c = d then (word letters text).map fun found => found.after.found
    else .error .expectedIdent

/-- The rest of a word that stands for a value. -/
def wordRest {ε : Type} (letters : List Char) (value : Json) (text : List Char) :
    Except (ReadError ε) (Remaining Lead text) :=
  match word letters text with
  | .ok found => .ok (found.map fun _ => .scalar value)
  | .error fault => malformed fault

/-- The beginning of a value, its first character having been found. -/
def leadFrom {ε : Type} : Reader ε Lead
  | [] => malformed .endInValue
  | '[' :: _ => .ok (.first .array)
  | '{' :: _ => .ok (.first .object)
  | '"' :: rest => (stringRest rest).map fun s => (s.map fun s => .scalar (.string s)).after
  | 'n' :: rest => (wordRest ['u', 'l', 'l'] .null rest).map Remaining.after
  | 't' :: rest => (wordRest ['r', 'u', 'e'] (.boolean true) rest).map Remaining.after
  | 'f' :: rest => (wordRest ['a', 'l', 's', 'e'] (.boolean false) rest).map Remaining.after
  | c :: rest =>
    if c = '-' ∨ c.isDigit then
      (readNumber (c :: rest)).map fun n => n.map fun n => .scalar (.number n)
    else malformed .expectedValue

/-- The beginning of a value. -/
def lead {ε : Type} : Reader ε Lead := afterBlanks leadFrom

/-- Collects the members of an object, the last one first. -/
def collect {ε : Type} (value : Reader ε Json) : OnKey ε (List (String × Json)) :=
  fun before key => .ok (value.map fun v => (key, v) :: before)

/-- A value whose parts are read by `part`; without one it may have none. -/
def valueOf {ε : Type} (part : Option (Reader ε Json)) : Reader ε Json := fun text => do
  let first ← lead text
  match first.value, part with
  | .scalar value, _ => return first.map fun _ => value
  | .array, some part =>
    let parts ← elements part first.rest
    return (first.and parts).map fun (_, values) => .array values
  | .object, some part =>
    let parts ← members (collect part) [] first.rest
    return (first.and parts).map fun (_, members) => .object members.reverse
  | .array, none | .object, none => malformed .tooDeep

/-- A value in which no more than `levels` brackets are open at once. -/
def value {ε : Type} : (levels : Nat) → Reader ε Json
  | 0 => valueOf none
  | levels + 1 => valueOf (some (value levels))

end ThriftPages.Json
