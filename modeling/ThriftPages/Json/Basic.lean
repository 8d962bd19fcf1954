/-
# JSON values

A JSON value keeps the members of an object in the order of the text, equal
keys included. A number is an integer or a binary64 number.

`Json.Found` says what kind of value stands somewhere, as far as a message
needs to know.

Key definitions: `Json`, `Json.Number`, `Json.Found`, `Json.depth`.
-/
import ThriftPages.Decimal.Layout

namespace ThriftPages

/-- A number of a JSON text. -/
inductive Json.Number
  | integer (value : Int)
  | float (value : Binary64)
deriving DecidableEq

/-- A JSON value. -/
inductive Json
  | null
  | boolean (value : Bool)
  | number (value : Json.Number)
  | string (value : String)
  | array (elements : List Json)
  | object (members : List (String × Json))
deriving Inhabited

namespace Json

/-- The value found in a place where another was expected. -/
inductive Found
  | null
  | boolean (value : Bool)
  | number (value : Number)
  | string (value : String)
  | sequence
  | map
deriving DecidableEq

/-- What a value is found to be. -/
def found : Json → Found
  | null => .null
  | boolean value => .boolean value
  | number value => .number value
  | string value => .string value
  | array _ => .sequence
  | object _ => .map

/-- An integer as a value. -/
def ofInt (value : Int) : Json := number (.integer value)

/-- Numbers of JSON texts and messages have the fewest digits that read back, a
tie going to the even digit; they are positional from `1e-5` up to `1e16`, and a
whole number then ends in `.0`. -/
def floatLayout : FloatLayout where
  tie := .toEven
  positional power := -5 ≤ power && power < 16
  keepsPoint := true

/-- The text of a number. -/
def Number.write : Number → String
  | integer value => toString value
  | float value => floatLayout.write value

mutual

/-- How deeply arrays and objects are nested in a value. -/
def depth : Json → Nat
  | array elements => depthOfElements elements + 1
  | object members => depthOfMembers members + 1
  | _ => 0

/-- The greatest depth of the elements. -/
def depthOfElements : List Json → Nat
  | [] => 0
  | value :: rest => max (depth value) (depthOfElements rest)

/-- The greatest depth of the members' values. -/
def depthOfMembers : List (String × Json) → Nat
  | [] => 0
  | (_, value) :: rest => max (depth value) (depthOfMembers rest)

end

end Json

end ThriftPages
