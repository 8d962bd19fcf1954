/-
# Faults of a syntax tree

A syntax tree may be well-formed JSON and still not describe a document: a value
has the wrong type or length, a key is missing or given twice, a tag is unknown.
Each fault is a cause; `Fault.message` puts it into words.

Key definitions: `Fault`, `Fault.message`.
-/
import ThriftPages.Json.Basic
import ThriftPages.Text.Quoted
import ThriftPages.Text.Wording

namespace ThriftPages.SyntaxTree

open Text (backquoted countOf)

/-- The kind of record that a list of fields belongs to. -/
inductive Shape
  | struct (name : String)
  | variant (enum name : String)
deriving DecidableEq

/-- What should have stood in a place. -/
inductive Expected
  | record (shape : Shape)
  /-- A record given as an array of that many elements. -/
  | recordOf (shape : Shape) (size : Nat)
  | taggedEnum (name : String)
  | variantIdentifier
  | variantIndex (count : Nat)
  | elements (count : Nat)
  | sequence
  | string
  | boolean
  | unit
  | stringOrMap
  | singleKeyMap
deriving DecidableEq

/-- Why a value does not describe what it should. -/
inductive Fault
  | invalidType (found : Json.Found) (expected : Expected)
  | invalidValue (found : Json.Found) (expected : Expected)
  | invalidLength (length : Nat) (expected : Expected)
  | unknownVariant (name : String) (known : List String)
  | missingField (key : String)
  | duplicateField (key : String)
  | noVariant (enum : String)
deriving DecidableEq

/-- A found value in words. -/
def foundText : Json.Found → String
  | .null => "null"
  | .boolean value => "boolean " ++ backquoted (if value then "true" else "false")
  | .number (.integer value) => "integer " ++ backquoted (toString value)
  | .number (.float value) => "floating point " ++ backquoted (Json.floatLayout.write value)
  | .string value => "string " ++ Text.quoted value
  | .sequence => "sequence"
  | .map => "map"

/-- A record in words. -/
def Shape.text : Shape → String
  | struct name => "struct " ++ name
  | variant enum name => "struct variant " ++ enum ++ "::" ++ name

/-- What was expected in words. -/
def Expected.text : Expected → String
  | record shape => shape.text
  | recordOf shape size => shape.text ++ " with " ++ countOf size "element"
  | taggedEnum name => "internally tagged enum " ++ name
  | variantIdentifier => "variant identifier"
  | variantIndex count => "variant index 0 <= i < " ++ toString count
  | elements count => countOf count "element" ++ " in sequence"
  | sequence => "a sequence"
  | string => "a string"
  | boolean => "a boolean"
  | unit => "unit"
  | stringOrMap => "string or map"
  | singleKeyMap => "map with a single key"

/-- The names that would have been known: two are joined by "or". -/
def knownText (known : List String) : String :=
  match known with
  | [a, b] => backquoted a ++ " or " ++ backquoted b
  | _ => "one of " ++ String.intercalate ", " (known.map backquoted)

/-- The fault in words. -/
def Fault.message : Fault → String
  | invalidType found expected =>
    "invalid type: " ++ foundText found ++ ", expected " ++ expected.text
  | invalidValue found expected =>
    "invalid value: " ++ foundText found ++ ", expected " ++ expected.text
  | invalidLength length expected =>
    "invalid length " ++ toString length ++ ", expected " ++ expected.text
  | unknownVariant name known =>
    "unknown variant " ++ backquoted name ++ ", expected " ++ knownText known
  | missingField key => "missing field " ++ backquoted key
  | duplicateField key => "duplicate field " ++ backquoted key
  | noVariant enum => "data did not match any variant of untagged enum " ++ enum

end ThriftPages.SyntaxTree
