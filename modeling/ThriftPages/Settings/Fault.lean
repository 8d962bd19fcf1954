/-
# Faults of settings

Why settings cannot be read. Each fault is a cause; `SettingsFault.message` puts
it into words.

Numbers are written in full, without an exponent. Of two equally near shortest
decimals the upper one is taken. In a message a whole number keeps its point.

Key definitions: `Shape`, `SettingsFault`, `SettingsFault.message`.
-/
import ThriftPages.Decimal.Layout
import ThriftPages.FileSystem
import ThriftPages.Settings.Setting
import ThriftPages.Text.Quoted
import ThriftPages.Text.Wording

namespace ThriftPages

open Text (backquoted countOf)

/-- What stands where a setting of another kind should. -/
inductive Shape
  | scalar (value : Scalar)
  | sequence
  | map
deriving DecidableEq

/-- What a setting is. -/
def Setting.shape : Setting → Shape
  | scalar _ value => .scalar value
  | array _ _ => .sequence
  | table _ _ => .map

/-- What a setting should be. -/
inductive Wanted
  | boolean | string
deriving DecidableEq

/-- The record that a section of the settings fills. -/
structure Record where
  name : String
  fieldCount : Nat
deriving DecidableEq

/-- Why settings cannot be read. -/
inductive SettingsFault
  /-- A file that must be there is not. -/
  | fileNotFound (path : String)
  /-- A file that must be there cannot be read. -/
  | unreadable (fault : FileFault)
  /-- A file is not TOML. -/
  | badSyntax
  /-- A file is a date or time, and no table. -/
  | notATable (text uri : String)
  /-- A key is no path. -/
  | badKey
  | wrongType (found : Shape) (wanted : Wanted) (place : String) (origin : Option String)
  | notARecord (found : Shape) (record : Record)
  | tooShort (length : Nat) (record : Record)
  | missingField (key : String)
  | unknownStyle (name : String)
  | notAStyle
deriving DecidableEq

/-- How numbers are written as text. -/
def Scalar.floatLayout : FloatLayout where
  tie := .up
  positional _ := true
  keepsPoint := false

/-- How numbers are written in messages: NaN and the infinities have no point. -/
def Scalar.messageFloatLayout : FloatLayout := { Scalar.floatLayout with keepsPoint := true }

/-- A scalar in words. -/
def Scalar.described : Scalar → String
  | null => "unit value"
  | boolean value => "boolean " ++ backquoted (if value then "true" else "false")
  | integer value => "integer " ++ backquoted (toString value)
  | float value => "floating point " ++ backquoted (messageFloatLayout.write value)
  | text value => "string " ++ Text.quoted value

/-- A found setting in words. -/
def Shape.described : Shape → String
  | scalar value => value.described
  | sequence => "sequence"
  | map => "map"

/-- A wanted kind in words. -/
def Wanted.described : Wanted → String
  | boolean => "a boolean"
  | string => "a string"

/-- A record in words. -/
def Record.described (record : Record) : String := "struct " ++ record.name

/-- The fault in words. -/
def SettingsFault.message : SettingsFault → String
  | fileNotFound path => "configuration file \"" ++ path ++ "\" not found"
  | unreadable fault => fault.message
  | badSyntax => "TOML parse error"
  | notATable text uri =>
    "invalid type: string " ++ Text.quoted text ++ ", expected a map in " ++ uri ++ " in " ++ uri
  | badKey => "invalid key"
  | wrongType found wanted place origin =>
    "invalid type: " ++ found.described ++ ", expected " ++ wanted.described ++ " for key "
      ++ backquoted place ++ (match origin with
        | some uri => " in " ++ uri
        | none => "")
  | notARecord found record =>
    "invalid type: " ++ found.described ++ ", expected " ++ record.described
  | tooShort length record =>
    "invalid length " ++ toString length ++ ", expected " ++ record.described ++ " with "
      ++ countOf record.fieldCount "element"
  | missingField key => "missing field " ++ backquoted key
  | unknownStyle name => "enum LogFormat does not have variant constructor " ++ name
  | notAStyle =>
    "value of enum LogFormat should be represented by either string or table with exactly one key"

end ThriftPages
