/-
# Written JSON

The compact text of a value has no blanks; the indented text puts each element
and member on a line of its own, two blanks deeper than its array or object, and
a blank after the colon. Empty arrays and objects are `[]` and `{}` in both.

In a string a quotation mark and a backslash follow a backslash, the other
characters below U+0020 are written `\b`, `\f`, `\n`, `\r`, `\t` or with four
hexadecimal digits, and everything else stands for itself.

Key definitions: `Json.quoted`, `Json.compact`, `Json.indented`.
-/
import ThriftPages.Json.Basic

namespace ThriftPages.Json

/-- A character inside a written string. -/
def escapeChar (c : Char) : List Char :=
  if c = '"' then ['\\', '"']
  else if c = '\\' then ['\\', '\\']
  else if c = '\x08' then ['\\', 'b']
  else if c = '\x0c' then ['\\', 'f']
  else if c = '\n' then ['\\', 'n']
  else if c = '\r' then ['\\', 'r']
  else if c = '\t' then ['\\', 't']
  else if c < ' ' then
    ['\\', 'u', '0', '0', Nat.digitChar (c.toNat / 16), Nat.digitChar (c.toNat % 16)]
  else [c]

/-- A string between quotation marks. -/
def quoted (s : String) : String :=
  String.ofList ('"' :: s.toList.flatMap escapeChar ++ ['"'])

mutual

/-- The text without blanks. -/
def compact : Json → String
  | null => "null"
  | boolean value => if value then "true" else "false"
  | number value => value.write
  | string value => quoted value
  | array elements => "[" ++ String.intercalate "," (compactElements elements) ++ "]"
  | object members => "\x7b" ++ String.intercalate "," (compactMembers members) ++ "\x7d"

/-- The compact texts of the elements. -/
def compactElements : List Json → List String
  | [] => []
  | value :: rest => compact value :: compactElements rest

/-- The compact texts of the members. -/
def compactMembers : List (String × Json) → List String
  | [] => []
  | (key, value) :: rest => (quoted key ++ ":" ++ compact value) :: compactMembers rest

end

/-- A new line, indented to the given level. -/
def newLine (level : Nat) : String :=
  String.ofList ('\n' :: List.replicate (2 * level) ' ')

/-- The parts between an opening and a closing bracket, each on a line of its
own one level deeper. -/
def bracketed (opening closing : String) (level : Nat) (parts : List String) : String :=
  if parts.isEmpty then opening ++ closing
  else
    opening ++ newLine (level + 1) ++ String.intercalate ("," ++ newLine (level + 1)) parts
      ++ newLine level ++ closing

mutual

/-- The indented text of a value that starts on a line of the given level. -/
def indentedAt (level : Nat) : Json → String
  | array elements => bracketed "[" "]" level (indentedElements (level + 1) elements)
  | object members => bracketed "\x7b" "\x7d" level (indentedMembers (level + 1) members)
  | null => "null"
  | boolean value => if value then "true" else "false"
  | number value => value.write
  | string value => quoted value

/-- The indented texts of the elements. -/
def indentedElements (level : Nat) : List Json → List String
  | [] => []
  | value :: rest => indentedAt level value :: indentedElements level rest

/-- The indented texts of the members. -/
def indentedMembers (level : Nat) : List (String × Json) → List String
  | [] => []
  | (key, value) :: rest =>
    (quoted key ++ ": " ++ indentedAt level value) :: indentedMembers level rest

end

/-- The indented text. -/
def indented (value : Json) : String := indentedAt 0 value

end ThriftPages.Json
