/-
# The statements of a TOML document

A document is a row of lines: a key with its value, the header of a table, or the
header of one more table of an array. A key is one or more names with points
between them. Arrays may run over several lines and hold comments; inline tables
may not.

Fewer than 80 arrays and inline tables may be open at once, and a key has fewer
than 80 names.

Key definitions: `Toml.Key`, `Toml.Literal`, `Toml.Statement`, `Toml.scanValue`,
`Toml.scanStatements`.
-/
import ThriftPages.Toml.Numeral
import ThriftPages.Toml.Quotation

namespace ThriftPages.Toml

open Text (Taken Remaining)

/-- A key: a name, and the names before it. -/
structure Key where
  path : List String
  name : String
deriving Inhabited

/-- A value as it is written. The keys of inline tables have not been put in
order yet. -/
inductive Literal
  | plain (value : Value)
  | array (elements : List Literal)
  | inlineTable (entries : List (Key × Literal))
deriving Inhabited

/-- A line of a document that says something. -/
inductive Statement
  | entry (key : Key) (value : Literal)
  | table (key : Key)
  | tableArray (key : Key)

/-- The limit on nested values and on the names of a key. -/
def recursionLimit : Nat := 80

/-! ### Keys -/

/-- The characters of a name without quotation marks. -/
def isBare (c : Char) : Bool := c.isAlphanum || c = '_' || c = '-'

/-- A name of a key. -/
def scanName : (text : List Char) → Option (Taken String text)
  | '"' :: rest => scanSingleLine ('"' :: rest)
  | '\'' :: rest => scanSingleLine ('\'' :: rest)
  | text => (Text.takeSome isBare text).map fun chars => chars.map String.ofList

/-- The blanks at the front of a text. -/
def blanks (text : List Char) : Remaining Unit text :=
  (Text.takeMany isBlank text).map fun _ => ()

/-- Whether there is a point. -/
def scanPoint : (text : List Char) → Remaining Bool text
  | '.' :: _ => (Taken.first true).found
  | _ => .nothing false

/-- A name of a key with the blanks around it; a point says that more follow. -/
def nameItem : (text : List Char) → Option (Taken (String ⊕ String) text) :=
  afterBlanks fun text => do
    let name ← scanName text
    let space := blanks name.rest
    let point := scanPoint space.rest
    return (name.andFound (space.and point)).map fun (name, _, more) =>
      if more then .inl name else .inr name

/-- A key, and the blanks after it. -/
def scanKey (text : List Char) : Option (Taken Key text) := do
  let names ← Text.row nameItem text
  if names.value.1.length + 1 < recursionLimit then
    return names.map fun (path, name) => ⟨path, name⟩
  else none

/-! ### Blank space -/

/-- Blanks, line breaks and comments at the front of a text. -/
def skipSpace : (inComment : Bool) → (text : List Char) → Option (Remaining Unit text)
  | _, '\n' :: rest => (skipSpace false rest).map fun space => space.after.found
  | _, '\r' :: '\n' :: rest => (skipSpace false rest).map fun space => space.after.after.found
  | true, c :: rest =>
    if isPlain c then (skipSpace true rest).map fun space => space.after.found else none
  | false, '#' :: rest => (skipSpace true rest).map fun space => space.after.found
  | false, ' ' :: rest | false, '\t' :: rest =>
    (skipSpace false rest).map fun space => space.after.found
  | _, _ => some (.nothing ())

/-- A comment. -/
def scanComment : (text : List Char) → Remaining Unit text
  | '#' :: rest => ((Text.takeMany isPlain rest).map fun _ => ()).after.found
  | _ => .nothing ()

/-- A line break or the end of the text. -/
def scanBreak : (text : List Char) → Option (Remaining Unit text)
  | [] => some (.nothing ())
  | text => (lineBreak? text).map Taken.found

/-- The end of a line after a statement: blanks, a comment, and a line break or
the end of the text. -/
def scanLineEnd (text : List Char) : Option (Remaining Unit text) := do
  let space := blanks text
  let comment := scanComment space.rest
  let lineBreak ← scanBreak comment.rest
  return (space.and (comment.and lineBreak)).map fun _ => ()

/-! ### Values -/

section Nested

variable (value : (text : List Char) → Option (Taken Literal text))

/-- What follows a comma in an array: its end, or one more element. -/
def afterComma (text : List Char) : Option (Remaining Bool text) := do
  let space ← skipSpace false text
  return (space.and (more space.rest)).map Prod.snd
where
  /-- Whether the array goes on. -/
  more : (text : List Char) → Remaining Bool text
    | ']' :: _ => (Taken.first false).found
    | _ => .nothing true

/-- What stands after an element of an array, and whether more follow. -/
def scanSeparator : (text : List Char) → Option (Taken Bool text)
  | ']' :: _ => some (.first false)
  | ',' :: rest => (afterComma rest).map Remaining.after
  | _ => none

/-- An element of an array and what separates it from the next. -/
def elementItem (text : List Char) : Option (Taken (Literal ⊕ Literal) text) := do
  let element ← value text
  let space ← skipSpace false element.rest
  let separator ← scanSeparator space.rest
  return (element.and (space.andTaken separator)).map fun (element, _, more) =>
    if more then .inl element else .inr element

/-- The elements of an array up to its closing bracket. -/
def scanElements : (text : List Char) → Option (Taken (List Literal) text)
  | ']' :: _ => some (.first [])
  | text => (Text.row (elementItem value) text).map fun taken =>
    taken.map fun (elements, last) => elements ++ [last]

/-- An array, after its opening bracket. -/
def scanArray (text : List Char) : Option (Taken Literal text) := do
  let space ← skipSpace false text
  let elements ← scanElements value space.rest
  return (space.andTaken elements).map fun (_, elements) => .array elements

/-- The equals sign after a key, and the value after it. -/
def scanAssigned : (text : List Char) → Option (Taken Literal text)
  | '=' :: rest => (afterBlanks value rest).map Taken.after
  | _ => none

/-- A key and its value. -/
def scanEntry (text : List Char) : Option (Taken (Key × Literal) text) := do
  let key ← scanKey text
  let assigned ← scanAssigned value key.rest
  return key.and assigned

/-- What stands after an entry of an inline table, and whether more follow. -/
def scanEntrySeparator : (text : List Char) → Option (Taken Bool text) := afterBlanks fun
  | '}' :: _ => some (.first false)
  | ',' :: _ => some (.first true)
  | _ => none

/-- An entry of an inline table and what separates it from the next. -/
def entryItem (text : List Char) :
    Option (Taken ((Key × Literal) ⊕ (Key × Literal)) text) := do
  let entry ← scanEntry value text
  let separator ← scanEntrySeparator entry.rest
  return (entry.and separator).map fun (entry, more) =>
    if more then .inl entry else .inr entry

/-- An inline table, after its opening brace. -/
def scanInlineTable : (text : List Char) → Option (Taken Literal text) := afterBlanks fun
  | '}' :: _ => some (.first (.inlineTable []))
  | text => (Text.row (entryItem value) text).map fun taken =>
    taken.map fun (entries, last) => .inlineTable (entries ++ [last])

end Nested

/-- A value that is neither array nor inline table. -/
def scanPlain : (text : List Char) → Option (Taken Value text)
  | 't' :: 'r' :: 'u' :: 'e' :: _ => some (Taken.second (.boolean true)).after.after
  | 'f' :: 'a' :: 'l' :: 's' :: 'e' :: _ =>
    some (Taken.second (.boolean false)).after.after.after
  | '"' :: rest => (scanString ('"' :: rest)).map fun s => s.map .string
  | '\'' :: rest => (scanString ('\'' :: rest)).map fun s => s.map .string
  | text =>
    if startsLikeDate text || startsLikeTime text then
      (Datetime.scan text).map fun d => d.map .datetime
    else scanNumber text

/-- A value whose parts are read by `part`; without one it may have none. -/
def scanValueOf (part : Option ((text : List Char) → Option (Taken Literal text))) :
    (text : List Char) → Option (Taken Literal text)
  | '[' :: rest => part.bind fun part => (scanArray part rest).map Taken.after
  | '{' :: rest => part.bind fun part => (scanInlineTable part rest).map Taken.after
  | text => (scanPlain text).map fun v => v.map .plain

/-- A value in which at most so many arrays and inline tables are open at once. -/
def scanValue : (levels : Nat) → (text : List Char) → Option (Taken Literal text)
  | 0 => scanValueOf none
  | levels + 1 => scanValueOf (some (scanValue levels))

/-! ### Statements -/

/-- The closing brackets of a header. -/
def scanClosing : (double : Bool) → (text : List Char) → Option (Taken Unit text)
  | true, ']' :: ']' :: _ => some (.second ())
  | false, ']' :: _ => some (.first ())
  | _, _ => none

/-- The key of a header and its closing brackets. -/
def scanHeader (double : Bool) (text : List Char) : Option (Taken Key text) := do
  let key ← scanKey text
  let closing ← scanClosing double key.rest
  return (key.and closing).map Prod.fst

/-- A statement without the end of its line. -/
def scanStatement : (text : List Char) → Option (Taken Statement text)
  | '[' :: '[' :: rest => (scanHeader true rest).map fun key => (key.map .tableArray).after.after
  | '[' :: rest => (scanHeader false rest).map fun key => (key.map .table).after
  | text => (scanEntry (scanValue (recursionLimit - 1)) text).map fun entry =>
    entry.map fun (key, value) => .entry key value

/-- A statement with the end of its line and the blank space up to the next one. -/
def scanStatementLine (text : List Char) : Option (Taken Statement text) := do
  let statement ← scanStatement text
  let lineEnd ← scanLineEnd statement.rest
  let space ← skipSpace false lineEnd.rest
  return (statement.andFound (lineEnd.and space)).map Prod.fst

/-- The statements of a document. -/
def scanStatements (text : List Char) : Option (List Statement) := do
  let space ← skipSpace false text
  Text.all scanStatementLine space.rest

end ThriftPages.Toml
