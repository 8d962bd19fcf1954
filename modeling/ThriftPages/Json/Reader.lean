/-
# Readers of JSON text

A reader takes a value off the front of a text and gives back what is left,
which is shorter. It fails because the text is malformed at this point, or
because what was read so far is refused by whoever asked for it: the text is
read from left to right and the first fault wins, of whichever kind.

Arrays and objects are read by readers of their parts (`elements`, `members`),
so that a part can be refused before the text after it is looked at.

Key definitions: `Json.Malformed`, `Json.ReadError`, `Json.Reader`,
`Json.elements`, `Json.members`.
-/
import ThriftPages.Json.Basic
import ThriftPages.Text.Taken

namespace ThriftPages.Json

open Text (Taken)

/-- What is wrong with a JSON text at the place where reading stopped. -/
inductive Malformed
  | endInValue
  | endInString
  | endInList
  | endInObject
  | expectedValue
  | expectedIdent
  | expectedListEnd
  | expectedObjectEnd
  | expectedColon
  | keyNotString
  | trailingComma
  | trailingCharacters
  | invalidNumber
  | numberOutOfRange
  | controlCharacter
  | invalidEscape
  | loneSurrogate
  | unpairedSurrogate
  | tooDeep
deriving DecidableEq

/-- The fault in words. -/
def Malformed.message : Malformed → String
  | endInValue => "EOF while parsing a value"
  | endInString => "EOF while parsing a string"
  | endInList => "EOF while parsing a list"
  | endInObject => "EOF while parsing an object"
  | expectedValue => "expected value"
  | expectedIdent => "expected ident"
  | expectedListEnd => "expected `,` or `]`"
  | expectedObjectEnd => "expected `,` or `\x7d`"
  | expectedColon => "expected `:`"
  | keyNotString => "key must be a string"
  | trailingComma => "trailing comma"
  | trailingCharacters => "trailing characters"
  | invalidNumber => "invalid number"
  | numberOutOfRange => "number out of range"
  | controlCharacter => "control character (\\u0000-\\u001F) found while parsing a string"
  | invalidEscape => "invalid escape"
  | loneSurrogate => "lone leading surrogate in hex escape"
  | unpairedSurrogate => "unexpected end of hex escape"
  | tooDeep => "recursion limit exceeded"

/-- Why reading stopped: the text is malformed, or what it says is refused. -/
inductive ReadError (ε : Type)
  | malformed (fault : Malformed)
  | refused (reason : ε)
deriving DecidableEq

/-- A reader of values that may be refused with a reason. -/
def Reader (ε α : Type) : Type :=
  (text : List Char) → Except (ReadError ε) (Taken α text)

/-- Reads with `r` and applies `f` to the value. -/
def Reader.map {ε α β : Type} (f : α → β) (r : Reader ε α) : Reader ε β :=
  fun text => (r text).map (Taken.map f)

/-- Fails because of the text. -/
def malformed {ε α : Type} (fault : Malformed) : Except (ReadError ε) α :=
  .error (.malformed fault)

/-- Fails because of what was read. -/
def refused {ε α : Type} (reason : ε) : Except (ReadError ε) α :=
  .error (.refused reason)

/-! ### Blanks -/

/-- Blanks between the parts of a JSON text. -/
def isBlank (c : Char) : Bool := c = ' ' || c = '\t' || c = '\n' || c = '\r'

/-- The text after its leading blanks. -/
def skipBlanks (text : List Char) : List Char := text.dropWhile isBlank

theorem length_skipBlanks_le (text : List Char) : (skipBlanks text).length ≤ text.length :=
  Text.length_dropWhile_le isBlank text

/-- Passes over blanks before it reads. -/
def afterBlanks {φ α : Type} (read : (text : List Char) → Except φ (Taken α text))
    (text : List Char) : Except φ (Taken α text) :=
  (read (skipBlanks text)).map fun taken => taken.widen (length_skipBlanks_le text)

/-! ### Arrays -/

section Array

variable {ε α : Type} (element : Reader ε α)

/-- What follows an element of an array: one more, or the end. -/
def nextElement : Reader ε (α ⊕ Unit) := afterBlanks fun
  | [] => malformed .endInList
  | ',' :: rest =>
    if (skipBlanks rest).head? = some ']' then malformed .trailingComma
    else (element rest).map fun taken => (taken.map .inl).after
  | ']' :: _ => .ok (.first (.inr ()))
  | _ => malformed .expectedListEnd

/-- The rest of an array after one of its elements. -/
def moreElements : Reader ε (List α) := fun text =>
  (Text.row (nextElement element) text).map fun taken => taken.map Prod.fst

/-- The elements of an array up to its closing bracket, the opening one having
been read. -/
def elements : Reader ε (List α) := afterBlanks fun
  | [] => malformed .endInList
  | ']' :: _ => .ok (.first [])
  | text => do
    let first ← element text
    let others ← moreElements element first.rest
    return (first.and others).map fun (value, values) => value :: values

end Array

end ThriftPages.Json
