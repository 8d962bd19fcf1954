/-
# String literals of a JSON text

A string literal runs to the next quotation mark that no backslash precedes. A
backslash escapes one character, or with `u` and four hexadecimal digits a
UTF-16 unit; a character beyond U+FFFF takes two units, a leading and a trailing
surrogate, each escaped. Characters below U+0020 must be escaped.

Key definitions: `Json.stringRest`, `Json.escape`.
-/
import ThriftPages.Json.Reader
import ThriftPages.Text.HexDigit

namespace ThriftPages.Json

open Text (Taken)

/-- The number of bytes of a text in UTF-8. -/
def byteLength (text : List Char) : Nat := text.foldl (fun n c => n + c.utf8Size) 0

/-- The UTF-16 unit that the next four bytes, hexadecimal digits, stand for. -/
def unit : (text : List Char) → Except Malformed (Taken Nat text)
  | a :: b :: c :: d :: rest =>
    match Text.hexDigit? a, Text.hexDigit? b, Text.hexDigit? c, Text.hexDigit? d with
    | some w, some x, some y, some z =>
      let lower : Taken Nat (c :: d :: rest) := .second (((w * 16 + x) * 16 + y) * 16 + z)
      .ok lower.after.after
    | _, _, _, _ => .error .invalidEscape
  | text => if byteLength text < 4 then .error .endInString else .error .invalidEscape

/-- Whether a unit is the first of a pair. -/
def isLeading (n : Nat) : Bool := 0xD800 ≤ n && n < 0xDC00

/-- Whether a unit is the second of a pair. -/
def isTrailing (n : Nat) : Bool := 0xDC00 ≤ n && n < 0xE000

/-- The character that a pair of surrogates stands for. -/
def pairChar (leading trailing : Nat) : Char :=
  Char.ofNat (0x10000 + (leading - 0xD800) * 0x400 + (trailing - 0xDC00))

/-- The second unit of a pair, which must be escaped too. -/
def trailingEscape : (text : List Char) → Except Malformed (Taken Nat text)
  | '\\' :: 'u' :: rest => do
    let second ← unit rest
    if isTrailing second.value then .ok second.after.after else .error .loneSurrogate
  | [] | ['\\'] => .error .endInString
  | _ => .error .unpairedSurrogate

/-- The character of one escaped unit, or of two. -/
def unicodeEscape (text : List Char) : Except Malformed (Taken Char text) := do
  let first ← unit text
  if isTrailing first.value then .error .loneSurrogate
  else if isLeading first.value then do
    let second ← trailingEscape first.rest
    return (first.and second).map fun (leading, trailing) => pairChar leading trailing
  else .ok (first.map Char.ofNat)

/-- The character that a one-letter escape stands for. -/
def shortEscape? : Char → Option Char
  | '"' => some '"'
  | '\\' => some '\\'
  | '/' => some '/'
  | 'b' => some '\x08'
  | 'f' => some '\x0c'
  | 'n' => some '\n'
  | 'r' => some '\r'
  | 't' => some '\t'
  | _ => none

/-- The escaped character after a backslash. -/
def escape : (text : List Char) → Except Malformed (Taken Char text)
  | [] => .error .endInString
  | 'u' :: rest => (unicodeEscape rest).map Taken.after
  | c :: _ =>
    match shortEscape? c with
    | some escaped => .ok (.first escaped)
    | none => .error .invalidEscape

/-- The next character of a string literal, or its end. -/
def stringItem : (text : List Char) → Except Malformed (Taken (Char ⊕ Unit) text)
  | [] => .error .endInString
  | '"' :: _ => .ok (.first (.inr ()))
  | '\\' :: rest => (escape rest).map fun taken => (taken.map .inl).after
  | c :: _ => if c < ' ' then .error .controlCharacter else .ok (.first (.inl c))

/-- The characters of a string literal up to its closing quotation mark, the
opening one having been read. -/
def stringChars (text : List Char) : Except Malformed (Taken (List Char) text) :=
  (Text.row stringItem text).map fun taken => taken.map Prod.fst

/-- The rest of a string literal. -/
def stringRest {ε : Type} : Reader ε String := fun text =>
  match stringChars text with
  | .ok taken => .ok (taken.map String.ofList)
  | .error fault => malformed fault

end ThriftPages.Json
