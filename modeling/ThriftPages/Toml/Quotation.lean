/-
# TOML strings

A basic string stands between quotation marks and has escapes; a literal string
stands between apostrophes and has none. Three marks open a string that may run
over several lines; a line break right after them is dropped, and every line
break counts as a line feed. The three marks that close it may follow one or two
marks that belong to the string.

In a basic string over several lines a backslash at the end of a line drops the
line break and all blanks and line breaks after it.

Key definitions: `Toml.scanString`, `Toml.scanSingleLine`.
-/
import ThriftPages.Text.HexDigit
import ThriftPages.Toml.Value

namespace ThriftPages.Toml

open Text (Taken Remaining)

/-- The blanks of a TOML document. -/
def isBlank (c : Char) : Bool := c = ' ' || c = '\t'

/-- The text after its leading blanks. -/
def skipBlanks (text : List Char) : List Char := text.dropWhile isBlank

theorem length_skipBlanks_le (text : List Char) : (skipBlanks text).length ≤ text.length :=
  Text.length_dropWhile_le isBlank text

/-- Passes over blanks before it reads. -/
def afterBlanks {α : Type} (read : (text : List Char) → Option (Taken α text))
    (text : List Char) : Option (Taken α text) :=
  (read (skipBlanks text)).map fun taken => taken.widen (length_skipBlanks_le text)

/-- A line break at the front of a text: a line feed, which a carriage return may
precede. -/
def lineBreak? : (text : List Char) → Option (Taken Unit text)
  | '\n' :: _ => some (.first ())
  | '\r' :: '\n' :: _ => some (.second ())
  | _ => none

/-- Characters that stand for themselves in strings and comments: no control
characters except the tab. -/
def isPlain (c : Char) : Bool := c = '\t' || (' ' ≤ c && c ≠ '\x7f')

/-- The blanks and line breaks at the front of a text. -/
def skipLines : (text : List Char) → Remaining Unit text
  | '\n' :: rest | ' ' :: rest | '\t' :: rest => (skipLines rest).after.found
  | '\r' :: '\n' :: rest => (skipLines rest).after.after.found
  | _ => .nothing ()

/-- The number that a given count of hexadecimal digits stands for. -/
def hexNumber? (ds : List Char) : Option Nat :=
  ds.foldlM (fun n c => (Text.hexDigit? c).map fun d => 16 * n + d) 0

/-- The character of a number, which must be a Unicode scalar value. -/
def scalar? (n : Nat) : Option Char :=
  if n < 0xD800 ∨ (0xDFFF < n ∧ n < 0x110000) then some (Char.ofNat n) else none

/-- A character given by four hexadecimal digits. -/
def scanFour : (text : List Char) → Option (Taken Char text)
  | a :: b :: c :: d :: rest => do
    let n ← hexNumber? [a, b, c, d]
    let char ← scalar? n
    let lower : Taken Char (c :: d :: rest) := .second char
    return lower.after.after
  | _ => none

/-- A character given by eight hexadecimal digits. -/
def scanEight : (text : List Char) → Option (Taken Char text)
  | a :: b :: c :: d :: e :: f :: g :: h :: rest => do
    let n ← hexNumber? [a, b, c, d, e, f, g, h]
    let char ← scalar? n
    let lower : Taken Char (g :: h :: rest) := .second char
    return lower.after.after.after.after.after.after
  | _ => none

/-- The character of an escape, after its backslash. -/
def scanEscape : (text : List Char) → Option (Taken Char text)
  | 'b' :: _ => some (.first '\x08')
  | 'f' :: _ => some (.first '\x0c')
  | 'n' :: _ => some (.first '\n')
  | 'r' :: _ => some (.first '\r')
  | 't' :: _ => some (.first '\t')
  | '"' :: _ => some (.first '"')
  | '\\' :: _ => some (.first '\\')
  | 'u' :: rest => (scanFour rest).map Taken.after
  | 'U' :: rest => (scanEight rest).map Taken.after
  | _ => none

/-! ### Strings on one line -/

/-- The next character of a string on one line, or its end. -/
def lineItem (mark : Char) (escapes : Bool) :
    (text : List Char) → Option (Taken (Char ⊕ Unit) text)
  | [] => none
  | c :: rest =>
    if c = mark then some (.first (.inr ()))
    else if escapes ∧ c = '\\' then
      (scanEscape rest).map fun taken => (taken.map .inl).after
    else if isPlain c then some (.first (.inl c))
    else none

/-- A string on one line, after its opening mark. -/
def scanLine (mark : Char) (escapes : Bool) (text : List Char) : Option (Taken String text) :=
  (Text.row (lineItem mark escapes) text).map fun taken =>
    taken.map fun (chars, _) => String.ofList chars

/-- A string on one line. -/
def scanSingleLine : (text : List Char) → Option (Taken String text)
  | '"' :: rest => (scanLine '"' true rest).map Taken.after
  | '\'' :: rest => (scanLine '\'' false rest).map Taken.after
  | _ => none

/-! ### Strings over several lines -/

/-- A line break that a backslash drops, with the blanks before it and the blanks
and line breaks after it. -/
def scanDropped : (text : List Char) → Option (Taken Unit text) := afterBlanks fun text => do
  let lineBreak ← lineBreak? text
  return (lineBreak.andFound (skipLines lineBreak.rest)).map fun _ => ()

/-- What a backslash in a string over several lines stands for: nothing at the end
of a line. -/
def scanLinesEscape (text : List Char) : Option (Taken (List Char) text) :=
  match scanDropped text with
  | some taken => some (taken.map fun _ => [])
  | none => (scanEscape text).map fun taken => taken.map fun c => [c]

/-- Up to two marks that belong to the string, after the three that close it. -/
def ownMarks (mark : Char) : (text : List Char) → Remaining (List Char) text
  | c :: d :: _ =>
    if c = mark ∧ d = mark then (Taken.second [c, d]).found
    else if c = mark then (Taken.first [c]).found
    else .nothing []
  | [c] => if c = mark then (Taken.first [c]).found else .nothing []
  | [] => .nothing []

/-- Three marks at the front of a text. -/
def threeMarks (mark : Char) : (text : List Char) → Option (Taken Unit text)
  | a :: b :: c :: rest =>
    if a = mark ∧ b = mark ∧ c = mark then
      let lower : Taken Unit (b :: c :: rest) := .second ()
      some lower.after
    else none
  | _ => none

/-- A character of a string over several lines that is neither a mark of its end
nor a line break. -/
def linesChar (escapes : Bool) : (text : List Char) → Option (Taken (List Char) text)
  | [] => none
  | c :: rest =>
    if escapes ∧ c = '\\' then (scanLinesEscape rest).map Taken.after
    else if isPlain c then some (.first [c])
    else none

/-- The next piece of a string over several lines, or its end with the marks that
belong to it. -/
def linesItem (mark : Char) (escapes : Bool) (text : List Char) :
    Option (Taken (List Char ⊕ List Char) text) :=
  match threeMarks mark text, lineBreak? text with
  | some closing, _ =>
    some ((closing.andFound (ownMarks mark closing.rest)).map fun (_, own) => .inr own)
  | none, some lineBreak => some (lineBreak.map fun _ => .inl ['\n'])
  | none, none => (linesChar escapes text).map fun taken => taken.map .inl

/-- A string over several lines, after its three opening marks. -/
def scanLines (mark : Char) (escapes : Bool) (text : List Char) : Option (Taken String text) :=
  (Text.row (linesItem mark escapes) text).map fun taken =>
    taken.map fun (pieces, own) => String.ofList (pieces.flatten ++ own)

/-- A line break that may follow the opening marks. -/
def openingBreak (text : List Char) : Remaining Unit text :=
  match lineBreak? text with
  | some taken => taken.found
  | none => .nothing ()

/-- A string over several lines; a line break after the opening marks is dropped. -/
def scanMultiLine (mark : Char) (escapes : Bool) (text : List Char) :
    Option (Taken String text) := do
  let opening ← threeMarks mark text
  let lineBreak := openingBreak opening.rest
  let content ← scanLines mark escapes lineBreak.rest
  return (opening.and (lineBreak.andTaken content)).map fun (_, _, s) => s

/-- A string. -/
def scanString (text : List Char) : Option (Taken String text) :=
  if (threeMarks '"' text).isSome then scanMultiLine '"' true text
  else if (threeMarks '\'' text).isSome then scanMultiLine '\'' false text
  else scanSingleLine text

end ThriftPages.Toml
