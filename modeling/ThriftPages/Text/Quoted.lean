/-
# Quoted text

A text in a message stands between quotation marks. In it a quotation mark and a
backslash follow a backslash, the usual control characters have one letter, and
every other character that would not show by itself is given by its code point:
those without a glyph, those that are drawn together with the character before
them, and the fillers, which are blank. The halfwidth sound marks are drawn by
themselves although they extend graphemes.

Key definitions: `Text.showsItself`, `Text.quoted`.
-/
import ThriftPages.Text.GraphemeExtend
import ThriftPages.Text.NonGraphic

namespace ThriftPages.Text

/-- The fillers of Hangul syllables: letters without a glyph. -/
def isFiller (c : Char) : Bool :=
  c = '\u115f' || c = '\u1160' || c = '\u3164' || c = '\uffa0'

/-- The halfwidth voiced and semi-voiced sound marks. -/
def isSoundMark (c : Char) : Bool := c = '\uff9e' || c = '\uff9f'

/-- Whether a character stands for itself in quoted text. -/
def showsItself (c : Char) : Bool :=
  if c.toNat < 0x7f then ' ' ≤ c
  else !nonGraphic.contains c && !isFiller c && (isSoundMark c || !graphemeExtend.contains c)

/-- A character inside quoted text. -/
def quoteChar (c : Char) : List Char :=
  if c = '"' then ['\\', '"']
  else if c = '\\' then ['\\', '\\']
  else if c = '\x00' then ['\\', '0']
  else if c = '\t' then ['\\', 't']
  else if c = '\n' then ['\\', 'n']
  else if c = '\r' then ['\\', 'r']
  else if showsItself c then [c]
  else '\\' :: 'u' :: '{' :: Nat.toDigits 16 c.toNat ++ ['}']

/-- The text between quotation marks. -/
def quoted (text : String) : String :=
  String.ofList ('"' :: text.toList.flatMap quoteChar ++ ['"'])

end ThriftPages.Text
