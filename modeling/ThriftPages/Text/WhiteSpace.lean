/-
# White space

The characters with the Unicode property White_Space, and text without those it
starts with.

Key definitions: `Text.isWhiteSpace`, `Text.trimStart`.
-/

namespace ThriftPages.Text

/-- The property White_Space. -/
def isWhiteSpace (c : Char) : Bool :=
  let n := c.toNat
  (0x9 ≤ n && n ≤ 0xd) || n == 0x20 || n == 0x85 || n == 0xa0 || n == 0x1680
    || (0x2000 ≤ n && n ≤ 0x200a) || n == 0x2028 || n == 0x2029 || n == 0x202f || n == 0x205f
    || n == 0x3000

/-- The text from its first character that is no white space. -/
def trimStart (text : List Char) : List Char := text.dropWhile isWhiteSpace

end ThriftPages.Text
