/-
# Wording shared by messages

Names stand between backquotes, and a count comes with its noun in the right
number.

Key definitions: `Text.backquoted`, `Text.countOf`.
-/

namespace ThriftPages.Text

/-- A word between backquotes. -/
def backquoted (word : String) : String := "`" ++ word ++ "`"

/-- A number of things. -/
def countOf (n : Nat) (thing : String) : String :=
  toString n ++ " " ++ thing ++ (if n = 1 then "" else "s")

end ThriftPages.Text
