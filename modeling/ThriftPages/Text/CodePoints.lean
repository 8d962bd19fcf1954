/-
# Sets of code points

A property of characters is kept as the list of its ranges, first and last code
point of each, in increasing order.

Key definitions: `Text.CodePoints`, `Text.CodePoints.contains`.
-/

namespace ThriftPages.Text

/-- A set of code points: ranges, each with its first and last member. -/
structure CodePoints where
  ranges : List (Nat × Nat)

/-- Whether a character is in the set. The ranges increase, so the search ends
at the first that starts beyond the character. -/
def CodePoints.contains (set : CodePoints) (c : Char) : Bool :=
  search set.ranges
where
  /-- Looks through the ranges in order. -/
  search : List (Nat × Nat) → Bool
    | [] => false
    | (first, last) :: rest =>
      if c.toNat < first then false else c.toNat ≤ last || search rest

end ThriftPages.Text
