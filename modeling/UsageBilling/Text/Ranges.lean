/-!
# Ranges of characters

A property of characters is a table of inclusive ranges of code points.
-/

namespace UsageBilling.Text

/-- The code point of a character lies in one of the inclusive ranges. -/
def isWithin (ranges : List (Nat × Nat)) (c : Char) : Bool :=
  ranges.any fun range => range.1 ≤ c.toNat && c.toNat ≤ range.2

end UsageBilling.Text
