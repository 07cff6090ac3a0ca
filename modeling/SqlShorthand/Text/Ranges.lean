/-!
# Text/Ranges — a set of characters as a list of code point ranges
-/

namespace SqlShorthand.Text

/-- Ranges of code points, both ends included. -/
abbrev Ranges := List (Nat × Nat)

/-- Whether one of the ranges holds the character. -/
def Ranges.has (rs : Ranges) (c : Char) : Bool :=
  rs.any fun r => r.1 ≤ c.toNat && c.toNat ≤ r.2

/-- The ranges do not overlap and ascend — so a table lists each character at most once. -/
def Ranges.Ascending : Ranges → Bool
  | [] => true
  | [(a, b)] => a ≤ b
  | (a, b) :: (c, d) :: rest => a ≤ b && b < c && Ranges.Ascending ((c, d) :: rest)

end SqlShorthand.Text
