/-!
Sets of code points given as ranges in ascending order.
-/

namespace PrismaEsdl.Text

/-- Inclusive ranges of code point numbers, in ascending order. -/
abbrev Ranges := List (Nat × Nat)

namespace Ranges

/-- Whether a number lies in one of the ranges; the search ends at the first range above it. -/
def contains (n : Nat) : Ranges → Bool
  | [] => false
  | (low, high) :: rest => low ≤ n && (n ≤ high || contains n rest)

end Ranges

end PrismaEsdl.Text
