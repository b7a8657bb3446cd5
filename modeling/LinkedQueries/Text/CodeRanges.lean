/-!
# Ranges of code points

A class of characters is given by ranges of code points, both ends included.
-/

namespace LinkedQueries

/-- Whether one of the ranges holds the code point. -/
def covers (ranges : List (Nat × Nat)) (code : Nat) : Bool :=
  ranges.any fun range => range.1 ≤ code && code ≤ range.2

end LinkedQueries
