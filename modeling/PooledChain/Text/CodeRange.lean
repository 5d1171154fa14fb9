/-
Sets of characters given by ranges of code points, both ends included.
-/

namespace PooledChain.Text

/-- Whether a code point lies in one of the ranges, their bounds
included. -/
def inRanges (ranges : List (Nat × Nat)) (code : Nat) : Bool :=
  ranges.any fun (first, last) => first ≤ code && code ≤ last

end PooledChain.Text
