/-
Whole numbers written in decimal: an optional sign, then digits and
nothing else, with a value that fits 64 bits.
-/

namespace PooledChain.Text

/-- The greatest number that is read. -/
def maxInt64 : Int := 9223372036854775807

/-- The least number that is read. -/
def minInt64 : Int := -9223372036854775808

/-- The value of a run of ASCII digits, read from the left. -/
def digitsValue (cs : List Char) : Nat :=
  cs.foldl (fun n c => 10 * n + (c.toNat - 48)) 0

/-- A non-empty run of ASCII digits, as a number. -/
def readNat? (cs : List Char) : Option Nat :=
  if !cs.isEmpty && cs.all Char.isDigit then some (digitsValue cs) else none

/-- An integer with an optional sign, of any size. -/
def readInt? : List Char → Option Int
  | '+' :: cs => (readNat? cs).map Int.ofNat
  | '-' :: cs => (readNat? cs).map fun n => -Int.ofNat n
  | cs => (readNat? cs).map Int.ofNat

/-- A signed 64-bit integer; one beyond the range is refused. -/
def readInt64? (cs : List Char) : Option Int :=
  (readInt? cs).filter fun n => decide (minInt64 ≤ n ∧ n ≤ maxInt64)

end PooledChain.Text
