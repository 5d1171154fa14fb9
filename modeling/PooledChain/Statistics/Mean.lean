/-
The mean of whole numbers as a double, and its text with two decimals.

The text is that of the double itself, not of the quotient it stands
for: the double is an exact fraction m · 2^q, and its hundredths are
rounded from that fraction, an exact half going to the even neighbour.
-/

namespace PooledChain.Statistics

/-- `total / count` in double precision, zero if nothing was counted. -/
def mean (total count : UInt64) : Float :=
  if count == 0 then 0 else total.toFloat / count.toFloat

/-- The nearest whole number to `num / den`, the even one of two. -/
def roundHalfEven (num den : Nat) : Nat :=
  let q := num / den
  let twice := 2 * (num % den)
  if twice < den then q else if twice > den then q + 1 else q + q % 2

/-- A non-negative finite double as significand and binary exponent. A
normal one has a leading bit that is not written, the bit of 2^52. -/
def significand (bits : UInt64) : Nat × Int :=
  let fraction := (bits &&& 0xfffffffffffff).toNat
  let exponent := (bits >>> 52 &&& 0x7ff).toNat
  if exponent == 0 then (fraction, -1074)
  else (fraction + 0x10000000000000, (exponent : Int) - 1075)

/-- The hundredths of a non-negative finite double. -/
def hundredths (bits : UInt64) : Nat :=
  match significand bits with
  | (m, .ofNat e) => (m * 100) <<< e
  | (m, .negSucc e) => roundHalfEven (m * 100) (1 <<< (e + 1))

/-- A double with two places after the point. -/
def twoPlaces (bits : UInt64) : String :=
  let n := hundredths bits
  toString (n / 100) ++ "." ++ toString (n / 10 % 10) ++ toString (n % 10)

end PooledChain.Statistics
