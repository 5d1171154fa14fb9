/-
White space, and texts with the white space around them removed.

"Blank" is the Unicode property White_Space: 25 characters, among them
the line separators, the no-break space and the ideographic space. The
zero-width characters are not in it.
-/

namespace PooledChain.Text

/-- The property White_Space. -/
def isBlank (c : Char) : Bool :=
  let n := c.toNat
  (9 ≤ n && n ≤ 13) || n == 32 || n == 0x85 || n == 0xa0 || n == 0x1680 ||
  (0x2000 ≤ n && n ≤ 0x200a) || n == 0x2028 || n == 0x2029 || n == 0x202f ||
  n == 0x205f || n == 0x3000

/-- A text without the white space before it. -/
def trimStart (cs : List Char) : List Char :=
  cs.dropWhile isBlank

/-- A text without the white space after it. -/
def trimEnd (cs : List Char) : List Char :=
  (cs.reverse.dropWhile isBlank).reverse

/-- A text without the white space around it. -/
def trim (cs : List Char) : List Char :=
  trimEnd (trimStart cs)

/-- Nothing but white space. -/
def allBlank (cs : List Char) : Bool :=
  cs.all isBlank

end PooledChain.Text
