/-
What travels between a caller and the database: single values and the
rows of a query result.

A floating-point value is kept as its 64 bits, so that it comes back
exactly as it was bound, the payload of a NaN included. Comparing
values is therefore a function of its own (`Value.same`): two values
may be written with different bits and be equal (the two zeros), or
with the same bits and differ (a NaN).
-/

namespace PooledChain

/-- A value bound to a parameter or read from a row. -/
inductive Value
  | null
  | bool (value : Bool)
  | int (value : Int)
  | float (bits : UInt64)
  | text (value : String)
  | binary (bytes : List UInt8)
  deriving DecidableEq, Repr, Inhabited

namespace Value

/-- Whether there is no value. -/
def isNull : Value → Bool
  | null => true
  | _ => false

/-- All ones in the exponent and something in the fraction. -/
def isNaNBits (bits : UInt64) : Bool :=
  (bits <<< 1) > 0xffe0000000000000

/-- Equality of doubles on their bits: a NaN equals nothing, and the
two zeros, which differ in the sign bit alone, are equal. -/
def sameFloat (a b : UInt64) : Bool :=
  !isNaNBits a && !isNaNBits b && (a == b || (a ||| b) <<< 1 == 0)

/-- Equality of values as a program that compares them sees it. -/
def same : Value → Value → Bool
  | float a, float b => sameFloat a b
  | a, b => a == b

end Value

/-- A query result: column names in result order, and the rows. -/
structure Rows where
  columns : List String
  rows : List (List Value)
  deriving DecidableEq, Repr, Inhabited

namespace Rows

/-- No columns and no rows. -/
def empty : Rows := ⟨[], []⟩

/-- How many rows there are. -/
def size (r : Rows) : Nat := r.rows.length

/-- Whether there is no row. -/
def isEmpty (r : Rows) : Bool := r.rows.isEmpty

/-- The place of the first column of that name. -/
def columnIndex? (r : Rows) (name : String) : Option Nat :=
  r.columns.findIdx? (· == name)

/-- Lists of one length whose members are pairwise related. -/
def pairwise {α : Type} (rel : α → α → Bool) : List α → List α → Bool
  | [], [] => true
  | a :: as, b :: bs => rel a b && pairwise rel as bs
  | _, _ => false

/-- Whether two sets of rows are equal, value by value. -/
def same (a b : Rows) : Bool :=
  a.columns == b.columns && pairwise (pairwise Value.same) a.rows b.rows

end Rows

end PooledChain
