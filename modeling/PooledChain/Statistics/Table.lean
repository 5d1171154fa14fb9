/-
Figures about executions, by SQL text.

An accumulator sums up the executions of one SQL text. A table holds
the accumulators of one pool under their texts, in no order that counts,
and no more of them than its capacity. What was registered first is told
by numbers alone: each text gets the next one when it is taken in. A
text that is new to a full table takes the place of the one with the
least number, whose figures are lost; the figures of a table are shown
in the order of the numbers. Recording a text that is present changes no
number.

Counts, sums and numbers are 64-bit words and wrap.
-/
import PooledChain.State.Keyed
import PooledChain.Statistics.Summary

namespace PooledChain.Statistics

-- ================================================ one SQL text

/-- What the executions of one SQL text add up to. -/
structure Accumulator where
  sql : String
  count : UInt64
  totalMs : UInt64
  /-- The least time so far. -/
  minMs : UInt64
  /-- Milliseconds since 1970. -/
  minAt : Int
  /-- The greatest time so far. -/
  maxMs : UInt64
  maxAt : Int
  deriving DecidableEq, Repr, Inhabited

namespace Accumulator

/-- Before the first execution: the least time is the greatest word. -/
def fresh (sql : String) : Accumulator :=
  ⟨sql, 0, 0, 18446744073709551615, 0, 0, 0⟩

/-- One more execution. Of several that took the least or the greatest
time, the last one gives the moment. -/
def add (a : Accumulator) (elapsed : UInt64) (moment : Moment) : Accumulator :=
  let ms := moment.milliseconds
  { a with
    count := a.count + 1
    totalMs := a.totalMs + elapsed
    minMs := min a.minMs elapsed
    minAt := if elapsed ≤ a.minMs then ms else a.minAt
    maxMs := max a.maxMs elapsed
    maxAt := if a.maxMs ≤ elapsed then ms else a.maxAt }

/-- The figures so far; without an execution there are no extremes, and
what lies outside the calendar has no moment. -/
def summary (a : Accumulator) : Summary :=
  let any := decide (0 < a.count)
  { sql := a.sql
    count := a.count
    totalMs := a.totalMs
    minMs := if any then a.minMs else 0
    minAt := if any then Moment.ofMilliseconds? a.minAt else none
    maxMs := a.maxMs
    maxAt := if any then Moment.ofMilliseconds? a.maxAt else none }

end Accumulator

-- ================================================ one pool

/-- Pools are numbered in the order of their creation. -/
abbrev PoolId := Nat

/-- A text as it was taken in. -/
structure Registration where
  /-- Its place among all texts that the table has taken in. -/
  number : UInt64
  /-- Its figures since then. -/
  accumulator : Accumulator
  deriving DecidableEq, Repr, Inhabited

namespace Registration

/-- The registration with the least number, the first of several. -/
def oldest? : List Registration → Option Registration
  | [] => none
  | e :: rest =>
    match oldest? rest with
    | none => some e
    | some f => if e.number ≤ f.number then some e else some f

/-- Puts a registration before the first one whose number is not less. -/
def insert (e : Registration) : List Registration → List Registration
  | [] => [e]
  | f :: rest => if e.number ≤ f.number then e :: f :: rest else f :: insert e rest

/-- The registrations in the order of their numbers. -/
def sort (es : List Registration) : List Registration :=
  es.foldr insert []

end Registration

/-- The figures of one pool. -/
structure Table where
  pool : PoolId
  /-- How many texts it is to hold at most. -/
  maxQueries : Nat
  /-- By SQL text. -/
  entries : Keyed String Registration
  /-- The number of the next registration. -/
  next : UInt64
  deriving DecidableEq, Repr, Inhabited

namespace Table

/-- A table without texts. -/
def create (pool : PoolId) (maxQueries : Nat) : Table :=
  ⟨pool, maxQueries, .empty, 0⟩

/-- A table has room for one text at least. -/
def capacity (t : Table) : Nat :=
  max 1 t.maxQueries

/-- How many texts there are. -/
def size (t : Table) : Nat := t.entries.values.length

/-- Whether there is no text. -/
def isEmpty (t : Table) : Bool := t.entries.values.isEmpty

/-- The registration of a text. -/
def find? (t : Table) (sql : String) : Option Registration :=
  t.entries.get? sql

/-- What stays when a new text is taken in: in a full table all but the
oldest registration. -/
def kept (t : Table) : Keyed String Registration :=
  if t.capacity ≤ t.size then
    match Registration.oldest? t.entries.values with
    | some e => t.entries.erase e.accumulator.sql
    | none => t.entries
  else t.entries

/-- The table with a fresh accumulator for a text it does not hold. -/
def register (t : Table) (sql : String) : Table :=
  { t with
    entries := t.kept.set sql ⟨t.next, .fresh sql⟩
    next := t.next + 1 }

/-- The table with one more execution of a text that it holds. -/
def bump (t : Table) (sql : String) (elapsed : UInt64) (moment : Moment) : Table :=
  { t with entries := t.entries.modify sql fun e =>
      { e with accumulator := e.accumulator.add elapsed moment } }

/-- The table with one more execution, of whatever text. -/
def record (t : Table) (sql : String) (elapsed : UInt64) (moment : Moment) : Table :=
  let t := if (t.find? sql).isSome then t else t.register sql
  t.bump sql elapsed moment

/-- The figures of a text, if it is there. -/
def get? (t : Table) (sql : String) : Option Summary :=
  (t.find? sql).map (·.accumulator.summary)

/-- The accumulators, oldest registration first. -/
def accumulators (t : Table) : List Accumulator :=
  (Registration.sort t.entries.values).map (·.accumulator)

/-- All figures, oldest registration first. -/
def summaries (t : Table) : List Summary :=
  t.accumulators.map (·.summary)

/-- SQL texts with their counts, oldest registration first. -/
def counts (t : Table) : List (String × Nat) :=
  t.accumulators.map fun a => (a.sql, a.count.toNat)

end Table

end PooledChain.Statistics
