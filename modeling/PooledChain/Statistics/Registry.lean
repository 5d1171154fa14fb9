/-
Which pool reports into which table.

The first connection of a pool that wants figures registers the pool:
it gets a table, and the registry asks the pool to be told when it
closes, so that the table can be dropped then. Later connections of the
pool get the same table. A table that someone still holds can be
written after it was dropped from the registry, but nobody else sees it.

`Registry` keeps the pools of one program beside their tables, since
closing a pool and dropping its table are one event. The part that looks
tables up can be taken away while pools and held tables live on
(`dropIndex`).
-/
import PooledChain.Statistics.Table

namespace PooledChain.Statistics

/-- What statistics know of a pool. -/
structure PoolState where
  closed : Bool := false
  /-- How many want to be told when the pool closes. -/
  listeners : Nat := 0
  deriving DecidableEq, Repr, Inhabited

/-- Tables are numbered in the order of their creation. -/
abbrev TableId := Nat

/-- The pools of a program and their tables. -/
structure Registry where
  /-- By number. -/
  pools : List PoolState
  /-- All tables ever made, by number. -/
  tables : List Table
  /-- The table of each registered pool, or nothing once the index is
  gone. -/
  index : Option (List (PoolId × TableId))
  deriving DecidableEq, Repr, Inhabited

namespace Registry

/-- No pools and no tables. -/
def empty : Registry := ⟨[], [], some []⟩

-- ================================================ looking

/-- The pool of that number. -/
def pool? (r : Registry) (p : PoolId) : Option PoolState := r.pools[p]?

/-- The table of that number, registered or merely held. -/
def table? (r : Registry) (t : TableId) : Option Table := r.tables[t]?

/-- Whether a pool is closed; one that is not there counts as closed. -/
def isClosed (r : Registry) (p : PoolId) : Bool :=
  ((r.pool? p).map (·.closed)).getD true

/-- How many want to be told when a pool closes. -/
def listeners (r : Registry) (p : PoolId) : Nat :=
  ((r.pool? p).map (·.listeners)).getD 0

/-- The table registered for a pool. -/
def tableOf? (r : Registry) (p : PoolId) : Option TableId :=
  r.index.bind (·.lookup p)

/-- Pools that have a table, in the order of their creation. -/
def registered (r : Registry) : List PoolId :=
  (List.range r.pools.length).filter fun p => (r.tableOf? p).isSome

-- ================================================ changing

/-- Makes a pool. -/
def newPool (r : Registry) : PoolId × Registry :=
  (r.pools.length, { r with pools := r.pools ++ [{}] })

/-- Changes a pool. -/
def modifyPool (r : Registry) (p : PoolId) (f : PoolState → PoolState) : Registry :=
  { r with pools := r.pools.modify p f }

/-- The pool's table, made on first use. Making one adds a listener to
the pool, whether or not the pool is closed. -/
def register (r : Registry) (p : PoolId) (maxQueries : Nat) : TableId × Registry :=
  match r.tableOf? p with
  | some t => (t, r)
  | none =>
    let t := r.tables.length
    let r := { r with
      tables := r.tables ++ [Table.create p maxQueries]
      index := r.index.map ((p, t) :: ·) }
    (t, r.modifyPool p fun s => { s with listeners := s.listeners + 1 })

/-- Forgets the pool's table. -/
def deregister (r : Registry) (p : PoolId) : Registry :=
  { r with index := r.index.map fun i => i.filter (·.1 != p) }

/-- Writes into a table, registered or merely held. -/
def record (r : Registry) (t : TableId) (sql : String) (elapsed : UInt64) (moment : Moment) :
    Registry :=
  { r with tables := r.tables.modify t (·.record sql elapsed moment) }

/-- Marks a pool closed. -/
def markClosed (r : Registry) (p : PoolId) : Registry :=
  r.modifyPool p fun s => { s with closed := true }

/-- Tells all who wanted to know that the pool closed, each of them
once, and forgets them. What each of them does is to drop the pool's
table. -/
def notifyClosed (r : Registry) (p : PoolId) : Registry :=
  Nat.repeat (·.deregister p) (r.listeners p)
    (r.modifyPool p fun s => { s with listeners := 0 })

/-- Takes the index away; pools and tables stay. -/
def dropIndex (r : Registry) : Registry :=
  { r with index := none }

end Registry

end PooledChain.Statistics
