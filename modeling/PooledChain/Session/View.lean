/-
What can be seen of a session from outside: the driver's counters, and
the named objects, each with what its own interface tells.
-/
import PooledChain.Session.Run

namespace PooledChain

/-- What can be seen of a connection. -/
structure ConnectionView where
  /-- Whether it says that it is closed. -/
  closed : Bool
  /-- The physical connection it is attached to. -/
  physical : Option String
  /-- The number of parked statements and their SQL. -/
  cache : Option (Nat × List String)
  /-- How many statements its tracker lists that are still open. -/
  tracked : Option Nat
  /-- Statements made, closed, and still open. -/
  counter : Option (Nat × Nat × Nat)
  /-- The pool whose table the recorder writes to. -/
  table : Option String
  deriving DecidableEq, Repr, Inhabited

/-- What can be seen of a pool. -/
structure PoolView where
  /-- The physical connections that came back, in order. -/
  returned : List (Option String)
  /-- How many want to be told when it closes. -/
  listeners : Nat
  closed : Bool
  /-- Counts by SQL, oldest first. -/
  counts : Option (List (String × Nat))
  deriving DecidableEq, Repr, Inhabited

/-- What can be seen of a session. -/
structure View where
  /-- The driver's counters. -/
  counters : List Nat
  connections : List (String × ConnectionView)
  pools : List (String × PoolView)
  /-- Whether discarded, and how often checked out. -/
  physicals : List (String × Bool × Nat)
  /-- Whether closed. -/
  statements : List (String × Bool)
  deriving DecidableEq, Repr, Inhabited

namespace State

/-- The parked statements of the cache at a place. -/
def cacheView (s : State) (id : LinkId) : Nat × List String :=
  match s.caches.get? id with
  | some store => (store.size, store.texts)
  | none => (0, [])

/-- How many statements a tracker lists that are still open. -/
def trackedCount (s : State) (id : LinkId) : Nat :=
  match s.trackers.get? id with
  | some t => (t.entries.filter fun (_, layer) => !s.isClosed layer).length
  | none => 0

/-- Statements made on a counting link, closed, and still open. -/
def counterView (s : State) (id : LinkId) : Nat × Nat × Nat :=
  match s.counters.get? id with
  | some t => (t.created, t.closed, t.stillOpen)
  | none => (0, 0, 0)

end State

namespace Session

/-- A connection as its links show it, each of a sort by the first one of
it. -/
def viewConnection (s : Session) (c : ConnectionId) (connection : Connection) :
    ConnectionView :=
  let linkOf (p : Link → Bool) : Option LinkId :=
    (firstLink? p connection.links).map fun (_, place) => ⟨c, place⟩
  { closed := s.state.isClosedTerminal connection.terminal
    physical := connection.terminal.attachment.bind fun a => nameOf s.physicals a.physical
    cache := (linkOf Link.isCache).map s.state.cacheView
    tracked := (linkOf Link.isLeakTracker).map s.state.trackedCount
    counter := (linkOf Link.isCounter).map s.state.counterView
    table := ((linkOf Link.isRecorder).bind s.state.recorderPool?).bind (nameOf s.pools) }

/-- A pool with what came back to it, and with its table. -/
def viewPool (s : Session) (p : PoolId) : PoolView :=
  { returned := (s.state.returns.filter (·.1 == p)).map fun (_, x) => nameOf s.physicals x
    listeners := s.state.statistics.listeners p
    closed := s.state.statistics.isClosed p
    counts := ((s.state.statistics.tableOf? p).bind s.state.statistics.table?).map (·.counts) }

/-- All objects that have names. -/
def view (s : Session) : View :=
  { counters := s.state.native.driver.counters
    connections := s.connections.filterMap fun (name, c) =>
      (s.state.connection? c).map fun connection => (name, s.viewConnection c connection)
    pools := s.pools.map fun (name, p) => (name, s.viewPool p)
    physicals := s.physicals.filterMap fun (name, x) =>
      (s.state.physical? x).map fun p => (name, p.discarded, p.checkouts)
    statements := s.statements.map fun (name, id) => (name, s.state.isClosed id) }

end Session

end PooledChain
