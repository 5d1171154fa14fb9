/-
Everything behind the handles that callers hold: the driver's side, the
pools with their tables, the physical connections, the pooled
connections with what their links remember, and the statement layers.

The operations of the library are functions on `State`. One that can
fail is an `Act`; what it changed before it failed stays changed, as it
does for the callers of a database.

Nothing in a state is removed while something refers to it. What is no
longer referred to is found by `release`, given the layers that callers
hold: a layer lives if it is held, if it is parked in a cache, or if a
living facade has it as its delegate. A native handle that is released
while it is open closes its statement.
-/
import PooledChain.State.Cached
import PooledChain.State.Keyed

namespace PooledChain

export Statistics (PoolId TableId)

-- ================================================ physical connections

/-- Numbers in the order of creation. -/
abbrev PhysicalId := Nat

/-- A physical connection in the hands of the pool. -/
structure Physical where
  native : Native.ConnectionId
  discarded : Bool := false
  checkouts : Nat := 0
  deriving DecidableEq, Repr, Inhabited

-- ================================================ pooled connections

/-- What a connection is attached to between checkout and check-in. -/
structure Attachment where
  pool : Option PoolId
  physical : PhysicalId
  deriving DecidableEq, Repr, Inhabited

/-- The end of a chain. A fresh one is closed. -/
structure Terminal where
  attachment : Option Attachment := none
  closed : Bool := true
  deriving DecidableEq, Repr, Inhabited

/-- A chain of links, and the terminal at its end. -/
structure Connection where
  /-- The first link is asked first. -/
  links : List Link
  terminal : Terminal := {}
  deriving DecidableEq, Repr, Inhabited

/-- The statements that a leak tracker watches, in the order in which
they were made. Numbers are never used twice. -/
structure Tracker where
  entries : List (Nat × LayerId) := []
  next : Nat := 0
  deriving DecidableEq, Repr, Inhabited

/-- Statements made, and statements that their callers closed. -/
structure Tally where
  created : Nat := 0
  closed : Nat := 0
  deriving DecidableEq, Repr, Inhabited

/-- Statements that their callers have not closed. -/
def Tally.stillOpen (t : Tally) : Nat := t.created - t.closed

-- ================================================ what was noted

/-- What a probe or a watcher saw. -/
inductive Note
  /-- A connection was asked for an operation. -/
  | operation (name : String) (sql : Option String)
  /-- A connection was attached, to a pool and a physical connection if they
  were there. -/
  | attached (pool : Bool) (physical : Bool)
  | checkedIn
  /-- A physical connection was gone. -/
  | disconnected (pool : Bool) (discarded : Bool) (finalizing : Bool)
  | poolStarted
  | poolClosed
  /-- A statement was wrapped. -/
  | decorated (kind : StatementKind) (sql : Option String)
  /-- A statement was asked for an operation. -/
  | invoked (operation : String) (sql : Option String) (own : Option String)
  /-- A facade was closed: its SQL, whether its delegate was closed
  already, and whether the facade still had one. -/
  | closing (sql : Option String) (delegateClosed : Bool) (delegateGone : Bool)
  /-- An operation on a statement failed. -/
  | failure (sql : Option String) (message : String)
  /-- A connection was about to close. -/
  | connectionClosing
  deriving DecidableEq, Repr, Inhabited

/-- What is written to the log. -/
inductive Warning
  /-- A statement that left a cache could not be closed. -/
  | closeFailed (sql : String) (error : String)
  /-- An execution took longer than the threshold. -/
  | slowQuery (pool : PoolId) (sql : String) (threshold : Int)
  deriving DecidableEq, Repr, Inhabited

-- ================================================ the state

/-- Everything behind the handles of a program. -/
structure State where
  /-- The driver with all that it has made. -/
  native : Native.Store := {}
  /-- The pools and their tables. -/
  statistics : Statistics.Registry := .empty
  physicals : List Physical := []
  /-- Every return of a physical connection to a pool, in order. -/
  returns : List (PoolId × PhysicalId) := []
  /-- Connections by number; a dropped one leaves a gap. -/
  connections : List (Option Connection) := []
  /-- What each cache holds. -/
  caches : Keyed LinkId CacheStore := .empty
  /-- What each leak tracker lists. -/
  trackers : Keyed LinkId Tracker := .empty
  /-- The table that each recorder writes to, while it has one. -/
  recorders : Keyed LinkId TableId := .empty
  /-- What each counting link has counted. -/
  counters : Keyed LinkId Tally := .empty
  /-- All statement layers by number, the released ones included. -/
  layers : List Layer := []
  /-- The facades made by watchers, in order. -/
  watched : List LayerId := []
  /-- Notes with the label of the link that made them. -/
  journal : List (String × Note) := []
  /-- What was written to the log. -/
  warnings : List Warning := []
  deriving Repr, Inhabited

/-- An operation on everything behind the handles. -/
abbrev Act (α : Type) := ExceptT Error (StateM State) α

namespace State

-- ================================================ looking

/-- The physical connection of that number. -/
def physical? (s : State) (x : PhysicalId) : Option Physical := s.physicals[x]?

/-- The connection of that number, unless it is gone. -/
def connection? (s : State) (c : ConnectionId) : Option Connection := s.connections[c]?.join

/-- The layer of that number. -/
def layer? (s : State) (id : LayerId) : Option Layer := s.layers[id]?

/-- The core of a layer; what is not there counts as released. -/
def core (s : State) (id : LayerId) : Core :=
  ((s.layer? id).map (·.core)).getD .released

/-- The layer as a facade, if it is one. -/
def facade? (s : State) (id : LayerId) : Option Facade := (s.core id).facade?

/-- Whether a layer is closed, looked at down to a depth. -/
def closedWithin (s : State) : Nat → LayerId → Bool
  | 0, id => (s.core id).isClosed fun _ => true
  | depth + 1, id => (s.core id).isClosed (s.closedWithin depth)

/-- Whether a layer, or anything under it, is closed. -/
def isClosed (s : State) (id : LayerId) : Bool :=
  s.closedWithin (s.core id).level id

/-- Whether a physical connection was closed for good. -/
def isDiscarded (s : State) (x : PhysicalId) : Bool :=
  ((s.physical? x).map (·.discarded)).getD true

/-- Whether a terminal is closed, or attached to nothing that can be
used. -/
def isClosedTerminal (s : State) (t : Terminal) : Bool :=
  t.closed || (match t.attachment with
    | some a => s.isDiscarded a.physical
    | none => true)

/-- Whether a connection is closed, by its caller or because its
physical connection was discarded. -/
def isClosedConnection (s : State) (c : ConnectionId) : Bool :=
  ((s.connection? c).map fun connection => s.isClosedTerminal connection.terminal).getD true

-- ================================================ changing

/-- Writes into the journal. -/
def note (s : State) (label : String) (n : Note) : State :=
  { s with journal := s.journal ++ [(label, n)] }

/-- Writes to the log. -/
def warn (s : State) (w : Warning) : State :=
  { s with warnings := s.warnings ++ [w] }

/-- Makes a layer; it gets the next number. -/
def addLayer (s : State) (l : Layer) : LayerId × State :=
  (s.layers.length, { s with layers := s.layers ++ [l] })

/-- Writes the core of a layer. -/
def setCore (s : State) (id : LayerId) (core : Core) : State :=
  { s with layers := s.layers.modify id fun l => { l with core } }

/-- Changes the terminal of a connection. -/
def modifyTerminal (s : State) (c : ConnectionId) (f : Terminal → Terminal) : State :=
  { s with connections := s.connections.modify c fun o =>
      o.map fun connection => { connection with terminal := f connection.terminal } }

/-- Changes a physical connection. -/
def modifyPhysical (s : State) (x : PhysicalId) (f : Physical → Physical) : State :=
  { s with physicals := s.physicals.modify x f }

-- ================================================ making and dropping

/-- Makes a pool. -/
def newPool (s : State) : PoolId × State :=
  let (p, statistics) := s.statistics.newPool
  (p, { s with statistics })

/-- Opens a native connection and hands it to the pool. -/
def newPhysical (s : State) (guarded : Bool) : PhysicalId × State :=
  let (c, native) := s.native.connect guarded
  (s.physicals.length, { s with native, physicals := s.physicals ++ [{ native := c }] })

/-- What a link starts with. -/
def installLink (s : State) (id : LinkId) : Link → State
  | .cache config =>
    if config.isEnabled then { s with caches := s.caches.set id (.empty config.max) } else s
  | .leakTracker => { s with trackers := s.trackers.set id {} }
  | .counter => { s with counters := s.counters.set id {} }
  | _ => s

/-- Installs links from the first to the last; the place of each is the
number of links after it. -/
def installLinks (c : ConnectionId) : State → List Link → State
  | s, [] => s
  | s, link :: rest => installLinks c (s.installLink ⟨c, rest.length⟩ link) rest

/-- A connection with a chain of links, attached to nothing. -/
def newConnection (s : State) (links : List Link) : ConnectionId × State :=
  let c := s.connections.length
  (c, installLinks c { s with connections := s.connections ++ [some { links }] } links)

/-- Forgets a connection and all that its links remember. -/
def dropConnection (s : State) (c : ConnectionId) : State :=
  let others := fun (id : LinkId) => id.connection != c
  { s with
    connections := s.connections.set c none
    caches := s.caches.filter others
    trackers := s.trackers.filter others
    recorders := s.recorders.filter others
    counters := s.counters.filter others }

-- ================================================ what nothing refers to

/-- The layers parked in a cache. -/
def parked (s : State) : List LayerId :=
  s.caches.values.flatMap fun store => store.entries.map (·.2)

/-- Releases one layer. An open native handle closes its statement; if
that is refused, nobody hears of it. -/
def releaseLayer (s : State) (id : LayerId) : State :=
  let s := match s.core id with
    | .native (some n) => { s with native := ((Native.dispose n).run s.native).2 }
    | _ => s
  s.setCore id .released

/-- Looks at one layer, with the layers known to live. -/
def releaseUnless (live : List LayerId) (s : State) (id : LayerId) : List LayerId × State :=
  if live.contains id then
    match (s.core id).delegate? with
    | some d => (d :: live, s)
    | none => (live, s)
  else (live, s.releaseLayer id)

/-- Looks at the layers below `n`, the newest first: a facade is newer
than its delegate, so all that could hold a layer comes before it. -/
def releaseBelow : Nat → List LayerId → State → State
  | 0, _, s => s
  | id + 1, live, s =>
    let (live, s) := releaseUnless live s id
    releaseBelow id live s

/-- Releases every layer that nothing refers to, when callers hold the
layers `held`. -/
def release (s : State) (held : List LayerId) : State :=
  releaseBelow s.layers.length (held ++ s.parked) s

end State

-- ================================================ acts

namespace Act

/-- Runs an act and hands over its failure as a value. -/
def attempt {α : Type} (act : Act α) : Act (Except Error α) :=
  ExceptT.mk do
    let result ← act.run
    return .ok result

/-- A call on the driver's side. A failure is passed on without the
invocations around it. -/
def native {α : Type} (act : Native.Act α) : Act α :=
  ExceptT.mk do
    let s ← get
    let (result, native) := act.run s.native
    set { s with native }
    return result.mapError fun e => .driver e.unwrapped

end Act

end PooledChain
