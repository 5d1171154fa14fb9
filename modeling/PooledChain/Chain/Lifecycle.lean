/-
What a pool tells a connection.

The pool checks a connection out and in, tells it when its physical
connection is gone, and when the pool starts and closes. Every link
hears of it, the first one first and the terminal last.
-/
import PooledChain.Chain.Invoke

namespace PooledChain

/-- What the pool has to say. -/
inductive Event
  /-- Checkout; what is missing is not there to be attached to. -/
  | attach (pool : Option PoolId) (physical : Option PhysicalId)
  | checkIn
  /-- The physical connection is gone. -/
  | disconnect (pool : Option PoolId) (physical : PhysicalId) (finalizing : Bool)
  | poolStarted (pool : PoolId)
  | poolClosed (pool : PoolId)
  deriving DecidableEq, Repr, Inhabited

namespace State

/-- A tracker forgets its list; the statements stay as they are. -/
def clearTracker (s : State) (self : LinkId) : State :=
  { s with trackers := s.trackers.modify self fun t => { t with entries := [] } }

/-- A recorder takes the table of the pool, or none if there is none. -/
def takeTable (s : State) (self : LinkId) (config : RecorderConfig) (pool : Option PoolId) :
    State :=
  match pool with
  | none => { s with recorders := s.recorders.erase self }
  | some p =>
    let (table, statistics) := s.statistics.register p config.maxQueries
    { s with statistics, recorders := s.recorders.set self table }

/-- The pool of the table that a recorder writes to. -/
def recorderPool? (s : State) (self : LinkId) : Option PoolId :=
  ((s.recorders.get? self).bind s.statistics.table?).map (·.pool)

/-- A recorder hears that a pool has closed. The pool's table is
dropped, and a recorder that writes to a table of that pool stops. -/
def leaveTable (s : State) (self : LinkId) (pool : PoolId) : State :=
  let s := { s with statistics := s.statistics.deregister pool }
  if s.recorderPool? self = some pool then { s with recorders := s.recorders.erase self } else s

end State

namespace Act

/-- What a probe notes of an event. -/
def noteOf (s : State) : Event → Note
  | .attach pool physical => .attached pool.isSome physical.isSome
  | .checkIn => .checkedIn
  | .disconnect pool physical finalizing =>
    .disconnected pool.isSome (s.isDiscarded physical) finalizing
  | .poolStarted _ => .poolStarted
  | .poolClosed _ => .poolClosed

/-- Throws away all that a cache holds, the statement parked longest ago
first. -/
def discardAll : List LayerId → Act Unit
  | [] => return ()
  | id :: rest => do
    discardParked id
    discardAll rest

/-- Empties a cache, which enters its next generation. -/
def drainCache (self : LinkId) : Act Unit := do
  let s ← get
  match s.caches.get? self with
  | none => return ()
  | some store =>
    let (store, drained) := store.drain
    set { s with caches := s.caches.set self store }
    discardAll drained

/-- One link hears of an event. -/
def hear (link : Link) (self : LinkId) (event : Event) : Act Unit := do
  match link, event with
  | .probe label, event => modify fun s => s.note label (noteOf s event)
  | .cache _, .disconnect _ _ _ => drainCache self
  | .leakTracker, .attach _ _ => modify (·.clearTracker self)
  | .leakTracker, .checkIn => modify (·.clearTracker self)
  | .leakTracker, .disconnect _ _ _ => modify (·.clearTracker self)
  | .recorder config, .attach pool _ => modify (·.takeTable self config pool)
  | .recorder _, .poolClosed pool => modify (·.leaveTable self pool)
  | _, _ => return ()

/-- The terminal hears of an event. -/
def hearTerminal (c : ConnectionId) : Event → Act Unit
  | .attach pool physical => attach c pool physical
  | .checkIn => detach c
  | .disconnect _ _ _ => detach c
  | _ => pure ()

/-- The links `links`, the lowest of the chain of `c`, hear of an event. -/
def hearAll (c : ConnectionId) (event : Event) : List Link → Act Unit
  | [] => hearTerminal c event
  | link :: rest => do
    hear link ⟨c, rest.length⟩ event
    hearAll c event rest

/-- A whole connection hears of an event. -/
def tell (c : ConnectionId) (event : Event) : Act Unit := do
  match (← get).connection? c with
  | some connection => hearAll c event connection.links
  | none => return ()

-- ================================================ what a pool does

/-- Lends a physical connection to a connection. -/
def checkOut (c : ConnectionId) (pool : PoolId) (x : PhysicalId) : Act Unit := do
  modify (·.modifyPhysical x fun p => { p with checkouts := p.checkouts + 1 })
  tell c (.attach (some pool) (some x))

/-- Tells all links that the connection goes back; the terminal lets go of
what it is attached to. -/
def checkIn (c : ConnectionId) : Act Unit :=
  tell c .checkIn

/-- Marks a physical connection discarded and closes it, the first time
only. The driver's failure is not touched here. -/
def discardPhysical (x : PhysicalId) : Act (Except DriverError Unit) := do
  let s ← get
  match s.physical? x with
  | none => return .ok ()
  | some p =>
    if p.discarded then return .ok ()
    else
      set (s.modifyPhysical x fun p => { p with discarded := true })
      ExceptT.mk do
        let s ← get
        let (result, native) := (Native.closeConnection p.native).run s.native
        modifyThe State ({ · with native })
        return .ok result

/-- Takes a physical connection out of use: the connection hears of it
before it is closed, so that its cached statements are closed first. -/
def discardConnection (c : ConnectionId) (pool : PoolId) (x : PhysicalId) :
    Act (Except DriverError Unit) := do
  tell c (.disconnect (some pool) x false)
  discardPhysical x

/-- Tells several connections of an event, in order. -/
def tellAll (event : Event) : List ConnectionId → Act Unit
  | [] => return ()
  | c :: cs => do
    tell c event
    tellAll event cs

/-- Closes a pool, the first time only: the given connections hear of
it, then all who wanted to be told. -/
def closePool (p : PoolId) (connections : List ConnectionId) : Act Unit := do
  if !(← get).statistics.isClosed p then
    modify fun s => { s with statistics := s.statistics.markClosed p }
    tellAll (.poolClosed p) connections
    modify fun s => { s with statistics := s.statistics.notifyClosed p }

end Act

end PooledChain
