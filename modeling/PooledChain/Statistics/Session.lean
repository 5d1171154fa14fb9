/-
Statistics without connections: pools under names, and steps that
register, write and drop their tables.

A pool is made when it is first named. For each pool the table that it
was given last is held, and can be written whether or not the registry
still has it.
-/
import PooledChain.Statistics.Registry

namespace PooledChain.Statistics

/-- What can be done with the tables of a pool. A step works on the table
that is held, or on the registered one. -/
inductive Step
  | register (maxQueries : Nat)
  | record (held : Bool) (sql : String) (elapsed : UInt64) (moment : Moment)
  | get (held : Bool) (sql : String)
  | summaries (held : Bool)
  | deregister
  /-- The figures of the registered table, by SQL. -/
  | snapshot
  | close
  | dropRegistry
  deriving DecidableEq, Repr, Inhabited

/-- What a step answers. -/
inductive Reply
  | noTable
  | noRegistry
  | unit
  | bool (value : Bool)
  /-- Whether the table is the one that was held before, if one was. -/
  | registered (same : Option Bool)
  | summary (value : Option Summary)
  | summaries (values : List Summary)
  /-- The dropped table's size, and whether it was this pool's. -/
  | dropped (table : Option (Nat × Bool))
  | snapshot (values : Option (List Summary))
  deriving DecidableEq, Repr, Inhabited

/-- A registry, with names for its pools. -/
structure Session where
  registry : Registry
  /-- In the order in which the pools were first named. -/
  pools : List (String × PoolId)
  /-- The table held for each pool that was ever registered. -/
  held : List (String × TableId)
  deriving Repr

/-- What can be seen from outside. -/
structure View where
  registered : List String
  /-- Size, emptiness, and counts by SQL of the held tables. -/
  held : List (String × Nat × Bool × List (String × Nat))
  listeners : List (String × Nat)
  deriving Repr

namespace Session

/-- No pools. -/
def start : Session := ⟨.empty, [], []⟩

/-- The pool of that name, made if it is new. -/
def pool (s : Session) (name : String) : PoolId × Session :=
  match s.pools.lookup name with
  | some p => (p, s)
  | none =>
    let (p, registry) := s.registry.newPool
    (p, { s with registry, pools := s.pools ++ [(name, p)] })

/-- The table that a step works on. -/
def tableFor (s : Session) (name : String) (p : PoolId) (held : Bool) : Option TableId :=
  if held then s.held.lookup name else s.registry.tableOf? p

/-- What a table answers, if there is one. -/
def ofTable (s : Session) (name : String) (p : PoolId) (held : Bool) (f : Table → Reply) :
    Reply :=
  match (s.tableFor name p held).bind s.registry.table? with
  | some t => f t
  | none => .noTable

/-- A step that needs the registry. -/
def withRegistry (s : Session) (f : Reply × Session) : Reply × Session :=
  if s.registry.index.isSome then f else (.noRegistry, s)

/-- Closes a pool that no connection needs to hear of. -/
def closePool (s : Session) (p : PoolId) : Session :=
  if s.registry.isClosed p then s
  else { s with registry := (s.registry.markClosed p).notifyClosed p }

/-- A step on a pool that is there. -/
def act (s : Session) (name : String) (p : PoolId) : Step → Reply × Session
  | .register maxQueries => s.withRegistry <|
    let (t, registry) := s.registry.register p maxQueries
    (.registered ((s.held.lookup name).map (· == t)),
     { s with registry, held := (name, t) :: s.held.filter (·.1 != name) })
  | .record held sql elapsed moment =>
    match s.tableFor name p held with
    | none => (.noTable, s)
    | some t => (.unit, { s with registry := s.registry.record t sql elapsed moment })
  | .get held sql => (s.ofTable name p held fun t => .summary (t.get? sql), s)
  | .summaries held => (s.ofTable name p held fun t => .summaries t.summaries, s)
  | .deregister => s.withRegistry <|
    (.dropped (((s.registry.tableOf? p).bind s.registry.table?).map fun t =>
       (t.size, t.pool == p)),
     { s with registry := s.registry.deregister p })
  | .snapshot => s.withRegistry <|
    (.snapshot (((s.registry.tableOf? p).bind s.registry.table?).map (·.summaries)), s)
  | .close =>
    let s := s.closePool p
    (.bool (s.registry.isClosed p), s)
  | .dropRegistry => (.unit, { s with registry := s.registry.dropIndex })

/-- A step on the pool of that name. -/
def step (s : Session) (name : String) (step : Step) : Reply × Session :=
  let (p, s) := s.pool name
  s.act name p step

/-- The pools that have a table, the tables that are held, and the
listeners. -/
def view (s : Session) : View :=
  { registered := (s.pools.filter fun (_, p) => (s.registry.tableOf? p).isSome).map (·.1)
    held := s.held.filterMap fun (name, t) =>
      (s.registry.table? t).map fun t => (name, t.size, t.isEmpty, t.counts)
    listeners := s.pools.map fun (name, p) => (name, s.registry.listeners p) }

end Session

end PooledChain.Statistics
