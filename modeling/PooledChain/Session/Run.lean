/-
Running a session.

Each name refers to what was stored under it last. A connection lives
while it has a name; a statement layer lives while something refers to
it, and what nothing refers to after a step is released before the next
one. The journal and the warnings are those of the latest step.
-/
import PooledChain.Session.Diagnostics
import PooledChain.Session.Step

namespace PooledChain

/-- The state of all objects, and the names by which a caller knows them. -/
structure Session where
  state : State
  /-- Whether the driver's connections of this session ask the rules. -/
  guarded : Bool
  /-- The name given last stands in front. -/
  connections : List (String × ConnectionId)
  statements : List (String × LayerId)
  pools : List (String × PoolId)
  physicals : List (String × PhysicalId)
  deriving Repr

/-- The name of a numbered object, if it still has one. -/
def nameOf (names : List (String × Nat)) (id : Nat) : Option String :=
  (names.find? (·.2 == id)).map (·.1)

/-- The names after `name` was given to another object. -/
def rename (names : List (String × Nat)) (name : String) (id : Nat) : List (String × Nat) :=
  (name, id) :: names.filter (·.1 != name)

/-- The first link that satisfies `p`, with its place. -/
def firstLink? (p : Link → Bool) : List Link → Option (Link × Nat)
  | [] => none
  | link :: rest => if p link then some (link, rest.length) else firstLink? p rest

namespace Act

/-- Closes for good the statement that a cache holds for a SQL text, and
says whether there was one. -/
def forceClose (self : LinkId) (sql : String) : Act Bool := do
  let s ← get
  match s.caches.get? self with
  | none => return false
  | some store =>
    match store.find? sql with
    | none => return false
    | some id =>
      set { s with caches := s.caches.set self (store.remove sql) }
      discardParked id
      return true

end Act

namespace Session

-- ================================================ names

/-- Stores a statement under a name. -/
def storeStatement (s : Session) (name : String) (id : LayerId) : Session :=
  { s with statements := rename s.statements name id }

/-- Takes a connection's name away, and with it the connection. -/
def dropConnection (s : Session) (name : String) : Session :=
  match s.connections.lookup name with
  | none => s
  | some c =>
    { s with
      state := s.state.dropConnection c
      connections := s.connections.filter (·.1 != name) }

/-- Makes a connection; what had the name goes once the new one stands. -/
def newConnection (s : Session) (name : String) (links : List Link) : Session :=
  let (c, state) := s.state.newConnection links
  let s := { s with state }.dropConnection name
  { s with connections := (name, c) :: s.connections }

/-- Makes a pool and stores it under a name. -/
def newPool (s : Session) (name : String) : Session :=
  let (p, state) := s.state.newPool
  { s with state, pools := rename s.pools name p }

/-- Makes a physical connection and stores it under a name. -/
def newPhysical (s : Session) (name : String) : Session :=
  let (x, state) := s.state.newPhysical s.guarded
  { s with state, physicals := rename s.physicals name x }

-- ================================================ running acts

/-- Runs an act; `reply` says what comes of its answer. -/
def perform {α : Type} (s : Session) (act : Act α) (reply : α → Session → Reply × Session) :
    Reply × Session :=
  match act.run s.state with
  | (.ok a, state) => reply a { s with state }
  | (.error e, state) => (.failed e, { s with state })

/-- Runs an act whose answer is all there is to say. -/
def answer {α : Type} (s : Session) (act : Act α) (reply : α → Reply) : Reply × Session :=
  s.perform act fun a s => (reply a, s)

-- ================================================ statements

/-- Whether rows point at `asked`; missing if they point at nothing. -/
def ownRows (asked : LayerId) (statement : Option LayerId) : Option Bool :=
  statement.map (· == asked)

/-- A reply as it came, whatever the operation was. -/
def bareReply (asked : LayerId) : StatementReply → Reply
  | .rows rows statement => .resultSet (ownRows asked statement) rows
  | .unit => .bareUnit
  | r => .bare r

/-- A reply as the caller of this operation expects it. -/
def calledReply (asked : LayerId) : StatementOp → StatementReply → Reply
  | .execute _, .bool b => .bool b
  | .executeQuery _, .rows rows statement => .resultSet (ownRows asked statement) rows
  | .executeUpdate _, .count n => .number n
  | .executeBatch, .counts ns => .numbers ns
  | .addBatch _, _ => .unit
  | .setParameter _ _, _ => .unit
  | .clearParameters, _ => .unit
  | .close, _ => .unit
  | op, _ => .failed (.unexpectedReply op.name)

/-- The watched facade of that number, or else the one that is this
statement, if it is still there. -/
def watched? (s : Session) (asked : LayerId) (number : Option Nat) : Option LayerId :=
  let found := match number with
    | some n => s.state.watched[n]?
    | none => if s.state.watched.contains asked then some asked else none
  found.filter fun id => !(s.state.core id).isReleased

/-- What a statement tells of itself. -/
def statementInfo (s : Session) (id : LayerId) (layer : Layer) : StatementInfo :=
  { closed := s.state.isClosed id
    sql := layer.sql
    kind := layer.kind
    connection := layer.connection.bind (nameOf s.connections)
    text := s.state.statementText id layer }

/-- The connection of a layer, unless it is gone. -/
def livingConnection (s : Session) (layer : Layer) : Option ConnectionId :=
  layer.connection.filter fun c => (s.state.connection? c).isSome

/-- Puts a facade of its own around a statement and stores it under a
name. -/
def wrap (s : Session) (id : LayerId) (layer : Layer) (name : String) (orphan : Bool) :
    Session :=
  let connection := if orphan then none else s.livingConnection layer
  let core := Core.facade
    { level := layer.core.level + 1, delegate := some id, closed := false, behaviour := .plain }
  let (facade, state) := s.state.addLayer { layer with connection, core }
  { s with state }.storeStatement name facade

/-- A step on a statement. -/
def onStatement (s : Session) (id : LayerId) : StatementStep → Reply × Session
  | .call op => s.answer (Act.dispatch id op) (calledReply id op)
  | .dispatch op => s.answer (Act.dispatch id op) (bareReply id)
  | .info =>
    match s.state.layer? id with
    | none => (.missing "stmt", s)
    | some layer => (.statementInfo (s.statementInfo id layer), s)
  | .wrap name orphan =>
    match s.state.layer? id with
    | none => (.missing "stmt", s)
    | some layer => (.unit, s.wrap id layer name orphan)
  | .retire number name =>
    match s.watched? id number with
    | none => (.missing "facade", s)
    | some facade =>
      s.perform (Act.retire facade) fun delegate s =>
        match delegate, name with
        | some d, some name => (.bool true, s.storeStatement name d)
        | delegate, _ => (.bool delegate.isSome, s)
  | .forward number op =>
    match s.watched? id number with
    | none => (.missing "facade", s)
    | some facade => s.answer (Act.forwardStatement facade op) (bareReply id)

-- ================================================ pools

/-- A reply that is empty unless the driver failed. -/
def driverReply : Except DriverError Unit → Reply
  | .ok () => .unit
  | .error e => .driverFailed e

/-- Asks the driver itself whether a connection works. -/
def physicalInfo (s : Session) (p : Physical) : PhysicalInfo × Session :=
  let (valid, native) := (Native.isValid p.native).run s.state.native
  let typeName := (native.connection? p.native).bind (·.typeName?)
  ({ valid := valid.toOption
     number := typeName.map fun _ => p.native
     typeName
     text := p.text },
   { s with state := { s.state with native } })

/-- A step on a pool, or on a physical connection of it. -/
def onPool (s : Session) (pool : PoolId) (x : PhysicalId) :
    PoolStep → Reply × Session
  | .close names =>
    s.answer (Act.closePool pool (names.filterMap (s.connections.lookup ·))) fun _ => .unit
  | .discard => s.answer (Act.discardPhysical x) driverReply
  | .info =>
    match s.state.physical? x with
    | none => (.missing "pooled", s)
    | some p =>
      let (info, s) := s.physicalInfo p
      (.physicalInfo info, s)

-- ================================================ connections

/-- An operation as callers use it, with the reply it must have. -/
def callConnection (s : Session) (c : ConnectionId) (op : ConnectionOp) : Reply × Session :=
  match op with
  | .isClosed => s.answer (Act.boolOf c op) .bool
  | .isValid => s.answer (Act.boolOf c op) .bool
  | .autoCommit => s.answer (Act.boolOf c op) .bool
  | .isWrapperFor _ => s.answer (Act.boolOf c op) .bool
  | .nativeSql _ => s.answer (Act.textOf c op) .text
  | .unwrap _ =>
    s.perform (Act.physicalOf c op) fun x s => (.name (nameOf s.physicals x), s)
  | op => s.answer (Act.runOp c op) fun _ => .unit

/-- The operation named in failures to reshape a reply. -/
def reshaping : String := "probe"

/-- A reply of a connection turned into a shape that was asked for. -/
def reshape (s : Session) (reply : ConnectionReply) : Shape → Except Error Reply
  | .statement =>
    (reply.toStatement reshaping).map fun id =>
      match s.state.layer? id with
      | some layer => .kind layer.kind
      | none => .missing "stmt"
  | .bool => (reply.toBool reshaping).map .bool
  | .text => (reply.toText reshaping).map .text
  | .physical => (reply.toPhysical reshaping).map fun x => .name (nameOf s.physicals x)

/-- A bare reply; a statement in it gets a name. -/
def bareConnectionReply (s : Session) (name : String) : ConnectionReply → Reply × Session
  | .unit => (.bareUnit, s)
  | .bool b => (.bool b, s)
  | .text t => (.bareText t, s)
  | .statement id => (.bareStatement name, s.storeStatement name id)
  | .physical x => (.barePhysical (nameOf s.physicals x), s)

/-- The first link of the sort that is meant. -/
def choose (links : List Link) : LinkChoice → Option (Link × Nat)
  | .recorder => firstLink? Link.isRecorder links
  | .leakTracker => firstLink? Link.isLeakTracker links
  | .cache => firstLink? Link.isCache links
  | .terminal => none

/-- One link alone hears that the connection is attached. -/
def attachLink (s : Session) (c : ConnectionId) (links : List Link) (choice : LinkChoice)
    (pool : Option PoolId) (x : Option PhysicalId) : Reply × Session :=
  match choice, choose links choice with
  | .terminal, _ => s.answer (Act.attach c pool x) fun _ => .unit
  | _, some (link, place) =>
    s.answer (Act.hear link ⟨c, place⟩ (.attach pool x)) fun _ => .unit
  | _, none => (.missing "link", s)

/-- Keeps a value if a flag is set. -/
def onlyIf {α : Type} (flag : Bool) (a : α) : Option α :=
  if flag then some a else none

/-- A step on a connection, by which the pool and the physical connection
are meant that the step names. -/
def onConnection (s : Session) (pool : PoolId) (x : PhysicalId) (c : ConnectionId)
    (connection : Connection) : ConnectionStep → Reply × Session
  | .checkOut => s.answer (Act.checkOut c pool x) fun _ => .unit
  | .checkIn => s.answer (Act.checkIn c) fun _ => .unit
  | .disconnect withPool finalizing =>
    s.answer (Act.tell c (.disconnect (onlyIf withPool pool) x finalizing)) fun _ => .unit
  | .discard => s.answer (Act.discardConnection c pool x) driverReply
  | .poolStarted => s.answer (Act.tell c (.poolStarted pool)) fun _ => .unit
  | .poolClosed => s.answer (Act.tell c (.poolClosed pool)) fun _ => .unit
  | .attachLink none _ _ => (.missing "link", s)
  | .attachLink (some choice) withPool withPhysical =>
    s.attachLink c connection.links choice (onlyIf withPool pool) (onlyIf withPhysical x)
  | .call op => s.callConnection c op
  | .create op name =>
    s.perform (Act.statementOf c op) fun id s => (.unit, s.storeStatement name id)
  | .nativeNumber => s.answer (Act.nativeNumber c) .number
  | .invoke op name => s.perform (Act.invokeOp c op) fun r s => s.bareConnectionReply name r
  | .reshape op shape =>
    s.perform (Act.invokeOp c op) fun r s =>
      match s.reshape r shape with
      | .ok reply => (reply, s)
      | .error e => (.failed e, s)
  | .forceClose sql =>
    match firstLink? Link.isCache connection.links with
    | none => (.nothing, s)
    | some (_, place) => s.answer (Act.forceClose ⟨c, place⟩ sql) .bool
  | .describe => (.texts [s.state.connectionText connection, liveReferenceText], s)

-- ================================================ all steps

/-- A step without the clearing up before and after it. -/
def act (s : Session) : Step → Reply × Session
  | .instruct i => (.unit, { s with state := { s.state with native := s.state.native.obey i } })
  | .preparedSql => (.texts s.state.native.driver.preparedSql, s)
  | .addRule rule =>
    (.unit, { s with state := { s.state with native := s.state.native.addRule rule } })
  | .clearRules => (.unit, { s with state := { s.state with native := s.state.native.clearRules } })
  | .newPool name => (.unit, s.newPool name)
  | .newPhysical name => (.unit, s.newPhysical name)
  | .newConnection name spec =>
    match spec.links with
    | .error e => (.failed e, s)
    | .ok links => (.texts (linkNames links), s.newConnection name links)
  | .dropConnection name =>
    (.bool (s.connections.lookup name).isSome, s.dropConnection name)
  | .dropStatement name =>
    (.bool (s.statements.lookup name).isSome,
     { s with statements := s.statements.filter (·.1 != name) })
  | .sameStatement a b =>
    match s.statements.lookup a, s.statements.lookup b with
    | some a, some b => (.bool (a == b), s)
    | _, _ => (.missing "stmt", s)
  | .nameStatement statement name =>
    match s.statements.lookup statement with
    | some id => (.unit, s.storeStatement name id)
    | none => (.missing "stmt", s)
  | .tablePools => (.names (s.state.statistics.registered.map (nameOf s.pools)), s)
  | .onStatement name step =>
    match s.statements.lookup name with
    | some id => s.onStatement id step
    | none => (.missing name, s)
  | .onPool pool physical step =>
    match s.pools.lookup pool, s.physicals.lookup physical with
    | none, _ => (.missing "pool", s)
    | _, none => (.missing "pooled", s)
    | some p, some x => s.onPool p x step
  | .onConnection pool physical name step =>
    match s.pools.lookup pool, s.physicals.lookup physical with
    | none, _ => (.missing "pool", s)
    | _, none => (.missing "pooled", s)
    | some p, some x =>
      match s.connections.lookup name with
      | none => (.missing "conn", s)
      | some c =>
        match s.state.connection? c with
        | none => (.missing "conn", s)
        | some connection => s.onConnection p x c connection step

/-- Starts a step with an empty journal. -/
def quiet (s : Session) : Session :=
  { s with state := { s.state with journal := [], warnings := [] } }

/-- Releases what no name leads to any more. -/
def settle (s : Session) : Session :=
  { s with state := s.state.release (s.statements.map (·.2)) }

/-- The reply to a step, and the session after it. The journal is empty
before it, and what nothing refers to is released after it. -/
def step (s : Session) (step : Step) : Reply × Session :=
  let (reply, s) := s.quiet.act step
  (reply, s.settle)

/-- The session after some steps. -/
def run (s : Session) (steps : List Step) : Session :=
  steps.foldl (fun s step => (s.step step).2) s

/-- A driver, a pool `p0`, a physical connection `x0`, and a connection
`c0` with the given links, checked out unless that is not wanted. -/
def start (links : List Link) (guarded checkedOut : Bool) : Session :=
  let s : Session :=
    { state := {}, guarded, connections := [], statements := [], pools := [], physicals := [] }
  let s := ((s.newPool "p0").newPhysical "x0").newConnection "c0" links
  if checkedOut then (s.answer (Act.checkOut 0 0 0) fun _ => .unit).2 else s

end Session

end PooledChain
