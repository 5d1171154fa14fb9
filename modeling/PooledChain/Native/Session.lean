/-
The driver used directly, without a pool: connections and statements
under names, and steps that act on them.

A name refers to the last thing stored under it. A statement whose name
is taken by another, or dropped, is given up if it is still open.
-/
import PooledChain.Native.Store

namespace PooledChain.Native

/-- A call on a connection. -/
inductive ConnectionCall
  | create (name : String)
  | prepare (name : String) (kind : StatementKind) (sql : String)
  | commit
  | rollback
  | setAutoCommit (enabled : Bool)
  | autoCommit
  | isValid
  | nativeSql (sql : String)
  | close
  deriving DecidableEq, Repr, Inhabited

/-- What can be done with the driver alone. -/
inductive Step
  | instruct (i : Instruction)
  | preparedSql
  | connect (name : String)
  | drop (statement : String)
  | onStatement (statement : String) (op : StatementOp)
  | onConnection (connection : String) (call : ConnectionCall)
  deriving DecidableEq, Repr, Inhabited

/-- What the driver answers. -/
inductive Reply
  /-- Nothing has that name. -/
  | missing (name : String)
  | failed (error : DriverError)
  | answer (a : Answer)
  | text (text : String)
  | texts (texts : List String)
  deriving DecidableEq, Repr, Inhabited

/-- A driver, with names for its connections and statements. -/
structure Session where
  store : Store
  connections : List (String × ConnectionId)
  statements : List (String × StatementId)
  deriving Repr

namespace Session

/-- One connection under the name `c0`. -/
def start : Session :=
  let (c, store) := Store.connect {} false
  ⟨store, [("c0", c)], []⟩

/-- Lets go of the statement of that name. -/
def dropStatement (s : Session) (name : String) : Session :=
  match s.statements.lookup name with
  | none => s
  | some n =>
    { s with
      store := s.store.giveUp n
      statements := s.statements.filter (·.1 != name) }

/-- Stores a statement that was just made; what had the name is dropped
afterwards. -/
def storeStatement (s : Session) (name : String) (n : StatementId) : Session :=
  let s := s.dropStatement name
  { s with statements := (name, n) :: s.statements }

/-- Runs a call and says what it answered. -/
def call {α : Type} (s : Session) (act : Act α) (reply : α → Reply) : Reply × Session :=
  match act.run s.store with
  | (.ok a, store) => (reply a, { s with store })
  | (.error e, store) => (.failed e, { s with store })

/-- Runs a call that makes a statement. -/
def make (s : Session) (name : String) (act : Act StatementId) : Reply × Session :=
  match act.run s.store with
  | (.ok n, store) => (.answer .unit, { s with store }.storeStatement name n)
  | (.error e, store) => (.failed e, { s with store })

/-- A call on a connection of the driver. -/
def onConnection (s : Session) (c : ConnectionId) : ConnectionCall → Reply × Session
  | .create name => s.make name (createStatement c)
  | .prepare name kind sql => s.make name (Native.prepare c kind sql)
  | .commit => s.call (Native.commit c) fun _ => .answer .unit
  | .rollback => s.call (Native.rollback c) fun _ => .answer .unit
  | .setAutoCommit b => s.call (Native.setAutoCommit c b) fun _ => .answer .unit
  | .autoCommit => s.call (Native.autoCommit c) fun b => .answer (.bool b)
  | .isValid => s.call (Native.isValid c) fun b => .answer (.bool b)
  | .nativeSql sql => s.call (Native.nativeSql c sql) .text
  | .close => s.call (closeConnection c) fun _ => .answer .unit

/-- The reply to a step, and the session after it. -/
def step (s : Session) : Step → Reply × Session
  | .instruct i => (.answer .unit, { s with store := s.store.obey i })
  | .preparedSql => (.texts s.store.driver.preparedSql, s)
  | .connect name =>
    let (c, store) := s.store.connect false
    (.answer (.count c), { s with store, connections := (name, c) :: s.connections })
  | .drop name => (.answer (.bool (s.statements.lookup name).isSome), s.dropStatement name)
  | .onStatement name op =>
    match s.statements.lookup name with
    | none => (.missing name, s)
    | some n => s.call (perform n op) .answer
  | .onConnection name c =>
    match s.connections.lookup name with
    | none => (.missing name, s)
    | some id => s.onConnection id c

end Session

end PooledChain.Native
