/-
Everything on the driver's side: the driver, its connections and the
statements made from them.

Connections and statements are numbered in the order of their creation
and stay in the store when they are closed. A call is made on a number
(`Act`), may change the store and may fail, and what it changed before
it failed stays changed.
-/
import PooledChain.Native.Statement

namespace PooledChain.Native

/-- A connection of the driver. -/
structure Connection where
  /-- Whether the rules of the script are asked first. -/
  guarded : Bool
  autoCommit : Bool := true
  closed : Bool := false
  deriving DecidableEq, Repr, Inhabited

/-- The type of the driver's connections, as callers ask for it. -/
def connectionTypeName : String := "sqlpool_testing::driver::MockConnection"

namespace Connection

/-- The type name a caller can unwrap the connection to. The wrapper of
a guarded connection has a type that no caller can name. -/
def typeName? (c : Connection) : Option String :=
  if c.guarded then none else some connectionTypeName

/-- What a closed connection answers. -/
def closedError : DriverError := .other "connection is closed"

end Connection

/-- Statements are numbered from 0. -/
abbrev StatementId := Nat

/-- The driver with all connections and statements it has made. -/
structure Store where
  driver : Driver := {}
  connections : List Connection := []
  statements : List Statement := []
  /-- Newest first. -/
  rules : List Rule := []
  deriving DecidableEq, Repr, Inhabited

/-- A call on the driver's side. -/
abbrev Act (α : Type) := ExceptT DriverError (StateM Store) α

namespace Store

/-- The connection of that number. -/
def connection? (s : Store) (c : ConnectionId) : Option Connection :=
  match c with
  | 0 => none
  | place + 1 => s.connections[place]?

/-- The statement of that number. -/
def statement? (s : Store) (n : StatementId) : Option Statement :=
  s.statements[n]?

/-- Writes the connection of that number. -/
def setConnection (s : Store) (c : ConnectionId) (connection : Connection) : Store :=
  { s with connections := s.connections.set (c - 1) connection }

/-- The driver does as it is told. -/
def obey (s : Store) (i : Instruction) : Store :=
  { s with driver := s.driver.obey i }

/-- One more rule by which calls fail. -/
def addRule (s : Store) (r : Rule) : Store :=
  { s with rules := r :: s.rules }

/-- No call fails by a rule any more. -/
def clearRules (s : Store) : Store :=
  { s with rules := [] }

/-- Opens a connection. -/
def connect (s : Store) (guarded : Bool) : ConnectionId × Store :=
  let driver := { s.driver with connections := s.driver.connections + 1 }
  (s.connections.length + 1,
   { s with driver, connections := s.connections ++ [{ guarded }] })

/-- Gives up a statement that nothing refers to any more. -/
def giveUp (s : Store) (n : StatementId) : Store :=
  match s.statement? n with
  | none => s
  | some statement =>
    let (driver, statement) := statement.giveUp s.driver
    { s with driver, statements := s.statements.set n statement }

/-- The failure that the newest rule about this call demands. -/
def refusal? (s : Store) (method : Method) (subject : Option String) : Option DriverError :=
  (s.rules.find? (·.applies method subject)).map (·.error)

end Store

-- ================================================ calls on a connection

/-- Asks the rules if the connection is guarded. -/
def guard (guarded : Bool) (method : Method) (subject : Option String) : Act Unit := do
  if guarded then
    match (← get).refusal? method subject with
    | some e => throw e
    | none => return ()

/-- The connection of that number. -/
def connection (c : ConnectionId) : Act Connection := do
  match (← get).connection? c with
  | some connection => return connection
  | none => throw Connection.closedError

/-- The connection of that number, if it is open. -/
def openConnection (c : ConnectionId) (method : Method) (subject : Option String) :
    Act Connection := do
  let connection ← connection c
  guard connection.guarded method subject
  if connection.closed then throw Connection.closedError
  return connection

/-- A new statement, open and in the store. -/
def newStatement (c : ConnectionId) (kind : StatementKind) (sql : Option String) :
    Act StatementId :=
  modifyGet fun s =>
    let driver := { s.driver with openStatements := s.driver.openStatements + 1 }
    (s.statements.length,
     { s with driver, statements := s.statements ++ [{ connection := c, kind, sql }] })

/-- The call that creates statements of a kind. -/
def creationMethod : StatementKind → Method
  | .plain => .createStatement
  | .prepared => .prepareStatement
  | .callable => .prepareCall

/-- Makes a plain statement on a connection. -/
def createStatement (c : ConnectionId) : Act StatementId := do
  let _ ← openConnection c .createStatement none
  modify fun s => { s with driver := { s.driver with creates := s.driver.creates + 1 } }
  newStatement c .plain none

/-- Prepares a statement or a call; both are counted alike. -/
def prepare (c : ConnectionId) (kind : StatementKind) (sql : String) : Act StatementId := do
  let _ ← openConnection c (creationMethod kind) (some sql)
  if (← get).driver.prepareFailures.contains sql then
    throw (.database ⟨"42000", "cannot prepare: " ++ sql, 0⟩)
  modify fun s =>
    { s with driver := { s.driver with
        prepares := s.driver.prepares + 1
        preparedSql := s.driver.preparedSql ++ [sql] } }
  newStatement c kind (some sql)

/-- Ends a transaction and keeps what it did. -/
def commit (c : ConnectionId) : Act Unit := do
  let _ ← openConnection c .commit none

/-- Ends a transaction and undoes what it did. -/
def rollback (c : ConnectionId) : Act Unit := do
  let _ ← openConnection c .rollback none

/-- Says whether each statement is a transaction of its own. -/
def setAutoCommit (c : ConnectionId) (enabled : Bool) : Act Unit := do
  let connection ← openConnection c .setAutoCommit none
  modify (·.setConnection c { connection with autoCommit := enabled })

/-- Whether each statement is a transaction of its own. -/
def autoCommit (c : ConnectionId) : Act Bool := do
  return (← openConnection c .autoCommit none).autoCommit

/-- A closed connection is not valid; asking is no error. -/
def isValid (c : ConnectionId) : Act Bool := do
  let connection ← connection c
  guard connection.guarded .isValid none
  return !connection.closed

/-- The driver writes parameters with a dollar sign; the wrapper of a
guarded connection leaves the text alone. -/
def nativeSql (c : ConnectionId) (sql : String) : Act String := do
  let connection ← connection c
  if connection.guarded then return sql
  return String.ofList (sql.toList.map fun ch => if ch == '?' then '$' else ch)

/-- Closing a closed connection does nothing. -/
def closeConnection (c : ConnectionId) : Act Unit := do
  let connection ← connection c
  guard connection.guarded .connectionClose none
  if !connection.closed then
    modify fun s =>
      let s := s.setConnection c { connection with closed := true }
      { s with driver := { s.driver with connectionCloses := s.driver.connectionCloses + 1 } }

-- ================================================ calls on a statement

/-- An operation on a statement. A refused call changes nothing. -/
def perform (n : StatementId) (op : StatementOp) : Act Answer := do
  match (← get).statement? n with
  | none => throw Statement.closedError
  | some statement =>
    let guarded := (((← get).connection? statement.connection).map (·.guarded)).getD false
    if let some method := Statement.methodOf? op then
      guard guarded method statement.sql
    let s ← get
    match statement.perform s.driver op with
    | (result, driver, statement) =>
      set { s with driver, statements := s.statements.set n statement }
      match result with
      | .ok answer => return answer
      | .error e => throw e

/-- Closes a statement and lets go of it: if closing is refused, the
statement is given up. -/
def dispose (n : StatementId) : Act Unit := ExceptT.mk do
  let result ← (perform n .close).run
  modify (·.giveUp n)
  return result.map fun _ => ()

end PooledChain.Native
