/-
An in-memory database driver whose behaviour can be scripted.

The driver counts what reaches it, and can be told to fail or to delay
the work for a SQL text. Time is a clock of whole milliseconds that only
the delays move, so a run takes as long as its script says and no
longer.

A connection of the driver may be guarded: the rules in `rules` are then
asked first, before each of its calls and each call on its statements,
and the newest rule that matches makes the call fail before the driver
sees it.
-/
import PooledChain.DriverError
import PooledChain.Operation

namespace PooledChain.Native

-- ================================================ scripted failures

/-- A failure that every execution of one SQL text raises. -/
structure ExecutionFailure where
  sqlState : String
  message : String
  /-- Whether it arrives inside an invocation, as layers of indirection
  report it. -/
  wrapped : Bool
  deriving DecidableEq, Repr

namespace ExecutionFailure

/-- The failure that was armed, as the driver raises it. -/
def raise (f : ExecutionFailure) : DriverError :=
  let e := DriverError.database ⟨f.sqlState, f.message, 0⟩
  if f.wrapped then .invocation e else e

/-- The failure of a prepared plan that the server has thrown away. -/
def lostPlan : ExecutionFailure :=
  ⟨"0A000", "cached plan must not change result type", true⟩

end ExecutionFailure

/-- The calls of a guarded connection and of its statements. -/
inductive Method
  | createStatement
  | prepareStatement
  | prepareCall
  | commit
  | rollback
  | setAutoCommit
  | autoCommit
  | isValid
  | connectionClose
  | execute
  | executeQuery
  | executeUpdate
  | addBatch
  | executeBatch
  | setParameter
  | clearParameters
  | statementClose
  deriving DecidableEq, Repr, Inhabited

namespace Method

/-- The name by which rules mean a method. Converting a text to the
driver's dialect is no method in this sense: it cannot be made to fail. -/
def name : Method → String
  | createStatement => "create_statement"
  | prepareStatement => "prepare_statement"
  | prepareCall => "prepare_call"
  | commit => "commit"
  | rollback => "rollback"
  | setAutoCommit => "set_auto_commit"
  | autoCommit => "auto_commit"
  | isValid => "is_valid"
  | connectionClose => "connection_close"
  | execute => "execute"
  | executeQuery => "execute_query"
  | executeUpdate => "execute_update"
  | addBatch => "add_batch"
  | executeBatch => "execute_batch"
  | setParameter => "set_parameter"
  | clearParameters => "clear_parameters"
  | statementClose => "statement_close"

end Method

/-- Makes one method fail, for one SQL text or for all. -/
structure Rule where
  /-- The name of the method; under any other name the rule is about
  nothing. -/
  method : String
  sql : Option String
  error : DriverError
  deriving DecidableEq, Repr

/-- Whether the rule is about this call. `subject` is the SQL being
prepared, or that of the statement called. -/
def Rule.applies (r : Rule) (method : Method) (subject : Option String) : Bool :=
  r.method == method.name && (r.sql.isNone || r.sql == subject)

-- ================================================ the driver's own state

/-- What the driver counts, and what it was told to do. -/
structure Driver where
  /-- Connections ever opened. -/
  connections : Nat := 0
  /-- Plain statements ever created. -/
  creates : Nat := 0
  /-- Statements and calls ever prepared. -/
  prepares : Nat := 0
  /-- Executions that reached the driver, failed ones included. -/
  executions : Nat := 0
  /-- Statements closed by a close call. -/
  nativeCloses : Nat := 0
  /-- Statements created and neither closed nor given up. -/
  openStatements : Nat := 0
  connectionCloses : Nat := 0
  /-- Every SQL text prepared, in order. -/
  preparedSql : List String := []
  /-- SQL texts that cannot be prepared. -/
  prepareFailures : List String := []
  executionFailures : List (String × ExecutionFailure) := []
  /-- Milliseconds that each execution of a SQL text takes. -/
  latencies : List (String × Nat) := []
  /-- Milliseconds passed. -/
  clock : Nat := 0
  deriving DecidableEq, Repr, Inhabited

/-- What a script can tell the driver. -/
inductive Instruction
  | failPrepare (sql : String)
  | failExecution (sql sqlState message : String)
  | failPermanently (sql : String)
  | clearFailures
  | latency (sql : String) (ms : Nat)
  deriving DecidableEq, Repr, Inhabited

namespace Driver

/-- Puts an entry in front, where a look-up finds it before older ones. -/
def obey (d : Driver) : Instruction → Driver
  | .failPrepare sql => { d with prepareFailures := sql :: d.prepareFailures }
  | .failExecution sql state message =>
    { d with executionFailures := (sql, ⟨state, message, false⟩) :: d.executionFailures }
  | .failPermanently sql =>
    { d with executionFailures := (sql, .lostPlan) :: d.executionFailures }
  | .clearFailures => { d with prepareFailures := [], executionFailures := [] }
  | .latency sql ms => { d with latencies := (sql, ms) :: d.latencies }

/-- The counters in the order in which they are reported. -/
def counters (d : Driver) : List Nat :=
  [d.connections, d.creates, d.prepares, d.executions, d.nativeCloses, d.openStatements,
   d.connectionCloses]

/-- Runs a SQL text: it takes its time and is counted, and then fails if
the script says so. -/
def execute (d : Driver) (sql : String) : Except DriverError Unit × Driver :=
  let d := { d with
    clock := d.clock + (d.latencies.lookup sql).getD 0
    executions := d.executions + 1 }
  match d.executionFailures.lookup sql with
  | some f => (.error f.raise, d)
  | none => (.ok (), d)

end Driver

end PooledChain.Native
