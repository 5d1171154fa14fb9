/-
The operations that callers invoke on pooled connections and on the
statements made from them.

Every call is a value, so that the links of a chain can look at it,
answer it or pass it on. An operation has a name, which stands in logs
and errors; the operations that create a statement also have the kind
of statement they create and, except for plain statements, its SQL.
-/
import PooledChain.Value

namespace PooledChain

-- ================================================ statements by kind

/-- The shape of a statement, fixed when it is created. -/
inductive StatementKind
  /-- SQL is given at each execution. -/
  | plain
  /-- Prepared from SQL with parameters. -/
  | prepared
  /-- Prepared from the call of a stored procedure. -/
  | callable
  deriving DecidableEq, Repr, Inhabited

namespace StatementKind

/-- Every kind of statement. -/
def all : List StatementKind := [plain, prepared, callable]

/-- The operation that creates statements of this kind. -/
def creationName : StatementKind → String
  | plain => "create_statement"
  | prepared => "prepare_statement"
  | callable => "prepare_call"

/-- How the kind is written in diagnostics. -/
def label : StatementKind → String
  | plain => "Plain"
  | prepared => "Prepared"
  | callable => "Callable"

end StatementKind

-- ================================================ what a connection wraps

/-- What a caller asks a connection to be unwrapped to. -/
inductive WrapTarget
  /-- The pool's own handle of the physical connection. -/
  | pooled
  /-- The driver's connection type of that name. -/
  | native (typeName : String)
  deriving DecidableEq, Repr, Inhabited

/-- The name of the type that is asked for. -/
def WrapTarget.typeName : WrapTarget → String
  | pooled => "sqlpool_interceptor::pool::PooledConnection"
  | native name => name

-- ================================================ connection operations

/-- What a caller can ask of a connection. -/
inductive ConnectionOp
  | createStatement
  | prepareStatement (sql : String)
  | prepareCall (sql : String)
  | close
  | isClosed
  | isValid
  | commit
  | rollback
  | setAutoCommit (enabled : Bool)
  | autoCommit
  | nativeSql (sql : String)
  | unwrap (target : WrapTarget)
  | isWrapperFor (target : WrapTarget)
  deriving DecidableEq, Repr, Inhabited

namespace ConnectionOp

/-- The name of the operation in logs and failures. -/
def name : ConnectionOp → String
  | createStatement => "create_statement"
  | prepareStatement _ => "prepare_statement"
  | prepareCall _ => "prepare_call"
  | close => "close"
  | isClosed => "is_closed"
  | isValid => "is_valid"
  | commit => "commit"
  | rollback => "rollback"
  | setAutoCommit _ => "set_auto_commit"
  | autoCommit => "auto_commit"
  | nativeSql _ => "native_sql"
  | unwrap _ => "unwrap"
  | isWrapperFor _ => "is_wrapper_for"

/-- Which operation it is, whatever it carries. -/
def label : ConnectionOp → String
  | createStatement => "CreateStatement"
  | prepareStatement _ => "PrepareStatement"
  | prepareCall _ => "PrepareCall"
  | close => "Close"
  | isClosed => "IsClosed"
  | isValid => "IsValid"
  | commit => "Commit"
  | rollback => "Rollback"
  | setAutoCommit _ => "SetAutoCommit"
  | autoCommit => "AutoCommit"
  | nativeSql _ => "NativeSql"
  | unwrap _ => "Unwrap"
  | isWrapperFor _ => "IsWrapperFor"

/-- The kind of statement the operation creates, if it creates one. -/
def creates? : ConnectionOp → Option StatementKind
  | createStatement => some .plain
  | prepareStatement _ => some .prepared
  | prepareCall _ => some .callable
  | _ => none

/-- The SQL of a statement to be created. -/
def sql? : ConnectionOp → Option String
  | prepareStatement sql => some sql
  | prepareCall sql => some sql
  | _ => none

/-- The operation with `text` put before every SQL text it carries. -/
def prepend (text : String) : ConnectionOp → ConnectionOp
  | prepareStatement sql => prepareStatement (text ++ sql)
  | prepareCall sql => prepareCall (text ++ sql)
  | nativeSql sql => nativeSql (text ++ sql)
  | op => op

end ConnectionOp

-- ================================================ statement operations

/-- What a caller can ask of a statement. -/
inductive StatementOp
  | execute (sql : Option String)
  | executeQuery (sql : Option String)
  | executeUpdate (sql : Option String)
  | addBatch (sql : Option String)
  | executeBatch
  /-- Parameters are counted from 1. -/
  | setParameter (index : Nat) (value : Value)
  | clearParameters
  | close
  | isClosed
  deriving DecidableEq, Repr, Inhabited

namespace StatementOp

/-- The name of the operation in logs and failures. -/
def name : StatementOp → String
  | execute _ => "execute"
  | executeQuery _ => "execute_query"
  | executeUpdate _ => "execute_update"
  | addBatch _ => "add_batch"
  | executeBatch => "execute_batch"
  | setParameter _ _ => "set_parameter"
  | clearParameters => "clear_parameters"
  | close => "close"
  | isClosed => "is_closed"

/-- Whether SQL is run on the server. -/
def isExecution : StatementOp → Bool
  | execute _ => true
  | executeQuery _ => true
  | executeUpdate _ => true
  | executeBatch => true
  | _ => false

/-- The SQL given with the operation itself. -/
def sql? : StatementOp → Option String
  | execute sql => sql
  | executeQuery sql => sql
  | executeUpdate sql => sql
  | addBatch sql => sql
  | _ => none

end StatementOp

end PooledChain
