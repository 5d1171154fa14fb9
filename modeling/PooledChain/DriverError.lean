/-
Failures raised by a database driver.

A failure can carry another one inside: a server report may name its
cause, and a layer between the caller and the driver wraps what it
meets in an `invocation`. Read from the outside in, the nested failures
form a chain, and everything the library decides about a failure is
decided on that chain. `unwrapped` peels the leading invocations, which
say nothing about the failure itself.
-/

namespace PooledChain

/-- What a database server reports about a failed request. -/
structure ServerReport where
  sqlState : String
  message : String
  vendorCode : Int
  deriving DecidableEq, Repr, Inhabited

/-- A failure of the driver or of what lies between it and the caller. -/
inductive DriverError
  | database (report : ServerReport)
  /-- A server report that names the failure beneath it. -/
  | databaseFrom (report : ServerReport) (cause : DriverError)
  | io (message : String)
  /-- A failure met by a layer between the caller and the driver. -/
  | invocation (inner : DriverError)
  | unsupported (operation : String)
  | other (message : String)
  deriving DecidableEq, Repr, Inhabited

namespace DriverError

-- ================================================ reading one failure

/-- The server's report, if this failure is one. -/
def report? : DriverError → Option ServerReport
  | database r => some r
  | databaseFrom r _ => some r
  | _ => none

/-- The five characters by which the server classifies a failure, if it
reported one. -/
def sqlState? (e : DriverError) : Option String :=
  e.report?.map (·.sqlState)

/-- The failure as it is shown. -/
def message : DriverError → String
  | database r => r.message ++ " (SQLSTATE " ++ r.sqlState ++ ")"
  | databaseFrom r _ => r.message ++ " (SQLSTATE " ++ r.sqlState ++ ")"
  | io m => "IO error: " ++ m
  | invocation inner => "invocation failed: " ++ inner.message
  | unsupported m => "operation not supported: " ++ m
  | other m => m

-- ================================================ nesting

/-- The failure under this one. -/
def inner? : DriverError → Option DriverError
  | databaseFrom _ cause => some cause
  | invocation inner => some inner
  | _ => none

/-- This failure and all beneath it, outermost first. -/
def chain : DriverError → List DriverError
  | e@(databaseFrom _ cause) => e :: cause.chain
  | e@(invocation inner) => e :: inner.chain
  | e => [e]

/-- The failure under all leading invocations. -/
def unwrapped : DriverError → DriverError
  | invocation inner => inner.unwrapped
  | e => e

/-- The texts of what lies beneath, outermost first. An input or output
failure ends the chain with the system's own message. -/
def sources : DriverError → List String
  | databaseFrom _ cause => cause.message :: cause.sources
  | invocation inner => inner.message :: inner.sources
  | io m => [m]
  | _ => []

/-- The failure inside `n` further invocations. -/
def wrap (e : DriverError) : Nat → DriverError
  | 0 => e
  | n + 1 => invocation (e.wrap n)

end DriverError

end PooledChain
