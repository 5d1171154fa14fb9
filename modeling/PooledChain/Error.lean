/-
What can go wrong on a connection or a statement of the pool.

A failure is kept as its cause; the wording is written by `message`
alone. The one question the statement cache asks about a failure is
whether it is permanent: whether the server has thrown away the plan
behind a prepared statement, so that the statement can never run again.
-/
import PooledChain.DriverError
import PooledChain.Text.Infix

namespace PooledChain

/-- The two things a caller can close. -/
inductive Resource
  | connection
  | statement
  deriving DecidableEq, Repr

/-- The resource as it is named in a failure. -/
def Resource.name : Resource → String
  | connection => "connection"
  | statement => "statement"

/-- Why a definition or a configuration is refused. -/
inductive ConfigError
  /-- A property without an equals sign. -/
  | notAPair (entry : String)
  /-- A property whose name is blank. -/
  | missingKey (entry : String)
  | notABoolean (key value : String)
  | notAnInteger (key value : String)
  | negative (key : String) (value : Int)
  /-- An opening parenthesis that is not closed at the end. -/
  | unbalanced (entry : String)
  | emptyName
  | invalidName (name : String)
  | thresholdTooLow (threshold : Int)
  | noQueries
  /-- A reason in the caller's own words. -/
  | stated (reason : String)
  deriving DecidableEq, Repr

/-- The fault as it is shown. -/
def ConfigError.reason : ConfigError → String
  | notAPair entry => "invalid key-value: " ++ entry
  | missingKey entry => "missing property name: " ++ entry
  | notABoolean key value => "invalid boolean for " ++ key ++ ": " ++ value
  | notAnInteger key value => "invalid integer for " ++ key ++ ": " ++ value
  | negative key value => key ++ " must not be negative: " ++ toString value
  | unbalanced entry => "unbalanced parentheses: " ++ entry
  | emptyName => "interceptor name cannot be empty"
  | invalidName name =>
      "invalid interceptor name '" ++ name ++ "': must be dot-separated identifiers"
  | thresholdTooLow n =>
      "threshold must be -1 or a duration in milliseconds, got " ++ toString n
  | noQueries => "maxQueries must be at least 1"
  | stated reason => reason

/-- A failure of an operation on a connection or a statement. -/
inductive Error
  /-- The resource was used after it had been closed. -/
  | closed (resource : Resource)
  | notAWrapper (typeName : String)
  /-- Raised by the driver and passed on as it came. -/
  | driver (error : DriverError)
  | config (error : ConfigError)
  | unknownLink (name : String)
  /-- A link answered an operation with a reply of another shape. -/
  | unexpectedReply (operation : String)
  /-- The connection holds no physical connection. -/
  | detached
  deriving DecidableEq, Repr

namespace Error

/-- The failure as it is shown. -/
def message : Error → String
  | closed r => r.name ++ " has already been closed"
  | notAWrapper t => "not a wrapper of " ++ t
  | driver e => e.message
  | config e => "configuration error: " ++ e.reason
  | unknownLink name => "unknown interceptor: " ++ name
  | unexpectedReply op => "unexpected reply to " ++ op
  | detached => "connection is not attached to a pooled handle"

/-- Whether a closed resource was used. -/
def isClosed : Error → Bool
  | closed _ => true
  | _ => false

/-- What the driver raised, if it was the driver. -/
def driver? : Error → Option DriverError
  | driver e => some e
  | _ => none

/-- The texts of what lies beneath; a driver's failure speaks for
itself, so its own causes are listed. -/
def sources (e : Error) : List String :=
  (e.driver?.map (·.sources)).getD []

-- ================================================ permanent failures

/-- The state under which a server reports a plan it can no longer run. -/
def featureNotSupported : String := "0A000"

/-- The words that tell such a report from others of that state. -/
def planInvalidated : String := "cached plan must not change result type"

/-- A server report that the plan behind the statement is gone. -/
def reportsLostPlan (e : DriverError) : Bool :=
  match e.report? with
  | some r => r.sqlState == featureNotSupported &&
      Text.occursIn planInvalidated.toList r.message.toList
  | none => false

/-- Whether the statement can never run again. The report may stand
anywhere in the chain, since layers in between wrap what they meet. -/
def isPermanent (e : Error) : Bool :=
  match e.driver? with
  | some d => d.chain.any reportsLostPlan
  | none => false

end Error

end PooledChain
