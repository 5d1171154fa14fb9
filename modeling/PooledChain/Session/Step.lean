/-
The steps of a session, and what they answer.

In a session every object has a name: connections, statements, pools and
physical connections each have names of their own kind. A step refers to
objects by name and stores what it makes under a name.
-/
import PooledChain.Chain.Lifecycle
import PooledChain.Session.Chain

namespace PooledChain

-- ================================================ steps

/-- A step on one statement. -/
inductive StatementStep
  /-- The operation as callers use it, with the reply it must have. -/
  | call (op : StatementOp)
  /-- The bare operation, with any reply. -/
  | dispatch (op : StatementOp)
  /-- What the statement tells of itself. -/
  | info
  /-- A facade of its own around the statement, perhaps without a
  connection. -/
  | wrap (name : String) (orphan : Bool)
  /-- Retires a watched facade, given by number or as this statement. -/
  | retire (number : Option Nat) (name : Option String)
  /-- Passes an operation on to the delegate of a watched facade. -/
  | forward (number : Option Nat) (op : StatementOp)
  deriving DecidableEq, Repr, Inhabited

/-- A step on a pool or on a physical connection. -/
inductive PoolStep
  /-- Closes the pool, and tells the connections of these names of it. -/
  | close (connections : List String)
  /-- Closes the physical connection for good. -/
  | discard
  /-- What the physical connection tells of itself. -/
  | info
  deriving DecidableEq, Repr, Inhabited

/-- What a reply is turned into. -/
inductive Shape
  | statement
  | bool
  | text
  | physical
  deriving DecidableEq, Repr, Inhabited

/-- A link of a chain, found by what it is. -/
inductive LinkChoice
  | terminal
  | recorder
  | leakTracker
  | cache
  deriving DecidableEq, Repr, Inhabited

/-- A step on one connection. -/
inductive ConnectionStep
  /-- The pool lends the connection its physical connection. -/
  | checkOut
  /-- The pool takes the connection back. -/
  | checkIn
  /-- The links hear that the physical connection is gone. -/
  | disconnect (withPool : Bool) (finalizing : Bool)
  /-- The same, and the physical connection is closed for good. -/
  | discard
  /-- The links hear that the pool is there. -/
  | poolStarted
  /-- The links hear that the pool is closed. -/
  | poolClosed
  /-- One link alone is attached; missing if no link is meant. -/
  | attachLink (link : Option LinkChoice) (withPool : Bool) (withPhysical : Bool)
  /-- The operation as callers use it, except those that create. -/
  | call (op : ConnectionOp)
  /-- An operation that creates a statement. -/
  | create (op : ConnectionOp) (name : String)
  /-- The driver's number of the connection. -/
  | nativeNumber
  /-- The bare operation; a statement in the reply gets the name. -/
  | invoke (op : ConnectionOp) (name : String)
  /-- The bare operation, its reply turned into that shape. -/
  | reshape (op : ConnectionOp) (shape : Shape)
  /-- Closes what the cache holds for a SQL text. -/
  | forceClose (sql : String)
  /-- The connection as diagnostics show it. -/
  | describe
  deriving DecidableEq, Repr, Inhabited

/-- All that can be done in a session. -/
inductive Step
  /-- Tells the driver what to do next. -/
  | instruct (i : Native.Instruction)
  /-- The SQL texts that reached the driver. -/
  | preparedSql
  /-- One more rule by which calls of guarded connections fail. -/
  | addRule (rule : Native.Rule)
  | clearRules
  | newPool (name : String)
  | newPhysical (name : String)
  /-- A connection with such a chain takes the name. -/
  | newConnection (name : String) (chain : ChainSpec)
  /-- Nobody refers to the connection any more. -/
  | dropConnection (name : String)
  /-- The name refers to no statement any more. -/
  | dropStatement (name : String)
  /-- Whether two names refer to one statement. -/
  | sameStatement (a b : String)
  /-- One more name for a statement. -/
  | nameStatement (statement name : String)
  /-- The pools that have a table. -/
  | tablePools
  | onStatement (statement : String) (step : StatementStep)
  | onPool (pool physical : String) (step : PoolStep)
  | onConnection (pool physical connection : String) (step : ConnectionStep)
  deriving DecidableEq, Repr, Inhabited

-- ================================================ replies

/-- What a statement tells of itself. -/
structure StatementInfo where
  closed : Bool
  sql : Option String
  kind : StatementKind
  connection : Option String
  text : String
  deriving DecidableEq, Repr, Inhabited

/-- What a physical connection tells of itself. -/
structure PhysicalInfo where
  /-- Missing if asking failed. -/
  valid : Option Bool
  /-- The driver's number of it, if callers can reach the driver's type. -/
  number : Option Nat
  typeName : Option String
  text : String
  deriving DecidableEq, Repr, Inhabited

/-- What a step answers. -/
inductive Reply
  /-- There is no such object. -/
  | missing (what : String)
  | failed (error : Error)
  /-- A failure of the driver that no chain has seen. -/
  | driverFailed (error : DriverError)
  | unit
  | nothing
  | bool (value : Bool)
  | number (n : Nat)
  | numbers (ns : List Nat)
  | text (value : String)
  | texts (values : List String)
  /-- Names of objects, missing where an object has none. -/
  | names (values : List (Option String))
  | name (value : Option String)
  | kind (value : StatementKind)
  /-- Rows, and whether they point at the statement that was asked. -/
  | resultSet (own : Option Bool) (rows : Rows)
  /-- A bare reply of a statement other than rows. -/
  | bare (reply : StatementReply)
  | bareUnit
  | bareText (value : String)
  | bareStatement (name : String)
  | barePhysical (name : Option String)
  | statementInfo (info : StatementInfo)
  | physicalInfo (info : PhysicalInfo)
  deriving DecidableEq, Repr, Inhabited

end PooledChain
