/-
Statements as their callers hold them.

What a caller gets from a connection is the top of a stack of layers. At
the bottom a native handle owns the driver's statement. Above it stand
facades, one for each link that decorated the statement on its way up.
A facade owns the layer under it, its delegate, until it is closed; once
closed it has none, so a handle that is kept after closing reaches
nothing any more, whatever becomes of the layers that were under it.

Layers are numbered in the order of their creation and a facade is
always newer than its delegate. Each facade also has a level, and its
delegate has a smaller one: the level counts the links of the chain at
and below the one that made it, native handles being at level zero. The
layers that a cache hands over to each other are all of one level.
-/
import PooledChain.Link
import PooledChain.Native.Store
import PooledChain.Statistics.Registry

namespace PooledChain

/-- Numbers in the order of creation. -/
abbrev LayerId := Nat

/-- Numbers in the order of creation. -/
abbrev ConnectionId := Nat

/-- A link of one connection: its place is the number of links below it. -/
structure LinkId where
  connection : ConnectionId
  place : Nat
  deriving DecidableEq, Repr, Inhabited

/-- What a facade adds to its delegate. -/
inductive Behaviour
  /-- Nothing but staying closed. -/
  | plain
  /-- When closed, offers its delegate to a cache. It belongs to the
  generation the cache was in, and once broken it is not kept. -/
  | cached (cache : LinkId) (generation : Nat) (broken : Bool)
  /-- When closed, takes itself off a tracker's list. -/
  | tracked (tracker : LinkId) (entry : Nat)
  /-- Times executions and records them in a table. -/
  | recording (table : Statistics.TableId) (config : RecorderConfig)
  /-- When closed, is counted. -/
  | counting (counter : LinkId)
  /-- Logs what happens to it, and answers some operations itself. -/
  | watched (label : String) (answered : List String)
  deriving DecidableEq, Repr, Inhabited

/-- A handle that passes what it is asked on to another one. -/
structure Facade where
  /-- How many links stand at and below the one that made it. -/
  level : Nat
  /-- What it passes operations on to, until it is closed. -/
  delegate : Option LayerId
  /-- Whether its caller has closed it. -/
  closed : Bool
  /-- What it does besides. -/
  behaviour : Behaviour
  deriving DecidableEq, Repr, Inhabited

/-- What a layer is at present. -/
inductive Core
  /-- Owns the driver's statement until it is closed. -/
  | native (handle : Option Native.StatementId)
  /-- Passes everything on to a layer below. -/
  | facade (f : Facade)
  /-- Nothing refers to the layer any more. -/
  | released
  deriving DecidableEq, Repr, Inhabited

/-- One layer of a statement: what it was made for, and what it is. -/
structure Layer where
  /-- The SQL text it was made for; a plain statement has none. -/
  sql : Option String
  kind : StatementKind
  /-- The connection it was made on, which it does not keep alive. -/
  connection : Option ConnectionId
  core : Core
  deriving DecidableEq, Repr, Inhabited

namespace Core

/-- The level of a layer; a native handle is at the bottom. -/
def level : Core → Nat
  | native _ => 0
  | facade f => f.level
  | released => 0

/-- The layer that this one passes everything on to. -/
def delegate? : Core → Option LayerId
  | facade f => f.delegate
  | _ => none

/-- The layer as a facade, if it is one. -/
def facade? : Core → Option Facade
  | facade f => some f
  | _ => none

/-- Whether nothing refers to the layer any more. -/
def isReleased : Core → Bool
  | released => true
  | _ => false

/-- Whether the layer is closed, given which layers under it are. -/
def isClosed (below : LayerId → Bool) : Core → Bool
  | native handle => handle.isNone
  | facade f => f.closed || (match f.delegate with
    | some d => below d
    | none => true)
  | released => true

end Core

/-- What a statement answers to an operation. -/
inductive StatementReply
  | unit
  | bool (value : Bool)
  /-- Rows, and the statement they came from as the caller knows it. -/
  | rows (rows : Rows) (statement : Option LayerId)
  | count (n : Nat)
  | counts (ns : List Nat)
  deriving DecidableEq, Repr, Inhabited

/-- The driver's answer as a reply; its rows point at no statement yet. -/
def StatementReply.ofNative : Native.Answer → StatementReply
  | .unit => unit
  | .bool b => bool b
  | .rows r => rows r none
  | .count n => count n
  | .counts ns => counts ns

end PooledChain
