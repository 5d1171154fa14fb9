/-
The end of a chain.

The terminal holds the attachment to the physical connection. It gives
the physical connection back to the pool once per checkout, refuses
everything on a closed connection, and passes the rest to the driver.
-/
import PooledChain.Layer.Dispatch

namespace PooledChain

/-- What a connection answers to an operation. -/
inductive ConnectionReply
  | unit
  | bool (value : Bool)
  | text (value : String)
  /-- A statement, new or used again. -/
  | statement (id : LayerId)
  | physical (id : PhysicalId)
  deriving DecidableEq, Repr, Inhabited

namespace ConnectionReply

/-- The statement in a reply; `operation` is named if there is none. -/
def toStatement (operation : String) : ConnectionReply → Except Error LayerId
  | statement id => .ok id
  | _ => .error (.unexpectedReply operation)

/-- The truth value in a reply to that operation. -/
def toBool (operation : String) : ConnectionReply → Except Error Bool
  | bool b => .ok b
  | _ => .error (.unexpectedReply operation)

/-- The text in a reply to that operation. -/
def toText (operation : String) : ConnectionReply → Except Error String
  | text t => .ok t
  | _ => .error (.unexpectedReply operation)

/-- The physical connection in a reply to that operation. -/
def toPhysical (operation : String) : ConnectionReply → Except Error PhysicalId
  | physical x => .ok x
  | _ => .error (.unexpectedReply operation)

end ConnectionReply

namespace Act

/-- The terminal of a connection. -/
def terminal (c : ConnectionId) : Act Terminal := do
  match (← get).connection? c with
  | some connection => return connection.terminal
  | none => return {}

/-- Closes a connection. The physical connection goes back to the pool
of the latest checkout, the first time only. -/
def closeTerminal (c : ConnectionId) : Act ConnectionReply := do
  let t ← terminal c
  if t.closed then return .unit
  else
    modify (·.modifyTerminal c fun t => { t with closed := true })
    match t.attachment with
    | some ⟨some pool, physical⟩ =>
      modify fun s => { s with returns := s.returns ++ [(pool, physical)] }
      return .unit
    | _ => return .unit

/-- Whether a physical connection is what the caller asks for. -/
def wraps (x : PhysicalId) (target : WrapTarget) : Act Bool := do
  match target with
  | .pooled => return true
  | .native name =>
    let s ← get
    let nativeType := ((s.physical? x).bind fun p =>
      (s.native.connection? p.native).bind (·.typeName?))
    return nativeType == some name

/-- A native handle around a new statement of the driver. -/
def handleOver (c : ConnectionId) (kind : StatementKind) (sql : Option String)
    (make : Native.Act Native.StatementId) : Act ConnectionReply := do
  let n ← native make
  let id ← modifyGet fun s =>
    s.addLayer { sql, kind, connection := some c, core := .native (some n) }
  return .statement id

/-- An operation on the physical connection itself. -/
def askPhysical (c : ConnectionId) (x : PhysicalId) (op : ConnectionOp) :
    Act ConnectionReply := do
  let n := (((← get).physical? x).map (·.native)).getD 0
  match op with
  | .createStatement => handleOver c .plain none (Native.createStatement n)
  | .prepareStatement sql => handleOver c .prepared (some sql) (Native.prepare n .prepared sql)
  | .prepareCall sql => handleOver c .callable (some sql) (Native.prepare n .callable sql)
  | .isValid => return .bool (← native (Native.isValid n))
  | .commit => native (Native.commit n); return .unit
  | .rollback => native (Native.rollback n); return .unit
  | .setAutoCommit b => native (Native.setAutoCommit n b); return .unit
  | .autoCommit => return .bool (← native (Native.autoCommit n))
  | .nativeSql sql => return .text (← native (Native.nativeSql n sql))
  | .unwrap target =>
    if ← wraps x target then return .physical x
    else throw (.notAWrapper target.typeName)
  | .isWrapperFor target => return .bool (← wraps x target)
  | .close => throw (.driver (.unsupported op.name))
  | .isClosed => throw (.driver (.unsupported op.name))

/-- The end of the chain answers every operation that reaches it. -/
def askTerminal (c : ConnectionId) (op : ConnectionOp) : Act ConnectionReply := do
  match op with
  | .close => closeTerminal c
  | .isClosed => return .bool ((← get).isClosedConnection c)
  | op =>
    if (← get).isClosedConnection c then throw (.closed .connection)
    else match (← terminal c).attachment with
      | some a => askPhysical c a.physical op
      | none => throw .detached

-- ================================================ attaching and detaching

/-- At checkout the terminal opens; without a physical connection it
lets go of what it had. -/
def attach (c : ConnectionId) (pool : Option PoolId) (physical : Option PhysicalId) :
    Act Unit :=
  modify (·.modifyTerminal c fun _ =>
    match physical with
    | some x => { attachment := some ⟨pool, x⟩, closed := false }
    | none => {})

/-- The terminal lets go of what it is attached to, and counts as closed. -/
def detach (c : ConnectionId) : Act Unit :=
  modify (·.modifyTerminal c fun _ => {})

end Act

end PooledChain
