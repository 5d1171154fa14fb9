/-
An operation on its way down a chain.

An operation enters at the first link. Each link answers it or passes it
to the links below, perhaps changed, and what is passed by the last link
is answered by the terminal.
-/
import PooledChain.Chain.Decoration

namespace PooledChain

namespace Act

/-- What an answering link says. -/
def canned (c : ConnectionId) (op : ConnectionOp) : Canned → Act ConnectionReply
  | .bool b => pure (.bool b)
  | .unit => pure .unit
  | .text t => pure (.text t)
  | .fail e => throw (.driver e)
  | .terminal => askTerminal c op

/-- One link's answer, given how the links below it answer. -/
def askLink (link : Link) (self : LinkId) (next : Next) (op : ConnectionOp) :
    Act ConnectionReply :=
  match link with
  | .bare => next op
  | .probe label => do
    modify (·.note label (.operation op.name op.sql?))
    next op
  | .prepending text => next (op.prepend text)
  | .answering answers =>
    match answers.lookup op.name with
    | some answer => canned self.connection op answer
    | none => next op
  | .cache config => throughCache config self next op
  | _ => intercept link self next op

/-- The answer of the links `links`, the lowest of the chain of `c`. -/
def askLinks (c : ConnectionId) : List Link → Next
  | [] => askTerminal c
  | link :: rest => askLink link ⟨c, rest.length⟩ (askLinks c rest)

/-- The answer of a connection to an operation. -/
def invokeOp (c : ConnectionId) (op : ConnectionOp) : Act ConnectionReply := do
  match (← get).connection? c with
  | some connection => askLinks c connection.links op
  | none => throw (.closed .connection)

-- ================================================ operations by name

/-- The statement that an operation makes. -/
def statementOf (c : ConnectionId) (op : ConnectionOp) : Act LayerId := do
  (← invokeOp c op).toStatement op.name

/-- The answer to a question that is to be answered with yes or no. -/
def boolOf (c : ConnectionId) (op : ConnectionOp) : Act Bool := do
  (← invokeOp c op).toBool op.name

/-- The text that an operation answers with. -/
def textOf (c : ConnectionId) (op : ConnectionOp) : Act String := do
  (← invokeOp c op).toText op.name

/-- The physical connection that an operation answers with. -/
def physicalOf (c : ConnectionId) (op : ConnectionOp) : Act PhysicalId := do
  (← invokeOp c op).toPhysical op.name

/-- Any reply is as good as any other. -/
def runOp (c : ConnectionId) (op : ConnectionOp) : Act Unit := do
  let _ ← invokeOp c op

/-- The number of the driver's connection behind a pooled one. -/
def nativeNumber (c : ConnectionId) : Act Nat := do
  let target := WrapTarget.native Native.connectionTypeName
  let x ← physicalOf c (.unwrap target)
  let s ← get
  match (s.physical? x).bind fun p =>
      (s.native.connection? p.native).bind fun n => n.typeName?.map fun _ => p.native with
  | some n => return n
  | none => throw (.notAWrapper target.typeName)

end Act

end PooledChain
