/-
Asking a statement.

An operation enters at the layer that the caller holds and travels down
as far as the facades let it. A closed facade refuses everything but
closing, which it answers without doing anything, and the question
whether it is closed. Rows that come up are stamped by every facade they
pass, so the caller reads its own handle on them; a failure comes up
unchanged.

The level of a layer bounds how far an operation can travel: `within`
is given that many layers to go.
-/
import PooledChain.Layer.Behaviour

namespace PooledChain

namespace Act

-- ================================================ one layer

/-- A native handle lets go of its statement before it closes it, so a
statement is closed once even if closing fails. -/
def askNative (id : LayerId) (handle : Option Native.StatementId) (op : StatementOp) :
    Act StatementReply :=
  match op, handle with
  | .isClosed, _ => pure (.bool handle.isNone)
  | .close, none => pure .unit
  | .close, some n => do
    modify (·.setCore id (.native none))
    native (Native.dispose n)
    return .unit
  | _, none => throw (.closed .statement)
  | op, some n => do
    return .ofNative (← native (Native.perform n op))

/-- Closes a facade. It lets go of its delegate, which is then closed or
parked; a closed one does nothing. -/
def closeFacade (below : Below) (id : LayerId) (layer : Layer) (f : Facade) :
    Act StatementReply := do
  if f.closed then return .unit
  else
    modify (·.setCore id (.facade { f with closed := true, delegate := none }))
    match f.delegate with
    | none => return .unit
    | some d =>
      closeDelegate below id layer f d
      return .unit

/-- Rows are stamped with the facade they pass. -/
def stamp (id : LayerId) : StatementReply → StatementReply
  | .rows rows _ => .rows rows (some id)
  | reply => reply

/-- Does anything but closing on a facade that is open. Rows lead back to
the facade, and a failure is told to what the facade is for. -/
def useFacade (below : Below) (id : LayerId) (layer : Layer) (f : Facade) (op : StatementOp) :
    Act StatementReply := do
  if f.closed then throw (.closed .statement)
  else
    match ← attempt (invoke below id layer.sql f.behaviour op) with
    | .ok reply => return stamp id reply
    | .error e =>
      report id layer.sql e
      throw e

/-- What a facade does with an operation. -/
def askFacade (below : Below) (id : LayerId) (layer : Layer) (f : Facade) (op : StatementOp) :
    Act StatementReply :=
  match op with
  | .close => closeFacade below id layer f
  | .isClosed => do return .bool ((← get).isClosed id)
  | op => useFacade below id layer f op

/-- One layer's answer, given how the layers under it answer. -/
def ask (below : Below) : Below := fun id op => do
  match (← get).layer? id with
  | none => throw (.closed .statement)
  | some layer =>
    match layer.core with
    | .native handle => askNative id handle op
    | .facade f => askFacade below id layer f op
    | .released => throw (.closed .statement)

-- ================================================ the whole stack

/-- The answer of a layer of at most that level. -/
def within : Nat → Below
  | 0 => ask fun _ _ => throw (.closed .statement)
  | level + 1 => ask (within level)

/-- The answer of a statement to an operation. -/
def dispatch (id : LayerId) (op : StatementOp) : Act StatementReply := do
  within ((← get).core id).level id op

/-- How the layers under a statement answer. -/
def under (id : LayerId) : Act Below := do
  return within (((← get).core id).level - 1)

/-- Closes a statement for its caller. -/
def closeStatement (id : LayerId) : Act Unit := do
  let _ ← dispatch id .close

/-- Closes for good a parked statement that left its cache. -/
def discardParked (id : LayerId) : Act Unit := do
  discard (← under id) id

/-- Passes an operation to the delegate of a facade. -/
def forwardStatement (id : LayerId) (op : StatementOp) : Act StatementReply := do
  forward (← under id) id op

end Act

end PooledChain
