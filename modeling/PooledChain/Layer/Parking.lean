/-
Taking layers apart: retiring a facade, and closing for good one that
will not be handed out again.

The functions here and in the module on behaviours are given `below`,
the way to ask the layers under the one at hand. That keeps each of them
a statement about one layer; the whole stack is tied together where
statements are dispatched.
-/
import PooledChain.State.Basic

namespace PooledChain

/-- How the layers under the one at hand answer. -/
abbrev Below := LayerId → StatementOp → Act StatementReply

namespace Act

/-- The facade of that number. -/
def facade (id : LayerId) : Act Facade := do
  match (← get).facade? id with
  | some f => return f
  | none => throw (.closed .statement)

/-- Marks a facade closed and takes its delegate away, which is left as
it was. -/
def retire (id : LayerId) : Act (Option LayerId) := do
  match (← get).facade? id with
  | some f =>
    modify (·.setCore id (.facade { f with closed := true, delegate := none }))
    return f.delegate
  | none => return none

/-- Passes an operation to the delegate. -/
def forward (below : Below) (id : LayerId) (op : StatementOp) : Act StatementReply := do
  match (← facade id).delegate with
  | some d => below d op
  | none => throw (.closed .statement)

/-- Closes a layer under the one at hand. -/
def closeBelow (below : Below) (id : LayerId) : Act Unit := do
  let _ ← below id .close

/-- Closes what a facade held that will not be handed out again. A
failure is logged, for there is no caller to tell. -/
def discard (below : Below) (id : LayerId) : Act Unit := do
  let sql := (((← get).layer? id).bind (·.sql)).getD ""
  match ← retire id with
  | none => return ()
  | some d =>
    match ← attempt (closeBelow below d) with
    | .ok () => return ()
    | .error e => modify (·.warn (.closeFailed sql e.message))

/-- Parks the delegate of a closing facade in a cache, under a new
facade that nobody holds. If the store does not accept it, or is gone,
the delegate is closed; if the store was full, the statement that had to
go is closed. -/
def park (below : Below) (layer : Layer) (level : Nat) (cache : LinkId) (generation : Nat)
    (delegate : LayerId) : Act Unit := do
  let s ← get
  match s.caches.get? cache, layer.sql with
  | some store, some sql =>
    if store.accepts sql generation then
      let behaviour := Behaviour.cached cache generation false
      let core := Core.facade { level, delegate := some delegate, closed := false, behaviour }
      let (twin, s) := s.addLayer { layer with core }
      let (store, evicted) := store.park sql twin
      set { s with caches := s.caches.set cache store }
      match evicted with
      | some e => discard below e
      | none => return ()
    else closeBelow below delegate
  | _, _ => closeBelow below delegate

end Act

end PooledChain
