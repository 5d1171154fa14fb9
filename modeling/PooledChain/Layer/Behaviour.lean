/-
What each kind of facade does of its own accord.

There are three occasions: an operation on the open facade (`invoke`),
its closing (`closeDelegate`), and a failure on its way up to the caller
(`report`). A facade without a say in the matter forwards the operation,
closes its delegate, and lets the failure pass.
-/
import PooledChain.Layer.Parking

namespace PooledChain

namespace Act

/-- The text that an execution is recorded under: the SQL the statement
was made from, else the SQL given with the operation. A batch without
either has a name of its own. -/
def recordKey? (own : Option String) (op : StatementOp) : Option String :=
  (own.or op.sql?).or (if op = .executeBatch then some "batch" else none)

/-- The greatest duration that is told apart. -/
def maxDuration : Nat := 18446744073709551615

/-- Records an execution that took `elapsed` milliseconds, if it took
long enough, and logs it if that is wanted. -/
def recordExecution (table : Statistics.TableId) (config : RecorderConfig) (sql : String)
    (elapsed started : Nat) : Act Unit := do
  if config.records elapsed then
    modify fun s => { s with
      statistics := s.statistics.record table sql (UInt64.ofNat elapsed)
        (.ofMilliseconds started) }
    if config.logSlow && decide (0 ≤ config.threshold) then
      let pool := (((← get).statistics.table? table).map (·.pool)).getD 0
      modify (·.warn (.slowQuery pool
        (String.ofList (config.sanitization.apply sql.toList)) config.threshold))

/-- Forwards an operation; an execution that succeeds is timed and
recorded. -/
def timed (below : Below) (id : LayerId) (own : Option String)
    (table : Statistics.TableId) (config : RecorderConfig) (op : StatementOp) :
    Act StatementReply := do
  if op.isExecution then
    let started := (← get).native.driver.clock
    let reply ← forward below id op
    let elapsed := min ((← get).native.driver.clock - started) maxDuration
    if let some sql := recordKey? own op then
      recordExecution table config sql elapsed started
    return reply
  else forward below id op

/-- An operation on an open facade, other than closing it. -/
def invoke (below : Below) (id : LayerId) (own : Option String) (behaviour : Behaviour)
    (op : StatementOp) : Act StatementReply :=
  match behaviour with
  | .recording table config => timed below id own table config op
  | .watched label answered => do
    modify (·.note label (.invoked op.name op.sql? own))
    if answered.contains op.name then return .unit
    else forward below id op
  | _ => forward below id op

/-- Closing a facade whose delegate has just been taken from it. -/
def closeDelegate (below : Below) (id : LayerId) (layer : Layer) (f : Facade)
    (delegate : LayerId) : Act Unit :=
  match f.behaviour with
  | .plain => closeBelow below delegate
  | .recording _ _ => closeBelow below delegate
  | .cached cache generation broken => do
    if broken then closeBelow below delegate
    else if (← get).isClosed delegate then return ()
    else park below layer f.level cache generation delegate
  | .tracked tracker entry => do
    modify fun s => { s with trackers := s.trackers.modify tracker fun t =>
      { t with entries := t.entries.filter (·.1 != entry) } }
    closeBelow below delegate
  | .counting counter => do
    modify fun s => { s with counters := s.counters.modify counter fun t =>
      { t with closed := t.closed + 1 } }
    closeBelow below delegate
  | .watched label _ => do
    let s ← get
    let gone := ((s.facade? id).bind (·.delegate)).isNone
    modify (·.note label (.closing layer.sql (s.isClosed delegate) gone))
    closeBelow below delegate

/-- A failure on its way up through a facade. One that is permanent
breaks a cached statement for good. -/
def report (id : LayerId) (own : Option String) (e : Error) : Act Unit := do
  match (← get).facade? id with
  | none => return ()
  | some f =>
    match f.behaviour with
    | .cached cache generation _ =>
      if e.isPermanent then
        modify (·.setCore id (.facade { f with behaviour := .cached cache generation true }))
    | .watched label _ => modify (·.note label (.failure own e.message))
    | _ => return ()

end Act

end PooledChain
