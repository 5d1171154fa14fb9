/-
A connection that is ready to be used: a driver, a pool, one physical
connection, and a chain checked out on it. The statements that its user
prepared and did not close are kept, the newest first.
-/
import PooledChain.Session.View

namespace PooledChain

/-- One connection of one pool, and the statements that were prepared on
it. -/
structure Fixture where
  state : State
  pool : PoolId
  physical : PhysicalId
  connection : ConnectionId
  /-- Newest first. -/
  statements : List LayerId
  deriving Repr

/-- What can be done with the connection. -/
inductive FixtureStep
  | checkOut
  | checkIn
  | discard
  | close
  /-- Closes the newest statement and lets go of it. -/
  | closeStatement
  | prepare (sql : String)
  deriving DecidableEq, Repr, Inhabited

/-- What can be seen from outside. -/
structure FixtureView where
  counters : List Nat
  returns : Nat
  checkouts : Nat
  closed : Bool
  cached : Option (List String)
  deriving DecidableEq, Repr, Inhabited

namespace Fixture

/-- Runs an act and keeps its result. -/
def run {α : Type} (f : Fixture) (act : Act α) : Except Error α × Fixture :=
  let (result, state) := act.run f.state
  (result, { f with state })

/-- A fixture with such links, its connection checked out. -/
def start (links : List Link) : Fixture :=
  let (pool, state) := State.newPool {}
  let (physical, state) := state.newPhysical false
  let (connection, state) := state.newConnection links
  let f : Fixture := { state, pool, physical, connection, statements := [] }
  (f.run (Act.checkOut connection pool physical)).2

/-- A step without the clearing up after it. What a user of the fixture
would see of it is given where there is something to see. -/
def act (f : Fixture) : FixtureStep → Option (Except Error Unit) × Fixture
  | .checkOut => (none, (f.run (Act.checkOut f.connection f.pool f.physical)).2)
  | .checkIn => (none, (f.run (Act.checkIn f.connection)).2)
  | .discard => (none, (f.run (Act.discardConnection f.connection f.pool f.physical)).2)
  | .close =>
    let (result, f) := f.run (Act.runOp f.connection .close)
    (some result, f)
  | .closeStatement =>
    match f.statements with
    | [] => (none, f)
    | id :: rest => (none, { (f.run (Act.closeStatement id)).2 with statements := rest })
  | .prepare sql =>
    match f.run (Act.statementOf f.connection (.prepareStatement sql)) with
    | (.ok id, f) => (some (.ok ()), { f with statements := id :: f.statements })
    | (.error e, f) => (some (.error e), f)

/-- What a step answers, and the fixture after it; what nothing refers to
any more is released. -/
def step (f : Fixture) (step : FixtureStep) : Option (Except Error Unit) × Fixture :=
  let (result, f) := f.act step
  (result, { f with state := f.state.release f.statements })

/-- The counters of the driver and the pool, and what the cache holds. -/
def view (f : Fixture) : FixtureView :=
  let links := ((f.state.connection? f.connection).map (·.links)).getD []
  { counters := f.state.native.driver.counters
    returns := f.state.returns.length
    checkouts := ((f.state.physical? f.physical).map (·.checkouts)).getD 0
    closed := f.state.isClosedConnection f.connection
    cached := (firstLink? Link.isCache links).map fun (_, place) =>
      (f.state.cacheView ⟨f.connection, place⟩).2 }

end Fixture

end PooledChain
