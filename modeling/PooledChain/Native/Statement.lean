/-
A statement on the driver's side.

It remembers how it was created, the parameters bound to it, the
commands collected for a batch, and whether it is closed. Parameters and
batch stay with the statement until they are cleared or run, whoever
uses it.
-/
import PooledChain.Native.Driver
import PooledChain.Text.Blank

namespace PooledChain.Native

/-- Connections are numbered from 1. -/
abbrev ConnectionId := Nat

/-- A statement of the driver, with what a caller has set up in it. -/
structure Statement where
  connection : ConnectionId
  kind : StatementKind
  /-- What it was prepared from; nothing for a plain statement. -/
  sql : Option String
  parameters : List Value := []
  batch : List String := []
  closed : Bool := false
  /-- How often it was asked to close. -/
  closeCalls : Nat := 0
  deriving DecidableEq, Repr, Inhabited

/-- What an operation on a statement answers. -/
inductive Answer
  | unit
  | bool (value : Bool)
  | rows (rows : Rows)
  | count (n : Nat)
  | counts (ns : List Nat)
  deriving DecidableEq, Repr, Inhabited

namespace Statement

/-- What a closed statement answers. -/
def closedError : DriverError := .other "statement is closed"

/-- Whether a SQL text asks for rows. -/
def asksForRows (sql : String) : Bool :=
  "select".toList.isPrefixOf ((Text.trimStart sql.toList).map Char.toLower)

/-- The result of every query: a one, then the bound parameters. -/
def result (s : Statement) : Rows :=
  ⟨["value"], [.int 1] :: s.parameters.map fun p => [p]⟩

/-- The SQL that an execution runs: the one given with it, else the
statement's own. -/
def textFor (s : Statement) (given : Option String) : Option String :=
  given.or s.sql

/-- Binds the parameter at `place`, counted from 0; places before it
that hold nothing yet are null. -/
def bind (s : Statement) (place : Nat) (value : Value) : Statement :=
  let padded := s.parameters ++ List.replicate (place + 1 - s.parameters.length) .null
  { s with parameters := padded.set place value }

/-- Runs the texts in order up to the first that fails. -/
def runAll (d : Driver) : List String → Except DriverError Unit × Driver
  | [] => (.ok (), d)
  | sql :: rest =>
    match d.execute sql with
    | (.ok (), d) => runAll d rest
    | failed => failed

/-- Runs one SQL text and answers with `answer`. -/
def run (d : Driver) (s : Statement) (given : Option String) (answer : String → Answer) :
    Except DriverError Answer × Driver :=
  if s.closed then (.error closedError, d)
  else match s.textFor given with
    | none => (.error (.other "no SQL text to execute"), d)
    | some sql =>
      match d.execute sql with
      | (.ok (), d) => (.ok (answer sql), d)
      | (.error e, d) => (.error e, d)

/-- Answers an operation; the statement and the driver change even where
it fails. Closing counts once, and binding does not ask whether the
statement is closed. -/
def perform (d : Driver) (s : Statement) : StatementOp →
    Except DriverError Answer × Driver × Statement
  | .execute sql =>
    let (r, d) := s.run d sql fun text => .bool (asksForRows text)
    (r, d, s)
  | .executeQuery sql =>
    let (r, d) := s.run d sql fun _ => .rows s.result
    (r, d, s)
  | .executeUpdate sql =>
    let (r, d) := s.run d sql fun _ => .count 1
    (r, d, s)
  | .addBatch sql =>
    if s.closed then (.error closedError, d, s)
    else (.ok .unit, d, { s with batch := s.batch ++ [(s.textFor sql).getD ""] })
  | .executeBatch =>
    if s.closed then (.error closedError, d, s)
    else
      let emptied := { s with batch := [] }
      match runAll d s.batch with
      | (.ok (), d) => (.ok (.counts (s.batch.map fun _ => 1)), d, emptied)
      | (.error e, d) => (.error e, d, emptied)
  | .setParameter 0 _ => (.error (.other "parameter indexes start at 1"), d, s)
  | .setParameter (place + 1) value => (.ok .unit, d, s.bind place value)
  | .clearParameters => (.ok .unit, d, { s with parameters := [] })
  | .close =>
    let asked := { s with closeCalls := s.closeCalls + 1 }
    if s.closed then (.ok .unit, d, asked)
    else
      (.ok .unit,
       { d with nativeCloses := d.nativeCloses + 1, openStatements := d.openStatements - 1 },
       { asked with closed := true })
  | .isClosed => (.ok (.bool s.closed), d, s)

/-- Gives up a statement that nothing refers to any more. One that was
not closed is no longer open, but nobody closed it. -/
def giveUp (d : Driver) (s : Statement) : Driver × Statement :=
  if s.closed then (d, s)
  else ({ d with openStatements := d.openStatements - 1 }, { s with closed := true })

/-- The call of a guarded statement that an operation makes. -/
def methodOf? : StatementOp → Option Method
  | .execute _ => some .execute
  | .executeQuery _ => some .executeQuery
  | .executeUpdate _ => some .executeUpdate
  | .addBatch _ => some .addBatch
  | .executeBatch => some .executeBatch
  | .setParameter _ _ => some .setParameter
  | .clearParameters => some .clearParameters
  | .close => some .statementClose
  | .isClosed => none

end Statement

end PooledChain.Native
