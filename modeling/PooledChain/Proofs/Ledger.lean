/-
A statement cache as its users know it: a list.

A ledger lists the statements that a cache keeps, the one put back last
in front, each with its SQL, its kind and the number that the driver
gave it (`Ledger.listed`). Beside it stands what was lent: the handles
that callers got, each with the statement that goes back to the list
when that handle is closed (`Ledger.lent`). A ledger knows neither
facades nor generations nor flags; what it is told of a step of a
session is one `Booking`, and `Ledger.book` says what becomes of it.

- A statement is asked for: if the list has it in the wanted kind, it is
  taken from the list and lent; if not, also when the list has the SQL
  in another kind, a new one is lent and the list stays.
- A handle is closed: what was lent with it goes to the front of the
  list, unless the SQL is listed already, and what no longer fits falls
  off the end.
- A handle fails for good: it is closed later like any other, but no
  longer goes back.
- A statement is closed by force: it leaves the list.
- The physical connection is gone: nothing is listed, and nothing that
  is out goes back.

`Session.booking` reads the booking off a step by what callers see of
it: the names of the session, whether the connection is closed, and what
was replied.
-/
import PooledChain.Proofs.Heap.Drained
import PooledChain.Proofs.Reuse

namespace PooledChain

-- ============================================================= the list

/-- A statement of the driver's, and what it was prepared from. -/
structure Entry where
  sql : String
  kind : StatementKind
  statement : Native.StatementId
  deriving DecidableEq, Repr

/-- Whether the driver made the statement of that SQL and of that kind. -/
def Entry.MadeIn (e : Entry) (s : Native.Store) : Prop :=
  ∃ st, s.statement? e.statement = some st ∧ st.kind = e.kind
    ∧ st.sql = some e.sql

/-- What somebody who only sees the calls and their answers can tell of a
cache: the statements that wait in it, and those that are lent out. -/
structure Ledger where
  /-- Put back last, listed first. -/
  listed : List Entry := []
  /-- By the handles whose closing puts them back. -/
  lent : Keyed LayerId Entry := .empty

/-- What a step means to a ledger. -/
inductive Booking
  | nothing
  /-- A statement is asked for. Callers may have kept a handle, and the
  next statement that the driver makes has the number `next`. -/
  | asked (sql : String) (kind : StatementKind) (handle : Option LayerId)
    (next : Native.StatementId)
  | closed (handle : LayerId)
  | spoiled (handle : LayerId)
  | removed (sql : String)
  | voided
  deriving DecidableEq, Repr

namespace Ledger

/-- The SQL texts that are listed. -/
def texts (l : Ledger) : List String := l.listed.map (·.sql)

/-- The statement listed for a SQL text, if it is of that kind. -/
def find? (l : Ledger) (sql : String) (kind : StatementKind) : Option Entry :=
  (l.listed.find? (·.sql == sql)).filter (·.kind == kind)

/-- Strikes a SQL text from the list. -/
def remove (l : Ledger) (sql : String) : Ledger :=
  { l with listed := l.listed.filter (·.sql != sql) }

/-- Notes a statement as lent, if callers have kept a handle for it. -/
def lend (l : Ledger) (handle : Option LayerId) (e : Entry) : Ledger :=
  match handle with
  | some id => { l with lent := l.lent.set id e }
  | none => l

@[simp] theorem listed_lend (l : Ledger) (handle : Option LayerId)
    (e : Entry) : (l.lend handle e).listed = l.listed := by
  cases handle <;> rfl

/-- A handle is lent what it was lent last. -/
theorem get?_lend (l : Ledger) (handle : Option LayerId) (e : Entry)
    (id : LayerId) : (l.lend handle e).lent.get? id
      = if handle = some id then some e else l.lent.get? id := by
  cases handle with
  | none => rw [if_neg fun h => by cases h]; rfl
  | some a =>
      show (l.lent.set a e).get? id = _
      rw [Keyed.get?_set]
      by_cases h : id = a
      · rw [if_pos h, if_pos (congrArg some h.symm)]
      · rw [if_neg h, if_neg fun he => h (Option.some.inj he).symm]

/-- The statement found is the first under its text, and of the kind. -/
theorem find?_eq_some {l : Ledger} {sql : String} {kind : StatementKind}
    {e : Entry} : l.find? sql kind = some e ↔
      l.listed.find? (·.sql == sql) = some e ∧ e.kind = kind := by
  rw [find?, Option.filter_eq_some_iff, beq_iff_eq]

/-- Puts a statement in front of the list. -/
def putBack (max : Nat) (l : Ledger) (e : Entry) : Ledger :=
  if e.sql ∈ l.texts then l else { l with listed := (e :: l.listed).take max }

/-- The ledger of a cache with room for `max` statements after a
booking. -/
def book (max : Nat) (l : Ledger) : Booking → Ledger
  | .nothing => l
  | .asked sql kind handle next =>
    match l.find? sql kind with
    | some e => (l.remove sql).lend handle e
    | none => l.lend handle ⟨sql, kind, next⟩
  | .closed handle =>
    match l.lent.get? handle with
    | some e => { l with lent := l.lent.erase handle }.putBack max e
    | none => l
  | .spoiled handle => { l with lent := l.lent.erase handle }
  | .removed sql => l.remove sql
  | .voided => {}

end Ledger

-- ============================================================= bookings

/-- The kind and the SQL of a statement that a step asks for, if it is
one for the cache. -/
def ConnectionStep.wanted? (config : CacheConfig) (step : ConnectionStep) :
    Option (StatementKind × String) := do
  let op ← step.asked?
  let kind ← op.creates?
  let sql ← op.sql?
  if config.kinds.contains kind then some (kind, sql) else none

/-- Whether a step leaves it at the connections that there are. -/
def Step.keepsConnections : Step → Bool
  | newConnection _ _ => false
  | dropConnection _ => false
  | _ => true

namespace Session

/-- The handle that a caller got in a step. -/
def granted? (s : Session) (step : Step) : Option LayerId :=
  match step with
  | .onConnection _ _ _ (.create _ handle) =>
    if (s.step step).1 = .unit then (s.step step).2.statements.lookup handle
    else none
  | .onConnection _ _ _ (.invoke _ handle) =>
    if (s.step step).1 = .bareStatement handle then
      (s.step step).2.statements.lookup handle
    else none
  | _ => none

/-- What a step on a connection with one cache means to its ledger. -/
def booking (s : Session) (config : CacheConfig) (step : Step) : Booking :=
  match step with
  | .onStatement name use =>
    match use.asked?, s.statements.lookup name with
    | some .close, some id => .closed id
    | some _, some id =>
      if (s.step step).1.isPermanentFailure then .spoiled id else .nothing
    | _, _ => .nothing
  | .onConnection pool physical name onConnection =>
    match s.target? pool physical name, onConnection with
    | none, _ => .nothing
    | some _, .disconnect _ _ => .voided
    | some _, .discard => .voided
    | some _, .forceClose sql => .removed sql
    | some (_, _, c, _), onConnection =>
      match onConnection.wanted? config with
      | some (kind, sql) =>
        if s.state.isClosedConnection c then .nothing
        else .asked sql kind (s.granted? step) s.state.native.statements.length
      | none => .nothing
  | _ => .nothing

/-- The ledger after some steps. -/
def ledger (config : CacheConfig) : Session → Ledger → List Step → Ledger
  | _, l, [] => l
  | s, l, step :: rest =>
    (s.step step).2.ledger config (l.book config.max (s.booking config step))
      rest

end Session

end PooledChain
