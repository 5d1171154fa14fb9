/-
What the calls of the driver do to its statements.

Four things can happen to the driver's statements in one call, and the
later proofs need to know no more about it:

- nothing is made and nothing is closed (`Store.Steady`): parameters,
  batches and scripts may have changed, and time may have passed;
- one statement is made (`Store.Made`), which is new, open and at the
  end of the store;
- one open statement is closed, which is counted, or, if the rules
  refused the call, given up (`run_dispose`);
- a call on a statement is refused by the rules, or runs on exactly that
  statement (`run_perform`).
-/
import PooledChain.Proofs.Act

namespace PooledChain.Native

variable {α β : Type}

-- ============================================ what a call leaves alone

/-- A statement without what its users left on it. -/
def Statement.bare (s : Statement) : Statement :=
  { s with parameters := [], batch := [] }

/-- Whether every connection asks the rules, or none does. -/
def Store.AllGuarded (s : Store) (guarded : Bool) : Prop :=
  ∀ c ∈ s.connections, c.guarded = guarded

/-- Nothing is made and nothing is closed on the way from `a` to `b`, no
connection goes, and those that are opened are guarded as those
before. -/
structure Store.Steady (g : Bool) (a b : Store) : Prop where
  statements : b.statements.map Statement.bare
    = a.statements.map Statement.bare
  creates : b.driver.creates = a.driver.creates
  prepares : b.driver.prepares = a.driver.prepares
  nativeCloses : b.driver.nativeCloses = a.driver.nativeCloses
  openStatements : b.driver.openStatements = a.driver.openStatements
  connections : a.connections.length ≤ b.connections.length
  guarded : a.AllGuarded g → b.AllGuarded g

namespace Store.Steady

variable {g : Bool}

theorem refl (a : Store) : Steady g a a :=
  ⟨rfl, rfl, rfl, rfl, rfl, Nat.le_refl _, fun h => h⟩

theorem trans {a b c : Store} (h₁ : Steady g a b) (h₂ : Steady g b c) :
    Steady g a c where
  statements := h₂.statements.trans h₁.statements
  creates := h₂.creates.trans h₁.creates
  prepares := h₂.prepares.trans h₁.prepares
  nativeCloses := h₂.nativeCloses.trans h₁.nativeCloses
  openStatements := h₂.openStatements.trans h₁.openStatements
  connections := Nat.le_trans h₁.connections h₂.connections
  guarded h := h₂.guarded (h₁.guarded h)

/-- A statement keeps all but its parameters and its batch. -/
theorem statement? {a b : Store} (h : Steady g a b) (n : StatementId) :
    (b.statement? n).map Statement.bare
      = (a.statement? n).map Statement.bare := by
  have := congrArg (·[n]?) h.statements
  simpa [Store.statement?] using this

/-- There are as many statements as before. -/
theorem length {a b : Store} (h : Steady g a b) :
    b.statements.length = a.statements.length := by
  simpa using congrArg List.length h.statements

/-- A statement is still there and as open as it was. -/
theorem exists_statement {a b : Store} (h : Steady g a b)
    {n : StatementId} {st : Statement} (hn : a.statement? n = some st) :
    ∃ st', b.statement? n = some st' ∧ st'.bare = st.bare := by
  have hb := h.statement? n
  rw [hn] at hb
  cases hc : b.statement? n with
  | none => rw [hc] at hb; simp at hb
  | some st' =>
      rw [hc] at hb
      exact ⟨st', rfl, by simpa using hb⟩

end Store.Steady

-- ================================================== scripts and rules

/-- Telling the driver what to do next makes and closes nothing. -/
theorem Store.steady_obey (g : Bool) (s : Store) (i : Instruction) :
    Steady g s (s.obey i) := by
  cases i <;> exact ⟨rfl, rfl, rfl, rfl, rfl, Nat.le_refl _, fun h => h⟩

theorem Store.steady_addRule (g : Bool) (s : Store) (r : Rule) :
    Steady g s (s.addRule r) :=
  ⟨rfl, rfl, rfl, rfl, rfl, Nat.le_refl _, fun h => h⟩

theorem Store.steady_clearRules (g : Bool) (s : Store) :
    Steady g s s.clearRules :=
  ⟨rfl, rfl, rfl, rfl, rfl, Nat.le_refl _, fun h => h⟩

/-- A new connection is guarded as it was asked for. -/
theorem Store.steady_connect (g : Bool) (s : Store) :
    Steady g s (s.connect g).2 := by
  refine ⟨rfl, rfl, rfl, rfl, rfl, ?_, fun h c hc => ?_⟩
  · rw [connect, List.length_append]
    exact Nat.le_add_right _ _
  · rcases List.mem_append.1 hc with hc | hc
    · exact h c hc
    · rw [List.mem_singleton.1 hc]

-- ============================================= calls on a connection

/-- A call after which nothing has been made and nothing closed, whether
it fails or not. -/
def Act.IsSteady (x : Act α) : Prop :=
  ∀ (g : Bool) (s : Store), Store.Steady g s (x.run s).2

namespace Act

theorem isSteady_bind {x : Act α} {f : α → Act β} (hx : x.IsSteady)
    (hf : ∀ a, (f a).IsSteady) : (x >>= f).IsSteady := by
  intro g s
  have h := hx g s
  rw [run_bind]
  rcases hr : x.run s with ⟨_ | a, t⟩
  · rw [hr] at h; exact h
  · rw [hr] at h; exact h.trans (hf a g t)

/-- A call that leaves the store as it is. -/
theorem isSteady_of_eq {x : Act α} (h : ∀ s, (x.run s).2 = s) :
    x.IsSteady := by
  intro g s
  rw [h s]
  exact .refl s

end Act

/-- Asking the rules changes nothing. -/
theorem run_guard (guarded : Bool) (m : Method) (subject : Option String)
    (s : Store) :
    (guard guarded m subject).run s
      = (if guarded then
          match s.refusal? m subject with
          | some e => .error e
          | none => .ok ⟨⟩
        else .ok ⟨⟩, s) := by
  cases guarded with
  | false => rfl
  | true =>
      simp only [guard, Act.run_bind, Act.run_get, if_true]
      cases s.refusal? m subject <;> rfl

/-- Looking a connection up changes nothing. -/
theorem run_connection (c : ConnectionId) (s : Store) :
    (connection c).run s
      = (match s.connection? c with
         | some connection => .ok connection
         | none => .error Connection.closedError, s) := by
  simp only [connection, Act.run_bind, Act.run_get]
  cases s.connection? c <;> rfl

/-- Getting hold of an open connection changes nothing. -/
theorem openConnection_state (c : ConnectionId) (m : Method)
    (subject : Option String) (s : Store) :
    ((openConnection c m subject).run s).2 = s := by
  simp only [openConnection, Act.run_bind, run_connection]
  cases s.connection? c with
  | none => rfl
  | some connection =>
      simp only [run_guard]
      split
      · next h =>
        obtain ⟨-, rfl⟩ := Prod.mk.inj h
        cases connection.closed <;> rfl
      · next h => exact (Prod.mk.inj h).2.symm

/-- Looking a connection up leaves the store as it is. -/
theorem eq_of_openConnection {c : ConnectionId} {m : Method}
    {subject : Option String} {s t : Store}
    {r : Except DriverError Connection}
    (h : (openConnection c m subject).run s = (r, t)) : t = s := by
  rw [← openConnection_state c m subject s, h]

theorem isSteady_openConnection (c : ConnectionId) (m : Method)
    (subject : Option String) : (openConnection c m subject).IsSteady :=
  Act.isSteady_of_eq (openConnection_state c m subject)

theorem isSteady_connection (c : ConnectionId) :
    (connection c).IsSteady :=
  Act.isSteady_of_eq fun s => by rw [run_connection]

theorem isSteady_guard (guarded : Bool) (m : Method)
    (subject : Option String) : (guard guarded m subject).IsSteady :=
  Act.isSteady_of_eq fun s => by rw [run_guard]

/-- A connection can be changed as long as it asks the rules as before. -/
theorem Store.steady_setConnection {g : Bool} {s : Store}
    {c : ConnectionId} {old new : Connection}
    (hc : s.connection? c = some old) (hg : new.guarded = old.guarded) :
    Steady g s (s.setConnection c new) := by
  refine ⟨rfl, rfl, rfl, rfl, rfl, ?_, fun h x hx => ?_⟩
  · exact Nat.le_of_eq List.length_set.symm
  · rcases List.mem_or_eq_of_mem_set hx with hx | rfl
    · exact h x hx
    · have hold : old ∈ s.connections := by
        cases c with
        | zero => cases hc
        | succ place => exact List.mem_of_getElem? hc
      rw [hg]
      exact h old hold

theorem isSteady_commit (c : ConnectionId) : (commit c).IsSteady :=
  Act.isSteady_bind (isSteady_openConnection _ _ _) fun _ _ s => .refl s

theorem isSteady_rollback (c : ConnectionId) : (rollback c).IsSteady :=
  Act.isSteady_bind (isSteady_openConnection _ _ _) fun _ _ s => .refl s

theorem isSteady_autoCommit (c : ConnectionId) :
    (autoCommit c).IsSteady :=
  Act.isSteady_bind (isSteady_openConnection _ _ _) fun _ _ s => .refl s

theorem isSteady_isValid (c : ConnectionId) : (isValid c).IsSteady :=
  Act.isSteady_bind (isSteady_connection c) fun _ =>
    Act.isSteady_bind (isSteady_guard _ _ _) fun _ _ s => .refl s

theorem isSteady_nativeSql (c : ConnectionId) (sql : String) :
    (nativeSql c sql).IsSteady := by
  refine Act.isSteady_bind (isSteady_connection c) fun connection g s => ?_
  cases connection.guarded <;> exact .refl s

/-- What an open connection is, once it was found. -/
theorem connection?_of_openConnection {c : ConnectionId} {m : Method}
    {subject : Option String} {s t : Store} {x : Connection}
    (h : (openConnection c m subject).run s = (.ok x, t)) :
    s.connection? c = some x ∧ t = s := by
  have ht : t = s := eq_of_openConnection h
  simp only [openConnection, Act.run_bind, run_connection] at h
  cases hc : s.connection? c with
  | none => rw [hc] at h; cases h
  | some connection =>
      rw [hc] at h
      simp only [run_guard] at h
      split at h
      · cases hcl : connection.closed with
        | true => rw [hcl] at h; cases h
        | false => rw [hcl] at h; cases h; exact ⟨rfl, ht⟩
      · cases h

theorem isSteady_setAutoCommit (c : ConnectionId) (enabled : Bool) :
    (setAutoCommit c enabled).IsSteady := by
  intro g s
  simp only [setAutoCommit, Act.run_bind]
  rcases h : (openConnection c .setAutoCommit none).run s with ⟨_ | x, t⟩
  · obtain rfl := eq_of_openConnection h
    exact .refl _
  · obtain ⟨hc, rfl⟩ := connection?_of_openConnection h
    exact Store.steady_setConnection hc rfl

theorem isSteady_closeConnection (c : ConnectionId) :
    (closeConnection c).IsSteady := by
  intro g s
  simp only [closeConnection, Act.run_bind, run_connection, run_guard]
  cases hc : s.connection? c with
  | none => exact .refl s
  | some x =>
      simp only
      split
      · next h =>
        obtain ⟨-, rfl⟩ := Prod.mk.inj h
        cases x.closed with
        | true => exact .refl _
        | false =>
            have hset := Store.steady_setConnection (g := g) hc
              (show { x with closed := true }.guarded = x.guarded from rfl)
            exact hset.trans
              ⟨rfl, rfl, rfl, rfl, rfl, Nat.le_refl _, fun h => h⟩
      · next h =>
        obtain ⟨-, rfl⟩ := Prod.mk.inj h
        exact .refl _

-- ================================================= making statements

/-- One statement of that kind and SQL is made on the way from `a` to
`b`: it is new, open, and the last of the store, and it belongs to a
connection that is there. -/
structure Store.Made (a b : Store) (kind : StatementKind)
    (sql : Option String) : Prop where
  statements : ∃ c, b.statements
      = a.statements ++ [{ connection := c, kind, sql }]
    ∧ ∃ x, a.connection? c = some x
  made : b.driver.creates + b.driver.prepares
    = a.driver.creates + a.driver.prepares + 1
  nativeCloses : b.driver.nativeCloses = a.driver.nativeCloses
  openStatements : b.driver.openStatements = a.driver.openStatements + 1
  connections : b.connections = a.connections

/-- A call that makes a statement of a kind, or fails and makes
nothing. -/
def Act.Makes (x : Act StatementId) (kind : StatementKind)
    (sql : Option String) : Prop :=
  ∀ s, match x.run s with
    | (.ok n, t) => n = s.statements.length ∧ s.Made t kind sql
    | (.error _, t) => ∀ g, Store.Steady g s t

/-- Creating a statement makes a plain one without SQL. -/
theorem makes_createStatement (c : ConnectionId) :
    (createStatement c).Makes .plain none := by
  intro s
  simp only [createStatement, Act.run_bind]
  rcases h : (openConnection c .createStatement none).run s with ⟨_ | x, t⟩
  · obtain rfl := eq_of_openConnection h
    exact fun _ => .refl _
  · obtain ⟨hc, rfl⟩ := connection?_of_openConnection h
    refine ⟨rfl, ⟨c, rfl, x, hc⟩, ?_, rfl, rfl, rfl⟩
    show t.driver.creates + 1 + t.driver.prepares = _
    omega

/-- Preparing makes a statement of that kind with that SQL. -/
theorem makes_prepare (c : ConnectionId) (kind : StatementKind)
    (sql : String) : (prepare c kind sql).Makes kind (some sql) := by
  intro s
  simp only [prepare, Act.run_bind]
  rcases h : (openConnection c (creationMethod kind) (some sql)).run s
    with ⟨_ | x, t⟩
  · obtain rfl := eq_of_openConnection h
    exact fun _ => .refl _
  · obtain ⟨hc, rfl⟩ := connection?_of_openConnection h
    simp only [Act.run_get]
    cases t.driver.prepareFailures.contains sql with
    | true => exact fun _ => .refl t
    | false => exact ⟨rfl, ⟨c, rfl, x, hc⟩, rfl, rfl, rfl, rfl⟩

-- ========================================== operations on a statement

/-- The failure by which the rules refuse an operation on a statement,
if its connection asks them. -/
def Store.refuses? (s : Store) (st : Statement) (op : StatementOp) :
    Option DriverError :=
  if ((s.connection? st.connection).map (·.guarded)).getD false then
    (Statement.methodOf? op).bind (s.refusal? · st.sql)
  else none

/-- Storing what became of an operation and handing on its result. -/
private theorem run_conclude (r : Except DriverError Answer)
    (s t : Store) :
    ((do
      set t
      match r with
      | .ok answer => pure answer
      | .error e => throw e) : Act Answer).run s = (r, t) := by
  cases r <;> rfl

/-- An operation on a statement is refused, or runs on that statement
and the driver alone. -/
theorem run_perform {n : StatementId} {s : Store} {st : Statement}
    (h : s.statement? n = some st) (op : StatementOp) :
    (perform n op).run s
      = match s.refuses? st op with
        | some e => (.error e, s)
        | none =>
          ((st.perform s.driver op).1,
           { s with
             driver := (st.perform s.driver op).2.1
             statements := s.statements.set n (st.perform s.driver op).2.2 }) := by
  unfold perform
  rw [Act.run_bind, Act.run_get]
  simp only [h]
  rw [Act.run_bind, Act.run_get, Store.refuses?]
  cases Statement.methodOf? op with
  | none =>
      rw [Option.bind_none, ite_self]
      simp only
      rw [Act.run_bind, Act.run_get]
      exact run_conclude ..
  | some m =>
      simp only [Option.bind_some]
      rw [Act.run_bind, run_guard]
      cases ((s.connection? st.connection).map (·.guarded)).getD false with
      | false =>
          simp only [Bool.false_eq_true, if_false]
          rw [Act.run_bind, Act.run_get]
          exact run_conclude ..
      | true =>
          simp only [if_true]
          cases s.refusal? m st.sql with
          | some e => rfl
          | none =>
              simp only
              rw [Act.run_bind, Act.run_get]
              exact run_conclude ..

/-- Where no connection asks the rules, they refuse nothing. -/
theorem Store.refuses?_of_unguarded {s : Store} (h : s.AllGuarded false)
    (st : Statement) (op : StatementOp) : s.refuses? st op = none := by
  have hg : ((s.connection? st.connection).map (·.guarded)).getD false
      = false := by
    cases hc : s.connection? st.connection with
    | none => rfl
    | some c =>
        refine h c ?_
        cases hn : st.connection with
        | zero => rw [hn] at hc; cases hc
        | succ place => rw [hn] at hc; exact List.mem_of_getElem? hc
  rw [Store.refuses?, hg]
  rfl

/-- Counters of statements that are the same in two drivers. -/
def Driver.SameCounts (a b : Driver) : Prop :=
  b.creates = a.creates ∧ b.prepares = a.prepares
    ∧ b.nativeCloses = a.nativeCloses
    ∧ b.openStatements = a.openStatements

namespace Driver

theorem SameCounts.refl (d : Driver) : d.SameCounts d :=
  ⟨rfl, rfl, rfl, rfl⟩

/-- Running SQL counts no statement made or closed. -/
theorem sameCounts_execute (d : Driver) (sql : String) :
    d.SameCounts (d.execute sql).2 := by
  simp only [execute]
  split <;> exact ⟨rfl, rfl, rfl, rfl⟩

theorem sameCounts_runAll (d : Driver) (sqls : List String) :
    d.SameCounts (Statement.runAll d sqls).2 := by
  induction sqls generalizing d with
  | nil => exact .refl d
  | cons sql rest ih =>
      have h₁ := sameCounts_execute d sql
      rw [Statement.runAll]
      rcases hx : d.execute sql with ⟨_ | _, d'⟩
      · rw [hx] at h₁; exact h₁
      · rw [hx] at h₁
        obtain ⟨h1, h2, h3, h4⟩ := ih d'
        exact ⟨h1.trans h₁.1, h2.trans h₁.2.1, h3.trans h₁.2.2.1,
          h4.trans h₁.2.2.2⟩

theorem sameCounts_run (d : Driver) (st : Statement)
    (given : Option String) (answer : String → Answer) :
    d.SameCounts (st.run d given answer).2 := by
  rw [Statement.run]
  split
  · exact .refl d
  · split
    · exact .refl d
    · next sql _ =>
      have h := sameCounts_execute d sql
      rcases hx : d.execute sql with ⟨_ | _, d'⟩ <;> rw [hx] at h <;> exact h

end Driver

/-- Nothing but closing touches the counters of statements, or more of
the statement than its parameters and its batch. -/
theorem Statement.perform_of_ne_close (d : Driver) (st : Statement)
    {op : StatementOp} (h : op ≠ .close) :
    d.SameCounts (st.perform d op).2.1
      ∧ (st.perform d op).2.2.bare = st.bare := by
  cases op with
  | close => exact absurd rfl h
  | execute sql => exact ⟨Driver.sameCounts_run .., rfl⟩
  | executeQuery sql => exact ⟨Driver.sameCounts_run .., rfl⟩
  | executeUpdate sql => exact ⟨Driver.sameCounts_run .., rfl⟩
  | addBatch sql =>
      rw [Statement.perform]
      split <;> exact ⟨.refl d, rfl⟩
  | executeBatch =>
      have hb := Driver.sameCounts_runAll d st.batch
      rw [Statement.perform]
      split
      · exact ⟨.refl d, rfl⟩
      · rcases hx : Statement.runAll d st.batch with ⟨_ | _, d'⟩ <;>
          rw [hx] at hb <;> exact ⟨hb, rfl⟩
  | setParameter index value =>
      cases index <;> exact ⟨.refl d, rfl⟩
  | clearParameters => exact ⟨.refl d, rfl⟩
  | isClosed => exact ⟨.refl d, rfl⟩

/-- Putting a statement back that differs in parameters and batch. -/
theorem map_bare_set {l : List Statement} {n : StatementId}
    {st st' : Statement} (h : l[n]? = some st) (hb : st'.bare = st.bare) :
    (l.set n st').map Statement.bare = l.map Statement.bare := by
  rw [List.map_set, hb]
  refine List.ext_getElem? fun i => ?_
  rw [List.getElem?_set]
  split
  · next hi =>
    subst hi
    obtain ⟨hlt, hst⟩ := List.getElem?_eq_some_iff.1 h
    simp [hlt, hst]
  · rfl

theorem isSteady_perform (n : StatementId) {op : StatementOp}
    (hop : op ≠ .close) : (perform n op).IsSteady := by
  intro g s
  cases h : s.statement? n with
  | none =>
      have hrun : (perform n op).run s = (.error Statement.closedError, s) := by
        unfold perform
        rw [Act.run_bind, Act.run_get]
        simp only [h]
        rfl
      rw [hrun]
      exact .refl s
  | some st =>
      rw [run_perform h]
      cases s.refuses? st op with
      | some e => exact .refl s
      | none =>
          obtain ⟨⟨h1, h2, h3, h4⟩, hb⟩ := st.perform_of_ne_close s.driver hop
          exact ⟨map_bare_set h hb, h1, h2, h3, h4, Nat.le_refl _,
            fun h => h⟩

-- ================================================= closing for good

/-- A statement that was closed by a call. -/
def Statement.shut (s : Statement) : Statement :=
  { s with closed := true, closeCalls := s.closeCalls + 1 }

/-- Closing an open statement for good: it is closed by a call, which is
counted, or given up if the rules refused the call. -/
theorem run_dispose {n : StatementId} {s : Store} {st : Statement}
    (h : s.statement? n = some st) (ho : st.closed = false) :
    (dispose n).run s
      = match s.refuses? st .close with
        | some e =>
          (.error e, { s with
            driver := { s.driver with
              openStatements := s.driver.openStatements - 1 }
            statements := s.statements.set n { st with closed := true } })
        | none =>
          (.ok ⟨⟩, { s with
            driver := { s.driver with
              nativeCloses := s.driver.nativeCloses + 1
              openStatements := s.driver.openStatements - 1 }
            statements := s.statements.set n st.shut }) := by
  have hrun : (dispose n).run s
      = (((perform n .close).run s).1.map fun _ => (),
         ((perform n .close).run s).2.giveUp n) := rfl
  have hlt : n < s.statements.length := (List.getElem?_eq_some_iff.1 h).1
  rw [hrun, run_perform h]
  cases s.refuses? st .close with
  | some e => simp [Store.giveUp, h, Statement.giveUp, ho, Except.map]
  | none =>
      simp [Store.giveUp, Store.statement?, Statement.perform, ho,
        Statement.giveUp, Statement.shut, Except.map, hlt]

-- ================================================= open statements

/-- Whether a statement is there and not closed. -/
def Store.HasOpen (s : Store) (n : StatementId) : Prop :=
  ∃ st, s.statement? n = some st ∧ st.closed = false

/-- An open statement is one of the store. -/
theorem Store.HasOpen.lt {s : Store} {n : StatementId}
    (h : s.HasOpen n) : n < s.statements.length := by
  obtain ⟨st, hst, -⟩ := h
  exact (List.getElem?_eq_some_iff.1 hst).1

/-- The open statements are the ones that were open. -/
theorem Store.Steady.hasOpen_iff {g : Bool} {a b : Store}
    (h : Steady g a b) (n : StatementId) : b.HasOpen n ↔ a.HasOpen n := by
  have hb := h.statement? n
  rw [HasOpen, HasOpen]
  cases ha : a.statement? n with
  | none =>
      rw [ha] at hb
      cases hb' : b.statement? n with
      | none => simp
      | some st' => rw [hb'] at hb; cases hb
  | some st =>
      obtain ⟨st', hst', hbare⟩ := h.exists_statement ha
      rw [hst']
      have hc : st'.bare.closed = st.bare.closed := by rw [hbare]
      have hc' : st'.closed = st.closed := hc
      simp [hc']

/-- There is one statement more. -/
theorem Store.Made.length {a b : Store} {kind : StatementKind}
    {sql : Option String} (h : a.Made b kind sql) :
    b.statements.length = a.statements.length + 1 := by
  obtain ⟨c, hs, -⟩ := h.statements
  rw [hs, List.length_append, List.length_singleton]

/-- All other statements are as they were. -/
theorem Store.Made.statement? {a b : Store} {kind : StatementKind}
    {sql : Option String} (h : a.Made b kind sql) {m : StatementId}
    (hm : m ≠ a.statements.length) : b.statement? m = a.statement? m := by
  obtain ⟨c, hs, -⟩ := h.statements
  rw [Store.statement?, hs]
  rcases Nat.lt_or_gt_of_ne hm with hlt | hgt
  · exact List.getElem?_append_left hlt
  · rw [Store.statement?, List.getElem?_eq_none (Nat.le_of_lt hgt)]
    refine List.getElem?_eq_none ?_
    rw [List.length_append, List.length_singleton]
    exact hgt

/-- What is made is open, and nothing else opens or closes. -/
theorem Store.Made.hasOpen_iff {a b : Store} {kind : StatementKind}
    {sql : Option String} (h : a.Made b kind sql) (m : StatementId) :
    b.HasOpen m ↔ a.HasOpen m ∨ m = a.statements.length := by
  by_cases hm : m = a.statements.length
  · obtain ⟨c, hs, -⟩ := h.statements
    refine ⟨fun _ => .inr hm, fun _ => ?_⟩
    subst hm
    exact ⟨_, by rw [Store.statement?, hs, List.getElem?_concat_length], rfl⟩
  · rw [HasOpen, HasOpen, h.statement? hm]
    simp [hm]

/-- Closing an open statement for good leaves the others as they are. -/
theorem statement?_dispose {n : StatementId} {s : Store}
    (h : s.HasOpen n) {m : StatementId} (hm : m ≠ n) :
    ((dispose n).run s).2.statement? m = s.statement? m := by
  obtain ⟨st, hst, ho⟩ := h
  have hm' : n ≠ m := fun h => hm h.symm
  rw [run_dispose hst ho]
  split <;> simp [Store.statement?, List.getElem?_set_ne hm']

/-- However it ends, what is closed for good is not open after it. -/
theorem not_hasOpen_dispose (n : StatementId) (s : Store) :
    ¬ ((dispose n).run s).2.HasOpen n := by
  have hrun : ((dispose n).run s).2 = ((perform n .close).run s).2.giveUp n :=
    rfl
  rw [hrun]
  generalize ((perform n .close).run s).2 = t
  intro ⟨st, hst, ho⟩
  cases hold : t.statement? n with
  | none =>
      have hgive : t.giveUp n = t := by
        unfold Store.giveUp
        simp only [hold]
      rw [hgive, hold] at hst
      cases hst
  | some old =>
      have hlt := (List.getElem?_eq_some_iff.1 hold).1
      have hgive : (t.giveUp n).statement? n
          = some (old.giveUp t.driver).2 := by
        unfold Store.giveUp
        simp only [hold]
        exact List.getElem?_set_self hlt
      rw [hgive] at hst
      cases hst
      unfold Statement.giveUp at ho
      cases hc : old.closed <;> simp [hc] at ho

/-- What is closed for good is not open, and nothing else closes. -/
theorem hasOpen_dispose {n : StatementId} {s : Store} (h : s.HasOpen n)
    (m : StatementId) :
    ((dispose n).run s).2.HasOpen m ↔ s.HasOpen m ∧ m ≠ n := by
  by_cases hm : m = n
  · subst hm
    obtain ⟨st, hst, ho⟩ := h
    have hlt : m < s.statements.length :=
      (List.getElem?_eq_some_iff.1 hst).1
    rw [Store.HasOpen, run_dispose hst ho]
    split <;> simp [Store.statement?, Statement.shut, hlt]
  · rw [Store.HasOpen, statement?_dispose h hm]
    simp [hm, Store.HasOpen]

-- ======================================== what statements are made from

/-- What a statement is of, for ever. -/
def Statement.origin (st : Statement) :
    ConnectionId × StatementKind × Option String :=
  (st.connection, st.kind, st.sql)

/-- Every statement is of what it was of. -/
theorem Store.Steady.origins {g : Bool} {a b : Store}
    (h : Steady g a b) :
    b.statements.map Statement.origin = a.statements.map Statement.origin := by
  have hbare : Statement.origin = Statement.origin ∘ Statement.bare := rfl
  rw [hbare, ← List.map_map, ← List.map_map, h.statements]

/-- The new statement's origin comes last, with a connection that is
there. -/
theorem Store.Made.origins {a b : Store} {kind : StatementKind}
    {sql : Option String} (h : a.Made b kind sql) :
    ∃ c, (∃ x, a.connection? c = some x)
      ∧ b.statements.map Statement.origin
        = a.statements.map Statement.origin ++ [(c, kind, sql)] := by
  obtain ⟨c, hs, hx⟩ := h.statements
  refine ⟨c, hx, ?_⟩
  rw [hs, List.map_append]
  rfl

/-- Closing a statement changes no origin and no connection. -/
theorem origins_dispose {n : StatementId} {s : Store} (h : s.HasOpen n) :
    ((dispose n).run s).2.statements.map Statement.origin
        = s.statements.map Statement.origin
      ∧ ((dispose n).run s).2.connections = s.connections := by
  obtain ⟨st, hst, ho⟩ := h
  have hset : ∀ st' : Statement, st'.origin = st.origin →
      (s.statements.set n st').map Statement.origin
        = s.statements.map Statement.origin := by
    intro st' he
    rw [List.map_set, he]
    obtain ⟨hlt, hn⟩ := List.getElem?_eq_some_iff.1 hst
    rw [← hn, ← List.getElem_map Statement.origin (h := by
      rw [List.length_map]; exact hlt)]
    exact List.set_getElem_self _
  rw [run_dispose hst ho]
  split
  · exact ⟨hset _ rfl, rfl⟩
  · exact ⟨hset _ rfl, rfl⟩

/-- A call that makes no statement but of that connection. -/
def Act.MakesOn (x : Act α) (c : ConnectionId) : Prop :=
  ∀ s : Store, ∃ new, (x.run s).2.statements.map Statement.origin
      = s.statements.map Statement.origin ++ new ∧ ∀ o ∈ new, o.1 = c

/-- A call that makes nothing makes nothing on other connections. -/
theorem Act.IsSteady.makesOn {x : Act α} (h : x.IsSteady)
    (c : ConnectionId) : x.MakesOn c := fun s =>
  ⟨[], by rw [(h false s).origins, List.append_nil], fun o ho => by cases ho⟩

/-- Creating a statement makes it on the connection that is asked. -/
theorem makesOn_createStatement (c : ConnectionId) :
    (createStatement c).MakesOn c := by
  intro s
  simp only [createStatement, Act.run_bind]
  rcases h : (openConnection c .createStatement none).run s with ⟨_ | x, t⟩
  · obtain rfl := eq_of_openConnection h
    exact ⟨[], (List.append_nil _).symm, fun o ho => by cases ho⟩
  · obtain ⟨-, rfl⟩ := connection?_of_openConnection h
    exact ⟨[(c, .plain, none)], List.map_append, fun o ho => by
      rw [List.mem_singleton.1 ho]⟩

/-- Preparing a statement makes it on the connection that is asked. -/
theorem makesOn_prepare (c : ConnectionId) (kind : StatementKind)
    (sql : String) : (prepare c kind sql).MakesOn c := by
  intro s
  simp only [prepare, Act.run_bind]
  rcases h : (openConnection c (creationMethod kind) (some sql)).run s
    with ⟨_ | x, t⟩
  · obtain rfl := eq_of_openConnection h
    exact ⟨[], (List.append_nil _).symm, fun o ho => by cases ho⟩
  · obtain ⟨-, rfl⟩ := connection?_of_openConnection h
    simp only [Act.run_get]
    cases t.driver.prepareFailures.contains sql with
    | true => exact ⟨[], (List.append_nil _).symm, fun o ho => by cases ho⟩
    | false =>
        exact ⟨[(c, kind, some sql)], List.map_append, fun o ho => by
          rw [List.mem_singleton.1 ho]⟩

end PooledChain.Native
