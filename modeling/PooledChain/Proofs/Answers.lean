/-
What a statement of the driver answers.

The answers to a sequence of operations depend on what the statement was
made from, on the parameters and commands that its users left on it, on
the script, and on whether its connection asks the rules. They depend
neither on its number nor on the driver's books, nor on any other
statement. So two statements that agree in these (`Store.Mirrors`) give
the same answers (`Mirrors.answers`), whatever stores they are in.

In particular a statement answers like one that is prepared from its SQL
now and carries what was left on it (`mirrors_prepare`).
-/
import PooledChain.Proofs.Native

namespace PooledChain.Native

variable {s t : Store} {n m : StatementId} {op : StatementOp}

/-- The answers of a statement to operations, one after the other. -/
def answers (n : StatementId) :
    List StatementOp → Store → List (Except DriverError Answer)
  | [], _ => []
  | op :: rest, s =>
    ((perform n op).run s).1 :: answers n rest ((perform n op).run s).2

/-- A store in which a statement carries these parameters, and these
commands for its next batch. -/
def Store.leave (s : Store) (n : StatementId) (parameters : List Value)
    (batch : List String) : Store :=
  { s with statements := s.statements.modify n fun st =>
      { st with parameters, batch } }

-- ===================================================== one statement

/-- Whether two statements differ in nothing that an answer depends
on. -/
structure Statement.Same (a b : Statement) : Prop where
  sql : b.sql = a.sql
  parameters : b.parameters = a.parameters
  batch : b.batch = a.batch
  closed : b.closed = a.closed

variable {d d' : Driver} {st st' : Statement}

/-- Executing asks the script for a failure, and leaves the script as it
is. -/
theorem Driver.execute_same
    (hd : d'.executionFailures = d.executionFailures) (sql : String) :
    (d'.execute sql).1 = (d.execute sql).1
      ∧ (d.execute sql).2.executionFailures = d.executionFailures
      ∧ (d'.execute sql).2.executionFailures = d.executionFailures := by
  simp only [execute, hd]
  cases d.executionFailures.lookup sql with
  | none => exact ⟨rfl, rfl, rfl⟩
  | some f => exact ⟨rfl, rfl, rfl⟩

namespace Statement

/-- What SQL texts answer one after another depends on the failures that the
driver was told of, and changes none of them. -/
theorem runAll_same (hd : d'.executionFailures = d.executionFailures)
    (sqls : List String) :
    (runAll d' sqls).1 = (runAll d sqls).1
      ∧ (runAll d sqls).2.executionFailures = d.executionFailures
      ∧ (runAll d' sqls).2.executionFailures = d.executionFailures := by
  induction sqls generalizing d d' with
  | nil => exact ⟨rfl, rfl, hd⟩
  | cons sql rest ih =>
      obtain ⟨hr, h₁, h₂⟩ := Driver.execute_same hd sql
      rw [runAll, runAll]
      rcases he : d.execute sql with ⟨e | ⟨⟩, u⟩
      · rcases he' : d'.execute sql with ⟨e' | ⟨⟩, u'⟩
        · rw [he, he'] at hr
          rw [he] at h₁
          rw [he'] at h₂
          exact ⟨hr, h₁, h₂⟩
        · rw [he, he'] at hr
          cases hr
      · rcases he' : d'.execute sql with ⟨e' | ⟨⟩, u'⟩
        · rw [he, he'] at hr
          cases hr
        · rw [he] at h₁
          rw [he'] at h₂
          obtain ⟨hr', h₃, h₄⟩ := ih (h₂.trans h₁.symm)
          exact ⟨hr', h₃.trans h₁, h₄.trans h₁⟩

/-- An execution answers alike on two statements that were set up alike. -/
theorem run_same (hd : d'.executionFailures = d.executionFailures)
    (hs : st.Same st') (given : Option String) (answer : String → Answer) :
    (st'.run d' given answer).1 = (st.run d given answer).1
      ∧ (st.run d given answer).2.executionFailures = d.executionFailures
      ∧ (st'.run d' given answer).2.executionFailures
        = d.executionFailures := by
  rw [run, run, hs.closed, textFor, textFor, hs.sql]
  split
  · exact ⟨rfl, rfl, hd⟩
  · cases given.or st.sql with
    | none => exact ⟨rfl, rfl, hd⟩
    | some sql =>
        obtain ⟨hr, h₁, h₂⟩ := Driver.execute_same hd sql
        simp only
        rcases he : d.execute sql with ⟨e | ⟨⟩, u⟩
        · rcases he' : d'.execute sql with ⟨e' | ⟨⟩, u'⟩
          · rw [he, he'] at hr
            rw [he] at h₁
            rw [he'] at h₂
            cases hr
            exact ⟨rfl, h₁, h₂⟩
          · rw [he, he'] at hr
            cases hr
        · rcases he' : d'.execute sql with ⟨e' | ⟨⟩, u'⟩
          · rw [he, he'] at hr
            cases hr
          · rw [he] at h₁
            rw [he'] at h₂
            exact ⟨rfl, h₁, h₂⟩

/-- What an operation answers, and what it leaves behind, is the same. -/
theorem perform_same (hd : d'.executionFailures = d.executionFailures)
    (hs : st.Same st') (op : StatementOp) :
    (st'.perform d' op).1 = (st.perform d op).1
      ∧ (st'.perform d' op).2.1.executionFailures
        = (st.perform d op).2.1.executionFailures
      ∧ (st.perform d op).2.2.Same (st'.perform d' op).2.2 := by
  have hresult : st'.result = st.result := by
    rw [result, result, hs.parameters]
  cases op with
  | execute sql =>
      obtain ⟨hr, h₁, h₂⟩ :=
        run_same hd hs sql fun text => .bool (asksForRows text)
      exact ⟨hr, h₂.trans h₁.symm, hs⟩
  | executeQuery sql =>
      obtain ⟨hr, h₁, h₂⟩ := run_same hd hs sql fun _ => .rows st.result
      rw [perform, perform, hresult]
      exact ⟨hr, h₂.trans h₁.symm, hs⟩
  | executeUpdate sql =>
      obtain ⟨hr, h₁, h₂⟩ := run_same hd hs sql fun _ => .count 1
      exact ⟨hr, h₂.trans h₁.symm, hs⟩
  | addBatch sql =>
      rw [perform, perform, hs.closed]
      split
      · exact ⟨rfl, hd, hs⟩
      · refine ⟨rfl, hd, hs.sql, hs.parameters, ?_, rfl⟩
        simp only [textFor, hs.sql, hs.batch]
  | executeBatch =>
      rw [perform, perform, hs.closed, hs.batch]
      split
      · exact ⟨rfl, hd, hs⟩
      · obtain ⟨hr, h₁, h₂⟩ := runAll_same hd st.batch
        rcases he : runAll d st.batch with ⟨e | ⟨⟩, u⟩
        · rcases he' : runAll d' st.batch with ⟨e' | ⟨⟩, u'⟩
          · rw [he, he'] at hr
            rw [he] at h₁
            rw [he'] at h₂
            cases hr
            exact ⟨rfl, h₂.trans h₁.symm, hs.sql, hs.parameters, rfl, rfl⟩
          · rw [he, he'] at hr
            cases hr
        · rcases he' : runAll d' st.batch with ⟨e' | ⟨⟩, u'⟩
          · rw [he, he'] at hr
            cases hr
          · rw [he] at h₁
            rw [he'] at h₂
            exact ⟨rfl, h₂.trans h₁.symm, hs.sql, hs.parameters, rfl, rfl⟩
  | setParameter index value =>
      cases index with
      | zero => exact ⟨rfl, hd, hs⟩
      | succ place =>
          refine ⟨rfl, hd, hs.sql, ?_, hs.batch, hs.closed⟩
          simp only [perform, bind, hs.parameters]
  | clearParameters => exact ⟨rfl, hd, hs.sql, rfl, hs.batch, hs.closed⟩
  | close =>
      rw [perform, perform, hs.closed]
      split
      · exact ⟨rfl, hd, hs.sql, hs.parameters, hs.batch, rfl⟩
      · exact ⟨rfl, hd, hs.sql, hs.parameters, hs.batch, rfl⟩
  | isClosed =>
      refine ⟨?_, hd, hs⟩
      rw [perform, perform, hs.closed]

/-- An operation leaves a statement with its connection. -/
theorem connection_perform (d : Driver) (st : Statement)
    (op : StatementOp) : (st.perform d op).2.2.connection = st.connection := by
  cases op with
  | addBatch sql =>
      rw [perform]
      split <;> rfl
  | executeBatch =>
      rw [perform]
      split
      · rfl
      · simp only
        split <;> rfl
  | setParameter index value => cases index <;> rfl
  | close =>
      rw [perform]
      simp only
      split <;> rfl
  | _ => rfl

end Statement

-- ==================================================== two statements

/-- Whether the rules are asked before the operations of a statement. -/
def Store.asks (s : Store) (st : Statement) : Bool :=
  ((s.connection? st.connection).map (·.guarded)).getD false

/-- Whether a statement and one of another store agree in all that an
answer depends on. -/
structure Store.Mirrors (s : Store) (n : StatementId) (t : Store)
    (m : StatementId) : Prop where
  statements : ∃ st st', s.statement? n = some st
    ∧ t.statement? m = some st' ∧ st.Same st' ∧ t.asks st' = s.asks st
  script : t.driver.executionFailures = s.driver.executionFailures
  rules : t.rules = s.rules

/-- They answer alike, and agree after it. -/
theorem Store.Mirrors.perform (h : s.Mirrors n t m) (op : StatementOp) :
    ((Native.perform m op).run t).1 = ((Native.perform n op).run s).1
      ∧ ((Native.perform n op).run s).2.Mirrors n
        ((Native.perform m op).run t).2 m := by
  obtain ⟨st, st', hst, hst', hs, hasks⟩ := h.statements
  have hrefuses : t.refuses? st' op = s.refuses? st op := by
    have hasks : ((t.connection? st'.connection).map (·.guarded)).getD false
        = ((s.connection? st.connection).map (·.guarded)).getD false := hasks
    rw [Store.refuses?, Store.refuses?, hasks, hs.sql]
    simp only [Store.refusal?, h.rules]
  rw [run_perform hst, run_perform hst', hrefuses]
  cases s.refuses? st op with
  | some e => exact ⟨rfl, h⟩
  | none =>
      obtain ⟨hr, hd, hsame⟩ := st.perform_same h.script hs op
      refine ⟨hr, ⟨_, _, ?_, ?_, hsame, ?_⟩, hd, h.rules⟩
      · exact List.getElem?_set_self (List.getElem?_eq_some_iff.1 hst).1
      · exact List.getElem?_set_self (List.getElem?_eq_some_iff.1 hst').1
      · rw [Store.asks, Store.asks, Statement.connection_perform,
          Statement.connection_perform]
        exact hasks

/-- Two statements of which one mirrors the other answer alike, operation by
operation. -/
theorem Store.Mirrors.answers (h : s.Mirrors n t m)
    (ops : List StatementOp) :
    Native.answers m ops t = Native.answers n ops s := by
  induction ops generalizing s t with
  | nil => rfl
  | cons op rest ih =>
      obtain ⟨hr, hnext⟩ := h.perform op
      rw [Native.answers, Native.answers, hr, ih hnext]

-- ================================================ a statement made now

/-- Whether every statement is of a connection that is there, and all
connections are guarded alike. -/
structure Store.Hosted (s : Store) (g : Bool) : Prop where
  guarded : s.AllGuarded g
  host : ∀ st ∈ s.statements, ∃ x, s.connection? st.connection = some x

/-- A connection that is found is there. -/
theorem Store.connection?_mem {c : ConnectionId} {x : Connection}
    (h : s.connection? c = some x) : x ∈ s.connections := by
  cases c with
  | zero => cases h
  | succ place => exact List.mem_of_getElem? h

/-- A connection is there if its number has been given away. -/
theorem Store.exists_connection_iff {c : ConnectionId} :
    (∃ x, s.connection? c = some x) ↔ 0 < c ∧ c ≤ s.connections.length := by
  cases c with
  | zero =>
      refine ⟨fun ⟨_, h⟩ => ?_, fun h => ?_⟩
      · cases h
      · exact absurd h.1 (Nat.lt_irrefl 0)
  | succ place =>
      refine ⟨fun ⟨_, h⟩ => ?_, fun h => ?_⟩
      · exact ⟨Nat.succ_pos _, (List.getElem?_eq_some_iff.1 h).1⟩
      · exact ⟨_, List.getElem?_eq_getElem h.2⟩

/-- Whether a statement asks the rules first is settled by its
connection. -/
theorem Store.Hosted.asks {g : Bool} (h : s.Hosted g)
    (hst : s.statement? n = some st) : s.asks st = g := by
  obtain ⟨x, hx⟩ := h.host st (List.mem_of_getElem? hst)
  rw [Store.asks, hx]
  exact h.guarded x (Store.connection?_mem hx)

namespace Store.Hosted

variable {g : Bool} {a b : Store}

/-- Connections have not gone, and statements that are new are of
connections that are there. -/
theorem of_origins (h : a.Hosted g) (hg : b.AllGuarded g)
    (hlen : a.connections.length ≤ b.connections.length)
    (hnew : ∀ st ∈ b.statements,
      st.origin ∈ a.statements.map Statement.origin
        ∨ ∃ x, a.connection? st.connection = some x) : b.Hosted g where
  guarded := hg
  host st hst := by
    have hold : ∃ x, a.connection? st.connection = some x := by
      rcases hnew st hst with hin | hx
      · obtain ⟨old, hin, he⟩ := List.mem_map.1 hin
        have hc : old.connection = st.connection := congrArg Prod.fst he
        rw [← hc]
        exact h.host old hin
      · exact hx
    rw [exists_connection_iff] at hold ⊢
    exact ⟨hold.1, Nat.le_trans hold.2 hlen⟩

/-- Steady calls make no statement, and guard connections as before. -/
theorem steady (h : a.Hosted g) (hs : Steady g a b) : b.Hosted g := by
  refine h.of_origins (hs.guarded h.guarded) hs.connections fun st hst => ?_
  left
  rw [← hs.origins]
  exact List.mem_map_of_mem hst

/-- A statement is made on a connection that is there. -/
theorem make (h : a.Hosted g) {kind : StatementKind} {sql : Option String}
    (hm : a.Made b kind sql) : b.Hosted g := by
  obtain ⟨c, hx, hs⟩ := hm.origins
  refine h.of_origins ?_ (Nat.le_of_eq (by rw [hm.connections]))
    fun st hst => ?_
  · intro x hx
    rw [hm.connections] at hx
    exact h.guarded x hx
  · have hin : st.origin ∈ b.statements.map Statement.origin :=
      List.mem_map_of_mem hst
    rw [hs, List.mem_append, List.mem_singleton] at hin
    rcases hin with hin | he
    · exact .inl hin
    · right
      have hc : st.connection = c := congrArg Prod.fst he
      rw [hc]
      exact hx

/-- Disposing of a statement does not change what it was made on. -/
theorem dispose (h : a.Hosted g) (hn : a.HasOpen n) :
    (((Native.dispose n).run a).2).Hosted g := by
  obtain ⟨ho, hc⟩ := origins_dispose hn
  refine h.of_origins ?_ (Nat.le_of_eq (by rw [hc])) fun st hst => ?_
  · intro x hx
    rw [hc] at hx
    exact h.guarded x hx
  · left
    rw [← ho]
    exact List.mem_map_of_mem hst

end Store.Hosted

/-- What preparing does, if it does not fail. -/
theorem exists_of_prepare {c : ConnectionId} {kind : StatementKind}
    {sql : String} (h : (prepare c kind sql).run s = (.ok m, t)) :
    m = s.statements.length ∧ (∃ x, s.connection? c = some x)
      ∧ t.statements
        = s.statements ++ [{ connection := c, kind, sql := some sql }]
      ∧ t.driver.executionFailures = s.driver.executionFailures
      ∧ t.rules = s.rules ∧ t.connections = s.connections := by
  simp only [prepare, Act.run_bind] at h
  rcases ho : (openConnection c (creationMethod kind) (some sql)).run s
    with ⟨_ | x, u⟩
  · rw [ho] at h
    cases h
  · rw [ho] at h
    obtain ⟨hc, rfl⟩ := connection?_of_openConnection ho
    simp only [Act.run_get] at h
    cases hf : u.driver.prepareFailures.contains sql with
    | true =>
        rw [hf] at h
        cases h
    | false =>
        rw [hf] at h
        cases h
        exact ⟨rfl, ⟨x, hc⟩, rfl, rfl, rfl, rfl⟩

/-- An open statement answers like one that is prepared from its SQL and
carries what was left on it. -/
theorem mirrors_prepare {g : Bool} {c : ConnectionId}
    {kind : StatementKind} {sql : String} (hs : s.Hosted g)
    (hst : s.statement? n = some st) (hsql : st.sql = some sql)
    (hopen : st.closed = false)
    (h : (prepare c kind sql).run s = (.ok m, t)) :
    s.Mirrors n (t.leave m st.parameters st.batch) m := by
  obtain ⟨rfl, ⟨x, hx⟩, hstatements, hscript, hrules, hconns⟩ :=
    exists_of_prepare h
  have hlast : t.statement? s.statements.length
      = some { connection := c, kind, sql := some sql } := by
    rw [Store.statement?, hstatements]
    exact List.getElem?_concat_length
  let fresh : Statement := { connection := c, kind, sql := some sql }
  refine ⟨⟨st, { fresh with
    parameters := st.parameters
    batch := st.batch }, hst, ?_, ?_, ?_⟩, hscript, hrules⟩
  · have hmodify : (t.leave s.statements.length st.parameters
        st.batch).statement? s.statements.length
        = (t.statement? s.statements.length).map fun st' =>
          { st' with parameters := st.parameters, batch := st.batch } := by
      exact List.getElem?_modify_eq _ _ _
    rw [hmodify, hlast]
    rfl
  · exact ⟨hsql.symm, rfl, rfl, hopen.symm⟩
  · have hc : (t.leave s.statements.length st.parameters
        st.batch).connection? c = some x := by
      rw [← hx]
      cases c with
      | zero => rfl
      | succ place =>
          show t.connections[place]? = s.connections[place]?
          rw [hconns]
    rw [Store.asks, hc, hs.asks hst]
    exact hs.guarded x (Store.connection?_mem hx)

/-- A statement that is prepared carries nothing. -/
theorem leave_nothing {c : ConnectionId} {kind : StatementKind}
    {sql : String} (h : (prepare c kind sql).run s = (.ok m, t)) :
    t.leave m [] [] = t := by
  obtain ⟨rfl, -, hstatements, -⟩ := exists_of_prepare h
  have hsame : (t.leave s.statements.length [] []).statements
      = t.statements := by
    rw [Store.leave, hstatements]
    refine List.ext_getElem? fun i => ?_
    by_cases hi : s.statements.length = i
    · subst hi
      rw [List.getElem?_modify_eq, List.getElem?_concat_length]
      rfl
    · rw [List.getElem?_modify_ne _ _ hi]
  show { t with statements := (t.leave s.statements.length [] []).statements }
    = t
  rw [hsame]

end PooledChain.Native
