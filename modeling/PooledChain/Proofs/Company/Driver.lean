/-
The driver's side with others about, and without.

A connection of the driver is used in two stores: in one of them other
connections are used as well, in the other it is alone. Its statements
have other numbers there, but the same order (`Ascending`), and which is
which a list of pairs says. The store with company hosts the connection
as it is alone (`Store.Hosts`) if the connection and each of its
statements are the same in both, and if both stores are told to fail in
the same cases (`Store.script`). What is counted and how late it is
plays no part.

A call on the connection, or on a pair of its statements, keeps in step
in the two stores (`Act.InStep`): it has the same answer, up to the
pairs, and the store with company hosts the connection as before. Also
it minds its own business there (`Store.Minds`): it touches no other
connection and no statement that is in none of the pairs.
-/
import PooledChain.Proofs.Native

namespace PooledChain

/-- Whether pairs of numbers stand in the same order by either of them. -/
structure Ascending (l : List (Nat × Nat)) : Prop where
  lt_iff : ∀ {a b a' b'}, (a, b) ∈ l → (a', b') ∈ l → (a < a' ↔ b < b')

namespace Ascending

variable {l : List (Nat × Nat)} {a b a' b' : Nat}

theorem nil : Ascending [] := ⟨fun ha => absurd ha List.not_mem_nil⟩

/-- In such a list each number of either side stands with one of the
other. -/
theorem eq_iff (h : Ascending l) (ha : (a, b) ∈ l) (ha' : (a', b') ∈ l) :
    a = a' ↔ b = b' := by
  have hlt := h.lt_iff ha ha'
  have hgt := h.lt_iff ha' ha
  omega

/-- A pair of numbers that are both new. -/
theorem cons (h : Ascending l) (hl : ∀ {x y}, (x, y) ∈ l → x < a ∧ y < b) :
    Ascending ((a, b) :: l) := by
  refine ⟨fun {x y x' y'} hx hx' => ?_⟩
  rcases List.mem_cons.1 hx with he | hx <;>
    rcases List.mem_cons.1 hx' with he' | hx'
  · cases he
    cases he'
    exact iff_of_false (Nat.lt_irrefl _) (Nat.lt_irrefl _)
  · cases he
    have := hl hx'
    exact iff_of_false (Nat.lt_asymm this.1) (Nat.lt_asymm this.2)
  · cases he'
    have := hl hx
    exact iff_of_true this.1 this.2
  · exact h.lt_iff hx hx'

end Ascending

/-- Whether two acts end alike: both fail the same way, or both have
answers, which belong together. -/
inductive Answers {ε α β : Type} (V : α → β → Prop) :
    Except ε α → Except ε β → Prop
  | ok {a b} : V a b → Answers V (.ok a) (.ok b)
  | error (e) : Answers V (.error e) (.error e)

namespace Answers

variable {ε ε' α β α' β' : Type} {V : α → β → Prop} {U : α' → β' → Prop}

theorem of_eq (r : Except ε α) : Answers (· = ·) r r := by
  cases r with
  | ok a => exact .ok rfl
  | error e => exact .error e

/-- What is made of answers that belong together belongs together if the
making keeps it so. -/
theorem map {r : Except ε α} {r' : Except ε β} (h : Answers V r r')
    {f : α → α'} {g : β → β'} (hfg : ∀ {a b}, V a b → U (f a) (g b)) :
    Answers U (r.map f) (r'.map g) := by
  cases h with
  | ok hab => exact .ok (hfg hab)
  | error e => exact .error e

/-- Failures that are the same are so after they were wrapped. -/
theorem mapError {r : Except ε α} {r' : Except ε β} (h : Answers V r r')
    (f : ε → ε') : Answers V (r.mapError f) (r'.mapError f) := by
  cases h with
  | ok hab => exact .ok hab
  | error e => exact .error _

/-- Acts that end with equal answers have equal results. -/
theorem eq {r r' : Except ε α} (h : Answers (· = ·) r r') : r = r' := by
  cases h with
  | ok hab => rw [hab]
  | error e => rfl

end Answers

namespace Native

/-- Which statement of one store is which of another. -/
abbrev Pairs := List (StatementId × StatementId)

variable {k : ConnectionId} {ps ps' ps'' : Pairs} {s s' t t' u : Store}
  {n m : StatementId}

/-- What decides which calls fail. -/
def Store.script (s : Store) :
    List String × List (String × ExecutionFailure) × List Rule :=
  (s.driver.prepareFailures, s.driver.executionFailures, s.rules)

/-- Whether the connection `k` and its statements are in `s` as they are
in `t`. -/
structure Store.Hosts (k : ConnectionId) (ps : Pairs) (s t : Store) :
    Prop where
  ascending : Ascending ps
  script : s.script = t.script
  connection : s.connection? k = t.connection? k
  statement : ∀ {n m}, (n, m) ∈ ps → ∃ st, s.statement? n = some st
    ∧ t.statement? m = some st ∧ st.connection = k

/-- Whether on the way from `s` to `s'` nothing was touched but the
connection `k` and the statements of the pairs; those that are new to
the pairs are new. -/
structure Store.Minds (k : ConnectionId) (ps ps' : Pairs) (s s' : Store) :
    Prop where
  le : ps ⊆ ps'
  new : ∀ {n m}, (n, m) ∈ ps' → (n, m) ∈ ps ∨ s.statements.length ≤ n
  length : s.statements.length ≤ s'.statements.length
  script : s'.script = s.script
  connection : ∀ {i}, i ≠ k → s'.connection? i = s.connection? i
  statement : ∀ {n}, n < s.statements.length → (∀ m, (n, m) ∉ ps) →
    s'.statement? n = s.statement? n

namespace Store

-- ===================================================== minding one's own

theorem Minds.refl (k : ConnectionId) (ps : Pairs) (s : Store) :
    s.Minds k ps ps s :=
  ⟨fun _ h => h, .inl, Nat.le_refl _, rfl, fun _ => rfl, fun _ _ => rfl⟩

theorem Minds.trans (h₁ : s.Minds k ps ps' s')
    (h₂ : s'.Minds k ps' ps'' u) : s.Minds k ps ps'' u where
  le := List.Subset.trans h₁.le h₂.le
  new hn := by
    rcases h₂.new hn with h | h
    · exact h₁.new h
    · exact .inr (Nat.le_trans h₁.length h)
  length := Nat.le_trans h₁.length h₂.length
  script := h₂.script.trans h₁.script
  connection hi := (h₂.connection hi).trans (h₁.connection hi)
  statement {n} hn hp := by
    refine (h₂.statement (Nat.lt_of_lt_of_le hn h₁.length) fun m hm => ?_).trans
      (h₁.statement hn hp)
    exact (h₁.new hm).elim (hp m) (Nat.not_le_of_lt hn)

/-- What one party does while it minds its own business, another does not
notice. -/
theorem Hosts.aside {i : ConnectionId} {qs qs' : Pairs}
    (h : s.Hosts k ps t) (hm : s.Minds i qs qs' s') (hi : k ≠ i)
    (hapart : ∀ {n m m'}, (n, m) ∈ ps → (n, m') ∉ qs) :
    s'.Hosts k ps t where
  ascending := h.ascending
  script := hm.script.trans h.script
  connection := (hm.connection hi).trans h.connection
  statement hn := by
    obtain ⟨st, hs, ht, hst⟩ := h.statement hn
    have hlt := (List.getElem?_eq_some_iff.1 hs).1
    exact ⟨st, (hm.statement hlt fun _ => hapart hn).trans hs, ht, hst⟩

-- ======================================================= what both hear

/-- Both stores are told the same. -/
theorem Hosts.obey (h : s.Hosts k ps t) (i : Instruction) :
    (s.obey i).Hosts k ps (t.obey i) :=
  { h with
    script := by
      have hsame := h.script
      simp only [Store.script, Prod.mk.injEq] at hsame ⊢
      obtain ⟨hp, he, hr⟩ := hsame
      cases i <;> simp only [Store.obey, Driver.obey, hp, he, hr, and_self] }

/-- A rule that is added to both stores makes the same calls fail in
both. -/
theorem Hosts.addRule (h : s.Hosts k ps t) (r : Rule) :
    (s.addRule r).Hosts k ps (t.addRule r) :=
  { h with
    script := by
      have hsame := h.script
      simp only [Store.script, Prod.mk.injEq] at hsame ⊢
      exact ⟨hsame.1, hsame.2.1, congrArg (r :: ·) hsame.2.2⟩ }

theorem Hosts.clearRules (h : s.Hosts k ps t) :
    s.clearRules.Hosts k ps t.clearRules :=
  { h with
    script := by
      have hsame := h.script
      simp only [Store.script, Prod.mk.injEq] at hsame ⊢
      exact ⟨hsame.1, hsame.2.1, rfl⟩ }

-- ================================================ what is done to both

/-- Both statements of a pair are there. -/
theorem Hosts.lt (h : s.Hosts k ps t) (hn : (n, m) ∈ ps) :
    n < s.statements.length ∧ m < t.statements.length := by
  obtain ⟨st, hs, ht, -⟩ := h.statement hn
  exact ⟨(List.getElem?_eq_some_iff.1 hs).1,
    (List.getElem?_eq_some_iff.1 ht).1⟩

/-- Time passes, and something is counted. -/
theorem Hosts.driver (h : s.Hosts k ps t) {d d' : Driver}
    (hd : { s with driver := d }.script = s.script)
    (hd' : { t with driver := d' }.script = t.script) :
    { s with driver := d }.Hosts k ps { t with driver := d' } :=
  ⟨h.ascending, hd.trans (h.script.trans hd'.symm), h.connection,
    h.statement⟩

/-- Counting and waiting touch no connection and no statement. -/
theorem Minds.driver (k : ConnectionId) (ps : Pairs) (s : Store) {d : Driver}
    (hd : { s with driver := d }.script = s.script) :
    s.Minds k ps ps { s with driver := d } :=
  ⟨fun _ h => h, .inl, Nat.le_refl _, hd, fun _ => rfl, fun _ _ => rfl⟩

theorem statement?_set (s : Store) (n i : StatementId) (st : Statement) :
    ({ s with statements := s.statements.set n st } : Store).statement? i
      = if n = i ∧ n < s.statements.length then some st
        else s.statement? i := by
  show (s.statements.set n st)[i]? = _
  rw [List.getElem?_set]
  by_cases hi : n = i
  · subst hi
    by_cases hlt : n < s.statements.length
    · rw [if_pos rfl, if_pos hlt, if_pos ⟨rfl, hlt⟩]
    · rw [if_pos rfl, if_neg hlt, if_neg fun hc => hlt hc.2, statement?,
        List.getElem?_eq_none (Nat.le_of_not_lt hlt)]
  · rw [if_neg hi, if_neg fun hc => hi hc.1]
    rfl

/-- The statements of a pair become the same. -/
theorem Hosts.set (h : s.Hosts k ps t) (hn : (n, m) ∈ ps)
    (st : Statement) (hst : st.connection = k) :
    { s with statements := s.statements.set n st }.Hosts k ps
      { t with statements := t.statements.set m st } where
  ascending := h.ascending
  script := h.script
  connection := h.connection
  statement {i j} hi := by
    obtain ⟨old, hs, ht, hold⟩ := h.statement hi
    rw [statement?_set, statement?_set]
    by_cases he : n = i
    · have hj : m = j := (h.ascending.eq_iff hn hi).1 he
      rw [if_pos ⟨he, (h.lt hn).1⟩, if_pos ⟨hj, (h.lt hn).2⟩]
      exact ⟨st, rfl, rfl, hst⟩
    · have hj : m ≠ j := fun hj => he ((h.ascending.eq_iff hn hi).2 hj)
      rw [if_neg fun hc => he hc.1, if_neg fun hc => hj hc.1]
      exact ⟨old, hs, ht, hold⟩

/-- Who writes a statement of a pair minds his own business. -/
theorem Minds.set (s : Store) (st : Statement) (hn : (n, m) ∈ ps) :
    s.Minds k ps ps { s with statements := s.statements.set n st } where
  le := fun _ h => h
  new := .inl
  length := Nat.le_of_eq List.length_set.symm
  script := rfl
  connection _ := rfl
  statement {i} _ hp := by
    rw [statement?_set, if_neg]
    rintro ⟨rfl, -⟩
    exact hp m hn

theorem connection?_setConnection {x : Connection}
    (h : s.connection? k = some x) (new : Connection) (i : ConnectionId) :
    (s.setConnection k new).connection? i
      = if i = k then some new else s.connection? i := by
  cases k with
  | zero => cases h
  | succ q =>
      have hlt : q < s.connections.length :=
        (List.getElem?_eq_some_iff.1 h).1
      cases i with
      | zero => rfl
      | succ j =>
          show (s.connections.set q new)[j]? = _
          rw [List.getElem?_set]
          by_cases hj : q = j
          · subst hj
            rw [if_pos rfl, if_pos hlt, if_pos rfl]
          · rw [if_neg hj, if_neg fun he => hj (Nat.succ.inj he).symm]
            rfl

/-- The connection is changed in both stores. -/
theorem Hosts.setConnection (h : s.Hosts k ps t) {x : Connection}
    (hx : s.connection? k = some x) (new : Connection) :
    (s.setConnection k new).Hosts k ps (t.setConnection k new) where
  ascending := h.ascending
  script := h.script
  connection := by
    rw [connection?_setConnection hx,
      connection?_setConnection (h.connection.symm.trans hx)]
    rw [if_pos rfl, if_pos rfl]
  statement := h.statement

theorem Minds.setConnection (ps : Pairs) {x : Connection}
    (hx : s.connection? k = some x) (new : Connection) :
    s.Minds k ps ps (s.setConnection k new) :=
  ⟨fun _ h => h, .inl, Nat.le_refl _, rfl, fun hi => by
    rw [connection?_setConnection hx, if_neg hi], fun _ _ => rfl⟩

/-- A statement with the last number. -/
theorem statement?_append (s : Store) (st : Statement) (i : StatementId) :
    ({ s with statements := s.statements ++ [st] } : Store).statement? i
      = if i = s.statements.length then some st else s.statement? i := by
  show (s.statements ++ [st])[i]? = _
  rw [List.getElem?_append]
  rcases Nat.lt_trichotomy i s.statements.length with hlt | rfl | hgt
  · rw [if_pos hlt, if_neg (Nat.ne_of_lt hlt)]
    rfl
  · rw [if_neg (Nat.lt_irrefl _), Nat.sub_self, if_pos rfl]
    rfl
  · rw [if_neg (Nat.lt_asymm hgt), if_neg (Nat.ne_of_gt hgt), statement?,
      List.getElem?_eq_none (Nat.le_of_lt hgt)]
    exact List.getElem?_eq_none (Nat.sub_pos_of_lt hgt)

/-- A statement of the connection is made in both stores. -/
theorem Hosts.append (h : s.Hosts k ps t) (st : Statement)
    (hst : st.connection = k) :
    { s with statements := s.statements ++ [st] }.Hosts k
      ((s.statements.length, t.statements.length) :: ps)
      { t with statements := t.statements ++ [st] } where
  ascending := h.ascending.cons fun hn => h.lt hn
  script := h.script
  connection := h.connection
  statement {i j} hi := by
    rw [statement?_append, statement?_append]
    rcases List.mem_cons.1 hi with he | hi
    · cases he
      rw [if_pos rfl, if_pos rfl]
      exact ⟨st, rfl, rfl, hst⟩
    · rw [if_neg (Nat.ne_of_lt (h.lt hi).1), if_neg (Nat.ne_of_lt (h.lt hi).2)]
      exact h.statement hi

/-- A statement that is made is the new one of a pair. -/
theorem Minds.append (k : ConnectionId) (ps : Pairs) (s : Store)
    (st : Statement) (m : StatementId) :
    s.Minds k ps ((s.statements.length, m) :: ps)
      { s with statements := s.statements ++ [st] } where
  le := fun _ h => List.mem_cons_of_mem _ h
  new hn := by
    rcases List.mem_cons.1 hn with he | hn
    · cases he
      exact .inr (Nat.le_refl _)
    · exact .inl hn
  length := by
    rw [List.length_append]
    exact Nat.le_add_right _ _
  script := rfl
  connection _ := rfl
  statement hn _ := by
    rw [statement?_append, if_neg (Nat.ne_of_lt hn)]

end Store

-- ======================================================= calls in step

variable {α β γ δ : Type}

/-- How calls that keep in step end. -/
structure Ends (k : ConnectionId) (V : Pairs → α → β → Prop)
    (ps ps' : Pairs) (s : Store) (r : Except DriverError α × Store)
    (r' : Except DriverError β × Store) : Prop where
  minds : s.Minds k ps ps' r.2
  hosts : r.2.Hosts k ps' r'.2
  answers : Answers (V ps') r.1 r'.1

/-- Whether two calls keep in step, the one with company and the other
without. -/
def Act.InStep (k : ConnectionId) (V : Pairs → α → β → Prop) (ps : Pairs)
    (x : Act α) (y : Act β) : Prop :=
  ∀ s t : Store, s.Hosts k ps t →
    ∃ ps', Ends k V ps ps' s (x.run s) (y.run t)

/-- Answers that are the same. -/
def Pairs.Equal (_ : Pairs) (a b : α) : Prop := a = b

namespace Act.InStep

open Pairs (Equal)

variable {V : Pairs → α → β → Prop} {U : Pairs → γ → δ → Prop}

theorem pure {a : α} {b : β} (h : V ps a b) :
    InStep k V ps (Pure.pure a) (Pure.pure b) :=
  fun s _ h' => ⟨ps, .refl k ps s, h', .ok h⟩

theorem throw (e : DriverError) :
    InStep k V ps (MonadExcept.throw e) (MonadExcept.throw e) :=
  fun s _ h => ⟨ps, .refl k ps s, h, .error e⟩

theorem bind {x : Act α} {y : Act β} {f : α → Act γ} {g : β → Act δ}
    (hx : InStep k V ps x y) (hf : ∀ {ps' a b}, ps ⊆ ps' → V ps' a b →
      InStep k U ps' (f a) (g b)) : InStep k U ps (x >>= f) (y >>= g) := by
  intro s t h
  obtain ⟨ps', hminds, hhosts, hanswers⟩ := hx s t h
  rw [run_bind, run_bind]
  rcases hr : x.run s with ⟨r, s'⟩
  rcases hr' : y.run t with ⟨r', t'⟩
  rw [hr] at hminds hhosts hanswers
  rw [hr'] at hhosts hanswers
  cases hanswers with
  | error e => exact ⟨ps', hminds, hhosts, .error e⟩
  | ok hab =>
      obtain ⟨ps'', hrest⟩ := hf hminds.le hab s' t' hhosts
      exact ⟨ps'', hminds.trans hrest.minds, hrest.hosts, hrest.answers⟩

/-- What follows a look is done to the stores that were looked at. -/
theorem look {x : Act α} (hx : InStep k Equal ps x x)
    (hsame : ∀ s, (x.run s).2 = s) {f : α → Act γ} {g : α → Act δ}
    (h : s.Hosts k ps t) (hf : ∀ {a}, x.run s = (.ok a, s) →
      ∃ ps', Ends k U ps ps' s ((f a).run s) ((g a).run t)) :
    ∃ ps', Ends k U ps ps' s ((x >>= f).run s) ((x >>= g).run t) := by
  obtain ⟨ps', -, -, hanswers⟩ := hx s t h
  rw [run_bind, run_bind]
  rcases hr : x.run s with ⟨r, s'⟩
  rcases hr' : x.run t with ⟨r', t'⟩
  have hs := hsame s
  have ht := hsame t
  rw [hr] at hs hanswers
  rw [hr'] at ht hanswers
  subst hs ht
  cases hanswers.eq
  cases r with
  | error e => exact ⟨ps, .refl k ps _, h, .error e⟩
  | ok a => exact hf hr

end Act.InStep

open Pairs (Equal)

/-- The rules refuse the same calls in both stores. -/
theorem Store.Hosts.refusal? (h : s.Hosts k ps t) (method : Method)
    (subject : Option String) :
    s.refusal? method subject = t.refusal? method subject := by
  have hrules : s.rules = t.rules := congrArg (·.2.2) h.script
  rw [Store.refusal?, Store.refusal?, hrules]

/-- A call that the rules are asked about passes in both stores or in
neither. -/
theorem inStep_guard (guarded : Bool) (method : Method)
    (subject : Option String) :
    (guard guarded method subject).InStep k Equal ps
      (guard guarded method subject) := by
  intro s t h
  rw [run_guard, run_guard, h.refusal?]
  exact ⟨ps, .refl k ps s, h, .of_eq _⟩

/-- The connection is there, and as it is, in both stores. -/
theorem inStep_connection :
    (connection k).InStep k Equal ps (connection k) := by
  intro s t h
  rw [run_connection, run_connection, h.connection]
  exact ⟨ps, .refl k ps s, h, .of_eq _⟩

/-- It is open in both stores or in neither, and the same calls are
refused. -/
theorem inStep_openConnection (method : Method) (subject : Option String) :
    (openConnection k method subject).InStep k Equal ps
      (openConnection k method subject) := by
  refine .bind inStep_connection fun {_ x _} _ hxy => ?_
  cases hxy
  refine .bind (inStep_guard _ _ _) fun _ _ => ?_
  cases x.closed with
  | true => exact .throw _
  | false => exact .pure rfl

theorem inStep_commit : (commit k).InStep k Equal ps (commit k) :=
  .bind (inStep_openConnection _ _) fun _ _ => .pure rfl

theorem inStep_rollback : (rollback k).InStep k Equal ps (rollback k) :=
  .bind (inStep_openConnection _ _) fun _ _ => .pure rfl

theorem inStep_autoCommit :
    (autoCommit k).InStep k Equal ps (autoCommit k) :=
  .bind (inStep_openConnection _ _) fun _ hxy =>
    .pure (congrArg Connection.autoCommit hxy)

theorem inStep_isValid : (isValid k).InStep k Equal ps (isValid k) := by
  refine .bind inStep_connection fun {_ x _} _ hxy => ?_
  cases hxy
  exact .bind (inStep_guard _ _ _) fun _ _ => .pure rfl

theorem inStep_nativeSql (sql : String) :
    (nativeSql k sql).InStep k Equal ps (nativeSql k sql) := by
  refine .bind inStep_connection fun {_ x _} _ hxy => ?_
  cases hxy
  cases x.guarded <;> exact .pure rfl

theorem inStep_setAutoCommit (enabled : Bool) :
    (setAutoCommit k enabled).InStep k Equal ps (setAutoCommit k enabled) := by
  intro s t h
  refine Act.InStep.look (inStep_openConnection _ _)
    (openConnection_state k _ _) h fun hx => ?_
  have hs := (connection?_of_openConnection hx).1
  exact ⟨ps, .setConnection ps hs _, h.setConnection hs _, .ok rfl⟩

/-- Closing the connection closes it in both stores. -/
theorem inStep_closeConnection :
    (closeConnection k).InStep k Equal ps (closeConnection k) := by
  intro s t h
  refine Act.InStep.look inStep_connection (fun s => by rw [run_connection]) h
    fun {x} hx => ?_
  have hs : s.connection? k = some x := by
    rw [run_connection] at hx
    cases hc : s.connection? k with
    | none => rw [hc] at hx; cases hx
    | some y => rw [hc] at hx; cases hx; rfl
  refine Act.InStep.look (inStep_guard _ _ _) (fun s => by rw [run_guard]) h
    fun _ => ?_
  cases x.closed with
  | true => exact ⟨ps, .refl k ps s, h, .ok rfl⟩
  | false =>
      exact ⟨ps, (Store.Minds.setConnection ps hs _).trans
        (.driver k ps _ rfl), (h.setConnection hs _).driver rfl rfl, .ok rfl⟩

-- ========================================================= statements

/-- Statements that belong together. -/
def Pairs.Both (ps : Pairs) (n m : StatementId) : Prop := (n, m) ∈ ps

/-- Whether a driver fails in the same cases as another. -/
def Driver.SameScript (d e : Driver) : Prop :=
  e.prepareFailures = d.prepareFailures
    ∧ e.executionFailures = d.executionFailures

theorem Driver.SameScript.refl (d : Driver) : d.SameScript d := ⟨rfl, rfl⟩

theorem Driver.SameScript.trans {d e f : Driver} (h₁ : d.SameScript e)
    (h₂ : e.SameScript f) : d.SameScript f :=
  ⟨h₂.1.trans h₁.1, h₂.2.trans h₁.2⟩

/-- With the same script a store is told to fail in the same cases. -/
theorem Driver.SameScript.script {d : Driver} (h : s.driver.SameScript d) :
    ({ s with driver := d } : Store).script = s.script := by
  rw [Store.script, Store.script, h.1, h.2]

/-- Something is counted. -/
theorem inStep_count {f : Driver → Driver}
    (hf : ∀ d : Driver, d.SameScript (f d)) :
    Act.InStep k Equal ps (modify fun s => { s with driver := f s.driver })
      (modify fun s => { s with driver := f s.driver }) := fun s _ h =>
  ⟨ps, .driver k ps s (hf _).script, h.driver (hf _).script (hf _).script,
    .ok rfl⟩

/-- The statements that are made in the two stores make a new pair, both
numbers being the greatest. -/
theorem inStep_newStatement (kind : StatementKind) (sql : Option String) :
    (newStatement k kind sql).InStep k Pairs.Both ps
      (newStatement k kind sql) := by
  intro s t h
  let st : Statement := { connection := k, kind, sql }
  refine ⟨(s.statements.length, t.statements.length) :: ps,
    (Store.Minds.append k ps s st _).trans (.driver k _ _ ?_),
    (h.append st rfl).driver ?_ ?_, .ok List.mem_cons_self⟩ <;> rfl

theorem inStep_createStatement :
    (createStatement k).InStep k Pairs.Both ps (createStatement k) :=
  .bind (inStep_openConnection _ _) fun _ _ =>
    .bind (inStep_count (f := fun d => { d with creates := d.creates + 1 })
      fun _ => ⟨rfl, rfl⟩) fun _ _ => inStep_newStatement .plain none

/-- Preparing is refused in both stores, or makes a pair. -/
theorem inStep_prepare (kind : StatementKind) (sql : String) :
    (prepare k kind sql).InStep k Pairs.Both ps (prepare k kind sql) := by
  refine .bind (inStep_openConnection _ _) fun _ _ s t h => ?_
  have hfailures : s.driver.prepareFailures = t.driver.prepareFailures :=
    congrArg (·.1) h.script
  rw [Act.run_bind, Act.run_bind, Act.run_get, Act.run_get]
  simp only [hfailures]
  cases t.driver.prepareFailures.contains sql with
  | true => exact ⟨_, .refl k _ s, h, .error _⟩
  | false =>
      exact Act.InStep.bind (inStep_count (f := fun d => { d with
          prepares := d.prepares + 1
          preparedSql := d.preparedSql ++ [sql] }) fun _ => ⟨rfl, rfl⟩)
        (fun _ _ => inStep_newStatement kind (some sql)) s t h

/-- What is the same of two drivers that fail in the same cases, after
the same was done: the answer, and the cases. -/
structure Driver.Twin (d e : Driver) (r r' : Except DriverError α × Driver) :
    Prop where
  answer : r'.1 = r.1
  left : d.SameScript r.2
  right : e.SameScript r'.2

/-- A SQL text fails on both drivers or on neither, whatever they have
counted. -/
theorem Driver.twin_execute {d e : Driver} (h : d.SameScript e)
    (sql : String) : d.Twin e (d.execute sql) (e.execute sql) := by
  simp only [Driver.execute, h.2]
  cases d.executionFailures.lookup sql <;>
    exact ⟨rfl, ⟨rfl, rfl⟩, ⟨rfl, h.2.symm⟩⟩

theorem Driver.twin_runAll {d e : Driver} (h : d.SameScript e)
    (sqls : List String) :
    d.Twin e (Statement.runAll d sqls) (Statement.runAll e sqls) := by
  induction sqls generalizing d e with
  | nil => exact ⟨rfl, .refl d, .refl e⟩
  | cons sql rest ih =>
      obtain ⟨hanswer, hd, he⟩ := twin_execute h sql
      rw [Statement.runAll, Statement.runAll]
      rcases hx : d.execute sql with ⟨r, d'⟩
      rcases hy : e.execute sql with ⟨r', e'⟩
      rw [hx] at hanswer hd
      rw [hy] at hanswer he
      obtain rfl : r' = r := hanswer
      cases r' with
      | error err => exact ⟨rfl, hd, he⟩
      | ok _ =>
          have hde : d'.SameScript e' :=
            ⟨he.1.trans (h.1.trans hd.1.symm), he.2.trans (h.2.trans hd.2.symm)⟩
          obtain ⟨hrest, hd', he'⟩ := ih hde
          exact ⟨hrest, hd.trans hd', he.trans he'⟩

theorem Driver.twin_run {d e : Driver} (h : d.SameScript e) (st : Statement)
    (given : Option String) (answer : String → Answer) :
    d.Twin e (st.run d given answer) (st.run e given answer) := by
  rw [Statement.run, Statement.run]
  split
  · exact ⟨rfl, .refl d, .refl e⟩
  · split
    · exact ⟨rfl, .refl d, .refl e⟩
    · next sql _ =>
      obtain ⟨hanswer, hd, he⟩ := twin_execute h sql
      rcases hx : d.execute sql with ⟨r, d'⟩
      rcases hy : e.execute sql with ⟨r', e'⟩
      rw [hx] at hanswer hd
      rw [hy] at hanswer he
      obtain rfl : r' = r := hanswer
      cases r' <;> exact ⟨rfl, hd, he⟩

/-- An operation on the same statement under two drivers that fail in the
same cases: the statement is the same afterwards, and is still of its
connection. -/
theorem Statement.twin_perform {d e : Driver} (h : d.SameScript e)
    (st : Statement) (op : StatementOp) :
    d.Twin e ((st.perform d op).1, (st.perform d op).2.1)
        ((st.perform e op).1, (st.perform e op).2.1)
      ∧ (st.perform e op).2.2 = (st.perform d op).2.2
      ∧ (st.perform d op).2.2.connection = st.connection := by
  have hnothing : ∀ r : Except DriverError Answer,
      d.Twin e (r, d) (r, e) := fun r => ⟨rfl, .refl d, .refl e⟩
  cases op with
  | execute sql => exact ⟨Driver.twin_run h st sql _, rfl, rfl⟩
  | executeQuery sql => exact ⟨Driver.twin_run h st sql _, rfl, rfl⟩
  | executeUpdate sql => exact ⟨Driver.twin_run h st sql _, rfl, rfl⟩
  | addBatch sql =>
      rw [Statement.perform, Statement.perform]
      split <;> exact ⟨hnothing _, rfl, rfl⟩
  | executeBatch =>
      rw [Statement.perform, Statement.perform]
      split
      · exact ⟨hnothing _, rfl, rfl⟩
      · obtain ⟨hanswer, hd, he⟩ := Driver.twin_runAll h st.batch
        rcases hx : Statement.runAll d st.batch with ⟨r, d'⟩
        rcases hy : Statement.runAll e st.batch with ⟨r', e'⟩
        rw [hx] at hanswer hd
        rw [hy] at hanswer he
        obtain rfl : r' = r := hanswer
        cases r' <;> exact ⟨⟨rfl, hd, he⟩, rfl, rfl⟩
  | setParameter index value =>
      cases index <;> exact ⟨hnothing _, rfl, rfl⟩
  | clearParameters => exact ⟨hnothing _, rfl, rfl⟩
  | close =>
      rw [Statement.perform, Statement.perform]
      split
      · exact ⟨hnothing _, rfl, rfl⟩
      · exact ⟨⟨rfl, ⟨rfl, rfl⟩, ⟨rfl, rfl⟩⟩, rfl, rfl⟩
  | isClosed => exact ⟨hnothing _, rfl, rfl⟩

/-- Two stores of which one hosts the other were told to fail in the same
cases. -/
theorem Store.Hosts.sameScript (h : s.Hosts k ps t) :
    t.driver.SameScript s.driver :=
  ⟨congrArg (·.1) h.script, congrArg (·.2.1) h.script⟩

/-- An operation on a pair of statements. -/
theorem inStep_perform (hn : (n, m) ∈ ps) (op : StatementOp) :
    (perform n op).InStep k Equal ps (perform m op) := by
  intro s t h
  obtain ⟨st, hs, ht, hst⟩ := h.statement hn
  have hrefuses : s.refuses? st op = t.refuses? st op := by
    simp only [Store.refuses?, hst, h.connection, h.refusal?]
  rw [run_perform hs, run_perform ht, hrefuses]
  cases t.refuses? st op with
  | some e => exact ⟨ps, .refl k ps s, h, .error e⟩
  | none =>
      obtain ⟨⟨hanswer, htd, hsd⟩, hsame, hconnection⟩ :=
        st.twin_perform h.sameScript op
      refine ⟨ps, (Store.Minds.set s _ hn).trans
        (.driver k ps _ (Driver.SameScript.script hsd)), ?_, ?_⟩
      · have hset := h.set hn (st.perform t.driver op).2.2
          (hconnection.trans hst)
        rw [hsame]
        exact hset.driver (Driver.SameScript.script hsd)
          (Driver.SameScript.script htd)
      · rw [show (st.perform s.driver op).1 = (st.perform t.driver op).1 from
          hanswer]
        exact .of_eq _

/-- A pair of statements is given up. -/
theorem Store.Hosts.giveUp (h : s.Hosts k ps t) (hn : (n, m) ∈ ps) :
    s.Minds k ps ps (s.giveUp n) ∧ (s.giveUp n).Hosts k ps (t.giveUp m) := by
  obtain ⟨st, hs, ht, hst⟩ := h.statement hn
  have hgive : ∀ d : Driver, d.SameScript (st.giveUp d).1
      ∧ (st.giveUp d).2 = { st with closed := true } := by
    intro d
    rw [Statement.giveUp]
    cases hc : st.closed with
    | true =>
        refine ⟨.refl d, ?_⟩
        rw [if_pos rfl]
        cases st
        cases hc
        rfl
    | false => exact ⟨⟨rfl, rfl⟩, rfl⟩
  have hset := h.set hn { st with closed := true } hst
  simp only [Store.giveUp, hs, ht]
  rw [(hgive s.driver).2, (hgive t.driver).2]
  exact ⟨(Store.Minds.set s _ hn).trans
      (.driver k ps _ (Driver.SameScript.script (hgive _).1)),
    hset.driver (Driver.SameScript.script (hgive _).1)
      (Driver.SameScript.script (hgive _).1)⟩

/-- A pair of statements is closed for good. -/
theorem inStep_dispose (hn : (n, m) ∈ ps) :
    (dispose n).InStep k Equal ps (dispose m) := by
  intro s t h
  obtain ⟨ps', hminds, hhosts, hanswers⟩ := inStep_perform hn .close s t h
  obtain ⟨hgive, hgiven⟩ := hhosts.giveUp (hminds.le hn)
  exact ⟨ps', hminds.trans hgive, hgiven, hanswers.map fun _ => rfl⟩

end Native

end PooledChain
