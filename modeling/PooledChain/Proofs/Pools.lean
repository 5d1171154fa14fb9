/-
Pools share their tables through a registry, and take them down.

A table belongs to the pool that it was made for. The registry knows
which table is the one of a pool, and a pool that has a table there has
at least one listener that will drop it when the pool closes
(`Registry.Attended`): making the table left one behind, a listener
stays until the pool closes, and closing, which tells them all, drops
the table. Steps in between may drop the table sooner; nothing but
making one anew brings a pool back.

Tables are written on their numbers, which callers may keep for as long
as they like. A number is used once, so a table that was dropped is not
the table of any pool again (`Registry.Dropped`).
-/
import PooledChain.Proofs.Figures
import PooledChain.Statistics.Session

namespace PooledChain.Statistics

namespace Registry

variable {r : Registry} {p q : PoolId} {t u : TableId} {maxQueries : Nat}

-- ================================================== looking after a change

/-- When the entries of a key are taken out, it has none and every other key
keeps its own. -/
theorem lookup_filter_ne (l : List (PoolId × TableId)) (p q : PoolId) :
    (l.filter (·.1 != p)).lookup q = if q = p then none else l.lookup q := by
  induction l with
  | nil => simp
  | cons e l ih =>
      obtain ⟨k, t⟩ := e
      by_cases hk : k = p
      · rw [List.filter_cons_of_neg (by simpa using hk), ih]
        split
        · rfl
        · next hq =>
            rw [List.lookup_cons, beq_false_of_ne (fun h => hq (h.trans hk))]
      · rw [List.filter_cons_of_pos (by simpa using hk)]
        by_cases hq : q = k
        · subst hq
          simp [hk]
        · rw [List.lookup_cons, beq_false_of_ne hq, List.lookup_cons,
            beq_false_of_ne hq]
          exact ih

/-- A pool that is taken out has no table, and every other pool its own. -/
theorem tableOf?_deregister (r : Registry) (p q : PoolId) :
    (r.deregister p).tableOf? q = if q = p then none else r.tableOf? q := by
  simp only [deregister, tableOf?]
  cases r.index with
  | none => simp
  | some l => exact lookup_filter_ne l p q

/-- A change of one pool changes no other pool's listeners. -/
theorem listeners_modifyPool (r : Registry) (p q : PoolId)
    (f : PoolState → PoolState) :
    (r.modifyPool p f).listeners q
      = if q = p then ((r.pool? p).map fun s => (f s).listeners).getD 0
        else r.listeners q := by
  simp only [listeners, pool?, modifyPool, List.getElem?_modify]
  by_cases h : q = p
  · subst h
    cases r.pools[q]? <;> simp
  · simp [h, Ne.symm h]

/-- A pool that has a table gets that one and no listener. -/
theorem register_of_some (h : r.tableOf? p = some t) (maxQueries : Nat) :
    r.register p maxQueries = (t, r) := by
  rw [register, h]

/-- A pool that has none gets a new one. -/
theorem fst_register_of_none (h : r.tableOf? p = none) (maxQueries : Nat) :
    (r.register p maxQueries).1 = r.tables.length := by
  rw [register, h]

/-- A pool without a table gets a new one. -/
theorem tables_register_of_none (h : r.tableOf? p = none) (maxQueries : Nat) :
    (r.register p maxQueries).2.tables
      = r.tables ++ [.create p maxQueries] := by
  rw [register, h]
  rfl

/-- The pool has the new table from now on, if there is an index to find it
in. -/
theorem tableOf?_register_of_none (h : r.tableOf? p = none)
    (maxQueries : Nat) (q : PoolId) :
    (r.register p maxQueries).2.tableOf? q
      = if q = p ∧ r.index.isSome then some r.tables.length
        else r.tableOf? q := by
  rw [register, h]
  simp only [tableOf?, modifyPool]
  cases r.index with
  | none => simp
  | some l =>
      by_cases hq : q = p
      · simp [hq]
      · simp [hq, List.lookup_cons, beq_false_of_ne hq]

/-- One more listener of the pool will drop the new table. -/
theorem listeners_register_of_none (h : r.tableOf? p = none)
    (hp : p < r.pools.length) (maxQueries : Nat) (q : PoolId) :
    (r.register p maxQueries).2.listeners q
      = if q = p then r.listeners p + 1 else r.listeners q := by
  rw [register, h]
  simp only [listeners_modifyPool]
  split
  · simp [listeners, pool?, List.getElem?_eq_getElem hp]
  · rfl

-- ====================================================== telling listeners

/-- Taking a pool out leaves the pools as they are. -/
theorem pools_repeat_deregister (p : PoolId) (n : Nat) (r : Registry) :
    (Nat.repeat (·.deregister p) n r).pools = r.pools := by
  induction n with
  | zero => rfl
  | succ n ih => exact ih

/-- Taking a pool out leaves all tables that were made. -/
theorem tables_repeat_deregister (p : PoolId) (n : Nat) (r : Registry) :
    (Nat.repeat (·.deregister p) n r).tables = r.tables := by
  induction n with
  | zero => rfl
  | succ n ih => exact ih

/-- A pool that was taken out at least once has no table, and every other
pool its own. -/
theorem tableOf?_repeat_deregister (p : PoolId) (n : Nat) (r : Registry)
    (q : PoolId) :
    (Nat.repeat (·.deregister p) n r).tableOf? q
      = if q = p ∧ 0 < n then none else r.tableOf? q := by
  induction n with
  | zero => simp [Nat.repeat]
  | succ n ih =>
      show (deregister _ p).tableOf? q = _
      rw [tableOf?_deregister, ih]
      by_cases hq : q = p <;> simp [hq]

/-- Closes a pool, the first time only. -/
def close (r : Registry) (p : PoolId) : Registry :=
  if r.isClosed p then r else (r.markClosed p).notifyClosed p

/-- A closed pool is not closed again. -/
theorem close_of_closed (h : r.isClosed p = true) : r.close p = r :=
  if_pos h

/-- An open pool is marked closed and then tells its listeners. -/
theorem close_of_open (h : r.isClosed p = false) :
    r.close p = (r.markClosed p).notifyClosed p :=
  if_neg (by simp [h])

@[simp] theorem listeners_markClosed (r : Registry) (p q : PoolId) :
    (r.markClosed p).listeners q = r.listeners q := by
  rw [markClosed, listeners_modifyPool]
  split
  · next h => subst h; rfl
  · rfl

/-- Only the pool itself is marked. -/
theorem pool?_markClosed (r : Registry) (p q : PoolId) :
    (r.markClosed p).pool? q
      = if q = p then (r.pool? p).map fun s => { s with closed := true }
        else r.pool? q := by
  simp only [pool?, markClosed, modifyPool, List.getElem?_modify]
  by_cases h : q = p
  · subst h; simp
  · simp [h, Ne.symm h]

/-- What is known of the pools once one has closed. -/
theorem pool?_close (h : r.isClosed p = false) (q : PoolId) :
    (r.close p).pool? q
      = if q = p then some { closed := true, listeners := 0 }
        else r.pool? q := by
  obtain ⟨s, hs⟩ : ∃ s, r.pool? p = some s := by
    cases hs : r.pool? p with
    | none => simp [isClosed, hs] at h
    | some s => exact ⟨s, rfl⟩
  rw [close_of_open h, notifyClosed]
  simp only [pool?, pools_repeat_deregister, modifyPool, List.getElem?_modify]
  have hq := pool?_markClosed r p q
  simp only [pool?] at hq hs
  rw [hq]
  by_cases hqp : q = p
  · subst hqp; simp [hs]
  · simp [hqp, Ne.symm hqp]

/-- A pool that closes loses its table if anybody listens, and no other pool
does. -/
theorem tableOf?_close (h : r.isClosed p = false) (q : PoolId) :
    (r.close p).tableOf? q
      = if q = p ∧ 0 < r.listeners p then none else r.tableOf? q := by
  rw [close_of_open h, notifyClosed, tableOf?_repeat_deregister,
    listeners_markClosed]
  rfl

/-- Closing a pool leaves all tables that were made. -/
theorem tables_close (r : Registry) (p : PoolId) :
    (r.close p).tables = r.tables := by
  rw [close]
  split
  · rfl
  · rw [notifyClosed, tables_repeat_deregister]
    rfl

-- ================================================================= calls

/-- What is done with pools, a registry and its tables. -/
inductive Call
  | newPool
  | register (p : PoolId) (maxQueries : Nat)
  | deregister (p : PoolId)
  /-- Writes the table that the registry has for a pool. -/
  | record (p : PoolId) (x : Execution)
  /-- Writes a table that someone holds, registered or not. -/
  | recordHeld (t : TableId) (x : Execution)
  | snapshot (p : PoolId)
  | close (p : PoolId)
  | dropIndex

/-- The registry after a call. A table is made for a pool that there is,
by a registry that there is. -/
def call (r : Registry) : Call → Registry
  | .newPool => r.newPool.2
  | .register p maxQueries =>
    if p < r.pools.length ∧ r.index.isSome then (r.register p maxQueries).2
    else r
  | .deregister p => r.deregister p
  | .record p x =>
    match r.tableOf? p with
    | some t => r.record t x.sql x.elapsed x.started
    | none => r
  | .recordHeld t x => r.record t x.sql x.elapsed x.started
  | .snapshot _ => r
  | .close p => r.close p
  | .dropIndex => r.dropIndex

/-- The registry after some calls. -/
def run (r : Registry) (calls : List Call) : Registry :=
  calls.foldl call r

/-- What a call preserves, a run preserves. -/
theorem run_preserves {P : Registry → Prop} {ok : Call → Prop}
    (hP : ∀ r c, ok c → P r → P (r.call c)) {calls : List Call}
    (hok : ∀ c ∈ calls, ok c) (h : P r) : P (r.run calls) := by
  induction calls generalizing r with
  | nil => exact h
  | cons c calls ih =>
      exact ih (fun d hd => hok d (List.mem_cons_of_mem _ hd))
        (hP r c (hok c List.mem_cons_self) h)

/-- What every call preserves every run does. -/
theorem run_always {P : Registry → Prop} (hP : ∀ r c, P r → P (r.call c))
    (calls : List Call) (h : P r) : P (r.run calls) :=
  run_preserves (fun r c (_ : True) => hP r c) (fun _ _ => trivial) h

/-- Calls and more calls are made one after the other. -/
theorem run_append (r : Registry) (calls more : List Call) :
    r.run (calls ++ more) = (r.run calls).run more :=
  List.foldl_append ..

/-- A call leaves the table of a pool and its listeners, makes a table
and adds a listener, or drops the table. -/
theorem call_cases (r : Registry) (c : Call) (q : PoolId) :
    ((r.call c).tableOf? q = r.tableOf? q
        ∧ (r.listeners q ≤ (r.call c).listeners q ∨ r.listeners q = 0))
      ∨ (∃ n, c = .register q n ∧ r.tableOf? q = none
        ∧ (r.call c).tableOf? q = some r.tables.length
        ∧ (r.call c).tables = r.tables ++ [.create q n]
        ∧ (r.call c).listeners q = r.listeners q + 1)
      ∨ ((c = .deregister q ∨ c = .close q ∨ c = .dropIndex)
        ∧ (r.call c).tableOf? q = none) := by
  have hsame : ∀ {r' : Registry}, r'.index = r.index → r'.pools = r.pools →
      r'.tableOf? q = r.tableOf? q
        ∧ (r.listeners q ≤ r'.listeners q ∨ r.listeners q = 0) := by
    intro r' hindex hpools
    refine ⟨by rw [tableOf?, tableOf?, hindex], .inl (Nat.le_of_eq ?_)⟩
    rw [listeners, listeners, pool?, pool?, hpools]
  cases c with
  | newPool =>
      refine .inl ⟨rfl, .inl ?_⟩
      simp only [call, newPool, listeners, pool?]
      by_cases hq : q < r.pools.length
      · exact Nat.le_of_eq (by rw [List.getElem?_append_left hq])
      · rw [List.getElem?_eq_none (Nat.le_of_not_lt hq)]
        exact Nat.zero_le _
  | register p maxQueries =>
      rw [call]
      split
      · next h =>
          cases hp : r.tableOf? p with
          | some t =>
              rw [register_of_some hp]
              exact .inl (hsame rfl rfl)
          | none =>
              rw [tableOf?_register_of_none hp, listeners_register_of_none hp h.1,
                tables_register_of_none hp]
              by_cases hq : q = p
              · subst hq
                exact .inr (.inl ⟨maxQueries, rfl, hp, if_pos ⟨rfl, h.2⟩, rfl,
                  if_pos rfl⟩)
              · exact .inl ⟨if_neg fun h => hq h.1,
                  .inl (Nat.le_of_eq (if_neg hq).symm)⟩
      · exact .inl (hsame rfl rfl)
  | deregister p =>
      rw [call, tableOf?_deregister]
      by_cases hq : q = p
      · exact .inr (.inr ⟨.inl (hq ▸ rfl), if_pos hq⟩)
      · exact .inl ⟨if_neg hq, .inl (Nat.le_refl _)⟩
  | record p x =>
      rw [call]
      split <;> exact .inl (hsame rfl rfl)
  | recordHeld t x => exact .inl (hsame rfl rfl)
  | snapshot p => exact .inl (hsame rfl rfl)
  | close p =>
      rw [call]
      cases hp : r.isClosed p with
      | true =>
          rw [close_of_closed hp]
          exact .inl (hsame rfl rfl)
      | false =>
          rw [tableOf?_close hp]
          by_cases hq : q = p
          · subst hq
            by_cases hlisten : 0 < r.listeners q
            · exact .inr (.inr ⟨.inr (.inl rfl), if_pos ⟨rfl, hlisten⟩⟩)
            · exact .inl ⟨if_neg fun h => hlisten h.2,
                .inr (Nat.eq_zero_of_not_pos hlisten)⟩
          · refine .inl ⟨if_neg fun h => hq h.1, .inl (Nat.le_of_eq ?_)⟩
            rw [listeners, listeners, pool?_close hp, if_neg hq]
  | dropIndex => exact .inr (.inr ⟨.inr (.inr rfl), rfl⟩)

/-- No call takes a pool away. -/
theorem length_pools_call (r : Registry) (c : Call) :
    r.pools.length ≤ (r.call c).pools.length := by
  have hmodify : ∀ (r : Registry) (p : PoolId) (f : PoolState → PoolState),
      (r.modifyPool p f).pools.length = r.pools.length :=
    fun r p f => List.length_modify ..
  cases c with
  | newPool => simp [call, newPool]
  | register p maxQueries =>
      rw [call, register]
      split
      · split
        · exact Nat.le_refl _
        · exact Nat.le_of_eq (hmodify _ p _).symm
      · exact Nat.le_refl _
  | record p x => rw [call]; split <;> exact Nat.le_refl _
  | close p =>
      rw [call, close]
      split
      · exact Nat.le_refl _
      · rw [notifyClosed, pools_repeat_deregister, hmodify]
        exact Nat.le_of_eq (hmodify r p _).symm
  | deregister p => exact Nat.le_refl _
  | recordHeld t x => exact Nat.le_refl _
  | snapshot p => exact Nat.le_refl _
  | dropIndex => exact Nat.le_refl _

/-- A call makes tables, writes them and takes none away; whose they are
stays. -/
theorem table?_call {table : Table} (h : r.table? t = some table) (c : Call) :
    ∃ table', (r.call c).table? t = some table' ∧ table'.pool = table.pool := by
  have hrecord : ∀ (u : TableId) (x : Execution), ∃ table',
      (r.record u x.sql x.elapsed x.started).table? t = some table'
        ∧ table'.pool = table.pool := by
    intro u x
    simp only [table?, record, List.getElem?_modify] at h ⊢
    rw [h]
    by_cases hu : u = t
    · refine ⟨table.record x.sql x.elapsed x.started, by simp [hu], ?_⟩
      simp only [Table.record, Table.bump]
      split <;> rfl
    · exact ⟨table, by simp [hu], rfl⟩
  cases c with
  | register p maxQueries =>
      rw [call]
      split
      · cases hp : r.tableOf? p with
        | some u => rw [register_of_some hp]; exact ⟨table, h, rfl⟩
        | none =>
            refine ⟨table, ?_, rfl⟩
            rw [table?, tables_register_of_none hp,
              List.getElem?_append_left (List.getElem?_eq_some_iff.1 h).1]
            exact h
      · exact ⟨table, h, rfl⟩
  | record p x =>
      rw [call]
      split
      · exact hrecord _ x
      · exact ⟨table, h, rfl⟩
  | recordHeld u x => exact hrecord u x
  | close p => exact ⟨table, by rw [call, table?, tables_close]; exact h, rfl⟩
  | newPool => exact ⟨table, h, rfl⟩
  | deregister p => exact ⟨table, h, rfl⟩
  | snapshot p => exact ⟨table, h, rfl⟩
  | dropIndex => exact ⟨table, h, rfl⟩

-- ============================================================= invariants

/-- Whether each pool's table was made for it, and will be dropped by a
listener of the pool. -/
structure Attended (r : Registry) : Prop where
  owned : ∀ {p t}, r.tableOf? p = some t →
    ∃ table, r.table? t = some table ∧ table.pool = p
  heard : ∀ {p t}, r.tableOf? p = some t → 0 < r.listeners p

/-- At first no pool has a table. -/
theorem attended_empty : Attended .empty := ⟨nofun, nofun⟩

/-- Every call leaves each table to a listener of its pool. -/
theorem attended_call (h : r.Attended) (c : Call) : (r.call c).Attended := by
  constructor
  · intro p t ht
    obtain ⟨hold, -⟩ | ⟨n, -, -, hnew, htables, -⟩ | ⟨-, hgone⟩ :=
      call_cases r c p
    · obtain ⟨table, htable, hpool⟩ := h.owned (hold ▸ ht)
      obtain ⟨table', htable', hpool'⟩ := table?_call htable c
      exact ⟨table', htable', hpool'.trans hpool⟩
    · obtain rfl := Option.some.inj (hnew.symm.trans ht)
      exact ⟨.create p n, by rw [table?, htables, List.getElem?_concat_length],
        rfl⟩
    · rw [hgone] at ht
      cases ht
  · intro p t ht
    obtain ⟨hold, hle⟩ | ⟨n, -, -, -, -, hmore⟩ | ⟨-, hgone⟩ :=
      call_cases r c p
    · have hpos := h.heard (hold ▸ ht)
      omega
    · omega
    · rw [hgone] at ht
      cases ht

/-- Whether a table was made and is not the one of any pool. -/
structure Dropped (r : Registry) (t : TableId) : Prop where
  made : t < r.tables.length
  gone : ∀ q, r.tableOf? q ≠ some t

/-- A table that was dropped does not come back. -/
theorem Dropped.call (h : r.Dropped t) (c : Call) : (r.call c).Dropped t := by
  refine ⟨?_, fun q hq => ?_⟩
  · obtain ⟨table, htable, -⟩ :=
      table?_call (r := r) (t := t) (List.getElem?_eq_getElem h.made) c
    exact (List.getElem?_eq_some_iff.1 htable).1
  · obtain ⟨hold, -⟩ | ⟨n, -, -, hnew, -⟩ | ⟨-, hgone⟩ := call_cases r c q
    · exact h.gone q (hold ▸ hq)
    · exact Nat.lt_irrefl _ (Option.some.inj (hnew.symm.trans hq) ▸ h.made)
    · rw [hgone] at hq
      cases hq

/-- A table that is dropped is never any pool's again. -/
theorem Dropped.run (h : r.Dropped t) (calls : List Call) :
    (r.run calls).Dropped t :=
  run_always (P := (Dropped · t)) (fun _ c h => h.call c) calls h

/-- Whether a call ends the time in which a pool has its table: the pool
is taken out or closed, or there is no registry any more. -/
def Call.Ends (p : PoolId) (c : Call) : Prop :=
  c = .deregister p ∨ c = .close p ∨ c = .dropIndex

/-- A pool that closes has no table any more. -/
theorem tableOf?_close_self (h : r.Attended) (hopen : r.isClosed p = false) :
    (r.close p).tableOf? p = none := by
  rw [tableOf?_close hopen]
  split
  · rfl
  · next hnone =>
      cases hp : r.tableOf? p with
      | none => rfl
      | some t => exact absurd ⟨rfl, h.heard hp⟩ hnone

end Registry

-- ============================================================== sessions

namespace Session

/-- The session after some steps, each on a pool by name. -/
def run (s : Session) (steps : List (String × Step)) : Session :=
  steps.foldl (fun s st => (s.step st.1 st.2).2) s

/-- Whether the registry of a session comes about by calls, and the
pools that have names are there. -/
structure Led (s : Session) : Prop where
  reached : ∃ calls, s.registry = Registry.empty.run calls
  pools : ∀ {name p}, s.pools.lookup name = some p → p < s.registry.pools.length

variable {s : Session}

/-- A session closes a pool in its registry. -/
theorem closePool_eq (s : Session) (p : PoolId) :
    s.closePool p = { s with registry := s.registry.close p } := by
  rw [closePool, Registry.close]
  split <;> rfl

/-- A call keeps a session on its way. -/
theorem Led.call (h : s.Led) {t : Session} (c : Registry.Call)
    (ht : t.registry = s.registry.call c) (hpools : t.pools = s.pools) :
    t.Led := by
  obtain ⟨calls, hcalls⟩ := h.reached
  refine ⟨⟨calls ++ [c], ?_⟩, fun hp => ?_⟩
  · rw [Registry.run_append, ← hcalls]
    exact ht
  · rw [hpools] at hp
    rw [ht]
    exact Nat.lt_of_lt_of_le (h.pools hp) (Registry.length_pools_call ..)

/-- The pool of a name is there, made if it was not. -/
theorem led_pool (h : s.Led) (name : String) :
    (s.pool name).2.Led
      ∧ (s.pool name).1 < (s.pool name).2.registry.pools.length := by
  rw [pool]
  cases hp : s.pools.lookup name with
  | some p => exact ⟨h, h.pools hp⟩
  | none =>
      obtain ⟨calls, hcalls⟩ := h.reached
      have hlen : s.registry.newPool.2.pools.length
          = s.registry.pools.length + 1 := List.length_append
      refine ⟨⟨⟨calls ++ [.newPool], ?_⟩, fun {other q} hq => ?_⟩, ?_⟩
      · rw [Registry.run_append, ← hcalls]
        rfl
      · show q < s.registry.newPool.2.pools.length
        rw [List.lookup_append] at hq
        cases hold : s.pools.lookup other with
        | some q' =>
            rw [hold] at hq
            obtain rfl := Option.some.inj hq
            exact hlen ▸ Nat.lt_succ_of_lt (h.pools hold)
        | none =>
            rw [hold, Option.none_or, List.lookup_cons] at hq
            split at hq
            · obtain rfl := Option.some.inj hq
              exact hlen ▸ Nat.lt_succ_self _
            · cases hq
      · exact hlen ▸ Nat.lt_succ_self _

/-- Every step of a session is a matter of calls. -/
theorem led_act (h : s.Led) {p : PoolId} (hp : p < s.registry.pools.length)
    (name : String) (step : Step) : (s.act name p step).2.Led := by
  cases step with
  | register maxQueries =>
      rw [act, withRegistry]
      split
      · next hindex =>
          refine h.call (.register p maxQueries) ?_ rfl
          rw [Registry.call, if_pos ⟨hp, hindex⟩]
      · exact h
  | record held sql elapsed moment =>
      rw [act]
      cases s.tableFor name p held with
      | none => exact h
      | some t => exact h.call (.recordHeld t ⟨sql, elapsed, moment⟩) rfl rfl
  | get held sql => exact h
  | summaries held => exact h
  | deregister =>
      rw [act, withRegistry]
      split
      · exact h.call (.deregister p) rfl rfl
      · exact h
  | snapshot =>
      rw [act, withRegistry]
      split <;> exact h
  | close =>
      rw [act, closePool_eq]
      exact h.call (.close p) rfl rfl
  | dropRegistry => exact h.call .dropIndex rfl rfl

/-- Whatever steps a session takes, its registry has come about by
calls. -/
theorem exists_calls (steps : List (String × Step)) :
    ∃ calls, (start.run steps).registry = Registry.empty.run calls := by
  have hrun : ∀ {s : Session}, s.Led → (s.run steps).Led := by
    induction steps with
    | nil => exact fun h => h
    | cons st steps ih =>
        intro s h
        obtain ⟨hled, hp⟩ := led_pool h st.1
        exact ih (led_act hled hp st.1 st.2)
  exact (hrun ⟨⟨[], rfl⟩, fun h => by cases h⟩).reached

end Session

-- =========================================================== tearing down

end PooledChain.Statistics
