/-
Steps that ask a connection for something.

Such a step sends one operation down the chain (`ConnectionStep.asked?`).
What the caller does with the answer is to read it and to name the
statement in it (`Act.Reads`). So the step leaves the state that asking
left, and it fails as asking failed (`Session.asks_onConnection`).
-/
import PooledChain.Proofs.Heap.Runs

namespace PooledChain

variable {α : Type} {c : ConnectionId} {op : ConnectionOp}

namespace Act

/-- Whether an act asks a connection for an operation and at most reads
the answer. -/
def Reads (c : ConnectionId) (op : ConnectionOp) (x : Act α) : Prop :=
  ∀ s : State, (x.run s).2 = ((invokeOp c op).run s).2
    ∧ ∀ e, ((invokeOp c op).run s).1 = .error e → (x.run s).1 = .error e

/-- The bare operation reads nothing of the answer. -/
theorem reads_invokeOp : Reads c op (invokeOp c op) :=
  fun _ => ⟨rfl, fun _ h => h⟩

/-- Reading the answer touches nothing. -/
theorem reads_read (read : ConnectionReply → Except Error α) :
    Reads c op (do read (← invokeOp c op) : Act α) := by
  intro s
  rw [run_read]
  exact ⟨rfl, fun e h => by rw [h]; rfl⟩

theorem reads_runOp : Reads c op (runOp c op) := by
  intro s
  unfold runOp
  rw [run_bind]
  rcases (invokeOp c op).run s with ⟨e | r, t⟩
  · exact ⟨rfl, fun e' h => by cases h; rfl⟩
  · exact ⟨rfl, fun e h => by cases h⟩

/-- The driver's number is read off the answer to one operation. -/
theorem reads_nativeNumber :
    Reads c (.unwrap (.native Native.connectionTypeName))
      (nativeNumber c) := by
  intro s
  unfold nativeNumber
  rw [run_bind, physicalOf, run_read c _ (ConnectionReply.toPhysical _)]
  rcases (invokeOp c _).run s with ⟨e | r, t⟩
  · exact ⟨rfl, fun e' h => by cases h; rfl⟩
  · refine ⟨?_, fun e h => by cases h⟩
    cases r with
    | physical y =>
        simp only [Except.bind, ConnectionReply.toPhysical]
        rw [run_bind, run_get]
        simp only
        split <;> rfl
    | _ => rfl

end Act

namespace Session

variable {s : Session}

-- ===================================================== finding it

/-- What the names of a step on a connection stand for: a pool, a
physical connection, and a connection that is there. -/
def target? (s : Session) (pool physical name : String) :
    Option (PoolId × PhysicalId × ConnectionId × Connection) := do
  let q ← s.pools.lookup pool
  let y ← s.physicals.lookup physical
  let c ← s.connections.lookup name
  let x ← s.state.connection? c
  return (q, y, c, x)

variable {pool physical name : String} {q : PoolId} {y : PhysicalId}
  {x : Connection} {step : ConnectionStep}

/-- Where the names stand for something, the step is on that. -/
theorem act_of_target? (h : s.target? pool physical name = some (q, y, c, x))
    (step : ConnectionStep) :
    s.act (.onConnection pool physical name step)
      = s.onConnection q y c x step := by
  simp only [target?, Option.bind_eq_bind, Option.bind_eq_some_iff,
    Option.pure_def, Option.some.injEq, Prod.mk.injEq] at h
  obtain ⟨q', hq, y', hy, c', hc, x', hx, rfl, rfl, rfl, rfl⟩ := h
  rw [act, hq, hy]
  simp only [hc, hx]

/-- A step that finds nothing changes nothing. -/
theorem act_of_target?_none (h : s.target? pool physical name = none)
    (step : ConnectionStep) :
    ∃ what, s.act (.onConnection pool physical name step)
      = (.missing what, s) := by
  rw [act]
  cases hq : s.pools.lookup pool with
  | none => exact ⟨_, rfl⟩
  | some q =>
      cases hy : s.physicals.lookup physical with
      | none => exact ⟨_, rfl⟩
      | some y =>
          simp only
          cases hc : s.connections.lookup name with
          | none => exact ⟨_, rfl⟩
          | some c =>
              simp only
              cases hx : s.state.connection? c with
              | none => exact ⟨_, rfl⟩
              | some x =>
                  have hfound : s.target? pool physical name
                      = some (q, y, c, x) := by
                    simp only [target?, hq, hy, hc, Option.bind_eq_bind,
                      Option.bind_some, hx]
                    rfl
                  rw [hfound] at h
                  cases h

/-- The connection that is meant has the name, and is there. -/
theorem lookup_of_target?
    (h : s.target? pool physical name = some (q, y, c, x)) :
    s.connections.lookup name = some c ∧ s.state.connection? c = some x := by
  simp only [target?, Option.bind_eq_bind, Option.bind_eq_some_iff,
    Option.pure_def, Option.some.injEq, Prod.mk.injEq] at h
  obtain ⟨q', hq, y', hy, c', hc, x', hx, rfl, rfl, rfl, rfl⟩ := h
  exact ⟨hc, hx⟩

theorem pool_of_target?
    (h : s.target? pool physical name = some (q, y, c, x)) :
    s.pools.lookup pool = some q := by
  simp only [target?, Option.bind_eq_bind, Option.bind_eq_some_iff,
    Option.pure_def, Option.some.injEq, Prod.mk.injEq] at h
  obtain ⟨q', hq, y', hy, c', hc, x', hx, rfl, rfl, rfl, rfl⟩ := h
  exact hq

-- ===================================================== asking it

/-- A connection that is there is asked from its first link on. -/
theorem run_invokeOp {c : ConnectionId} {x : Connection} {t : State}
    (hc : t.connection? c = some x) (op : ConnectionOp) :
    (Act.invokeOp c op).run t = (Act.askLinks c x.links op).run t := by
  unfold Act.invokeOp
  rw [Act.run_bind, Act.run_get]
  simp only [hc]

/-- What an act does to the state does not depend on how it is answered. -/
theorem state_answer (s : Session) (act : Act α) (reply : α → Reply) :
    (s.answer act reply).2.state = (act.run s.state).2 := by
  rw [answer, perform]
  rcases act.run s.state with ⟨_ | _, t⟩ <;> rfl

/-- What comes of a step that asks a connection for an operation. -/
structure Asks (c : ConnectionId) (op : ConnectionOp) (s : Session)
    (r : Reply × Session) : Prop where
  state : r.2.state = ((Act.invokeOp c op).run s.state).2
  failed : ∀ {e}, ((Act.invokeOp c op).run s.state).1 = .error e →
    r = (.failed e,
      { s with state := ((Act.invokeOp c op).run s.state).2 })

/-- An act that asks a connection may be answered in any way that touches
nothing. -/
theorem asks_perform {act : Act α} (h : act.Reads c op)
    {reply : α → Session → Reply × Session}
    (hreply : ∀ a (t : Session), (reply a t).2.state = t.state) :
    Asks c op s (s.perform act reply) := by
  obtain ⟨hstate, hfailed⟩ := h s.state
  rw [perform]
  rcases hr : act.run s.state with ⟨e | a, t⟩
  · rw [hr] at hstate hfailed
    refine ⟨hstate, fun {e'} he => ?_⟩
    cases hfailed e' he
    rw [← hstate]
  · rw [hr] at hstate hfailed
    refine ⟨(hreply a _).trans hstate, fun {e'} he => ?_⟩
    cases hfailed e' he

theorem asks_answer {act : Act α} (h : act.Reads c op) (reply : α → Reply) :
    Asks c op s (s.answer act reply) :=
  asks_perform h fun _ _ => rfl

/-- An operation that a caller uses asks the connection for it. -/
theorem asks_callConnection (s : Session) (c : ConnectionId)
    (op : ConnectionOp) : Asks c op s (s.callConnection c op) := by
  cases op with
  | isClosed | isValid | autoCommit | isWrapperFor | nativeSql =>
      exact asks_answer (Act.reads_read _) _
  | unwrap target =>
      rw [callConnection]
      exact asks_perform (Act.reads_read _) fun _ _ => rfl
  | createStatement | prepareStatement | prepareCall | close | commit
  | rollback | setAutoCommit => exact asks_answer Act.reads_runOp _

theorem asks_onConnection (h : step.asked? = some op) :
    Asks c op s (s.onConnection q y c x step) := by
  cases step with
  | call op => cases h; exact asks_callConnection s c op
  | create op name =>
      cases h
      rw [onConnection]
      exact asks_perform (Act.reads_read _) fun _ _ => rfl
  | nativeNumber => cases h; exact asks_answer Act.reads_nativeNumber _
  | invoke op name =>
      cases h
      rw [onConnection]
      exact asks_perform Act.reads_invokeOp fun r t => by cases r <;> rfl
  | reshape op shape =>
      cases h
      rw [onConnection]
      refine asks_perform Act.reads_invokeOp fun r t => ?_
      split <;> rfl
  | _ => cases h

end Session

end PooledChain
