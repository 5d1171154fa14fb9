/-
What is the same behind links that only wrap.

Two states look the same through such links if the driver's side, the
physical connections, the pools and the ends of the chains are the same
(`State.Veiled`). What layers they have, and what the links remember, is
left open: there the chains may differ.

What a step does to a state on one side is told apart by what it leaves
alone:

- `Beside`: everything but the driver's side, the layers, and what is
  recorded and counted;
- `Calls`: everything but the driver's side and what is recorded and
  counted;
- `Unseen`: everything but what is recorded and counted. So far the
  links get with what they hear;
- `Spares`: the layers, the shelves, and which of the driver's
  statements are open.

Whatever is done to two such states alike, but with statements, is
answered the same, leaves them such, and spares the statements on both
sides (`Act.Agree`). For the links of a chain pass on what makes no
statement, and what they hear they keep to themselves.
-/
import PooledChain.Proofs.Heap.Change
import PooledChain.Proofs.Heap.Supply

namespace PooledChain

variable {s t u : State} {c : ConnectionId}

namespace Statistics.Registry

/-- Marking a pool closed makes it one of the closed ones. -/
theorem standing_markClosed (r : Registry) (q : PoolId) :
    (r.markClosed q).standing = r.standing.modify q fun _ => true :=
  map_modify_of_comm (g := PoolState.closed) (fun _ => rfl) r.pools q

/-- Telling that a pool closed makes tables go, and no pool. -/
theorem standing_notifyClosed (r : Registry) (q : PoolId) :
    (r.notifyClosed q).standing = r.standing := by
  have hgo : ∀ (n : Nat) (r : Registry),
      (Nat.repeat (·.deregister q) n r).standing = r.standing := by
    intro n
    induction n with
    | zero => exact fun _ => rfl
    | succ n ih => exact ih
  exact (hgo _ _).trans (r.standing_modifyPool q fun _ => rfl)

end Statistics.Registry

namespace State

-- ====================================================== on one side

/-- What gets at the driver's side and the layers, and records and counts
at most. -/
structure Beside (s t : State) : Prop where
  physicals : t.physicals = s.physicals
  returns : t.returns = s.returns
  connections : t.connections = s.connections
  caches : t.caches = s.caches
  watched : t.watched = s.watched
  standing : t.statistics.standing = s.statistics.standing

theorem Beside.refl (s : State) : s.Beside s := ⟨rfl, rfl, rfl, rfl, rfl, rfl⟩

theorem Beside.trans (h₁ : s.Beside t) (h₂ : t.Beside u) : s.Beside u where
  physicals := h₂.physicals.trans h₁.physicals
  returns := h₂.returns.trans h₁.returns
  connections := h₂.connections.trans h₁.connections
  caches := h₂.caches.trans h₁.caches
  watched := h₂.watched.trans h₁.watched
  standing := h₂.standing.trans h₁.standing

/-- What calls the driver, and records and counts at most. -/
structure Calls (s t : State) : Prop extends s.Beside t where
  layers : t.layers = s.layers

theorem Calls.refl (s : State) : s.Calls s := ⟨.refl s, rfl⟩

theorem Calls.trans (h₁ : s.Calls t) (h₂ : t.Calls u) : s.Calls u :=
  ⟨h₁.toBeside.trans h₂.toBeside, h₂.layers.trans h₁.layers⟩

/-- What records and counts at most. -/
structure Unseen (s t : State) : Prop extends s.Calls t where
  native : t.native = s.native

theorem Unseen.refl (s : State) : s.Unseen s := ⟨.refl s, rfl⟩

theorem Unseen.trans (h₁ : s.Unseen t) (h₂ : t.Unseen u) : s.Unseen u :=
  ⟨h₁.toCalls.trans h₂.toCalls, h₂.native.trans h₁.native⟩

/-- What neither makes nor closes a statement, and leaves layers and
shelves as they are. -/
structure Spares (s t : State) : Prop where
  layers : t.layers = s.layers
  caches : t.caches = s.caches
  watched : t.watched = s.watched
  opened : ∀ n, t.native.HasOpen n ↔ s.native.HasOpen n

theorem Spares.refl (s : State) : s.Spares s := ⟨rfl, rfl, rfl, fun _ => .rfl⟩

theorem Spares.trans (h₁ : s.Spares t) (h₂ : t.Spares u) : s.Spares u where
  layers := h₂.layers.trans h₁.layers
  caches := h₂.caches.trans h₁.caches
  watched := h₂.watched.trans h₁.watched
  opened n := (h₂.opened n).trans (h₁.opened n)

/-- What only records and counts spares every statement. -/
theorem Unseen.spares (h : s.Unseen t) : s.Spares t :=
  ⟨h.layers, h.caches, h.watched, fun n => by rw [h.native]⟩

/-- The driver is called, and makes and closes nothing. -/
theorem Spares.call {g : Bool} {st : Native.Store}
    (h : Native.Store.Steady g s.native st) :
    s.Spares { s with native := st } :=
  ⟨rfl, rfl, rfl, h.hasOpen_iff⟩

-- ====================================================== on both sides

/-- The ends of the chains. -/
def terminals (s : State) : List (Option Terminal) :=
  s.connections.map (Option.map (·.terminal))

/-- Whether all chains are made of links that only wrap. -/
structure Wrapped (s : State) : Prop where
  wraps : ∀ {c x}, s.connection? c = some x →
    ∀ link ∈ x.links, link.isWrapper = true

/-- Links are set up once and for all. -/
theorem Wrapped.of_links (h : s.Wrapped)
    (hlinks : ∀ {c x}, t.connection? c = some x →
      ∃ y, s.connection? c = some y ∧ y.links = x.links) : t.Wrapped := by
  refine ⟨fun {c x} hx => ?_⟩
  obtain ⟨y, hy, hsame⟩ := hlinks hx
  rw [← hsame]
  exact h.wraps hy

theorem Wrapped.congr (h : s.Wrapped) (hc : t.connections = s.connections) :
    t.Wrapped :=
  h.of_links fun {c x} hx => by
    rw [connection?, hc] at hx
    exact ⟨x, hx, rfl⟩

/-- Whether the ends of two chains are attached alike, to the same. -/
structure Abreast (s t : State) (c d : ConnectionId) : Prop where
  native : t.native = s.native
  physicals : t.physicals = s.physicals
  terminal : (t.connection? d).map (·.terminal)
    = (s.connection? c).map (·.terminal)

namespace Abreast

variable {d : ConnectionId}

/-- The ends of the two chains are the same. -/
theorem terminalOf (h : s.Abreast t c d) :
    t.terminalOf d = s.terminalOf c := by
  rw [State.terminalOf, h.terminal, State.terminalOf]

/-- The physical connections are the same. -/
theorem physical? (h : s.Abreast t c d) (x : PhysicalId) :
    t.physical? x = s.physical? x := by
  rw [State.physical?, State.physical?, h.physicals]

/-- Both connections are closed or neither. -/
theorem isClosedConnection (h : s.Abreast t c d) :
    t.isClosedConnection d = s.isClosedConnection c := by
  have hterminal : t.isClosedTerminal = s.isClosedTerminal := by
    funext e
    unfold State.isClosedTerminal State.isDiscarded
    simp only [h.physical?]
  have hmap : ∀ (u : State) (i : ConnectionId), u.isClosedConnection i
      = (((u.connection? i).map (·.terminal)).map u.isClosedTerminal).getD
        true := by
    intro u i
    rw [State.isClosedConnection, Option.map_map]
    rfl
  rw [hmap, hmap, h.terminal, hterminal]

end Abreast

/-- Whether two states look the same through their links. -/
structure Veiled (s t : State) : Prop where
  native : t.native = s.native
  physicals : t.physicals = s.physicals
  returns : t.returns = s.returns
  terminals : t.terminals = s.terminals
  standing : t.statistics.standing = s.statistics.standing
  left : s.Wrapped
  right : t.Wrapped

namespace Veiled

variable {s' t' : State}

/-- A connection ends alike in both states, if it is there. -/
theorem terminal? (h : s.Veiled t) (c : ConnectionId) :
    (t.connection? c).map (·.terminal)
      = (s.connection? c).map (·.terminal) := by
  have hmap : ∀ u : State, (u.connection? c).map (·.terminal)
      = (u.terminals[c]?).join := by
    intro u
    rw [connection?, State.terminals, List.getElem?_map]
    rcases u.connections[c]? with _ | ⟨_ | x⟩ <;> rfl
  rw [hmap, hmap, h.terminals]

/-- A connection is there on both sides, or on none. -/
theorem connection? (h : s.Veiled t) (c : ConnectionId) :
    (s.connection? c = none ∧ t.connection? c = none)
      ∨ ∃ x y, s.connection? c = some x ∧ t.connection? c = some y
        ∧ y.terminal = x.terminal := by
  have hterminal := h.terminal? c
  cases hx : s.connection? c with
  | none =>
      rw [hx] at hterminal
      exact .inl ⟨rfl, Option.map_eq_none_iff.1 hterminal⟩
  | some x =>
      rw [hx] at hterminal
      obtain ⟨y, hy, hsame⟩ := Option.map_eq_some_iff.1 hterminal
      exact .inr ⟨x, y, rfl, hy, hsame⟩

/-- As many connections were made in both. -/
theorem length_connections (h : s.Veiled t) :
    t.connections.length = s.connections.length := by
  have hlength := congrArg List.length h.terminals
  rwa [State.terminals, State.terminals, List.length_map, List.length_map]
    at hlength

/-- The ends of a chain answer the same on both sides. -/
theorem abreast (h : s.Veiled t) (c : ConnectionId) : s.Abreast t c c :=
  ⟨h.native, h.physicals, h.terminal? c⟩

/-- Every connection has the same end in both states. -/
theorem terminalOf (h : s.Veiled t) (c : ConnectionId) :
    t.terminalOf c = s.terminalOf c := (h.abreast c).terminalOf

/-- Every connection is closed in both states or in neither. -/
theorem isClosedConnection (h : s.Veiled t) (c : ConnectionId) :
    t.isClosedConnection c = s.isClosedConnection c :=
  (h.abreast c).isClosedConnection

/-- Every physical connection is the same in both states. -/
theorem physical? (h : s.Veiled t) (x : PhysicalId) :
    t.physical? x = s.physical? x := (h.abreast 0).physical? x

/-- Every pool is closed in both states or in neither. -/
theorem isClosedPool (h : s.Veiled t) (q : PoolId) :
    t.statistics.isClosed q = s.statistics.isClosed q := by
  have hmap : ∀ r : Statistics.Registry,
      r.isClosed q = (r.standing[q]?).getD true := by
    intro r
    rw [Statistics.Registry.isClosed, Statistics.Registry.pool?,
      Statistics.Registry.standing, List.getElem?_map]
  rw [hmap, hmap, h.standing]

-- ================================================ what is done to both

/-- What does not get to the ends of the chains shows on the driver's
side only. -/
theorem beside (h : s.Veiled t) (hs : s.Beside s') (ht : t.Beside t')
    (hn : t'.native = s'.native) : s'.Veiled t' where
  native := hn
  physicals := by rw [ht.physicals, h.physicals, hs.physicals]
  returns := by rw [ht.returns, h.returns, hs.returns]
  terminals := by
    rw [State.terminals, ht.connections, State.terminals, hs.connections]
    exact h.terminals
  standing := by rw [ht.standing, h.standing, hs.standing]
  left := h.left.congr hs.connections
  right := h.right.congr ht.connections

/-- States look the same after what is not seen. -/
theorem unseen (h : s.Veiled t) (hs : s.Unseen s') (ht : t.Unseen t') :
    s'.Veiled t' :=
  h.beside hs.toBeside ht.toBeside (by rw [ht.native, h.native, hs.native])

/-- The driver is called on both sides. -/
theorem call (h : s.Veiled t) (st : Native.Store) :
    { s with native := st }.Veiled { t with native := st } :=
  h.beside ⟨rfl, rfl, rfl, rfl, rfl, rfl⟩ ⟨rfl, rfl, rfl, rfl, rfl, rfl⟩ rfl

/-- States look the same after the same change of a physical connection. -/
theorem modifyPhysical (h : s.Veiled t) (x : PhysicalId)
    (f : Physical → Physical) :
    (s.modifyPhysical x f).Veiled (t.modifyPhysical x f) :=
  ⟨h.native, congrArg (·.modify x f) h.physicals, h.returns, h.terminals,
    h.standing, ⟨h.left.wraps⟩, ⟨h.right.wraps⟩⟩

/-- States look the same after the same change of a chain's end. -/
theorem modifyTerminal (h : s.Veiled t) (c : ConnectionId)
    (f : Terminal → Terminal) :
    (s.modifyTerminal c f).Veiled (t.modifyTerminal c f) := by
  have hterminals : ∀ u : State, (u.modifyTerminal c f).terminals
      = u.terminals.modify c (Option.map f) := fun u =>
    map_modify_of_comm (fun o => by cases o <;> rfl) u.connections c
  have hwrapped : ∀ {u : State}, u.Wrapped →
      (u.modifyTerminal c f).Wrapped := fun hu =>
    hu.of_links (Act.aside_modifyTerminal false _ c f).links
  exact ⟨h.native, h.physicals, h.returns, by
      rw [hterminals, hterminals, h.terminals],
    h.standing, hwrapped h.left, hwrapped h.right⟩

/-- Something is returned to a pool. -/
theorem giveBack (h : s.Veiled t) (e : PoolId × PhysicalId) :
    { s with returns := s.returns ++ [e] }.Veiled
      { t with returns := t.returns ++ [e] } :=
  ⟨h.native, h.physicals, congrArg (· ++ [e]) h.returns, h.terminals,
    h.standing, ⟨h.left.wraps⟩, ⟨h.right.wraps⟩⟩

/-- A pool is made or closed. -/
theorem modifyPools (h : s.Veiled t)
    (f : Statistics.Registry → Statistics.Registry)
    (g : List Bool → List Bool)
    (hf : ∀ r, (f r).standing = g r.standing) :
    { s with statistics := f s.statistics }.Veiled
      { t with statistics := f t.statistics } :=
  ⟨h.native, h.physicals, h.returns, h.terminals, by
    show (f t.statistics).standing = (f s.statistics).standing
    rw [hf, hf, h.standing], ⟨h.left.wraps⟩, ⟨h.right.wraps⟩⟩

end Veiled

end State

namespace Act

open State (Spares Unseen)

variable {α β : Type}

/-- Whether two answers are the same, and the states they come with look
the same and have the statements that were there. -/
structure Agrees (s t : State) (r r' : Except Error α × State) : Prop where
  answer : r'.1 = r.1
  veiled : r.2.Veiled r'.2
  left : s.Spares r.2
  right : t.Spares r'.2

theorem Agrees.refl (h : s.Veiled t) (a : Except Error α) :
    Agrees s t (a, s) (a, t) :=
  ⟨rfl, h, .refl s, .refl t⟩

/-- What happened before. -/
theorem Agrees.after {s' t' : State} {r r' : Except Error α × State}
    (h : Agrees s' t' r r') (hs : s.Spares s') (ht : t.Spares t') :
    Agrees s t r r' :=
  ⟨h.answer, h.veiled, hs.trans h.left, ht.trans h.right⟩

theorem Agrees.bind {x y : Act α} {f g : α → Act β}
    (hx : Agrees s t (x.run s) (y.run t))
    (hf : ∀ a u v, u.Veiled v → Agrees u v ((f a).run u) ((g a).run v)) :
    Agrees s t ((x >>= f).run s) ((y >>= g).run t) := by
  rw [run_bind, run_bind]
  rcases hr : x.run s with ⟨e | a, u⟩ <;>
    rcases hr' : y.run t with ⟨e' | a', v⟩ <;> rw [hr, hr'] at hx
  · obtain rfl : e' = e := Except.error.inj hx.answer
    exact ⟨rfl, hx.veiled, hx.left, hx.right⟩
  · cases hx.answer
  · cases hx.answer
  · obtain rfl : a' = a := Except.ok.inj hx.answer
    exact (hf a' u v hx.veiled).after hx.left hx.right

/-- Whether an act is the same to both of two states that look the same
through their links. -/
def Agree (x : Act α) : Prop :=
  ∀ s t : State, s.Veiled t → Agrees s t (x.run s) (x.run t)

namespace Agree

theorem pure (a : α) : Agree (Pure.pure a) := fun _ _ h => .refl h _

theorem lift (r : Except Error α) : Agree (liftM r) := fun _ _ h => .refl h r

theorem bind {x : Act α} {f : α → Act β} (hx : Agree x)
    (hf : ∀ a, Agree (f a)) : Agree (x >>= f) := fun s t h =>
  (hx s t h).bind fun a => hf a

/-- What an act looks at is the same. -/
theorem get_bind {f : State → Act β}
    (h : ∀ s t, s.Veiled t → Agrees s t ((f s).run s) ((f t).run t)) :
    Agree (get >>= f) := h

/-- A call of the driver's that neither makes nor closes a statement is the
same to both. -/
theorem native {x : Native.Act α} (hx : x.IsSteady) :
    Agree (Act.native x) := by
  intro s t h
  rw [run_native, run_native, h.native]
  have hsteady := hx false s.native
  refine ⟨rfl, h.call _, .call hsteady, .call (g := false) ?_⟩
  rw [h.native]
  exact hsteady

/-- A change that keeps what is under the veil there is the same to both. -/
theorem modify {f : State → State}
    (hf : ∀ s t, s.Veiled t → (f s).Veiled (f t))
    (hs : ∀ s : State, s.Spares (f s)) : Agree (modify f : Act PUnit) :=
  fun s t h => ⟨rfl, hf s t h, hs s, hs t⟩

end Agree

/-- Whether two answers are the same, and the driver's side, which became
the same, is all that has changed. -/
structure Echoes (s t : State) (r r' : Except Error α × State) : Prop where
  answer : r'.1 = r.1
  left : r.2 = { s with native := r'.2.native }
  right : r'.2 = { t with native := r'.2.native }
  steady : Native.Store.Steady false s.native r'.2.native

namespace Echoes

theorem refl (h : t.native = s.native) (a : Except Error α) :
    Echoes s t (a, s) (a, t) :=
  ⟨rfl, by rw [h], rfl, by rw [h]; exact .refl _⟩

theorem native (h : t.native = s.native) {x : Native.Act α} (hx : x.IsSteady)
    (f : α → β) :
    Echoes s t ((do return f (← native x) : Act β).run s)
      ((do return f (← native x) : Act β).run t) := by
  rw [run_bind, run_bind, run_native, run_native, h]
  have hsteady := hx false s.native
  rcases hr : x.run s.native with ⟨e | a, st⟩ <;> rw [hr] at hsteady
  · exact ⟨rfl, rfl, rfl, hsteady⟩
  · exact ⟨rfl, rfl, rfl, hsteady⟩

/-- States that look the same and echo an answer agree on it. -/
theorem agrees {r r' : Except Error α × State} (hr : Echoes s t r r')
    (h : s.Veiled t) : Agrees s t r r' where
  answer := hr.answer
  veiled := by
    rw [hr.left, hr.right]
    exact h.call _
  left := by
    rw [hr.left]
    exact .call hr.steady
  right := by
    rw [hr.right]
    exact .call (by rw [h.native]; exact hr.steady)

end Echoes

-- ============================================================ the terminal

variable {op : ConnectionOp}

theorem agree_terminal (c : ConnectionId) : Agree (terminal c) := by
  intro s t h
  rw [run_terminal, run_terminal, h.terminalOf]
  exact .refl h _

/-- The end of a chain is changed. -/
theorem agree_modifyTerminal (c : ConnectionId) (f : Terminal → Terminal) :
    Agree (modify (·.modifyTerminal c f) : Act PUnit) :=
  .modify (fun _ _ h => h.modifyTerminal c f)
    fun _ => ⟨rfl, rfl, rfl, fun _ => .rfl⟩

theorem agree_closeTerminal (c : ConnectionId) : Agree (closeTerminal c) := by
  refine .bind (agree_terminal c) fun e => ?_
  split
  · exact .pure _
  · refine .bind (agree_modifyTerminal c _) fun _ => ?_
    split
    · exact .bind (.modify (fun s t h => h.giveBack _)
        fun _ => ⟨rfl, rfl, rfl, fun _ => .rfl⟩) fun _ => .pure _
    · exact .pure _

/-- Whether something can be unwrapped to is answered the same in both, with
nothing done. -/
theorem exists_wraps (h : t.native = s.native)
    (hp : ∀ x, t.physical? x = s.physical? x) (x : PhysicalId)
    (target : WrapTarget) : ∃ b, (wraps x target).run s = (.ok b, s)
      ∧ (wraps x target).run t = (.ok b, t) := by
  cases target with
  | pooled => exact ⟨true, rfl, rfl⟩
  | native name =>
      refine ⟨_, rfl, ?_⟩
      unfold wraps
      simp only [run_bind, run_get, hp, h, run_pure]

/-- The pooled connection itself echoes what makes no statement. -/
theorem echoes_askPhysical (h : t.native = s.native)
    (hp : ∀ x, t.physical? x = s.physical? x) (c d : ConnectionId) (x : PhysicalId)
    (hk : op.creates? = none) :
    Echoes s t ((askPhysical c x op).run s) ((askPhysical d x op).run t) := by
  unfold askPhysical
  rw [run_bind, run_get, run_bind, run_get]
  simp only [hp]
  generalize ((s.physical? x).map (·.native)).getD 0 = n
  have hnative : ∀ {α : Type} {x : Native.Act α} (_ : x.IsSteady)
      (f : α → ConnectionReply),
      Echoes s t ((do return f (← native x) : Act ConnectionReply).run s)
        ((do return f (← native x) : Act ConnectionReply).run t) :=
    fun hx f => .native h hx f
  cases op with
  | createStatement | prepareStatement | prepareCall => cases hk
  | isValid => exact hnative (Native.isSteady_isValid n) .bool
  | commit => exact hnative (Native.isSteady_commit n) fun _ => .unit
  | rollback => exact hnative (Native.isSteady_rollback n) fun _ => .unit
  | setAutoCommit b =>
      exact hnative (Native.isSteady_setAutoCommit n b) fun _ => .unit
  | autoCommit => exact hnative (Native.isSteady_autoCommit n) .bool
  | nativeSql sql => exact hnative (Native.isSteady_nativeSql n sql) .text
  | unwrap target =>
      obtain ⟨b, hs, ht⟩ := exists_wraps h hp x target
      simp only
      rw [run_bind_ok _ hs, run_bind_ok _ ht]
      cases b <;> exact .refl h _
  | isWrapperFor target =>
      obtain ⟨b, hs, ht⟩ := exists_wraps h hp x target
      simp only
      rw [run_bind_ok _ hs, run_bind_ok _ ht]
      exact .refl h _
  | close | isClosed => exact .refl h _

/-- The ends of chains that are attached alike echo what neither closes
them nor makes a statement. -/
theorem echoes_askTerminal {d : ConnectionId} (h : s.Abreast t c d)
    (hk : op.creates? = none) (hc : op ≠ .close) :
    Echoes s t ((askTerminal c op).run s) ((askTerminal d op).run t) := by
  by_cases hi : op = .isClosed
  · subst hi
    show Echoes s t (.ok (ConnectionReply.bool (s.isClosedConnection c)), s)
      (.ok (ConnectionReply.bool (t.isClosedConnection d)), t)
    rw [h.isClosedConnection]
    exact .refl h.native _
  rw [run_askTerminal hc hi, run_askTerminal hc hi, h.isClosedConnection,
    h.terminalOf]
  split
  · exact .refl h.native _
  · split
    · exact echoes_askPhysical h.native h.physical? c d _ hk
    · exact .refl h.native _

/-- The end of a chain answers the same to what makes no statement. -/
theorem agree_askTerminal (c : ConnectionId) (hk : op.creates? = none) :
    Agree (askTerminal c op) := by
  by_cases hc : op = .close
  · subst hc
    exact agree_closeTerminal c
  · exact fun s t h => (echoes_askTerminal (h.abreast c) hk hc).agrees h

-- ========================================================== the links

/-- What makes no statement is answered by the end of the chain. -/
theorem run_invokeOp_wrapped (hw : s.Wrapped) (c : ConnectionId)
    (hk : op.creates? = none) :
    (invokeOp c op).run s = match s.connection? c with
      | some _ => (askTerminal c op).run s
      | none => (.error (.closed .connection), s) := by
  unfold invokeOp
  rw [run_bind, run_get]
  simp only
  cases hx : s.connection? c with
  | none => rfl
  | some x =>
      refine run_askLinks_passed c (fun link hin => ?_) hk s
      rw [Link.isTransparent, hw.wraps hx link hin, Bool.true_or]

/-- What makes no statement is the same to both, whatever the links are. -/
theorem agree_invokeOp (c : ConnectionId) (hk : op.creates? = none) :
    Agree (invokeOp c op) := by
  intro s t h
  rw [run_invokeOp_wrapped h.left c hk, run_invokeOp_wrapped h.right c hk]
  rcases h.connection? c with ⟨hs, ht⟩ | ⟨x, y, hs, ht, -⟩
  · rw [hs, ht]
    exact .refl h _
  · rw [hs, ht]
    exact agree_askTerminal c hk s t h

/-- What makes no statement is not answered with one. -/
theorem outOf_invokeOp (hw : s.Wrapped) (c : ConnectionId)
    (hk : op.creates? = none) :
    outOf ((invokeOp c op).run s).1 = none := by
  rw [run_invokeOp_wrapped hw c hk]
  split
  · cases ho : outOf ((askTerminal c op).run s).1 with
    | none => rfl
    | some id =>
        have hasked : Asked (.free false) 0 op s [] [] _ :=
          asked_askTerminal c fun _ => trivial
        obtain ⟨kind, hkind⟩ := hasked.creates ho
        rw [hk] at hkind
        cases hkind
  · rfl

theorem agree_textOf (c : ConnectionId) (hk : op.creates? = none) :
    Agree (textOf c op) :=
  .bind (agree_invokeOp c hk) fun _ => .lift _

theorem agree_boolOf (c : ConnectionId) (hk : op.creates? = none) :
    Agree (boolOf c op) :=
  .bind (agree_invokeOp c hk) fun _ => .lift _

theorem agree_physicalOf (c : ConnectionId) (hk : op.creates? = none) :
    Agree (physicalOf c op) :=
  .bind (agree_invokeOp c hk) fun _ => .lift _

theorem agree_nativeNumber (c : ConnectionId) : Agree (nativeNumber c) := by
  refine .bind (agree_physicalOf c rfl) fun x => .get_bind fun s t h => ?_
  rw [h.physical?, h.native]
  split
  · exact .refl h _
  · exact .refl h _

/-- A link that only wraps keeps to itself what it hears. -/
theorem exists_hear {link : Link} (hlink : link.isWrapper = true)
    (self : LinkId) (event : Event) (s : State) :
    ∃ t, (hear link self event).run s = (.ok (), t) ∧ s.Unseen t := by
  cases link with
  | recorder config =>
      cases event with
      | attach pool physical =>
          refine ⟨_, rfl, ?_⟩
          cases pool with
          | none => exact ⟨⟨⟨rfl, rfl, rfl, rfl, rfl, rfl⟩, rfl⟩, rfl⟩
          | some q =>
              exact ⟨⟨⟨rfl, rfl, rfl, rfl, rfl,
                Statistics.Registry.standing_register _ _ _⟩, rfl⟩, rfl⟩
      | poolClosed q =>
          refine ⟨_, rfl, ?_⟩
          unfold State.leaveTable
          simp only
          split <;> exact ⟨⟨⟨rfl, rfl, rfl, rfl, rfl, rfl⟩, rfl⟩, rfl⟩
      | _ => exact ⟨s, rfl, .refl s⟩
  | decorator | counter => cases event <;> exact ⟨s, rfl, .refl s⟩
  | _ => cases hlink

/-- Links that only wrap hear of an event without anybody seeing it, and
then the end of the chain does. -/
theorem exists_hearAll (c : ConnectionId) (event : Event) {links : List Link}
    (hlinks : ∀ link ∈ links, link.isWrapper = true) (s : State) :
    ∃ t, s.Unseen t
      ∧ (hearAll c event links).run s = (hearTerminal c event).run t := by
  induction links generalizing s with
  | nil => exact ⟨s, .refl s, rfl⟩
  | cons link rest ih =>
      obtain ⟨t, hrun, ht⟩ := exists_hear (hlinks link List.mem_cons_self)
        ⟨c, rest.length⟩ event s
      obtain ⟨u, hu, hrest⟩ :=
        ih (fun l hl => hlinks l (List.mem_cons_of_mem _ hl)) t
      refine ⟨u, ht.trans hu, ?_⟩
      rw [hearAll, run_bind_ok _ hrun, hrest]

/-- The end of a chain hears of an event alike in both. -/
theorem agree_hearTerminal (c : ConnectionId) (event : Event) :
    Agree (hearTerminal c event) := by
  cases event with
  | attach | checkIn | disconnect => exact agree_modifyTerminal c _
  | poolStarted | poolClosed => exact .pure _

-- ====================================================== what a pool does

/-- Telling a chain of an event is the same to both. -/
theorem agree_tell (c : ConnectionId) (event : Event) :
    Agree (tell c event) := by
  refine .get_bind fun s t h => ?_
  rcases h.connection? c with ⟨hs, ht⟩ | ⟨x, y, hs, ht, -⟩
  · rw [hs, ht]
    exact .refl h _
  · rw [hs, ht]
    obtain ⟨s', hs', hrun⟩ := exists_hearAll c event (h.left.wraps hs) s
    obtain ⟨t', ht', hrun'⟩ := exists_hearAll c event (h.right.wraps ht) t
    have hheard := agree_hearTerminal c event s' t' (h.unseen hs' ht')
    rw [← hrun, ← hrun'] at hheard
    exact hheard.after hs'.spares ht'.spares

/-- A checkout is the same to both. -/
theorem agree_checkOut (c : ConnectionId) (pool : PoolId) (x : PhysicalId) :
    Agree (checkOut c pool x) :=
  .bind (.modify (fun _ _ h => h.modifyPhysical x _)
    fun _ => ⟨rfl, rfl, rfl, fun _ => .rfl⟩) fun _ => agree_tell c _

theorem agree_discardPhysical (x : PhysicalId) :
    Agree (discardPhysical x) := by
  refine .get_bind fun s t h => ?_
  rw [h.physical?]
  cases s.physical? x with
  | none => exact .refl h _
  | some p =>
      simp only
      split
      · exact .refl h _
      · have hgone := h.modifyPhysical x ({ · with discarded := true })
        have hspares : ∀ u : State, u.Spares
            { u.modifyPhysical x ({ · with discarded := true }) with native :=
              ((Native.closeConnection p.native).run u.native).2 } := fun u =>
          ⟨rfl, rfl, rfl, (Native.isSteady_closeConnection p.native false
            u.native).hasOpen_iff⟩
        have hsame := hgone.call
          ((Native.closeConnection p.native).run s.native).2
        refine ⟨?_, ?_, hspares s, hspares t⟩
        · show Except.ok ((Native.closeConnection p.native).run t.native).1
            = .ok ((Native.closeConnection p.native).run s.native).1
          rw [h.native]
        · show State.Veiled _
            { t.modifyPhysical x ({ · with discarded := true }) with native :=
              ((Native.closeConnection p.native).run t.native).2 }
          rw [h.native]
          exact hsame

/-- Discarding a connection is the same to both. -/
theorem agree_discardConnection (c : ConnectionId) (pool : PoolId)
    (x : PhysicalId) : Agree (discardConnection c pool x) :=
  .bind (agree_tell c _) fun _ => agree_discardPhysical x

theorem agree_tellAll (event : Event) (cs : List ConnectionId) :
    Agree (tellAll event cs) := by
  induction cs with
  | nil => exact .pure _
  | cons c cs ih => exact .bind (agree_tell c event) fun _ => ih

/-- Closing a pool is the same to both. -/
theorem agree_closePool (q : PoolId) (cs : List ConnectionId) :
    Agree (closePool q cs) := by
  refine .get_bind fun s t h => ?_
  rw [h.isClosedPool]
  have hclose : Agree (do
      modify fun s : State =>
        { s with statistics := s.statistics.markClosed q }
      tellAll (.poolClosed q) cs
      modify fun s : State =>
        { s with statistics := s.statistics.notifyClosed q }) := by
    have hmark : ∀ s t : State, s.Veiled t → State.Veiled
        { s with statistics := s.statistics.markClosed q }
        { t with statistics := t.statistics.markClosed q } := fun _ _ h =>
      h.modifyPools _ _ fun r => r.standing_markClosed q
    have hnotify : ∀ s t : State, s.Veiled t → State.Veiled
        { s with statistics := s.statistics.notifyClosed q }
        { t with statistics := t.statistics.notifyClosed q } := fun _ _ h =>
      h.modifyPools _ id fun r => r.standing_notifyClosed q
    exact .bind (.modify hmark fun _ => ⟨rfl, rfl, rfl, fun _ => .rfl⟩)
      fun _ => .bind (agree_tellAll _ cs)
        fun _ => .modify hnotify fun _ => ⟨rfl, rfl, rfl, fun _ => .rfl⟩
  split
  · exact hclose s t h
  · exact .refl h _

-- ========================================================= setting up

/-- What is installed with links that only wrap are counters. -/
theorem exists_installLinks (c : ConnectionId) {links : List Link}
    (hlinks : ∀ link ∈ links, link.isWrapper = true) (s : State) :
    ∃ counters, State.installLinks c s links = { s with counters } := by
  induction links generalizing s with
  | nil => exact ⟨s.counters, rfl⟩
  | cons link rest ih =>
      have hrest := ih fun l hl => hlinks l (List.mem_cons_of_mem _ hl)
      have hlink := hlinks link List.mem_cons_self
      rw [State.installLinks]
      cases link with
      | decorator | recorder => exact hrest s
      | counter => exact hrest _
      | _ => cases hlink

/-- A new pool has the same number in both. -/
theorem agrees_newPool (h : s.Veiled t) :
    Agrees s t (.ok s.newPool.1, s.newPool.2)
      (.ok t.newPool.1, t.newPool.2) where
  answer := by
    have hlength := congrArg List.length h.standing
    rw [Statistics.Registry.standing, Statistics.Registry.standing,
      List.length_map, List.length_map] at hlength
    exact congrArg Except.ok hlength
  veiled := h.modifyPools (·.newPool.2) (· ++ [false])
    Statistics.Registry.standing_newPool
  left := ⟨rfl, rfl, rfl, fun _ => .rfl⟩
  right := ⟨rfl, rfl, rfl, fun _ => .rfl⟩

/-- A new physical connection has the same number in both. -/
theorem agrees_newPhysical (h : s.Veiled t) (guarded : Bool) :
    Agrees s t (.ok (s.newPhysical guarded).1, (s.newPhysical guarded).2)
      (.ok (t.newPhysical guarded).1, (t.newPhysical guarded).2) where
  answer := congrArg (fun l : List Physical => Except.ok l.length) h.physicals
  veiled := by
    unfold State.newPhysical
    rw [h.native, h.physicals]
    exact ⟨rfl, rfl, h.returns, h.terminals, h.standing, ⟨h.left.wraps⟩,
      ⟨h.right.wraps⟩⟩
  left := ⟨rfl, rfl, rfl, (Native.Store.steady_connect guarded _).hasOpen_iff⟩
  right := ⟨rfl, rfl, rfl, (Native.Store.steady_connect guarded _).hasOpen_iff⟩

/-- Connections are made whose links only wrap. -/
theorem agrees_newConnection (h : s.Veiled t) {links links' : List Link}
    (hlinks : ∀ link ∈ links, link.isWrapper = true)
    (hlinks' : ∀ link ∈ links', link.isWrapper = true) :
    Agrees s t (.ok (s.newConnection links).1, (s.newConnection links).2)
      (.ok (t.newConnection links').1, (t.newConnection links').2) := by
  have hwrapped : ∀ {u : State} {links : List Link}, u.Wrapped →
      (∀ link ∈ links, link.isWrapper = true) → State.Wrapped
        { u with connections := u.connections ++ [some { links }] } :=
    fun {u links} hu hl => ⟨fun {c x} hx => by
      rw [State.connection?, List.getElem?_append] at hx
      split at hx
      · exact hu.wraps hx
      · rcases hc : c - u.connections.length with _ | i
        · rw [hc] at hx
          cases hx
          exact hl
        · rw [hc] at hx
          cases hx⟩
  obtain ⟨k, hk⟩ := exists_installLinks s.connections.length hlinks
    { s with connections := s.connections ++ [some { links }] }
  obtain ⟨k', hk'⟩ := exists_installLinks t.connections.length hlinks'
    { t with connections := t.connections ++ [some { links := links' }] }
  refine ⟨congrArg Except.ok h.length_connections, ?_, ?_, ?_⟩
  · show State.Veiled (State.installLinks _ _ links)
      (State.installLinks _ _ links')
    rw [hk, hk']
    refine ⟨h.native, h.physicals, h.returns, ?_, h.standing,
      ⟨(hwrapped h.left hlinks).wraps⟩, ⟨(hwrapped h.right hlinks').wraps⟩⟩
    show (t.connections ++ [_]).map _ = (s.connections ++ [_]).map _
    rw [List.map_append, List.map_append]
    exact congrArg (· ++ [some {}]) h.terminals
  · show s.Spares (State.installLinks _ _ links)
    rw [hk]
    exact ⟨rfl, rfl, rfl, fun _ => .rfl⟩
  · show t.Spares (State.installLinks _ _ links')
    rw [hk']
    exact ⟨rfl, rfl, rfl, fun _ => .rfl⟩

/-- A connection goes, and nothing was parked. -/
theorem agrees_dropConnection (h : s.Veiled t) (hs : s.caches = .empty)
    (ht : t.caches = .empty) (c : ConnectionId) :
    Agrees s t (.ok (), s.dropConnection c) (.ok (), t.dropConnection c) := by
  have hterminals : ∀ u : State, (u.dropConnection c).terminals
      = u.terminals.set c none := fun u => List.map_set ..
  have hwrapped : ∀ {u : State}, u.Wrapped →
      (u.dropConnection c).Wrapped := fun {u} hu =>
    hu.of_links fun {i x} hx => by
      rw [State.connection?, State.dropConnection] at hx
      simp only [List.getElem?_set] at hx
      split at hx
      · split at hx <;> cases hx
      · exact ⟨x, hx, rfl⟩
  have hspares : ∀ {u : State}, u.caches = .empty →
      u.Spares (u.dropConnection c) := fun {u} hu => by
    refine ⟨rfl, ?_, rfl, fun _ => .rfl⟩
    rw [State.dropConnection, hu]
    rfl
  exact ⟨rfl, ⟨h.native, h.physicals, h.returns, by
      rw [hterminals, hterminals, h.terminals], h.standing, hwrapped h.left,
    hwrapped h.right⟩, hspares hs, hspares ht⟩

end Act

end PooledChain
