/-
Asking a connection, as moves.

What is asked of a connection goes down its links; at the end the driver
may make a statement, and on the way up each link may put a facade
around it, or a cache may have answered from its shelf. `Asked` says
what is the same for a link, for all links below it and for the
terminal, and is shown for whole chains by induction on the links
(`asked_askLinks`):

- it is a sequence of moves, at the end of which the statement in the
  reply, if there is one, is on its way up;
- that statement is of the level of the links asked, at most, and it is
  open; one that the driver did not make for it has a facade;
- only an operation that creates statements is answered with one, and if
  all links are faithful it is of the kind and the SQL that were asked
  for.
-/
import PooledChain.Proofs.Heap.Later

namespace PooledChain

open Scene (Sound)

variable {p : Terms} {s t : State} {held loose : List LayerId}
  {place : Nat} {op : ConnectionOp}

/-- The statement in a reply. -/
def outOf : Except Error ConnectionReply → Option LayerId
  | .ok (.statement id) => some id
  | _ => none

/-- How asking ends. -/
structure Asked (p : Terms) (place : Nat) (op : ConnectionOp) (s : State)
    (held loose : List LayerId)
    (r : Except Error ConnectionReply × State) : Prop where
  moves : Moves p ⟨s, held, none, loose⟩ ⟨r.2, held, outOf r.1, loose⟩
  low : ∀ {id}, outOf r.1 = some id → (r.2.core id).level ≤ place
  creates : ∀ {id}, outOf r.1 = some id → ∃ kind, op.creates? = some kind
  opened : ∀ {id}, outOf r.1 = some id → ∃ n, r.2.Stands id n
    ∧ (n < s.native.statements.length → ∃ f, r.2.core id = .facade f)
  wanted : p.faithful → ∀ {id}, outOf r.1 = some id → ∃ l,
    r.2.layer? id = some l ∧ l.sql = op.sql? ∧ op.creates? = some l.kind

namespace Asked

variable {r : Except Error ConnectionReply × State}

/-- There is no statement in the reply. -/
theorem of_moves {a : Except Error ConnectionReply}
    (hm : Moves p ⟨s, held, none, loose⟩ ⟨t, held, none, loose⟩)
    (ha : outOf a = none) : Asked p place op s held loose (a, t) where
  moves := by
    rw [ha]
    exact hm
  low hid := by rw [ha] at hid; cases hid
  creates hid := by rw [ha] at hid; cases hid
  opened hid := by rw [ha] at hid; cases hid
  wanted _ _ hid := by rw [ha] at hid; cases hid

/-- Nothing happened that matters. -/
theorem of_aside {a : Except Error ConnectionReply}
    (h : Aside p.guarded s t) (ha : outOf a = none) :
    Asked p place op s held loose (a, t) :=
  of_moves (.aside h) ha

/-- What happened before. -/
theorem after (hs : Sound ⟨s, held, none, loose⟩)
    (hm : Moves p ⟨s, held, none, loose⟩ ⟨t, held, none, loose⟩)
    (h : Asked p place op t held loose r) :
    Asked p place op s held loose r where
  moves := hm.trans h.moves
  low := h.low
  creates := h.creates
  opened hid := by
    obtain ⟨n, hn, hf⟩ := h.opened hid
    exact ⟨n, hn, fun hlt => hf (Nat.lt_of_lt_of_le hlt (hm.statements_le hs))⟩
  wanted := h.wanted

theorem mono {place' : Nat} (h : Asked p place op s held loose r)
    (hle : place ≤ place') : Asked p place' op s held loose r :=
  ⟨h.moves, fun hid => Nat.le_trans (h.low hid) hle, h.creates, h.opened,
    h.wanted⟩

end Asked

/-- The terminal of a connection. -/
def State.terminalOf (s : State) (c : ConnectionId) : Terminal :=
  ((s.connection? c).map fun connection => connection.terminal).getD {}

namespace Act

-- ========================================================= the terminal

theorem run_terminal (c : ConnectionId) (s : State) :
    (terminal c).run s = (.ok (s.terminalOf c), s) := by
  unfold terminal State.terminalOf
  rw [run_bind, run_get]
  simp only
  cases s.connection? c <;> rfl

/-- Changing a terminal leaves other connections, and its own links, as they
are. -/
theorem connection?_modifyTerminal (s : State) (c c' : ConnectionId)
    (f : Terminal → Terminal) :
    (s.modifyTerminal c f).connection? c'
      = if c' = c then (s.connection? c').map fun x =>
          { x with terminal := f x.terminal }
        else s.connection? c' := by
  rw [State.connection?, State.modifyTerminal, List.getElem?_modify]
  by_cases h : c' = c
  · subst h
    rw [State.connection?]
    rcases s.connections[c']? with _ | ⟨_ | x⟩ <;> simp
  · have h' : ¬ c = c' := fun he => h he.symm
    rw [State.connection?]
    rcases s.connections[c']? with _ | ⟨_ | x⟩ <;> simp [h, h']

/-- A terminal has no part in layers, shelves and statements. -/
theorem aside_modifyTerminal (g : Bool) (s : State) (c : ConnectionId)
    (f : Terminal → Terminal) : Aside g s (s.modifyTerminal c f) where
  layers := rfl
  caches := rfl
  native := .refl _
  connections := List.length_modify ..
  links {c' x} hc := by
    rw [connection?_modifyTerminal] at hc
    split at hc
    · obtain ⟨y, hy, rfl⟩ := Option.map_eq_some_iff.1 hc
      exact ⟨y, hy, rfl⟩
    · exact ⟨x, hc, rfl⟩
  lists h := .inl h

/-- Closing a connection does not touch its statements. -/
theorem run_closeTerminal (g : Bool) (c : ConnectionId) (s : State) :
    ∃ t, Aside g s t ∧ (closeTerminal c).run s = (.ok .unit, t) := by
  unfold closeTerminal
  rw [run_bind, run_terminal]
  simp only
  split
  · exact ⟨s, .refl s, rfl⟩
  · rw [run_bind, run_modify]
    simp only
    have hmod := aside_modifyTerminal g s c
      fun t => { t with closed := true }
    split
    · refine ⟨_, hmod.trans (.of_alike ?_), rfl⟩
      exact ⟨rfl, rfl, rfl, rfl, fun h => h⟩
    · exact ⟨_, hmod, rfl⟩

/-- A terminal that is closed refuses everything but closing; one that is
open asks its physical connection. -/
theorem run_askTerminal (hc : op ≠ .close) (hi : op ≠ .isClosed)
    (c : ConnectionId) (s : State) :
    (askTerminal c op).run s
      = if s.isClosedConnection c then (.error (.closed .connection), s)
        else match (s.terminalOf c).attachment with
          | some a => (askPhysical c a.physical op).run s
          | none => (.error .detached, s) := by
  have hask : askTerminal c op = (do
      if (← get).isClosedConnection c then throw (.closed .connection)
      else match (← terminal c).attachment with
        | some a => askPhysical c a.physical op
        | none => throw .detached) := by
    cases op with
    | close => exact absurd rfl hc
    | isClosed => exact absurd rfl hi
    | _ => rfl
  rw [hask, run_bind, run_get]
  simp only
  split
  · rfl
  · rw [run_bind, run_terminal]
    simp only
    split <;> rfl

/-- A native handle is put around a statement that the driver makes. -/
theorem asked_handleOver {c : ConnectionId} {kind : StatementKind}
    {sql : Option String} {make : Native.Act Native.StatementId}
    (hmake : make.Makes kind sql) (hkind : op.creates? = some kind)
    (hsql : op.sql? = sql) (hcreates : op.creates?.isSome → p.creates c) :
    Asked p 0 op s held loose ((handleOver c kind sql make).run s) := by
  have hm := hmake s.native
  unfold handleOver
  rw [run_bind, run_native]
  rcases hr : make.run s.native with ⟨e | n, st⟩
  · rw [hr] at hm
    exact .of_aside (.of_native (hm p.guarded)) rfl
  · rw [hr] at hm
    obtain ⟨rfl, hmade⟩ := hm
    simp only [Except.mapError]
    rw [run_bind, run_modifyGet]
    let l : Layer := ⟨sql, kind, some c,
      .native (some s.native.statements.length)⟩
    have hlayer : (s.addLayer l).2.layer? s.layers.length = some l := by
      rw [State.layer?_addLayer_new]
    show Asked p 0 op s held loose (.ok (.statement s.layers.length),
      { (s.addLayer l).2 with native := st })
    have hc : p.creates c := hcreates (by rw [hkind]; rfl)
    refine ⟨.single (.make (l := l) hmade rfl rfl hc), fun he => ?_,
      fun _ => ?_, fun he => ?_, fun _ _ he => ?_⟩
    · cases he
      have hcore := State.core_eq_of_layer? hlayer
      show ((s.addLayer l).2.core s.layers.length).level ≤ 0
      rw [hcore]
      exact Nat.le_refl _
    · exact ⟨kind, hkind⟩
    · cases he
      have hcore := State.core_eq_of_layer? hlayer
      exact ⟨_, .native hcore, fun hlt => absurd hlt (Nat.lt_irrefl _)⟩
    · cases he
      exact ⟨l, hlayer, hsql.symm, hkind⟩

/-- A call of the driver that makes no statement. -/
theorem asked_native {α : Type} {x : Native.Act α} (hx : x.IsSteady)
    {f : α → ConnectionReply} (hf : ∀ a, outOf (.ok (f a)) = none) :
    Asked p place op s held loose
      ((do return f (← native x) : Act ConnectionReply).run s) := by
  have haside : Aside p.guarded s
      { s with native := (x.run s.native).2 } := .of_native (hx _ _)
  rw [run_bind, run_native]
  rcases hr : x.run s.native with ⟨e | a, st⟩
  · rw [hr] at haside
    exact .of_aside haside rfl
  · rw [hr] at haside
    exact .of_aside haside (hf a)

/-- The driver is asked, and makes a statement only where one may be
made. -/
theorem asked_askPhysical (c : ConnectionId) (x : PhysicalId)
    (hcreates : op.creates?.isSome → p.creates c) :
    Asked p 0 op s held loose ((askPhysical c x op).run s) := by
  unfold askPhysical
  rw [run_bind, run_get]
  simp only
  cases op with
  | createStatement =>
      exact asked_handleOver (Native.makes_createStatement _) rfl rfl hcreates
  | prepareStatement sql =>
      exact asked_handleOver (Native.makes_prepare _ _ _) rfl rfl hcreates
  | prepareCall sql =>
      exact asked_handleOver (Native.makes_prepare _ _ _) rfl rfl hcreates
  | isValid =>
      exact asked_native (f := .bool) (Native.isSteady_isValid _) fun _ => rfl
  | commit =>
      exact asked_native (f := fun _ => .unit) (Native.isSteady_commit _)
        fun _ => rfl
  | rollback =>
      exact asked_native (f := fun _ => .unit) (Native.isSteady_rollback _)
        fun _ => rfl
  | setAutoCommit b =>
      exact asked_native (f := fun _ => .unit)
        (Native.isSteady_setAutoCommit _ _) fun _ => rfl
  | autoCommit =>
      exact asked_native (f := .bool) (Native.isSteady_autoCommit _)
        fun _ => rfl
  | nativeSql sql =>
      exact asked_native (f := .text) (Native.isSteady_nativeSql _ _)
        fun _ => rfl
  | unwrap target =>
      simp only [wraps]
      cases target with
      | pooled => exact .of_aside (.refl s) rfl
      | native name =>
          simp only [run_bind, run_get, run_pure]
          split
          · exact .of_aside (.refl s) rfl
          · exact .of_aside (.refl s) rfl
  | isWrapperFor target =>
      simp only [wraps]
      cases target with
      | pooled => exact .of_aside (.refl s) rfl
      | native name =>
          simp only [run_bind, run_get, run_pure]
          exact .of_aside (.refl s) rfl
  | close => exact .of_aside (.refl s) rfl
  | isClosed => exact .of_aside (.refl s) rfl

/-- What the end of a chain answers. -/
theorem asked_askTerminal (c : ConnectionId)
    (hcreates : op.creates?.isSome → p.creates c) :
    Asked p 0 op s held loose ((askTerminal c op).run s) := by
  by_cases hc : op = .close
  · subst hc
    obtain ⟨t, ht, hrun⟩ := run_closeTerminal p.guarded c s
    show Asked p 0 _ s held loose ((closeTerminal c).run s)
    rw [hrun]
    exact .of_aside ht rfl
  by_cases hi : op = .isClosed
  · subst hi
    exact .of_aside (.refl s) rfl
  rw [run_askTerminal hc hi]
  split
  · exact .of_aside (.refl s) rfl
  · split
    · exact asked_askPhysical c _ hcreates
    · exact .of_aside (.refl s) rfl

end Act

end PooledChain
