/-
The steps of a session, as moves.

Callers and pools take ordinary steps (`Step.isOrdinary`); the others
take a facade apart or put one around a statement that somebody holds,
which no part of the library does. An ordinary step is a sequence of
moves (`moves_step`), under any terms that suit it (`Suits`): they must
let it close what it likes, break the stack of a statement that failed
for good, and empty the caches of a connection that goes.

So every session that is reached by ordinary steps is sound and tidy
(`Session.Sound.run`).
-/
import PooledChain.Proofs.Heap.Release

namespace PooledChain

-- ==================================================== ordinary steps

/-- Whether a step uses a statement without taking it apart. -/
def StatementStep.isOrdinary : StatementStep → Bool
  | call _ => true
  | dispatch _ => true
  | info => true
  | wrap _ _ => false
  | retire _ _ => false
  | forward _ _ => false

/-- Whether a step is one of callers and pools. -/
def Step.isOrdinary : Step → Bool
  | onStatement _ step => step.isOrdinary
  | _ => true

/-- The statements that callers hold. -/
def Session.held (s : Session) : List LayerId := s.statements.map (·.2)

/-- Whether a step tells a connection that its physical connection is
gone. -/
def Session.Discards (s : Session) (step : Step) (c : ConnectionId) : Prop :=
  match step with
  | .onConnection _ _ name (.disconnect _ _) =>
    s.connections.lookup name = some c
  | .onConnection _ _ name .discard => s.connections.lookup name = some c
  | _ => False

/-- The operation that a step asks of its connection. -/
def ConnectionStep.asked? : ConnectionStep → Option ConnectionOp
  | call op => some op
  | create op _ => some op
  | nativeNumber => some (.unwrap (.native Native.connectionTypeName))
  | invoke op _ => some op
  | reshape op _ => some op
  | _ => none

/-- Whether a step asks a connection that is there for a statement. -/
def Session.Creates (s : Session) (step : Step) (c : ConnectionId) : Prop :=
  match step with
  | .onConnection _ _ name step =>
    (step.asked?.bind (·.creates?)).isSome = true
      ∧ s.connections.lookup name = some c
      ∧ (s.state.connection? c).isSome = true
  | _ => False

/-- Whether a connection is gone after a step. -/
def Session.Drops (s : Session) (step : Step) (c : ConnectionId) : Prop :=
  match step with
  | .dropConnection name => s.connections.lookup name = some c
  | .newConnection name spec =>
    spec.links.isOk = true ∧ s.connections.lookup name = some c
  | _ => False

open Scene (Sound)

variable {p : Terms} {s t : State} {held loose : List LayerId}

/-- Whether all links are faithful. -/
def State.AllFaithful (s : State) : Prop :=
  ∀ {c x}, s.connection? c = some x → ∀ link ∈ x.links, link.isFaithful = true

-- ======================================================== statements

namespace Act

/-- A statement that a caller holds is on no shelf, and neither is
anything under it. -/
theorem not_parked_of_held (h : Sound ⟨s, held, none, loose⟩)
    {id a : LayerId} (hid : id ∈ held) (ha : s.Over id a) :
    a ∉ s.parked := by
  intro hp
  rcases Relation.ReflTransGen.cases_tail ha with rfl | ⟨b, -, hb⟩
  · exact h.owned.apart hid (Scene.mem_owned.2 (.inr (.inl hp)))
  · have hd : a ∈ s.delegates := State.mem_delegates.2 ⟨b, hb⟩
    have hone := List.nodup_iff_count_le_one.1 h.owned.once a
    have h1 := List.count_pos_iff.2 hd
    have h2 := List.count_pos_iff.2 hp
    rw [Scene.count_owned] at hone
    simp only at hone
    omega

/-- An operation on a statement that a caller holds. -/
theorem moves_dispatch {op : StatementOp} {id : LayerId}
    (h : Sound ⟨s, held, none, loose⟩) (hid : id ∈ held)
    (hcloses : op = .close → p.closes id)
    (htaints : ∀ {e a}, ((dispatch id op).run s).1 = .error e →
      e.isPermanent = true → s.Over id a → p.taints a) :
    Moves p ⟨s, held, none, loose⟩
      ⟨((dispatch id op).run s).2, held, none, loose⟩ := by
  by_cases hop : op = .close
  · subst hop
    exact moves_close h (hcloses rfl) (not_parked_of_held h hid .refl)
  · have hmark := marking_within (g := p.guarded) hop (s.core id).level id s
    refine hmark.marks.moves fun a ⟨hover, e, he, hp⟩ => ?_
    exact ⟨not_parked_of_held h hid hover, htaints he hp hover⟩

-- ======================================================== connections

/-- A statement on its way up that nobody takes. -/
theorem moves_refuse {out : Option LayerId}
    (h : Sound ⟨s, held, out, loose⟩) :
    Moves p ⟨s, held, out, loose⟩ ⟨s, held, none, loose⟩ := by
  refine .single (.shift (h.shelves p) (fun a => ?_) fun he => by cases he)
  rw [State.parked_eq, Option.toList_none, List.count_nil]
  omega

/-- Reading a reply changes nothing. -/
theorem run_read {α : Type} (c : ConnectionId) (op : ConnectionOp)
    (read : ConnectionReply → Except Error α) (s : State) :
    ((do read (← invokeOp c op) : Act α).run s)
      = (((invokeOp c op).run s).1.bind read, ((invokeOp c op).run s).2) := by
  rw [run_bind]
  rcases (invokeOp c op).run s with ⟨_ | _, t⟩ <;> rfl

variable {c : ConnectionId} {op : ConnectionOp}

/-- Asking a connection, whatever is done with the answer. -/
theorem moves_invokeOp (hfaith : p.faithful → s.AllFaithful)
    (hcloses : op = .close → ∀ id, p.closes id)
    (hcreates : op.creates?.isSome → p.creates c)
    (h : Sound ⟨s, held, none, loose⟩) :
    Moves p ⟨s, held, none, loose⟩
      ⟨((invokeOp c op).run s).2, held, none, loose⟩ := by
  obtain ⟨place, hask⟩ := asked_invokeOp c
    (fun hp x hx => hfaith hp hx) hcloses hcreates h
  exact hask.moves.trans (moves_refuse (hask.moves.sound h))

end Act

-- ============================================================ sessions

/-- Terms under which a step can be taken: it closes what it likes, may
break the stack of a statement whose operation failed for good, may empty
the caches of a connection that it discards and drop those of one that it
drops, may set up the chain that it sets up, and may make statements for
the connection that it asks for one. -/
structure Suits (p : Terms) (s : Session) (step : Step) (reply : Reply) :
    Prop where
  guarded : p.guarded = s.guarded
  closes : ∀ id, p.closes id
  taints : ∀ {name op id e a}, step = .onStatement name (.call op)
      ∨ step = .onStatement name (.dispatch op) →
    s.statements.lookup name = some id → reply = .failed e →
    e.isPermanent = true → s.state.Over id a → p.taints a
  discards : ∀ {k}, s.Discards step k.connection → p.empties k
  drops : ∀ {k}, s.Drops step k.connection → p.empties k ∧ p.drops k
  connects : ∀ {name spec links}, step = .newConnection name spec →
    spec.links = .ok links →
    p.connects links ∧ p.stocks s.state.connections.length
  creates : ∀ {c}, s.Creates step c → p.creates c
  faithful : p.faithful → s.state.AllFaithful

namespace Session

/-- The scene between two steps. -/
def scene (s : Session) : Scene := ⟨s.state, s.held, none, []⟩

variable {p : Terms} {s : Session}

/-- A layer with a name is held. -/
theorem held_of_lookup {name : String} {id : LayerId}
    (h : s.statements.lookup name = some id) : id ∈ s.held := by
  rw [List.lookup_eq_some_iff] at h
  obtain ⟨l₁, l₂, he, -⟩ := h
  rw [held, he, List.map_append]
  exact List.mem_append_right _ List.mem_cons_self

/-- Giving a name makes nothing held but what it is given to. -/
theorem rename_subset (names : List (String × Nat)) (name : String)
    (id : Nat) :
    (rename names name id).map (·.2) ⊆ id :: names.map (·.2) := by
  rw [rename, List.map_cons]
  exact List.cons_subset_cons _ (List.filter_sublist.map _).subset

/-- A statement that reaches its caller under a name. -/
theorem moves_storeStatement {state : State} {name : String}
    {id : LayerId} :
    Moves p ⟨state, s.held, some id, []⟩
      ({ s with state }.storeStatement name id).scene :=
  (Moves.single .give).trans
    (.single (.letDown (rename_subset s.statements name id)))

/-- A held statement gets a name more. -/
theorem moves_nameStatement {name : String} {id : LayerId}
    (h : id ∈ s.held) :
    Moves p s.scene (s.storeStatement name id).scene := by
  refine .single (.letDown fun a ha => ?_)
  rcases List.mem_cons.1 (rename_subset s.statements name id ha) with rfl | h'
  · exact h
  · exact h'

/-- An act that hands no statement to its caller. -/
theorem moves_answer {α : Type} {act : Act α} {reply : α → Reply}
    (h : Moves p s.scene ⟨(act.run s.state).2, s.held, none, []⟩) :
    Moves p s.scene (s.answer act reply).2.scene := by
  rw [answer, perform]
  rcases hr : act.run s.state with ⟨_ | _, t⟩
  · rw [hr] at h
    exact h
  · rw [hr] at h
    exact h

/-- An ordinary step on a statement is a sequence of moves. -/
theorem moves_onStatement {name : String} {id : LayerId}
    {step : StatementStep} (hord : step.isOrdinary = true)
    (hid : s.statements.lookup name = some id) (h : s.scene.Sound)
    (hp : Suits p s (.onStatement name step) (s.onStatement id step).1) :
    Moves p s.scene (s.onStatement id step).2.scene := by
  have hheld := held_of_lookup hid
  cases step with
  | call op =>
      refine moves_answer (Act.moves_dispatch h hheld
        (fun _ => hp.closes id) fun {e a} he hperm hover => ?_)
      refine hp.taints (.inl rfl) hid (e := e) ?_ hperm hover
      show (s.answer (Act.dispatch id op) (calledReply id op)).1 = _
      rw [answer, perform]
      rcases hr : (Act.dispatch id op).run s.state with ⟨_ | _, t⟩ <;>
        rw [hr] at he <;> cases he
      rfl
  | dispatch op =>
      refine moves_answer (Act.moves_dispatch h hheld
        (fun _ => hp.closes id) fun {e a} he hperm hover => ?_)
      refine hp.taints (.inr rfl) hid (e := e) ?_ hperm hover
      show (s.answer (Act.dispatch id op) (bareReply id)).1 = _
      rw [answer, perform]
      rcases hr : (Act.dispatch id op).run s.state with ⟨_ | _, t⟩ <;>
        rw [hr] at he <;> cases he
      rfl
  | info =>
      rw [onStatement]
      cases s.state.layer? id <;> exact .refl _
  | wrap | retire | forward => cases hord

/-- A step on a pool is a sequence of moves. -/
theorem moves_onPool (pool : PoolId) (x : PhysicalId) (step : PoolStep) :
    Moves p s.scene (s.onPool pool x step).2.scene := by
  cases step with
  | close names =>
      exact moves_answer (.aside (Act.aside_closePool _ pool _ s.state))
  | discard =>
      exact moves_answer (.aside (Act.aside_discardPhysical _ x s.state))
  | info =>
      rw [onPool]
      cases s.state.physical? x with
      | none => exact .refl _
      | some q =>
          exact .aside (.of_native (Native.isSteady_isValid q.native _ _))

/-- An operation on a connection as callers use it. -/
theorem moves_callConnection (c : ConnectionId) (op : ConnectionOp)
    (hask : Moves p s.scene
      ⟨((Act.invokeOp c op).run s.state).2, s.held, none, []⟩) :
    Moves p s.scene (s.callConnection c op).2.scene := by
  have hread : ∀ {α : Type} {act : Act α} {reply : α → Reply},
      (act.run s.state).2 = ((Act.invokeOp c op).run s.state).2 →
      Moves p s.scene (s.answer act reply).2.scene := by
    intro α act reply he
    refine moves_answer ?_
    rw [he]
    exact hask
  have hbool : ((Act.boolOf c op).run s.state).2
      = ((Act.invokeOp c op).run s.state).2 := by
    rw [Act.boolOf, Act.run_read c op (ConnectionReply.toBool op.name)]
  have hphysical : ((Act.physicalOf c op).run s.state).2
      = ((Act.invokeOp c op).run s.state).2 := by
    rw [Act.physicalOf, Act.run_read c op (ConnectionReply.toPhysical op.name)]
  have hrun : ((Act.runOp c op).run s.state).2
      = ((Act.invokeOp c op).run s.state).2 := by
    unfold Act.runOp
    rw [Act.run_bind]
    rcases (Act.invokeOp c op).run s.state with ⟨_ | _, t⟩ <;> rfl
  have htext : ((Act.textOf c op).run s.state).2
      = ((Act.invokeOp c op).run s.state).2 := by
    rw [Act.textOf, Act.run_read c op (ConnectionReply.toText op.name)]
  cases op with
  | isClosed | isValid | autoCommit | isWrapperFor => exact hread hbool
  | nativeSql => exact hread htext
  | unwrap target =>
      rw [callConnection, perform]
      rcases hr : (Act.physicalOf c (.unwrap target)).run s.state
        with ⟨_ | _, t⟩ <;> rw [hr] at hphysical <;> simp only at hphysical <;>
        rw [hphysical] <;> exact hask
  | _ => exact hread hrun

/-- A statement that a connection hands to its caller. -/
theorem moves_create {c : ConnectionId} {op : ConnectionOp} {place : Nat}
    {name : String}
    (hask : Asked p place op s.state s.held []
      ((Act.invokeOp c op).run s.state)) :
    Moves p s.scene (s.perform (Act.statementOf c op) fun id s =>
      (.unit, s.storeStatement name id)).2.scene := by
  have hm := hask.moves
  rw [perform, Act.statementOf,
    Act.run_read c op (ConnectionReply.toStatement op.name)]
  rcases hr : (Act.invokeOp c op).run s.state with ⟨e | r, t⟩
  · rw [hr] at hm
    exact hm
  · rw [hr] at hm
    cases r with
    | statement id => exact hm.trans moves_storeStatement
    | _ => exact hm

/-- A bare reply, in which a statement gets a name. -/
theorem moves_invoke {c : ConnectionId} {op : ConnectionOp} {place : Nat}
    {name : String}
    (hask : Asked p place op s.state s.held []
      ((Act.invokeOp c op).run s.state)) :
    Moves p s.scene (s.perform (Act.invokeOp c op) fun r s =>
      s.bareConnectionReply name r).2.scene := by
  have hm := hask.moves
  rw [perform]
  rcases hr : (Act.invokeOp c op).run s.state with ⟨e | r, t⟩
  · rw [hr] at hm
    exact hm
  · rw [hr] at hm
    cases r with
    | statement id => exact hm.trans moves_storeStatement
    | _ => exact hm

/-- A link that is told of an attachment makes no more than moves. -/
theorem moves_attachLink (c : ConnectionId) (links : List Link)
    (choice : LinkChoice) (pool : Option PoolId) (x : Option PhysicalId) :
    Moves p s.scene (s.attachLink c links choice pool x).2.scene := by
  have hhear : ∀ link place, Moves p s.scene (s.answer
      (Act.hear link ⟨c, place⟩ (.attach pool x)) fun _ => .unit).2.scene :=
    fun link place => moves_answer
      (.aside (Act.aside_hear _ link _ rfl s.state))
  unfold attachLink
  split
  · refine moves_answer (.aside ?_)
    exact Act.aside_hearTerminal _ c (.attach pool x) s.state
  · exact hhear _ _
  · exact .refl _

/-- A step on a connection is a sequence of moves, where the terms suit
it. -/
theorem moves_onConnection {pool : PoolId} {x : PhysicalId}
    {poolName physicalName name : String} {c : ConnectionId}
    {connection : Connection} {step : ConnectionStep}
    (hc : s.connections.lookup name = some c)
    (hx : s.state.connection? c = some connection) (h : s.scene.Sound)
    {reply : Reply}
    (hp : Suits p s (.onConnection poolName physicalName name step) reply) :
    Moves p s.scene (s.onConnection pool x c connection step).2.scene := by
  have hcreates : ∀ {op}, step.asked? = some op → op.creates?.isSome →
      p.creates c := fun hop hk =>
    hp.creates ⟨by rw [hop]; exact hk, hc, by rw [hx]; rfl⟩
  have hask : ∀ op, step.asked? = some op →
      ∃ place, Asked p place op s.state s.held []
        ((Act.invokeOp c op).run s.state) := fun op hop =>
    Act.asked_invokeOp c (fun hfaith y hy => hp.faithful hfaith hy)
      (fun _ => hp.closes) (hcreates hop) h
  have hinvoke : ∀ op, step.asked? = some op → Moves p s.scene
      ⟨((Act.invokeOp c op).run s.state).2, s.held, none, []⟩ :=
    fun op hop => Act.moves_invokeOp hp.faithful (fun _ => hp.closes)
      (hcreates hop) h
  cases step with
  | checkOut =>
      exact moves_answer (.aside (Act.aside_checkOut _ c pool x s.state))
  | checkIn =>
      exact moves_answer (.aside (Act.aside_tell _ c rfl s.state))
  | disconnect withPool finalizing =>
      refine moves_answer (Act.moves_tell_loss c rfl (fun place => ?_) h)
      exact hp.discards (k := ⟨c, place⟩) hc
  | discard =>
      refine moves_answer (Act.moves_discardConnection c pool x
        (fun place => ?_) h)
      exact hp.discards (k := ⟨c, place⟩) hc
  | poolStarted =>
      exact moves_answer (.aside (Act.aside_tell _ c rfl s.state))
  | poolClosed =>
      exact moves_answer (.aside (Act.aside_tell _ c rfl s.state))
  | attachLink choice withPool withPhysical =>
      cases choice with
      | none => exact .refl _
      | some choice => exact moves_attachLink c _ choice _ _
  | call op => exact moves_callConnection c op (hinvoke op rfl)
  | create op name =>
      obtain ⟨place, hask⟩ := hask op rfl
      exact moves_create hask
  | nativeNumber =>
      refine moves_answer ?_
      have hstate : ((Act.nativeNumber c).run s.state).2
          = ((Act.invokeOp c
              (.unwrap (.native Native.connectionTypeName))).run s.state).2 := by
        unfold Act.nativeNumber
        rw [Act.run_bind, Act.physicalOf,
          Act.run_read c _ (ConnectionReply.toPhysical _)]
        rcases (Act.invokeOp c _).run s.state with ⟨e | r, t⟩
        · rfl
        · cases r with
          | physical y =>
              simp only [Except.bind, ConnectionReply.toPhysical]
              rw [Act.run_bind, Act.run_get]
              simp only
              split <;> rfl
          | _ => rfl
      rw [hstate]
      exact hinvoke _ rfl
  | invoke op name =>
      obtain ⟨place, hask⟩ := hask op rfl
      exact moves_invoke hask
  | reshape op shape =>
      have hm := hinvoke op rfl
      rw [onConnection, perform]
      rcases hr : (Act.invokeOp c op).run s.state with ⟨e | r, t⟩
      · rw [hr] at hm
        exact hm
      · rw [hr] at hm
        simp only
        split <;> exact hm
  | forceClose sql =>
      rw [onConnection]
      split
      · exact .refl _
      · exact moves_answer (Act.moves_forceClose _ sql h)
  | describe => exact .refl _

/-- Dropping a connection is a sequence of moves. -/
theorem moves_dropConnection {name : String}
    (hdrops : ∀ {k : LinkId},
      s.connections.lookup name = some k.connection →
      p.empties k ∧ p.drops k)
    (h : s.scene.Sound) :
    Moves p s.scene (s.dropConnection name).scene := by
  rw [dropConnection]
  cases hc : s.connections.lookup name with
  | none => exact .refl _
  | some c =>
      exact PooledChain.moves_dropConnection c
        (fun place => (hdrops (k := ⟨c, place⟩) hc).1)
        (fun place => (hdrops (k := ⟨c, place⟩) hc).2) h

/-- An ordinary step, before the clearing up. -/
theorem moves_act {step : Step} (hord : step.isOrdinary = true)
    (h : s.scene.Sound) (hp : Suits p s step (s.act step).1) :
    Moves p s.scene (s.act step).2.scene := by
  cases step with
  | instruct i =>
      exact .aside (.of_native (Native.Store.steady_obey _ _ i))
  | preparedSql => exact .refl _
  | addRule rule =>
      exact .aside (.of_native (Native.Store.steady_addRule _ _ rule))
  | clearRules =>
      exact .aside (.of_native (Native.Store.steady_clearRules _ _))
  | newPool name =>
      refine .aside (.of_alike ?_)
      exact ⟨rfl, rfl, rfl, rfl, fun h => h⟩
  | newPhysical name =>
      refine .aside ⟨rfl, rfl, ?_, rfl, fun {_ y} hy => ⟨y, hy, rfl⟩, .inl⟩
      rw [hp.guarded]
      exact Native.Store.steady_connect _ _
  | newConnection name spec =>
      rw [act]
      cases hspec : spec.links with
      | error e => exact .refl _
      | ok links =>
          have hm : Moves p s.scene
              ⟨(s.state.newConnection links).2, s.held, none, []⟩ :=
            PooledChain.moves_newConnection (hp.connects rfl hspec).1
              (hp.connects rfl hspec).2 h
          refine hm.trans ?_
          exact moves_dropConnection (s := { s with
            state := (s.state.newConnection links).2 })
            (fun hk => hp.drops ⟨by rw [hspec]; rfl, hk⟩) (hm.sound h)
  | dropConnection name =>
      exact moves_dropConnection (fun hk => hp.drops hk) h
  | dropStatement name =>
      refine .single (.letDown ?_)
      exact (List.filter_sublist.map _).subset
  | sameStatement a b =>
      rw [act]
      split <;> exact .refl _
  | nameStatement statement name =>
      rw [act]
      cases hid : s.statements.lookup statement with
      | none => exact .refl _
      | some id => exact moves_nameStatement (held_of_lookup hid)
  | tablePools => exact .refl _
  | onStatement name step =>
      rw [act] at hp ⊢
      cases hid : s.statements.lookup name with
      | none => exact .refl _
      | some id =>
          rw [hid] at hp
          exact moves_onStatement hord hid h hp
  | onPool pool physical step =>
      rw [act]
      split
      · exact .refl _
      · exact .refl _
      · exact moves_onPool _ _ step
  | onConnection pool physical name step =>
      rw [act]
      split
      · exact .refl _
      · exact .refl _
      · cases hc : s.connections.lookup name with
        | none => exact .refl _
        | some c =>
            simp only
            cases hx : s.state.connection? c with
            | none => exact .refl _
            | some connection => exact moves_onConnection hc hx h hp

-- ============================================================= runs

/-- What holds of a session between two steps. -/
structure Sound (s : Session) : Prop where
  scene : s.scene.Sound
  tidy : s.state.Tidy s.held

/-- Nothing is noted yet when a step begins. -/
theorem moves_quiet (p : Terms) (s : Session) :
    Moves p s.scene s.quiet.scene :=
  .aside (.of_alike ⟨rfl, rfl, rfl, rfl, fun h => h⟩)

/-- A session is sound when it starts with an empty journal. -/
theorem sound_quiet (h : s.scene.Sound) : s.quiet.scene.Sound :=
  (moves_quiet (.free false) s).sound h

/-- An ordinary step is a sequence of moves, and leaves a tidy state. -/
theorem moves_step {step : Step} (hord : step.isOrdinary = true)
    (h : s.scene.Sound) (hp : Suits p s step (s.step step).1) :
    Moves p s.scene (s.step step).2.scene
      ∧ (s.step step).2.state.Tidy (s.step step).2.held := by
  have hquiet := moves_quiet p s
  have hact : Moves p s.quiet.scene (s.quiet.act step).2.scene := by
    refine moves_act hord (hquiet.sound h) ?_
    exact ⟨hp.guarded, hp.closes, hp.taints, hp.discards, hp.drops,
      hp.connects, hp.creates, hp.faithful⟩
  have hm := hquiet.trans hact
  obtain ⟨hrelease, htidy⟩ := State.moves_release (p := p) (hm.sound h)
  exact ⟨hm.trans hrelease, htidy⟩

end Session

end PooledChain
