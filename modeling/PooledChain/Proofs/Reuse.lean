/-
Which statements are used again.

A failure decides it, and nothing but a permanent one. A handle whose
operation failed for good has a statement that no cache will ever hold
and no caller will ever get, and that is closed with the handle
(`condemned_step`). A handle that a cache has had in its hands, and that
never failed for good, parks its statement when it is closed, however
many other failures it has seen (`close_of_ready`).

What is needed of a whole run is in two invariants of the moves,
`Scene.Condemned` and `State.Ready`. Here they are followed from step to
step of a session.
-/
import PooledChain.Proofs.Heap.Condemned
import PooledChain.Proofs.Ownership

namespace PooledChain

open Scene (Sound)

/-- Whether a reply is a failure for good. -/
def Reply.isPermanentFailure : Reply → Bool
  | failed e => e.isPermanent
  | _ => false

/-- Whether a reply is a failure of any kind. -/
def Reply.isFailure : Reply → Bool
  | missing _ => true
  | failed _ => true
  | driverFailed _ => true
  | _ => false

/-- Whether the cache `k` has parked the statement `n` under a SQL text,
in front of the others. -/
def State.ParkedFirst (s : State) (k : LinkId) (sql : String)
    (n : Native.StatementId) : Prop :=
  ∃ store e, s.caches.get? k = some store
    ∧ store.entries.head? = some (sql, e) ∧ s.Stands e n

/-- The operation that a caller asks a statement for. -/
def StatementStep.asked? : StatementStep → Option StatementOp
  | call op => some op
  | dispatch op => some op
  | _ => none

namespace Session

variable {s t : Session} {step : Step} {id : LayerId} {k : LinkId}
  {sql : String} {n : Native.StatementId}

/-- Whether a step is an operation on a handle that fails for good. -/
def Ruins (s : Session) (step : Step) (id : LayerId) : Prop :=
  match step with
  | .onStatement name use => use.asked?.isSome = true
      ∧ s.statements.lookup name = some id
      ∧ (s.step step).1.isPermanentFailure = true
  | _ => False

/-- Whether a step leaves it to the cache `k` to park the statement of a
handle: it does not ruin the handle, nor tell the cache's connection that
its physical connection is gone. -/
def Spares (k : LinkId) (id : LayerId) (s : Session) (step : Step) : Prop :=
  ¬ s.Discards step k.connection ∧ ¬ s.Ruins step id

-- ============================================================= one step

/-- A step on a statement with a name is one on the layer that has it. -/
theorem act_onStatement {name : String} {use : StatementStep}
    (hid : s.statements.lookup name = some id) :
    s.act (.onStatement name use) = s.onStatement id use := by
  rw [act, hid]

/-- An operation is asked of the handle; no answer to it is a permanent
failure. -/
theorem exists_answer {use : StatementStep} {op : StatementOp}
    (hop : use.asked? = some op) (s : Session) (id : LayerId) :
    ∃ reply, s.onStatement id use = s.answer (Act.dispatch id op) reply
      ∧ ∀ r, (reply r).isPermanentFailure = false := by
  cases use with
  | call _ =>
      cases hop
      refine ⟨calledReply id op, rfl, fun r => ?_⟩
      cases op <;> cases r <;> rfl
  | dispatch _ =>
      cases hop
      refine ⟨bareReply id, rfl, fun r => ?_⟩
      cases r <;> rfl
  | _ => cases hop

/-- An operation that does not fail for good spares every handle. -/
theorem spares_onStatement {name : String} {use : StatementStep}
    (h : (s.step (.onStatement name use)).1.isPermanentFailure = false) :
    Spares k id s (.onStatement name use) := by
  refine ⟨fun hd => hd, fun hr => ?_⟩
  rw [hr.2.2] at h
  cases h

/-- What a step did that ruined a handle. -/
theorem Ruins.exists_dispatch (h : s.Ruins step id) :
    step.isOrdinary = true ∧ id ∈ s.held ∧ ∃ op e t,
      (Act.dispatch id op).run s.quiet.state = (.error e, t)
        ∧ e.isPermanent = true
        ∧ (s.quiet.act step).2 = { s.quiet with state := t } := by
  cases step with
  | onStatement name use =>
      obtain ⟨hasked, hid, hr⟩ := h
      obtain ⟨op, hop⟩ := Option.isSome_iff_exists.1 hasked
      obtain ⟨reply, hanswer, hreply⟩ := exists_answer hop s.quiet id
      have hact : s.quiet.act (.onStatement name use)
          = s.quiet.answer (Act.dispatch id op) reply := by
        rw [← hanswer]
        exact act_onStatement hid
      have hr : (s.quiet.act (.onStatement name use)).1.isPermanentFailure
          = true := hr
      rw [hact, answer, perform] at hr
      rw [hact, answer, perform]
      have hord : (Step.onStatement name use).isOrdinary = true := by
        cases use with
        | call op => rfl
        | dispatch op => rfl
        | _ => cases hop
      refine ⟨hord, held_of_lookup hid, op, ?_⟩
      rcases hrun : (Act.dispatch id op).run s.quiet.state with ⟨e | r, t⟩
      · rw [hrun] at hr
        exact ⟨e, t, rfl, hr, rfl⟩
      · rw [hrun] at hr
        have hr : (reply r).isPermanentFailure = true := hr
        rw [hreply] at hr
        cases hr
  | _ => exact h.elim

/-- A handle that fails for good condemns its statement. -/
theorem condemned_step (h : s.Sound) (hr : s.Ruins step id)
    (hn : s.state.Stands id n) : (s.step step).2.scene.Condemned n id := by
  obtain ⟨hord, hid, op, e, t, hrun, he, ht⟩ := hr.exists_dispatch
  have hquiet := sound_quiet h.scene
  have hn' : s.quiet.state.Stands id n := hn.congr fun _ _ => rfl
  have hsound : (s.quiet.act step).2.scene.Sound :=
    (moves_quiet_act h.scene hord).sound hquiet
  have hc : Scene.Condemned ⟨t, s.held, none, []⟩ n id :=
    Act.condemned_of_dispatch hquiet hid hn' hrun he
  rw [ht] at hsound
  show ((s.quiet.act step).2.settle).scene.Condemned n id
  rw [ht]
  obtain ⟨hm, -⟩ := State.moves_release (p := .free false) hsound
  exact hm.condemned hsound hc

/-- It stays condemned. -/
theorem condemned_run (h : s.Sound) (hc : s.scene.Condemned n id)
    {steps : List Step} (hord : ∀ step ∈ steps, step.isOrdinary = true) :
    (s.run steps).scene.Condemned n id :=
  (moves_run h hord).condemned h.scene hc

/-- A handle that a caller gets does not stand on what is condemned. -/
theorem Grants.not_stands {name handle : String} {op : ConnectionOp}
    {a : LayerId} (hg : s.Grants step name op handle) (h : s.Sound)
    (hc : s.scene.Condemned n id)
    (ha : (s.step step).2.statements.lookup handle = some a) :
    ¬ (s.step step).2.state.Stands a n := by
  obtain ⟨c, x, b, t, -, -, hask, hb, hkept⟩ := hg.exists_settled h
  have hquiet := sound_quiet h.scene
  obtain rfl : b = a := Option.some.inj (hb.symm.trans ha)
  have hasks : Act.AsksBelow (.free false) _ (Act.askLinks c x.links) :=
    Act.asked_askLinks c fun hf => hf.elim
  have hm := (hasks s.quiet.state s.held [] op hquiet
    (fun _ _ => trivial) fun _ => trivial).moves
  rw [hask] at hm
  have hm : Moves (.free false) s.quiet.scene ⟨t, s.held, some b, []⟩ := hm
  have hc' : Scene.Condemned ⟨t, s.held, some b, []⟩ n id :=
    ((moves_quiet _ s).trans hm).condemned h.scene hc
  obtain ⟨m, hm', -⟩ := (hasks s.quiet.state s.held [] op hquiet
    (fun _ _ => trivial) fun _ => trivial).opened (by rw [hask]; rfl)
  rw [hask] at hm'
  intro hn
  have he : n = m := hn.unique (hm'.congr fun y hy => by
    rw [State.core, hkept y hy, State.core])
  exact hc'.out rfl (he ▸ hm')

/-- What is condemned is closed if the handle is closed or gone. -/
theorem closed_of_condemned (h : s.Sound) (hc : s.scene.Condemned n id)
    (hid : s.state.isClosed id = true ∨ id ∉ s.held) :
    ∃ st, s.state.native.statement? n = some st ∧ st.closed = true := by
  have hleveled : s.state.Leveled := h.scene.formed.leveled
  have hollow : s.state.Hollow := h.scene.formed.hollow
  have hgone : ¬ s.state.native.HasOpen n := by
    intro hopen
    obtain ⟨r, hr, hstands⟩ := h.exists_owner hopen
    rcases mem_owners.1 hr with hheld | hparked
    · have he : r = id := hc.held hheld hstands
      subst he
      rcases hid with hid | hid
      · have hopen := (State.isClosed_eq_false_iff hleveled hollow).2
          ⟨n, hstands⟩
        rw [hid] at hopen
        cases hopen
      · exact hid hheld
    · exact hc.not_parked h.scene hparked hstands
  have hlt : n < s.state.native.statements.length := hc.known
  refine ⟨_, List.getElem?_eq_getElem hlt, ?_⟩
  by_contra hopen
  exact hgone ⟨_, List.getElem?_eq_getElem hlt, Bool.eq_false_iff.2 hopen⟩

-- ================================================ what stays reusable

/-- A step by which a caller gets a handle that the cache `k` has had in
its hands: the links above the cache leave it to those below to create
the statement, and it is of a kind that the cache keeps. The SQL is what
reaches the cache. -/
inductive Prepares (s : Session) (step : Step) (k : LinkId)
    (sql : String) (id : LayerId) : Prop
  | through {name handle op c x above config below kind} :
      s.Grants step name op handle →
      (s.step step).2.statements.lookup handle = some id →
      s.connections.lookup name = some c → s.state.connection? c = some x →
      x.links = above ++ .cache config :: below →
      (∀ link ∈ above, link.defers op = true) →
      op.creates? = some kind → config.kinds.contains kind = true →
      (reaching above op).sql? = some sql → k = ⟨c, below.length⟩ →
      Prepares s step k sql id

/-- A cache that keeps statements of some kind is turned on. -/
theorem isEnabled_of_kinds {config : CacheConfig} {kind : StatementKind}
    (h : config.kinds.contains kind = true) :
    config.isEnabled = true ∧ 0 < config.max := by
  have hin := List.contains_iff_mem.1 h
  refine ⟨?_, ?_⟩
  · rw [CacheConfig.isEnabled]
    cases hk : config.kinds with
    | nil =>
        rw [hk] at hin
        cases hin
    | cons _ _ => rfl
  · by_contra hzero
    have hmax : config.max = 0 := Nat.eq_zero_of_not_pos hzero
    rw [CacheConfig.kinds, hmax] at hin
    cases hin

/-- What a caller gets is ready to be parked. -/
theorem Prepares.ready (hp : s.Prepares step k sql id) (h : s.Sound)
    (hi : s.state.Installed) : (s.step step).2.state.Ready k sql id := by
  cases hp with
  | @through name handle op c x above config below kind hg hid hname hc
      hlinks habove hkind hdec hsql hk =>
      subst hk
      obtain ⟨c', x', a, t, hname', hc', hask, hact, ha⟩ := hg.exists_created
      obtain rfl : a = id := Option.some.inj (ha.symm.trans hid)
      rw [hname] at hname'
      cases hname'
      rw [hc] at hc'
      cases hc'
      rw [hlinks] at hask
      obtain ⟨store, hk, -⟩ :=
        hi.shelf hc hlinks (isEnabled_of_kinds hdec).1
      have hready := Act.ready_askLinks c (sound_quiet h.scene) hk hkind
        habove hsql hdec hask
      have hafter : (s.quiet.act step).2.scene.Sound :=
        (moves_quiet_act h.scene hg.isOrdinary).sound (sound_quiet h.scene)
      have hheld : a ∈ (s.quiet.act step).2.held := held_of_lookup hid
      show ((s.quiet.act step).2.settle).state.Ready _ _ _
      rw [hact] at hafter hheld ⊢
      exact hready.congr (State.caches_release ..)
        fun y hy => State.layer?_release (Scene.Sound.formed hafter) (.inl hheld) hy

/-- A step that neither empties the shelf nor ruins the handle leaves it
ready, as long as it is open. -/
theorem ready_step (h : s.Sound) (hlt : id < s.state.layers.length)
    (hfree : id ∉ s.scene.owned) (hr : s.state.Ready k sql id)
    (hord : step.isOrdinary = true)
    (hdiscards : ¬ s.Discards step k.connection)
    (hdrops : ¬ s.Drops step k.connection) (hruin : ¬ s.Ruins step id)
    (hn : (s.step step).2.state.Stands id n) :
    (s.step step).2.state.Ready k sql id := by
  have hsuits : Suits (.sparing s.guarded k (s.state.Over id)) s step
      (s.step step).1 :=
    { guarded := rfl
      closes := fun _ => trivial
      taints := fun {name op other e a} hstep hother he hperm hover hid => by
        -- the two handles would have a facade in common
        have hsame : other = id := by
          have htop : s.scene.Top other := .inl (held_of_lookup hother)
          rcases h.scene.owned.over_total hover hid with hup | hup
          · rcases Relation.ReflTransGen.cases_tail hup with he | ⟨b, -, hb⟩
            · exact he.symm
            · exact absurd (Scene.mem_owned.2
                (.inl (State.mem_delegates.2 ⟨b, hb⟩))) hfree
          · exact (h.scene.owned.eq_of_over htop hup).symm
        subst hsame
        apply hruin
        have hfailed : (s.step step).1.isPermanentFailure = true := by
          rw [he]
          exact hperm
        rcases hstep with rfl | rfl
        · exact ⟨rfl, hother, hfailed⟩
        · exact ⟨rfl, hother, hfailed⟩
      discards := fun hk he => by
        subst he
        exact hdiscards hk
      drops := fun hk => ⟨fun he => by
        subst he
        exact hdrops hk, trivial⟩
      connects := fun _ _ => ⟨trivial, trivial⟩
      creates := fun _ => trivial
      faithful := fun hf => hf.elim }
  obtain ⟨hm, -⟩ := moves_step hord h.scene hsuits
  exact State.Ready.moves hr h.scene hm hlt (fun a ha hn => hn ha)
    (fun he => he rfl) hn

-- ================================================ whole runs

/-- A connection that a step drops is gone. -/
theorem connection?_of_drops {c : ConnectionId} (hd : s.Drops step c) :
    (s.step step).2.state.connection? c = none := by
  have hset : ∀ {t : State}, (t.dropConnection c).connection? c = none := by
    intro t
    show ((t.connections.set c none)[c]?).join = none
    by_cases hc : c < t.connections.length
    · rw [List.getElem?_set_self hc]
      rfl
    · rw [List.getElem?_eq_none (by
        rw [List.length_set]
        exact Nat.le_of_not_lt hc)]
      rfl
  have hsettle : ∀ {t : Session}, t.state.connection? c = none →
      t.settle.state.connection? c = none := by
    intro t ht
    show (State.release t.state _).connection? c = none
    rw [State.connection?, State.connections_release]
    exact ht
  cases step with
  | dropConnection name =>
      have hname : s.quiet.connections.lookup name = some c := hd
      refine hsettle (t := s.quiet.dropConnection name) ?_
      rw [dropConnection, hname]
      exact hset
  | newConnection name spec =>
      obtain ⟨hok, hname⟩ := hd
      have hname : s.quiet.connections.lookup name = some c := hname
      refine hsettle (t := (s.quiet.act (.newConnection name spec)).2) ?_
      cases hspec : spec.links with
      | error e =>
          rw [hspec] at hok
          cases hok
      | ok links =>
          rw [act, hspec]
          show (Session.dropConnection { s.quiet with
            state := (s.quiet.state.newConnection links).2 }
              name).state.connection? c = none
          rw [dropConnection]
          simp only [hname]
          exact hset
  | _ => exact hd.elim

/-- A handle that is ready stays ready in a run that leaves its connection
alone and does not ruin it. -/
theorem ready_run {steps : List Step} (h : s.Sound)
    (hord : ∀ step ∈ steps, step.isOrdinary = true)
    (hlt : id < s.state.layers.length) (hfree : id ∉ s.scene.owned)
    (hr : s.state.Ready k sql id)
    (hc : k.connection < s.state.connections.length)
    (hspared : Along (Spares k id) s steps)
    (hthere : ((s.run steps).state.connection? k.connection).isSome = true)
    (hn : (s.run steps).state.Stands id n) :
    (s.run steps).state.Ready k sql id := by
  induction steps generalizing s with
  | nil => exact hr
  | cons step steps ih =>
      obtain ⟨⟨hdiscards, hruin⟩, hrest⟩ := hspared
      have hord' := hord step List.mem_cons_self
      have hords := fun next hin => hord next (List.mem_cons_of_mem step hin)
      rw [run_cons] at hthere hn ⊢
      have hstep : (s.step step).2.Sound := h.step hord'
      have hrun := moves_run hstep hords
      obtain ⟨hm, -⟩ := moves_step hord' h.scene (suits_free s step _)
      have hlt' := Nat.lt_of_lt_of_le hlt hm.length_le
      have hc' := Nat.lt_of_lt_of_le hc hm.connections_le
      have hdrops : ¬ s.Drops step k.connection := by
        intro hd
        obtain ⟨y, hy⟩ := Option.isSome_iff_exists.1 hthere
        obtain ⟨z, hz, -⟩ := hrun.links (.inr hc') hy
        have hz : (s.step step).2.state.connection? k.connection = some z := hz
        rw [connection?_of_drops hd] at hz
        cases hz
      have hn' : (s.step step).2.state.Stands id n :=
        hrun.later.stands hstep.scene.formed.older hlt' hn
      exact ih hstep hords hlt' (hm.not_owned hlt hfree)
        (ready_step h hlt hfree hr hord' hdiscards hdrops hruin hn') hc'
        hrest hthere hn

-- ================================================ parking

/-- The handle is asked to close, and if that went well the caller is told
so. -/
theorem exists_answer_close {use : StatementStep}
    (huse : use.asked? = some .close) (s : Session) (id : LayerId) :
    ∃ reply, s.onStatement id use = s.answer (Act.dispatch id .close) reply
      ∧ (reply .unit).isFailure = false := by
  cases use with
  | call op =>
      cases huse
      exact ⟨calledReply id .close, rfl, rfl⟩
  | dispatch op =>
      cases huse
      exact ⟨bareReply id, rfl, rfl⟩
  | _ => cases huse

/-- A handle that is ready parks its statement when it is closed. -/
theorem close_of_ready {name : String} {use : StatementStep}
    {store : CacheStore} (h : s.Sound) (huse : use.asked? = some .close)
    (hid : s.statements.lookup name = some id)
    (hr : s.state.Ready k sql id) (hn : s.state.Stands id n)
    (hk : s.state.caches.get? k = some store) (hroom : 0 < store.capacity)
    (hsql : sql ∉ store.texts) :
    (s.step (.onStatement name use)).1.isFailure = false
      ∧ (s.step (.onStatement name use)).2.state.ParkedFirst k sql n := by
  have hquiet := sound_quiet h.scene
  have hheld : id ∈ s.held := held_of_lookup hid
  obtain ⟨reply, hanswer, hreply⟩ := exists_answer_close huse s.quiet id
  have hact : s.quiet.act (.onStatement name use)
      = s.quiet.answer (Act.dispatch id .close) reply := by
    rw [← hanswer]
    exact act_onStatement hid
  -- the facade of the cache is open, since the handle is
  obtain ⟨a, hlead, hfit⟩ := hr
  obtain ⟨store', l, f, hstore, hl, hlsql, hcore, hb⟩ := hfit.facade
  rw [hk] at hstore
  cases hstore
  have hfacade : s.state.core a = .facade f :=
    (State.core_eq_of_layer? hl).trans hcore
  have han : s.state.Stands a n := hn.of_over hlead.over
  obtain ⟨d, hd⟩ : ∃ d, f.delegate = some d := by
    cases han with
    | native hcore' =>
        rw [hfacade] at hcore'
        cases hcore'
    | @facade _ d _ hholds _ =>
        refine ⟨d, ?_⟩
        rw [State.Holds, hfacade] at hholds
        exact hholds
  obtain ⟨t, hrun, hparks, hstands⟩ := Act.close_parks
    (s := s.quiet.state) hquiet hheld (hlead.congr fun _ _ => rfl) hl hcore
    hb hd (hn.congr fun _ _ => rfl) hk hroom hlsql
    (CacheStore.accepts_eq_true.2 ⟨rfl, hsql⟩)
  have hafter : (s.quiet.act (.onStatement name use)).2.scene.Sound := by
    refine (moves_quiet_act h.scene ?_).sound hquiet
    cases use with
    | call _ => rfl
    | dispatch _ => rfl
    | _ => cases huse
  have hstep : s.step (.onStatement name use)
      = (reply .unit, { s.quiet with state := t }.settle) := by
    show ((s.quiet.act (.onStatement name use)).1,
      (s.quiet.act (.onStatement name use)).2.settle) = _
    rw [hact, answer, perform, hrun]
  have hsettled : Scene.Sound ⟨t, s.held, none, []⟩ := by
    rw [hact, answer, perform, hrun] at hafter
    exact hafter
  have hfits := (h.scene.stocked.shelved (Keyed.mem_of_get? hk)).fits
  have hfront := store.head?_park sql s.quiet.state.layers.length hfits hroom
  rw [hstep]
  refine ⟨hreply, (store.park sql s.quiet.state.layers.length).1,
    s.quiet.state.layers.length, ?_, hfront, ?_⟩
  · show (State.release t s.held).caches.get? k = _
    rw [State.caches_release]
    exact hparks.shelf
  · -- what is parked is not released
    have hparked : s.quiet.state.layers.length ∈ t.parked :=
      State.mem_onShelves.2 ⟨k, _, sql, Keyed.mem_of_get? hparks.shelf,
        List.mem_of_mem_head? hfront⟩
    exact hstands.release (Scene.Sound.formed hsettled) (.inr hparked)

-- ================================================ the two together

/-- After a permanent failure the statement is out of use. -/
theorem condemned_after (h : s.Sound) (hr : s.Ruins step id)
    (hn : s.state.Stands id n) {after : List Step}
    (hord : ∀ step ∈ after, step.isOrdinary = true) :
    ((s.step step).2.run after).Sound
      ∧ ((s.step step).2.run after).scene.Condemned n id := by
  obtain ⟨hstep, -⟩ := hr.exists_dispatch
  have hsound := h.step hstep
  exact ⟨hsound.run hord,
    condemned_run hsound (condemned_step h hr hn) hord⟩

/-- A handle that a cache has had in its hands is ready, and its shelf has
room, in every later session in which the connection is still there. -/
theorem Prepares.ready_after (hp : s.Prepares step k sql id) (h : s.Sound)
    (hi : ∀ after : List Step,
      (∀ step ∈ after, step.isOrdinary = true) →
        (s.run after).state.Installed)
    {after : List Step} (hord : ∀ step ∈ after, step.isOrdinary = true)
    (hspared : Along (Spares k id) (s.step step).2 after)
    (hthere : (((s.step step).2.run after).state.connection?
      k.connection).isSome = true)
    (hn : ((s.step step).2.run after).state.Stands id n) :
    ((s.step step).2.run after).state.Ready k sql id
      ∧ ∃ store, ((s.step step).2.run after).state.caches.get? k
          = some store ∧ 0 < store.capacity := by
  have hready := hp.ready h (hi [] fun _ hin => by cases hin)
  cases hp with
  | @through name handle op c x above config below kind hg hid hname hc
      hlinks habove hkind hdec hsql hk =>
      subst hk
      have hstep := hg.isOrdinary
      have hsound : (s.step step).2.Sound := h.step hstep
      obtain ⟨hm, -⟩ := moves_step hstep h.scene (suits_free s step _)
      have hheld : id ∈ (s.step step).2.held := held_of_lookup hid
      have hlt : id < (s.step step).2.state.layers.length :=
        State.lt_of_core (hsound.scene.owned.living (.inl hheld))
      have hclt : c < s.state.connections.length := by
        by_contra hge
        rw [State.connection?, List.getElem?_eq_none (Nat.le_of_not_lt hge)]
          at hc
        cases hc
      have hclt' := Nat.lt_of_lt_of_le hclt hm.connections_le
      refine ⟨ready_run hsound hord hlt (hsound.scene.owned.apart hheld)
        hready hclt' hspared hthere hn, ?_⟩
      -- the connection has the links that it had
      obtain ⟨y, hy⟩ := Option.isSome_iff_exists.1 hthere
      obtain ⟨z, hz, hyz⟩ := (moves_run hsound hord).links (.inr hclt') hy
      obtain ⟨x', hx', hzx⟩ := hm.links (.inr hclt) hz
      have hx' : s.state.connection? c = some x' := hx'
      rw [hc] at hx'
      cases hx'
      have hinstalled := hi (step :: after) fun next hin => by
        rcases List.mem_cons.1 hin with rfl | hin
        · exact hstep
        · exact hord next hin
      obtain ⟨henabled, hmax⟩ := isEnabled_of_kinds hdec
      obtain ⟨store, hk, hcap⟩ := hinstalled.shelf hy
        ((hyz.symm.trans hzx.symm).trans hlinks) henabled
      exact ⟨store, hk, by rw [hcap]; exact hmax⟩

/-- Permanent failures decide reuse, and nothing else does. The statement
of a handle that failed for good is parked by no cache and given to
nobody from then on, and it is closed when the handle is closed or gone.
And the statement of a handle that a cache has had in its hands is parked
when the handle is closed, whatever other failures there were, unless the
cache has the SQL parked already. -/
theorem permanent_failures_decide_reuse (links : List Link)
    (guarded checkedOut : Bool) (before after : List Step)
    (hbefore : ∀ step ∈ before, step.isOrdinary = true)
    (hafter : ∀ step ∈ after, step.isOrdinary = true)
    (step : Step) (id : LayerId) :
    let s := (start links guarded checkedOut).run before
    let t := (s.step step).2.run after
    (∀ n, s.Ruins step id → s.state.Stands id n →
        (∀ a ∈ t.state.parked, ¬ t.state.Stands a n)
        ∧ (∀ next name op handle a, t.Grants next name op handle →
            (t.step next).2.statements.lookup handle = some a →
            ¬ (t.step next).2.state.Stands a n)
        ∧ (∀ a ∈ t.held, t.state.Stands a n → a = id)
        ∧ (t.state.isClosed id = true ∨ id ∉ t.held →
            ∃ st, t.state.native.statement? n = some st
              ∧ st.closed = true ∧ (guarded = false → st.closeCalls = 1)))
      ∧ (∀ k sql name use, s.Prepares step k sql id →
          Along (Spares k id) (s.step step).2 after →
          (t.state.connection? k.connection).isSome = true →
          t.statements.lookup name = some id → use.asked? = some .close →
          t.state.isClosed id = false → sql ∉ (t.state.cacheView k).2 →
          (t.step (.onStatement name use)).1.isFailure = false
          ∧ ∃ n, t.state.Stands id n
            ∧ (t.step (.onStatement name use)).2.state.ParkedFirst k sql n
            ∧ (t.step (.onStatement name use)).2.state.native.HasOpen n) := by
  intro s t
  have hs : s.Sound := (sound_start links guarded checkedOut).run hbefore
  refine ⟨fun n hr hn => ?_, fun k sql name use hp hspared hthere hid huse
    hopen hsql => ?_⟩
  · obtain ⟨ht, hc⟩ := condemned_after hs hr hn hafter
    have ht : t.Sound := ht
    have hc : t.scene.Condemned n id := hc
    refine ⟨fun a ha => hc.not_parked ht.scene ha,
      fun next name op handle a hg ha => hg.not_stands ht hc ha,
      fun a ha => hc.held ha, fun hgone => ?_⟩
    obtain ⟨st, hst, hclosed⟩ := closed_of_condemned ht hc hgone
    refine ⟨st, hst, hclosed, fun hfree => ?_⟩
    subst hfree
    have hbalanced : t.state.Balanced := by
      have hrun : t = (start links false checkedOut).run
          (before ++ step :: after) :=
        (run_append (start links false checkedOut) before
          (step :: after)).symm
      rw [hrun]
      refine balanced_run fun next hin => ?_
      rcases List.mem_append.1 hin with hin | hin
      · exact hbefore next hin
      · rcases List.mem_cons.1 hin with rfl | hin
        · exact hr.exists_dispatch.1
        · exact hafter next hin
    have honce := hbalanced.once st (List.mem_of_getElem? hst)
    rw [Native.Statement.ClosedOnce, hclosed, if_pos rfl] at honce
    exact honce
  · have hinstalled : ∀ later : List Step,
        (∀ step ∈ later, step.isOrdinary = true) →
          (s.run later).state.Installed := by
      intro later hlater
      have hrun : s.run later = (start links guarded checkedOut).run
          (before ++ later) := (run_append _ before later).symm
      rw [hrun]
      refine installed_run fun next hin => ?_
      rcases List.mem_append.1 hin with hin | hin
      · exact hbefore next hin
      · exact hlater next hin
    have ht : t.Sound := by
      cases hp with
      | through hg => exact (hs.step hg.isOrdinary).run hafter
    obtain ⟨n, hn⟩ := (State.isClosed_eq_false_iff ht.scene.formed.leveled
      ht.scene.formed.hollow).1 hopen
    obtain ⟨hready, store, hk, hroom⟩ :=
      hp.ready_after hs hinstalled hafter hspared hthere hn
    have hk : t.state.caches.get? k = some store := hk
    rw [State.cacheView, hk] at hsql
    obtain ⟨hreply, hparked⟩ := close_of_ready ht huse hid hready hn hk hroom
      hsql
    refine ⟨hreply, n, hn, hparked, ?_⟩
    have hlast : (t.step (.onStatement name use)).2.Sound := by
      refine ht.step ?_
      cases use with
      | call _ => rfl
      | dispatch _ => rfl
      | _ => cases huse
    obtain ⟨_, e, -, -, hstands⟩ := hparked
    exact hlast.hasOpen hstands

/-- A statement whose plan is lost is closed with its handle, and one that
failed in another way is parked. -/
theorem lost_plan_is_closed_and_duplicate_key_is_parked :
    let lost := ((start [.cache .standard] false true).run
      [.instruct (.failPermanently "q"),
       .onConnection "p0" "x0" "c0" (.create (.prepareStatement "q") "a")])
    let gone := (lost.step (.onStatement "a" (.call (.execute none)))).2.run
      [.onStatement "a" (.call .close)]
    let failing := (start [.cache .standard] false true).run
      [.instruct (.failExecution "q" "23505" "duplicate key")]
    let still := (failing.step (.onConnection "p0" "x0" "c0"
      (.create (.prepareStatement "q") "a"))).2.run
        [.onStatement "a" (.call (.execute none))]
    (∃ st, gone.state.native.statement? 0 = some st
        ∧ st.closed = true ∧ st.closeCalls = 1)
      ∧ ∃ n, still.state.Stands 1 n
        ∧ (still.step (.onStatement "a" (.call .close))).2.state.ParkedFirst
          ⟨0, 0⟩ "q" n := by
  intro lost gone failing still
  constructor
  · obtain ⟨h, -⟩ := permanent_failures_decide_reuse [.cache .standard] false
      true [.instruct (.failPermanently "q"),
        .onConnection "p0" "x0" "c0" (.create (.prepareStatement "q") "a")]
      [.onStatement "a" (.call .close)] (by decide) (by decide)
      (.onStatement "a" (.call (.execute none))) 1
    have hruins : lost.Ruins (.onStatement "a" (.call (.execute none))) 1 :=
      ⟨rfl, by decide +kernel, by decide +kernel⟩
    have hholds : (lost.state.core 1).delegate? = some 0 := by decide +kernel
    have hnative : lost.state.core 0 = .native (some 0) := by decide +kernel
    have hclosed : gone.state.isClosed 1 = true := by decide +kernel
    obtain ⟨-, -, -, hgone⟩ := h 0 hruins (.facade hholds (.native hnative))
    obtain ⟨st, hst, hc, hcalls⟩ := hgone (.inl hclosed)
    with_reducible exact ⟨st, hst, hc, hcalls rfl⟩
  · obtain ⟨-, h⟩ := permanent_failures_decide_reuse [.cache .standard] false
      true [.instruct (.failExecution "q" "23505" "duplicate key")]
      [.onStatement "a" (.call (.execute none))] (by decide) (by decide)
      (.onConnection "p0" "x0" "c0" (.create (.prepareStatement "q") "a")) 1
    have hconnection : failing.state.connection? 0
        = some ⟨[] ++ .cache .standard :: [], ⟨some ⟨some 0, 0⟩, false⟩⟩ := by
      decide +kernel
    have hprepares : failing.Prepares (.onConnection "p0" "x0" "c0"
        (.create (.prepareStatement "q") "a")) ⟨0, 0⟩ "q" 1 :=
      .through (.create (by decide +kernel)) (by decide +kernel)
        (by decide +kernel) hconnection rfl (fun _ hin => by cases hin) rfl
        (by decide +kernel) rfl rfl
    have hspared : Along (Spares ⟨0, 0⟩ 1) (failing.step (.onConnection "p0"
        "x0" "c0" (.create (.prepareStatement "q") "a"))).2
        [.onStatement "a" (.call (.execute none))] :=
      ⟨spares_onStatement (by decide +kernel), trivial⟩
    have hthere : (still.state.connection? 0).isSome = true := by
      decide +kernel
    have hheld : still.statements.lookup "a" = some 1 := by decide +kernel
    have hopen : still.state.isClosed 1 = false := by decide +kernel
    have hsql : "q" ∉ (still.state.cacheView ⟨0, 0⟩).2 := by decide +kernel
    obtain ⟨-, n, hn, hparked, -⟩ := h ⟨0, 0⟩ "q" "a" (.call .close)
      hprepares hspared hthere hheld rfl hopen hsql
    with_reducible exact ⟨n, hn, hparked⟩

end Session

end PooledChain
