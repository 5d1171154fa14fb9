/-
How a statement comes up a chain.

What is created reaches the links above a cache as the cache handed it
out. Each of them puts a facade around it or leaves it as it is, and a
facade of theirs is not one of a cache; so the handle that the caller
gets stands on what the cache handed out, over facades of no cache
(`dresses_askLinks`).

A cache hands out an unbroken facade of its own, of the generation that
its shelf is in, whether the facade was parked or is new
(`fit_throughCache`). A handle over such a facade is `Ready`: closing it
would park its statement.
-/
import PooledChain.Proofs.Heap.Asking
import PooledChain.Proofs.Heap.Installed
import PooledChain.Proofs.Heap.Path

namespace PooledChain

open Scene (Sound)

variable {p : Terms} {s t u : State} {held loose : List LayerId}

namespace State

-- ============================================================= wrapping

/-- From `h` down to `d` there are facades of no cache. -/
inductive Wraps (s : State) : LayerId → LayerId → Prop
  | none {d} : Wraps s d d
  | one {h f e d} : s.core h = .facade f →
      (∀ k g b, f.behaviour ≠ .cached k g b) → f.delegate = some e →
      Wraps s e d → Wraps s h d

variable {h h' d : LayerId}

/-- What wraps a layer is over it. -/
theorem Wraps.over (hw : s.Wraps h d) : s.Over h d := by
  induction hw with
  | none => exact .refl
  | one hf _ he _ ih =>
      exact .head (.of_facade hf he) ih

namespace Wraps

/-- The first facade of a cache is looked for further down. -/
theorem leads {a : LayerId} (hw : s.Wraps h d) (hd : s.Leads d a) :
    s.Leads h a := by
  induction hw with
  | none => exact hd
  | one hf hb he _ ih => exact .there hf hb he (ih hd)

theorem trans {e : LayerId} (h₁ : s.Wraps h d) (h₂ : s.Wraps d e) :
    s.Wraps h e := by
  induction h₁ with
  | none => exact h₂
  | one hf hb he _ ih => exact .one hf hb he (ih h₂)

/-- The layers of a wrapping are there. -/
theorem congr (hw : s.Wraps h d)
    (hl : ∀ x, x < s.layers.length → t.layer? x = s.layer? x) :
    t.Wraps h d := by
  induction hw with
  | none => exact .none
  | one hf hb he _ ih =>
      have hlt := lt_of_core (Core.ne_released_of_facade hf)
      refine .one ?_ hb he ih
      rw [core, hl _ hlt]
      exact hf

end Wraps

/-- A state in which the statement `d` was wrapped and is `h` now, and
nothing else has become of the layers, the shelves and the driver. -/
structure Dressed (s : State) (d : LayerId) (t : State) (h : LayerId) :
    Prop where
  caches : t.caches = s.caches
  native : t.native = s.native
  connections : t.connections = s.connections
  length : s.layers.length ≤ t.layers.length
  layer : ∀ x, x < s.layers.length → t.layer? x = s.layer? x
  wraps : t.Wraps h d

namespace Dressed

theorem of_alike (ha : s.Alike t) : s.Dressed d t d where
  caches := ha.caches
  native := ha.native
  connections := ha.connections
  length := Nat.le_of_eq (by rw [ha.layers])
  layer x _ := layer?_congr ha.layers x
  wraps := .none

theorem trans (h₁ : s.Dressed d t h) (h₂ : t.Dressed h u h') :
    s.Dressed d u h' where
  caches := h₂.caches.trans h₁.caches
  native := h₂.native.trans h₁.native
  connections := h₂.connections.trans h₁.connections
  length := Nat.le_trans h₁.length h₂.length
  layer x hx :=
    (h₂.layer x (Nat.lt_of_lt_of_le hx h₁.length)).trans (h₁.layer x hx)
  wraps := h₂.wraps.trans (h₁.wraps.congr h₂.layer)

/-- Wrapping leaves the layers that were there as they are. -/
theorem core (hd : s.Dressed d t h) {x : LayerId}
    (hx : x < s.layers.length) : t.core x = s.core x := by
  rw [State.core, hd.layer x hx, State.core]

end Dressed

end State

-- ======================================================== passing links

/-- What a link makes of an operation that it passes on. -/
def Link.passOn : Link → ConnectionOp → ConnectionOp
  | prepending text, op => op.prepend text
  | _, op => op

/-- Whether a link leaves it to what is below it to create a statement.
A cache may have one, and a link that answers the operation does not ask
what is below. -/
def Link.defers (op : ConnectionOp) : Link → Bool
  | cache _ => false
  | answering answers => (answers.lookup op.name).isNone
  | _ => true

/-- What reaches the links below `links` of an operation. -/
def reaching : List Link → ConnectionOp → ConnectionOp
  | [], op => op
  | link :: rest, op => reaching rest (link.passOn op)

/-- A link passes an operation on under its name. -/
theorem Link.name_passOn (link : Link) (op : ConnectionOp) :
    (link.passOn op).name = op.name := by
  cases link with
  | prepending text => cases op <;> rfl
  | _ => rfl

/-- It asks for the same kind of statement. -/
theorem Link.creates?_passOn (link : Link) (op : ConnectionOp) :
    (link.passOn op).creates? = op.creates? := by
  cases link with
  | prepending text => cases op <;> rfl
  | _ => rfl

/-- What reaches the links below asks for the same kind of statement. -/
theorem creates?_reaching (links : List Link) (op : ConnectionOp) :
    (reaching links op).creates? = op.creates? := by
  induction links generalizing op with
  | nil => rfl
  | cons link rest ih => rw [reaching, ih, link.creates?_passOn]

/-- What a link leaves to others depends on the name of the operation
alone. -/
theorem Link.defers_congr {op op' : ConnectionOp} (hn : op'.name = op.name)
    (link : Link) : link.defers op' = link.defers op := by
  cases link with
  | answering answers => rw [defers, hn, defers]
  | _ => rfl

/-- What comes up from below, and what comes out above: a statement that
was wrapped on the way, or something else. -/
inductive Dresses : Except Error ConnectionReply × State →
    Except Error ConnectionReply × State → Prop
  | statement {s t : State} {d h} : s.Dressed d t h →
      Dresses (.ok (.statement d), s) (.ok (.statement h), t)
  | other {s t : State} {r r'} : outOf r = none → outOf r' = none →
      s.Alike t → Dresses (r, s) (r', t)

namespace Dresses

variable {a b c : Except Error ConnectionReply × State}

/-- Nothing is done to what comes up. -/
theorem refl (a : Except Error ConnectionReply × State) : Dresses a a := by
  obtain ⟨r, t⟩ := a
  cases ho : outOf r with
  | none => exact .other ho ho (.refl t)
  | some d =>
      have he : r = .ok (.statement d) := by
        rcases r with e | r
        · cases ho
        · cases r <;> cases ho
          rfl
      rw [he]
      exact .statement (.of_alike (.refl t))

theorem trans (h₁ : Dresses a b) (h₂ : Dresses b c) : Dresses a c := by
  cases h₁ with
  | statement hd =>
      cases h₂ with
      | statement hd' => exact .statement (hd.trans hd')
      | other ho _ _ => cases ho
  | other ho ho' ha =>
      cases h₂ with
      | statement _ => cases ho'
      | other _ ho'' ha' => exact .other ho ho'' (ha.trans ha')

end Dresses

namespace Act

variable {link : Link} {self : LinkId} {next : Next} {op : ConnectionOp}
  {kind : StatementKind}

/-- Decorating by a link that is not a cache. -/
theorem decorate_dressed (hlink : link.isCache = false) (self : LinkId)
    (kind : StatementKind) (sql : Option String) (d : LayerId)
    (s : State) : ∃ h t, (decorate link self kind sql d).run s = (.ok h, t)
      ∧ s.Dressed d t h := by
  obtain ⟨b, t, hdec, hrun⟩ := run_decorate link self kind sql d s
  rw [hrun]
  -- a facade is added, in a state in which something was noted before
  have hadd : ∀ {b : Behaviour}, t.layers = s.layers →
      t.caches = s.caches → t.native = s.native →
      t.connections = s.connections → (∀ k g x, b ≠ .cached k g x) →
      s.Dressed d (t.addLayer (facadeOf self kind sql d b)).2
        t.layers.length := by
    intro b hlayers hcaches hnative hconn hb
    have hnew : (t.addLayer (facadeOf self kind sql d b)).2.core
        t.layers.length
          = .facade ⟨self.place + 1, some d, false, b⟩ := by
      rw [State.core_addLayer_new]
      rfl
    refine ⟨hcaches, hnative, hconn, ?_, fun x hx => ?_,
      .one hnew hb rfl .none⟩
    · show _ ≤ (t.layers ++ _).length
      rw [hlayers, List.length_append]
      exact Nat.le_add_right _ _
    · rw [State.layer?_addLayer, hlayers, if_neg (Nat.ne_of_lt hx)]
      exact State.layer?_congr hlayers x
  cases hdec with
  | nothing ha => exact ⟨d, t, rfl, .of_alike ha⟩
  | plain ha hb _ _ =>
      exact ⟨_, _, rfl, hadd ha.layers ha.caches ha.native ha.connections hb⟩
  | cached hc _ =>
      rw [hlink] at hc
      cases hc
  | tracked _ =>
      exact ⟨_, _, rfl, hadd rfl rfl rfl rfl fun _ _ _ he => by cases he⟩

/-- A decorating link that is not a cache dresses what comes up. -/
theorem dresses_intercept (hlink : link.isCache = false)
    (hk : op.creates? = some kind) (s : State) :
    Dresses ((next op).run s) ((intercept link self next op).run s) := by
  by_cases hdec : link.decorates.contains kind = true
  · rcases run_intercept hk hdec self next s
      with ⟨hnone, e, hrun⟩ | ⟨d, a, u, t, hbelow, hrun, hfirst⟩
    · rw [hrun]
      exact .other hnone rfl (.refl _)
    · obtain ⟨h, w, hrun', hdressed⟩ :=
        decorate_dressed hlink self kind op.sql? d u
      rw [hrun] at hrun'
      cases hrun'
      rw [hbelow, hfirst]
      exact .statement hdressed
  · rw [intercept_of_other hk (Bool.eq_false_iff.2 hdec)]
    exact .refl _

/-- Links that leave it to those below to create a statement dress what
comes up from there. -/
theorem dresses_askLinks (c : ConnectionId) {above : List Link}
    (rest : List Link)
    (hk : op.creates? = some kind)
    (habove : ∀ link ∈ above, link.defers op = true) (s : State) :
    ∃ s', s.Alike s' ∧ s'.trackers = s.trackers ∧ Dresses
      ((askLinks c rest (reaching above op)).run s')
      ((askLinks c (above ++ rest) op).run s) := by
  induction above generalizing op s with
  | nil => exact ⟨s, .refl s, rfl, .refl _⟩
  | cons link above ih =>
      have hlink := habove link List.mem_cons_self
      have hrest : ∀ link' ∈ above, link'.defers (link.passOn op) = true := by
        intro link' hin
        rw [Link.defers_congr (link.name_passOn op)]
        exact habove link' (List.mem_cons_of_mem _ hin)
      have hk' : (link.passOn op).creates? = some kind :=
        (link.creates?_passOn op).trans hk
      rw [List.cons_append, askLinks, reaching]
      cases link with
      | cache config => cases hlink
      | answering answers =>
          have hnone : answers.lookup op.name = none :=
            Option.isNone_iff_eq_none.1 hlink
          rw [askLink, hnone]
          exact ih hk' hrest s
      | bare => exact ih hk' hrest s
      | prepending text => exact ih hk' hrest s
      | probe label =>
          obtain ⟨s', hs', htr, hd⟩ :=
            ih hk' hrest (s.note label (.operation op.name op.sql?))
          refine ⟨s', State.Alike.trans ?_ hs', htr, hd⟩
          exact ⟨rfl, rfl, rfl, rfl, fun h => h⟩
      | _ =>
          obtain ⟨s', hs', htr, hd⟩ := ih hk' hrest s
          exact ⟨s', hs', htr, hd.trans (dresses_intercept rfl hk s)⟩

/-- What a decorating link hands up is what came up to it, decorated. -/
theorem exists_decorated {a : LayerId} (hk : op.creates? = some kind)
    (hlink : link.decorates.contains kind = true)
    (hr : (intercept link self next op).run s = (.ok (.statement a), t)) :
    ∃ d u, (next op).run s = (.ok (.statement d), u)
      ∧ (decorate link self kind op.sql? d).run u = (.ok a, t) := by
  rcases run_intercept hk hlink self next s
    with ⟨-, e, hrun⟩ | ⟨d, b, u, w, hbelow, hrun, hfirst⟩
  · rw [hrun] at hr
    cases hr
  · rw [hfirst] at hr
    cases hr
    exact ⟨d, u, hbelow, hrun⟩

-- =============================================================== a cache

end Act

namespace State

/-- Whether a layer is a facade of the cache `k` that can be parked there:
unbroken and of the generation that the shelf is in. -/
structure Fit (s : State) (k : LinkId) (sql : String) (a : LayerId) :
    Prop where
  facade : ∃ store l f, s.caches.get? k = some store
    ∧ s.layer? a = some l ∧ l.sql = some sql ∧ l.core = .facade f
    ∧ f.behaviour = .cached k store.generation false

theorem Fit.congr {k : LinkId} {sql : String} {a : LayerId}
    (hf : s.Fit k sql a) (hc : t.caches = s.caches)
    (hl : t.layer? a = s.layer? a) : t.Fit k sql a := by
  obtain ⟨store, l, f, hk, hlayer, hrest⟩ := hf.facade
  exact ⟨store, l, f, by rw [hc]; exact hk, hl.trans hlayer, hrest⟩

theorem Fit.lt {k : LinkId} {sql : String} {a : LayerId}
    (hf : s.Fit k sql a) : a < s.layers.length := by
  obtain ⟨store, l, f, hk, hlayer, -⟩ := hf.facade
  exact (List.getElem?_eq_some_iff.1 hlayer).1

/-- A facade that can be parked is the first one of a cache on its own way
down. -/
theorem Fit.leads {k : LinkId} {sql : String} {a : LayerId}
    (hf : s.Fit k sql a) : s.Leads a a := by
  obtain ⟨store, l, f, -, hlayer, -, hcore, hb⟩ := hf.facade
  exact .here ((core_eq_of_layer? hlayer).trans hcore) hb

end State

namespace Act

variable {self : LinkId} {next : Next} {op : ConnectionOp}
  {kind : StatementKind} {sql : String} {store : CacheStore}

/-- A cache decorates a statement of its kinds with a fit facade. -/
theorem run_decorate_cache (config : CacheConfig)
    (hk : s.caches.get? self = some store) (kind : StatementKind)
    (sql : String) (d : LayerId) :
    (decorate (.cache config) self kind (some sql) d).run s
      = (.ok s.layers.length, (s.addLayer (facadeOf self kind (some sql) d
          (.cached self store.generation false))).2) := by
  have hrun : (behaviour? (.cache config) self kind (some sql)
      s.layers.length).run s
        = (.ok (some (.cached self store.generation false)), s) := by
    unfold behaviour?
    rw [run_bind, run_get]
    simp only
    rw [hk]
    rfl
  unfold decorate
  rw [run_bind, run_get]
  simp only
  rw [run_bind, hrun]
  rfl

/-- What a cache takes off its shelf is fit. -/
theorem fit_reuse (hnext : AsksBelow p self next)
    (h : Sound ⟨s, held, none, loose⟩) {a : LayerId}
    (hr : (reuse? self next kind sql).run s = (.ok (some a), t)) :
    t.Fit self sql a := by
  have hclosed := moves_isClosed hnext h
  have hruns := run_reuse? self next kind sql s
  rw [hr] at hruns
  cases hruns with
  | @found u store _ hask hk hf _ _ =>
      rw [hask] at hclosed
      obtain ⟨l, d, hl, hsql, hcore⟩ := exists_entry (hclosed.sound h) hk hf
      refine ⟨store.remove sql, l, _, ?_, hl, hsql, hcore, rfl⟩
      show (u.caches.set self _).get? self = _
      rw [Keyed.get?_set, if_pos rfl]

/-- What a cache puts around a new statement is fit. -/
theorem fit_intercept (config : CacheConfig)
    (hnext : AsksBelow p self next) (he : ¬ p.empties self)
    (hcreates : op.creates?.isSome → p.creates self.connection)
    (h : Sound ⟨s, held, none, loose⟩)
    (hk : s.caches.get? self = some store)
    (hkind : op.creates? = some kind) (hsql : op.sql? = some sql)
    (hdec : config.kinds.contains kind = true) {a : LayerId}
    (hr : (intercept (.cache config) self next op).run s
      = (.ok (.statement a), t)) : t.Fit self sql a := by
  have hclose : op = .close → ∀ id, p.closes id := fun hc => by
    subst hc
    cases hkind
  have hask := hnext s held loose op h hclose hcreates
  have hlink : (Link.cache config).decorates.contains kind = true := hdec
  obtain ⟨d, u, hbelow, hdecorate⟩ := exists_decorated hkind hlink hr
  rw [hbelow] at hask
  obtain ⟨new, hnew, -⟩ := hask.moves.kept hk he
  rw [hsql, run_decorate_cache config hnew] at hdecorate
  cases hdecorate
  refine ⟨new, facadeOf self kind (some sql) d
    (.cached self new.generation false), _, hnew, ?_, rfl, rfl, rfl⟩
  rw [State.layer?_addLayer_new]

/-- What comes up from a cache is fit. -/
theorem fit_throughCache (config : CacheConfig)
    (hnext : AsksBelow p self next) (he : ¬ p.empties self)
    (hcreates : op.creates?.isSome → p.creates self.connection)
    (h : Sound ⟨s, held, none, loose⟩)
    (hk : s.caches.get? self = some store)
    (hkind : op.creates? = some kind) (hsql : op.sql? = some sql)
    (hdec : config.kinds.contains kind = true) {a : LayerId}
    (hr : (throughCache config self next op).run s
      = (.ok (.statement a), t)) : t.Fit self sql a := by
  unfold throughCache at hr
  rw [hkind, hsql] at hr
  simp only at hr
  rw [if_pos hdec, run_bind] at hr
  obtain ⟨hm, -⟩ :=
    moves_reuse hnext (hcreates (by rw [hkind]; rfl)) kind sql h
  rcases hreuse : (reuse? self next kind sql).run s with ⟨e | found, u⟩
  · rw [hreuse] at hr
    cases hr
  · rw [hreuse] at hm hr
    cases found with
    | some b =>
        cases hr
        exact fit_reuse hnext h hreuse
    | none =>
        obtain ⟨new, hnew, -⟩ := hm.kept hk he
        exact fit_intercept config hnext he hcreates (hm.sound h) hnew hkind
          hsql hdec hr

end Act

-- ========================================================= a step of it

namespace Session

/-- A step that asks a connection for a statement and gives it to a
caller under a name. -/
inductive Grants (s : Session) :
    Step → String → ConnectionOp → String → Prop
  | create {pool physical name op handle} :
      (s.step (.onConnection pool physical name
        (.create op handle))).1 = .unit →
      Grants s (.onConnection pool physical name (.create op handle))
        name op handle
  | invoke {pool physical name op handle} :
      (s.step (.onConnection pool physical name
        (.invoke op handle))).1 = .bareStatement handle →
      Grants s (.onConnection pool physical name (.invoke op handle))
        name op handle

variable {s : Session} {op : ConnectionOp} {step : Step}
  {pool physical name handle : String}

/-- A step on a connection that is there is taken on it. -/
theorem exists_onConnection {cstep : ConnectionStep}
    (h : ∀ what, (s.act (.onConnection pool physical name cstep)).1
      ≠ .missing what) :
    ∃ q y c x, s.connections.lookup name = some c
      ∧ s.state.connection? c = some x
      ∧ s.act (.onConnection pool physical name cstep)
        = s.onConnection q y c x cstep := by
  rw [act] at h ⊢
  cases hpool : s.pools.lookup pool with
  | none =>
      rw [hpool] at h
      exact absurd rfl (h _)
  | some q =>
      cases hphysical : s.physicals.lookup physical with
      | none =>
          rw [hpool, hphysical] at h
          exact absurd rfl (h _)
      | some y =>
          cases hname : s.connections.lookup name with
          | none =>
              rw [hpool, hphysical, hname] at h
              exact absurd rfl (h _)
          | some c =>
              rw [hpool, hphysical, hname] at h
              simp only at h ⊢
              cases hc : s.state.connection? c with
              | none =>
                  rw [hc] at h
                  exact absurd rfl (h _)
              | some x => exact ⟨q, y, c, x, rfl, hc, rfl⟩

/-- What a chain is asked for when a caller gets a handle. -/
theorem Grants.exists_created (h : s.Grants step name op handle) :
    ∃ c x a t, s.connections.lookup name = some c
      ∧ s.state.connection? c = some x
      ∧ (Act.askLinks c x.links op).run s.quiet.state
        = (.ok (.statement a), t)
      ∧ (s.quiet.act step).2
        = { s.quiet with state := t }.storeStatement handle a
      ∧ (s.step step).2.statements.lookup handle = some a := by
  cases h with
  | @create pool physical _ _ _ hr =>
      have hr : (s.quiet.act (.onConnection pool physical name
        (.create op handle))).1 = .unit := hr
      obtain ⟨q, y, c, x, hname, hc, hact⟩ := exists_onConnection
        fun what he => by
          rw [hr] at he
          cases he
      have hstep : (s.step (.onConnection pool physical name
          (.create op handle))).2.statements
            = (s.quiet.act (.onConnection pool physical name
              (.create op handle))).2.statements := rfl
      rw [hstep]
      rw [hact] at hr ⊢
      rw [onConnection, perform, Act.statementOf,
        Act.run_read c op (ConnectionReply.toStatement op.name),
        run_invokeOp hc] at hr ⊢
      rcases hask : (Act.askLinks c x.links op).run s.quiet.state
        with ⟨e | r, t⟩
      · rw [hask] at hr
        cases hr
      · rw [hask] at hr
        cases r with
        | statement a =>
            exact ⟨c, x, a, t, hname, hc, hask, rfl, List.lookup_cons_self⟩
        | _ => cases hr
  | @invoke pool physical _ _ _ hr =>
      have hr : (s.quiet.act (.onConnection pool physical name
        (.invoke op handle))).1 = .bareStatement handle := hr
      obtain ⟨q, y, c, x, hname, hc, hact⟩ := exists_onConnection
        fun what he => by
          rw [hr] at he
          cases he
      have hstep : (s.step (.onConnection pool physical name
          (.invoke op handle))).2.statements
            = (s.quiet.act (.onConnection pool physical name
              (.invoke op handle))).2.statements := rfl
      rw [hstep]
      rw [hact] at hr ⊢
      rw [onConnection, perform, run_invokeOp hc] at hr ⊢
      rcases hask : (Act.askLinks c x.links op).run s.quiet.state
        with ⟨e | r, t⟩
      · rw [hask] at hr
        cases hr
      · rw [hask] at hr
        cases r with
        | statement a =>
            exact ⟨c, x, a, t, hname, hc, hask, rfl, List.lookup_cons_self⟩
        | _ => cases hr

/-- A step, up to where the names that are left decide what is
released. -/
theorem moves_quiet_act (h : s.scene.Sound)
    (hord : step.isOrdinary = true) :
    Moves (.free s.guarded) s.quiet.scene (s.quiet.act step).2.scene :=
  moves_act hord (sound_quiet h) (suits_free s.quiet step _)

/-- What a caller asks for is a step that callers take. -/
theorem Grants.isOrdinary {name handle : String} {op : ConnectionOp}
    (h : s.Grants step name op handle) : step.isOrdinary = true := by
  cases h <;> rfl

/-- What a caller gets is left as the chain handed it over: a handle that
is held is not released, and neither is what is under it. -/
theorem Grants.exists_settled (hg : s.Grants step name op handle)
    (h : s.Sound) : ∃ c x a t, s.connections.lookup name = some c
      ∧ s.state.connection? c = some x
      ∧ (Act.askLinks c x.links op).run s.quiet.state
        = (.ok (.statement a), t)
      ∧ (s.step step).2.statements.lookup handle = some a
      ∧ ∀ y, t.Over a y →
        (s.step step).2.state.layer? y = t.layer? y := by
  obtain ⟨c, x, a, t, hname, hc, hask, hact, ha⟩ := hg.exists_created
  refine ⟨c, x, a, t, hname, hc, hask, ha, fun y hy => ?_⟩
  have hafter : (s.quiet.act step).2.scene.Sound :=
    (moves_quiet_act h.scene hg.isOrdinary).sound (sound_quiet h.scene)
  have hheld : a ∈ (s.quiet.act step).2.held := held_of_lookup ha
  show ((s.quiet.act step).2.settle).state.layer? y = _
  rw [hact] at hafter hheld ⊢
  exact State.layer?_release (Scene.Sound.formed hafter) (.inl hheld) hy

end Session

end PooledChain
