/-
How a chain with one cache answers who asks it for a statement.

The links around the cache only wrap what passes (`Link.isWrapper`): an
operation that makes no statement goes through to the terminal as it is
(`run_askLinks_passed`), and one that makes a statement comes back with
a facade for each of them on top. So what a request comes to is decided
in two places. If the cache has the statement, that one is taken off the
shelf, and the driver never hears of it (`supplies_hit`); if not, or if
the kind is none of the cache's, the driver is asked once, and what it
answers is what comes up (`supplies_miss`, `supplies_uncached`).

In all cases layers are only added: nothing under a layer that was there
before is touched (`State.Grown`).
-/
import PooledChain.Proofs.Heap.Creation
import PooledChain.Proofs.Heap.Making

namespace PooledChain

variable {s t u : State} {op : ConnectionOp} {kind : StatementKind}
  {sql : String} {c : ConnectionId}

-- ======================================================= wrapping links

/-- Whether the link puts a facade around every statement that passes,
and does nothing else. -/
def Link.isWrapper : Link → Bool
  | decorator => true
  | recorder _ => true
  | counter => true
  | _ => false

/-- A link that only wraps is faithful. -/
theorem Link.isFaithful_of_isWrapper {link : Link}
    (h : link.isWrapper = true) : link.isFaithful = true := by
  cases link <;> first | rfl | cases h

/-- A link is passed as it is by what makes no statement. -/
def Link.isTransparent (link : Link) : Bool :=
  link.isWrapper || link.isCache

namespace Act

variable {links above below : List Link} {config : CacheConfig}

/-- What makes no statement goes through to the terminal. A leak tracker
does not let closing through as it is. -/
theorem run_askLinks_through (c : ConnectionId)
    (hlinks : ∀ link ∈ links, link.isTransparent = true
      ∨ link.isLeakTracker = true ∧ op ≠ .close)
    (hk : op.creates? = none) (s : State) :
    (askLinks c links op).run s = (askTerminal c op).run s := by
  induction links generalizing s with
  | nil => rfl
  | cons link rest ih =>
      have hlink := hlinks link List.mem_cons_self
      have hrest := ih (fun l hl => hlinks l (List.mem_cons_of_mem _ hl)) s
      rw [← hrest, askLinks]
      by_cases hop : op = .close
      · replace hlink := hlink.resolve_right fun h => h.2 hop
        subst hop
        cases link with
        | decorator | recorder | counter | cache => rfl
        | _ => cases hlink
      · have hpass : ∀ link : Link, intercept link ⟨c, rest.length⟩
            (askLinks c rest) op = askLinks c rest op :=
          fun _ => intercept_of_passes hop fun hk' => by
            rw [hk] at hk'
            cases hk'
        cases link with
        | decorator | recorder | counter | leakTracker =>
            exact congrArg (fun next => next.run s) (hpass _)
        | cache config =>
            rw [askLink, throughCache, hk]
            simp only
            rw [run_bind, run_pure]
            simp only
            rw [hpass]
        | _ => rcases hlink with hlink | ⟨hlink, -⟩ <;> cases hlink

/-- What makes no statement is asked of the terminal, where all links pass
it as it is. -/
theorem run_askLinks_passed (c : ConnectionId)
    (hlinks : ∀ link ∈ links, link.isTransparent = true)
    (hk : op.creates? = none) (s : State) :
    (askLinks c links op).run s = (askTerminal c op).run s :=
  run_askLinks_through c (fun link hl => .inl (hlinks link hl)) hk s

/-- The terminal touches neither layers nor shelves if it is asked for no
statement. -/
theorem aside_askTerminal (g : Bool) (c : ConnectionId)
    (hk : op.creates? = none) (s : State) :
    Aside g s ((askTerminal c op).run s).2 := by
  have hnative : ∀ {α : Type} {x : Native.Act α} (_ : x.IsSteady)
      (f : α → ConnectionReply), Aside g s
        ((do return f (← native x) : Act ConnectionReply).run s).2 := by
    intro α x hx f
    refine Aside.bind (.of_native (hx g s.native)) fun a t => .refl t
  have hwraps : ∀ (x : PhysicalId) (target : WrapTarget)
      (f : Bool → Act ConnectionReply) (_ : ∀ b t, ((f b).run t).2 = t),
      Aside g s ((wraps x target >>= f).run s).2 := by
    intro x target f hf
    rw [run_bind]
    cases target with
    | pooled => rw [wraps, run_pure, hf]; exact .refl s
    | native name =>
        simp only [wraps, run_bind, run_get, run_pure, hf]
        exact .refl s
  by_cases hc : op = .close
  · subst hc
    obtain ⟨t, ht, hrun⟩ := run_closeTerminal g c s
    show Aside g s ((closeTerminal c).run s).2
    rw [hrun]
    exact ht
  by_cases hi : op = .isClosed
  · subst hi
    exact .refl s
  rw [run_askTerminal hc hi]
  split
  · exact .refl s
  · split
    · unfold askPhysical
      rw [run_bind, run_get]
      simp only
      cases op with
      | createStatement | prepareStatement | prepareCall => cases hk
      | isValid => exact hnative (Native.isSteady_isValid _) .bool
      | commit => exact hnative (Native.isSteady_commit _) fun _ => .unit
      | rollback => exact hnative (Native.isSteady_rollback _) fun _ => .unit
      | setAutoCommit b =>
          exact hnative (Native.isSteady_setAutoCommit _ b) fun _ => .unit
      | autoCommit => exact hnative (Native.isSteady_autoCommit _) .bool
      | nativeSql sql => exact hnative (Native.isSteady_nativeSql _ sql) .text
      | unwrap target =>
          refine hwraps _ target _ fun b t => ?_
          cases b <;> rfl
      | isWrapperFor target => exact hwraps _ target _ fun _ _ => rfl
      | close => exact absurd rfl hc
      | isClosed => exact absurd rfl hi
    · exact .refl s

end Act

-- =================================================== the driver's answer

/-- A later state in which only layers were added. -/
structure State.Grown (s t : State) : Prop where
  length : s.layers.length ≤ t.layers.length
  layer : ∀ {x}, x < s.layers.length → t.layer? x = s.layer? x

namespace State.Grown

/-- A state with the same layers is one to which none was added. -/
theorem of_layers (h : t.layers = s.layers) : s.Grown t :=
  ⟨Nat.le_of_eq (by rw [h]), fun _ => layer?_congr h _⟩

/-- Adding a layer only adds one. -/
theorem addLayer (s : State) (l : Layer) : s.Grown (s.addLayer l).2 where
  length := by
    show _ ≤ (s.layers ++ [l]).length
    rw [List.length_append]
    exact Nat.le_add_right _ _
  layer hx := by
    rw [layer?_addLayer_of_lt hx]

theorem trans (h₁ : s.Grown t) (h₂ : t.Grown u) : s.Grown u where
  length := Nat.le_trans h₁.length h₂.length
  layer hx := (h₂.layer (Nat.lt_of_lt_of_le hx h₁.length)).trans (h₁.layer hx)

/-- The layers there were have the cores they had. -/
theorem core (h : s.Grown t) {x : LayerId} (hx : x < s.layers.length) :
    t.core x = s.core x :=
  core_congr_layer (h.layer hx)

/-- What a layer leads to is still there. -/
theorem leads (h : s.Grown t) {a b : LayerId} (hab : s.Over a b) :
    t.Over a b := by
  induction hab using Relation.ReflTransGen.head_induction_on with
  | refl => exact .refl
  | @head a d had _ ih =>
      refine .head ?_ ih
      rw [Holds, h.core (lt_of_core had.not_released)]
      exact had

/-- What stood on a statement stands on it. -/
theorem stands (h : s.Grown t) {a : LayerId} {n : Native.StatementId}
    (hn : s.Stands a n) : t.Stands a n := by
  obtain ⟨b, hab, hb⟩ := hn.exists_native
  have hlt := lt_of_core (Core.ne_released_of_native hb)
  exact .over (.native ((h.core hlt).trans hb)) (h.leads hab)

end State.Grown

/-- Dressing a statement only adds layers. -/
theorem State.Dressed.grown {d h : LayerId} (hd : s.Dressed d t h) :
    s.Grown t :=
  ⟨hd.length, fun hx => hd.layer _ hx⟩

/-- The call of the driver's that a creating operation comes down to. -/
def ConnectionOp.making (n : Native.ConnectionId) :
    ConnectionOp → Native.Act Native.StatementId
  | createStatement => Native.createStatement n
  | prepareStatement sql => Native.prepare n .prepared sql
  | prepareCall sql => Native.prepare n .callable sql
  | _ => throw Native.Connection.closedError

/-- An operation with a kind and SQL has the driver prepare just that. -/
theorem ConnectionOp.making_eq_prepare (hk : op.creates? = some kind)
    (hsql : op.sql? = some sql) (n : Native.ConnectionId) :
    op.making n = Native.prepare n kind sql := by
  cases op <;> cases hk <;> cases hsql <;> rfl

/-- The driver's call makes a statement of the kind and the SQL that are
asked for. -/
theorem ConnectionOp.makes_making (hk : op.creates? = some kind)
    (n : Native.ConnectionId) : (op.making n).Makes kind op.sql? := by
  cases op <;> cases hk
  · exact Native.makes_createStatement n
  · exact Native.makes_prepare n .prepared _
  · exact Native.makes_prepare n .callable _

/-- What comes up if the driver answers `r` to the request for a
statement. Nothing comes up if it refuses; else a handle for the new
statement, which with `bare` no cache has had in its hands. -/
inductive Supplies (bare : Prop) (s : State) :
    Except DriverError Native.StatementId × Native.Store →
    Except Error ConnectionReply × State → Prop
  | refused {e st r t} : outOf r = none → t.layers = s.layers →
      t.caches = s.caches → t.native = st → Supplies bare s (.error e, st) (r, t)
  | given {n st h d t} : s.Grown t → t.caches = s.caches → t.native = st →
      t.Over h d → t.core d = .native (some n) → (bare → t.Wraps h d) →
      Supplies bare s (.ok n, st) (.ok (.statement h), t)

/-- Wrapping changes nothing in it. -/
theorem Supplies.dress {bare : Prop}
    {r : Except DriverError Native.StatementId × Native.Store}
    {a b : Except Error ConnectionReply × State} (hs : Supplies bare s r a)
    (hd : Dresses a b) : Supplies bare s r b := by
  cases hs with
  | refused ho hlayers hcaches hnative =>
      cases hd with
      | statement _ => cases ho
      | other _ ho' ha =>
          exact .refused ho' (ha.layers.trans hlayers)
            (ha.caches.trans hcaches) (ha.native.trans hnative)
  | @given _ _ _ d _ hgrown hcaches hnative hover hcore hbare =>
      cases hd with
      | statement hd =>
          have hlt := State.lt_of_core (Core.ne_released_of_native hcore)
          exact .given (d := d) (hgrown.trans hd.grown)
            (hd.caches.trans hcaches) (hd.native.trans hnative)
            (hd.wraps.over.trans (hd.grown.leads hover))
            ((hd.core hlt).trans hcore)
            fun hb => hd.wraps.trans ((hbare hb).congr hd.layer)
      | other ho _ _ => cases ho

namespace Supplies

variable {bare : Prop} {h : LayerId}
  {made : Except DriverError Native.StatementId × Native.Store}

/-- Layers are added, and nothing else. -/
theorem grown {r : Except Error ConnectionReply × State}
    (hs : Supplies bare s made r) : s.Grown r.2 ∧ r.2.caches = s.caches := by
  cases hs with
  | refused _ hlayers hcaches _ => exact ⟨.of_layers hlayers, hcaches⟩
  | given hgrown hcaches _ _ _ _ => exact ⟨hgrown, hcaches⟩

/-- A handle that comes up is one for the statement that the driver has
just made. -/
theorem exists_native (hs : Supplies bare s made (.ok (.statement h), t))
    {make : Native.Act Native.StatementId} {own : Option String}
    (hmake : make.Makes kind own) (hmade : made = make.run s.native) :
    ∃ d, t.Over h d
      ∧ t.core d = .native (some s.native.statements.length)
      ∧ (bare → t.Wraps h d) := by
  have hm := hmake s.native
  cases hs with
  | refused ho _ _ _ => cases ho
  | @given n _ _ d _ _ _ _ hover hcore hwraps =>
      rw [← hmade] at hm
      obtain ⟨rfl, -⟩ := hm
      exact ⟨d, hover, hcore, hwraps⟩

end Supplies

-- ============================================================ the chain

namespace Act

variable {links above below : List Link} {config : CacheConfig}
  {store : CacheStore} {a : LayerId}

/-- A native handle is put around what the driver makes. -/
theorem supplies_handleOver (c : ConnectionId) (kind : StatementKind)
    (sql : Option String) (make : Native.Act Native.StatementId)
    (s : State) :
    Supplies True s (make.run s.native)
      ((handleOver c kind sql make).run s) := by
  unfold handleOver
  rw [run_bind, run_native]
  rcases make.run s.native with ⟨e | n, st⟩
  · exact .refused rfl rfl rfl rfl
  · have hcore : (s.addLayer ⟨sql, kind, some c,
        .native (some n)⟩).2.core s.layers.length = .native (some n) := by
      rw [State.core_addLayer_new]
    have hgrown := State.Grown.addLayer s ⟨sql, kind, some c, .native (some n)⟩
    exact .given (d := s.layers.length) ⟨hgrown.length, hgrown.layer⟩ rfl rfl
      .refl hcore fun _ => .none

/-- A connection that is not closed asks the driver. -/
theorem supplies_askTerminal (hk : op.creates? = some kind)
    (hopen : s.isClosedConnection c = false) :
    ∃ n, s.driver? c = some n
      ∧ Supplies True s ((op.making n).run s.native)
        ((askTerminal c op).run s) := by
  have hc : op ≠ .close := fun he => by subst he; cases hk
  have hi : op ≠ .isClosed := fun he => by subst he; cases hk
  obtain ⟨a, ha⟩ : ∃ a, (s.terminalOf c).attachment = some a := by
    cases ha : (s.terminalOf c).attachment with
    | some a => exact ⟨a, rfl⟩
    | none =>
        cases hx : s.connection? c with
        | none =>
            rw [State.isClosedConnection, hx] at hopen
            cases hopen
        | some x =>
            rw [State.terminalOf, hx] at ha
            have ha : x.terminal.attachment = none := ha
            rw [State.isClosedConnection, hx] at hopen
            have hopen : s.isClosedTerminal x.terminal = false := hopen
            rw [State.isClosedTerminal, ha, Bool.or_true] at hopen
            cases hopen
  obtain ⟨q, hq, hdriver⟩ := State.driver?_of_attached ha hopen
  refine ⟨q.native, hdriver, ?_⟩
  rw [run_askTerminal hc hi, if_neg (Bool.eq_false_iff.1 hopen), ha]
  show Supplies True s _ ((askPhysical c a.physical op).run s)
  unfold askPhysical
  rw [run_bind, run_get]
  simp only [hq, Option.map_some, Option.getD_some]
  cases op with
  | createStatement | prepareStatement | prepareCall =>
      exact supplies_handleOver ..
  | _ => cases hk

/-- Links that wrap dress what comes up from below. -/
theorem dresses_wrappers (c : ConnectionId) (rest : List Link)
    (hk : op.creates? = some kind)
    (habove : ∀ link ∈ above, link.isWrapper = true) (s : State) :
    Dresses ((askLinks c rest op).run s)
      ((askLinks c (above ++ rest) op).run s) := by
  induction above with
  | nil => exact .refl _
  | cons link above ih =>
      have hlink := habove link List.mem_cons_self
      have hd := ih fun l hl => habove l (List.mem_cons_of_mem _ hl)
      rw [List.cons_append, askLinks]
      cases link with
      | decorator | recorder | counter =>
          exact hd.trans (dresses_intercept rfl hk s)
      | _ => cases hlink

/-- Links that only wrap supply what the driver makes. -/
theorem supplies_wrappers (hk : op.creates? = some kind)
    (hlinks : ∀ link ∈ links, link.isWrapper = true)
    (hopen : s.isClosedConnection c = false) :
    ∃ n, s.driver? c = some n
      ∧ Supplies True s ((op.making n).run s.native)
        ((askLinks c links op).run s) := by
  obtain ⟨n, hn, hs⟩ := supplies_askTerminal hk hopen
  refine ⟨n, hn, ?_⟩
  have hd := hs.dress (dresses_wrappers c [] hk hlinks s)
  rw [List.append_nil] at hd
  exact hd

/-- A cache lets pass what makes a statement of another kind. -/
theorem supplies_uncached (hk : op.creates? = some kind)
    (habove : ∀ link ∈ above, link.isWrapper = true)
    (hbelow : ∀ link ∈ below, link.isWrapper = true)
    (hdec : config.kinds.contains kind = false)
    (hopen : s.isClosedConnection c = false) :
    ∃ n, s.driver? c = some n
      ∧ Supplies True s ((op.making n).run s.native)
        ((askLinks c (above ++ .cache config :: below) op).run s) := by
  obtain ⟨n, hn, hs⟩ := supplies_wrappers hk hbelow hopen
  refine ⟨n, hn, Supplies.dress ?_ (dresses_wrappers c _ hk habove s)⟩
  have hop : op ≠ .close := fun he => by subst he; cases hk
  have hpass : (throughCache config ⟨c, below.length⟩ (askLinks c below)
      op).run s = (askLinks c below op).run s := by
    have hintercept : intercept (.cache config) ⟨c, below.length⟩
        (askLinks c below) op = askLinks c below op :=
      intercept_of_other hk hdec
    unfold throughCache
    rw [hk, hintercept]
    cases op.sql? with
    | none => rfl
    | some sql =>
        simp only
        rw [hdec]
        rfl
  show Supplies True s _ ((throughCache config _ _ op).run s)
  rw [hpass]
  exact hs

/-- What a cache is asked for a statement of its kinds, on a connection
that is not closed. -/
theorem run_throughCache_open (hk : op.creates? = some kind)
    (hsql : op.sql? = some sql) (hdec : config.kinds.contains kind = true)
    (hbelow : ∀ link ∈ below, link.isWrapper = true)
    (hopen : s.isClosedConnection c = false) :
    (askLinks c below .isClosed).run s = (.ok (.bool false), s)
      ∧ (throughCache config ⟨c, below.length⟩ (askLinks c below) op).run s
        = match (reuse? ⟨c, below.length⟩ (askLinks c below) kind sql).run s
          with
          | (.ok (some id), t) => (.ok (.statement id), t)
          | (.ok none, t) => (intercept (.cache config) ⟨c, below.length⟩
              (askLinks c below) op).run t
          | (.error e, t) => (.error e, t) := by
  constructor
  · rw [run_askLinks_passed c (fun link hl => by
      rw [Link.isTransparent, hbelow link hl, Bool.true_or]) rfl]
    show (Except.ok (ConnectionReply.bool (s.isClosedConnection c)), s) = _
    rw [hopen]
  · unfold throughCache
    rw [hk, hsql]
    simp only
    rw [if_pos hdec, run_bind]
    rcases (reuse? ⟨c, below.length⟩ (askLinks c below) kind sql).run s
      with ⟨e | (_ | id), t⟩ <;> rfl

/-- The cache has the statement: it is taken off the shelf. -/
theorem supplies_hit (hk : op.creates? = some kind)
    (hsql : op.sql? = some sql) (hdec : config.kinds.contains kind = true)
    (habove : ∀ link ∈ above, link.isWrapper = true)
    (hbelow : ∀ link ∈ below, link.isWrapper = true)
    (hopen : s.isClosedConnection c = false)
    (hstore : s.caches.get? ⟨c, below.length⟩ = some store)
    (hfind : store.find? sql = some a)
    (hkind : (s.layer? a).map (·.kind) = some kind)
    (ha : s.isClosed a = false) :
    ∃ h t, (askLinks c (above ++ .cache config :: below) op).run s
        = (.ok (.statement h), t)
      ∧ s.Grown t ∧ t.native = s.native
      ∧ t.caches = s.caches.set ⟨c, below.length⟩ (store.remove sql)
      ∧ t.Over h a := by
  obtain ⟨hask, heq⟩ := run_throughCache_open hk hsql hdec hbelow hopen
  have hrun : (askLinks c (.cache config :: below) op).run s
      = (.ok (.statement a), { s with
        caches := s.caches.set ⟨c, below.length⟩ (store.remove sql) }) := by
    have hreuse := run_reuse? ⟨c, below.length⟩ (askLinks c below) kind sql s
    show (throughCache config _ _ op).run s = _
    rw [heq]
    generalize (reuse? ⟨c, below.length⟩ (askLinks c below) kind sql).run s
      = r at hreuse
    cases hreuse with
    | off hoff =>
        rw [hstore] at hoff
        cases hoff
    | refused hr hne =>
        rw [hask] at hr
        cases hr
        exact absurd rfl hne
    | missing hr hmiss =>
        rw [hask] at hr
        cases hr
        exact absurd hkind (hmiss hstore hfind)
    | stale hr hs hf _ hclosed =>
        rw [hask] at hr
        cases hr
        rw [hstore] at hs
        cases hs
        rw [hfind] at hf
        cases hf
        rw [ha] at hclosed
        cases hclosed
    | found hr hs hf _ _ =>
        rw [hask] at hr
        cases hr
        rw [hstore] at hs
        cases hs
        rw [hfind] at hf
        cases hf
        rfl
  have hd := dresses_wrappers c (.cache config :: below) hk habove s
  rw [hrun] at hd
  rcases hout : (askLinks c (above ++ .cache config :: below) op).run s
    with ⟨r, t⟩
  rw [hout] at hd
  cases hd with
  | statement hd =>
      have hgrown : s.Grown t := ⟨hd.grown.length, hd.grown.layer⟩
      exact ⟨_, t, rfl, hgrown, hd.native, hd.caches, hd.wraps.over⟩
  | other ho _ _ => cases ho

/-- The cache does not have it: the driver is asked, and what it makes
gets a facade of the cache. -/
theorem supplies_miss (hk : op.creates? = some kind)
    (hsql : op.sql? = some sql) (hdec : config.kinds.contains kind = true)
    (habove : ∀ link ∈ above, link.isWrapper = true)
    (hbelow : ∀ link ∈ below, link.isWrapper = true)
    (hopen : s.isClosedConnection c = false)
    (hstore : s.caches.get? ⟨c, below.length⟩ = some store)
    (hmiss : ∀ a, store.find? sql = some a →
      (s.layer? a).map (·.kind) ≠ some kind) :
    ∃ n, s.driver? c = some n
      ∧ Supplies False s ((op.making n).run s.native)
        ((askLinks c (above ++ .cache config :: below) op).run s) := by
  obtain ⟨hask, heq⟩ := run_throughCache_open hk hsql hdec hbelow hopen
  obtain ⟨n, hn, hs⟩ := supplies_wrappers hk hbelow hopen
  refine ⟨n, hn, Supplies.dress ?_ (dresses_wrappers c _ hk habove s)⟩
  have hrun : (throughCache config ⟨c, below.length⟩ (askLinks c below)
      op).run s = (intercept (.cache config) ⟨c, below.length⟩
        (askLinks c below) op).run s := by
    have hreuse := run_reuse? ⟨c, below.length⟩ (askLinks c below) kind sql s
    rw [heq]
    generalize (reuse? ⟨c, below.length⟩ (askLinks c below) kind sql).run s
      = r at hreuse
    cases hreuse with
    | off hoff => rfl
    | refused hr hne =>
        rw [hask] at hr
        cases hr
        exact absurd rfl hne
    | missing hr _ =>
        rw [hask] at hr
        cases hr
        rfl
    | stale hr hs' hf hkind _ =>
        rw [hask] at hr
        cases hr
        rw [hstore] at hs'
        cases hs'
        exact absurd hkind (hmiss _ hf)
    | found hr hs' hf hkind _ =>
        rw [hask] at hr
        cases hr
        rw [hstore] at hs'
        cases hs'
        exact absurd hkind (hmiss _ hf)
  show Supplies False s _ ((throughCache config _ _ op).run s)
  have hdecorates : (Link.cache config).decorates.contains kind = true := hdec
  rw [hrun, intercept_of_decorates hk hdecorates, run_bind]
  generalize (op.making n).run s.native = made at hs
  rcases hout : (askLinks c below op).run s with ⟨r, t⟩
  rw [hout] at hs
  cases hs with
  | refused ho hlayers hcaches hnative =>
      rcases r with e | r
      · exact .refused rfl hlayers hcaches hnative
      · simp only
        rw [run_bind, run_lift]
        cases r with
        | statement id => cases ho
        | _ => exact .refused rfl hlayers hcaches hnative
  | @given _ _ h d _ hgrown hcaches hnative hover hcore _ =>
      simp only
      rw [run_bind, run_lift]
      simp only [ConnectionReply.toStatement]
      have hkt : t.caches.get? ⟨c, below.length⟩ = some store := by
        rw [hcaches]
        exact hstore
      rw [run_bind, hsql, run_decorate_cache config hkt]
      let l := facadeOf ⟨c, below.length⟩ kind (some sql) h
        (.cached ⟨c, below.length⟩ store.generation false)
      have hadd := State.Grown.addLayer t l
      have hnew : (t.addLayer l).2.Holds t.layers.length h := by
        rw [State.Holds, State.core_addLayer_new]
        rfl
      have hlt := State.lt_of_core (Core.ne_released_of_native hcore)
      exact .given (d := d) (hgrown.trans hadd) hcaches hnative
        (.head hnew (hadd.leads hover)) ((hadd.core hlt).trans hcore)
        fun hb => hb.elim

end Act

end PooledChain
