/-
What each link of a chain does, as moves; and with that whole chains.

A link decorates the statement on its way up (`moves_decorate`), a cache
hands out what it holds (`moves_reuse`), a tracker closes what it lists
before the connection closes (`moves_closeListed`). A link that asks the
links below it is looked at with the assumption `AsksBelow` on them.
-/
import PooledChain.Proofs.Heap.Ask

namespace PooledChain

open Scene (Sound)

/-- A tracker that lists one more layer. -/
def Tracker.listing (t : Tracker) (id : LayerId) : Tracker :=
  ⟨t.entries ++ [(t.next, id)], t.next + 1⟩

variable {p : Terms} {s t : State} {held loose : List LayerId}
  {place : Nat} {op : ConnectionOp}

namespace Act

-- ======================================================= decoration

/-- What a link remembers about a statement it decorates, and how its
facade behaves. Only a tracker notes the facade itself, under a number
of its own. -/
inductive Decides (link : Link) (self : LinkId) (upcoming : LayerId)
    (s : State) : Option Behaviour → State → Prop
  | nothing {s'} : s.Alike s' → Decides link self upcoming s none s'
  | plain {b s'} : s.Alike s' → (∀ k g x, b ≠ .cached k g x) →
      (∀ k n, b ≠ .tracked k n) →
      (link.isFaithful = true → b.isWatched = false) →
      Decides link self upcoming s (some b) s'
  | cached {store} : link.isCache = true → s.caches.get? self = some store →
      Decides link self upcoming s
        (some (.cached self store.generation false)) s
  | tracked {tr} : s.trackers.get? self = some tr →
      Decides link self upcoming s (some (.tracked self tr.next))
        { s with trackers := s.trackers.set self (tr.listing upcoming) }

/-- What a link remembers about a statement never fails. -/
theorem run_behaviour? (link : Link) (self : LinkId)
    (kind : StatementKind) (sql : Option String) (upcoming : LayerId)
    (s : State) :
    ∃ b t, (behaviour? link self kind sql upcoming).run s = (.ok b, t)
      ∧ Decides link self upcoming s b t := by
  unfold behaviour?
  rw [run_bind, run_get]
  cases link with
  | decorator =>
      exact ⟨_, _, rfl, .plain (.refl s) (fun _ _ _ h => by cases h)
        (fun _ _ h => by cases h) fun _ => rfl⟩
  | cache config =>
      simp only
      cases hk : s.caches.get? self with
      | none => exact ⟨_, _, rfl, .nothing (.refl s)⟩
      | some store =>
          cases sql with
          | none => exact ⟨_, _, rfl, .nothing (.refl s)⟩
          | some sql => exact ⟨_, _, rfl, .cached rfl hk⟩
  | leakTracker =>
      simp only
      cases ht : s.trackers.get? self with
      | some t => exact ⟨_, _, rfl, .tracked ht⟩
      | none => exact ⟨_, _, rfl, .nothing (.refl s)⟩
  | recorder config =>
      simp only
      split
      · exact ⟨_, _, rfl, .plain (.refl s) (fun _ _ _ h => by cases h)
          (fun _ _ h => by cases h) fun _ => rfl⟩
      · exact ⟨_, _, rfl, .nothing (.refl s)⟩
  | counter =>
      refine ⟨_, _, rfl, .plain ?_ (fun _ _ _ h => by cases h)
        (fun _ _ h => by cases h) fun _ => rfl⟩
      exact ⟨rfl, rfl, rfl, rfl, fun h => h⟩
  | watcher label kinds answered =>
      refine ⟨_, _, rfl, .plain ?_ (fun _ _ _ h => by cases h)
        (fun _ _ h => by cases h) fun h => by cases h⟩
      exact ⟨rfl, rfl, rfl, rfl, fun h => h⟩
  | probe | bare | answering | prepending =>
      exact ⟨_, _, rfl, .nothing (.refl s)⟩

/-- The layer that a link puts around a statement. -/
def facadeOf (self : LinkId) (kind : StatementKind) (sql : Option String)
    (statement : LayerId) (b : Behaviour) : Layer :=
  ⟨sql, kind, some self.connection,
    .facade ⟨self.place + 1, some statement, false, b⟩⟩

/-- A statement is decorated, or left as it is. -/
theorem run_decorate (link : Link) (self : LinkId) (kind : StatementKind)
    (sql : Option String) (d : LayerId) (s : State) :
    ∃ b t, Decides link self s.layers.length s b t
      ∧ (decorate link self kind sql d).run s
        = match b with
          | none => (.ok d, t)
          | some b => (.ok t.layers.length,
              (t.addLayer (facadeOf self kind sql d b)).2) := by
  obtain ⟨b, t, hrun, hdec⟩ :=
    run_behaviour? link self kind sql s.layers.length s
  refine ⟨b, t, hdec, ?_⟩
  unfold decorate
  rw [run_bind, run_get]
  simp only
  rw [run_bind, hrun]
  cases b <;> rfl

/-- A facade stands where what it was put around stood. -/
theorem stands_facadeOf {u : State} (hu : u.layers = s.layers)
    (self : LinkId) (kind : StatementKind) (sql : Option String)
    (b : Behaviour) {d : LayerId} {n : Native.StatementId}
    (hn : s.Stands d n) :
    (u.addLayer (facadeOf self kind sql d b)).2.Stands u.layers.length n := by
  refine .facade (d := d) ?_ (hn.congr fun x hx => ?_)
  · rw [State.Holds, State.core_addLayer_new]
    rfl
  · have hlt := State.lt_of_core (hn.of_over hx).not_released
    rw [State.core_addLayer_of_lt (by rw [hu]; exact hlt),
      State.core_congr hu]

/-- A tracker lists the facade that it has made. -/
theorem aside_listing (g : Bool) {self : LinkId} {tr : Tracker}
    (ht : s.trackers.get? self = some tr) {l : Layer} {f : Facade}
    (hl : l.core = .facade f) (hb : f.behaviour = .tracked self tr.next) :
    Aside g (s.addLayer l).2 { (s.addLayer l).2 with
      trackers := s.trackers.set self (tr.listing s.layers.length) } := by
  refine ⟨rfl, rfl, .refl _, rfl, fun {c x} hc => ⟨x, hc, rfl⟩,
    fun {k n id} hlisted => ?_⟩
  obtain ⟨tr', hm, he⟩ := hlisted
  rcases Keyed.mem_set.1 hm with heq | ⟨hm, -⟩
  · cases heq
    rcases List.mem_append.1 he with he | he
    · exact .inl ⟨tr, Keyed.mem_of_get? ht, he⟩
    · cases List.mem_singleton.1 he
      refine .inr ⟨f, ?_, hb⟩
      rw [State.core_addLayer_new]
      exact hl
  · exact .inl ⟨tr', hm, he⟩

/-- Decorating is a move, and keeps the statement's kind and SQL if the
link is faithful. What comes out stands where the statement stood. -/
theorem moves_decorate (held loose : List LayerId) (link : Link)
    (self : LinkId) (kind : StatementKind) (sql : Option String) {d : LayerId}
    (hlow : (s.core d).level ≤ self.place)
    (hcreates : p.creates self.connection)
    (hfaith : p.faithful → link.isFaithful = true ∧ ∃ l, s.layer? d = some l
      ∧ l.sql = sql ∧ l.kind = kind) :
    ∃ id t, (decorate link self kind sql d).run s = (.ok id, t)
      ∧ Moves p ⟨s, held, some d, loose⟩ ⟨t, held, some id, loose⟩
      ∧ (t.core id).level ≤ self.place + 1
      ∧ (∀ n, s.Stands d n → t.Stands id n)
      ∧ (t.core id = s.core d ∨ ∃ f, t.core id = .facade f)
      ∧ (p.faithful → ∃ l, t.layer? id = some l ∧ l.sql = sql
        ∧ l.kind = kind) := by
  obtain ⟨b, t, hdec, hrun⟩ := run_decorate link self kind sql d s
  rw [hrun]
  -- the move, from a state in which the link has not noted anything yet
  have hmove : ∀ {u : State} {b : Behaviour}, u.layers = s.layers →
      u.Fresh ⟨self.place + 1, some d, false, b⟩ →
      (∀ {k g x}, b = .cached k g x → k = self) →
      (p.faithful → b.isWatched = false) →
      Move p ⟨u, held, some d, loose⟩
        ⟨(u.addLayer (facadeOf self kind sql d b)).2, held,
          some u.layers.length, loose⟩ := by
    intro u b hu hfresh hself hwatch
    refine .decorate rfl rfl rfl ?_ hfresh (fun {k g x} hb => ?_)
      ⟨_, rfl, hcreates⟩ fun hp => ⟨hwatch hp, ?_⟩
    · rw [State.core_congr hu]
      exact Nat.lt_succ_of_le hlow
    · rw [hself hb]
      exact hcreates
    · obtain ⟨-, l, hl, hsql, hkind⟩ := hfaith hp
      rw [State.layer?_congr hu]
      exact ⟨l, hl, hsql.symm, hkind.symm⟩
  have hnew : ∀ (u : State) (b : Behaviour),
      (u.addLayer (facadeOf self kind sql d b)).2.core u.layers.length
        = .facade ⟨self.place + 1, some d, false, b⟩ :=
    fun u b => u.core_addLayer_new _
  have hlevel : ∀ (u : State) (b : Behaviour),
      ((u.addLayer (facadeOf self kind sql d b)).2.core
        u.layers.length).level ≤ self.place + 1 := by
    intro u b
    rw [hnew]
    exact Nat.le_refl _
  cases hdec with
  | nothing ha =>
      refine ⟨d, _, rfl, .aside (.of_alike ha), ?_, fun n hn => ?_, .inl ?_,
        fun hp => ?_⟩
      · show (t.core d).level ≤ _
        rw [State.core_congr ha.layers]
        exact Nat.le_succ_of_le hlow
      · exact hn.congr fun x _ => State.core_congr ha.layers x
      · exact State.core_congr ha.layers d
      · obtain ⟨-, l, hl, hrest⟩ := hfaith hp
        exact ⟨l, (State.layer?_congr ha.layers d).trans hl, hrest⟩
  | @plain b s' ha hb _ hwatch =>
      refine ⟨t.layers.length, _, rfl, ?_, hlevel t b,
        fun n => stands_facadeOf ha.layers self kind sql b,
        .inr ⟨_, hnew t b⟩, fun _ => ⟨_, t.layer?_addLayer_new _, rfl, rfl⟩⟩
      refine (Moves.aside (.of_alike ha)).trans (.single ?_)
      refine hmove ha.layers (fun he => absurd he (hb _ _ _))
        (fun he => absurd he (hb _ _ _)) ?_
      exact fun hp => hwatch (hfaith hp).1
  | @cached store _ hk =>
      refine ⟨s.layers.length, _, rfl, .single ?_, hlevel s _,
        fun n => stands_facadeOf rfl self kind sql _, .inr ⟨_, hnew s _⟩,
        fun _ => ⟨_, s.layer?_addLayer_new _, rfl, rfl⟩⟩
      refine hmove rfl (fun he => ?_) (fun he => ?_) fun _ => rfl
      · cases he
        exact ⟨rfl, rfl, store, hk, rfl⟩
      · cases he
        rfl
  | @tracked tr ht =>
      have hlayers : State.layers { s with
          trackers := s.trackers.set self (tr.listing s.layers.length) }
        = s.layers := rfl
      refine ⟨s.layers.length, _, rfl, ?_, hlevel s _,
        fun n => stands_facadeOf hlayers self kind sql _, .inr ⟨_, hnew s _⟩,
        fun _ => ⟨_, s.layer?_addLayer_new _, rfl, rfl⟩⟩
      have hdec := hmove (u := s) (b := .tracked self tr.next) rfl
        (fun he => by cases he) (fun he => by cases he) fun _ => rfl
      exact (Moves.single hdec).trans (.aside (aside_listing _ ht rfl rfl))

-- ================================================ before closing

end Act

/-- Whether the layers on a list are facades of the tracker `k`, or
were. -/
structure State.Enrolled (s : State) (k : LinkId)
    (entries : List (Nat × LayerId)) : Prop where
  known : ∀ {n id}, (n, id) ∈ entries → id < s.layers.length ∧
    (s.core id = .released ∨ State.TrackedBy k n (s.core id))

theorem State.Enrolled.tail {k : LinkId} {e : Nat × LayerId}
    {entries : List (Nat × LayerId)} (h : s.Enrolled k (e :: entries)) :
    s.Enrolled k entries :=
  ⟨fun he => h.known (List.mem_cons_of_mem _ he)⟩

/-- Facades of a tracker stay so later on. -/
theorem State.Enrolled.later {k : LinkId} {entries : List (Nat × LayerId)}
    (h : s.Enrolled k entries) (hl : s.Later t) : t.Enrolled k entries := by
  refine ⟨fun {n id} he => ?_⟩
  obtain ⟨hlt, hid⟩ := h.known he
  refine ⟨Nat.lt_of_lt_of_le hlt hl.length_le, ?_⟩
  have hcore := hl.core hlt
  rcases hid with hr | ht
  · rw [hr] at hcore
    exact .inl hcore.eq_released
  · exact hcore.tracked ht

namespace Act

/-- Closing for a caller is the operation with its answer dropped. -/
theorem closeStatement_state (id : LayerId) (s : State) :
    ((closeStatement id).run s).2 = ((dispatch id .close).run s).2 := by
  unfold closeStatement
  rw [run_bind]
  rcases (dispatch id .close).run s with ⟨_ | _, t⟩ <;> rfl

/-- The first layer on a list is closed if it is open, and then the
others. -/
theorem closeListed_cons (n : Nat) (id : LayerId)
    (rest : List (Nat × LayerId)) (s : State) :
    ((closeListed ((n, id) :: rest)).run s).2
      = ((closeListed rest).run (if s.isClosed id then s
          else ((dispatch id .close).run s).2)).2 := by
  rw [closeListed, run_bind, run_get]
  simp only
  cases s.isClosed id with
  | true => rfl
  | false =>
      show ((attempt (closeStatement id) >>= fun _ =>
        closeListed rest).run s).2 = _
      rw [run_bind, run_attempt]
      simp only
      rw [closeStatement_state]
      rfl

/-- Closing a listed layer, if it is open: it is on no shelf, so it may
be. -/
theorem moves_closeOne (hcloses : ∀ id, p.closes id) {k : LinkId} {n : Nat}
    {id : LayerId} (h : Sound ⟨s, held, none, loose⟩)
    (hlt : id < s.layers.length)
    (hid : s.core id = .released ∨ State.TrackedBy k n (s.core id)) :
    Moves p ⟨s, held, none, loose⟩
      ⟨if s.isClosed id then s else ((dispatch id .close).run s).2, held,
        none, loose⟩ := by
  split
  · exact .refl _
  · exact moves_close h (hcloses id)
      ((Moves.refl (p := p) _).not_parked h hlt hid)

/-- The layers that a tracker lists are closed one after the other. -/
theorem moves_closeListed (hcloses : ∀ id, p.closes id) {k : LinkId}
    {entries : List (Nat × LayerId)} (h : Sound ⟨s, held, none, loose⟩)
    (hlisted : s.Enrolled k entries) :
    Moves p ⟨s, held, none, loose⟩
      ⟨((closeListed entries).run s).2, held, none, loose⟩ := by
  induction entries generalizing s with
  | nil => exact .refl _
  | cons e rest ih =>
      obtain ⟨n, id⟩ := e
      obtain ⟨hlt, hid⟩ := hlisted.known List.mem_cons_self
      have hm := moves_closeOne hcloses h hlt hid
      rw [closeListed_cons]
      exact hm.trans (ih (hm.sound h) (hlisted.tail.later hm.later))

/-- Before the connection closes, a tracker closes what it lists. -/
theorem moves_beforeClose (hcloses : ∀ id, p.closes id) (link : Link)
    (self : LinkId) (h : Sound ⟨s, held, none, loose⟩) :
    Moves p ⟨s, held, none, loose⟩
      ⟨((beforeClose link self).run s).2, held, none, loose⟩ := by
  unfold beforeClose
  cases link with
  | leakTracker =>
      simp only
      rw [run_bind, run_get]
      simp only
      cases ht : s.trackers.get? self with
      | none => exact .refl _
      | some tr =>
          simp only
          rw [run_bind, run_set]
          simp only
          have hmem := Keyed.mem_of_get? ht
          have hforget : s.Alike { s with
              trackers := s.trackers.set self { tr with entries := [] } } := by
            refine .of_trackers fun {k t} hk => ?_
            rcases Keyed.mem_set.1 hk with he | ⟨hk, -⟩
            · cases he
              exact .inl rfl
            · exact .inr ⟨t, hk, fun _ h => h⟩
          have hm : Moves p ⟨s, held, none, loose⟩ _ :=
            .aside (.of_alike hforget)
          refine hm.trans (moves_closeListed hcloses (k := self)
            (hm.sound h) ⟨fun he => ?_⟩)
          exact h.listed ⟨tr, hmem, he⟩
  | watcher label kinds answered =>
      refine .aside (.of_alike ?_)
      exact ⟨rfl, rfl, rfl, rfl, fun h => h⟩
  | _ => exact .refl _

-- ============================================== passing a link

/-- How the links below the link `self` answer, with the statements in
the hands of callers and running code as they are. -/
def AsksBelow (p : Terms) (self : LinkId) (next : Next) : Prop :=
  ∀ (s : State) (held loose : List LayerId) (op : ConnectionOp),
    Sound ⟨s, held, none, loose⟩ → (op = .close → ∀ id, p.closes id) →
    (op.creates?.isSome → p.creates self.connection) →
    Asked p self.place op s held loose ((next op).run s)

variable {next : Next} {self : LinkId}

/-- A statement that is created is decorated on its way up. -/
theorem intercept_of_decorates {link : Link} {kind : StatementKind}
    (hk : op.creates? = some kind)
    (hlink : link.decorates.contains kind = true) :
    intercept link self next op = (do
      let statement ← (← next op).toStatement op.name
      return .statement (← decorate link self kind op.sql? statement)) := by
  unfold intercept
  cases op with
  | close => cases hk
  | _ =>
      simp only
      rw [hk]
      simp only
      rw [if_pos hlink]

/-- Anything else passes a link as it is. -/
theorem intercept_of_passes {link : Link} (hop : op ≠ .close)
    (hlink : ∀ {kind}, op.creates? = some kind →
      link.decorates.contains kind = false) :
    intercept link self next op = next op := by
  unfold intercept
  cases op with
  | close => exact absurd rfl hop
  | _ =>
      simp only
      split
      · next kind hk => rw [if_neg (by rw [hlink hk]; exact Bool.false_ne_true)]
      · rfl

/-- A link decorates what comes up to it, or hands on what it is asked. -/
theorem intercept_cases (link : Link) (self : LinkId) (next : Next)
    (hop : op ≠ .close) :
    (∃ kind, op.creates? = some kind ∧ link.decorates.contains kind = true)
      ∨ intercept link self next op = next op := by
  by_cases hlink : ∃ kind, op.creates? = some kind
      ∧ link.decorates.contains kind = true
  · exact .inl hlink
  · exact .inr (intercept_of_passes hop fun {kind} hk =>
      Bool.eq_false_iff.2 fun hin => hlink ⟨kind, hk, hin⟩)

/-- A link passes on statements of a kind that it does not decorate. -/
theorem intercept_of_other {link : Link} {kind : StatementKind}
    (hk : op.creates? = some kind)
    (hlink : link.decorates.contains kind = false) :
    intercept link self next op = next op :=
  intercept_of_passes (by rintro rfl; cases hk) fun hk' => by
    rw [hk] at hk'
    cases hk'
    exact hlink

/-- A link that decorates hands up what came up to it, decorated; or
nothing came up, and it fails. -/
theorem run_intercept {link : Link} {kind : StatementKind}
    (hk : op.creates? = some kind)
    (hlink : link.decorates.contains kind = true) (self : LinkId)
    (next : Next) (s : State) :
    (outOf ((next op).run s).1 = none
        ∧ ∃ e, (intercept link self next op).run s
          = (.error e, ((next op).run s).2))
      ∨ ∃ d a u t, (next op).run s = (.ok (.statement d), u)
        ∧ (decorate link self kind op.sql? d).run u = (.ok a, t)
        ∧ (intercept link self next op).run s = (.ok (.statement a), t) := by
  rw [intercept_of_decorates hk hlink, run_bind]
  rcases (next op).run s with ⟨e | r, u⟩
  · exact .inl ⟨rfl, e, rfl⟩
  · simp only
    rw [run_bind, run_lift]
    cases r with
    | statement d =>
        obtain ⟨b, t, -, hrun⟩ := run_decorate link self kind op.sql? d u
        refine .inr ⟨d, ?_⟩
        simp only [ConnectionReply.toStatement]
        rw [run_bind, hrun]
        cases b <;> exact ⟨_, _, _, rfl, hrun, rfl⟩
    | _ => exact .inl ⟨rfl, _, rfl⟩

/-- A decorating link is passed. -/
theorem asked_intercept (link : Link)
    (hnext : AsksBelow p self next)
    (hfaith : p.faithful → link.isFaithful = true)
    (hcloses : op = .close → ∀ id, p.closes id)
    (hcreates : op.creates?.isSome → p.creates self.connection)
    (h : Sound ⟨s, held, none, loose⟩) :
    Asked p (self.place + 1) op s held loose
      ((intercept link self next op).run s) := by
  by_cases hc : op = .close
  · subst hc
    have hcloses := hcloses rfl
    have hm := moves_beforeClose hcloses link self h
    show Asked _ _ _ _ _ _ ((beforeClose link self >>= fun _ =>
      next .close).run s)
    rw [run_bind]
    rcases hr : (beforeClose link self).run s with ⟨e | ⟨⟩, t⟩
    · rw [hr] at hm
      exact .of_moves hm rfl
    · rw [hr] at hm
      have hask := hnext t held loose .close (hm.sound h) (fun _ => hcloses)
        hcreates
      exact (hask.mono (Nat.le_succ _)).after h hm
  have hpass : Asked p (self.place + 1) op s held loose
      ((next op).run s) :=
    (hnext s held loose op h hcloses hcreates).mono (Nat.le_succ _)
  rcases intercept_cases link self next hc with ⟨kind, hk, hlink⟩ | hsame
  · have hask := hnext s held loose op h hcloses hcreates
    rcases run_intercept hk hlink self next s
      with ⟨hnone, e, hrun⟩ | ⟨d, a, u, t, hbelow, hdec, hrun⟩
    · have hmoves := hask.moves
      rw [hnone] at hmoves
      rw [hrun]
      exact .of_moves hmoves rfl
    · rw [hbelow] at hask
      have hout : outOf (.ok (.statement d)) = some d := rfl
      obtain ⟨id, t', hdec', hm, hlevel, hstands, hcore, hwant⟩ :=
        moves_decorate (p := p) held loose link self kind op.sql?
          (hask.low hout) (hcreates (by rw [hk]; rfl))
          fun hp => ⟨hfaith hp, by
            obtain ⟨l, hl, hsql, hkind⟩ := hask.wanted hp hout
            rw [hk] at hkind
            exact ⟨l, hl, hsql, (Option.some.inj hkind).symm⟩⟩
      rw [hdec] at hdec'
      cases hdec'
      rw [hrun]
      refine ⟨hask.moves.trans hm, fun hid => ?_, fun _ => ⟨kind, hk⟩,
        fun hid => ?_, fun hp _ hid => ?_⟩
      · cases hid
        exact hlevel
      · cases hid
        obtain ⟨n, hn, hf⟩ := hask.opened hout
        refine ⟨n, hstands n hn, fun hlt => ?_⟩
        rcases hcore with hsame | hf'
        · obtain ⟨f, hf⟩ := hf hlt
          exact ⟨f, hsame.trans hf⟩
        · exact hf'
      · cases hid
        obtain ⟨l, hl, hsql, hkind⟩ := hwant hp
        exact ⟨l, hl, hsql, by rw [hk, hkind]⟩
  · rw [hsame]
    exact hpass

-- ============================================================ reuse

/-- How a look into a cache ends. -/
inductive Reuses (self : LinkId) (next : Next) (kind : StatementKind)
    (sql : String) (s : State) : Except Error (Option LayerId) × State → Prop
  /-- There is no shelf. -/
  | off : s.caches.get? self = none → Reuses self next kind sql s (.ok none, s)
  /-- The links below do not say that the connection is open. -/
  | refused {r e} {t : State} : (next .isClosed).run s = (r, t) →
      r ≠ .ok (.bool false) → Reuses self next kind sql s (.error e, t)
  /-- Nothing of that kind is parked for that SQL. -/
  | missing {t : State} : (next .isClosed).run s = (.ok (.bool false), t) →
      (∀ {store id}, t.caches.get? self = some store →
        store.find? sql = some id → (t.layer? id).map (·.kind) ≠ some kind) →
      Reuses self next kind sql s (.ok none, t)
  /-- It was closed behind the cache's back, and is thrown away. -/
  | stale {t : State} {store id} :
      (next .isClosed).run s = (.ok (.bool false), t) →
      t.caches.get? self = some store → store.find? sql = some id →
      (t.layer? id).map (·.kind) = some kind → t.isClosed id = true →
      Reuses self next kind sql s
        (.ok none, ((discardParked id).run { t with
          caches := t.caches.set self (store.remove sql) }).2)
  /-- It is taken off the shelf. -/
  | found {t : State} {store id} :
      (next .isClosed).run s = (.ok (.bool false), t) →
      t.caches.get? self = some store → store.find? sql = some id →
      (t.layer? id).map (·.kind) = some kind → t.isClosed id = false →
      Reuses self next kind sql s (.ok (some id), { t with
        caches := t.caches.set self (store.remove sql) })

/-- A look into a cache ends in one of these ways. -/
theorem run_reuse? (self : LinkId) (next : Next) (kind : StatementKind)
    (sql : String) (s : State) :
    Reuses self next kind sql s ((reuse? self next kind sql).run s) := by
  unfold reuse?
  rw [run_bind, run_get]
  simp only
  split
  · next hk => exact .off (Option.isNone_iff_eq_none.1 hk)
  · rw [run_bind]
    rcases hr : (next .isClosed).run s with ⟨e | r, t⟩
    · exact .refused hr fun he => by cases he
    · simp only
      rw [run_bind, run_lift]
      cases r with
      | bool b =>
          simp only [ConnectionReply.toBool]
          cases b with
          | true => exact .refused hr fun he => by cases he
          | false =>
              simp only [Bool.false_eq_true, if_false]
              rw [run_bind, run_get]
              simp only
              cases hk : t.caches.get? self with
              | none =>
                  refine .missing hr fun hs _ => ?_
                  rw [hk] at hs
                  cases hs
              | some store =>
                  simp only
                  cases hf : store.find? sql with
                  | none =>
                      refine .missing hr fun hs hid => ?_
                      rw [hk] at hs
                      cases hs
                      rw [hf] at hid
                      cases hid
                  | some id =>
                      simp only
                      split
                      · next hkind =>
                        refine .missing hr fun hs hid => ?_
                        rw [hk] at hs
                        cases hs
                        rw [hf] at hid
                        cases hid
                        exact hkind
                      · next hkind =>
                        have hkind := not_not.1 hkind
                        rw [run_bind, run_set]
                        simp only
                        split
                        · next hclosed =>
                          have hstale : Reuses self next kind sql s _ :=
                            .stale hr hk hf hkind hclosed
                          obtain ⟨u, hu⟩ := run_discardParked_ok id { t with
                            caches := t.caches.set self (store.remove sql) }
                          rw [hu] at hstale
                          rw [run_bind, hu]
                          exact hstale
                        · next hclosed =>
                          exact .found hr hk hf hkind
                            (Bool.eq_false_iff.2 hclosed)
      | _ => exact .refused hr fun he => by cases he

/-- What was taken off a shelf, if anything was. -/
def foundOf : Except Error (Option LayerId) → Option LayerId
  | .ok found => found
  | .error _ => none

/-- A shelf without the statement for a SQL text. -/
theorem shelves_remove (h : Sound ⟨s, held, none, loose⟩)
    {store : CacheStore} (hk : s.caches.get? self = some store)
    (sql : String) :
    Shelves p s (s.caches.set self (store.remove sql)) := by
  have hin := Keyed.mem_of_get? hk
  refine (h.shelves p).set hk (h.stocked.known hin) ?_ rfl (Nat.le_refl _)
    fun _ => rfl
  exact (h.stocked.shelved hin).of_sublist CacheStore.remove_sublist rfl rfl

/-- A statement that is taken off its shelf is in hand, once. -/
theorem count_remove (h : Sound ⟨s, held, none, loose⟩)
    {store : CacheStore} (hk : s.caches.get? self = some store)
    {sql : String} {id : LayerId} (hf : store.find? sql = some id)
    (a : LayerId) :
    (State.onShelves (s.caches.set self (store.remove sql))).count a
        + [id].count a = s.parked.count a := by
  have hin := Keyed.mem_of_get? hk
  have hdistinct : s.caches.Distinct := h.stocked.distinct
  have hset := State.count_onShelves_set hdistinct hk (store.remove sql) a
  have hrem := (CacheStore.remove_perm (h.stocked.shelved hin).distinct
    hf).count_eq a
  rw [List.count_cons] at hrem
  rw [List.count_singleton, State.parked_eq]
  omega

/-- A statement that is parked. -/
theorem exists_entry (h : Sound ⟨s, held, none, loose⟩)
    {store : CacheStore} (hk : s.caches.get? self = some store)
    {sql : String} {id : LayerId} (hf : store.find? sql = some id) :
    ∃ l d, s.layer? id = some l ∧ l.sql = some sql
      ∧ l.core = .facade ⟨self.place + 1, some d, false,
          .cached self store.generation false⟩ :=
  (h.stocked.shelved (Keyed.mem_of_get? hk)).entry
    (CacheStore.mem_of_find? hf)

/-- A statement is taken off its shelf and thrown away. -/
theorem moves_evict (h : Sound ⟨s, held, none, loose⟩)
    {store : CacheStore} (hk : s.caches.get? self = some store)
    {sql : String} {id : LayerId} (hf : store.find? sql = some id) :
    Moves p ⟨s, held, none, loose⟩
      ⟨((discardParked id).run { s with
        caches := s.caches.set self (store.remove sql) }).2, held, none,
        loose⟩ := by
  have hm : Moves p ⟨s, held, none, loose⟩
      ⟨{ s with caches := s.caches.set self (store.remove sql) }, held,
        none, id :: loose⟩ := by
    refine .single (.shift (shelves_remove h hk sql) (fun a => ?_)
      fun he => by cases he)
    have hc := count_remove h hk hf a
    rw [List.count_singleton] at hc
    rw [List.count_cons, Option.toList_none, List.count_nil]
    omega
  exact hm.trans (moves_discardParked (hm.sound h))

/-- Asking whether a connection is closed brings up no statement. -/
theorem moves_isClosed (hnext : AsksBelow p self next)
    (h : Sound ⟨s, held, none, loose⟩) :
    Moves p ⟨s, held, none, loose⟩
      ⟨((next .isClosed).run s).2, held, none, loose⟩ := by
  have hask := hnext s held loose .isClosed h (fun he => by cases he)
    fun he => by cases he
  have hnone : outOf ((next .isClosed).run s).1 = none := by
    cases ho : outOf ((next .isClosed).run s).1 with
    | none => rfl
    | some id =>
        obtain ⟨kind, hkind⟩ := hask.creates ho
        cases hkind
  have hm := hask.moves
  rw [hnone] at hm
  exact hm

/-- A cache hands out what it holds for the SQL, or nothing. -/
theorem moves_reuse (hnext : AsksBelow p self next)
    (hcreates : p.creates self.connection)
    (kind : StatementKind) (sql : String)
    (h : Sound ⟨s, held, none, loose⟩) :
    Moves p ⟨s, held, none, loose⟩
        ⟨((reuse? self next kind sql).run s).2, held,
          foundOf ((reuse? self next kind sql).run s).1, loose⟩
      ∧ ∀ {id}, foundOf ((reuse? self next kind sql).run s).1 = some id →
        ∃ l, ((reuse? self next kind sql).run s).2.layer? id = some l
          ∧ l.sql = some sql ∧ l.kind = kind
          ∧ l.core.level ≤ self.place + 1 ∧ (∃ f, l.core = .facade f)
          ∧ ∃ n, ((reuse? self next kind sql).run s).2.Stands id n := by
  have hclosed := moves_isClosed hnext h
  have hruns := run_reuse? self next kind sql s
  generalize (reuse? self next kind sql).run s = r at hruns ⊢
  cases hruns with
  | off _ => exact ⟨.refl _, fun hid => by cases hid⟩
  | refused hr _ =>
      rw [hr] at hclosed
      exact ⟨hclosed, fun hid => by cases hid⟩
  | missing hr _ =>
      rw [hr] at hclosed
      exact ⟨hclosed, fun hid => by cases hid⟩
  | @stale t store id hr hk hf hkind _ =>
      rw [hr] at hclosed
      exact ⟨hclosed.trans (moves_evict (hclosed.sound h) hk hf),
        fun hid => by cases hid⟩
  | @found t store id hr hk hf hkind hopen =>
      rw [hr] at hclosed
      have ht : Sound ⟨t, held, none, loose⟩ := hclosed.sound h
      obtain ⟨l, d, hl, hsql, hcore⟩ := exists_entry ht hk hf
      have hshift : Move p ⟨t, held, none, loose⟩
          ⟨{ t with caches := t.caches.set self (store.remove sql) }, held,
            some id, loose⟩ := by
        refine .shift (shelves_remove ht hk sql) (fun a => ?_) fun he => ?_
        · have hc := count_remove ht hk hf a
          rw [Option.toList_some, Option.toList_none, List.count_nil]
          omega
        · cases he
          exact .inr ⟨self.connection, ⟨self, store, sql,
            Keyed.mem_of_get? hk, CacheStore.mem_of_find? hf, rfl⟩, hcreates⟩
      refine ⟨hclosed.trans (.single hshift), fun he => ?_⟩
      cases he
      rw [hl] at hkind
      obtain ⟨n, hn⟩ := (State.isClosed_eq_false_iff ht.formed.leveled
        ht.formed.hollow).1 hopen
      refine ⟨l, hl, hsql, Option.some.inj hkind, ?_, ⟨_, hcore⟩, n,
        hn.congr fun _ _ => rfl⟩
      rw [hcore]
      exact Nat.le_refl _

/-- A cache is passed. -/
theorem asked_throughCache (config : CacheConfig)
    (hnext : AsksBelow p self next)
    (hcloses : op = .close → ∀ id, p.closes id)
    (hcreates : op.creates?.isSome → p.creates self.connection)
    (h : Sound ⟨s, held, none, loose⟩) :
    Asked p (self.place + 1) op s held loose
      ((throughCache config self next op).run s) := by
  have hpass : ∀ {t : State}, Sound ⟨t, held, none, loose⟩ →
      Asked p (self.place + 1) op t held loose
        ((intercept (.cache config) self next op).run t) :=
    fun h => asked_intercept (.cache config) hnext (fun _ => rfl) hcloses
      hcreates h
  unfold throughCache
  cases hk : op.creates? with
  | none => exact hpass h
  | some kind =>
      cases hsql : op.sql? with
      | none => exact hpass h
      | some sql =>
          simp only
          split
          · obtain ⟨hm, hfound⟩ :=
              moves_reuse hnext (hcreates (by rw [hk]; rfl)) kind sql h
            rw [run_bind]
            rcases hr : (reuse? self next kind sql).run s with ⟨e | found, t⟩
            · rw [hr] at hm
              exact .of_moves hm rfl
            · rw [hr] at hm hfound
              cases found with
              | none => exact (hpass (hm.sound h)).after h hm
              | some id =>
                  obtain ⟨l, hl, hlsql, hkind, hlevel, ⟨f, hf⟩, n, hn⟩ :=
                    hfound rfl
                  refine ⟨hm, fun hid => ?_, fun _ => ⟨kind, hk⟩,
                    fun hid => ?_, fun _ _ hid => ?_⟩
                  · cases hid
                    show (t.core id).level ≤ _
                    rw [State.core_eq_of_layer? hl]
                    exact hlevel
                  · cases hid
                    refine ⟨n, hn, fun _ => ⟨f, ?_⟩⟩
                    exact (State.core_eq_of_layer? hl).trans hf
                  · cases hid
                    exact ⟨l, hl, by rw [hsql, hlsql], by rw [hk, hkind]⟩
          · exact hpass h

-- ====================================================== whole chains

/-- A text before the SQL does not change the kind of statement. -/
theorem creates?_prepend (op : ConnectionOp) (text : String) :
    (op.prepend text).creates? = op.creates? := by
  cases op <;> rfl

/-- Every link is passed. -/
theorem asksBelow_askLink (link : Link) (hnext : AsksBelow p self next)
    (hfaith : p.faithful → link.isFaithful = true) :
    AsksBelow p ⟨self.connection, self.place + 1⟩
      (askLink link self next) := by
  intro s held loose op h hcloses hcreates
  have hpass : Asked p (self.place + 1) op s held loose
      ((next op).run s) :=
    (hnext s held loose op h hcloses hcreates).mono (Nat.le_succ _)
  cases link with
  | bare => exact hpass
  | probe label =>
      have hm : Moves p ⟨s, held, none, loose⟩
          ⟨s.note label (.operation op.name op.sql?), held, none, loose⟩ := by
        refine .aside (.of_alike ?_)
        exact ⟨rfl, rfl, rfl, rfl, fun h => h⟩
      exact ((hnext _ held loose op (hm.sound h) hcloses hcreates).mono
        (Nat.le_succ _)).after h hm
  | prepending text =>
      have hc : op.prepend text = .close → ∀ id, p.closes id := fun he =>
        hcloses (by cases op <;> first | rfl | cases he)
      obtain ⟨hm, hlow, hcr, hopened, -⟩ :=
        hnext s held loose (op.prepend text) h hc (by
          rw [creates?_prepend]
          exact hcreates)
      refine ⟨hm, fun hid => Nat.le_succ_of_le (hlow hid), fun hid => ?_,
        hopened, fun hp => ?_⟩
      · rw [← creates?_prepend op text]
        exact hcr hid
      · cases hfaith hp
  | answering answers =>
      unfold askLink
      simp only
      cases answers.lookup op.name with
      | none => exact hpass
      | some answer =>
          cases answer with
          | terminal =>
              exact (asked_askTerminal self.connection hcreates).mono
                (Nat.zero_le _)
          | _ => exact .of_aside (.refl s) rfl
  | cache config => exact asked_throughCache config hnext hcloses hcreates h
  | _ => exact asked_intercept _ hnext hfaith hcloses hcreates h

/-- Whatever is asked of a chain, the answer comes by moves. -/
theorem asked_askLinks (c : ConnectionId) {links : List Link}
    (hfaith : p.faithful → ∀ link ∈ links, link.isFaithful = true) :
    AsksBelow p ⟨c, links.length⟩ (askLinks c links) := by
  induction links with
  | nil => exact fun s held loose op _ _ => asked_askTerminal c
  | cons link rest ih =>
      have hrest := ih fun hp l hl => hfaith hp l (List.mem_cons_of_mem _ hl)
      exact asksBelow_askLink link hrest fun hp =>
        hfaith hp link List.mem_cons_self

/-- Whatever is asked of a connection, the answer comes by moves. -/
theorem asked_invokeOp (c : ConnectionId)
    (hfaith : p.faithful → ∀ connection, s.connection? c = some connection →
      ∀ link ∈ connection.links, link.isFaithful = true)
    (hcloses : op = .close → ∀ id, p.closes id)
    (hcreates : op.creates?.isSome → p.creates c)
    (h : Sound ⟨s, held, none, loose⟩) :
    ∃ place, Asked p place op s held loose ((invokeOp c op).run s) := by
  unfold invokeOp
  rw [run_bind, run_get]
  simp only
  cases hc : s.connection? c with
  | none => exact ⟨0, .of_aside (.refl s) rfl⟩
  | some connection =>
      exact ⟨_, asked_askLinks c (fun hp => hfaith hp connection hc) s held
        loose op h hcloses hcreates⟩

end Act

end PooledChain
