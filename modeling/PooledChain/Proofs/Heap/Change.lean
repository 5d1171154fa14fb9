/-
The changes that acts are made of.

`Move` says what happens to statements; it leaves open what happens to
everything else. Here the rest is told apart as well: the ends of the
chains, and what the trackers list. A tracker lists a statement in the
moment in which it puts a facade around it, and under a number that it
has not used before; it takes an entry off its list when the facade of
that number was closed, or forgets all of them at once (`Change`).

An act is a sequence of changes, whether it fails or not
(`Act.Changes`). How far the changes can get, depends on the act
(`Reach`): nothing that is done with a statement, and nothing that is
asked of a connection but to close, gets to the ends of the chains or
makes a tracker forget.
-/
import PooledChain.Proofs.Heap.Events

namespace PooledChain

open State (TrackedBy)

/-- What is read of the entries of a list changes with them. -/
theorem map_modify_of_comm {α β : Type} {f : α → α} {g : α → β}
    {f' : β → β} (h : ∀ a, g (f a) = f' (g a)) (l : List α) (i : Nat) :
    (l.modify i f).map g = (l.map g).modify i f' := by
  refine List.ext_getElem? fun j => ?_
  simp only [List.getElem?_map, List.getElem?_modify]
  cases l[j]? with
  | none => rfl
  | some a =>
      split
      · exact congrArg some (h a)
      · rfl

/-- Which pools are closed. -/
def Statistics.Registry.standing (r : Statistics.Registry) : List Bool :=
  r.pools.map (·.closed)

namespace Statistics.Registry

/-- A new pool is open. -/
theorem standing_newPool (r : Registry) :
    r.newPool.2.standing = r.standing ++ [false] :=
  List.map_append

/-- Pools stay open or closed unless one is opened or closed. -/
theorem standing_modifyPool (r : Registry) (q : PoolId)
    {f : PoolState → PoolState} (hf : ∀ x, (f x).closed = x.closed) :
    (r.modifyPool q f).standing = r.standing :=
  (map_modify_of_comm (g := PoolState.closed) hf r.pools q).trans
    (List.modify_id ..)

/-- A pool that a table is made for stays open or closed. -/
theorem standing_register (r : Registry) (q : PoolId) (maxQueries : Nat) :
    (r.register q maxQueries).2.standing = r.standing := by
  unfold register
  split
  · rfl
  · exact standing_modifyPool _ q fun _ => rfl

end Statistics.Registry

/-- How far the changes of an act can get. -/
structure Reach where
  /-- Whether they get to the ends of the chains and to the pools. -/
  ends : Prop
  /-- The trackers that may list what is made. -/
  lists : LinkId → Prop
  /-- The trackers that may forget all that they list. -/
  clears : LinkId → Prop

/-- A state with one more layer, listed by the tracker `k`. -/
def State.enlist (s : State) (k : LinkId) (tr : Tracker) (l : Layer) :
    State :=
  { (s.addLayer l).2 with
    trackers := s.trackers.set k (tr.listing s.layers.length) }

/-- One change of a state within that reach. -/
inductive Change (p : Reach) : State → State → Prop
  /-- The driver is called. -/
  | driver {s} (native : Native.Store) : Change p s { s with native }
  | shelves {s} (caches : Keyed LinkId CacheStore) :
      Change p s { s with caches }
  /-- Something is recorded, counted or noted, or a pool is made or
  closed. -/
  | record {s} (statistics : Statistics.Registry)
      (recorders : Keyed LinkId Statistics.TableId)
      (counters : Keyed LinkId Tally) (watched : List LayerId)
      (journal : List (String × Note)) (warnings : List Warning) :
      statistics.standing = s.statistics.standing ∨ p.ends → Change p s
        { s with statistics, recorders, counters, watched, journal, warnings }
  /-- A connection is attached, detached or closed, or a physical
  connection is lent or discarded. -/
  | ends {s} (connections : List (Option Connection))
      (physicals : List Physical) (returns : List (PoolId × PhysicalId)) :
      p.ends → Change p s { s with connections, physicals, returns }
  | shut {s id f} : s.core id = .facade f →
      Change p s (s.setCore id (.facade f.shut))
  | taint {s id f k g b} : s.core id = .facade f →
      f.behaviour = .cached k g b →
      Change p s (s.setCore id (.facade (f.broken k g)))
  | letGo {s id handle} : s.core id = .native handle →
      Change p s (s.setCore id (.native none))
  | release {s} (id : LayerId) : Change p s (s.setCore id .released)
  /-- A layer is put in that is no facade of a tracker. -/
  | add {s l} : (∀ k n, ¬ TrackedBy k n l.core) →
      Change p s (s.addLayer l).2
  /-- A tracker puts a facade around a statement, and lists it. -/
  | enlist {s k tr l f} : s.trackers.get? k = some tr →
      l.core = .facade f → f.behaviour = .tracked k tr.next →
      f.level = k.place + 1 → l.connection = some k.connection → p.lists k →
      Change p s (s.enlist k tr l)
  /-- A facade of a tracker was closed, and is taken off the list. -/
  | unlist {s id f k n} : s.core id = .facade f →
      f.behaviour = .tracked k n → f.delegate = none →
      Change p s { s with trackers := s.trackers.modify k fun t =>
        { t with entries := t.entries.filter (·.1 != n) } }
  /-- A tracker forgets what it listed. -/
  | clear {s k} : p.clears k → Change p s (s.clearTracker k)

/-- A sequence of changes. -/
def State.Changes (p : Reach) : State → State → Prop :=
  Relation.ReflTransGen (Change p)

variable {p : Reach} {s t u : State}

namespace State.Changes

theorem refl (s : State) : s.Changes p s := Relation.ReflTransGen.refl

/-- One change is a sequence of changes by itself. -/
theorem of_change (h : Change p s t) : s.Changes p t := .single h

theorem trans (h₁ : s.Changes p t) (h₂ : t.Changes p u) : s.Changes p u :=
  Relation.ReflTransGen.trans h₁ h₂

/-- What every change preserves, a sequence of changes preserves. -/
theorem preserves {I : State → Prop} (h : s.Changes p t)
    (hI : ∀ {s t}, Change p s t → I s → I t) (hs : I s) : I t := by
  induction h with
  | refl => exact hs
  | tail _ hlast ih => exact hI hlast ih

end State.Changes

namespace Act

variable {α β : Type}

/-- Whether an act is a sequence of changes of that reach. -/
def Changes (p : Reach) (x : Act α) : Prop :=
  ∀ s : State, s.Changes p (x.run s).2

namespace Changes

theorem pure (a : α) : Changes p (Pure.pure a) := fun s => .refl s

theorem throw (e : Error) : Changes p (MonadExcept.throw e : Act α) :=
  fun s => .refl s

theorem lift (r : Except Error α) : Changes p (liftM r) := fun s => .refl s

theorem native (x : Native.Act α) : Changes p (Act.native x) :=
  fun _ => .of_change (.driver _)

theorem modify {f : State → State} (h : ∀ s, Change p s (f s)) :
    Changes p (modify f : Act PUnit) := fun s => .of_change (h s)

theorem attempt {x : Act α} (h : Changes p x) : Changes p (Act.attempt x) :=
  h

/-- What follows an act that is known in this state only. -/
theorem after {x : Act α} {f : α → Act β} (hx : s.Changes p (x.run s).2)
    (hf : ∀ a, Changes p (f a)) : s.Changes p ((x >>= f).run s).2 := by
  rw [run_bind]
  rcases hr : x.run s with ⟨e | a, t⟩
  · rw [hr] at hx
    exact hx
  · rw [hr] at hx
    exact hx.trans (hf a t)

theorem bind {x : Act α} {f : α → Act β} (hx : Changes p x)
    (hf : ∀ a, Changes p (f a)) : Changes p (x >>= f) :=
  fun s => after (hx s) hf

/-- What follows a look at the state is given that state. -/
theorem get_bind {f : State → Act β}
    (hf : ∀ s : State, s.Changes p ((f s).run s).2) :
    Changes p ((get : Act State) >>= f) := hf

/-- A changed state is put in place. -/
theorem set_bind {f : PUnit → Act β} (ht : s.Changes p t)
    (hf : Changes p (f ⟨⟩)) :
    s.Changes p (((set t : Act PUnit) >>= f).run s).2 :=
  ht.trans (hf t)

end Changes

-- ======================================================== statements

/-- Whether asking the layers below is a sequence of changes. -/
def ChangesBelow (p : Reach) (below : Below) : Prop :=
  ∀ id op, Changes p (below id op)

variable {below : Below} {op : StatementOp} {id : LayerId}

/-- A facade that lets go of its delegate is written. -/
theorem changes_retire (id : LayerId) : Changes p (retire id) := by
  intro s
  cases hid : s.facade? id with
  | none =>
      rw [run_retire_of_not_facade hid]
      exact .refl s
  | some f =>
      have hcore := State.facade?_eq_some.1 hid
      rw [run_retire hcore]
      exact .of_change (.shut hcore)

/-- Passing an operation on changes what the layers below change. -/
theorem changes_forward (h : ChangesBelow p below) (id : LayerId) :
    Changes p (forward below id op) := by
  intro s
  rw [run_forward]
  split
  · exact h _ op s
  · exact .refl s

theorem changes_closeBelow (h : ChangesBelow p below) (id : LayerId) :
    Changes p (closeBelow below id) :=
  .bind (h id .close) fun _ => .pure _

theorem changes_discard (h : ChangesBelow p below) (id : LayerId) :
    Changes p (discard below id) := by
  refine .get_bind fun s => ?_
  refine Changes.bind (changes_retire id) (fun d => ?_) s
  split
  · exact .pure _
  · refine .bind (.attempt (changes_closeBelow h _)) fun r => ?_
    split
    · exact .pure _
    · exact .modify fun s => .record _ _ _ _ _ _ (.inl rfl)

/-- Parking makes a facade and writes a shelf. -/
theorem changes_park (h : ChangesBelow p below) (layer : Layer)
    (level : Nat) (cache : LinkId) (generation : Nat) (d : LayerId) :
    Changes p (park below layer level cache generation d) := by
  refine .get_bind fun s => ?_
  split
  · split
    · have hadd : s.Changes p (s.addLayer (layer.twin level cache generation
          d)).2 := .of_change (.add fun k n => by
        rintro ⟨f, hf, hb⟩
        cases hf
        cases hb)
      refine Changes.set_bind (hadd.trans (.of_change (.shelves _))) ?_
      split
      · exact changes_discard h _
      · exact .pure _
    · exact changes_closeBelow h d s
  · exact changes_closeBelow h d s

theorem changes_recordExecution (table : Statistics.TableId)
    (config : RecorderConfig) (sql : String) (elapsed started : Nat) :
    Changes p (recordExecution table config sql elapsed started) := by
  unfold recordExecution
  split
  · refine .bind (.modify fun s => .record _ _ _ _ _ _ (.inl rfl)) fun _ => ?_
    split
    · exact .get_bind fun s => .of_change (.record _ _ _ _ _ _ (.inl rfl))
    · exact .pure _
  · exact .pure _

/-- Timing an operation changes what the layers below change, and the
records. -/
theorem changes_timed (h : ChangesBelow p below) (id : LayerId)
    (own : Option String) (table : Statistics.TableId)
    (config : RecorderConfig) :
    Changes p (timed below id own table config op) := by
  unfold timed
  split
  · refine .get_bind fun s => ?_
    refine Changes.bind (changes_forward h id) (fun r => ?_) s
    refine .get_bind fun s => ?_
    split
    · exact Changes.bind (changes_recordExecution _ _ _ _ _)
        (fun _ => .pure _) s
    · exact .refl s
  · exact changes_forward h id

/-- The use of a facade changes what the layers below change. -/
theorem changes_invoke (h : ChangesBelow p below) (id : LayerId)
    (own : Option String) (b : Behaviour) :
    Changes p (invoke below id own b op) := by
  unfold invoke
  split
  · exact changes_timed h id own _ _
  · refine .bind (.modify fun s => .record _ _ _ _ _ _ (.inl rfl)) fun _ => ?_
    split
    · exact .pure _
    · exact changes_forward h id
  · exact changes_forward h id

/-- What a facade does with its delegate once it is closed. -/
theorem changes_closeDelegate (h : ChangesBelow p below) {layer : Layer}
    {f : Facade} (hid : s.core id = .facade f.shut) (d : LayerId) :
    s.Changes p ((closeDelegate below id layer f d).run s).2 := by
  have hclose := changes_closeBelow h d
  unfold closeDelegate
  split
  · exact hclose s
  · exact hclose s
  · split
    · exact hclose s
    · refine Changes.get_bind (fun s => ?_) s
      split
      · exact .refl s
      · exact changes_park h layer _ _ _ d s
  · next k n hb =>
    exact (State.Changes.of_change (.unlist hid hb rfl)).trans (hclose _)
  · exact Changes.bind (.modify fun s => .record _ _ _ _ _ _ (.inl rfl))
      (fun _ => hclose) s
  · refine Changes.get_bind (fun s => ?_) s
    exact Changes.bind (.modify fun s => .record _ _ _ _ _ _ (.inl rfl))
      (fun _ => hclose) s

/-- A failure is told to what the facade is for. -/
theorem changes_report (id : LayerId) (own : Option String) (e : Error) :
    Changes p (report id own e) := by
  refine .get_bind fun s => ?_
  split
  · exact .refl s
  · next f hid =>
    split
    · next k g b hb =>
      split
      · exact .of_change (.taint (State.facade?_eq_some.1 hid) hb)
      · exact .refl s
    · exact .of_change (.record _ _ _ _ _ _ (.inl rfl))
    · exact .refl s

/-- A native handle changes the driver's side, and itself if it is closed. -/
theorem changes_askNative {handle : Option Native.StatementId}
    (hid : s.core id = .native handle) :
    s.Changes p ((askNative id handle op).run s).2 := by
  unfold askNative
  split
  · exact .refl s
  · exact .refl s
  · rw [run_bind, run_modify]
    exact (State.Changes.of_change (.letGo hid)).trans
      (Changes.bind (.native _) (fun _ => .pure _) _)
  · exact .refl s
  · exact Changes.bind (.native _) (fun _ => .pure _) s

/-- Closing a facade writes it, and closes or parks what is below. -/
theorem changes_closeFacade (h : ChangesBelow p below) (layer : Layer)
    {f : Facade} (hid : s.core id = .facade f) :
    s.Changes p ((closeFacade below id layer f).run s).2 := by
  unfold closeFacade
  split
  · exact .refl s
  · have hne : s.core id ≠ .released := Core.ne_released_of_facade hid
    have hshut := State.core_setCore_self hne (.facade f.shut)
    rw [run_bind, run_modify]
    refine (State.Changes.of_change (.shut hid)).trans ?_
    simp only
    split
    · exact .refl _
    · exact Changes.after (changes_closeDelegate h hshut _) fun _ => .pure _

/-- Using a facade asks what is below. -/
theorem changes_useFacade (h : ChangesBelow p below) (id : LayerId)
    (layer : Layer) (f : Facade) :
    Changes p (useFacade below id layer f op) := by
  unfold useFacade
  split
  · exact .throw _
  · refine .bind (.attempt (changes_invoke h id _ _)) fun r => ?_
    split
    · exact .pure _
    · exact .bind (changes_report id _ _) fun _ => .throw _

/-- By the level of a layer, asking it is a sequence of changes. -/
theorem changes_ask (h : ChangesBelow p below) :
    ChangesBelow p (ask below) := by
  intro id op s
  rw [run_ask]
  split
  · exact .refl s
  · next l hl =>
    have hcore := State.core_eq_of_layer? hl
    split
    · next hc => exact changes_askNative (hcore.trans hc)
    · next f hc =>
      unfold askFacade
      split
      · exact changes_closeFacade h l (hcore.trans hc)
      · exact .refl s
      · exact changes_useFacade h id _ _ s
    · exact .refl s

/-- Whatever is done with a statement is a sequence of changes that gets
nowhere else. -/
theorem changes_within (depth : Nat) : ChangesBelow p (within depth) := by
  induction depth with
  | zero => exact changes_ask fun _ _ => .throw _
  | succ depth ih => exact changes_ask ih

/-- An operation on a handle makes no list longer and forgets nothing. -/
theorem changes_dispatch (id : LayerId) (op : StatementOp) :
    Changes p (dispatch id op) :=
  .get_bind fun s => changes_within _ id op s

theorem changes_closeStatement (id : LayerId) :
    Changes p (closeStatement id) :=
  .bind (changes_dispatch id .close) fun _ => .pure _

theorem changes_discardParked (id : LayerId) :
    Changes p (discardParked id) :=
  .get_bind fun s => changes_discard (changes_within _) id s

theorem changes_forwardStatement (id : LayerId) (op : StatementOp) :
    Changes p (forwardStatement id op) :=
  .get_bind fun s => changes_forward (changes_within _) id s

-- ============================================================ links

variable {next : Next} {self : LinkId} {cop : ConnectionOp}

/-- A facade that a link puts around a statement, if the link is no
tracker. -/
private theorem change_facadeOf {self : LinkId} {kind : StatementKind}
    {sql : Option String} {d : LayerId} {b : Behaviour}
    (hb : ∀ k n, b ≠ .tracked k n) (s : State) :
    Change p s (s.addLayer (facadeOf self kind sql d b)).2 := by
  refine .add fun k n => ?_
  rintro ⟨f, hf, hbf⟩
  cases hf
  exact hb k n hbf

/-- A link that wraps a statement lists it if it is a tracker, which has to
be within reach. -/
theorem changes_decorate (link : Link)
    (hlists : link.isLeakTracker = true → p.lists self)
    (kind : StatementKind) (sql : Option String) (d : LayerId) :
    Changes p (decorate link self kind sql d) := by
  intro s
  cases link with
  | probe | bare | answering | prepending => exact .refl s
  | decorator =>
      exact .of_change (change_facadeOf (fun k n h => by cases h) s)
  | cache config =>
      cases hk : s.caches.get? self with
      | none =>
          have hrun : (decorate (.cache config) self kind sql d).run s
              = (.ok d, s) := by
            simp [decorate, behaviour?, hk, run_bind]
          rw [hrun]
          exact .refl s
      | some store =>
          cases sql with
          | none =>
              have hrun : (decorate (.cache config) self kind none d).run s
                  = (.ok d, s) := by
                simp only [decorate, behaviour?, run_bind, run_get, hk]
                rfl
              rw [hrun]
              exact .refl s
          | some sql =>
              have hrun : ((decorate (.cache config) self kind (some sql)
                  d).run s).2 = (s.addLayer (facadeOf self kind (some sql) d
                    (.cached self store.generation false))).2 := by
                simp [decorate, behaviour?, hk, run_bind, facadeOf]
              rw [hrun]
              exact .of_change (change_facadeOf (fun k n h => by cases h) s)
  | leakTracker =>
      cases hk : s.trackers.get? self with
      | none =>
          have hrun : (decorate .leakTracker self kind sql d).run s
              = (.ok d, s) := by
            simp [decorate, behaviour?, hk, run_bind]
          rw [hrun]
          exact .refl s
      | some tr =>
          have hrun : ((decorate .leakTracker self kind sql d).run s).2
              = s.enlist self tr
                (facadeOf self kind sql d (.tracked self tr.next)) := by
            simp [decorate, behaviour?, hk, run_bind, facadeOf,
              State.enlist, State.addLayer, Tracker.listing]
          rw [hrun]
          exact .of_change (.enlist hk rfl rfl rfl rfl (hlists rfl))
  | recorder config =>
      cases hk : s.recorders.get? self with
      | none =>
          have hrun : (decorate (.recorder config) self kind sql d).run s
              = (.ok d, s) := by
            simp [decorate, behaviour?, hk, run_bind]
          rw [hrun]
          exact .refl s
      | some table =>
          have hrun : ((decorate (.recorder config) self kind sql d).run s).2
              = (s.addLayer (facadeOf self kind sql d
                  (.recording table config))).2 := by
            simp [decorate, behaviour?, hk, run_bind, facadeOf]
          rw [hrun]
          exact .of_change (change_facadeOf (fun k n h => by cases h) s)
  | counter =>
      exact (State.Changes.of_change (.record _ _ _ _ _ _ (.inl rfl))).trans
        (.of_change (change_facadeOf (fun k n h => by cases h) _))
  | watcher label kinds answered =>
      exact (State.Changes.of_change (.record _ _ _ _ _ _ (.inl rfl))).trans
        (.of_change (change_facadeOf (fun k n h => by cases h) _))

/-- Closing what was listed changes layers and shelves. -/
theorem changes_closeListed (entries : List (Nat × LayerId)) :
    Changes p (closeListed entries) := by
  induction entries with
  | nil => exact .pure _
  | cons e rest ih =>
      refine .get_bind fun s => ?_
      split
      · exact Changes.bind (.attempt (changes_closeStatement _))
          (fun _ => ih) s
      · exact ih s

/-- Before a connection closes its trackers forget, which has to be within
reach. -/
theorem changes_beforeClose (link : Link) (self : LinkId)
    (hclears : link.isLeakTracker = true → p.clears self) :
    Changes p (beforeClose link self) := by
  cases link with
  | leakTracker =>
      refine .get_bind fun s => ?_
      split
      · next tr hk =>
        have hclear : s.clearTracker self = { s with
            trackers := s.trackers.set self { tr with entries := [] } } := by
          rw [State.clearTracker, Keyed.modify, hk]
        refine Changes.set_bind ?_ (changes_closeListed _)
        rw [← hclear]
        exact .of_change (.clear (hclears rfl))
      · exact .refl s
  | watcher label kinds answered =>
      exact .modify fun s => .record _ _ _ _ _ _ (.inl rfl)
  | decorator | cache | recorder | counter | probe | bare | answering
    | prepending => exact .pure _

/-- Whether a connection may be asked for something within that reach: who
asks it for a statement lets its trackers list, and who closes it lets
them forget, and gets to the end of the chain. -/
structure Asks (p : Reach) (c : ConnectionId) (op : ConnectionOp) :
    Prop where
  lists : op.creates?.isSome = true → ∀ place, p.lists ⟨c, place⟩
  clears : op = .close → ∀ place, p.clears ⟨c, place⟩
  ends : op = .close → p.ends

/-- The question whether it is closed may be asked of any connection. -/
theorem Asks.isClosed (c : ConnectionId) : Asks p c .isClosed :=
  ⟨fun h => Bool.noConfusion h, fun h => (by cases h), fun h => (by cases h)⟩

/-- A text that is put before the SQL does not change what may be asked. -/
theorem Asks.prepend {c : ConnectionId} (h : Asks p c cop) (text : String) :
    Asks p c (cop.prepend text) := by
  cases cop with
  | prepareStatement | prepareCall =>
      exact ⟨fun _ => h.lists rfl, fun h => (by cases h),
        fun h => (by cases h)⟩
  | nativeSql =>
      exact ⟨fun h => Bool.noConfusion h, fun h => (by cases h),
        fun h => (by cases h)⟩
  | _ => exact h

/-- Whether the links below answer with changes of that reach only. -/
def ChangesNext (p : Reach) (c : ConnectionId) (next : Next) : Prop :=
  ∀ op, Asks p c op → Changes p (next op)

/-- A link that decorates reaches as far as the links below, and its own
list. -/
theorem changes_intercept (link : Link) (hasks : Asks p self.connection cop)
    (h : ChangesNext p self.connection next) :
    Changes p (intercept link self next cop) := by
  by_cases hc : cop = .close
  · subst hc
    exact .bind (changes_beforeClose link self fun _ => hasks.clears rfl _)
      fun _ => h .close hasks
  rcases intercept_cases link self next hc with ⟨kind, hk, hlink⟩ | hsame
  · rw [intercept_of_decorates hk hlink]
    refine .bind (h cop hasks) fun r => .bind (.lift _) fun d => ?_
    refine .bind (changes_decorate link (fun _ => ?_) kind _ d) fun _ => .pure _
    exact hasks.lists (by rw [hk]; rfl) _
  · rw [hsame]
    exact h cop hasks

/-- Looking for a parked statement changes its shelf, and what the question
for closedness changes. -/
theorem changes_reuse? (kind : StatementKind) (sql : String)
    (h : Changes p (next .isClosed)) :
    Changes p (reuse? self next kind sql) := by
  refine .get_bind fun s => ?_
  split
  · exact .refl s
  · refine Changes.bind h (fun r => .bind (.lift _) fun b => ?_) s
    split
    · exact .throw _
    · refine .get_bind fun s => ?_
      split
      · exact .refl s
      · split
        · exact .refl s
        · split
          · exact .refl s
          · refine Changes.set_bind (.of_change (.shelves _)) ?_
            split
            · exact .bind (changes_discardParked _) fun _ => .pure _
            · exact .pure _

/-- A cache writes its own shelf. -/
theorem changes_throughCache (config : CacheConfig)
    (hasks : Asks p self.connection cop)
    (h : ChangesNext p self.connection next) :
    Changes p (throughCache config self next cop) := by
  have hpass : Changes p (intercept (.cache config) self next cop) :=
    changes_intercept _ hasks h
  unfold throughCache
  split
  · split
    · refine .bind (changes_reuse? _ _ (h .isClosed (.isClosed _)))
        fun found => ?_
      cases found with
      | some id => exact .pure _
      | none => exact hpass
    · exact hpass
  · exact hpass

-- ==================================================== the terminal

theorem changes_wraps (x : PhysicalId) (target : WrapTarget) :
    Changes p (wraps x target) := by
  cases target with
  | pooled => exact .pure _
  | native name => exact .get_bind fun s => .refl s

theorem changes_handleOver (c : ConnectionId) (kind : StatementKind)
    (sql : Option String) (make : Native.Act Native.StatementId) :
    Changes p (handleOver c kind sql make) := by
  refine .bind (.native make) fun n => .bind (fun s => ?_) fun _ => .pure _
  refine .of_change (.add fun k m => ?_)
  rintro ⟨f, hf, -⟩
  cases hf

theorem changes_askPhysical (c : ConnectionId) (x : PhysicalId) :
    Changes p (askPhysical c x cop) := by
  refine .get_bind fun s => ?_
  have hnative : ∀ {α : Type} (x : Native.Act α) (f : α → ConnectionReply),
      Changes p (do return f (← native x) : Act ConnectionReply) :=
    fun x f => .bind (.native x) fun _ => .pure _
  cases cop with
  | createStatement | prepareStatement | prepareCall =>
      exact changes_handleOver c _ _ _ s
  | isValid | commit | rollback | setAutoCommit | autoCommit | nativeSql =>
      exact hnative _ _ s
  | unwrap target =>
      refine Changes.bind (changes_wraps x target) (fun b => ?_) s
      split
      · exact .pure _
      · exact .throw _
  | isWrapperFor target =>
      exact Changes.bind (changes_wraps x target) (fun b => .pure _) s
  | close | isClosed => exact .refl s

/-- Closing a terminal gives back what was on loan, which is to reach the
end of the chain. -/
theorem changes_closeTerminal (c : ConnectionId) (hends : p.ends) :
    Changes p (closeTerminal c) := by
  intro s
  unfold closeTerminal
  rw [run_bind, run_terminal]
  simp only
  split
  · exact .refl s
  · refine Changes.bind (.modify fun s => .ends _ s.physicals s.returns hends)
      (fun _ => ?_) s
    split
    · exact .bind (.modify fun s => .ends s.connections s.physicals _ hends)
        fun _ => .pure _
    · exact .pure _

/-- Only closing gets to the end of a chain. -/
theorem changes_askTerminal (c : ConnectionId) (hasks : Asks p c cop) :
    Changes p (askTerminal c cop) := by
  intro s
  by_cases hc : cop = .close
  · subst hc
    exact changes_closeTerminal c (hasks.ends rfl) s
  by_cases hi : cop = .isClosed
  · subst hi
    exact .refl s
  rw [run_askTerminal hc hi]
  split
  · exact .refl s
  · split
    · exact changes_askPhysical c _ s
    · exact .refl s

-- ==================================================== whole chains

/-- A link changes what the links below it change. -/
theorem changes_askLink (link : Link) (hasks : Asks p self.connection cop)
    (h : ChangesNext p self.connection next) :
    Changes p (askLink link self next cop) := by
  cases link with
  | bare => exact h cop hasks
  | probe label =>
      exact .bind (.modify fun s => .record _ _ _ _ _ _ (.inl rfl)) fun _ => h cop hasks
  | prepending text => exact h _ (hasks.prepend text)
  | answering answers =>
      unfold askLink
      simp only
      cases answers.lookup cop.name with
      | none => exact h cop hasks
      | some answer =>
          cases answer with
          | terminal => exact changes_askTerminal _ hasks
          | fail e => exact .throw _
          | bool | unit | text => exact .pure _
  | cache config => exact changes_throughCache config hasks h
  | decorator | leakTracker | recorder | counter | watcher =>
      exact changes_intercept _ hasks h

/-- By induction, a chain reaches no further than what it is asked for
allows. -/
theorem changes_askLinks (c : ConnectionId) (links : List Link) :
    ChangesNext p c (askLinks c links) := by
  induction links with
  | nil => exact fun op hasks => changes_askTerminal c hasks
  | cons link rest ih => exact fun op hasks => changes_askLink link hasks ih

/-- Whatever is asked of a connection is a sequence of changes. -/
theorem changes_invokeOp (c : ConnectionId) (hasks : Asks p c cop) :
    Changes p (invokeOp c cop) := by
  refine .get_bind fun s => ?_
  split
  · exact changes_askLinks c _ cop hasks s
  · exact .refl s

-- ==================================================== what a pool does

end Act

/-- Whether an event begins or ends a checkout. -/
def Event.isTurn : Event → Bool
  | attach _ _ => true
  | checkIn => true
  | disconnect _ _ _ => true
  | _ => false

namespace Act

theorem changes_discardAll (ids : List LayerId) :
    Changes p (discardAll ids) := by
  induction ids with
  | nil => exact .pure _
  | cons id rest ih => exact .bind (changes_discardParked id) fun _ => ih

/-- A cache that is emptied closes what it held. -/
theorem changes_drainCache (self : LinkId) : Changes p (drainCache self) := by
  refine .get_bind fun s => ?_
  split
  · exact .refl s
  · exact Changes.set_bind (.of_change (.shelves _)) (changes_discardAll _)

/-- A tracker that hears of the beginning or the end of a checkout forgets
what it lists. -/
theorem changes_hear (link : Link) (event : Event)
    (hclears : link.isLeakTracker = true → event.isTurn = true →
      p.clears self) :
    Changes p (hear link self event) := by
  unfold hear
  split
  · exact .modify fun s => .record _ _ _ _ _ _ (.inl rfl)
  · exact changes_drainCache self
  · exact .modify fun s => .clear (hclears rfl rfl)
  · exact .modify fun s => .clear (hclears rfl rfl)
  · exact .modify fun s => .clear (hclears rfl rfl)
  · refine .modify fun s => ?_
    unfold State.takeTable
    split
    · exact .record _ _ _ _ _ _ (.inl rfl)
    · exact .record _ _ _ _ _ _
        (.inl (Statistics.Registry.standing_register _ _ _))
  · refine .modify fun s => ?_
    unfold State.leaveTable
    simp only
    split <;> exact .record _ _ _ _ _ _ (.inl rfl)
  · exact .pure _

/-- The terminal hears of an event. -/
theorem changes_hearTerminal (c : ConnectionId) (event : Event)
    (hends : event.isTurn = true → p.ends) :
    Changes p (hearTerminal c event) := by
  cases event with
  | attach | checkIn | disconnect =>
      exact .modify fun s => .ends _ s.physicals s.returns (hends rfl)
  | poolStarted | poolClosed => exact .pure _

/-- The links of a chain that hear of an event change what each of them
changes: in a turn of the loan their trackers forget. -/
theorem changes_hearAll (c : ConnectionId) (event : Event)
    (hclears : event.isTurn = true → ∀ place, p.clears ⟨c, place⟩)
    (hends : event.isTurn = true → p.ends) (links : List Link) :
    Changes p (hearAll c event links) := by
  induction links with
  | nil => exact changes_hearTerminal c event hends
  | cons link rest ih =>
      exact .bind (changes_hear link event fun _ he => hclears he _) fun _ => ih

/-- A connection hears of an event. -/
theorem changes_tell (c : ConnectionId) (event : Event)
    (hclears : event.isTurn = true → ∀ place, p.clears ⟨c, place⟩)
    (hends : event.isTurn = true → p.ends) : Changes p (tell c event) := by
  refine .get_bind fun s => ?_
  split
  · exact changes_hearAll c event hclears hends _ s
  · exact .refl s

/-- A checkout clears the trackers of the connection and makes its loan. -/
theorem changes_checkOut (c : ConnectionId) (pool : PoolId) (x : PhysicalId)
    (hclears : ∀ place, p.clears ⟨c, place⟩) (hends : p.ends) :
    Changes p (checkOut c pool x) :=
  .bind (.modify fun s => .ends s.connections _ s.returns hends) fun _ =>
    changes_tell c _ (fun _ => hclears) fun _ => hends

theorem changes_discardPhysical (x : PhysicalId) (hends : p.ends) :
    Changes p (discardPhysical x) := by
  refine .get_bind fun s => ?_
  split
  · exact .refl s
  · split
    · exact .refl s
    · exact (State.Changes.of_change
        (.ends s.connections _ s.returns hends)).trans (.of_change (.driver _))

/-- Discarding a connection clears its trackers and gives its physical
connection up. -/
theorem changes_discardConnection (c : ConnectionId) (pool : PoolId)
    (x : PhysicalId) (hclears : ∀ place, p.clears ⟨c, place⟩)
    (hends : p.ends) : Changes p (discardConnection c pool x) :=
  .bind (changes_tell c _ (fun _ => hclears) fun _ => hends) fun _ =>
    changes_discardPhysical x hends

/-- What all connections of a pool hear of is no turn of a loan. -/
theorem changes_tellAll {event : Event} (he : event.isTurn = false)
    (cs : List ConnectionId) : Changes p (tellAll event cs) := by
  have hno : ∀ {P : Prop}, event.isTurn = true → P := fun h =>
    absurd (he.symm.trans h) Bool.false_ne_true
  induction cs with
  | nil => exact .pure _
  | cons c cs ih => exact .bind (changes_tell c event hno hno) fun _ => ih

theorem changes_closePool (pool : PoolId) (hends : p.ends)
    (cs : List ConnectionId) : Changes p (closePool pool cs) := by
  refine .get_bind fun s => ?_
  split
  · exact Changes.bind (.modify fun s => .record _ _ _ _ _ _ (.inr hends))
      (fun _ => .bind (changes_tellAll rfl cs) fun _ =>
        .modify fun s => .record _ _ _ _ _ _ (.inr hends)) s
  · exact .refl s

/-- What is taken out of a cache is closed. -/
theorem changes_forceClose (self : LinkId) (sql : String) :
    Changes p (forceClose self sql) := by
  refine .get_bind fun s => ?_
  split
  · exact .refl s
  · split
    · exact .refl s
    · refine Changes.set_bind (.of_change (.shelves _)) ?_
      exact .bind (changes_discardParked _) fun _ => .pure _

end Act
end PooledChain
