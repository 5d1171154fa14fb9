/-
What records nothing.

The figures of a pool are written by the facades of recorders alone, and
only when an execution has come back through them. Whatever else is done
leaves the books as they are: the tables and their registry, the tables
that recorders write to, and what was logged of slow executions
(`State.books`).

An act is silent if it leaves the books as they are, whether it fails or
not (`Act.Silent`). Closing a statement is silent, and so is every
operation on it that does not run SQL (`silent_within`); so is all that is
asked of a connection (`silent_invokeOp`). Of what a pool tells its
connections, recorders hear when they are attached and when a pool has
closed (`silent_hearAll`).
-/
import PooledChain.Proofs.Heap.Ends
import PooledChain.Proofs.Heap.Use

namespace PooledChain

/-- Whether it is the log entry of a slow execution. -/
def Warning.isSlow : Warning → Bool
  | slowQuery _ _ _ => true
  | closeFailed _ _ => false

/-- What was recorded, where recorders write, and what was logged. -/
structure Books where
  statistics : Statistics.Registry
  recorders : Keyed LinkId TableId
  slow : List Warning

/-- The books of a state. Only log entries of slow executions count. -/
def State.books (s : State) : Books :=
  ⟨s.statistics, s.recorders, s.warnings.filter Warning.isSlow⟩

variable {s t : State}

/-- Logging that a close failed leaves the books as they are. -/
theorem books_warn (s : State) (sql error : String) :
    (s.warn (.closeFailed sql error)).books = s.books := by
  rw [State.books, State.warn, List.filter_append]
  exact congrArg (Books.mk _ _) (List.append_nil _)

/-- Releasing a layer leaves the books as they are. -/
theorem books_releaseLayer (s : State) (id : LayerId) :
    (s.releaseLayer id).books = s.books := by
  rw [State.releaseLayer]
  split <;> rfl

/-- The walk that releases what nothing refers to leaves the books as they
are. -/
theorem books_release (s : State) (held : List LayerId) :
    (s.release held).books = s.books := by
  have hbelow : ∀ (n : Nat) (live : List LayerId) (s : State),
      (State.releaseBelow n live s).books = s.books := by
    intro n
    induction n with
    | zero => exact fun _ _ => rfl
    | succ id ih =>
        intro live s
        rw [State.releaseBelow, ih, State.releaseUnless]
        split
        · split <;> rfl
        · exact books_releaseLayer s id
  exact hbelow ..

namespace Act

variable {α β : Type}

/-- Whether an act leaves the books as they are. -/
def Silent (x : Act α) : Prop := ∀ s : State, (x.run s).2.books = s.books

namespace Silent

/-- An answer alone is silent. -/
theorem pure (a : α) : Silent (Pure.pure a) := fun _ => rfl

/-- A failure alone is silent. -/
theorem throw (e : Error) : Silent (MonadExcept.throw e : Act α) :=
  fun _ => rfl

/-- The result of a calculation is silent. -/
theorem lift (r : Except Error α) : Silent (liftM r) := fun _ => rfl

/-- A call of the driver is silent. -/
theorem native (x : Native.Act α) : Silent (Act.native x) := fun _ => rfl

/-- A change that leaves the books as they are is silent. -/
theorem modify {f : State → State} (h : ∀ s, (f s).books = s.books) :
    Silent (modify f : Act PUnit) := h

/-- An act is silent when its failure is ignored as much as otherwise. -/
theorem attempt {x : Act α} (h : Silent x) : Silent (Act.attempt x) := h

/-- What follows an act that is known in this state only. -/
theorem after {x : Act α} {f : α → Act β} (hx : (x.run s).2.books = s.books)
    (hf : ∀ a, Silent (f a)) : ((x >>= f).run s).2.books = s.books := by
  rw [run_bind]
  rcases hr : x.run s with ⟨e | a, t⟩ <;> rw [hr] at hx
  · exact hx
  · exact (hf a t).trans hx

/-- Two silent acts are silent one after the other. -/
theorem bind {x : Act α} {f : α → Act β} (hx : Silent x)
    (hf : ∀ a, Silent (f a)) : Silent (x >>= f) :=
  fun s => after (hx s) hf

/-- What follows a look at the state is given that state. -/
theorem get_bind {f : State → Act β}
    (hf : ∀ s : State, ((f s).run s).2.books = s.books) :
    Silent ((get : Act State) >>= f) := hf

/-- A changed state is put in place. -/
theorem set_bind {f : PUnit → Act β} (ht : t.books = s.books)
    (hf : Silent (f ⟨⟩)) :
    (((set t : Act PUnit) >>= f).run s).2.books = s.books :=
  (hf t).trans ht

end Silent

-- ========================================================== statements

/-- Whether the layers below leave the books as they are unless they run
SQL. -/
def SilentBelow (below : Below) : Prop :=
  ∀ id op, op.isExecution = false → Silent (below id op)

variable {below : Below} {op : StatementOp} {id : LayerId}

theorem silent_retire (id : LayerId) : Silent (retire id) := by
  refine .get_bind fun s => ?_
  split <;> rfl

/-- What runs no SQL is passed on silently. -/
theorem silent_forward (hop : op.isExecution = false)
    (h : SilentBelow below) (id : LayerId) :
    Silent (forward below id op) := by
  intro s
  rw [run_forward]
  split
  · exact h _ op hop s
  · rfl

theorem silent_closeBelow (h : SilentBelow below) (id : LayerId) :
    Silent (closeBelow below id) :=
  .bind (h id .close rfl) fun _ => .pure _

/-- Throwing a layer away is silent: a failure is logged, but as no slow
execution. -/
theorem silent_discard (h : SilentBelow below) (id : LayerId) :
    Silent (discard below id) := by
  refine .get_bind fun s => ?_
  refine Silent.bind (silent_retire id) (fun d => ?_) s
  split
  · exact .pure _
  · refine .bind (.attempt (silent_closeBelow h _)) fun r => ?_
    split
    · exact .pure _
    · exact .modify fun s => books_warn s _ _

/-- Offering a statement to its cache is silent. -/
theorem silent_park (h : SilentBelow below) (layer : Layer) (level : Nat)
    (cache : LinkId) (generation : Nat) (d : LayerId) :
    Silent (park below layer level cache generation d) := by
  refine .get_bind fun s => ?_
  split
  · split
    · refine Silent.set_bind rfl ?_
      split
      · exact silent_discard h _
      · exact .pure _
    · exact silent_closeBelow h d s
  · exact silent_closeBelow h d s

/-- Whatever a facade does with its delegate when it is closed is silent. -/
theorem silent_closeDelegate (h : SilentBelow below) (id : LayerId)
    (layer : Layer) (f : Facade) (d : LayerId) :
    Silent (closeDelegate below id layer f d) := by
  have hclose := silent_closeBelow h d
  unfold closeDelegate
  split
  · exact hclose
  · exact hclose
  · split
    · exact hclose
    · refine .get_bind fun s => ?_
      split
      · rfl
      · exact silent_park h layer _ _ _ d s
  · exact .bind (.modify fun _ => rfl) fun _ => hclose
  · exact .bind (.modify fun _ => rfl) fun _ => hclose
  · exact .get_bind fun s => Silent.after rfl fun _ => hclose

/-- Telling a cache's facade of a failure is silent. -/
theorem silent_report (id : LayerId) (own : Option String) (e : Error) :
    Silent (report id own e) := by
  refine .get_bind fun s => ?_
  split
  · rfl
  · split
    · split <;> rfl
    · rfl
    · rfl

/-- A native handle records nothing. -/
theorem silent_askNative (id : LayerId)
    (handle : Option Native.StatementId) : Silent (askNative id handle op) := by
  unfold askNative
  split
  · exact .pure _
  · exact .pure _
  · exact .bind (.modify fun _ => rfl) fun _ =>
      .bind (.native _) fun _ => .pure _
  · exact .throw _
  · exact .bind (.native _) fun _ => .pure _

theorem silent_closeFacade (h : SilentBelow below) (id : LayerId)
    (layer : Layer) (f : Facade) : Silent (closeFacade below id layer f) := by
  unfold closeFacade
  split
  · exact .pure _
  · refine .bind (.modify fun _ => rfl) fun _ => ?_
    split
    · exact .pure _
    · exact .bind (silent_closeDelegate h id layer f _) fun _ => .pure _

/-- An operation on a facade other than of a recorder leaves the books as
the layers below leave them. -/
theorem silent_invoke {b : Behaviour} {own : Option String}
    (hb : op.isExecution = true → ∀ table config, b ≠ .recording table config)
    (h : Silent (forward below id op)) :
    Silent (invoke below id own b op) := by
  unfold invoke
  split
  · next table config =>
    unfold timed
    split
    · next hop => exact absurd rfl (hb hop table config)
    · exact h
  · refine .bind (.modify fun _ => rfl) fun _ => ?_
    split
    · exact .pure _
    · exact h
  · exact h

/-- The use of a facade is silent if the behaviour of its link is. -/
theorem silent_useFacade {layer : Layer} {f : Facade}
    (h : Silent (invoke below id layer.sql f.behaviour op)) :
    Silent (useFacade below id layer f op) := by
  unfold useFacade
  split
  · exact .throw _
  · refine .bind (.attempt h) fun r => ?_
    split
    · exact .pure _
    · exact .bind (silent_report id _ _) fun _ => .throw _

/-- A layer is asked silently for what runs no SQL, if the layers below
are. -/
theorem silent_ask (h : SilentBelow below) : SilentBelow (ask below) := by
  intro id op hop s
  rw [run_ask]
  split
  · rfl
  · next l _ =>
    split
    · exact silent_askNative id _ s
    · next f _ =>
      unfold askFacade
      split
      · exact silent_closeFacade h id l f s
      · rfl
      · exact silent_useFacade (silent_invoke
          (fun he => absurd he (by rw [hop]; exact Bool.false_ne_true))
          (silent_forward hop h id)) s
    · rfl

/-- What is done with a statement leaves the books as they are, unless SQL
is run. -/
theorem silent_within (depth : Nat) : SilentBelow (within depth) := by
  induction depth with
  | zero => exact silent_ask fun _ _ _ => .throw _
  | succ depth ih => exact silent_ask ih

/-- Whatever runs no SQL is silent, however deep the stack is. -/
theorem silent_dispatch (id : LayerId) (hop : op.isExecution = false) :
    Silent (dispatch id op) :=
  .get_bind fun s => silent_within _ id op hop s

theorem silent_closeStatement (id : LayerId) : Silent (closeStatement id) :=
  .bind (silent_dispatch id rfl) fun _ => .pure _

theorem silent_discardParked (id : LayerId) : Silent (discardParked id) :=
  .get_bind fun s => silent_discard (silent_within _) id s

-- =============================================================== links

variable {next : Next} {self : LinkId} {cop : ConnectionOp}

/-- Putting a facade around a statement is silent. -/
theorem silent_decorate (link : Link) (self : LinkId) (kind : StatementKind)
    (sql : Option String) (d : LayerId) :
    Silent (decorate link self kind sql d) := by
  refine .get_bind fun s => ?_
  refine Silent.after ?_ (fun b => ?_)
  · unfold behaviour?
    rw [run_bind, run_get]
    simp only
    cases link with
    | cache config | leakTracker | recorder config => simp only; split <;> rfl
    | _ => rfl
  · cases b with
    | none => exact .pure _
    | some b => exact fun _ => rfl

theorem silent_closeListed (entries : List (Nat × LayerId)) :
    Silent (closeListed entries) := by
  induction entries with
  | nil => exact .pure _
  | cons e rest ih =>
      refine .get_bind fun s => ?_
      split
      · exact Silent.bind (.attempt (silent_closeStatement _))
          (fun _ => ih) s
      · exact ih s

/-- What a link does before its connection closes is silent. -/
theorem silent_beforeClose (link : Link) (self : LinkId) :
    Silent (beforeClose link self) := by
  cases link with
  | leakTracker =>
      refine .get_bind fun s => ?_
      split
      · exact Silent.set_bind rfl (silent_closeListed _)
      · rfl
  | watcher label kinds answered => exact .modify fun _ => rfl
  | decorator | cache | recorder | counter | probe | bare | answering
    | prepending => exact .pure _

/-- A link that passes an operation on is silent if the links below are. -/
theorem silent_intercept (link : Link) (h : ∀ op, Silent (next op)) :
    Silent (intercept link self next cop) := by
  by_cases hc : cop = .close
  · subst hc
    exact .bind (silent_beforeClose link self) fun _ => h .close
  rcases intercept_cases link self next hc with ⟨kind, hk, hlink⟩ | hsame
  · rw [intercept_of_decorates hk hlink]
    exact .bind (h cop) fun r => .bind (.lift _) fun d =>
      .bind (silent_decorate link self kind _ d) fun _ => .pure _
  · rw [hsame]
    exact h cop

/-- Looking for a parked statement is silent. -/
theorem silent_reuse? (kind : StatementKind) (sql : String)
    (h : Silent (next .isClosed)) : Silent (reuse? self next kind sql) := by
  refine .get_bind fun s => ?_
  split
  · rfl
  · refine Silent.bind h (fun r => .bind (.lift _) fun b => ?_) s
    split
    · exact .throw _
    · refine .get_bind fun s => ?_
      split
      · rfl
      · split
        · rfl
        · split
          · rfl
          · refine Silent.set_bind rfl ?_
            split
            · exact .bind (silent_discardParked _) fun _ => .pure _
            · exact .pure _

/-- A cache is silent if the links below are. -/
theorem silent_throughCache (config : CacheConfig)
    (h : ∀ op, Silent (next op)) :
    Silent (throughCache config self next cop) := by
  have hpass : Silent (intercept (.cache config) self next cop) :=
    silent_intercept _ h
  unfold throughCache
  split
  · split
    · refine .bind (silent_reuse? _ _ (h .isClosed)) fun found => ?_
      cases found with
      | some id => exact .pure _
      | none => exact hpass
    · exact hpass
  · exact hpass

theorem silent_askPhysical (c : ConnectionId) (x : PhysicalId) :
    Silent (askPhysical c x cop) := by
  refine .get_bind fun s => ?_
  have hmakes : ∀ kind sql make, Silent (handleOver c kind sql make) :=
    fun kind sql make => .bind (.native make) fun n =>
      .bind (fun _ => rfl) fun _ => .pure _
  have hnative : ∀ {α : Type} (x : Native.Act α) (f : α → ConnectionReply),
      Silent (do return f (← native x) : Act ConnectionReply) :=
    fun x f => .bind (.native x) fun _ => .pure _
  have hwraps : ∀ target, Silent (wraps x target) := fun target => by
    cases target with
    | pooled => exact .pure _
    | native name => exact .get_bind fun _ => rfl
  cases cop with
  | createStatement | prepareStatement | prepareCall => exact hmakes _ _ _ s
  | isValid | commit | rollback | setAutoCommit | autoCommit | nativeSql =>
      exact hnative _ _ s
  | unwrap target =>
      refine Silent.bind (hwraps target) (fun b => ?_) s
      split
      · exact .pure _
      · exact .throw _
  | isWrapperFor target =>
      exact Silent.bind (hwraps target) (fun b => .pure _) s
  | close | isClosed => rfl

/-- The terminal records nothing. -/
theorem silent_askTerminal (c : ConnectionId) :
    Silent (askTerminal c cop) := by
  intro s
  by_cases hc : cop = .close
  · subst hc
    show ((closeTerminal c).run s).2.books = _
    unfold closeTerminal
    rw [run_bind, run_terminal]
    simp only
    split
    · rfl
    · refine Silent.after rfl fun _ => ?_
      split
      · exact .bind (.modify fun _ => rfl) fun _ => .pure _
      · exact .pure _
  by_cases hi : cop = .isClosed
  · subst hi
    rfl
  rw [run_askTerminal hc hi]
  split
  · rfl
  · split
    · exact silent_askPhysical c _ s
    · rfl

/-- Every link is silent if the links below are. -/
theorem silent_askLink (link : Link) (h : ∀ op, Silent (next op)) :
    Silent (askLink link self next cop) := by
  cases link with
  | bare => exact h cop
  | probe label => exact .bind (.modify fun _ => rfl) fun _ => h cop
  | prepending text => exact h _
  | answering answers =>
      unfold askLink
      simp only
      cases answers.lookup cop.name with
      | none => exact h cop
      | some answer =>
          cases answer with
          | terminal => exact silent_askTerminal _
          | fail e => exact .throw _
          | bool | unit | text => exact .pure _
  | cache config => exact silent_throughCache config h
  | decorator | leakTracker | recorder | counter | watcher =>
      exact silent_intercept _ h

/-- An operation on a connection is silent, whatever its chain is. -/
theorem silent_askLinks (c : ConnectionId) (links : List Link)
    (op : ConnectionOp) : Silent (askLinks c links op) := by
  induction links generalizing op with
  | nil => exact silent_askTerminal c
  | cons link rest ih => exact silent_askLink link ih

/-- Whatever is asked of a connection, nothing is recorded. -/
theorem silent_invokeOp (c : ConnectionId) (op : ConnectionOp) :
    Silent (invokeOp c op) := by
  refine .get_bind fun s => ?_
  split
  · exact silent_askLinks c _ op s
  · rfl

-- ====================================================== what a pool does

end Act

/-- Whether recorders turn to another table when they hear of an event. -/
def Event.isTabled : Event → Bool
  | attach _ _ => true
  | poolClosed _ => true
  | _ => false

namespace Act

theorem silent_discardAll (ids : List LayerId) : Silent (discardAll ids) := by
  induction ids with
  | nil => exact .pure _
  | cons id rest ih => exact .bind (silent_discardParked id) fun _ => ih

theorem silent_drainCache (self : LinkId) : Silent (drainCache self) := by
  refine .get_bind fun s => ?_
  split
  · rfl
  · exact Silent.set_bind rfl (silent_discardAll _)

/-- A link hears silently of an event, unless it is a recorder that turns to
another table. -/
theorem silent_hear {link : Link} {event : Event} (self : LinkId)
    (h : link.isRecorder = true → event.isTabled = false) :
    Silent (hear link self event) := by
  unfold hear
  split
  · exact .modify fun _ => rfl
  · exact silent_drainCache self
  · exact .modify fun _ => rfl
  · exact .modify fun _ => rfl
  · exact .modify fun _ => rfl
  · cases h rfl
  · cases h rfl
  · exact .pure _

theorem silent_hearTerminal (c : ConnectionId) (event : Event) :
    Silent (hearTerminal c event) := by
  cases event with
  | attach | checkIn | disconnect => exact .modify fun _ => rfl
  | poolStarted | poolClosed => exact .pure _

/-- Where no recorder listens, or it hears of nothing that is about its
table, nothing is recorded. -/
theorem silent_hearAll (c : ConnectionId) {event : Event} {links : List Link}
    (h : ∀ link ∈ links, link.isRecorder = true → event.isTabled = false) :
    Silent (hearAll c event links) := by
  induction links with
  | nil => exact silent_hearTerminal c event
  | cons link rest ih =>
      exact .bind (silent_hear _ (h link List.mem_cons_self)) fun _ =>
        ih fun l hl => h l (List.mem_cons_of_mem _ hl)

/-- A chain hears silently of an event at which no recorder turns to another
table. -/
theorem silent_tell (c : ConnectionId) {event : Event}
    (h : event.isTabled = false) : Silent (tell c event) := by
  refine .get_bind fun s => ?_
  split
  · exact silent_hearAll c (fun _ _ _ => h) s
  · rfl

theorem silent_discardPhysical (x : PhysicalId) :
    Silent (discardPhysical x) := by
  refine .get_bind fun s => ?_
  split
  · rfl
  · split <;> rfl

/-- Discarding a connection is silent. -/
theorem silent_discardConnection (c : ConnectionId) (pool : PoolId)
    (x : PhysicalId) : Silent (discardConnection c pool x) :=
  .bind (silent_tell c rfl) fun _ => silent_discardPhysical x

theorem silent_forceClose (self : LinkId) (sql : String) :
    Silent (forceClose self sql) := by
  refine .get_bind fun s => ?_
  split
  · rfl
  · split
    · rfl
    · exact Silent.set_bind rfl
        (.bind (silent_discardParked _) fun _ => .pure _)

end Act

end PooledChain
