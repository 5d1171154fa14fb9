/-
Asking a connection in company, and alone.

What is asked of the party's connection goes down links that remember the
same in both states, up to the pairing, and is answered by an end that is
attached to the same. A statement that is made is a new pair, and so is
each facade that is put around it on its way up (`inStep_decorate`). By
induction on the chain whatever is asked keeps in step
(`inStep_invokeOp`).
-/
import PooledChain.Proofs.Company.Statements
import PooledChain.Proofs.Heap.Links

namespace PooledChain

open Pairing (Equal OnLayers)

variable {p : Party} {w w' : Pairing} {a b d d' : LayerId} {s t : State}

namespace Act

-- ================================================================ replies

/-- Answers that are the same, or statements that are a pair. A physical
connection in an answer is the party's own. -/
inductive OnAnswers (p : Party) (w : Pairing) :
    ConnectionReply → ConnectionReply → Prop
  | unit : OnAnswers p w .unit .unit
  | bool (value) : OnAnswers p w (.bool value) (.bool value)
  | text (value) : OnAnswers p w (.text value) (.text value)
  | statement {x y} : (x, y) ∈ w.layers →
      OnAnswers p w (.statement x) (.statement y)
  | physical : OnAnswers p w (.physical p.physical) (.physical p.physical)

/-- Both name the physical connection of the party. -/
def Own (p : Party) (_ : Pairing) (x y : PhysicalId) : Prop :=
  x = p.physical ∧ y = p.physical

namespace OnAnswers

variable {r r' : ConnectionReply}

/-- Replies that belong together hand out statements that do, or fail
alike. -/
theorem toStatement (h : OnAnswers p w r r') (name : String) :
    Answers w.OnLayers (r.toStatement name) (r'.toStatement name) := by
  cases h with
  | statement hab => exact .ok hab
  | _ => exact .error _

/-- Replies that belong together give one truth value, or fail alike. -/
theorem toBool (h : OnAnswers p w r r') (name : String) :
    Answers (Equal w) (r.toBool name) (r'.toBool name) := by
  cases h with
  | bool value => exact .ok rfl
  | _ => exact .error _

/-- Replies that belong together give one text, or fail alike. -/
theorem toText (h : OnAnswers p w r r') (name : String) :
    Answers (Equal w) (r.toText name) (r'.toText name) := by
  cases h with
  | text value => exact .ok rfl
  | _ => exact .error _

/-- Replies that belong together name the physical connections of the party,
or fail alike. -/
theorem toPhysical (h : OnAnswers p w r r') (name : String) :
    Answers (Own p w) (r.toPhysical name) (r'.toPhysical name) := by
  cases h with
  | physical => exact .ok ⟨rfl, rfl⟩
  | _ => exact .error _

end OnAnswers

-- ============================================================= decorating

variable {self : LinkId} {link : Link}

/-- A facade around the layers of a pair is a new pair. -/
theorem ends_addFacade (h : s.Hosts p w t)
    (hself : self.connection = p.connection) (kind : StatementKind)
    (sql : Option String) (hd : (d, d') ∈ w.layers) {x y : Behaviour}
    (hxy : x.Matches p y) :
    Ends p OnLayers w (w.join s.layers.length t.layers.length) s
      (.ok s.layers.length, (s.addLayer (facadeOf self kind sql d x)).2)
      (.ok t.layers.length, (t.addLayer (facadeOf self kind sql d' y)).2) where
  minds := .addLayer p w s _ _
  hosts := h.addLayer ⟨rfl, rfl, rfl,
    fun _ hc => (Option.some.inj hc).symm.trans hself,
    .facade ⟨rfl, .some hd, rfl, hxy⟩⟩
  answers := .ok List.mem_cons_self

/-- A tracker lists a layer on either side, which is then put in. -/
theorem ends_listing (h : s.Hosts p w t)
    (hself : self.connection = p.connection) (kind : StatementKind)
    (sql : Option String) (hd : (d, d') ∈ w.layers) {x y : Tracker}
    (hxy : x.Matches w y) :
    Ends p OnLayers w (w.join s.layers.length t.layers.length) s
      (.ok s.layers.length, { (s.addLayer (facadeOf self kind sql d
        (.tracked self x.next))).2 with
          trackers := s.trackers.set self (x.listing s.layers.length) })
      (.ok t.layers.length, { (t.addLayer (facadeOf self kind sql d'
        (.tracked self y.next))).2 with
          trackers := t.trackers.set self (y.listing t.layers.length) }) := by
  have hlonger := (hxy.mono (w.le_join s.layers.length
    t.layers.length)).entries
  rw [← hxy.next]
  have hadd := ends_addFacade h hself kind sql hd
    (.tracked hself : Behaviour.Matches p (.tracked self x.next) _)
  have hlisting : Tracker.Matches (w.join s.layers.length t.layers.length)
      (x.listing s.layers.length) (y.listing t.layers.length) :=
    ⟨List.rel_append hlonger (.cons ⟨hxy.next, List.mem_cons_self⟩ .nil),
      congrArg (· + 1) hxy.next⟩
  exact ⟨hadd.minds.trans (.setTrackers p _ fun hi =>
      get?_set_of_connection hself hi _),
    hadd.hosts.setTrackers fun hi => rel_set (hadd.hosts.tracker hi) hlisting,
    hadd.answers⟩

/-- A link wraps the two statements of a pair into the facades of a new
one. -/
theorem inStep_decorate (hself : self.connection = p.connection)
    (kind : StatementKind) (sql : Option String) (hd : (d, d') ∈ w.layers) :
    InStep p OnLayers w (decorate link self kind sql d)
      (decorate link self kind sql d') := by
  intro s t h
  have hleft : ∃ w', Ends p OnLayers w w' s (.ok d, s) (.ok d', t) :=
    ⟨w, .refl p w s, h, .ok hd⟩
  cases link with
  | decorator => exact ⟨_, ends_addFacade h hself kind sql hd .plain⟩
  | cache config =>
      unfold decorate behaviour?
      simp only [run_bind, run_get]
      rcases rel_cases (h.cache hself) with ⟨hs, ht⟩ | ⟨st, st', hs, ht, hst⟩ <;>
        rw [hs, ht]
      · exact hleft
      · cases sql with
        | none => exact hleft
        | some sql =>
            simp only [hst.generation]
            exact ⟨_, ends_addFacade h hself kind sql hd (.cached hself)⟩
  | leakTracker =>
      unfold decorate behaviour?
      simp only [run_bind, run_get]
      rcases rel_cases (h.tracker hself) with ⟨hs, ht⟩ | ⟨tr, tr', hs, ht, htr⟩ <;>
        rw [hs, ht]
      · exact hleft
      · exact ⟨_, ends_listing h hself kind sql hd htr⟩
  | recorder config =>
      unfold decorate behaviour?
      simp only [run_bind, run_get]
      have hsame := h.recorder hself
      cases hs : s.recorders.get? self <;> cases ht : t.recorders.get? self <;>
        rw [hs, ht] at hsame
      · exact hleft
      · cases hsame
      · cases hsame
      · exact ⟨_, ends_addFacade h hself kind sql hd .recording⟩
  | counter =>
      have hadd := ends_addFacade h hself kind sql hd (.counting hself)
      refine ⟨_, hadd.minds.trans (.setCounters p _ fun hi =>
          get?_modify_of_connection hself hi _),
        hadd.hosts.setCounters fun hi => ?_, hadd.answers⟩
      rw [Keyed.get?_modify, Keyed.get?_modify]
      show (if _ then (s.counters.get? self).map _ else s.counters.get? _)
        = if _ then (t.counters.get? self).map _ else t.counters.get? _
      rw [h.counter hi, h.counter hself]
  | watcher label kinds answered =>
      have hadd := ends_addFacade h hself kind sql hd
        (.watched : Behaviour.Matches p (.watched label answered) _)
      exact ⟨_, hadd.minds.trans (.record p _ _ _ _ _ _),
        hadd.hosts.record _ _ _ _ _ _ _ _, hadd.answers⟩
  | probe | bare | answering | prepending => exact hleft

/-- What a tracker lists is closed, pair by pair. -/
theorem inStep_closeListed {l l' : List (Nat × LayerId)}
    (h : List.Forall₂ w.OnEntries l l') :
    ∀ {w'}, w.Le w' → InStep p Equal w' (closeListed l) (closeListed l') := by
  induction h with
  | nil => exact fun _ => .pure rfl
  | cons he _ ih =>
      intro w' hw
      have hid := hw.layers he.2
      refine .get_bind fun s t h => ?_
      rw [h.isClosed hid]
      split
      · exact InStep.bind (.attempt (inStep_closeStatement hid))
          (fun hw' _ => ih (hw.trans hw')) s t h
      · exact ih hw s t h

/-- What a link does before its connection closes keeps the two runs in
step. -/
theorem inStep_beforeClose (hself : self.connection = p.connection) :
    InStep p Equal w (beforeClose link self) (beforeClose link self) := by
  cases link with
  | leakTracker =>
      refine .get_bind fun s t h => ?_
      rcases rel_cases (h.tracker hself) with ⟨hs, ht⟩ | ⟨tr, tr', hs, ht, htr⟩ <;>
        rw [hs, ht]
      · exact ⟨w, .refl p w s, h, .ok rfl⟩
      · exact InStep.set_bind
          (.setTrackers p w fun hi => get?_set_of_connection hself hi _)
          (h.setTrackers fun hi => rel_set (h.tracker hi) ⟨.nil, htr.next⟩)
          (inStep_closeListed htr.entries (.refl w))
  | watcher => exact inStep_record (fun _ => rfl) fun _ => rfl
  | decorator | cache | recorder | counter | probe | bare | answering
    | prepending => exact .pure rfl

-- =============================================================== the links

/-- Whether the links below keep in step. -/
def NextInStep (p : Party) (next : Next) : Prop :=
  ∀ {w} (op : ConnectionOp), InStep p (OnAnswers p) w (next op) (next op)

variable {next : Next} {op : ConnectionOp}

/-- A link that decorates keeps the two runs in step if the links below
do. -/
theorem inStep_intercept (hself : self.connection = p.connection)
    (hnext : NextInStep p next) :
    InStep p (OnAnswers p) w (intercept link self next op)
      (intercept link self next op) := by
  by_cases hc : op = .close
  · subst hc
    exact .bind (inStep_beforeClose hself) fun _ _ => hnext .close
  rcases intercept_cases link self next hc with ⟨kind, hk, hdecorates⟩ | hsame
  · rw [intercept_of_decorates hk hdecorates]
    exact .bind (hnext op) fun _ hr => .bind (.lift (hr.toStatement _))
      fun _ hd => .bind (inStep_decorate hself kind _ hd)
        fun _ hab => .pure (.statement hab)
  · rw [hsame]
    exact hnext op

/-- What a cache has for a text, of two caches that match. -/
theorem ends_reuse (h : s.Hosts p w t) (hself : self.connection = p.connection)
    (kind : StatementKind) (sql : String) {x y : CacheStore}
    (hxy : x.Matches w y) (hab : (a, b) ∈ w.layers) :
    ∃ w', Ends p (fun w => Option.Rel w.OnLayers) w w' s
      ((do
        if ((s.layer? a).map (·.kind)) ≠ some kind then return none
        else
          set { s with caches := s.caches.set self (x.remove sql) }
          if s.isClosed a then
            discardParked a
            return none
          else return some a : Act (Option LayerId)).run s)
      ((do
        if ((t.layer? b).map (·.kind)) ≠ some kind then return none
        else
          set { t with caches := t.caches.set self (y.remove sql) }
          if t.isClosed b then
            discardParked b
            return none
          else return some b : Act (Option LayerId)).run t) := by
  obtain ⟨l, l', hl, hl', hmatch⟩ := h.layer hab
  rw [hl, hl', Option.map_some, Option.map_some, hmatch.kind, h.isClosed hab]
  split
  · exact ⟨w, .refl p w s, h, .ok .none⟩
  obtain ⟨hminds, hhosts⟩ := h.shelve hself (hxy.remove sql)
  split
  · exact InStep.set_bind hminds hhosts
      (.bind (inStep_discardParked hab) fun _ _ => .pure .none)
  · exact InStep.set_bind hminds hhosts (.pure (.some hab))

/-- A cache finds a statement in both runs or in neither, since the two
shelves hold the same texts. -/
theorem inStep_reuse? (hself : self.connection = p.connection)
    (hnext : NextInStep p next) (kind : StatementKind) (sql : String) :
    InStep p (fun w => Option.Rel w.OnLayers) w (reuse? self next kind sql)
      (reuse? self next kind sql) := by
  refine .get_bind fun s t h => ?_
  have hnone : (s.caches.get? self).isNone = (t.caches.get? self).isNone := by
    rcases rel_cases (h.cache hself) with ⟨hs, ht⟩ | ⟨_, _, hs, ht, -⟩ <;>
      simp only [hs, ht, Option.isNone_none, Option.isNone_some]
  rw [hnone]
  split
  · exact ⟨w, .refl p w s, h, .ok .none⟩
  refine InStep.bind (hnext .isClosed) (fun _ hr =>
    .bind (.lift (hr.toBool _)) fun {w x y} _ hxy => ?_) s t h
  cases hxy
  simp only
  split
  · exact .throw _
  refine .get_bind fun s t h => ?_
  rcases rel_cases (h.cache hself) with ⟨hs, ht⟩ | ⟨st, st', hs, ht, hst⟩ <;>
    rw [hs, ht]
  · exact ⟨w, .refl p w s, h, .ok .none⟩
  simp only
  rcases rel_cases (hst.find? sql) with ⟨hs, ht⟩ | ⟨a, b, hs, ht, hab⟩ <;>
    rw [hs, ht]
  · exact ⟨w, .refl p w s, h, .ok .none⟩
  exact ends_reuse h hself kind sql hst hab

/-- A cache keeps the two runs in step if the links below do. -/
theorem inStep_throughCache (config : CacheConfig)
    (hself : self.connection = p.connection) (hnext : NextInStep p next) :
    InStep p (OnAnswers p) w (throughCache config self next op)
      (throughCache config self next op) := by
  have hpass : ∀ {w}, InStep p (OnAnswers p) w
      (intercept (.cache config) self next op)
      (intercept (.cache config) self next op) :=
    inStep_intercept hself hnext
  unfold throughCache
  split
  · split
    · refine .bind (inStep_reuse? hself hnext _ _) fun _ hfound => ?_
      rcases rel_cases hfound with ⟨rfl, rfl⟩ | ⟨a, b, rfl, rfl, hab⟩
      · exact hpass
      · exact .pure (.statement hab)
    · exact hpass
  · exact hpass

end Act

-- ============================================================ the terminal

namespace State.Hosts

/-- The terminal of the party is the same in company and alone. -/
theorem terminalOf (h : s.Hosts p w t) :
    s.terminalOf p.connection = t.terminalOf p.connection := by
  rw [State.terminalOf, State.terminalOf, h.connection]

/-- An end that is attached is attached to the party's own. -/
theorem attachedTo (h : s.Hosts p w t) {e : Attachment}
    (he : (t.terminalOf p.connection).attachment = some e) :
    e.physical = p.physical := by
  rw [State.terminalOf] at he
  cases hx : t.connection? p.connection with
  | none => rw [hx] at he; cases he
  | some x => rw [hx] at he; exact h.attached hx he

/-- What is read of the physical connection and of the driver's. -/
theorem bind_native {α : Type} (h : s.Hosts p w t)
    (f : Physical → Native.Connection → Option α) :
    ((s.physical? p.physical).bind fun x =>
        (s.native.connection? x.native).bind (f x))
      = (t.physical? p.physical).bind fun x =>
        (t.native.connection? x.native).bind (f x) := by
  obtain ⟨x, hx, hn⟩ := h.behind
  rw [h.physical, hx, Option.bind_some, Option.bind_some, hn,
    h.native.connection]

theorem native_physical (h : s.Hosts p w t) :
    ((t.physical? p.physical).map (·.native)).getD 0 = p.native := by
  obtain ⟨x, hx, hn⟩ := h.behind
  rw [hx]
  exact hn

end State.Hosts

namespace Act

variable {op : ConnectionOp}

/-- Closing the terminal gives back the same physical connection in both
runs. -/
theorem inStep_closeTerminal :
    InStep p (OnAnswers p) w (closeTerminal p.connection)
      (closeTerminal p.connection) := by
  intro s t h
  unfold closeTerminal
  rw [run_bind, run_bind, run_terminal, run_terminal, h.terminalOf]
  simp only
  split
  · exact ⟨w, .refl p w s, h, .ok .unit⟩
  · refine InStep.bind (.modify fun s t h =>
      ⟨.modifyTerminal p w s _, h.modifyTerminal h.attached⟩)
      (fun _ _ => ?_) s t h
    cases he : (t.terminalOf p.connection).attachment with
    | none => exact .pure .unit
    | some e =>
        obtain ⟨pool, x⟩ := e
        obtain rfl : x = p.physical := h.attachedTo he
        cases pool with
        | none => exact .pure .unit
        | some pool =>
            exact .bind (.modify fun s t h =>
              ⟨.giveBack p _ s pool, h.giveBack pool⟩) fun _ _ => .pure .unit

theorem inStep_wraps (target : WrapTarget) :
    InStep p Equal w (wraps p.physical target) (wraps p.physical target) := by
  cases target with
  | pooled => exact .pure rfl
  | native name =>
      refine .get_bind fun s t h => ?_
      simp only [h.bind_native fun _ => Native.Connection.typeName?]
      exact ⟨w, .refl p w s, h, .ok rfl⟩

/-- A handle over the statements of a pair is a new pair. -/
theorem inStep_handleOver (kind : StatementKind) (sql : Option String)
    {make : Native.Act Native.StatementId}
    (hmake : ∀ {ps}, make.InStep p.native Native.Pairs.Both ps make) :
    InStep p (OnAnswers p) w (handleOver p.connection kind sql make)
      (handleOver p.connection kind sql make) := by
  refine .bind (.native hmake) fun {w n m} _ hn => ?_
  refine InStep.bind (V := OnLayers) (fun s t h => ?_)
    fun _ hab => .pure (.statement hab)
  exact ⟨_, .addLayer p w s _ _, h.addLayer ⟨rfl, rfl, rfl,
      fun _ hc => (Option.some.inj hc).symm, .opened hn⟩,
    .ok List.mem_cons_self⟩

/-- What the terminal passes to the driver is answered alike. -/
theorem inStep_askPhysical :
    InStep p (OnAnswers p) w (askPhysical p.connection p.physical op)
      (askPhysical p.connection p.physical op) := by
  refine .get_bind fun s t h => ?_
  rw [h.physical, h.native_physical]
  have hnative : ∀ {α : Type} {x : Native.Act α}
      (_ : ∀ {ps}, x.InStep p.native Native.Pairs.Equal ps x)
      (f : α → ConnectionReply) (_ : ∀ w a, OnAnswers p w (f a) (f a)),
      InStep p (OnAnswers p) w (do return f (← native x) : Act ConnectionReply)
        (do return f (← native x) : Act ConnectionReply) :=
    fun hx f hf => .bind (.native hx) fun {w a _} _ hr => by
      cases hr
      exact .pure (hf w a)
  cases op with
  | createStatement =>
      exact inStep_handleOver _ _ Native.inStep_createStatement s t h
  | prepareStatement sql =>
      exact inStep_handleOver _ _ (Native.inStep_prepare _ sql) s t h
  | prepareCall sql =>
      exact inStep_handleOver _ _ (Native.inStep_prepare _ sql) s t h
  | isValid =>
      exact hnative Native.inStep_isValid .bool (fun _ => .bool) s t h
  | commit =>
      exact hnative Native.inStep_commit (fun _ => .unit) (fun _ _ => .unit)
        s t h
  | rollback =>
      exact hnative Native.inStep_rollback (fun _ => .unit) (fun _ _ => .unit)
        s t h
  | setAutoCommit b =>
      exact hnative (Native.inStep_setAutoCommit b) (fun _ => .unit)
        (fun _ _ => .unit) s t h
  | autoCommit =>
      exact hnative Native.inStep_autoCommit .bool (fun _ => .bool) s t h
  | nativeSql sql =>
      exact hnative (Native.inStep_nativeSql sql) .text (fun _ => .text) s t h
  | unwrap target =>
      refine InStep.bind (inStep_wraps target) (fun {_ x _} _ hxy => ?_) s t h
      cases hxy
      cases x with
      | true => exact .pure .physical
      | false => exact .throw _
  | isWrapperFor target =>
      refine InStep.bind (inStep_wraps target) (fun {_ x _} _ hxy => ?_) s t h
      cases hxy
      exact .pure (.bool x)
  | close | isClosed => exact ⟨w, .refl p w s, h, .error _⟩

/-- The terminal answers every operation alike in company and alone. -/
theorem inStep_askTerminal :
    InStep p (OnAnswers p) w (askTerminal p.connection op)
      (askTerminal p.connection op) := by
  by_cases hc : op = .close
  · subst hc
    exact inStep_closeTerminal
  by_cases hi : op = .isClosed
  · subst hi
    refine .get_bind fun s t h => ?_
    rw [h.isClosedConnection]
    exact ⟨w, .refl p w s, h, .ok (.bool _)⟩
  intro s t h
  rw [run_askTerminal hc hi, run_askTerminal hc hi, h.isClosedConnection,
    h.terminalOf]
  split
  · exact ⟨w, .refl p w s, h, .error _⟩
  · cases he : (t.terminalOf p.connection).attachment with
    | none => exact ⟨w, .refl p w s, h, .error _⟩
    | some e =>
        simp only
        rw [h.attachedTo he]
        exact inStep_askPhysical s t h

-- ============================================================ whole chains

/-- Each sort of link keeps the two runs in step if the links below do. -/
theorem inStep_askLink {link : Link} {self : LinkId}
    (hself : self.connection = p.connection) {next : Next}
    (hnext : NextInStep p next) :
    InStep p (OnAnswers p) w (askLink link self next op)
      (askLink link self next op) := by
  cases link with
  | bare => exact hnext op
  | probe label =>
      exact .bind (inStep_record (fun _ => rfl) fun _ => rfl)
        fun _ _ => hnext op
  | prepending text => exact hnext _
  | answering answers =>
      unfold askLink
      simp only
      cases answers.lookup op.name with
      | none => exact hnext op
      | some answer =>
          cases answer with
          | terminal =>
              show InStep p (OnAnswers p) w (askTerminal self.connection op)
                (askTerminal self.connection op)
              rw [hself]
              exact inStep_askTerminal
          | fail e => exact .throw _
          | bool value => exact .pure (.bool value)
          | unit => exact .pure .unit
          | text value => exact .pure (.text value)
  | cache config => exact inStep_throughCache config hself hnext
  | decorator | leakTracker | recorder | counter | watcher =>
      exact inStep_intercept hself hnext

/-- By induction, a chain keeps the two runs in step. -/
theorem inStep_askLinks (links : List Link) :
    NextInStep p (askLinks p.connection links) := by
  induction links with
  | nil => exact fun _ => inStep_askTerminal
  | cons link rest ih => exact fun _ => inStep_askLink rfl ih

/-- Whatever is asked of the connection keeps in step. -/
theorem inStep_invokeOp (op : ConnectionOp) :
    InStep p (OnAnswers p) w (invokeOp p.connection op)
      (invokeOp p.connection op) := by
  refine .get_bind fun s t h => ?_
  rw [h.connection]
  cases hx : t.connection? p.connection with
  | none => exact ⟨w, .refl p w s, h, .error _⟩
  | some x => exact inStep_askLinks x.links op s t h

theorem inStep_statementOf (op : ConnectionOp) :
    InStep p OnLayers w (statementOf p.connection op)
      (statementOf p.connection op) :=
  .bind (inStep_invokeOp op) fun _ hr => .lift (hr.toStatement _)

theorem inStep_boolOf (op : ConnectionOp) :
    InStep p Equal w (boolOf p.connection op) (boolOf p.connection op) :=
  .bind (inStep_invokeOp op) fun _ hr => .lift (hr.toBool _)

theorem inStep_textOf (op : ConnectionOp) :
    InStep p Equal w (textOf p.connection op) (textOf p.connection op) :=
  .bind (inStep_invokeOp op) fun _ hr => .lift (hr.toText _)

theorem inStep_runOp (op : ConnectionOp) :
    InStep p Equal w (runOp p.connection op) (runOp p.connection op) :=
  .bind (inStep_invokeOp op) fun _ _ => .pure rfl

/-- A physical connection in an answer is the party's own. -/
theorem inStep_physicalOf (op : ConnectionOp) :
    InStep p (Own p) w (physicalOf p.connection op)
      (physicalOf p.connection op) :=
  .bind (inStep_invokeOp op) fun _ hr => .lift (hr.toPhysical _)

end Act

end PooledChain
