/-
Which statements are timed, and what an execution leaves in the books.

A chain has one recorder, and while that writes to a table it puts its
facade around every statement that comes up. Nothing takes the facade
away from the stack of an open handle: caches below it park what is under
it, and caches above it park it with all that it lies over. That is a
matter of levels (`State.Timed`). The facades at the level of the
recorder are its own, and what is above that level stands on something
that is not below it. So an operation on a handle that is not below the
level of the recorder passes exactly one facade of the recorder, and one
on anything below passes none (`Act.books_execute`).

The levels stay right whatever is done with the statements
(`Move.timed`). That they are right to begin with is shown for the call
in which a statement is made, by induction on the links above the
recorder (`Act.times_askLinks`).
-/
import PooledChain.Proofs.Figures
import PooledChain.Proofs.Heap.Making
import PooledChain.Proofs.Heap.Silence

namespace PooledChain

open Scene (Sound)

/-- Whether the facades at the level of the recorder `k` are those that
write to its table, and lie under all that is above that level. -/
structure State.Timed (s : State) (k : LinkId) (table : TableId)
    (config : RecorderConfig) : Prop where
  recording : ∀ {a f}, s.core a = .facade f → f.level = k.place + 1 →
    f.behaviour = .recording table config
  alone : ∀ {a f t c}, s.core a = .facade f → f.behaviour = .recording t c →
    f.level = k.place + 1
  above : ∀ {a d}, s.Holds a d → k.place + 1 < (s.core a).level →
    k.place + 1 ≤ (s.core d).level

variable {p : Terms} {c c' : Scene} {s t u : State} {k : LinkId}
  {table : TableId} {config : RecorderConfig} {held loose : List LayerId}

-- =============================================================== the moves

theorem State.Timed.congr (h : s.Timed k table config)
    (hl : t.layers = s.layers) : t.Timed k table config := by
  have hcore := State.core_congr hl
  refine ⟨fun {a f} hf => ?_, fun {a f b c} hf => ?_, fun {a d} ha => ?_⟩
  · exact h.recording ((hcore a).symm.trans hf)
  · exact h.alone ((hcore a).symm.trans hf)
  · rw [hcore, hcore]
    exact h.above (by rw [State.Holds, ← hcore]; exact ha)

/-- A layer that is there later on keeps its level. -/
theorem State.Later.level (h : s.Later t) {a : LayerId}
    (ha : t.core a ≠ .released) (hlt : a < s.layers.length) :
    (t.core a).level = (s.core a).level := by
  have hcore := h.core hlt
  generalize s.core a = x, t.core a = y at ha hcore
  cases hcore with
  | released => exact absurd rfl ha
  | native _ => rfl
  | facade hlevel _ _ => exact hlevel

/-- What is under a facade is there. -/
theorem Scene.Sound.not_released_of_holds (h : c.Sound) {a d : LayerId}
    (hd : c.state.Holds a d) : c.state.core d ≠ .released :=
  h.owned.living (.inr (Scene.mem_owned.2 (.inl
    (State.mem_delegates.2 ⟨a, hd⟩))))

/-- Where nothing is asked for, the levels stay right. -/
theorem Move.timed (hm : Move p c c') (h : c.Sound)
    (hp : ∀ i, ¬ p.creates i) (ht : c.state.Timed k table config) :
    c'.state.Timed k table config := by
  have holder : ∀ {x d}, c.state.Holds x d → d < x := h.formed.older
  have hafter := hm.sound h
  -- a new layer takes the place of a facade of a cache
  have hnew : ∀ {a}, c.state.layers.length ≤ a → c'.state.core a ≠ .released →
      ∃ b f d k' g, c.state.core b = .facade f
        ∧ f.behaviour = .cached k' g false ∧ f.delegate = some d
        ∧ c'.state.core a
          = .facade ⟨f.level, some d, false, .cached k' g false⟩ := by
    intro a ha hlive
    obtain ⟨l, hl, hcore⟩ := State.exists_layer hlive
    cases hm.adds ha hl with
    | handle _ _ _ hcreates => exact absurd hcreates (hp _)
    | facade _ _ _ _ _ hof =>
        obtain ⟨i, -, hcreates⟩ := hof
        exact absurd hcreates (hp i)
    | @twin b l' f d k' g hb hf hbeh hd hl' =>
        refine ⟨b, f, d, k', g, ?_, hbeh, hd, ?_⟩
        · rw [State.core_eq_of_layer? hb, hf]
        · rw [← hcore, hl']
          rfl
  have hcached : ∀ {b f k' g x}, c.state.core b = .facade f →
      f.behaviour = .cached k' g x → f.level ≠ k.place + 1 := by
    intro b f k' g x hf hb hlevel
    cases hb.symm.trans (ht.recording hf hlevel)
  refine ⟨fun {a f'} hf' hlevel => ?_, fun {a f' t' c''} hf' hb' => ?_,
    fun {a d} hd hlevel => ?_⟩
  · rcases Nat.lt_or_ge a c.state.layers.length with hlt | hge
    · have hcore := hm.later.core hlt
      rw [hf'] at hcore
      generalize hx : c.state.core a = x at hcore
      cases hcore with
      | facade hl _ hb =>
          have hrec := ht.recording hx (hl.symm.trans hlevel)
          rcases hb with hb | ⟨k', g, x, hb, -⟩
          · exact hb.trans hrec
          · cases hb.symm.trans hrec
    · obtain ⟨b, f, d, k', g, hf, hb, -, hcore⟩ :=
        hnew hge (by rw [hf']; exact fun he => by cases he)
      rw [Core.facade.inj (hf'.symm.trans hcore)] at hlevel
      have hother := hcached hf hb
      exact absurd hlevel hother
  · rcases Nat.lt_or_ge a c.state.layers.length with hlt | hge
    · have hcore := hm.later.core hlt
      rw [hf'] at hcore
      generalize hx : c.state.core a = x at hcore
      cases hcore with
      | facade hl _ hb =>
          rcases hb with hb | ⟨k', g, x, -, hb⟩
          · exact hl.trans (ht.alone hx (hb.symm.trans hb'))
          · cases hb.symm.trans hb'
    · obtain ⟨b, f, d, k', g, -, -, -, hcore⟩ :=
        hnew hge (by rw [hf']; exact fun he => by cases he)
      obtain rfl := Core.facade.inj (hf'.symm.trans hcore)
      cases hb'
  · have hlive := hafter.not_released_of_holds hd
    rcases Nat.lt_or_ge a c.state.layers.length with hlt | hge
    · have hd' := hm.later.holds hlt hd
      rw [hm.later.level hlive (Nat.lt_trans (holder hd') hlt)]
      rw [hm.later.level hd.not_released hlt] at hlevel
      exact ht.above hd' hlevel
    · obtain ⟨b, f, e, k', g, hf, -, hdel, hcore⟩ :=
        hnew hge hd.not_released
      have hbe : c.state.Holds b e := .of_facade hf hdel
      have hlt := State.lt_of_core (h.not_released_of_holds hbe)
      rw [hcore] at hlevel
      rw [State.Holds, hcore] at hd
      obtain rfl := Option.some.inj hd
      rw [hm.later.level hlive hlt]
      refine ht.above hbe ?_
      rw [hf]
      exact hlevel

/-- The levels stay right while no statement comes up. -/
theorem Moves.timed (hm : Moves p c c') (h : c.Sound)
    (hp : ∀ i, ¬ p.creates i) (ht : c.state.Timed k table config) :
    c'.state.Timed k table config :=
  hm.invariant h ht fun hs hmove ht => hmove.timed hs hp ht

/-- Whether the levels are right, and nothing that callers have, or that is
on its way to one, is below the level of the recorder. -/
structure Scene.Timed (c : Scene) (k : LinkId) (table : TableId)
    (config : RecorderConfig) : Prop where
  state : c.state.Timed k table config
  upper : ∀ {a}, a ∈ c.held ∨ c.out = some a →
    k.place + 1 ≤ (c.state.core a).level

/-- Where nothing is asked for, nothing comes into the hands of callers. -/
theorem Move.hands (hm : Move p c c') (hp : ∀ i, ¬ p.creates i) {a : LayerId}
    (ha : a ∈ c'.held ∨ c'.out = some a) : a ∈ c.held ∨ c.out = some a := by
  cases hm with
  | make _ _ _ hcreates => exact absurd hcreates (hp _)
  | decorate _ _ _ _ _ _ hof _ =>
      obtain ⟨i, -, hcreates⟩ := hof
      exact absurd hcreates (hp i)
  | shift _ _ hfrom =>
      refine ha.imp_right fun hout => ?_
      exact (hfrom hout).resolve_right fun ⟨i, _, hcreates⟩ => hp i hcreates
  | give =>
      rcases ha with ha | ha
      · exact (List.mem_cons.1 ha).symm.imp_right fun he =>
          congrArg some he.symm
      · cases ha
  | letDown hsub => exact ha.imp_left fun ha => hsub ha
  | _ => exact ha

theorem Moves.timed_scene (hm : Moves p c c') (h : c.Sound)
    (hp : ∀ i, ¬ p.creates i) (ht : c.Timed k table config) :
    c'.Timed k table config := by
  refine hm.invariant (I := fun c => c.Timed k table config) h ht
    fun {c c'} hs hmove ht => ⟨hmove.timed hs hp ht.state, fun {a} ha => ?_⟩
  have hliving : ∀ {c : Scene}, c.Sound → a ∈ c.held ∨ c.out = some a →
      c.state.core a ≠ .released := fun hs ha => hs.owned.living
    (ha.imp_right fun hout => Scene.mem_owned.2 (.inr (.inr (.inl hout))))
  have hbefore := hmove.hands hp ha
  rw [hmove.later.level (hliving (hmove.sound hs) ha)
    (State.lt_of_core (hliving hs hbefore))]
  exact ht.upper hbefore

-- ============================================================= running SQL

/-- The log entry of a slow execution, if it is to be logged. -/
def RecorderConfig.slowWarning? (config : RecorderConfig) (pool : PoolId)
    (sql : String) : Option Warning :=
  if config.logSlow && decide (0 ≤ config.threshold) then
    some (.slowQuery pool (String.ofList
      (config.sanitization.apply sql.toList)) config.threshold)
  else none

/-- What a recorder records of an execution under a text, if it ran
between these two times. -/
def RecorderConfig.execution? (config : RecorderConfig) (sql : String)
    (before after : Nat) : Option Statistics.Execution :=
  let elapsed := min (after - before) Act.maxDuration
  if config.threshold < (elapsed : Int) then
    some ⟨sql, UInt64.ofNat elapsed, .ofMilliseconds before⟩
  else none

/-- The books with one more execution in a table. -/
def Books.enter (b : Books) (table : TableId) (config : RecorderConfig)
    (x : Statistics.Execution) : Books :=
  let statistics := b.statistics.record table x.sql x.elapsed x.started
  let pool := ((statistics.table? table).map (·.pool)).getD 0
  { b with
    statistics
    slow := b.slow ++ (config.slowWarning? pool x.sql).toList }

/-- The books with an execution, if there was one. -/
def Books.enter? (b : Books) (table : TableId) (config : RecorderConfig)
    (x : Option Statistics.Execution) : Books :=
  (x.map (b.enter table config)).getD b

namespace Act

/-- Recording an execution comes through, and enters it if its time
counts. -/
theorem exists_recorded (table : TableId) (config : RecorderConfig)
    (sql : String) (elapsed started : Nat) (s : State) :
    ∃ t, (recordExecution table config sql elapsed started).run s
        = (.ok ⟨⟩, t)
      ∧ t.books = if config.records elapsed then
          s.books.enter table config
            ⟨sql, UInt64.ofNat elapsed, .ofMilliseconds started⟩
        else s.books := by
  unfold recordExecution
  split
  · rw [run_bind, run_modify]
    simp only
    split
    · next hlog =>
      refine ⟨_, rfl, ?_⟩
      simp only [Books.enter, RecorderConfig.slowWarning?, if_pos hlog]
      rw [State.books, State.warn, List.filter_append]
      rfl
    · next hlog =>
      refine ⟨_, rfl, ?_⟩
      simp only [Books.enter, RecorderConfig.slowWarning?, if_neg hlog,
        Option.toList_none, List.append_nil]
      rfl
  · exact ⟨s, rfl, rfl⟩

/-- A facade of a recorder records what comes back through it, if it was
SQL that ran to its end. -/
theorem books_timed {below : Below} {id : LayerId} {op : StatementOp}
    (own : Option String) (table : TableId) (config : RecorderConfig)
    (hop : op.isExecution = true) {r : Except Error StatementReply}
    (hrun : (forward below id op).run s = (r, t))
    (hbooks : t.books = s.books) :
    ((timed below id own table config op).run s).2.books
      = if r.isOk then s.books.enter? table config
          ((recordKey? own op).bind (config.execution? ·
            s.native.driver.clock t.native.driver.clock))
        else s.books := by
  unfold timed
  rw [if_pos hop, run_bind, run_get]
  simp only
  rw [run_bind, hrun]
  cases r with
  | error e => exact hbooks
  | ok r =>
      simp only
      rw [run_bind, run_get]
      cases recordKey? own op with
      | none => exact hbooks
      | some sql =>
          obtain ⟨u, hu, hbooks'⟩ := exists_recorded table config sql
            (min (t.native.driver.clock - s.native.driver.clock) maxDuration)
            s.native.driver.clock t
          simp only
          rw [run_bind, hu]
          show u.books = _
          rw [hbooks', hbooks, RecorderConfig.records]
          simp only [RecorderConfig.execution?, Option.bind_some,
            decide_eq_true_eq]
          show (if _ then _ else _)
            = s.books.enter? table config (if _ then some _ else none)
          split <;> rfl

variable {id : LayerId} {op : StatementOp} {n : Native.StatementId}
  {own : Option String}

/-- A bare handle leaves nothing in the books. -/
theorem books_within_native {h : Option Native.StatementId}
    (hcore : s.core id = .native h) (depth : Nat) :
    ((within depth id op).run s).2.books = s.books := by
  rw [run_within_native hcore]
  exact silent_askNative id _ s

/-- What an open facade leaves in the books, it leaves while the operation
passes it. -/
theorem books_within_facade (hc : op ≠ .close) (hi : op ≠ .isClosed)
    {f : Facade} (hcore : s.core id = .facade f) (hopen : f.closed = false)
    {l : Layer} (hl : s.layer? id = some l) (depth : Nat) :
    ((within (depth + 1) id op).run s).2.books
      = ((invoke (within depth) id l.sql f.behaviour op).run s).2.books := by
  rw [run_within_facade hl hcore, askFacade_of_use hc hi, run_useFacade,
    hopen, if_neg Bool.false_ne_true]
  rcases (invoke (within depth) id l.sql f.behaviour op).run s with ⟨e | r, t⟩
  · exact silent_report id l.sql e t
  · rfl

/-- A facade that is not the recorder's passes the operation on. -/
theorem invoke_of_timed (ht : s.Timed k table config) {f : Facade}
    (hcore : s.core id = .facade f) (hw : f.behaviour.isWatched = false)
    (hrec : f.level ≠ k.place + 1) (below : Below) (sql : Option String) :
    invoke below id sql f.behaviour op = forward below id op := by
  cases hb : f.behaviour with
  | recording table' config' => exact absurd (ht.alone hcore hb) hrec
  | watched label answered =>
      rw [hb] at hw
      cases hw
  | plain | cached | tracked | counting => rfl

/-- SQL that is run on an open layer is recorded once, if the layer is not
below the recorder and it ran to its end, and not at all otherwise. -/
theorem books_execute (hop : op.isExecution = true) (hf : s.Formed)
    (hw : ∀ {a f}, s.core a = .facade f → f.behaviour.isWatched = false)
    (ht : s.Timed k table config)
    (hown : ∀ {a l}, s.layer? a = some l → s.Stands a n → l.sql = own)
    (hn : s.Stands id n) {depth : Nat} (hd : (s.core id).level ≤ depth) :
    ((within depth id op).run s).2.books
      = if k.place + 1 ≤ (s.core id).level
          ∧ ((Native.perform n op).run s.native).1.isOk then
          s.books.enter? table config ((recordKey? own op).bind
            (config.execution? · s.native.driver.clock
              ((Native.perform n op).run s.native).2.driver.clock))
        else s.books := by
  have hc : op ≠ .close := fun he => by
    rw [he] at hop
    cases hop
  have hi : op ≠ .isClosed := fun he => by
    rw [he] at hop
    cases hop
  induction hn generalizing depth with
  | @native id n hcore =>
      have hlow : ¬ (k.place + 1 ≤ (s.core id).level
          ∧ ((Native.perform n op).run s.native).1.isOk) := fun hle => by
        rw [hcore] at hle
        exact Nat.not_succ_le_zero _ hle.1
      rw [if_neg hlow]
      exact books_within_native hcore depth
  | @facade id d n hholds hdn ih =>
      obtain ⟨f, hcore, hdel⟩ := Core.exists_facade_of_delegate? hholds
      have hopen : f.closed = false := hf.closed_eq_false hcore hdel
      have hlow : (s.core d).level < (s.core id).level := hf.leveled hholds
      cases depth with
      | zero => exact absurd (Nat.lt_of_lt_of_le hlow hd) (Nat.not_lt_zero _)
      | succ depth =>
          have hdepth := Nat.le_of_lt_succ (Nat.lt_of_lt_of_le hlow hd)
          have hbelow := ih hown hdepth
          obtain ⟨hr, hnative⟩ := run_within_open hc hi hf hw hdn hdepth
          obtain ⟨l, hl, hlc⟩ := State.exists_layer
            (Core.ne_released_of_facade hcore)
          have hforward : (forward (within depth) id op).run s
              = (within depth d op).run s := by
            rw [run_forward, hholds]
          rw [books_within_facade hc hi hcore hopen hl]
          have hlevel : (s.core id).level = f.level := by
            rw [hcore]
            rfl
          rcases hw' : (within depth d op).run s with ⟨r, t⟩
          rw [hw'] at hr hnative hbelow hforward
          by_cases hrec : f.level = k.place + 1
          · -- the facade of the recorder
            have hbooks : t.books = s.books := by
              refine hbelow.trans (if_neg fun hle => ?_)
              rw [hlevel, hrec] at hlow
              exact absurd hle.1 (Nat.not_le_of_lt hlow)
            have hok : r.isOk
                = ((Native.perform n op).run s.native).1.isOk := by
              rw [show r = _ from hr, State.risen]
              rcases ((Native.perform n op).run s.native).1 with e | a <;> rfl
            have hsql : l.sql = own := hown hl (.facade hholds hdn)
            rw [ht.recording hcore hrec]
            show ((timed (within depth) id l.sql table config op).run
              s).2.books = _
            rw [books_timed l.sql table config hop hforward hbooks, hok, hsql,
              hnative]
            have hle : k.place + 1 ≤ (s.core id).level :=
              Nat.le_of_eq (hlevel.trans hrec).symm
            simp only [hle, true_and]
          · -- any other facade
            rw [invoke_of_timed ht hcore (hw hcore) hrec, hforward]
            have hle : k.place + 1 ≤ (s.core id).level
                ↔ k.place + 1 ≤ (s.core d).level := by
              refine ⟨fun hle => ht.above hholds ?_, fun hle => by omega⟩
              rw [hlevel] at hle ⊢
              omega
            simp only [hle]
            exact hbelow

end Act

-- ===================================================== making a statement

/-- A new layer is at the level of the recorder if it is one of its
facades, and at another one if not. -/
theorem State.Timed.addLayer (h : s.Timed k table config)
    (hf : s.Formed) {l : Layer}
    (hrecording : ∀ {f}, l.core = .facade f → f.level = k.place + 1 →
      f.behaviour = .recording table config)
    (halone : ∀ {f t c}, l.core = .facade f →
      f.behaviour = .recording t c → f.level = k.place + 1)
    (habove : ∀ {d}, l.core.delegate? = some d →
      k.place + 1 < l.core.level →
      d < s.layers.length ∧ k.place + 1 ≤ (s.core d).level) :
    (s.addLayer l).2.Timed k table config := by
  have hcore := State.core_addLayer (s := s) l
  have hold : ∀ {a}, a ≠ s.layers.length →
      (s.addLayer l).2.core a = s.core a := fun ha => by
    rw [hcore, if_neg ha]
  refine ⟨fun {a f} ha => ?_, fun {a f b c} ha => ?_, fun {a d} ha => ?_⟩
  · rw [hcore] at ha
    split at ha
    · exact hrecording ha
    · exact h.recording ha
  · rw [hcore] at ha
    split at ha
    · exact halone ha
    · exact h.alone ha
  · rw [State.Holds, hcore] at ha
    rw [hcore a]
    split at ha <;> intro hlevel
    · next he =>
      rw [if_pos he] at hlevel
      obtain ⟨hlt, hle⟩ := habove ha hlevel
      rw [hold (Nat.ne_of_lt hlt)]
      exact hle
    · next hne =>
      rw [if_neg hne] at hlevel
      have hlt : a < s.layers.length := State.lt_of_core fun he => by
        rw [he] at ha
        cases ha
      rw [hold (Nat.ne_of_lt (Nat.lt_trans (hf.older ha) hlt))]
      exact h.above ha hlevel

namespace Act

variable {next : Next} {self : LinkId} {op : ConnectionOp}
  {kind : StatementKind} {i : ConnectionId} {above below : List Link}
  {low : Nat}

/-- A recorder with a table makes facades of a recorder, and nothing else
does. -/
theorem exists_behaviour (link : Link) (self : LinkId)
    (kind : StatementKind) (sql : Option String) (upcoming : LayerId)
    (s : State) :
    ∃ b t, (behaviour? link self kind sql upcoming).run s = (.ok b, t)
      ∧ t.layers = s.layers
      ∧ (link.isRecorder = false → ∀ t c, b ≠ some (.recording t c))
      ∧ ∀ {config table}, link = .recorder config →
        s.recorders.get? self = some table →
        b = some (.recording table config) := by
  unfold behaviour?
  rw [run_bind, run_get]
  cases link with
  | recorder config =>
      simp only
      cases hk : s.recorders.get? self with
      | none =>
          exact ⟨_, _, rfl, rfl, fun he => (by cases he),
            fun _ ht => (by cases ht)⟩
      | some table =>
          refine ⟨_, _, rfl, rfl, fun he => (by cases he), ?_⟩
          rintro _ _ ⟨⟩ ⟨⟩
          rfl
  | cache config =>
      simp only
      cases s.caches.get? self with
      | none =>
          exact ⟨_, _, rfl, rfl, fun _ _ _ h => (by cases h),
            fun h => (by cases h)⟩
      | some store =>
          cases sql <;> exact ⟨_, _, rfl, rfl, fun _ _ _ h => (by cases h),
            fun h => (by cases h)⟩
  | leakTracker =>
      simp only
      cases s.trackers.get? self <;> exact ⟨_, _, rfl, rfl,
        fun _ _ _ h => (by cases h), fun h => (by cases h)⟩
  | decorator | counter | watcher | probe | bare | answering | prepending =>
      exact ⟨_, _, rfl, rfl, fun _ _ _ h => (by cases h),
        fun h => (by cases h)⟩

/-- A statement is decorated, or left as it is. -/
theorem exists_decoration (link : Link) (self : LinkId)
    (kind : StatementKind) (sql : Option String) (d : LayerId) (s : State) :
    ∃ b t, t.layers = s.layers
      ∧ (decorate link self kind sql d).run s
        = (match b with
          | none => (.ok d, t)
          | some b => (.ok t.layers.length,
              (t.addLayer (facadeOf self kind sql d b)).2))
      ∧ (link.isRecorder = false → ∀ t c, b ≠ some (.recording t c))
      ∧ ∀ {config table}, link = .recorder config →
        s.recorders.get? self = some table →
        b = some (.recording table config) := by
  obtain ⟨b, t, hrun, hlayers, hno, hb⟩ :=
    exists_behaviour link self kind sql s.layers.length s
  refine ⟨b, t, hlayers, ?_, hno, hb⟩
  unfold decorate
  rw [run_bind, run_get]
  simp only
  rw [run_bind, hrun]
  cases b <;> rfl

/-- Whether the levels stay right when something is asked of the links
below but to close, and what comes up is not below a level. -/
def Times (k : LinkId) (table : TableId) (config : RecorderConfig)
    (low : Nat) (next : Next) : Prop :=
  ∀ (s : State) (held loose : List LayerId) (op : ConnectionOp),
    Sound ⟨s, held, none, loose⟩ → op ≠ .close →
    s.Timed k table config → s.recorders.get? k = some table →
      ((next op).run s).2.Timed k table config
        ∧ ∀ {id}, outOf ((next op).run s).1 = some id →
          low ≤ (((next op).run s).2.core id).level

/-- What makes no statement brings none up. -/
theorem times_of_creates?_eq_none (hnext : AsksBelow .unasked self next)
    (h : Sound ⟨s, held, none, loose⟩) (hop : op ≠ .close)
    (hk : op.creates? = none) (ht : s.Timed k table config) :
    ((next op).run s).2.Timed k table config
      ∧ ∀ {id}, outOf ((next op).run s).1 = some id →
        low ≤ (((next op).run s).2.core id).level := by
  have hask := hnext s held loose op h (fun he => absurd he hop)
    fun he => by rw [hk] at he; cases he
  refine ⟨hask.moves.timed h (fun _ hno => hno) ht, fun hid => ?_⟩
  obtain ⟨kind, hkind⟩ := hask.creates hid
  rw [hk] at hkind
  cases hkind

/-- The handle of a new statement is below all recorders. -/
theorem times_askTerminal :
    Times k table config 0 (askTerminal i) := by
  intro s held loose op h hop ht _
  refine ⟨?_, fun _ => Nat.zero_le _⟩
  cases hk : op.creates? with
  | none =>
      have hnext : AsksBelow .unasked ⟨i, 0⟩ (askLinks i []) :=
        asked_askLinks i fun _ _ hl => absurd hl List.not_mem_nil
      exact (hnext s held loose op h (fun he => absurd he hop)
        fun he => by rw [hk] at he; cases he).moves.timed h
        (fun _ hno => hno) ht
  | some kind =>
      have hover : ∀ kind sql make,
          ((handleOver i kind sql make).run s).2.Timed k table config := by
        intro kind sql make
        unfold handleOver
        rw [run_bind, run_native]
        rcases make.run s.native with ⟨e | n, st⟩
        · exact ht.congr rfl
        · have hadd := ht.addLayer h.formed
            (l := ⟨sql, kind, some i, .native (some n)⟩)
            (fun he => by cases he) (fun he => by cases he)
            (fun he => by cases he)
          exact hadd.congr rfl
      rw [run_askTerminal hop (by rintro rfl; cases hk)]
      split
      · exact ht
      · split
        · unfold askPhysical
          rw [run_bind, run_get]
          cases op with
          | createStatement | prepareStatement | prepareCall =>
              exact hover _ _ _
          | _ => cases hk
        · exact ht

/-- A link that decorates, other than the recorder. -/
theorem times_intercept {link : Link} (hlink : link.isRecorder = false)
    (hplace : self.place < k.place ∧ low = 0
      ∨ k.place < self.place ∧ low = k.place + 1)
    (hnext : AsksBelow (.free false) self next)
    (h : Times k table config low next) :
    Times k table config low (intercept link self next) := by
  intro s held loose op hs hop ht hk
  obtain ⟨ht', hlow⟩ := h s held loose op hs hop ht hk
  rcases intercept_cases link self next hop with ⟨kind, hkind, hdec⟩ | hsame
  · rcases run_intercept hkind hdec self next s
      with ⟨-, e, hrun⟩ | ⟨d, a, u, t, hbelow, hdecorate, hrun⟩
    · rw [hrun]
      exact ⟨ht', fun he => by cases he⟩
    · have hasked := hnext s held loose op hs (fun _ _ => trivial)
        fun _ => trivial
      rw [hbelow] at ht' hlow hasked
      rw [hrun]
      obtain ⟨b, v, hv, hrun', hno, -⟩ :=
        exists_decoration link self kind op.sql? d u
      have hd : low ≤ (u.core d).level := hlow rfl
      have hsound := hasked.moves.sound hs
      have hdlt : d < u.layers.length := State.lt_of_core
        (hsound.owned.living (.inr (Scene.mem_owned.2 (.inr (.inr
          (.inl rfl))))))
      cases b with
      | none =>
          rw [hdecorate] at hrun'
          cases hrun'
          refine ⟨ht'.congr hv, fun he => ?_⟩
          cases he
          rw [State.core_congr hv]
          exact hd
      | some b =>
          rw [hdecorate] at hrun'
          cases hrun'
          have hbehaviour : ∀ t c, b ≠ .recording t c := fun t c he =>
            hno hlink t c (congrArg some he)
          refine ⟨(ht'.congr hv).addLayer (hsound.formed.congr hv)
            (fun {f} hf hlevel => ?_) (fun {f t c} hf hb => ?_)
            (fun {e} he hlevel => ?_), fun he => ?_⟩
          · cases hf
            have hne : self.place + 1 = k.place + 1 := hlevel
            omega
          · cases hf
            exact absurd hb (hbehaviour t c)
          · obtain rfl := Option.some.inj he
            have hlt : k.place + 1 < self.place + 1 := hlevel
            rw [State.core_congr hv, hv]
            exact ⟨hdlt, by omega⟩
          · cases he
            rw [State.core_addLayer_new]
            show low ≤ self.place + 1
            omega
  · rw [hsame]
    exact ⟨ht', hlow⟩

/-- The recorder puts its facade around whatever comes up. -/
theorem times_recorder (hnext : AsksBelow (.free false) k next)
    (hquiet : AsksBelow .unasked k next) (hsilent : ∀ op, Silent (next op))
    (h : Times k table config 0 next) :
    Times k table config (k.place + 1)
      (intercept (.recorder config) k next) := by
  intro s held loose op hs hop ht hk
  cases hkind : op.creates? with
  | none =>
      rw [intercept_of_passes hop fun {kind} he => by
        rw [hkind] at he
        cases he]
      exact times_of_creates?_eq_none hquiet hs hop hkind ht
  | some kind =>
      obtain ⟨ht', -⟩ := h s held loose op hs hop ht hk
      have hdec : (Link.recorder config).decorates.contains kind = true := by
        cases kind <;> rfl
      have hbooks := hsilent op s
      have hasked := hnext s held loose op hs (fun _ _ => trivial)
        fun _ => trivial
      rcases run_intercept hkind hdec k next s
        with ⟨-, e, hrun⟩ | ⟨d, a, u, t, hbelow, hdecorate, hrun⟩
      · rw [hrun]
        exact ⟨ht', fun he => by cases he⟩
      · rw [hbelow] at ht' hasked hbooks
        rw [hrun]
        have htable : u.recorders.get? k = some table := by
          rw [show u.recorders = s.recorders from
            congrArg Books.recorders hbooks]
          exact hk
        obtain ⟨b, v, hv, hrun', -, hb⟩ :=
          exists_decoration (.recorder config) k kind op.sql? d u
        obtain rfl := hb rfl htable
        rw [hdecorate] at hrun'
        cases hrun'
        refine ⟨(ht'.congr hv).addLayer
          ((hasked.moves.sound hs).formed.congr hv)
          (fun {f} hf _ => ?_) (fun {f t c} hf _ => ?_)
          (fun {e} _ hlevel => absurd hlevel (Nat.lt_irrefl _)),
          fun he => ?_⟩
        · cases hf
          rfl
        · cases hf
          rfl
        · cases he
          rw [State.core_addLayer_new]
          exact Nat.le_refl _

/-- A cache hands out what is of its own level. -/
theorem times_throughCache (cache : CacheConfig)
    (hplace : self.place < k.place ∧ low = 0
      ∨ k.place < self.place ∧ low = k.place + 1)
    (hnext : AsksBelow (.free false) self next)
    (hquiet : AsksBelow .unasked self next) (hsilent : ∀ op, Silent (next op))
    (h : Times k table config low next) :
    Times k table config low (throughCache cache self next) := by
  intro s held loose op hs hop ht hk
  have hpass : ∀ {t : State}, Sound ⟨t, held, none, loose⟩ →
      t.Timed k table config → t.recorders.get? k = some table →
      ((intercept (.cache cache) self next op).run t).2.Timed k table config
        ∧ ∀ {id}, outOf ((intercept (.cache cache) self next op).run t).1
            = some id →
          low ≤ (((intercept (.cache cache) self next op).run t).2.core
            id).level := fun hs ht hk =>
    times_intercept rfl hplace hnext h _ held loose op hs hop ht hk
  unfold throughCache
  split
  · next kind sql _ _ =>
    split
    · have hm := (moves_reuse hnext trivial kind sql hs).1
      have hbooks : ((reuse? self next kind sql).run s).2.books = s.books :=
        silent_reuse? kind sql (hsilent .isClosed) s
      have hclosed := moves_isClosed hquiet hs
      have hruns := run_reuse? self next kind sql s
      rw [run_bind]
      rcases hr : (reuse? self next kind sql).run s with ⟨e | found, t⟩ <;>
        rw [hr] at hm hbooks hruns
      · refine ⟨?_, fun he => by cases he⟩
        cases hruns with
        | refused hask _ =>
            rw [hask] at hclosed
            exact hclosed.timed hs (fun _ hno => hno) ht
      · have htable : t.recorders.get? k = some table := by
          rw [show t.recorders = s.recorders from
            congrArg Books.recorders hbooks]
          exact hk
        cases hruns with
        | off _ => exact hpass hs ht hk
        | missing hask _ =>
            rw [hask] at hclosed
            exact hpass (hclosed.sound hs)
              (hclosed.timed hs (fun _ hno => hno) ht) htable
        | stale hask hcache hfind _ _ =>
            rw [hask] at hclosed
            have hall := hclosed.trans
              (moves_evict (p := .unasked) (hclosed.sound hs) hcache hfind)
            exact hpass (hm.sound hs) (hall.timed hs (fun _ hno => hno) ht)
              htable
        | @found t' store id hask hcache hfind _ _ =>
            rw [hask] at hclosed
            refine ⟨(hclosed.timed hs (fun _ hno => hno) ht).congr rfl,
              fun he => ?_⟩
            cases he
            obtain ⟨l, d, hl, -, hcore⟩ :=
              exists_entry (hclosed.sound hs) hcache hfind
            show low ≤ (t'.core id).level
            rw [State.core_eq_of_layer? hl, hcore]
            show low ≤ self.place + 1
            omega
    · exact hpass hs ht hk
  · exact hpass hs ht hk

/-- Any link but a recorder, or one that answers in place of those
below. -/
theorem times_askLink {link : Link} (hlink : link.isRecorder = false)
    (hfaith : link.isFaithful = true)
    (hplace : self.place < k.place ∧ low = 0
      ∨ k.place < self.place ∧ low = k.place + 1)
    (hnext : AsksBelow (.free false) self next)
    (hquiet : AsksBelow .unasked self next) (hsilent : ∀ op, Silent (next op))
    (h : Times k table config low next) :
    Times k table config low (askLink link self next) := by
  cases link with
  | bare => exact h
  | probe label =>
      intro s held loose op hs hop ht hk
      have hm : Moves (.free false) ⟨s, held, none, loose⟩
          ⟨s.note label (.operation op.name op.sql?), held, none, loose⟩ :=
        .aside (.of_alike ⟨rfl, rfl, rfl, rfl, fun h => h⟩)
      exact h (s.note label (.operation op.name op.sql?)) held loose op
        (hm.sound hs) hop (ht.congr rfl) hk
  | cache cache =>
      exact times_throughCache cache hplace hnext hquiet hsilent h
  | decorator | leakTracker | counter =>
      exact times_intercept rfl hplace hnext h
  | recorder => cases hlink
  | prepending | answering | watcher => cases hfaith

/-- Every statement that comes up a chain with one recorder is timed. -/
theorem times_askLinks
    (hall : ∀ link ∈ above ++ below,
      link.isFaithful = true ∧ link.isRecorder = false) :
    Times ⟨i, below.length⟩ table config (below.length + 1)
      (askLinks i (above ++ .recorder config :: below)) := by
  have hasks : ∀ (p : Terms) (links : List Link), ¬ p.faithful →
      AsksBelow p ⟨i, links.length⟩ (askLinks i links) :=
    fun p links hp => asked_askLinks i fun he => absurd he hp
  have hfree : ¬ (Terms.free false).faithful := id
  have hnone : ¬ Terms.unasked.faithful := id
  have hlower : ∀ links : List Link, links.length ≤ below.length →
      (∀ link ∈ links, link.isFaithful = true ∧ link.isRecorder = false) →
      Times ⟨i, below.length⟩ table config 0 (askLinks i links) := by
    intro links
    induction links with
    | nil => exact fun _ _ => times_askTerminal
    | cons link rest ih =>
        intro hle hlinks
        obtain ⟨hfaith, hlink⟩ := hlinks link List.mem_cons_self
        exact times_askLink hlink hfaith (.inl ⟨hle, rfl⟩)
          (hasks _ rest hfree) (hasks _ rest hnone) (silent_askLinks i rest)
          (ih (Nat.le_of_succ_le hle) fun l hl =>
            hlinks l (List.mem_cons_of_mem _ hl))
  induction above with
  | nil =>
      exact times_recorder (hasks _ below hfree) (hasks _ below hnone)
        (silent_askLinks i below) (hlower below (Nat.le_refl _) hall)
  | cons link rest ih =>
      have hrest := ih fun l hl => hall l (List.mem_cons_of_mem _ hl)
      obtain ⟨hfaith, hlink⟩ := hall link List.mem_cons_self
      have hlt : below.length < (rest ++ .recorder config :: below).length := by
        rw [List.length_append, List.length_cons]
        omega
      exact times_askLink hlink hfaith (.inr ⟨hlt, rfl⟩) (hasks _ _ hfree)
        (hasks _ _ hnone) (silent_askLinks i _) hrest

end Act

end PooledChain
