/-
A recorder counts the slow executions that succeeded.

What a table should hold is told by those who use the handles: each
execution that did not fail and took longer than the threshold, with the
text that it ran under, the time that it took, and when it started
(`Session.recorded?`). Nothing else that happens in a session counts.

The recorder sees each of them once. Handles get their facade of the
recorder when they are made (`Session.timed_step_of_creates`), whatever
caches and trackers are above and below it, and an execution passes it on
its way back (`Session.books_execution`). All else is silent, or is an event that
is not about the pool (`Session.kept_act`). So the table of the pool is
the one filled with what counts, in the order of the steps
(`slow_executions_are_counted`).

Until the connection is checked out for the first time there is no table,
and no handle either (`Session.Idle`).
-/
import PooledChain.Proofs.ClosedStatements
import PooledChain.Proofs.Heap.Idle
import PooledChain.Proofs.Heap.Shelter
import PooledChain.Proofs.Heap.Tables
import PooledChain.Proofs.Heap.Timed
import PooledChain.Proofs.Requests
import PooledChain.Proofs.Returns

namespace PooledChain

open Statistics (Execution Registry Table TableId)

/-- The text that an execution counts under: the SQL that the handle is
of, else the SQL that is passed. -/
def StatementOp.key (op : StatementOp) (own : Option String) : String :=
  (own.or op.sql?).getD "batch"

namespace Session

-- ========================================================== what counts

/-- The time, as the driver's statements take it. -/
def clock (s : Session) : Nat := s.state.native.driver.clock

/-- What the last step logged of slow executions. -/
def slow (s : Session) : List Warning := s.state.warnings.filter Warning.isSlow

/-- The execution that a step is, and the handle that it is on. -/
def executes? (s : Session) : Step → Option (LayerId × StatementOp)
  | .onStatement name use =>
    match use.asked?, s.statements.lookup name with
    | some op, some id => if op.isExecution then some (id, op) else none
    | _, _ => none
  | _ => none

/-- What counts of a step: an execution that did not fail and took longer
than the threshold. -/
def recorded? (config : RecorderConfig) (s : Session) (step : Step) :
    Option Execution :=
  match s.executes? step with
  | none => none
  | some (id, op) =>
    if (s.step step).1.isFailure then none
    else config.execution? (op.key ((s.state.layer? id).bind (·.sql)))
      s.clock (s.step step).2.clock

/-- What counts of a run. -/
def recordings (config : RecorderConfig) : Session → List Step → List Execution
  | _, [] => []
  | s, step :: rest =>
    (s.recorded? config step).toList ++ recordings config (s.step step).2 rest

/-- What a step logs of slow executions: what it recorded, if that is to be
logged. -/
def Logs (config : RecorderConfig) (p : PoolId) (s : Session) (step : Step) :
    Prop :=
  (s.step step).2.slow
    = ((s.recorded? config step).bind (config.slowWarning? p ·.sql)).toList

/-- Whether a step is one of callers and pools that makes no connection,
checks none out of another pool, and does not close this one. -/
def Serves (p : PoolId) (s : Session) : Step → Prop
  | .newConnection _ _ => False
  | .onStatement _ use => use.isOrdinary = true
  | .onPool pool _ (.close _) => s.pools.lookup pool ≠ some p
  | .onConnection pool _ _ .checkOut =>
    ∀ q, s.pools.lookup pool = some q → q = p
  | .onConnection pool _ _ .poolClosed => s.pools.lookup pool ≠ some p
  | .onConnection _ _ _ (.attachLink _ _ _) => False
  | _ => True

end Session

namespace Session

variable {s : Session} {step : Step} {i : ConnectionId}

-- ==================================================== handles are timed

variable {above below : List Link} {config : RecorderConfig} {table : TableId}
  {k : LinkId}

/-- A session with one connection, whose chain has one recorder. -/
structure Alone (above : List Link) (config : RecorderConfig)
    (below : List Link) (s : Session) : Prop where
  others : ∀ link ∈ above ++ below,
    link.isFaithful = true ∧ link.isRecorder = false
  sound : s.Sound
  loyal : s.Loyal
  known : 0 < s.state.connections.length
  only : ∀ {c x}, s.state.connection? c = some x →
    c = 0 ∧ x.links = above ++ .recorder config :: below

/-- A step that asks for no statement leaves all handles timed. -/
theorem timed_step_of_not_creates (h : s.Sound)
    (hord : step.isOrdinary = true) (hno : ∀ i, ¬ s.Creates step i)
    (ht : s.scene.Timed k table config) :
    (s.step step).2.scene.Timed k table config :=
  (moves_step hord h.scene (suits_serving s step _)).1.timed_scene h.scene
    hno ht

/-- In a step that asks for one, it gets its facade of the recorder. -/
theorem timed_step_of_creates (ha : s.Alone above config below)
    (hcreates : s.Creates step i)
    (hk : s.state.recorders.get? ⟨0, below.length⟩ = some table)
    (ht : s.scene.Timed ⟨0, below.length⟩ table config) :
    (s.step step).2.scene.Timed ⟨0, below.length⟩ table config := by
  have hord : step.isOrdinary = true := by
    cases step with
    | onStatement => exact hcreates.elim
    | _ => rfl
  have hafter := sound_act ha.sound hord
  have hrelease : Moves .unasked (s.quiet.act step).2.scene
      (s.step step).2.scene := (State.moves_release hafter).1
  refine hrelease.timed_scene hafter (fun _ hno => hno) ?_
  have hquiet : Scene.Sound ⟨s.quiet.state, s.held, none, []⟩ :=
    sound_quiet ha.sound.scene
  have htquiet : s.quiet.state.Timed ⟨0, below.length⟩ table config :=
    ht.state.congr rfl
  cases step with
  | onConnection pool physical name cstep =>
      obtain ⟨hop, hname, -⟩ := hcreates
      cases hasked : cstep.asked? with
      | none =>
          rw [hasked] at hop
          cases hop
      | some op =>
          have hne : op ≠ .close := by
            rintro rfl
            rw [hasked] at hop
            cases hop
          cases htarget : s.target? pool physical name with
          | none =>
              obtain ⟨what, hact⟩ := act_of_target?_none
                (s := s.quiet) htarget cstep
              rw [hact]
              exact ⟨htquiet, fun ha => ht.upper ha⟩
          | some found =>
              obtain ⟨q, y, i', x⟩ := found
              obtain ⟨rfl, hlinks⟩ := ha.only (lookup_of_target? htarget).2
              have hasks : Act.AsksBelow (.free false) ⟨0, x.links.length⟩
                  (Act.askLinks 0 x.links) := Act.asked_askLinks 0 False.elim
              have hm := (hasks s.quiet.state s.held [] op hquiet
                (fun _ _ => trivial) fun _ => trivial).moves
              obtain ⟨htimed, hlow⟩ := Act.times_askLinks ha.others
                s.quiet.state s.held [] op hquiet hne htquiet hk
              rw [← hlinks] at htimed hlow
              rcases hr : (Act.askLinks 0 x.links op).run s.quiet.state
                with ⟨r, t⟩
              rw [hr] at hm htimed hlow
              have hmid := hm.sound hquiet
              have hasked' : Moves .unasked _ _ :=
                moves_asked htarget hasked hr hmid
              refine hasked'.timed_scene hmid (fun _ hno => hno)
                ⟨htimed, fun {a} ha => ?_⟩
              rcases ha with hheld | hout
              · have hlt := State.lt_of_core
                  (hquiet.owned.living (.inl hheld))
                have hlevel := hm.later.level
                  (hmid.owned.living (.inl hheld)) hlt
                exact hlevel ▸ ht.upper (.inl hheld)
              · exact hlow hout
  | _ => exact hcreates.elim

end Session

-- ============================================================ executions

/-- Whether it is what the driver answers to an execution of this kind. -/
def StatementOp.Fits : StatementOp → Native.Answer → Prop
  | execute _, .bool _ => True
  | executeQuery _, .rows _ => True
  | executeUpdate _, .count _ => True
  | executeBatch, .counts _ => True
  | _, _ => False

/-- What the driver answered to an execution it answered for its text. -/
theorem Native.Statement.exists_text {st : Native.Statement}
    {d : Native.Driver} {given : Option String}
    {answer : String → Native.Answer} {a : Native.Answer}
    (h : (st.run d given answer).1 = .ok a) :
    ∃ text, st.textFor given = some text ∧ a = answer text := by
  rw [run] at h
  split at h
  · cases h
  · split at h
    · cases h
    · next text htext =>
      split at h
      · cases h
        exact ⟨text, htext, rfl⟩
      · cases h

/-- SQL that ran to its end had a text, and is answered as it should
be. -/
theorem Native.fits_perform {n : Native.StatementId} {s : Native.Store}
    {st : Native.Statement} {op : StatementOp} {a : Native.Answer}
    (hst : s.statement? n = some st) (hop : op.isExecution = true)
    (h : ((Native.perform n op).run s).1 = .ok a) :
    op.Fits a ∧ Act.recordKey? st.sql op = some (op.key st.sql) := by
  have hkey : ∀ {given : Option String} {text : String},
      st.textFor given = some text → op.sql? = given →
      Act.recordKey? st.sql op = some (op.key st.sql) := by
    rintro given text htext rfl
    rw [Statement.textFor] at htext
    rw [Act.recordKey?, StatementOp.key]
    cases hsql : st.sql with
    | some own => rfl
    | none =>
        rw [hsql, Option.or_none] at htext
        rw [htext]
        rfl
  rw [run_perform hst] at h
  split at h
  · cases h
  · cases op with
    | execute given | executeQuery given | executeUpdate given =>
        obtain ⟨text, htext, rfl⟩ := Statement.exists_text h
        exact ⟨trivial, hkey htext rfl⟩
    | executeBatch =>
        refine ⟨?_, ?_⟩
        · simp only [Statement.perform] at h
          split at h
          · cases h
          · split at h <;> cases h
            exact trivial
        · rw [Act.recordKey?, StatementOp.key]
          cases st.sql <;> rfl
    | _ => cases hop

namespace Session

variable {s : Session} {step : Step} {name : String} {id : LayerId}
  {use : StatementStep} {op : StatementOp}

/-- The caller is not told of a failure. -/
theorem isFailure_reply (huse : use.asked? = some op) {a : Native.Answer}
    (hfits : op.Fits a) (t : State) :
    (use.reply id (t.rise id (.ofNative a))).isFailure = false := by
  have hrise : ∀ r, t.rise id r = r ∨ t.rise id r = Act.stamp id r := by
    intro r
    rw [State.rise]
    split
    · exact .inr rfl
    · exact .inl rfl
  cases use with
  | call op' =>
      cases huse
      rcases hrise (.ofNative a) with he | he <;> rw [he] <;>
        cases op <;> cases a <;> first | rfl | cases hfits
  | dispatch op' =>
      cases huse
      rcases hrise (.ofNative a) with he | he <;> rw [he] <;>
        cases a <;> rfl
  | _ => cases huse

/-- An execution is a step on a statement that has a name. -/
theorem exists_of_executes? (h : s.executes? step = some (id, op)) :
    ∃ name use, step = .onStatement name use ∧ use.asked? = some op
      ∧ s.statements.lookup name = some id ∧ op.isExecution = true := by
  cases step with
  | onStatement name use =>
      rw [executes?] at h
      split at h
      · next huse hid =>
        split at h
        · next hop =>
          cases h
          exact ⟨name, use, rfl, huse, hid, hop⟩
        · cases h
      · cases h
  | _ => cases h

variable {above below : List Link} {config : RecorderConfig}
  {table : TableId} {k : LinkId}

/-- On an open handle, an execution is the driver's. It is entered if the
driver succeeds, and only then does the caller hear of no failure. -/
theorem step_execution_open (ha : s.Alone above config below)
    (ht : s.scene.Timed k table config) (huse : use.asked? = some op)
    (hop : op.isExecution = true)
    (hid : s.statements.lookup name = some id) {n : Native.StatementId}
    (hn : s.state.Stands id n) {st : Native.Statement}
    (hst : s.state.native.statement? n = some st)
    {r : Except DriverError Native.Answer} {native : Native.Store}
    (hr : (Native.perform n op).run s.state.native = (r, native)) :
    (s.step (.onStatement name use)).1.isFailure = !r.isOk
      ∧ (s.step (.onStatement name use)).2.state.native = native
      ∧ (s.step (.onStatement name use)).2.state.books
        = if r.isOk then s.quiet.state.books.enter? table config
            ((Act.recordKey? st.sql op).bind
              (config.execution? · s.clock native.driver.clock))
          else s.quiet.state.books := by
  obtain ⟨hc, hi⟩ : op ≠ .close ∧ op ≠ .isClosed := by
    constructor <;> rintro rfl <;> cases hop
  have hformed : s.quiet.state.Formed := (sound_quiet ha.sound.scene).formed
  have hw : ∀ {a f}, s.quiet.state.core a = .facade f →
      f.behaviour.isWatched = false := fun hf => ha.loyal.state.unwatched hf
  have hnquiet : s.quiet.state.Stands id n := hn.congr fun _ _ => rfl
  -- what stands on the statement is of its SQL
  have hown : ∀ {a l}, s.quiet.state.layer? a = some l →
      s.quiet.state.Stands a n → l.sql = st.sql := fun hl hn' => by
    obtain ⟨st', hst', -, hsql, -⟩ := ha.loyal.exists_statement ha.sound hl
      (hn'.congr fun _ _ => rfl)
    obtain rfl := Option.some.inj (hst.symm.trans hst')
    exact hsql.symm
  have hheld := held_of_lookup hid
  have hlevel : k.place + 1 ≤ (s.quiet.state.core id).level :=
    ht.upper (.inl hheld)
  have htquiet : s.quiet.state.Timed k table config := ht.state.congr rfl
  obtain ⟨hreply, hnative⟩ := Act.run_dispatch_open hc hi hformed hw hnquiet
  have hbooks := Act.books_execute hop hformed hw htquiet hown hnquiet
    (Nat.le_refl (s.quiet.state.core id).level)
  have hact := act_asked huse (s := s.quiet) hid
  have hstep := step_of_dispatch ha.sound hc hheld hact
  have hrquiet : (Native.perform n op).run s.quiet.state.native
      = (r, native) := hr
  rw [hrquiet] at hreply hnative hbooks
  rcases hrun : (Act.dispatch id op).run s.quiet.state with ⟨r', t⟩
  have hwithin : (Act.within (s.quiet.state.core id).level id op).run
      s.quiet.state = (r', t) := hrun
  rw [hact, answer, perform, hrun] at hstep
  rw [hrun] at hreply hnative
  rw [hwithin] at hbooks
  rw [hstep]
  refine ⟨?_, hnative, ?_⟩
  · have hreply : r' = s.quiet.state.risen id r := hreply
    rw [hreply, State.risen]
    cases r with
    | error e => rfl
    | ok a =>
        obtain ⟨hfits, -⟩ := Native.fits_perform hst hop
          (congrArg Prod.fst hr)
        exact isFailure_reply huse hfits s.quiet.state
  · show t.books = _
    rw [hbooks]
    simp only [hlevel, true_and]
    rfl

/-- An execution is entered as its caller would tell of it. -/
theorem books_execution (ha : s.Alone above config below)
    (ht : s.scene.Timed k table config)
    (hexec : s.executes? step = some (id, op)) :
    (s.step step).2.state.books
      = s.quiet.state.books.enter? table config (s.recorded? config step) := by
  have hrecorded : s.recorded? config step
      = if (s.step step).1.isFailure then none
        else config.execution? (op.key ((s.state.layer? id).bind (·.sql)))
          s.clock (s.step step).2.clock := by
    rw [recorded?, hexec]
  obtain ⟨name, use, rfl, huse, hid, hop⟩ := exists_of_executes? hexec
  rw [hrecorded]
  by_cases hdead : s.state.Dead id
  · have huses : op.isUse = true := by
      cases op <;> first | rfl | cases hop
    rw [step_use_dead ha.sound ha.loyal huse huses hid hdead]
    rfl
  · obtain ⟨n, hn⟩ := not_forall_not.1 hdead
    obtain ⟨l, hl, -⟩ := State.exists_layer hn.not_released
    obtain ⟨st, hst, -, hsql, -⟩ :=
      ha.loyal.exists_statement ha.sound hl hn
    rcases hr : (Native.perform n op).run s.state.native with ⟨r, native⟩
    obtain ⟨hfailed, hnative, hbooks⟩ :=
      step_execution_open ha ht huse hop hid hn hst hr
    rw [hbooks, hfailed, clock, clock, hnative]
    cases r with
    | error e => rfl
    | ok a =>
        obtain ⟨-, hkey⟩ := Native.fits_perform hst hop (congrArg Prod.fst hr)
        rw [hkey, hl, hsql]
        rfl

-- ============================================================ other steps

variable {p : PoolId} {place : Nat}

/-- What goes through an act alone. -/
theorem kept_answer {α : Type} {act : Act α} (h : Act.Keeps p k act)
    (reply : α → Reply) :
    s.state.books.Kept p k (s.answer act reply).2.state.books := by
  rw [state_answer]
  exact h s.state

/-- A step on a statement that executes nothing passes the table by. -/
theorem kept_onStatement (hord : use.isOrdinary = true)
    (hexec : ∀ op, use.asked? = some op → op.isExecution = false)
    (id : LayerId) :
    s.state.books.Kept p k (s.onStatement id use).2.state.books := by
  cases use with
  | call op | dispatch op =>
      exact kept_answer (Act.silent_dispatch id (hexec op rfl)).keeps _
  | info => rw [onStatement]; split <;> exact .of_eq rfl
  | wrap | retire | forward => cases hord

/-- A step on a pool passes the table by, unless it closes the table's
pool. -/
theorem kept_onPool {pool : PoolId} {x : PhysicalId} {pstep : PoolStep}
    (hclose : ∀ names, pstep = .close names → pool ≠ p) :
    s.state.books.Kept p k (s.onPool pool x pstep).2.state.books := by
  cases pstep with
  | close names =>
      exact kept_answer (Act.keeps_closePool (hclose names rfl) _) _
  | discard => exact kept_answer (Act.silent_discardPhysical x).keeps _
  | info => rw [onPool]; split <;> exact .of_eq rfl

/-- A step on a connection passes the table by, unless it is a checkout,
tells a link of an attachment or says that the pool has closed. -/
theorem kept_onConnection {q : PoolId} {y : PhysicalId} {c : ConnectionId}
    {x : Connection} {cstep : ConnectionStep}
    (hout : cstep ≠ .checkOut) (hclosed : cstep = .poolClosed → q ≠ p)
    (hattach : ∀ choice withPool withPhysical,
      cstep ≠ .attachLink choice withPool withPhysical) :
    s.state.books.Kept p k (s.onConnection q y c x cstep).2.state.books := by
  have hasks : ∀ op, cstep.asked? = some op →
      s.state.books.Kept p k (s.onConnection q y c x cstep).2.state.books := by
    intro op hop
    rw [(asks_onConnection (q := q) (y := y) (x := x) hop).state]
    exact .of_eq (Act.silent_invokeOp c op s.state)
  cases cstep with
  | checkOut => exact absurd rfl hout
  | checkIn => exact kept_answer (Act.silent_tell c rfl).keeps _
  | disconnect withPool finalizing =>
      exact kept_answer (Act.silent_tell c rfl).keeps _
  | discard => exact kept_answer (Act.silent_discardConnection c q y).keeps _
  | poolStarted => exact kept_answer (Act.silent_tell c rfl).keeps _
  | poolClosed => exact kept_answer (Act.keeps_tell (hclosed rfl) c) _
  | attachLink => exact absurd rfl (hattach _ _ _)
  | call op | create op | invoke op | reshape op => exact hasks op rfl
  | nativeNumber => exact hasks _ rfl
  | forceClose sql =>
      rw [onConnection]
      split
      · exact .of_eq rfl
      · exact kept_answer (Act.silent_forceClose _ sql).keeps _
  | describe => exact .of_eq rfl

/-- A step that neither checks the connection out, nor runs SQL, nor drops
the connection, passes by the table of the pool and the recorder. -/
theorem kept_act (hserves : s.Serves p step)
    (hexec : s.executes? step = none)
    (hturn : ∀ loan, s.turn? 0 step ≠ some (.lent loan))
    (hdrop : ¬ s.Drops step 0)
    (honly : ∀ {c x}, s.state.connection? c = some x → c = 0) :
    s.state.books.Kept p ⟨0, place⟩ (s.act step).2.state.books := by
  cases step with
  | instruct | preparedSql | addRule | clearRules | newPhysical
  | dropStatement | tablePools => exact .of_eq rfl
  | newPool name =>
      exact .of_statistics (r := s.state.statistics.newPool.2) rfl rfl rfl
  | newConnection => exact hserves.elim
  | dropConnection name =>
      rw [act, dropConnection]
      split
      · exact .of_eq rfl
      · next c hc =>
        have hne : (0 : ConnectionId) ≠ c := fun he => hdrop (he ▸ hc)
        refine ⟨rfl, rfl, rfl, fun {table} ht _ => ?_, rfl⟩
        show (s.state.recorders.filter _).get? _ = some table
        rw [Keyed.get?_filter, if_pos (bne_iff_ne.2 hne)]
        exact ht
  | sameStatement | nameStatement =>
      rw [act]
      split <;> exact .of_eq rfl
  | onStatement name use =>
      rw [act]
      split
      · next id hid =>
        refine kept_onStatement hserves (fun op hop => ?_) id
        rw [executes?, hop, hid] at hexec
        simp only at hexec
        split at hexec
        · cases hexec
        · next hno => exact Bool.eq_false_iff.2 hno
      · exact .of_eq rfl
  | onPool pool physical pstep =>
      rw [act]
      split
      · exact .of_eq rfl
      · exact .of_eq rfl
      · next q x hq _ =>
        refine kept_onPool fun names he hqp => ?_
        subst he hqp
        exact hserves hq
  | onConnection pool physical name cstep =>
      cases htarget : s.target? pool physical name with
      | none =>
          obtain ⟨what, hact⟩ := act_of_target?_none htarget cstep
          rw [hact]
          exact .of_eq rfl
      | some found =>
          obtain ⟨q, y, c, x⟩ := found
          have hpool := pool_of_target? htarget
          obtain rfl := honly (lookup_of_target? htarget).2
          rw [act_of_target? htarget]
          refine kept_onConnection (fun he => ?_) (fun he hqp => ?_)
            fun _ _ _ he => ?_
          · subst he
            refine hturn (some ⟨some q, y⟩) ?_
            rw [turn?, htarget]
            rfl
          · subst he hqp
            exact hserves hpool
          · subst he
            exact hserves

-- =============================================================== one step

/-- A session in which what counts is in the table of the pool. -/
structure Counts (p : PoolId) (k : LinkId) (table : TableId)
    (config : RecorderConfig) (xs : List Execution) (s : Session) : Prop where
  timed : s.scene.Timed k table config
  books : s.state.books.Counting p k table config
    ((s.state.connection? 0).isSome = true) xs

/-- A session whose connection was never checked out. -/
structure Idle (p : PoolId) (s : Session) : Prop where
  layers : s.state.layers = []
  detached : s.state.attached? 0 = none
  untabled : s.state.statistics.tableOf? p = none
  indexed : s.state.statistics.index.isSome = true

/-- Steps that serve one pool are ordinary. -/
theorem isOrdinary_of_serves (h : s.Serves p step) :
    step.isOrdinary = true := by
  cases step with
  | onStatement name use => exact h
  | _ => rfl

/-- A step sets up no connection, so a connection that is there
afterwards was there before. -/
theorem links_serving (h : s.Sound) (hserves : s.Serves p step)
    {c : ConnectionId} {x : Connection}
    (hx : (s.step step).2.state.connection? c = some x) :
    ∃ y, s.state.connection? c = some y ∧ y.links = x.links := by
  have hsuits : Suits { Terms.free s.guarded with connects := fun _ => False }
      s step (s.step step).1 :=
    { guarded := rfl
      closes := fun _ => trivial
      taints := fun _ _ _ _ _ => trivial
      discards := fun _ => trivial
      drops := fun _ => ⟨trivial, trivial⟩
      connects := fun he _ => by subst he; exact hserves.elim
      creates := fun _ => trivial
      faithful := fun hf => hf.elim }
  have hm := (moves_step (isOrdinary_of_serves hserves) h.scene hsuits).1
  exact hm.links (.inl fun _ hc => hc) hx

/-- The connection stays alone while steps serve one pool. -/
theorem alone_step (ha : s.Alone above config below)
    (hserves : s.Serves p step) :
    (s.step step).2.Alone above config below := by
  have hord := isOrdinary_of_serves hserves
  have hm := (moves_step hord ha.sound.scene (suits_free s step _)).1
  have hfaith : step.isFaithful = true := by
    cases step with
    | newConnection => exact hserves.elim
    | _ => rfl
  refine ⟨ha.others, ha.sound.step hord, ha.loyal.step ha.sound hord hfaith,
    Nat.lt_of_lt_of_le ha.known hm.connections_le, fun {c x} hx => ?_⟩
  obtain ⟨y, hy, hlinks⟩ := links_serving ha.sound hserves hx
  obtain ⟨hc, hlinks'⟩ := ha.only hy
  exact ⟨hc, hlinks.symm.trans hlinks'⟩

/-- A step in which something is lent to the connection checks it out. -/
theorem exists_checkOut (hserves : s.Serves p step)
    {loan : Option Attachment} (hturn : s.turn? 0 step = some (.lent loan)) :
    ∃ pool physical name y x, step = .onConnection pool physical name .checkOut
      ∧ s.target? pool physical name = some (p, y, 0, x) := by
  cases step with
  | onConnection pool physical name cstep =>
      rw [turn?] at hturn
      split at hturn
      · next q y d x htarget =>
        split at hturn
        · next hd =>
          subst hd
          cases cstep with
          | checkOut =>
              obtain rfl := hserves q (pool_of_target? htarget)
              exact ⟨pool, physical, name, y, x, rfl, htarget⟩
          | attachLink => exact hserves.elim
          | call op | create op | invoke op | reshape op =>
              have hturn : (if some op = some .close then some Turn.closed
                else none) = some (.lent loan) := hturn
              split at hturn <;> cases hturn
          | _ => cases hturn
        · cases hturn
      · cases hturn
  | newConnection | dropConnection =>
      rw [turn?] at hturn
      split at hturn <;> cases hturn
  | _ => cases hturn

/-- Clearing up records nothing. -/
theorem books_step (s : Session) (step : Step) :
    (s.step step).2.state.books = (s.quiet.act step).2.state.books :=
  books_release ..

/-- A checkout has the recorder take the table of the pool. -/
theorem books_step_checkOut (ha : s.Alone above config below)
    (hserves : s.Serves p step) {loan : Option Attachment}
    (hturn : s.turn? 0 step = some (.lent loan)) :
    (s.step step).2.state.books
      = s.quiet.state.books.take ⟨0, below.length⟩ config p := by
  obtain ⟨pool, physical, name, y, x, rfl, htarget⟩ :=
    exists_checkOut hserves hturn
  have hx := (lookup_of_target? htarget).2
  rw [books_step, act_of_target? (s := s.quiet) htarget, onConnection,
    state_answer]
  exact Act.books_checkOut (s := s.quiet.state)
    (fun link hl => (ha.others link hl).2) hx (ha.only hx).2 y

/-- A connection that is dropped takes its recorder with it. -/
theorem books_step_drop (hserves : s.Serves p step)
    (hdrop : s.Drops step 0) :
    (s.step step).2.state.connection? 0 = none
      ∧ ∃ recorders, (s.step step).2.state.books
        = { s.quiet.state.books with recorders } := by
  cases step with
  | dropConnection name =>
      have hname : s.connections.lookup name = some 0 := hdrop
      rw [connection?_step, books_step, act]
      obtain ⟨hgone, -⟩ := connection?_dropConnection s.quiet 0 name
      refine ⟨hgone.trans (if_pos hname), ?_⟩
      rw [dropConnection]
      split
      · exact ⟨_, rfl⟩
      · exact ⟨_, rfl⟩
  | newConnection => exact hserves.elim
  | _ => exact hdrop.elim

variable {xs : List Execution}

/-- Nothing counts of a step that executes nothing. -/
theorem recorded?_of_executes?_eq_none (h : s.executes? step = none) :
    s.recorded? config step = none := by
  rw [recorded?, h]

/-- What counts of a step is in the table after it, and it was logged. -/
theorem counts_step (ha : s.Alone above config below)
    (hserves : s.Serves p step)
    (hc : s.Counts p ⟨0, below.length⟩ table config xs) :
    (s.step step).2.Counts p ⟨0, below.length⟩ table config
        (xs ++ (s.recorded? config step).toList)
      ∧ s.Logs config p step := by
  have htimed : (s.step step).2.scene.Timed ⟨0, below.length⟩ table
      config := by
    by_cases hcreates : ∃ i, s.Creates step i
    · obtain ⟨i, hi⟩ := hcreates
      have hthere : (s.state.connection? 0).isSome = true := by
        cases step with
        | onConnection =>
            obtain ⟨x, hx⟩ := Option.isSome_iff_exists.1 hi.2.2
            obtain ⟨rfl, -⟩ := ha.only hx
            exact hi.2.2
        | _ => exact hi.elim
      exact timed_step_of_creates ha hi (hc.books.writes hthere) hc.timed
    · exact timed_step_of_not_creates ha.sound (isOrdinary_of_serves hserves)
        (fun i hi => hcreates ⟨i, hi⟩) hc.timed
  have hquiet : s.quiet.state.books.Counting p ⟨0, below.length⟩ table config
      ((s.state.connection? 0).isSome = true) xs :=
    ⟨hc.books.writes, hc.books.tabled, hc.books.filled⟩
  have hthere : ((s.step step).2.state.connection? 0).isSome = true →
      (s.state.connection? 0).isSome = true := fun h => by
    obtain ⟨x, hx⟩ := Option.isSome_iff_exists.1 h
    obtain ⟨y, hy, -⟩ := links_serving ha.sound hserves hx
    rw [hy]
    rfl
  cases hexec : s.executes? step with
  | some found =>
      obtain ⟨hbooks, hslow⟩ := hquiet.enter? (s.recorded? config step) hthere
      obtain ⟨id, op⟩ := found
      have hentered := books_execution ha hc.timed hexec
      rw [← hentered] at hbooks hslow
      exact ⟨⟨htimed, hbooks⟩, hslow.trans (List.nil_append _)⟩
  | none =>
      rw [Logs, recorded?_of_executes?_eq_none hexec, Option.toList_none,
        List.append_nil]
      by_cases hlent : ∃ loan, s.turn? 0 step = some (.lent loan)
      · obtain ⟨loan, hlent⟩ := hlent
        have htaken := books_step_checkOut ha hserves hlent
        refine ⟨⟨htimed, ?_⟩, congrArg Books.slow htaken⟩
        rw [htaken]
        exact hquiet.take
      by_cases hdrop : s.Drops step 0
      · obtain ⟨hgone, recorders, hbooks⟩ := books_step_drop hserves hdrop
        refine ⟨⟨htimed, ?_⟩, congrArg Books.slow hbooks⟩
        rw [hbooks, hgone]
        exact ⟨fun hno => (by cases hno), hquiet.tabled, hquiet.filled⟩
      · have hkept : s.quiet.state.books.Kept p ⟨0, below.length⟩
            (s.quiet.act step).2.state.books :=
          kept_act hserves hexec (fun loan he => hlent ⟨loan, he⟩) hdrop
            fun hx => (ha.only hx).1
        rw [← books_step] at hkept
        exact ⟨⟨htimed, hquiet.kept hkept hthere⟩, hkept.slow⟩

/-- Before the connection is checked out there are no handles. -/
theorem Idle.held_eq_nil (hi : s.Idle p) (h : s.Sound) : s.held = [] := by
  refine List.eq_nil_iff_forall_not_mem.2 fun a ha => ?_
  have hlt := State.lt_of_core (h.scene.owned.living (.inl ha))
  rw [show s.scene.state.layers = [] from hi.layers] at hlt
  cases hlt

/-- On a connection that was never checked out nothing is executed. -/
theorem Idle.executes?_eq_none (hi : s.Idle p) (h : s.Sound) (step : Step) :
    s.executes? step = none := by
  cases hexec : s.executes? step with
  | none => rfl
  | some found =>
      obtain ⟨id, op⟩ := found
      obtain ⟨name, use, -, -, hid, -⟩ := exists_of_executes? hexec
      have hheld := held_of_lookup hid
      rw [hi.held_eq_nil h] at hheld
      cases hheld

/-- A connection that is idle has no statements, whatever the step. -/
theorem Idle.layers_step (hi : s.Idle p) (ha : s.Alone above config below)
    (hserves : s.Serves p step) : (s.step step).2.state.layers = [] := by
  refine layers_step_eq_nil ha.sound (isOrdinary_of_serves hserves)
    hi.layers fun {i} hcreates => ?_
  cases step with
  | onConnection =>
      obtain ⟨x, hx⟩ := Option.isSome_iff_exists.1 hcreates.2.2
      obtain ⟨rfl, -⟩ := ha.only hx
      exact hi.detached
  | _ => exact hcreates.elim

/-- A connection that was never checked out is so after a step that does
not check it out. -/
theorem idle_step (ha : s.Alone above config below)
    (hserves : s.Serves p step) (hi : s.Idle p)
    (hturn : ∀ loan, s.turn? 0 step ≠ some (.lent loan)) :
    (s.step step).2.Idle p ∧ s.Logs config p step := by
  have hexec := hi.executes?_eq_none ha.sound step
  have hpass : s.state.Passable 0 := by
    refine ⟨ha.known, fun {x} hx link hlink => ?_⟩
    have hfaith := ha.loyal.links hx link hlink
    cases link with
    | answering => cases hfaith
    | _ => exact ⟨rfl, rfl⟩
  have hbooks : (s.step step).2.state.statistics.tableOf? p
        = s.state.statistics.tableOf? p
      ∧ (s.step step).2.state.statistics.index.isSome
        = s.state.statistics.index.isSome
      ∧ (s.step step).2.slow = [] := by
    by_cases hdrop : s.Drops step 0
    · obtain ⟨-, recorders, hbooks⟩ := books_step_drop hserves hdrop
      have hstatistics := congrArg Books.statistics hbooks
      exact ⟨congrArg (·.tableOf? p) hstatistics,
        congrArg (·.index.isSome) hstatistics, congrArg Books.slow hbooks⟩
    · have hkept : s.quiet.state.books.Kept p ⟨0, below.length⟩
          (s.quiet.act step).2.state.books :=
        kept_act hserves hexec hturn hdrop fun hx => (ha.only hx).1
      rw [← books_step] at hkept
      exact ⟨hkept.tableOf, hkept.indexed, hkept.slow⟩
  obtain ⟨htable, hindex, hslow⟩ := hbooks
  refine ⟨⟨hi.layers_step ha hserves, attached?_step hpass hturn hi.detached,
    htable.trans hi.untabled, hindex.trans hi.indexed⟩, ?_⟩
  rw [Logs, recorded?_of_executes?_eq_none hexec]
  exact hslow

/-- Where there are no handles, all are timed. -/
theorem timed_of_layers_eq_nil (h : s.Sound) (hl : s.state.layers = []) :
    s.scene.Timed k table config := by
  have hcore : ∀ a, s.scene.state.core a = .released := fun a => by
    by_contra hne
    have hlt := State.lt_of_core hne
    rw [show s.scene.state.layers = [] from hl] at hlt
    cases hlt
  refine ⟨⟨fun {a f} hf => ?_, fun {a f t c} hf => ?_, fun {a d} hd => ?_⟩,
    fun {a} ha => ?_⟩
  · rw [hcore] at hf
    cases hf
  · rw [hcore] at hf
    cases hf
  · rw [State.Holds, hcore] at hd
    cases hd
  · rcases ha with ha | hout
    · exact absurd (hcore a) (h.scene.owned.living (.inl ha))
    · cases hout

/-- The first checkout starts the table. -/
theorem exists_counts_of_idle (ha : s.Alone above config below)
    (hserves : s.Serves p step) (hi : s.Idle p) {loan : Option Attachment}
    (hturn : s.turn? 0 step = some (.lent loan)) :
    (∃ table, (s.step step).2.Counts p ⟨0, below.length⟩ table config [])
      ∧ s.Logs config p step := by
  have hexec := hi.executes?_eq_none ha.sound step
  have htaken := books_step_checkOut ha hserves hturn
  refine ⟨⟨s.quiet.state.books.statistics.tables.length, ?_, ?_⟩, ?_⟩
  · exact timed_of_layers_eq_nil
      (ha.sound.step (isOrdinary_of_serves hserves))
      (hi.layers_step ha hserves)
  · rw [htaken]
    exact Books.counting_take hi.untabled hi.indexed
  · rw [Logs, recorded?_of_executes?_eq_none hexec]
    exact congrArg Books.slow htaken

-- ============================================================= whole runs

/-- What is told of the table: it is the one filled with what counts, or
nothing was lent to the connection yet and there is none. -/
inductive Tells (p : PoolId) (k : LinkId) (config : RecorderConfig)
    (s : Session) (lent : Prop) (xs : List Execution) : Prop
  | counts {table : TableId} : s.Counts p k table config xs →
      Tells p k config s lent xs
  | idle : s.Idle p → ¬ lent → xs = [] → Tells p k config s lent xs

/-- Less may be told of what was lent. -/
theorem Tells.imp {lent lent' : Prop} (h : s.Tells p k config lent xs)
    (himp : lent' → lent) : s.Tells p k config lent' xs := by
  cases h with
  | counts hc => exact .counts hc
  | idle hi hno hxs => exact .idle hi (fun h => hno (himp h)) hxs

/-- A step adds what counts of it to what is told, and logs what it
should. -/
theorem tells_step (ha : s.Alone above config below)
    (hserves : s.Serves p step) {lent : Prop}
    (h : s.Tells p ⟨0, below.length⟩ config lent xs) :
    (s.step step).2.Tells p ⟨0, below.length⟩ config
        (lent ∨ ∃ loan, s.turn? 0 step = some (.lent loan))
        (xs ++ (s.recorded? config step).toList)
      ∧ s.Logs config p step := by
  cases h with
  | counts hc =>
      obtain ⟨hc', hlogs⟩ := counts_step ha hserves hc
      exact ⟨.counts hc', hlogs⟩
  | idle hi hno hxs =>
      have hexec := hi.executes?_eq_none ha.sound step
      rw [hxs, recorded?_of_executes?_eq_none hexec]
      by_cases hlent : ∃ loan, s.turn? 0 step = some (.lent loan)
      · obtain ⟨loan, hturn⟩ := hlent
        obtain ⟨⟨table, hc⟩, hlogs⟩ :=
          exists_counts_of_idle ha hserves hi hturn
        exact ⟨.counts hc, hlogs⟩
      · obtain ⟨hi', hlogs⟩ :=
          idle_step ha hserves hi fun loan he => hlent ⟨loan, he⟩
        exact ⟨.idle hi' (fun h => h.elim hno hlent) rfl, hlogs⟩

/-- A run adds what counts of it to what is told, and each of its steps logs
what it should. -/
theorem tells_run {steps : List Step} (ha : s.Alone above config below)
    (hserves : Along (Serves p) s steps) {lent : Prop}
    (h : s.Tells p ⟨0, below.length⟩ config lent xs) :
    (s.run steps).Tells p ⟨0, below.length⟩ config
        (lent ∨ ∃ loan, .lent loan ∈ turns 0 s steps)
        (xs ++ s.recordings config steps)
      ∧ Along (Logs config p) s steps := by
  induction steps generalizing s lent xs with
  | nil =>
      rw [recordings, List.append_nil]
      refine ⟨h.imp ?_, trivial⟩
      rintro (hlent | ⟨loan, hin⟩)
      · exact hlent
      · cases hin
  | cons step rest ih =>
      obtain ⟨hfirst, hrest⟩ := hserves
      obtain ⟨hnext, hlogs⟩ := tells_step ha hfirst h
      obtain ⟨hrun, halong⟩ := ih (alone_step ha hfirst) hrest hnext
      rw [run_cons, recordings, ← List.append_assoc]
      refine ⟨hrun.imp ?_, hlogs, halong⟩
      rintro (hlent | ⟨loan, hin⟩)
      · exact .inl (.inl hlent)
      · rw [turns_cons] at hin
        rcases List.mem_append.1 hin with hin | hin
        · exact .inl (.inr ⟨loan, Option.mem_toList.1 hin⟩)
        · exact .inr ⟨loan, hin⟩

/-- At first there is one connection. -/
theorem connections_unattached (links : List Link) (guarded : Bool) :
    (unattached links guarded).state.connections = [some ⟨links, {}⟩] :=
  State.connections_installLinks ..

/-- That connection has the links it was set up with. -/
theorem connection?_unattached {links : List Link} {guarded : Bool}
    {c : ConnectionId} {x : Connection}
    (hx : (unattached links guarded).state.connection? c = some x) :
    c = 0 ∧ x = ⟨links, {}⟩ := by
  rw [State.connection?, connections_unattached] at hx
  cases c with
  | zero =>
      cases hx
      exact ⟨rfl, rfl⟩
  | succ c => cases hx

/-- The connection is alone at the start. -/
theorem alone_start
    (hothers : ∀ link ∈ above ++ below,
      link.isFaithful = true ∧ link.isRecorder = false)
    (guarded checkedOut : Bool) :
    (start (above ++ .recorder config :: below) guarded checkedOut).Alone
      above config below := by
  have hfaithful : ∀ link ∈ above ++ .recorder config :: below,
      link.isFaithful = true := by
    intro link hlink
    rcases List.mem_append.1 hlink with hin | hin
    · exact (hothers link (List.mem_append_left _ hin)).1
    · rcases List.mem_cons.1 hin with rfl | hin
      · rfl
      · exact (hothers link (List.mem_append_right _ hin)).1
  have haside := aside_start (above ++ .recorder config :: below) guarded
    checkedOut
  refine ⟨hothers, sound_start .., loyal_start hfaithful .., ?_,
    fun {c x} hx => ?_⟩
  · rw [haside.connections, connections_unattached]
    exact Nat.one_pos
  · obtain ⟨y, hy, hlinks⟩ := haside.links hx
    obtain ⟨hc, rfl⟩ := connection?_unattached hy
    exact ⟨hc, hlinks.symm⟩

/-- Setting the links of a connection up leaves the registry as it is. -/
theorem statistics_installLinks (c : ConnectionId) (s : State)
    (links : List Link) :
    (State.installLinks c s links).statistics = s.statistics := by
  obtain ⟨_, _, _, h⟩ := installLinks_eq c s links
  rw [h]

/-- A connection that was not checked out is idle. -/
theorem idle_unattached (links : List Link) (guarded : Bool) (p : PoolId) :
    (unattached links guarded).Idle p := by
  have hstatistics : (unattached links guarded).state.statistics
      = (({} : State).newPool).2.statistics :=
    statistics_installLinks ..
  have hfirst : Moves (.free guarded) ⟨{}, [], none, []⟩
        (unattached links guarded).scene
      ∧ (unattached links guarded).state.layers = [] :=
    moves_unattached rfl trivial trivial
  refine ⟨hfirst.2, ?_, ?_, ?_⟩
  · rw [State.attached?, State.terminalOf]
    cases hx : (unattached links guarded).state.connection? 0 with
    | none => rfl
    | some x =>
        obtain ⟨-, rfl⟩ := connection?_unattached hx
        rfl
  · rw [hstatistics]
    rfl
  · rw [hstatistics]
    rfl

/-- The first checkout is the first entry in the books. -/
theorem counting_start
    (hothers : ∀ link ∈ above ++ below, link.isRecorder = false)
    (guarded : Bool) :
    let s := start (above ++ .recorder config :: below) guarded true
    ∃ table, s.state.books.Counting 0 ⟨0, below.length⟩ table config
      ((s.state.connection? 0).isSome = true) [] := by
  intro s
  have hidle := idle_unattached (above ++ .recorder config :: below) guarded 0
  have hx : (unattached (above ++ .recorder config :: below)
      guarded).state.connection? 0
      = some ⟨above ++ .recorder config :: below, {}⟩ := by
    rw [State.connection?, connections_unattached]
    rfl
  have hstate : s.state = ((Act.checkOut 0 0 0).run
      (unattached (above ++ .recorder config :: below) guarded).state).2 :=
    state_answer ..
  have htaken := Act.books_checkOut hothers hx rfl 0 (p := 0)
  rw [← hstate] at htaken
  rw [htaken]
  exact ⟨_, Books.counting_take hidle.untabled hidle.indexed⟩

/-- At the start nothing is told of the table yet. -/
theorem tells_start
    (hothers : ∀ link ∈ above ++ below,
      link.isFaithful = true ∧ link.isRecorder = false)
    (guarded : Bool) {checkedOut : Bool} (hpool : checkedOut = true → p = 0) :
    (start (above ++ .recorder config :: below) guarded checkedOut).Tells p
      ⟨0, below.length⟩ config (checkedOut = true) [] := by
  cases checkedOut with
  | false => exact .idle (idle_unattached _ guarded p) (fun h => by cases h) rfl
  | true =>
      obtain rfl := hpool rfl
      obtain ⟨table, hbooks⟩ :=
        counting_start (fun link hl => (hothers link hl).2) guarded
      have hlayers : (start (above ++ .recorder config :: below) guarded
          true).state.layers = [] :=
        (moves_start (p := .free guarded) rfl trivial trivial true).2
      exact .counts ⟨timed_of_layers_eq_nil (sound_start ..) hlayers, hbooks⟩

/-- A recorder counts the slow executions that succeeded, and only those.

Take any chain with one recorder, in any place among links that pass
everything on, and any session with one connection of that chain, in
which it is checked out of one pool only, if at all, and that pool is not
closed. Once it was checked out the pool has a table. That is the one that
is filled by recording, in the order of the run, each execution that its
caller heard of no failure of and that took longer than the threshold:
under the SQL that the handle is of, else the SQL that was passed, else
`batch`, with the time that it took, and the moment when it started. Until
then there is no such execution. In each step as many of them are logged
as were recorded, under the sanitized text, if that is wanted and the
threshold is not negative, and none otherwise. -/
theorem slow_executions_are_counted
    (hothers : ∀ link ∈ above ++ below,
      link.isFaithful = true ∧ link.isRecorder = false)
    {guarded checkedOut : Bool} (hpool : checkedOut = true → p = 0)
    {steps : List Step} {first s : Session}
    (hfirst : first
      = start (above ++ .recorder config :: below) guarded checkedOut)
    (hserves : Along (Serves p) first steps) (hrun : s = first.run steps) :
    (match s.state.statistics.tableOf? p with
      | some table => s.state.statistics.table? table
        = some (.filled p config.maxQueries (first.recordings config steps))
      | none => checkedOut = false
        ∧ (∀ loan, .lent loan ∉ turns 0 first steps)
        ∧ first.recordings config steps = [])
      ∧ Along (Logs config p) first steps := by
  subst hfirst hrun
  obtain ⟨htells, hlogs⟩ := tells_run (alone_start hothers guarded checkedOut)
    hserves (tells_start hothers guarded hpool)
  rw [List.nil_append] at htells
  refine ⟨?_, hlogs⟩
  cases htells with
  | counts hc =>
      have htabled : ((start (above ++ .recorder config :: below) guarded
        checkedOut).run steps).state.statistics.tableOf? p = some _ :=
          hc.books.tabled
      rw [htabled]
      exact hc.books.filled
  | idle hi hno hxs =>
      rw [hi.untabled]
      exact ⟨Bool.eq_false_iff.2 fun h => hno (.inl h),
        fun loan hin => hno (.inr ⟨loan, hin⟩), hxs⟩

/-- Of six executions two count: one is too fast, one is on a handle that
was closed, one fails, and the last one is a batch of nothing. The two are
on two handles of a statement that was parked in between. -/
theorem two_of_six_executions_count :
    let links := [Link.leakTracker] ++ .recorder .standard
      :: [.cache .standard]
    let steps := [
      Step.instruct (.latency "q" 150),
      .onConnection "p0" "x0" "c0" (.create (.prepareStatement "q") "a"),
      .onStatement "a" (.call (.executeQuery none)),
      .onStatement "a" (.call (.execute (some "fast"))),
      .onStatement "a" (.call .close),
      .onConnection "p0" "x0" "c0" (.call .close),
      .onConnection "p0" "x0" "c0" .checkOut,
      .onConnection "p0" "x0" "c0" (.create (.prepareStatement "q") "b"),
      .onStatement "a" (.call (.executeQuery none)),
      .onStatement "b" (.dispatch (.executeUpdate none)),
      .instruct (.failExecution "q" "57014" "canceled"),
      .onStatement "b" (.call (.execute none)),
      .onStatement "b" (.call .executeBatch)]
    let first := start links false true
    let s := first.run steps
    let counted : List Execution :=
      [⟨"q", 150, .ofMilliseconds 0⟩, ⟨"q", 150, .ofMilliseconds 150⟩]
    (∀ link ∈ [Link.leakTracker] ++ [.cache .standard],
        link.isFaithful = true ∧ link.isRecorder = false)
      ∧ Along (Serves 0) first steps
      ∧ s.state.native.driver.prepares = 1
      ∧ first.recordings .standard steps = counted
      ∧ s.state.statistics.tableOf? 0 = some 0
      ∧ s.state.statistics.table? 0 = some (.filled 0 1000 counted)
      ∧ Along (Logs .standard 0) first steps := by
  intro links steps first s counted
  have hothers : ∀ link ∈ [Link.leakTracker] ++ [.cache .standard],
      link.isFaithful = true ∧ link.isRecorder = false := by decide
  have hserves : Along (Serves 0) first steps :=
    ⟨trivial, trivial, rfl, rfl, rfl, trivial,
      fun q hq => Option.some.inj (hq.symm.trans (by decide +kernel)),
      trivial, rfl, rfl, trivial, rfl, rfl, trivial⟩
  have hcounted : first.recordings .standard steps = counted := by
    decide +kernel
  have htabled : s.state.statistics.tableOf? 0 = some 0 := by decide +kernel
  have hcounts := @slow_executions_are_counted _ _ _ 0 hothers false true
    (fun _ => rfl) steps first s rfl hserves rfl
  rw [htabled, hcounted] at hcounts
  exact ⟨hothers, hserves, by decide +kernel, hcounted, htabled, hcounts⟩

end Session

end PooledChain
