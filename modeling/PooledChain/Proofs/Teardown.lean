/-
Closed pools and their tables.

A session's steps come down to calls on the registry, of a few kinds
(`Session.reaches_step`): a step registers a pool only if recorders hear
in it that the pool lends their connection (`Session.registers`). Beside
the steps, the registry is called directly (`Affair`).

Closing a pool takes its table away, with whichever connections hear of
it. What takes a table away is a listener, and each is told once, so
nothing takes away a table that is made for the pool afterwards. Once
closed, a pool has no table as long as nobody has it registered again
(`Session.untabled_unless_registered`); if somebody does, it has one,
for good unless it is taken out by hand (`Session.late_table_stays`).
-/
import PooledChain.Proofs.Heap.Asking
import PooledChain.Proofs.Heap.Names
import PooledChain.Proofs.Heap.Registering

namespace PooledChain

open Statistics (Registry TableId)
open Statistics.Registry (Call Reaches)

-- ============================================================ one registry

namespace Statistics.Registry

variable {r r' : Registry} {ok : Call → Prop} {c : Call} {p : PoolId}

/-- Whether a pool has no table if it is closed. -/
def Untabled (r : Registry) (p : PoolId) : Prop :=
  r.isClosed p = true → r.tableOf? p = none

/-- Whether a pool is closed is part of what the registry has standing. -/
theorem isClosed_eq (r : Registry) (p : PoolId) :
    r.isClosed p = (r.standing[p]?).getD true := by
  rw [isClosed, pool?, standing, List.getElem?_map]

/-- A pool that is closed after a call was closed before, or by it. -/
theorem isClosed_of_call (h : (r.call c).isClosed p = true) :
    r.isClosed p = true ∨ c = .close p := by
  cases c with
  | newPool =>
      refine .inl ?_
      have hstanding : (r.call .newPool).standing = r.standing ++ [false] :=
        standing_newPool r
      rw [isClosed_eq, hstanding] at h
      rw [isClosed_eq]
      by_cases hp : p < r.standing.length
      · rwa [List.getElem?_append_left hp] at h
      · rw [List.getElem?_eq_none (Nat.le_of_not_lt hp)]
        rfl
  | register q maxQueries =>
      rw [call] at h
      split at h
      · rw [isClosed_eq, standing_register, ← isClosed_eq] at h
        exact .inl h
      · exact .inl h
  | close q =>
      by_cases hq : p = q
      · exact .inr (hq ▸ rfl)
      · rw [call] at h
        cases hopen : r.isClosed q with
        | true =>
            rw [close_of_closed hopen] at h
            exact .inl h
        | false =>
            rw [isClosed, pool?_close hopen, if_neg hq] at h
            exact .inl h
  | record q x =>
      rw [call] at h
      split at h <;> exact .inl h
  | deregister | recordHeld | snapshot | dropIndex => exact .inl h

/-- A call leaves no closed pool with a table, unless it registers one. -/
theorem untabled_call (ha : r.Attended) (h : r.Untabled p)
    (hc : ∀ n, c = .register p n → r.isClosed p = false) :
    (r.call c).Untabled p := by
  intro hclosed
  rcases isClosed_of_call hclosed with hbefore | rfl
  · obtain ⟨hsame, -⟩ | ⟨n, hregister, -⟩ | ⟨-, hgone⟩ := call_cases r c p
    · exact hsame.trans (h hbefore)
    · rw [hc n hregister] at hbefore
      cases hbefore
    · exact hgone
  · cases hopen : r.isClosed p with
    | true =>
        rw [call, close_of_closed hopen]
        exact h hopen
    | false => exact tableOf?_close_self ha hopen

/-- A pool stays open while no call closes it. -/
theorem Reaches.stays_open (h : Reaches ok r r')
    (hok : ∀ c, ok c → c ≠ .close p) (hopen : r.isClosed p = false) :
    r'.isClosed p = false := by
  refine h.preserves (P := fun r => r.isClosed p = false)
    (fun r c hc hr => ?_) hopen
  rw [Bool.eq_false_iff]
  intro hclosed
  rcases isClosed_of_call hclosed with hbefore | hclose
  · rw [hr] at hbefore
    cases hbefore
  · exact hok c hc hclose

/-- A pool that has no table once closed has none, while no call takes one
on for it. -/
theorem Reaches.untabled (h : Reaches ok r r') (ha : r.Attended)
    (hok : ∀ n, ¬ ok (.register p n)) (hu : r.Untabled p) :
    r'.Untabled p := by
  have hboth := h.preserves (P := fun r => r.Attended ∧ r.Untabled p)
    (fun r c hc hr => ⟨attended_call hr.1 c,
      untabled_call hr.1 hr.2 fun n hn => absurd (hn ▸ hc) (hok n)⟩)
    ⟨ha, hu⟩
  exact hboth.2

end Statistics.Registry

-- ================================================================= steps

/-- The links that hear in a step that a pool lends their connection. -/
def ConnectionStep.lends (links : List Link) : ConnectionStep → List Link
  | .checkOut => links
  | .attachLink (some choice) true _ =>
    ((Session.choose links choice).map (·.1)).toList
  | _ => []

namespace Session

variable {s : Session} {step : Step} {p : PoolId} {ok : Call → Prop}

/-- Whether recorders have a pool registered in a step. -/
def registers (s : Session) (step : Step) (p : PoolId) : Bool :=
  match step with
  | .onConnection pool physical name cstep =>
    match s.target? pool physical name with
    | some (q, _, _, x) => q == p && (cstep.lends x.links).any Link.isRecorder
    | none => false
  | _ => false

/-- Whether a step can come down to a call, among others. -/
structure Causes (s : Session) (step : Step) (c : Call) : Prop where
  keeps : c ≠ .dropIndex
  registers : ∀ {q n}, c = .register q n → s.registers step q = true
  closes : ∀ {q}, c = .close q →
    ∃ pool physical names, step = .onPool pool physical (.close names)

/-- Every step may enter executions. -/
theorem Causes.enters {c : Call} (h : c.Enters) : s.Causes step c := by
  obtain ⟨t, x, rfl⟩ := h
  exact ⟨nofun, nofun, nofun⟩

/-- Every step may set a pool up. -/
theorem Causes.newPool : s.Causes step .newPool := ⟨nofun, nofun, nofun⟩

/-- Every step may take a pool's table out. -/
theorem Causes.deregister : s.Causes step (.deregister p) :=
  ⟨nofun, nofun, nofun⟩

/-- A step that has a pool registered may take a table on for it. -/
theorem Causes.register {maxQueries : Nat} (h : s.registers step p = true) :
    s.Causes step (.register p maxQueries) :=
  ⟨nofun, fun hd => by cases hd; exact h, nofun⟩

/-- The step that closes a pool may do so. -/
theorem Causes.close {pool physical : String} {names : List String} :
    s.Causes (.onPool pool physical (.close names)) (.close p) :=
  ⟨nofun, nofun, fun _ => ⟨pool, physical, names, rfl⟩⟩

/-- Whether there is a registry, and the pools that have names are in
it. -/
structure Ruled (s : Session) : Prop where
  attended : s.state.statistics.Attended
  indexed : s.state.statistics.index.isSome = true
  pools : ∀ e ∈ s.pools, e.2 < s.state.statistics.pools.length

/-- An act in a session comes down to the calls that it comes down to by
itself. -/
theorem reaches_perform {α : Type} {act : Act α} (h : act.Calls ok)
    {reply : α → Session → Reply × Session}
    (hreply : ∀ a (t : Session), (reply a t).2.state = t.state) :
    Reaches ok s.state.statistics
      (s.perform act reply).2.state.statistics := by
  have hrun := h s.state
  rw [perform]
  rcases hr : act.run s.state with ⟨e | a, t⟩ <;> rw [hr] at hrun
  · exact hrun
  · rw [hreply]
    exact hrun

theorem reaches_answer {α : Type} {act : Act α} (h : act.Calls ok)
    (reply : α → Reply) :
    Reaches ok s.state.statistics (s.answer act reply).2.state.statistics :=
  reaches_perform h fun _ _ => rfl

/-- A step on a statement at most enters executions. -/
theorem reaches_onStatement (id : LayerId) (use : StatementStep) :
    Reaches Call.Enters s.state.statistics
      (s.onStatement id use).2.state.statistics := by
  cases use with
  | call op | dispatch op => exact reaches_answer (Act.enters_dispatch id op) _
  | info => rw [onStatement]; split <;> exact .refl _ _
  | wrap name orphan => rw [onStatement]; split <;> exact .refl _ _
  | retire number name =>
      rw [onStatement]
      split
      · exact .refl _ _
      · refine reaches_perform (.of_silent (Act.silent_retire _)) fun a t => ?_
        split <;> rfl
  | forward number op =>
      rw [onStatement]
      split
      · exact .refl _ _
      · exact reaches_answer (Act.enters_forwardStatement _ op) _

/-- A step on a pool comes down to taking its table out and closing it, and
that only if it is to close it. -/
theorem reaches_onPool (pool : PoolId) (x : PhysicalId) (pstep : PoolStep) :
    Reaches (fun c => (c = .deregister pool ∨ c = .close pool)
        ∧ ∃ names, pstep = .close names) s.state.statistics
      (s.onPool pool x pstep).2.state.statistics := by
  cases pstep with
  | close names =>
      exact (reaches_answer (Act.calls_closePool pool _) _).mono
        fun c hc => ⟨hc, names, rfl⟩
  | discard =>
      exact reaches_answer (.of_silent (Act.silent_discardPhysical x)) _
  | info => rw [onPool]; split <;> exact .refl _ _

/-- What a step on a connection comes down to: a pool is registered by
recorders that hear of it, or taken out. -/
theorem reaches_onConnection (h : s.Ruled) {pool : PoolId} {y : PhysicalId}
    {c : ConnectionId} {x : Connection} (hx : s.state.connection? c = some x)
    (hpool : pool < s.state.statistics.pools.length)
    (cstep : ConnectionStep) :
    Reaches (fun d => d = .deregister pool
        ∨ (∃ link ∈ cstep.lends x.links, link.isRecorder = true)
          ∧ ∃ n, d = .register pool n) s.state.statistics
      (s.onConnection pool y c x cstep).2.state.statistics := by
  have hasks : ∀ op, cstep.asked? = some op → ∀ {ok : Call → Prop},
      Reaches ok s.state.statistics
        (s.onConnection pool y c x cstep).2.state.statistics := by
    intro op hop ok
    rw [(asks_onConnection (q := pool) (y := y) (x := x) hop).state]
    exact Act.Calls.of_silent (Act.silent_invokeOp c op) s.state
  cases cstep with
  | checkOut =>
      rw [onConnection, state_answer]
      exact (Act.reaches_checkOut hpool h.indexed hx y).mono fun _ => .inr
  | checkIn => exact reaches_answer (.of_silent (Act.silent_tell c rfl)) _
  | disconnect withPool finalizing =>
      exact reaches_answer (.of_silent (Act.silent_tell c rfl)) _
  | discard =>
      exact reaches_answer (.of_silent
        (Act.silent_discardConnection c pool y)) _
  | poolStarted => exact reaches_answer (.of_silent (Act.silent_tell c rfl)) _
  | poolClosed =>
      exact (reaches_answer (Act.through_tell c pool).calls _).mono fun _ => .inl
  | attachLink choice withPool withPhysical =>
      cases choice with
      | none => exact .refl _ _
      | some choice =>
          rw [onConnection, attachLink.eq_def]
          split
          · exact reaches_answer
              (.of_silent (Act.silent_hearTerminal c (.attach _ _)))
              fun _ => .unit
          · next link place _ hlink =>
            have hknown : ∀ p ∈ onlyIf withPool pool,
                p < s.state.statistics.pools.length := fun p hp => by
              cases withPool with
              | true => exact Option.some.inj hp ▸ hpool
              | false => cases hp
            obtain ⟨t, ht, hcalls⟩ := Act.reaches_hear_attach hknown h.indexed
              link ⟨c, place⟩ (onlyIf withPhysical y)
            rw [state_answer, ht]
            refine hcalls.mono fun d hd => ?_
            obtain ⟨hrec, p, hp, n, hd⟩ := hd
            cases withPool with
            | false => cases hp
            | true =>
                obtain rfl := Option.some.inj hp
                refine .inr ⟨⟨link, ?_, hrec⟩, n, hd⟩
                rw [ConnectionStep.lends, hlink]
                exact List.mem_singleton_self link
          · exact .refl _ _
  | call op | create op | invoke op | reshape op => exact hasks op rfl
  | nativeNumber => exact hasks _ rfl
  | forceClose sql =>
      rw [onConnection]
      split
      · exact .refl _ _
      · exact reaches_answer (.of_silent (Act.silent_forceClose _ sql)) _
  | describe => exact .refl _ _

/-- What is found under a name is listed under it. -/
theorem mem_of_lookup {l : List (String × Nat)} {name : String} {n : Nat}
    (h : l.lookup name = some n) : (name, n) ∈ l := by
  obtain ⟨before, after, rfl, -⟩ := List.lookup_eq_some_iff.1 h
  exact List.mem_append_right _ List.mem_cons_self

/-- What a step comes down to. -/
theorem reaches_act (h : s.Ruled) (step : Step) :
    Reaches (s.Causes step) s.state.statistics
      (s.act step).2.state.statistics := by
  cases step with
  | instruct | preparedSql | addRule | clearRules | newPhysical
  | dropStatement | tablePools => exact .refl _ _
  | newPool name => exact .of_call (c := .newPool) Causes.newPool
  | newConnection name spec =>
      rw [act]
      split
      · exact .refl _ _
      · next links _ =>
        refine .of_eq ?_
        have hdrop : ∀ t : Session,
            (t.dropConnection name).state.statistics = t.state.statistics :=
          fun t => by rw [dropConnection]; split <;> rfl
        exact (hdrop _).trans (s.state.statistics_newConnection links)
  | dropConnection name => rw [act, dropConnection]; split <;> exact .refl _ _
  | sameStatement | nameStatement => rw [act]; split <;> exact .refl _ _
  | onStatement name use =>
      rw [act]
      split
      · exact (reaches_onStatement _ use).mono fun c => .enters
      · exact .refl _ _
  | onPool pool physical pstep =>
      rw [act]
      split
      · exact .refl _ _
      · exact .refl _ _
      · next q x hq _ =>
        refine (reaches_onPool q x pstep).mono fun c hc => ?_
        obtain ⟨rfl | rfl, names, rfl⟩ := hc
        · exact .deregister
        · exact .close
  | onConnection pool physical name cstep =>
      cases htarget : s.target? pool physical name with
      | none =>
          obtain ⟨what, hact⟩ := act_of_target?_none htarget cstep
          rw [hact]
          exact .refl _ _
      | some found =>
          obtain ⟨q, y, c, x⟩ := found
          have hx := (lookup_of_target? htarget).2
          have hpool : q < s.state.statistics.pools.length :=
            h.pools (pool, q) (mem_of_lookup (pool_of_target? htarget))
          rw [act_of_target? htarget]
          refine (reaches_onConnection h hx hpool cstep).mono fun d hd => ?_
          obtain rfl | ⟨hrec, n, rfl⟩ := hd
          · exact .deregister
          · refine .register ?_
            rw [registers, htarget]
            simpa using hrec

/-- Every step comes down to calls that it may cause. -/
theorem reaches_step (h : s.Ruled) (step : Step) :
    Reaches (s.Causes step) s.state.statistics
      (s.step step).2.state.statistics := by
  have hquiet : s.quiet.Ruled := ⟨h.attended, h.indexed, h.pools⟩
  have hsettled : (s.step step).2.state.statistics
      = (s.quiet.act step).2.state.statistics :=
    congrArg Books.statistics (books_release ..)
  rw [hsettled]
  exact (reaches_act hquiet step).mono fun c hc =>
    ⟨hc.keeps, fun hr => hc.registers hr, hc.closes⟩

/-- Names of pools are given when a pool is made. -/
theorem pools_step (hnew : ∀ name, step ≠ .newPool name) :
    (s.step step).2.pools = s.pools := by
  have hdrop : ∀ (t : Session) (name : String),
      (t.dropConnection name).pools = t.pools := fun t name => by
    rw [dropConnection]
    split <;> rfl
  show (s.quiet.act step).2.pools = s.pools
  by_cases hkeeps : step.keepsNames = true
  · exact (sameNames_act s.quiet hkeeps).pools
  · cases step with
    | newPool name => exact absurd rfl (hnew name)
    | newPhysical name => rfl
    | dropConnection name => exact hdrop s.quiet name
    | newConnection name spec =>
        rw [act]
        split
        · rfl
        · exact hdrop _ name
    | _ => exact absurd rfl hkeeps

/-- Every step leaves a registry with the pools that have names. -/
theorem ruled_step (h : s.Ruled) (step : Step) : (s.step step).2.Ruled := by
  obtain ⟨hattended, hindexed, hlength⟩ :=
    (reaches_step h step).keeps fun c hc => hc.keeps
  refine ⟨hattended h.attended, hindexed.trans h.indexed, fun e he => ?_⟩
  by_cases hnew : ∃ name, step = .newPool name
  · obtain ⟨name, rfl⟩ := hnew
    have hmade : (s.step (.newPool name)).2.state.statistics.pools.length
        = s.state.statistics.pools.length + 1 := by
      have hstatistics : (s.step (.newPool name)).2.state.statistics
          = s.state.statistics.newPool.2 :=
        congrArg Books.statistics (books_release ..)
      rw [hstatistics]
      exact List.length_append
    rw [hmade]
    rcases List.mem_cons.1 he with rfl | he
    · exact Nat.lt_succ_self _
    · exact Nat.lt_succ_of_lt (h.pools e (List.mem_of_mem_filter he))
  · rw [pools_step fun name hn => hnew ⟨name, hn⟩] at he
    exact Nat.lt_of_lt_of_le (h.pools e he) hlength

/-- A step leaves no closed pool with a table, unless recorders have the
pool registered in it. -/
theorem untabled_step (h : s.Ruled) (hu : s.state.statistics.Untabled p)
    (hlate : s.state.statistics.isClosed p = true →
      s.registers step p = false) :
    (s.step step).2.state.statistics.Untabled p := by
  have hcalls := reaches_step h step
  cases hreg : s.registers step p with
  | false =>
      refine hcalls.untabled h.attended (fun n hc => ?_) hu
      rw [hc.registers rfl] at hreg
      cases hreg
  | true =>
      -- the pool is open, and no step registers one pool and closes another
      have hopen : s.state.statistics.isClosed p = false := by
        rw [Bool.eq_false_iff]
        intro hclosed
        rw [hlate hclosed] at hreg
        cases hreg
      have hstill := hcalls.stays_open (p := p) (fun c hc hclose => by
        obtain ⟨pool, physical, names, rfl⟩ := hc.closes hclose
        cases hreg) hopen
      intro hclosed
      rw [hstill] at hclosed
      cases hclosed

end Session

-- ================================================================ affairs

/-- What happens to a session and its registry: steps, and calls on the
registry by others than recorders. A pool may be closed without any
connection hearing of it. -/
inductive Affair
  | step (step : Step)
  | register (p : PoolId) (maxQueries : Nat)
  | deregister (p : PoolId)
  | close (p : PoolId)
  deriving DecidableEq, Repr

namespace Session

variable {s : Session} {a : Affair} {p : PoolId}

/-- The session after a call on its registry. -/
def direct (s : Session) (c : Call) : Session :=
  { s with state :=
    { s.state with statistics := s.state.statistics.call c } }

/-- The session after one of them. -/
def undergo (s : Session) : Affair → Session
  | .step step => (s.step step).2
  | .register p maxQueries => s.direct (.register p maxQueries)
  | .deregister p => s.direct (.deregister p)
  | .close p => s.direct (.close p)

/-- The session after some affairs. -/
def after (s : Session) (affairs : List Affair) : Session :=
  affairs.foldl undergo s

/-- Whether somebody has a pool registered. -/
def engages (s : Session) : Affair → PoolId → Bool
  | .step step, p => s.registers step p
  | .register q _, p => q == p
  | _, _ => false

/-- Whether nobody has a pool registered while it is closed. -/
def NeverLate (p : PoolId) : Session → List Affair → Prop
  | _, [] => True
  | s, a :: affairs =>
    (s.state.statistics.isClosed p = true → s.engages a p = false)
      ∧ NeverLate p (s.undergo a) affairs

/-- Every call but dropping the registry leaves it there with its pools. -/
theorem ruled_direct (h : s.Ruled) {c : Call} (hc : c ≠ .dropIndex) :
    (s.direct c).Ruled where
  attended := Registry.attended_call h.attended c
  indexed := (Registry.isSome_index_call hc).trans h.indexed
  pools e he := Nat.lt_of_lt_of_le (h.pools e he)
    (Registry.length_pools_call ..)

/-- Whatever happens, the registry is there with its pools. -/
theorem ruled_undergo (h : s.Ruled) (a : Affair) : (s.undergo a).Ruled := by
  cases a with
  | step step => exact ruled_step h step
  | register p maxQueries => exact ruled_direct h nofun
  | deregister p => exact ruled_direct h nofun
  | close p => exact ruled_direct h nofun

/-- A closed pool stays without a table if nobody has it registered now. -/
theorem untabled_undergo (h : s.Ruled)
    (hu : s.state.statistics.Untabled p)
    (hlate : s.state.statistics.isClosed p = true →
      s.engages a p = false) :
    (s.undergo a).state.statistics.Untabled p := by
  cases a with
  | step step => exact untabled_step h hu hlate
  | register q maxQueries =>
      refine Registry.untabled_call h.attended hu fun n hn => ?_
      cases hn
      rw [Bool.eq_false_iff]
      intro hclosed
      have hno : (p == p) = false := hlate hclosed
      simp at hno
  | deregister q => exact Registry.untabled_call h.attended hu nofun
  | close q => exact Registry.untabled_call h.attended hu nofun

/-- A closed pool never gets a table if nobody has it registered too
late. -/
theorem untabled_after (h : s.Ruled) (hu : s.state.statistics.Untabled p)
    {affairs : List Affair} (hlate : s.NeverLate p affairs) :
    (s.after affairs).state.statistics.Untabled p := by
  induction affairs generalizing s with
  | nil => exact hu
  | cons a affairs ih =>
      exact ih (ruled_undergo h a) (untabled_undergo h hu hlate.1) hlate.2

/-- At the start there is one pool. It is open, and may have been
registered at the first checkout. -/
theorem ruled_start (links : List Link) (guarded checkedOut : Bool)
    (p : PoolId) : (start links guarded checkedOut).Ruled
      ∧ (start links guarded checkedOut).state.statistics.Untabled p := by
  let made := start links guarded false
  have hstatistics : made.state.statistics = Registry.empty.newPool.2 :=
    State.statistics_newConnection ..
  have hattended : Registry.empty.newPool.2.Attended :=
    Registry.attended_call Registry.attended_empty .newPool
  have hpools : made.pools = [("p0", 0)] := rfl
  have hruled : made.Ruled := by
    refine ⟨hstatistics ▸ hattended, hstatistics ▸ rfl, fun e he => ?_⟩
    rw [hpools, List.mem_singleton] at he
    rw [he, hstatistics]
    exact Nat.one_pos
  have huntabled : made.state.statistics.Untabled p := fun _ => by
    rw [hstatistics]
    rfl
  cases checkedOut with
  | false => exact ⟨hruled, huntabled⟩
  | true =>
      have hx : made.state.connection? 0 = some ⟨links, {}⟩ := by
        show (State.installLinks 0 _ links).connections[0]?.join = _
        rw [State.connections_installLinks]
        rfl
      have hopen : made.state.statistics.isClosed 0 = false :=
        hstatistics ▸ rfl
      have hlen : 0 < made.state.statistics.pools.length :=
        hruled.pools ("p0", 0) List.mem_cons_self
      have hcalls := Act.reaches_checkOut hlen hruled.indexed hx 0
      have hrun : (start links guarded true).state.statistics
          = ((Act.checkOut 0 0 0).run made.state).2.statistics :=
        congrArg State.statistics (state_answer made _ _)
      rw [← hrun] at hcalls
      obtain ⟨hattended, hindexed, hlength⟩ :=
        hcalls.keeps fun c ⟨_, n, hc⟩ => by rw [hc]; exact nofun
      refine ⟨⟨hattended hruled.attended, hindexed.trans hruled.indexed,
        fun e he => ?_⟩, ?_⟩
      · have hnames : (start links guarded true).pools = [("p0", 0)] :=
          (sameNames_answer made (Act.checkOut 0 0 0) fun _ => .unit).pools
        rw [hnames, List.mem_singleton] at he
        rw [he]
        exact Nat.lt_of_lt_of_le hlen hlength
      -- what is registered is the first pool, and that is open
      by_cases hp : p = 0
      · subst hp
        have hstill := hcalls.stays_open (p := 0)
          (fun c ⟨_, n, hc⟩ => by rw [hc]; exact nofun) hopen
        intro hclosed
        rw [hstill] at hclosed
        cases hclosed
      · refine hcalls.untabled hruled.attended (fun n hc => ?_) huntabled
        obtain ⟨-, m, hm⟩ := hc
        cases hm
        exact hp rfl

open Statistics.Registry in
/-- Closing a pool takes its table away, and a closed pool has none as
long as nobody has it registered again. This is so whatever chains there
are, and whatever else happens to them, to the pools and to the
registry. -/
theorem untabled_unless_registered (links : List Link)
    (guarded checkedOut : Bool) (affairs : List Affair) (p : PoolId)
    (hlate : (start links guarded checkedOut).NeverLate p affairs) :
    let s := (start links guarded checkedOut).after affairs
    s.state.statistics.isClosed p = true →
      s.state.statistics.tableOf? p = none :=
  untabled_after (ruled_start links guarded checkedOut p).1
    (ruled_start links guarded checkedOut p).2 hlate

/-- The connection hears of its pool's closing, is lent by another pool
that was registered directly, and the first pool is closed once more. -/
theorem other_pool_keeps_its_table :
    let s := (start [.recorder .standard] false true).after
      [.step (.newPool "p1"), .step (.onPool "p0" "x0" (.close ["c0"])),
        .register 1 5, .step (.onConnection "p1" "x0" "c0" .checkOut),
        .close 0]
    s.state.statistics.isClosed 0 = true
      ∧ s.state.statistics.tableOf? 0 = none
      ∧ s.state.statistics.tableOf? 1 = some 1 := by
  intro s
  have hclosed : s.state.statistics.isClosed 0 = true := by decide +kernel
  refine ⟨hclosed, ?_, by decide +kernel⟩
  refine untabled_unless_registered [.recorder .standard] false true
    [.step (.newPool "p1"), .step (.onPool "p0" "x0" (.close ["c0"])),
      .register 1 5, .step (.onConnection "p1" "x0" "c0" .checkOut),
      .close 0] 0 ?_ hclosed
  exact ⟨by decide +kernel, by decide +kernel, by decide +kernel,
    by decide +kernel, by decide +kernel, trivial⟩

/-- A pool that is closed, with its chain told of it, has a table when the
connection is lent once more. It is not taken away when the pool is asked
to close again, since a pool tells of its closing once. -/
theorem late_table_stays :
    let closed := (start [.recorder .standard] false true).after
      [.step (.onPool "p0" "x0" (.close ["c0"]))]
    let lent := closed.after [.step (.onConnection "p0" "x0" "c0" .checkOut)]
    let again := lent.after [.step (.onPool "p0" "x0" (.close ["c0"]))]
    closed.state.statistics.tableOf? 0 = none
      ∧ lent.state.statistics.isClosed 0 = true
      ∧ lent.state.statistics.tableOf? 0 = some 1
      ∧ again.state.statistics.tableOf? 0 = some 1 := by
  decide +kernel

end Session

end PooledChain
