/-
What is done to the registry of statistics.

Whatever is done with statements, connections and pools comes down, for
the registry, to a few calls (`Registry.Reaches`). Running SQL enters
executions in tables, which changes no pool and no registration
(`Act.enters_dispatch`). A chain that hears that a pool has closed takes
the table of the pool out (`Act.through_tell`), and so the closing of a
pool is that and the call that closes it (`Act.calls_closePool`). A chain
that hears that it is lent has the pool registered, by each of its
recorders (`Act.reaches_hearAll_attach`).
-/
import PooledChain.Proofs.Heap.Tables

namespace PooledChain

open Statistics (Execution Registry TableId)
open Statistics.Registry (Call)

namespace Statistics.Registry

variable {r r' r'' : Registry} {ok ok' : Call → Prop} {c : Call} {p : PoolId}

/-- Whether calls of a kind lead from one registry to another. -/
def Reaches (ok : Call → Prop) (r r' : Registry) : Prop :=
  ∃ calls, (∀ c ∈ calls, ok c) ∧ r' = r.run calls

theorem Reaches.refl (ok : Call → Prop) (r : Registry) : Reaches ok r r :=
  ⟨[], nofun, rfl⟩

theorem Reaches.of_eq (h : r' = r) : Reaches ok r r' := h ▸ .refl ok r

/-- One call of the kind leads to what it makes of the registry. -/
theorem Reaches.of_call (h : ok c) : Reaches ok r (r.call c) :=
  ⟨[c], fun _ hd => List.mem_singleton.1 hd ▸ h, rfl⟩

theorem Reaches.trans (h : Reaches ok r r') (h' : Reaches ok r' r'') :
    Reaches ok r r'' := by
  obtain ⟨calls, hcalls, rfl⟩ := h
  obtain ⟨more, hmore, rfl⟩ := h'
  refine ⟨calls ++ more, fun c hc => ?_, (run_append r calls more).symm⟩
  exact (List.mem_append.1 hc).elim (hcalls c) (hmore c)

theorem Reaches.mono (h : Reaches ok r r') (hok : ∀ c, ok c → ok' c) :
    Reaches ok' r r' :=
  let ⟨calls, hcalls, hrun⟩ := h
  ⟨calls, fun c hc => hok c (hcalls c hc), hrun⟩

/-- What every call of a kind preserves is preserved. -/
theorem Reaches.preserves {P : Registry → Prop} (h : Reaches ok r r')
    (hP : ∀ r c, ok c → P r → P (r.call c)) (hr : P r) : P r' := by
  obtain ⟨calls, hcalls, rfl⟩ := h
  exact run_preserves hP hcalls hr

/-- An execution is entered in a table. -/
def Call.Enters (c : Call) : Prop := ∃ t x, c = .recordHeld t x

/-- What comes before the closing of an open pool and only takes that pool
out can as well come before the pool is marked. -/
theorem Reaches.close (h : Reaches (· = .deregister p) (r.markClosed p) r')
    (hopen : r.isClosed p = false) :
    Reaches (fun c => c = .deregister p ∨ c = .close p) r
      (r'.notifyClosed p) := by
  obtain ⟨calls, hcalls, rfl⟩ := h
  induction calls generalizing r with
  | nil =>
      rw [run, List.foldl_nil, ← close_of_open hopen]
      exact .of_call (c := .close p) (.inr rfl)
  | cons c calls ih =>
      obtain rfl := hcalls c List.mem_cons_self
      -- taking a pool out and marking it closed go past each other
      have hrest := ih (r := r.deregister p) hopen
        fun d hd => hcalls d (List.mem_cons_of_mem _ hd)
      exact (Reaches.of_call (c := .deregister p) (.inl rfl)).trans hrest

/-- Taking a table on neither sets the index up nor drops it. -/
theorem isSome_index_register (r : Registry) (p : PoolId) (maxQueries : Nat) :
    (r.register p maxQueries).2.index.isSome = r.index.isSome := by
  rw [register]
  split
  · rfl
  · exact Option.isSome_map ..

/-- The index goes when it is taken away. -/
theorem isSome_index_call (h : c ≠ .dropIndex) :
    (r.call c).index.isSome = r.index.isSome := by
  cases c with
  | register p maxQueries =>
      rw [call]
      split
      · exact isSome_index_register r p maxQueries
      · rfl
  | deregister p => exact Option.isSome_map ..
  | record p x => rw [call]; split <;> rfl
  | close p =>
      rw [call, close]
      split
      · rfl
      · exact isSome_index_repeat ..
  | dropIndex => exact absurd rfl h
  | newPool | recordHeld | snapshot => rfl

/-- Where the index is not taken away, nothing is. -/
theorem Reaches.keeps (h : Reaches ok r r') (hok : ∀ c, ok c → c ≠ .dropIndex) :
    (r.Attended → r'.Attended) ∧ r'.index.isSome = r.index.isSome
      ∧ r.pools.length ≤ r'.pools.length := by
  refine h.preserves
    (P := fun r' => (r.Attended → r'.Attended)
      ∧ r'.index.isSome = r.index.isSome ∧ r.pools.length ≤ r'.pools.length)
    (fun r' c hc hr => ?_) ⟨id, rfl, Nat.le_refl _⟩
  obtain ⟨hattended, hindexed, hlength⟩ := hr
  exact ⟨fun ha => attended_call (hattended ha) c,
    (isSome_index_call (hok c hc)).trans hindexed,
    Nat.le_trans hlength (length_pools_call r' c)⟩

end Statistics.Registry

open Statistics.Registry (Reaches)

namespace Act

variable {α β : Type} {ok : Call → Prop} {s : State} {x : Act α}

/-- Whether an act comes down to calls of a kind, whether it fails or
not. -/
def Calls (ok : Call → Prop) (x : Act α) : Prop :=
  ∀ s : State, Reaches ok s.statistics (x.run s).2.statistics

namespace Calls

/-- A silent act comes down to no calls. -/
theorem of_silent (h : Silent x) : Calls ok x :=
  fun s => .of_eq (congrArg Books.statistics (h s))

theorem attempt (h : Calls ok x) : Calls ok (Act.attempt x) := h

/-- Calls made by an act are followed by those of what comes after it,
wherever that starts from. -/
theorem after {f : α → Act β}
    (hx : Reaches ok s.statistics (x.run s).2.statistics)
    (hf : ∀ a, Calls ok (f a)) :
    Reaches ok s.statistics ((x >>= f).run s).2.statistics := by
  rw [run_bind]
  rcases hr : x.run s with ⟨e | a, t⟩ <;> rw [hr] at hx
  · exact hx
  · exact hx.trans (hf a t)

theorem bind {f : α → Act β} (hx : Calls ok x) (hf : ∀ a, Calls ok (f a)) :
    Calls ok (x >>= f) :=
  fun s => after (hx s) hf

theorem get_bind {f : State → Act β} (hf : ∀ s : State,
    Reaches ok s.statistics ((f s).run s).2.statistics) :
    Calls ok ((get : Act State) >>= f) := hf

end Calls

-- ============================================================ statements

/-- Whether the layers below at most enter executions. -/
def EntersBelow (below : Below) : Prop :=
  ∀ id op, Calls Call.Enters (below id op)

variable {below : Below} {op : StatementOp} {id : LayerId}

theorem enters_forward (h : EntersBelow below) (id : LayerId)
    (op : StatementOp) : Calls Call.Enters (forward below id op) := by
  intro s
  rw [run_forward]
  split
  · exact h _ op s
  · exact .refl _ _

theorem enters_recordExecution (table : TableId) (config : RecorderConfig)
    (sql : String) (elapsed started : Nat) :
    Calls Call.Enters (recordExecution table config sql elapsed started) := by
  have henter : Calls Call.Enters (modify fun s : State => { s with
      statistics := s.statistics.record table sql (UInt64.ofNat elapsed)
        (.ofMilliseconds started) }) := fun s =>
    .of_call (c := .recordHeld table ⟨sql, .ofNat elapsed, .ofMilliseconds started⟩)
      ⟨_, _, rfl⟩
  unfold recordExecution
  split
  · refine henter.bind fun _ => ?_
    split
    · exact .get_bind fun _ => .refl _ _
    · exact .of_silent (.pure _)
  · exact .of_silent (.pure _)

/-- Timing an operation enters at most the execution that was timed, besides
those below. -/
theorem enters_timed (h : EntersBelow below) (id : LayerId)
    (own : Option String) (table : TableId) (config : RecorderConfig)
    (op : StatementOp) :
    Calls Call.Enters (timed below id own table config op) := by
  unfold timed
  split
  · refine .get_bind fun s =>
      Calls.bind (enters_forward h id op) (fun reply => .get_bind fun t => ?_) s
    split
    · next sql _ =>
      exact Calls.bind (enters_recordExecution table config sql _ _)
        (fun _ => .of_silent (.pure _)) t
    · exact .refl _ _
  · exact enters_forward h id op

theorem enters_invoke (h : EntersBelow below) (id : LayerId)
    (own : Option String) (b : Behaviour) (op : StatementOp) :
    Calls Call.Enters (invoke below id own b op) := by
  unfold invoke
  split
  · exact enters_timed h id own _ _ op
  · refine .bind (.of_silent (.modify fun _ => rfl)) fun _ => ?_
    split
    · exact .of_silent (.pure _)
    · exact enters_forward h id op
  · exact enters_forward h id op

theorem enters_useFacade (h : EntersBelow below) (id : LayerId)
    (layer : Layer) (f : Facade) (op : StatementOp) :
    Calls Call.Enters (useFacade below id layer f op) := by
  unfold useFacade
  split
  · exact .of_silent (.throw _)
  · refine .bind (.attempt (enters_invoke h id _ _ op)) fun r => ?_
    split
    · exact .of_silent (.pure _)
    · exact .of_silent (.bind (silent_report id _ _) fun _ => .throw _)

/-- Asking a layer at most enters executions if asking the layers below
does. -/
theorem enters_ask (hs : SilentBelow below) (h : EntersBelow below) :
    EntersBelow (ask below) := by
  intro id op
  by_cases hop : op.isExecution = true
  · intro s
    rw [run_ask]
    split
    · exact .refl _ _
    · next l _ =>
      split
      · exact Calls.of_silent (silent_askNative id _) s
      · next f _ =>
        have hface : askFacade below id l f op = useFacade below id l f op := by
          cases op <;> first | rfl | cases hop
        rw [hface]
        exact enters_useFacade h id l f op s
      · exact .refl _ _
  · exact .of_silent (silent_ask hs id op (Bool.eq_false_iff.2 hop))

/-- Asking a layer at most enters executions, however deep its stack is. -/
theorem enters_within (depth : Nat) : EntersBelow (within depth) := by
  induction depth with
  | zero => exact enters_ask (fun _ _ _ => .throw _) fun _ _ _ => .refl _ _
  | succ depth ih => exact enters_ask (silent_within depth) ih

/-- What is done with a statement enters executions, and that is all. -/
theorem enters_dispatch (id : LayerId) (op : StatementOp) :
    Calls Call.Enters (dispatch id op) :=
  .get_bind fun s => enters_within _ id op s

/-- An operation on a statement at most enters executions. -/
theorem enters_forwardStatement (id : LayerId) (op : StatementOp) :
    Calls Call.Enters (forwardStatement id op) :=
  .get_bind fun s => enters_forward (enters_within _) id op s

-- ====================================================== what pools tell

/-- Whether an act comes through, and comes down to calls of a kind. -/
def Through (ok : Call → Prop) (x : Act PUnit) : Prop :=
  ∀ s : State, ∃ t, x.run s = (.ok ⟨⟩, t)
    ∧ Reaches ok s.statistics t.statistics

theorem Through.pure : Through ok (Pure.pure ⟨⟩) :=
  fun s => ⟨s, rfl, .refl _ _⟩

theorem Through.bind {x : Act PUnit} {f : PUnit → Act PUnit}
    (hx : Through ok x) (hf : Through ok (f ⟨⟩)) : Through ok (x >>= f) := by
  intro s
  obtain ⟨t, ht, hcalls⟩ := hx s
  obtain ⟨u, hu, hmore⟩ := hf t
  exact ⟨u, (run_bind_ok f ht).trans hu, hcalls.trans hmore⟩

/-- What comes through comes down to the calls it makes. -/
theorem Through.calls {x : Act PUnit} (h : Through ok x) : Calls ok x := by
  intro s
  obtain ⟨t, ht, hcalls⟩ := h s
  rw [ht]
  exact hcalls

variable {p : PoolId} {c : ConnectionId} {links : List Link}

/-- A link that hears of a pool's end takes its table out at most. -/
theorem through_hear_poolClosed (link : Link) (self : LinkId) (p : PoolId) :
    Through (· = .deregister p) (hear link self (.poolClosed p)) := by
  intro s
  cases link with
  | recorder config =>
      refine ⟨s.leaveTable self p, rfl, ?_⟩
      have hleave : (s.leaveTable self p).statistics
          = s.statistics.deregister p := by
        rw [State.leaveTable]
        split <;> rfl
      rw [hleave]
      exact .of_call (c := .deregister p) rfl
  | _ => exact ⟨_, rfl, .refl _ _⟩

/-- A chain that hears that a pool has closed takes it out. -/
theorem through_tell (c : ConnectionId) (p : PoolId) :
    Through (· = .deregister p) (tell c (.poolClosed p)) := by
  have hall : ∀ links, Through (· = .deregister p)
      (hearAll c (.poolClosed p) links) := fun links => by
    induction links with
    | nil => exact .pure
    | cons link rest ih => exact (through_hear_poolClosed link _ p).bind ih
  intro s
  unfold tell
  rw [run_bind, run_get]
  simp only
  cases s.connection? c with
  | none => exact Through.pure s
  | some x => exact hall x.links s

/-- Telling all connections of a pool's end comes through, and takes its
table out at most. -/
theorem through_tellAll (p : PoolId) (cs : List ConnectionId) :
    Through (· = .deregister p) (tellAll (.poolClosed p) cs) := by
  induction cs with
  | nil => exact .pure
  | cons c cs ih => exact (through_tell c p).bind ih

/-- Closing a pool comes down to taking it out, for every recorder that
hears of it, and closing it. -/
theorem calls_closePool (p : PoolId) (cs : List ConnectionId) :
    Calls (fun c => c = .deregister p ∨ c = .close p) (closePool p cs) := by
  refine .get_bind fun s => ?_
  split
  · next hopen =>
    let marked : State := { s with statistics := s.statistics.markClosed p }
    obtain ⟨t, ht, htold⟩ := through_tellAll p cs marked
    have hrun : ((modify fun s : State =>
          { s with statistics := s.statistics.markClosed p }) >>= fun _ =>
        tellAll (.poolClosed p) cs >>= fun _ => modify fun s : State =>
          { s with statistics := s.statistics.notifyClosed p }).run s
        = (.ok ⟨⟩, { t with statistics := t.statistics.notifyClosed p }) := by
      rw [run_bind, run_modify]
      exact run_bind_ok _ ht
    rw [hrun]
    exact htold.close (by simpa using hopen)
  · exact .refl _ _

/-- A recorder that hears that it is lent by a pool has the pool
registered; where nothing lends it, and where it is no recorder, nothing
is. -/
theorem reaches_hear_attach {s : State} {pool : Option PoolId}
    (hpool : ∀ p ∈ pool, p < s.statistics.pools.length)
    (hi : s.statistics.index.isSome = true) (link : Link) (self : LinkId)
    (x : Option PhysicalId) :
    ∃ t, (hear link self (.attach pool x)).run s = (.ok ⟨⟩, t)
      ∧ Reaches (fun c => link.isRecorder = true
        ∧ ∃ p ∈ pool, ∃ n, c = .register p n) s.statistics t.statistics := by
  cases link with
  | recorder config =>
      refine ⟨s.takeTable self config pool, rfl, ?_⟩
      cases pool with
      | none => exact .refl _ _
      | some p =>
          have hregister : s.statistics.call (.register p config.maxQueries)
              = (s.statistics.register p config.maxQueries).2 :=
            if_pos ⟨hpool p rfl, hi⟩
          show Reaches _ s.statistics
            (s.statistics.register p config.maxQueries).2
          rw [← hregister]
          exact .of_call ⟨rfl, p, rfl, _, rfl⟩
  | _ => exact ⟨_, rfl, .refl _ _⟩

/-- A chain that hears that it is lent by a pool has the pool registered,
by each of its recorders. -/
theorem reaches_hearAll_attach {s : State}
    (hp : p < s.statistics.pools.length)
    (hi : s.statistics.index.isSome = true) (x : Option PhysicalId)
    (links : List Link) :
    Reaches (fun d => (∃ link ∈ links, link.isRecorder = true)
        ∧ ∃ n, d = .register p n) s.statistics
      ((hearAll c (.attach (some p) x) links).run s).2.statistics := by
  induction links generalizing s with
  | nil => exact Calls.of_silent (silent_hearTerminal c _) s
  | cons link rest ih =>
      obtain ⟨t, ht, hlink⟩ := reaches_hear_attach
        (fun q hq => Option.some.inj hq ▸ hp) hi link ⟨c, rest.length⟩ x
      obtain ⟨-, hindexed, hlength⟩ := hlink.keeps fun d hd => by
        obtain ⟨-, q, -, n, rfl⟩ := hd
        exact nofun
      rw [hearAll, run_bind_ok _ ht]
      refine (hlink.mono fun d hd => ?_).trans
        ((ih (Nat.lt_of_lt_of_le hp hlength) (hindexed.trans hi)).mono
          fun d hd => ?_)
      · obtain ⟨hrec, q, hq, n, rfl⟩ := hd
        exact ⟨⟨link, List.mem_cons_self, hrec⟩, n, Option.some.inj hq ▸ rfl⟩
      · obtain ⟨⟨l, hl, hrec⟩, hd⟩ := hd
        exact ⟨⟨l, List.mem_cons_of_mem _ hl, hrec⟩, hd⟩

/-- Lending is heard of by the whole chain. -/
theorem run_checkOut {s : State} {x : Connection}
    (hx : s.connection? c = some x) (p : PoolId) (y : PhysicalId) :
    (checkOut c p y).run s
      = (hearAll c (.attach (some p) (some y)) x.links).run
        (s.modifyPhysical y fun p => { p with checkouts := p.checkouts + 1 }) := by
  unfold checkOut
  rw [run_bind, run_modify]
  simp only
  unfold tell
  rw [run_bind, run_get]
  have hx : (s.modifyPhysical y fun p =>
      { p with checkouts := p.checkouts + 1 }).connection? c = some x := hx
  simp only [hx]

/-- A checkout takes a table on for its pool only, and only if a recorder is
in the chain. -/
theorem reaches_checkOut {s : State} (hp : p < s.statistics.pools.length)
    (hi : s.statistics.index.isSome = true) {x : Connection}
    (hx : s.connection? c = some x) (y : PhysicalId) :
    Reaches (fun d => (∃ link ∈ x.links, link.isRecorder = true)
        ∧ ∃ n, d = .register p n) s.statistics
      ((checkOut c p y).run s).2.statistics := by
  rw [run_checkOut hx]
  exact reaches_hearAll_attach (s := s.modifyPhysical y _) hp hi (some y) x.links

end Act

/-- Making a connection leaves the registry as it is. -/
theorem State.statistics_newConnection (s : State) (links : List Link) :
    (s.newConnection links).2.statistics = s.statistics := by
  obtain ⟨_, _, _, h⟩ := Session.installLinks_eq s.connections.length
    { s with connections := s.connections ++ [some { links }] } links
  have hstatistics := congrArg State.statistics h
  exact hstatistics

end PooledChain
