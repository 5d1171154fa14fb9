/-
What a pool does to its connections, as moves.

An event passes all links of a connection and then its terminal. Only a
cache that hears that the physical connection is gone does anything to
statements: it throws away what it holds. Trackers and recorders take or
forget what they note, and the terminal is attached or detached.
-/
import PooledChain.Proofs.Heap.Links

namespace PooledChain

open Scene (Sound)

variable {p : Terms} {s t : State} {held loose : List LayerId}

/-- Whether an event tells that the physical connection is gone. -/
def Event.isLoss : Event → Bool
  | disconnect _ _ _ => true
  | _ => false

/-- A sequence of acts, each of which passes statements by. -/
theorem Aside.bind {g : Bool} {α β : Type} {x : Act α} {f : α → Act β}
    (hx : Aside g s (x.run s).2)
    (hf : ∀ a t, Aside g t ((f a).run t).2) :
    Aside g s ((x >>= f).run s).2 := by
  rw [Act.run_bind]
  rcases hr : x.run s with ⟨e | a, t⟩
  · rw [hr] at hx
    exact hx
  · rw [hr] at hx
    exact hx.trans (hf a t)

namespace Moves

/-- A sequence of acts, each of which is a sequence of moves, whether it
fails or not. -/
theorem bind {α β : Type} {x : Act α} {f : α → Act β}
    (hx : Moves p ⟨s, held, none, loose⟩
      ⟨(x.run s).2, held, none, loose⟩)
    (hf : ∀ a t, x.run s = (.ok a, t) →
      Moves p ⟨t, held, none, loose⟩ ⟨((f a).run t).2, held, none, loose⟩) :
    Moves p ⟨s, held, none, loose⟩
      ⟨((x >>= f).run s).2, held, none, loose⟩ := by
  rw [Act.run_bind]
  rcases hr : x.run s with ⟨e | a, t⟩
  · rw [hr] at hx
    exact hx
  · rw [hr] at hx
    exact hx.trans (hf a t hr)

end Moves

namespace Act

-- ============================================================ emptying

/-- Statements in hand are thrown away one after the other. -/
theorem moves_discardAll {ids : List LayerId}
    (h : Sound ⟨s, held, none, ids ++ loose⟩) :
    Moves p ⟨s, held, none, ids ++ loose⟩
      ⟨((discardAll ids).run s).2, held, none, loose⟩ := by
  induction ids generalizing s with
  | nil => exact .refl _
  | cons id rest ih =>
      have hm : Moves p ⟨s, held, none, id :: (rest ++ loose)⟩
          ⟨((discardParked id).run s).2, held, none, rest ++ loose⟩ :=
        moves_discardParked h
      unfold discardAll
      rw [run_bind]
      rcases hr : (discardParked id).run s with ⟨e | ⟨⟩, t⟩
      · rw [hr] at hm
        refine hm.trans (.rehand (hm.sound h) fun a => ?_)
        rw [List.count_append]
        exact Nat.le_add_left _ _
      · rw [hr] at hm
        exact hm.trans (ih (hm.sound h))

/-- A cache enters its next generation, and what it held is in hand. -/
theorem moves_drain {self : LinkId} (hempties : p.empties self)
    (h : Sound ⟨s, held, none, loose⟩) {store : CacheStore}
    (hk : s.caches.get? self = some store) :
    Moves p ⟨s, held, none, loose⟩
      ⟨{ s with caches := s.caches.set self store.drain.1 }, held, none,
        store.drain.2 ++ loose⟩ := by
  have hin := Keyed.mem_of_get? hk
  have hshelves := (h.shelves p).set hk (h.stocked.known hin)
    (.drain s self store) rfl (Nat.le_succ _)
    fun hn => absurd hempties hn
  refine .single (.shift hshelves (fun a => ?_) fun he => by cases he)
  have hdistinct : s.caches.Distinct := h.stocked.distinct
  have hset := State.count_onShelves_set hdistinct hk store.drain.1 a
  have hnil : store.drain.1.layers.count a = 0 := rfl
  have hrev : store.drain.2.count a = store.layers.count a := by
    show ((store.entries.reverse).map (·.2)).count a = _
    rw [List.map_reverse, List.count_reverse]
    rfl
  rw [List.count_append, hrev, State.parked_eq]
  omega

/-- A cache that is emptied starts a new generation, and then closes what it
held. -/
theorem run_drainCache (self : LinkId) (s : State) :
    (drainCache self).run s = match s.caches.get? self with
      | none => (.ok (), s)
      | some store => (discardAll store.drain.2).run
          { s with caches := s.caches.set self store.drain.1 } := by
  unfold drainCache
  rw [run_bind, run_get]
  simp only
  cases s.caches.get? self <;> rfl

/-- A cache is emptied. -/
theorem moves_drainCache {self : LinkId} (hempties : p.empties self)
    (h : Sound ⟨s, held, none, loose⟩) :
    Moves p ⟨s, held, none, loose⟩
      ⟨((drainCache self).run s).2, held, none, loose⟩ := by
  rw [run_drainCache]
  cases hk : s.caches.get? self with
  | none => exact .refl _
  | some store =>
      have hm := moves_drain hempties h hk
      exact hm.trans (moves_discardAll (hm.sound h))

-- ============================================================== events

/-- Whether a tracker forgets has no part in layers and shelves. -/
theorem aside_clearTracker (g : Bool) (s : State) (self : LinkId) :
    Aside g s (s.clearTracker self) :=
  .of_alike (.modify_tracker s self fun _ => List.nil_subset _)

theorem alike_takeTable (s : State) (self : LinkId)
    (config : RecorderConfig) (pool : Option PoolId) :
    s.Alike (s.takeTable self config pool) := by
  cases pool <;> exact ⟨rfl, rfl, rfl, rfl, fun h => h⟩

theorem alike_leaveTable (s : State) (self : LinkId) (pool : PoolId) :
    s.Alike (s.leaveTable self pool) := by
  unfold State.leaveTable
  simp only
  split <;> exact ⟨rfl, rfl, rfl, rfl, fun h => h⟩

/-- A link hears of an event other than the loss of the physical
connection. -/
theorem aside_hear (g : Bool) (link : Link) (self : LinkId) {event : Event}
    (he : event.isLoss = false) (s : State) :
    Aside g s ((hear link self event).run s).2 := by
  cases link with
  | probe label =>
      refine .of_alike ?_
      cases event <;> exact ⟨rfl, rfl, rfl, rfl, fun h => h⟩
  | cache config =>
      cases event with
      | disconnect => cases he
      | _ => exact .refl s
  | leakTracker =>
      cases event with
      | disconnect => cases he
      | attach => exact aside_clearTracker g s self
      | checkIn => exact aside_clearTracker g s self
      | _ => exact .refl s
  | recorder config =>
      cases event with
      | attach pool x => exact .of_alike (alike_takeTable s self config pool)
      | poolClosed pool => exact .of_alike (alike_leaveTable s self pool)
      | _ => exact .refl s
  | _ => cases event <;> exact .refl s

/-- A link hears that the physical connection is gone. -/
theorem moves_hear_loss (link : Link) (self : LinkId)
    (hempties : p.empties self) {event : Event}
    (he : event.isLoss = true) (h : Sound ⟨s, held, none, loose⟩) :
    Moves p ⟨s, held, none, loose⟩
      ⟨((hear link self event).run s).2, held, none, loose⟩ := by
  cases event with
  | disconnect pool x finalizing =>
      cases link with
      | cache config => exact moves_drainCache hempties h
      | leakTracker => exact .aside (aside_clearTracker _ _ _)
      | probe label =>
          refine .aside (.of_alike ?_)
          exact ⟨rfl, rfl, rfl, rfl, fun h => h⟩
      | _ => exact .refl _
  | _ => cases he

/-- Attaching and detaching do not touch statements. -/
theorem aside_hearTerminal (g : Bool) (c : ConnectionId) (event : Event)
    (s : State) : Aside g s ((hearTerminal c event).run s).2 := by
  unfold hearTerminal
  cases event with
  | attach pool x =>
      simp only [attach, run_modify]
      exact aside_modifyTerminal g s c _
  | checkIn | disconnect =>
      simp only [detach, run_modify]
      exact aside_modifyTerminal g s c _
  | poolStarted | poolClosed => exact .refl s

/-- A chain hears of an event other than the loss of the physical
connection. -/
theorem aside_hearAll (g : Bool) (c : ConnectionId) {event : Event}
    (he : event.isLoss = false) (links : List Link) (s : State) :
    Aside g s ((hearAll c event links).run s).2 := by
  induction links generalizing s with
  | nil => exact aside_hearTerminal g c event s
  | cons link rest ih =>
      have hlink := aside_hear g link ⟨c, rest.length⟩ he s
      exact Aside.bind hlink fun _ t => ih t

/-- Where the physical connection is gone, the caches of a chain are emptied
by moves. -/
theorem moves_hearAll_loss (c : ConnectionId) {event : Event}
    (he : event.isLoss = true) (links : List Link)
    (hempties : ∀ place, p.empties ⟨c, place⟩)
    (h : Sound ⟨s, held, none, loose⟩) :
    Moves p ⟨s, held, none, loose⟩
      ⟨((hearAll c event links).run s).2, held, none, loose⟩ := by
  induction links generalizing s with
  | nil => exact .aside (aside_hearTerminal _ c event s)
  | cons link rest ih =>
      have hm := moves_hear_loss link ⟨c, rest.length⟩ (hempties _) he h
      refine Moves.bind hm fun a t hr => ?_
      rw [hr] at hm
      exact ih (hm.sound h)

/-- Any other event passes the scene by. -/
theorem aside_tell (g : Bool) (c : ConnectionId) {event : Event}
    (he : event.isLoss = false) (s : State) :
    Aside g s ((tell c event).run s).2 := by
  unfold tell
  rw [run_bind, run_get]
  simp only
  cases s.connection? c with
  | none => exact .refl s
  | some connection => exact aside_hearAll g c he connection.links s

/-- A connection that hears of a loss makes moves that empty its caches. -/
theorem moves_tell_loss (c : ConnectionId) {event : Event}
    (he : event.isLoss = true) (hempties : ∀ place, p.empties ⟨c, place⟩)
    (h : Sound ⟨s, held, none, loose⟩) :
    Moves p ⟨s, held, none, loose⟩
      ⟨((tell c event).run s).2, held, none, loose⟩ := by
  unfold tell
  rw [run_bind, run_get]
  simp only
  cases s.connection? c with
  | none => exact .refl _
  | some connection =>
      exact moves_hearAll_loss c he connection.links hempties h

/-- A checkout passes the scene by. -/
theorem aside_checkOut (g : Bool) (c : ConnectionId) (pool : PoolId)
    (x : PhysicalId) (s : State) :
    Aside g s ((checkOut c pool x).run s).2 := by
  have hmod : s.Alike
      (s.modifyPhysical x fun p => { p with checkouts := p.checkouts + 1 }) :=
    ⟨rfl, rfl, rfl, rfl, fun h => h⟩
  exact (Aside.of_alike hmod).trans (aside_tell g c rfl _)

/-- Discarding a physical connection closes no statement. -/
theorem aside_discardPhysical (g : Bool) (x : PhysicalId) (s : State) :
    Aside g s ((discardPhysical x).run s).2 := by
  unfold discardPhysical
  rw [run_bind, run_get]
  simp only
  cases s.physical? x with
  | none => exact .refl s
  | some q =>
      simp only
      split
      · exact .refl s
      · have hmod : s.Alike
            (s.modifyPhysical x fun p => { p with discarded := true }) :=
          ⟨rfl, rfl, rfl, rfl, fun h => h⟩
        refine (Aside.of_alike hmod).trans (.of_native ?_)
        exact Native.isSteady_closeConnection q.native g _

/-- Discarding a connection empties its caches and closes its physical
connection. -/
theorem moves_discardConnection (c : ConnectionId) (pool : PoolId)
    (x : PhysicalId) (hempties : ∀ place, p.empties ⟨c, place⟩)
    (h : Sound ⟨s, held, none, loose⟩) :
    Moves p ⟨s, held, none, loose⟩
      ⟨((discardConnection c pool x).run s).2, held, none, loose⟩ := by
  refine Moves.bind (moves_tell_loss c rfl hempties h) fun a t _ => ?_
  exact .aside (aside_discardPhysical _ x t)

theorem aside_tellAll (g : Bool) {event : Event}
    (he : event.isLoss = false) (cs : List ConnectionId) (s : State) :
    Aside g s ((tellAll event cs).run s).2 := by
  induction cs generalizing s with
  | nil => exact .refl s
  | cons c cs ih => exact (aside_tell g c he s).bind fun _ t => ih t

/-- Closing a pool passes the scene by. -/
theorem aside_closePool (g : Bool) (pool : PoolId)
    (cs : List ConnectionId) (s : State) :
    Aside g s ((closePool pool cs).run s).2 := by
  unfold closePool
  rw [run_bind, run_get]
  simp only
  split
  · have hmark : s.Alike
        { s with statistics := s.statistics.markClosed pool } :=
      ⟨rfl, rfl, rfl, rfl, fun h => h⟩
    rw [run_bind, run_modify]
    refine (Aside.of_alike hmark).trans (Aside.bind
      (aside_tellAll g rfl cs _) fun _ t => .of_alike ?_)
    exact ⟨rfl, rfl, rfl, rfl, fun h => h⟩
  · exact .refl s

/-- A statement is thrown away that a cache holds. -/
theorem moves_forceClose (self : LinkId) (sql : String)
    (h : Sound ⟨s, held, none, loose⟩) :
    Moves p ⟨s, held, none, loose⟩
      ⟨((forceClose self sql).run s).2, held, none, loose⟩ := by
  unfold forceClose
  rw [run_bind, run_get]
  simp only
  cases hk : s.caches.get? self with
  | none => exact .refl _
  | some store =>
      simp only
      cases hf : store.find? sql with
      | none => exact .refl _
      | some id =>
          simp only
          rw [run_bind, run_set]
          have hd := moves_evict (p := p) h hk hf
          simp only
          rw [run_bind]
          rcases hr : (discardParked id).run _ with ⟨e | u, v⟩
          · rw [hr] at hd
            exact hd
          · rw [hr] at hd
            exact hd

end Act

-- ========================================== making and dropping

/-- A shelf for a cache that has none yet. -/
theorem Shelves.install
    (h : Sound ⟨s, held, none, loose⟩) (p : Terms) {k : LinkId}
    (hk : s.caches.get? k = none) (hp : p.stocks k.connection)
    (hc : k.connection < s.connections.length) (capacity : Nat) :
    Shelves p s (s.caches.set k (.empty capacity)) where
  distinct := h.stocked.distinct.set _ _
  shelved {k' store} hin := by
    rcases Keyed.mem_set.1 hin with he | ⟨hin, -⟩
    · cases he
      exact ⟨.empty s k capacity, hc⟩
    · exact ⟨h.stocked.shelved hin, h.stocked.known hin⟩
  later {k' old new} ho hn := by
    rw [Keyed.get?_set] at hn
    split at hn
    · next he =>
      subst he
      rw [hk] at ho
      cases ho
    · rw [ho] at hn
      cases hn
      exact ⟨Nat.le_refl _, rfl⟩
  kept {k' old} ho _ := by
    rw [Keyed.get?_set]
    split
    · next he =>
      subst he
      rw [hk] at ho
      cases ho
    · exact ⟨old, ho, rfl⟩
  stays {k' old} ho _ := by
    rw [Keyed.get?_set]
    split
    · exact ⟨_, rfl⟩
    · exact ⟨old, ho⟩
  new {k' store} ho hn := by
    rw [Keyed.get?_set] at hn
    split at hn
    · next he =>
      subst he
      exact hp
    · rw [ho] at hn
      cases hn

/-- A link is installed. -/
theorem moves_installLink (h : Sound ⟨s, held, none, loose⟩)
    (id : LinkId) (link : Link) (hid : s.caches.get? id = none)
    (hp : p.stocks id.connection)
    (hc : id.connection < s.connections.length) :
    Moves p ⟨s, held, none, loose⟩
        ⟨s.installLink id link, held, none, loose⟩
      ∧ (s.installLink id link).connections = s.connections
      ∧ ∀ k, k ≠ id → (s.installLink id link).caches.get? k
        = s.caches.get? k := by
  unfold State.installLink
  cases link with
  | cache config =>
      simp only
      split
      · refine ⟨.single (.shift (.install h p hid hp hc config.max)
          (fun a => ?_) fun he => .inl he), rfl, fun k hk => ?_⟩
        · have hsub := (State.onShelves_filter s.caches
            fun k => decide (k ≠ id)).count_le a
          rw [State.onShelves_set, List.count_append, State.parked_eq]
          have hnil : (CacheStore.empty config.max).layers.count a = 0 := rfl
          have herase : s.caches.erase id
              = s.caches.filter fun k => decide (k ≠ id) := rfl
          rw [hnil, herase]
          omega
        · show (s.caches.set id _).get? k = _
          rw [Keyed.get?_set, if_neg hk]
      · exact ⟨.refl _, rfl, fun _ _ => rfl⟩
  | leakTracker =>
      refine ⟨.aside (.of_alike (.of_trackers fun {k t} hk => ?_)), rfl,
        fun _ _ => rfl⟩
      rcases Keyed.mem_set.1 hk with he | ⟨hk, -⟩
      · cases he
        exact .inl rfl
      · exact .inr ⟨t, hk, fun _ h => h⟩
  | counter =>
      refine ⟨.aside (.of_alike ?_), rfl, fun _ _ => rfl⟩
      exact ⟨rfl, rfl, rfl, rfl, fun h => h⟩
  | _ => exact ⟨.refl _, rfl, fun _ _ => rfl⟩

/-- The links of a new connection are installed. -/
theorem moves_installLinks {c : ConnectionId} (links : List Link)
    (hp : p.stocks c) (h : Sound ⟨s, held, none, loose⟩)
    (hc : c < s.connections.length)
    (hfresh : ∀ place, place < links.length →
      s.caches.get? ⟨c, place⟩ = none) :
    Moves p ⟨s, held, none, loose⟩
      ⟨State.installLinks c s links, held, none, loose⟩ := by
  induction links generalizing s with
  | nil => exact .refl _
  | cons link rest ih =>
      obtain ⟨hm, hcon, hkeep⟩ := moves_installLink (p := p) h
        ⟨c, rest.length⟩ link (hfresh _ (Nat.lt_succ_self _)) hp hc
      rw [State.installLinks]
      refine hm.trans (ih (hm.sound h) (by rw [hcon]; exact hc)
        fun place hplace => ?_)
      have hne : (⟨c, place⟩ : LinkId) ≠ ⟨c, rest.length⟩ := fun he =>
        Nat.ne_of_lt hplace (congrArg LinkId.place he)
      rw [hkeep _ hne]
      exact hfresh _ (Nat.lt_succ_of_lt hplace)

/-- A connection is made. -/
theorem moves_newConnection {links : List Link}
    (hconnects : p.connects links) (hstocks : p.stocks s.connections.length)
    (h : Sound ⟨s, held, none, loose⟩) :
    Moves p ⟨s, held, none, loose⟩
      ⟨(s.newConnection links).2, held, none, loose⟩ := by
  have hconnect : Moves p ⟨s, held, none, loose⟩
      ⟨{ s with connections := s.connections ++ [some ⟨links, {}⟩] }, held,
        none, loose⟩ := .single (.connect hconnects)
  refine hconnect.trans
    (moves_installLinks links hstocks (hconnect.sound h) ?_ ?_)
  · show s.connections.length
      < (s.connections ++ [some (⟨links, {}⟩ : Connection)]).length
    rw [List.length_append]
    exact Nat.lt_succ_self _
  · intro place _
    cases hk : s.caches.get? ⟨s.connections.length, place⟩ with
    | none => rfl
    | some store =>
        have hlt := h.stocked.known (Keyed.mem_of_get? hk)
        exact absurd hlt (Nat.lt_irrefl _)

/-- A connection is dropped, and its caches with it. -/
theorem moves_dropConnection (c : ConnectionId)
    (hempties : ∀ place, p.empties ⟨c, place⟩)
    (hdrops : ∀ place, p.drops ⟨c, place⟩)
    (h : Sound ⟨s, held, none, loose⟩) :
    Moves p ⟨s, held, none, loose⟩
      ⟨s.dropConnection c, held, none, loose⟩ := by
  have hplaces : ∀ {P : LinkId → Prop}, (∀ place, P ⟨c, place⟩) →
      ∀ k : LinkId, (k.connection != c) = false → P k := by
    intro P hP k hk
    have he : k.connection = c := by simpa using hk
    obtain ⟨c', place⟩ := k
    cases he
    exact hP place
  have hshelves := (h.shelves p).filter (q := fun id => id.connection != c)
    (hplaces hempties) (hplaces hdrops)
  have hshift : Moves p ⟨s, held, none, loose⟩
      ⟨{ s with caches := s.caches.filter fun id => id.connection != c },
        held, none, loose⟩ := by
    refine .single (.shift hshelves (fun a => ?_) fun he => by cases he)
    have hsub := (State.onShelves_filter s.caches
      fun id => id.connection != c).count_le a
    rw [State.parked_eq]
    omega
  refine hshift.trans (.aside ?_)
  refine ⟨rfl, rfl, .refl _, List.length_set, fun {c' x} hx => ?_,
    fun {k n id} hl => ?_⟩
  · refine ⟨x, ?_, rfl⟩
    have hset : ((s.connections.set c none)[c']?).join = some x := hx
    rw [List.getElem?_set] at hset
    split at hset
    · split at hset <;> cases hset
    · exact hset
  · obtain ⟨tr, htr, he⟩ := hl
    exact .inl ⟨tr, (Keyed.mem_filter.1 htr).1, he⟩

end PooledChain
