/-
What is left of a connection's caches when its physical connection is
gone.

Each cache of the chain is emptied in its turn and enters its next
generation. Throwing away what one cache held can put statements on the
shelf of another that was not emptied yet, for the facade below may be
one of that cache. But every facade is of a generation that its cache was
in when the facade was made; once the cache has entered its next
generation all its facades are out of date (`State.Outdated`), and none
of them can be parked any more. Nothing makes new ones before the chain
is asked for a statement. So when the last cache has been emptied, all
shelves are empty and all facades are out of date
(`Session.outdated_step`).
-/
import PooledChain.Proofs.Heap.Filed
import PooledChain.Proofs.Heap.Loans

namespace PooledChain

open Scene (Sound)

variable {p : Terms} {c c' : Scene} {s t : State} {k : LinkId}
  {held loose : List LayerId}

/-- Whether every facade of a cache is of an earlier generation than its
shelf. -/
structure State.Outdated (s : State) (k : LinkId) : Prop where
  earlier : ∀ {a g store}, CachedBy k g (s.core a) →
    s.caches.get? k = some store → g < store.generation

/-- What is out of date is on no shelf. -/
theorem State.Outdated.entries_eq_nil (ho : s.Outdated k) (h : s.Stocked)
    {store : CacheStore} (hk : s.caches.get? k = some store) :
    store.entries = [] := by
  refine List.eq_nil_iff_forall_not_mem.2 fun ⟨sql, a⟩ he => ?_
  exact Nat.lt_irrefl _
    (ho.earlier (h.cachedBy (Keyed.mem_of_get? hk) he) hk)

/-- It stays out of date as long as no statement is asked for. -/
theorem Moves.outdated (hm : Moves p c c') (h : c.Sound)
    (hcreates : ¬ p.creates k.connection) (hstocks : ¬ p.stocks k.connection)
    (ho : c.state.Outdated k) : c'.state.Outdated k := by
  refine hm.invariant (I := fun c => c.state.Outdated k) h ho ?_
  refine fun {c c'} hs hmove ho => ⟨fun {a g store} ha hk => ?_⟩
  obtain ⟨old, hold, hle⟩ := (Moves.single hmove).shelf_before hk hstocks
  rcases hmove.cachedBy hs ha with ⟨b, hb, -⟩ | ⟨hc, -⟩
  · exact Nat.lt_of_lt_of_le (ho.earlier hb hold) hle
  · exact absurd hc hcreates

/-- Terms under which the caches of a connection are emptied, and nothing
is asked for. -/
def Terms.emptying (guarded : Bool) (c : ConnectionId) : Terms :=
  ⟨guarded, fun _ => True, fun _ => False, fun k => k.connection = c,
    fun _ => False, fun _ => False, fun _ => False, fun _ => False, False⟩

/-- Where caches are emptied, no statement is made. -/
theorem Terms.serves_emptying (guarded : Bool) (c : ConnectionId) :
    (Terms.emptying guarded c).Serves where
  alone h := h.elim
  old h := h.elim

namespace Act

variable {guarded : Bool} {i : ConnectionId}

/-- No facade is of a generation to come. -/
abbrev Within (guarded : Bool) (i : ConnectionId) (c : Scene) : Prop :=
  c.Filed (.emptying guarded i) fun _ _ => True

/-- A cache that is emptied leaves its facades behind. -/
theorem outdated_drainCache {self : LinkId} (hself : self.connection = i)
    (h : Sound ⟨s, held, none, loose⟩)
    (hw : Within guarded i ⟨s, held, none, loose⟩) :
    ((drainCache self).run s).2.Outdated self := by
  rw [run_drainCache]
  cases hk : s.caches.get? self with
  | none =>
      refine ⟨fun _ hstore => ?_⟩
      rw [show s.caches.get? self = none from hk] at hstore
      cases hstore
  | some store =>
      have hm := moves_drain (p := .emptying guarded i) hself h hk
      have hs := hm.sound h
      refine (moves_discardAll (p := .emptying guarded i) hs).outdated hs
        (fun h => h) (fun h => h) ⟨fun {a g new} ha hnew => ?_⟩
      have hnew : (s.caches.set self store.drain.1).get? self
          = some new := hnew
      rw [Keyed.get?_set, if_pos rfl] at hnew
      cases hnew
      exact Nat.lt_succ_of_le (hw.within ha hk)

/-- When all links have heard of the loss, all facades of their caches are
out of date. -/
theorem outdated_hearAll {event : Event} (he : event.isLoss = true)
    {links : List Link} (h : Sound ⟨s, held, none, loose⟩)
    (hw : Within guarded i ⟨s, held, none, loose⟩) {above below : List Link}
    {config : CacheConfig} (hlinks : links = above ++ .cache config :: below) :
    ((hearAll i event links).run s).2.Outdated ⟨i, below.length⟩ := by
  subst hlinks
  -- what comes after a link has heard of it
  have hfirst : ∀ (link : Link) (rest : List Link) (s : State),
      (hearAll i event (link :: rest)).run s = (hearAll i event rest).run
        ((hear link ⟨i, rest.length⟩ event).run s).2 := fun link rest s =>
    run_bind_ok _ (Prod.ext (run_hear_ok link ⟨i, rest.length⟩ event s) rfl)
  induction above generalizing s with
  | nil =>
      rw [List.nil_append, hfirst]
      have hm : Moves (.emptying guarded i) ⟨s, held, none, loose⟩
          ⟨((hear (.cache config) ⟨i, below.length⟩ event).run s).2, held,
            none, loose⟩ := moves_hear_loss _ _ rfl he h
      have ho : ((hear (.cache config) ⟨i, below.length⟩ event).run s).2.Outdated
          ⟨i, below.length⟩ := by
        cases event with
        | disconnect pool x finalizing => exact outdated_drainCache rfl h hw
        | _ => cases he
      exact (moves_hearAll_loss (p := .emptying guarded i) i he below
        (fun _ => rfl) (hm.sound h)).outdated (hm.sound h) (fun h => h)
        (fun h => h) ho
  | cons link above ih =>
      rw [List.cons_append, hfirst]
      have hm : Moves (.emptying guarded i) ⟨s, held, none, loose⟩
          ⟨((hear link ⟨i, (above ++ .cache config :: below).length⟩
            event).run s).2, held, none, loose⟩ := moves_hear_loss _ _ rfl he h
      exact ih (hm.sound h)
        (hm.filed h (Terms.serves_emptying guarded i) hw)

/-- A connection that hears of a loss makes what its caches handed out
outdated. -/
theorem outdated_tell {event : Event} (he : event.isLoss = true)
    {x : Connection} (hx : s.connection? i = some x)
    (h : Sound ⟨s, held, none, loose⟩)
    (hw : Within guarded i ⟨s, held, none, loose⟩) {above below : List Link}
    {config : CacheConfig}
    (hlinks : x.links = above ++ .cache config :: below) :
    ((tell i event).run s).2.Outdated ⟨i, below.length⟩ := by
  unfold tell
  rw [run_bind, run_get]
  simp only [hx]
  exact outdated_hearAll he h hw hlinks

end Act

-- ============================================================= sessions

/-- Whether a step tells a connection that its physical connection is
gone. -/
def ConnectionStep.isLoss : ConnectionStep → Bool
  | disconnect _ _ => true
  | discard => true
  | _ => false

namespace Session

variable {s : Session} {step : Step} {i : ConnectionId} {x : Connection}

/-- Whether a step tells that connection that its physical connection is
gone. -/
def loses (s : Session) (i : ConnectionId) : Step → Bool
  | .onConnection pool physical name step =>
    match s.target? pool physical name with
    | some (_, _, c, _) => c == i && step.isLoss
    | none => false
  | _ => false

/-- The form of a step that tells of a loss. -/
theorem exists_of_loses (h : s.loses i step = true) :
    ∃ pool physical name cstep q y x,
      step = .onConnection pool physical name cstep ∧ cstep.isLoss = true
        ∧ s.target? pool physical name = some (q, y, i, x) := by
  cases step with
  | onConnection pool physical name cstep =>
      rw [loses] at h
      split at h
      · next q y c x htarget =>
        rw [Bool.and_eq_true, beq_iff_eq] at h
        obtain ⟨rfl, hloss⟩ := h
        exact ⟨pool, physical, name, cstep, q, y, x, rfl, hloss, htarget⟩
      · cases h
  | _ => cases h

theorem isOrdinary_of_loses (h : s.loses i step = true) :
    step.isOrdinary = true := by
  obtain ⟨_, _, _, _, _, _, _, rfl, -⟩ := exists_of_loses h
  rfl

/-- A step that tells of a loss keeps to these terms. -/
theorem suits_emptying (h : s.loses i step = true) (reply : Reply) :
    Suits (.emptying s.guarded i) s step reply := by
  obtain ⟨pool, physical, name, cstep, q, y, x, rfl, hloss, htarget⟩ :=
    exists_of_loses h
  obtain ⟨hname, -⟩ := lookup_of_target? htarget
  refine ⟨rfl, fun _ => trivial, fun h => ?_, fun {k} hk => ?_,
    fun {k} hk => ?_, fun h => (by cases h), fun {c} hc => ?_,
    fun h => h.elim⟩
  · rcases h with h | h <;> cases h
  · have hk' : s.connections.lookup name = some k.connection := by
      cases cstep <;> first | exact hk | exact hk.elim
    exact Option.some.inj (hk'.symm.trans hname)
  · cases cstep <;> exact hk.elim
  · have hnone : cstep.asked? = none := by
      cases cstep <;> first | rfl | cases hloss
    rw [Creates, hnone] at hc
    exact absurd hc.1 Bool.false_ne_true

/-- Telling of a loss gives nobody a statement. -/
theorem held_of_loses (h : s.loses i step = true) :
    (s.step step).2.statements = s.statements := by
  obtain ⟨pool, physical, name, cstep, q, y, x, rfl, hloss, htarget⟩ :=
    exists_of_loses h
  have htarget : s.quiet.target? pool physical name = some (q, y, i, x) :=
    htarget
  show (s.quiet.act (.onConnection pool physical name cstep)).2.statements
    = s.statements
  rw [act_of_target? htarget]
  have hanswer : ∀ {α : Type} (act : Act α) (reply : α → Reply),
      (s.quiet.answer act reply).2.statements = s.statements := by
    intro α act reply
    rw [answer, perform]
    rcases act.run s.quiet.state with ⟨_ | _, t⟩ <;> rfl
  cases cstep with
  | disconnect | discard => exact hanswer _ _
  | _ => cases hloss

variable {Q : ConnectionId → Native.StatementId → Prop}

/-- What a connection that lost its physical connection has parked, and
what it would park, is out of date. -/
theorem outdated_step (h : s.Sound) (hf : s.state.Filed Q)
    (hloses : s.loses i step = true) {k : LinkId} (hk : k.connection = i)
    (hi : s.state.Installed) {store : CacheStore}
    (hstore : s.state.caches.get? k = some store) :
    (s.step step).2.state.Outdated k := by
  obtain ⟨pool, physical, name, cstep, q, y, x, rfl, hloss, htarget⟩ :=
    exists_of_loses hloses
  have hx := (lookup_of_target? htarget).2
  rw [← hk] at hx
  obtain ⟨above, config, below, hlinks, hplace⟩ := hi.owner hx hstore
  rw [hk] at hx
  obtain rfl : (⟨i, below.length⟩ : LinkId) = k := by
    obtain ⟨c, place⟩ := k
    cases hk
    cases hplace
    rfl
  have hquiet := sound_quiet h.scene
  have hw : Act.Within s.guarded i s.quiet.scene :=
    { known := fun _ h => h
      within := hf.within
      present := fun _ _ _ _ => trivial
      rising := fun h => by cases h
      upcoming := fun h => h.elim }
  have htell : ∀ {event : Event}, event.isLoss = true →
      ((Act.tell i event).run s.quiet.state).2.Outdated ⟨i, below.length⟩ :=
    fun he => Act.outdated_tell he (s := s.quiet.state) hx hquiet hw hlinks
  -- up to the clearing up
  have hact : (s.quiet.act (.onConnection pool physical name cstep)).2.state.Outdated
      ⟨i, below.length⟩ := by
    have htarget : s.quiet.target? pool physical name = some (q, y, i, x) :=
      htarget
    rw [act_of_target? htarget]
    cases cstep with
    | disconnect withPool finalizing =>
        rw [onConnection, state_answer]
        exact htell rfl
    | discard =>
        rw [onConnection, state_answer]
        let event := Event.disconnect (some q) y false
        have hevent : event.isLoss = true := rfl
        have hm := Act.moves_tell_loss (p := .emptying s.guarded i) i hevent
          (fun _ => rfl) hquiet
        have ho := htell hevent
        unfold Act.discardConnection
        rw [Act.run_bind]
        rcases hr : (Act.tell i event).run s.quiet.state with ⟨e | ⟨⟩, t⟩
        · rw [hr] at ho
          exact ho
        · rw [hr] at ho hm
          have haside : Moves (.emptying s.guarded i) ⟨t, s.held, none, []⟩
              ⟨((Act.discardPhysical y).run t).2, s.held, none, []⟩ :=
            .aside (Act.aside_discardPhysical _ y t)
          exact haside.outdated (hm.sound hquiet) (fun h => h) (fun h => h) ho
    | _ => cases hloss
  have hsound : (s.quiet.act
      (.onConnection pool physical name cstep)).2.scene.Sound :=
    (moves_quiet_act h.scene rfl).sound hquiet
  obtain ⟨hrelease, -⟩ :=
    State.moves_release (p := .emptying s.guarded i) hsound
  exact hrelease.outdated hsound (fun h => h) (fun h => h) hact

/-- When a connection has lost its physical connection, all facades of its
caches are out of date. -/
theorem outdated_of_loses (h : s.Sound) (hf : s.state.Filed Q)
    (hi : s.state.Installed) (hloses : s.loses i step = true) {k : LinkId}
    (hk : k.connection = i) : (s.step step).2.state.Outdated k := by
  refine ⟨fun {a g store} ha hstore => ?_⟩
  -- the shelf is not new
  obtain ⟨hm, -⟩ := moves_step (isOrdinary_of_loses hloses) h.scene
    (suits_emptying hloses _)
  obtain ⟨old, hold, -⟩ := hm.shelf_before hstore fun h => h
  exact (outdated_step h hf hloses hk hi hold).earlier ha hstore

/-- Then what the connection had before no longer counts. -/
theorem filed_of_loses (h : s.Sound) (hf : s.state.Filed Q)
    (hi : s.state.Installed) (hloses : s.loses i step = true)
    {Q' : ConnectionId → Native.StatementId → Prop}
    (hQ : ∀ {j n}, j ≠ i → Q' j n) : (s.step step).2.state.Filed Q' := by
  have htrue : s.state.Filed fun _ _ => True :=
    hf.mono (fun _ _ => trivial) h.scene.backed
  have hfiled := filed_step h (isOrdinary_of_loses hloses) htrue
    fun _ _ => trivial
  refine ⟨hfiled.known, hfiled.within, fun {a k g n store} ha hk hg _ => ?_⟩
  by_cases hki : k.connection = i
  · exact absurd hg (Nat.ne_of_lt
      ((outdated_of_loses h hf hi hloses hki).earlier ha hk)).symm
  · exact hQ hki

end Session

end PooledChain
