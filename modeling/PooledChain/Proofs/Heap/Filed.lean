/-
What the facades of caches stand on.

A facade that a cache makes bears the generation that the shelf is in,
and it can be parked as long as the shelf is in that generation. Where
its statement comes from is decided when the facade is made: it came up
from below, or the facade takes the place of one that was closed
(`Move.cachedBy`). What comes up was made by the driver just now, or was
on a shelf of the same connection (`Move.rising`).

Two things follow for whole runs:

- Whatever is true of all statements that a connection may still get, and
  of those that the present facades of its caches stand on, stays true of
  them, and is true of every statement that it gives to a caller
  (`Session.filed_step`).
- Caches keep to their connection: what a facade of a cache stands on was
  made for the connection of that cache (`Session.homed_step`).
-/
import PooledChain.Proofs.Heap.Creation

namespace PooledChain

open Scene (Sound)

variable {p : Terms} {c c' : Scene} {s t : State} {k : LinkId}
  {a : LayerId} {g : Nat} {i : ConnectionId} {n : Native.StatementId}

/-- Whether a layer is a facade that the cache `k` made in generation
`g`. -/
def CachedBy (k : LinkId) (g : Nat) (c : Core) : Prop :=
  ∃ f b, c = .facade f ∧ f.behaviour = .cached k g b

/-- What is a facade of a cache later on was one before. -/
theorem Core.Later.cachedBy {c c' : Core} (h : c.Later c')
    (hc : CachedBy k g c') : CachedBy k g c := by
  obtain ⟨f', b, rfl, hb⟩ := hc
  cases h with
  | facade _ _ hb' =>
      rcases hb' with hb' | ⟨k', g', x, hold, hnew⟩
      · exact ⟨_, b, rfl, hb'.symm.trans hb⟩
      · rw [hb] at hnew
        cases hnew
        exact ⟨_, x, rfl, hold⟩

/-- What is parked is a facade of the present generation. -/
theorem State.Stocked.cachedBy (h : s.Stocked) {store : CacheStore}
    {sql : String} (hk : (k, store) ∈ s.caches.entries)
    (he : (sql, a) ∈ store.entries) :
    CachedBy k store.generation (s.core a) := by
  obtain ⟨l, d, hl, -, hc⟩ := (h.shelved hk).entry he
  exact ⟨_, false, (core_eq_of_layer? hl).trans hc, rfl⟩

-- ====================================================== where they are from

/-- A facade of a cache was there before, or took the place of one that
was, or was put around what was on its way up. -/
theorem Move.cachedBy (hm : Move p c c') (h : c.Sound)
    (ha : CachedBy k g (c'.state.core a)) :
    (∃ b, CachedBy k g (c.state.core b)
        ∧ ∀ n, c'.state.Stands a n → c.state.Stands b n)
      ∨ p.creates k.connection
        ∧ (∃ store, c.state.caches.get? k = some store
          ∧ store.generation = g)
        ∧ ∃ d, c.out = some d
          ∧ ∀ n, c'.state.Stands a n → c.state.Stands d n := by
  have holder : ∀ {x d}, c.state.Holds x d → d < x := h.formed.older
  by_cases hlt : a < c.state.layers.length
  · exact .inl ⟨a, (hm.later.core hlt).cachedBy ha,
      fun n hn => hm.later.stands holder hlt hn⟩
  obtain ⟨f, b, hfacade, hb⟩ := ha
  obtain ⟨l, hl, hcore⟩ := State.exists_layer
    (Core.ne_released_of_facade hfacade)
  rw [hfacade] at hcore
  -- the delegate of a new facade was in hand, or under another one
  have hdelegate : ∀ {d}, f.delegate = some d →
      c.out = some d ∨ (∃ b, c.state.Holds b d) →
      ∀ n, c'.state.Stands a n → c.state.Stands d n := by
    intro d hd hhand n hn
    exact hm.stands_before h hhand (hn.of_holds (.of_facade hfacade hd))
  cases hm.adds (Nat.le_of_not_lt hlt) hl with
  | handle hnative _ _ _ =>
      rw [hcore] at hnative
      cases hnative
  | @facade f' d hf hd hout hfresh hcreates _ =>
      rw [hcore] at hf
      cases hf
      exact .inr ⟨hcreates hb, (hfresh hb).2.2, d, hout,
        hdelegate hd (.inl hout)⟩
  | @twin x l' f' d k' g' hx hf hb' hd hl' =>
      rw [hl'] at hcore
      cases hcore
      cases hb
      have hcorex : c.state.core x = .facade f' :=
        (State.core_eq_of_layer? hx).trans hf
      have hholds : c.state.Holds x d := .of_facade hcorex hd
      exact .inl ⟨x, ⟨f', _, hcorex, hb'⟩, fun n hn =>
        .facade hholds (hdelegate rfl (.inr ⟨x, hholds⟩) n hn)⟩

/-- What is on its way up was so before, or a facade was put around it;
or it is the handle of a statement that the driver just made; or it was
on a shelf. -/
theorem Move.rising (hm : Move p c c') (h : c.Sound)
    (ha : c'.out = some a) (hn : c'.state.Stands a n) :
    (∃ d, c.out = some d ∧ c.state.Stands d n)
      ∨ (∃ l i, c'.state.layer? a = some l ∧ l.core = .native (some n)
        ∧ l.connection = some i ∧ p.creates i
        ∧ n = c.state.native.statements.length)
      ∨ ∃ i, c.state.Keeps i a ∧ p.creates i ∧ c.state.Stands a n := by
  have hback : ∀ {d}, c.out = some d → c'.state.Stands d n →
      c.state.Stands d n := fun hd => hm.stands_before h (.inl hd)
  cases hm with
  | @make s st held loose l i _ hl hi hcreates =>
      cases ha
      have hlayer : (s.addLayer l).2.layer? s.layers.length = some l := by
        rw [State.layer?_addLayer_new]
      have hnew : State.core { (s.addLayer l).2 with native := st }
          s.layers.length = l.core := State.core_eq_of_layer? hlayer
      rw [hl] at hnew
      obtain rfl : n = s.native.statements.length :=
        hn.unique (.native hnew)
      exact .inr (.inl ⟨l, i, hlayer, hl, hi, hcreates, rfl⟩)
  | @decorate s held d loose l f hl hd _ _ _ _ _ _ =>
      cases ha
      refine .inl ⟨d, rfl, hback rfl (hn.of_holds ?_)⟩
      rw [State.Holds, State.core_addLayer_new, hl]
      exact hd
  | @shift s _ _ _ _ _ _ _ _ hout =>
      have hsame : s.Stands a n := hn.congr fun _ _ => rfl
      rcases hout ha with ho | ⟨i, hkeeps, hcreates⟩
      · exact .inl ⟨a, ho, hsame⟩
      · exact .inr (.inr ⟨i, hkeeps, hcreates, hsame⟩)
  | give => cases ha
  | aside _ => exact .inl ⟨a, ha, hback ha hn⟩
  | connect _ => exact .inl ⟨a, ha, hback ha hn⟩
  | taint _ _ _ _ => exact .inl ⟨a, ha, hback ha hn⟩
  | shut _ _ _ => exact .inl ⟨a, ha, hback ha hn⟩
  | letGo _ _ => exact .inl ⟨a, ha, hback ha hn⟩
  | twin _ _ _ _ _ => exact .inl ⟨a, ha, hback ha hn⟩
  | letDown _ => exact .inl ⟨a, ha, hback ha hn⟩
  | free _ _ _ => exact .inl ⟨a, ha, hback ha hn⟩

-- ================================================== present generations

/-- Whether a stretch of a run makes statements for one connection at
most, and that connection was there when it began. -/
structure Terms.Serves (p : Terms) : Prop where
  alone : ∀ {i j}, p.creates i → p.creates j → i = j
  old : ∀ {i}, p.creates i → ¬ p.stocks i

/-- What holds in the middle of a step, if `Q` says which statements a
connection may have. -/
structure Scene.Filed (p : Terms)
    (Q : ConnectionId → Native.StatementId → Prop) (c : Scene) : Prop where
  /-- No new shelf is put where facades have been made. -/
  known : ∀ {a k g}, CachedBy k g (c.state.core a) → ¬ p.stocks k.connection
  within : ∀ {a k g store}, CachedBy k g (c.state.core a) →
    c.state.caches.get? k = some store → g ≤ store.generation
  present : ∀ {a k g n store}, CachedBy k g (c.state.core a) →
    c.state.caches.get? k = some store → store.generation = g →
    c.state.Stands a n → Q k.connection n
  rising : ∀ {a i n}, c.out = some a → p.creates i → c.state.Stands a n →
    Q i n
  upcoming : ∀ {i n}, p.creates i →
    c.state.native.statements.length ≤ n → Q i n

variable {Q : ConnectionId → Native.StatementId → Prop}

/-- What is on a shelf is what the connection may have. -/
theorem Scene.Filed.of_keeps (hf : c.Filed p Q) (h : c.Sound)
    (hi : c.state.Keeps i a) (hn : c.state.Stands a n) : Q i n := by
  obtain ⟨k, store, sql, hk, he, rfl⟩ := hi
  exact hf.present (h.stocked.cachedBy hk he)
    (Keyed.get?_of_mem h.stocked.distinct hk) rfl hn

/-- A move hands a cache no statement that its connection may not have. -/
theorem Move.filed (hm : Move p c c') (h : c.Sound) (hp : p.Serves)
    (hf : c.Filed p Q) : c'.Filed p Q where
  known ha := by
    rcases hm.cachedBy h ha with ⟨b, hb, -⟩ | ⟨hcreates, -⟩
    · exact hf.known hb
    · exact hp.old hcreates
  within {a k g store} ha hk := by
    rcases hm.cachedBy h ha with ⟨b, hb, -⟩ | ⟨hcreates, ⟨old, hold, hg⟩, -⟩
    · obtain ⟨old, hold, hle⟩ :=
        (Moves.single hm).shelf_before hk (hf.known hb)
      exact Nat.le_trans (hf.within hb hold) hle
    · obtain ⟨old', hold', hle⟩ :=
        (Moves.single hm).shelf_before hk (hp.old hcreates)
      rw [hold] at hold'
      cases hold'
      rw [← hg]
      exact hle
  present {a k g n store} ha hk hg hn := by
    rcases hm.cachedBy h ha with ⟨b, hb, hstands⟩ | ⟨hcreates, -, d, hd, hstands⟩
    · obtain ⟨old, hold, hle⟩ :=
        (Moves.single hm).shelf_before hk (hf.known hb)
      rw [hg] at hle
      exact hf.present hb hold (Nat.le_antisymm hle (hf.within hb hold))
        (hstands n hn)
    · exact hf.rising hd hcreates (hstands n hn)
  rising {a i n} ha hi hn := by
    rcases hm.rising h ha hn with ⟨d, hd, hdn⟩ | ⟨-, -, -, -, -, -, hlen⟩
      | ⟨j, hkeeps, hj, hjn⟩
    · exact hf.rising hd hi hdn
    · exact hf.upcoming hi (Nat.le_of_eq hlen.symm)
    · rw [hp.alone hi hj]
      exact hf.of_keeps h hkeeps hjn
  upcoming hi hn :=
    hf.upcoming hi (Nat.le_trans ((Moves.single hm).statements_le h) hn)

theorem Moves.filed (hm : Moves p c c') (h : c.Sound) (hp : p.Serves)
    (hf : c.Filed p Q) : c'.Filed p Q :=
  hm.invariant h hf fun hs hmove hf => hmove.filed hs hp hf

-- ======================================================= for whom it is

/-- Whether the open statement `n` was made for that connection. -/
def State.MadeFor (s : State) (i : ConnectionId)
    (n : Native.StatementId) : Prop :=
  ∃ b l, s.layer? b = some l ∧ l.core = .native (some n)
    ∧ l.connection = some i

/-- A statement is open while it has a handle, and was made for one
connection. -/
theorem Scene.Sound.madeFor_unique (h : c.Sound) {j : ConnectionId}
    (hi : c.state.MadeFor i n) (hj : c.state.MadeFor j n) : i = j := by
  obtain ⟨x, l, hx, hxn, hxi⟩ := hi
  obtain ⟨y, l', hy, hyn, hyj⟩ := hj
  have hhandle : ∀ {z m}, c.state.layer? z = some m →
      m.core = .native (some n) → (c.state.core z).handle? = some n := by
    intro z m hz hm
    rw [State.core_eq_of_layer? hz, hm]
    rfl
  obtain rfl : x = y := State.eq_of_gather_nodup h.backed.once rfl
    (hhandle hx hxn) (hhandle hy hyn)
  rw [hx] at hy
  cases hy
  rw [hxi] at hyj
  exact Option.some.inj hyj

/-- While it is known for whom a statement was made, it is open. -/
theorem Scene.Sound.hasOpen_of_madeFor (h : c.Sound)
    (hi : c.state.MadeFor i n) : c.state.native.HasOpen n := by
  obtain ⟨b, l, hb, hcore, -⟩ := hi
  exact h.mem_handles ((State.core_eq_of_layer? hb).trans hcore)

/-- As long as a statement is open, it is known for whom it was made. -/
theorem State.Later.madeFor (h : s.Later t) (hi : s.MadeFor i n)
    {x : LayerId} (hx : x < s.layers.length) (hn : t.core x = .native (some n))
    (hone : s.handles.Nodup) : t.MadeFor i n := by
  obtain ⟨b, l, hb, hbn, hli⟩ := hi
  have hxn : (s.core x).handle? = some n :=
    (h.core hx).handle? (by rw [hn]; rfl)
  have hbh : (s.core b).handle? = some n := by
    rw [State.core_eq_of_layer? hb, hbn]
    rfl
  obtain rfl : x = b := State.eq_of_gather_nodup hone rfl hxn hbh
  obtain ⟨l', hl', hlater⟩ := h.layer hb
  refine ⟨x, l', hl', ?_, hlater.connection.trans hli⟩
  rw [← State.core_eq_of_layer? hl']
  exact hn

/-- A handle that is new is one of a new statement. -/
theorem Move.lt_of_native (hm : Move p c c')
    (hlt : n < c.state.native.statements.length)
    (hn : c'.state.core a = .native (some n)) : a < c.state.layers.length := by
  by_contra hnew
  obtain ⟨l, hl, hcore⟩ := State.exists_layer (Core.ne_released_of_native hn)
  rw [hn] at hcore
  cases hm.adds (Nat.le_of_not_lt hnew) hl with
  | handle hnative _ _ _ =>
      rw [hcore] at hnative
      cases hnative
      exact Nat.lt_irrefl _ hlt
  | facade hf _ _ _ _ _ _ =>
      rw [hcore] at hf
      cases hf
  | twin _ _ _ _ hl' =>
      rw [hl'] at hcore
      cases hcore

/-- For whom a statement was made was settled when it was made. -/
theorem Move.madeFor_before (hm : Move p c c')
    (hlt : n < c.state.native.statements.length)
    (hi : c'.state.MadeFor i n) : c.state.MadeFor i n := by
  obtain ⟨b, l, hl, hcore, hconn⟩ := hi
  have hb : c'.state.core b = .native (some n) :=
    (State.core_eq_of_layer? hl).trans hcore
  have hold : (c.state.core b).handle? = some n :=
    (hm.later.core (hm.lt_of_native hlt hb)).handle? (by rw [hb]; rfl)
  have hold := Core.eq_native_of_handle? hold
  obtain ⟨old, hlold, hcold⟩ := State.exists_layer
    (Core.ne_released_of_native hold)
  obtain ⟨l', hl', hlater⟩ := hm.later.layer hlold
  rw [hl] at hl'
  cases hl'
  exact ⟨b, old, hlold, hcold.trans hold, hlater.connection.symm.trans hconn⟩

/-- For whom an open statement was made does not change. -/
theorem Moves.madeFor_before (hm : Moves p c c') (h : c.Sound)
    (hlt : n < c.state.native.statements.length)
    (hi : c'.state.MadeFor i n) : c.state.MadeFor i n := by
  induction hm with
  | refl => exact hi
  | tail hm hlast ih =>
      exact ih (hlast.madeFor_before
        (Nat.lt_of_lt_of_le hlt (Moves.statements_le hm h)) hi)

/-- Statements are made for who asks for them. -/
theorem Moves.creates_of_madeFor (hm : Moves p c c') (h : c.Sound)
    (hn : c.state.native.statements.length ≤ n)
    (hi : c'.state.MadeFor i n) : p.creates i := by
  induction hm with
  | refl => exact absurd hn (Nat.not_le_of_lt (h.hasOpen_of_madeFor hi).lt)
  | @tail d c' hm hlast ih =>
      obtain ⟨b, l, hb, hcore, hli⟩ := hi
      rcases Nat.lt_or_ge b d.state.layers.length with hlt | hge
      · obtain ⟨old, hold⟩ : ∃ old, d.state.layer? b = some old :=
          ⟨_, List.getElem?_eq_getElem hlt⟩
        obtain ⟨l', hl', hlater⟩ := hlast.later.layer hold
        obtain rfl : l = l' := Option.some.inj (hb.symm.trans hl')
        have hhandle := hlater.core.handle? (n := n) (by rw [hcore]; rfl)
        exact ih ⟨b, old, hold, Core.eq_native_of_handle? hhandle,
          hlater.connection.symm.trans hli⟩
      · cases hlast.adds hge hb with
        | handle _ _ hj hcreates =>
            cases hli.symm.trans hj
            exact hcreates
        | facade hf => cases hcore.symm.trans hf
        | twin _ _ _ _ hl =>
            subst hl
            cases hcore

/-- As long as anything stands on a statement, it is known for whom the
statement was made. -/
theorem Move.madeFor (hm : Move p c c') (h : c.Sound) {x : LayerId}
    (hx : c.state.Stands x n) (hi : c.state.MadeFor i n)
    (hn : c'.state.Stands a n) : c'.state.MadeFor i n := by
  obtain ⟨y, -, hy⟩ := hn.exists_native
  obtain ⟨z, -, hz⟩ := hx.exists_native
  exact hm.later.madeFor hi (hm.lt_of_native (h.mem_handles hz).lt hy) hy
    h.backed.once

/-- Whether the facades of caches, and what is on its way up, stand on
statements that were made for their connections. -/
structure Scene.Homed (p : Terms) (c : Scene) : Prop where
  facade : ∀ {a k g n}, CachedBy k g (c.state.core a) →
    c.state.Stands a n → c.state.MadeFor k.connection n
  rising : ∀ {a i n}, c.out = some a → p.creates i → c.state.Stands a n →
    c.state.MadeFor i n

/-- A move wraps a statement for the connection it was made for. -/
theorem Move.homed (hm : Move p c c') (h : c.Sound) (hp : p.Serves)
    (hh : c.Homed p) : c'.Homed p := by
  have hkept : ∀ {x a i n}, c.state.Stands x n → c.state.MadeFor i n →
      c'.state.Stands a n → c'.state.MadeFor i n :=
    fun hx hi hn => hm.madeFor h hx hi hn
  refine ⟨fun {a k g n} ha hn => ?_, fun {a i n} ha hi hn => ?_⟩
  · rcases hm.cachedBy h ha with ⟨b, hb, hstands⟩ | ⟨hcreates, -, d, hd, hstands⟩
    · exact hkept (hstands n hn) (hh.facade hb (hstands n hn)) hn
    · exact hkept (hstands n hn) (hh.rising hd hcreates (hstands n hn)) hn
  · rcases hm.rising h ha hn with ⟨d, hd, hdn⟩
      | ⟨l, j, hl, hln, hlj, hj, -⟩ | ⟨j, ⟨k, store, sql, hk, he, rfl⟩, hj, hjn⟩
    · exact hkept hdn (hh.rising hd hi hdn) hn
    · rw [hp.alone hi hj]
      exact ⟨a, l, hl, hln, hlj⟩
    · rw [hp.alone hi hj]
      exact hkept hjn (hh.facade (h.stocked.cachedBy hk he) hjn) hn

theorem Moves.homed (hm : Moves p c c') (h : c.Sound) (hp : p.Serves)
    (hh : c.Homed p) : c'.Homed p :=
  hm.invariant h hh fun hs hmove hh => hmove.homed hs hp hh

-- ============================================================ sessions

/-- What holds between two steps, if `Q` says which statements a
connection may have. -/
structure State.Filed (s : State)
    (Q : ConnectionId → Native.StatementId → Prop) : Prop where
  known : ∀ {a k g}, CachedBy k g (s.core a) →
    k.connection < s.connections.length
  within : ∀ {a k g store}, CachedBy k g (s.core a) →
    s.caches.get? k = some store → g ≤ store.generation
  present : ∀ {a k g n store}, CachedBy k g (s.core a) →
    s.caches.get? k = some store → store.generation = g →
    s.Stands a n → Q k.connection n

/-- Whether every facade of a cache stands on a statement that was made
for the cache's connection. -/
structure State.Homed (s : State) : Prop where
  facade : ∀ {a k g n}, CachedBy k g (s.core a) → s.Stands a n →
    s.MadeFor k.connection n

/-- A larger choice of statements. -/
theorem State.Filed.mono (hf : s.Filed Q)
    {Q' : ConnectionId → Native.StatementId → Prop}
    (hQ : ∀ {i n}, s.native.HasOpen n → Q i n → Q' i n) (hs : s.Backed) :
    s.Filed Q' where
  known := hf.known
  within := hf.within
  present ha hk hg hn := by
    obtain ⟨b, -, hb⟩ := hn.exists_native
    exact hQ ((hs.opened _).1 (mem_handles.2 ⟨b, hb⟩))
      (hf.present ha hk hg hn)

namespace Session

variable {s : Session} {step : Step}

/-- Terms under which a step makes statements for the connection that it
asks for one, and puts shelves where it sets up a connection. -/
def serving (s : Session) (step : Step) : Terms :=
  ⟨s.guarded, fun _ => True, fun _ => True, fun _ => True, fun _ => True,
    fun _ => True, fun i => s.state.connections.length ≤ i, s.Creates step,
    False⟩

/-- Each step keeps to the terms of the connection it serves. -/
theorem suits_serving (s : Session) (step : Step) (reply : Reply) :
    Suits (s.serving step) s step reply where
  guarded := rfl
  closes _ := trivial
  taints _ _ _ _ _ := trivial
  discards _ := trivial
  drops _ := ⟨trivial, trivial⟩
  connects _ _ := ⟨trivial, Nat.le_refl _⟩
  creates h := h
  faithful h := h.elim

/-- A connection that is asked for a statement is there. -/
theorem lt_of_creates (h : s.Creates step i) :
    i < s.state.connections.length := by
  cases step with
  | onConnection pool physical name step =>
      obtain ⟨x, hx⟩ := Option.isSome_iff_exists.1 h.2.2
      by_contra hlt
      rw [State.connection?,
        List.getElem?_eq_none (Nat.le_of_not_lt hlt)] at hx
      cases hx
  | _ => exact h.elim

/-- A step makes statements for one connection at most. -/
theorem serves_serving (s : Session) (step : Step) :
    (s.serving step).Serves where
  alone {i j} hi hj := by
    cases step with
    | onConnection pool physical name step =>
        exact Option.some.inj (hi.2.1.symm.trans hj.2.1)
    | _ => exact hi.elim
  old hi := Nat.not_le_of_lt (lt_of_creates hi)

/-- The scene before a step. -/
theorem filed_scene (hf : s.state.Filed Q)
    (hQ : ∀ {i n}, s.Creates step i →
      s.state.native.statements.length ≤ n → Q i n) :
    s.scene.Filed (s.serving step) Q where
  known ha := Nat.not_le_of_lt (hf.known ha)
  within := hf.within
  present := hf.present
  rising h := by cases h
  upcoming := hQ

/-- What is true of all that connections may have stays true, if it is
true of what the driver may make next. -/
theorem filed_step (h : s.Sound) (hord : step.isOrdinary = true)
    (hf : s.state.Filed Q)
    (hQ : ∀ {i n}, s.Creates step i →
      s.state.native.statements.length ≤ n → Q i n) :
    (s.step step).2.state.Filed Q := by
  obtain ⟨hm, -⟩ := moves_step hord h.scene (suits_serving s step _)
  have hfiled := hm.filed h.scene (serves_serving s step) (filed_scene hf hQ)
  exact ⟨fun ha => Nat.lt_of_lt_of_le (Nat.lt_of_not_le (hfiled.known ha))
    hm.connections_le, hfiled.within, hfiled.present⟩

/-- Caches keep to their connection. -/
theorem homed_step (h : s.Sound) (hord : step.isOrdinary = true)
    (hh : s.state.Homed) : (s.step step).2.state.Homed := by
  obtain ⟨hm, -⟩ := moves_step hord h.scene (suits_serving s step _)
  exact ⟨(hm.homed h.scene (serves_serving s step)
    ⟨hh.facade, fun h => by cases h⟩).facade⟩

/-- What is true of all that connections may have stays true along a
run, if it is true of all that the driver may make. -/
theorem filed_run (h : s.Sound) {steps : List Step}
    (hord : ∀ step ∈ steps, step.isOrdinary = true) (hf : s.state.Filed Q)
    (hQ : ∀ {i n}, s.state.native.statements.length ≤ n → Q i n) :
    (s.run steps).state.Filed Q := by
  induction steps generalizing s with
  | nil => exact hf
  | cons step steps ih =>
      have hstep := hord step List.mem_cons_self
      obtain ⟨hm, -⟩ := moves_step hstep h.scene (suits_free s step _)
      rw [run_cons]
      exact ih (h.step hstep) (fun st hst => hord st (List.mem_cons_of_mem _ hst))
        (filed_step h hstep hf fun _ hn => hQ hn)
        fun hn => hQ (Nat.le_trans (hm.statements_le h.scene) hn)

/-- In a run the facades of caches stand on what was made for their
connections. -/
theorem homed_run (h : s.Sound) {steps : List Step}
    (hord : ∀ step ∈ steps, step.isOrdinary = true) (hh : s.state.Homed) :
    (s.run steps).state.Homed := by
  induction steps generalizing s with
  | nil => exact hh
  | cons step steps ih =>
      have hstep := hord step List.mem_cons_self
      rw [run_cons]
      exact ih (h.step hstep) (fun st hst => hord st (List.mem_cons_of_mem _ hst))
        (homed_step h hstep hh)

/-- A session starts without facades. -/
theorem not_cachedBy_start (links : List Link) (guarded checkedOut : Bool)
    (a : LayerId) :
    ¬ CachedBy k g ((start links guarded checkedOut).state.core a) := by
  have hlayers : (start links guarded checkedOut).state.layers = [] :=
    (moves_start (p := .free guarded) rfl trivial trivial checkedOut).2
  rintro ⟨f, b, hf, -⟩
  have hlt := State.lt_of_core (Core.ne_released_of_facade hf)
  rw [hlayers] at hlt
  cases hlt

/-- At the start there are no facades. -/
theorem filed_start (links : List Link) (guarded checkedOut : Bool) :
    (start links guarded checkedOut).state.Filed Q where
  known ha := absurd ha (not_cachedBy_start _ _ _ _)
  within ha := absurd ha (not_cachedBy_start _ _ _ _)
  present ha := absurd ha (not_cachedBy_start _ _ _ _)

/-- At the start no facade of a cache stands on anything. -/
theorem homed_start (links : List Link) (guarded checkedOut : Bool) :
    (start links guarded checkedOut).state.Homed where
  facade ha := absurd ha (not_cachedBy_start _ _ _ _)

/-- What a caller gets came up the chain of the connection that was
asked, in a step that serves that connection. -/
theorem Grants.exists_rising {name op handle}
    (hg : s.Grants step name op handle) (h : s.Sound) :
    ∃ c a n t, s.connections.lookup name = some c
      ∧ (s.step step).2.statements.lookup handle = some a
      ∧ s.Creates step c
      ∧ Moves (s.serving step) s.scene ⟨t, s.held, some a, []⟩
      ∧ t.Stands a n
      ∧ ∀ y, t.Over a y →
        (s.step step).2.state.layer? y = t.layer? y := by
  obtain ⟨c, x, a, t, hname, hc, hask, ha, hkept⟩ := hg.exists_settled h
  have hsome : (s.state.connection? c).isSome = true := by rw [hc]; rfl
  have hcreates : op.creates?.isSome = true → s.Creates step c := by
    intro hk
    cases hg <;> exact ⟨hk, hname, hsome⟩
  have hasks : Act.AsksBelow (s.serving step) _ (Act.askLinks c x.links) :=
    Act.asked_askLinks c fun hf => hf.elim
  have hasked := hasks s.quiet.state s.held [] op (sound_quiet h.scene)
    (fun _ _ => trivial) hcreates
  rw [hask] at hasked
  obtain ⟨kind, hkind⟩ := hasked.creates rfl
  obtain ⟨n, hn, -⟩ := hasked.opened rfl
  exact ⟨c, a, n, t, hname, ha, hcreates (by rw [hkind]; rfl),
    (moves_quiet _ s).trans hasked.moves, hn, hkept⟩

/-- What a caller gets was made for the connection that was asked, and is
what the connection may have. -/
theorem Grants.exists_filed {name op handle}
    (hg : s.Grants step name op handle) (h : s.Sound)
    (hh : s.state.Homed) (hf : s.state.Filed Q)
    (hQ : ∀ {i n}, s.Creates step i →
      s.state.native.statements.length ≤ n → Q i n) :
    ∃ c a n, s.connections.lookup name = some c
      ∧ (s.step step).2.statements.lookup handle = some a
      ∧ (s.step step).2.state.Stands a n
      ∧ (s.step step).2.state.MadeFor c n ∧ Q c n := by
  obtain ⟨c, a, n, t, hname, ha, hcreates, hm, hn, hkept⟩ :=
    hg.exists_rising h
  have hserves := serves_serving s step
  have hrises := (hm.filed h.scene hserves (filed_scene hf hQ)).rising rfl
    hcreates hn
  obtain ⟨b, l, hb, hbn, hl⟩ := (hm.homed h.scene hserves
    ⟨hh.facade, fun h => by cases h⟩).rising rfl hcreates hn
  -- the handle of the statement is under the handle of the caller
  obtain ⟨y, hy, hyn⟩ := hn.exists_native
  have hbn' : t.core b = .native (some n) :=
    (State.core_eq_of_layer? hb).trans hbn
  obtain rfl : y = b := State.eq_of_gather_nodup (hm.sound h.scene).backed.once
    rfl (by rw [hyn]; rfl) (by rw [hbn']; rfl)
  refine ⟨c, a, n, hname, ha, hn.congr fun z hz => ?_,
    ⟨y, l, (hkept y hy).trans hb, hbn, hl⟩, hrises⟩
  rw [State.core, hkept z hz, State.core]

end Session

end PooledChain
