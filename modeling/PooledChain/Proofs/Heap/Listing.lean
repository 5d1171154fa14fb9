/-
What a shelf holds, read as the list of a ledger.

A shelf reads as a list if the two agree entry by entry: the same SQL in
the same order, and each parked facade stands on the statement of the
driver that is listed (`State.Reads`). This module says how that reading
changes when a caller closes a handle, when a statement is closed by
force, and when layers are added, in a state with a single shelf.

A handle is closed in one of two ways. If the facade of the cache under
it is fit, the shelf takes its statement (`reads_close_parks`) unless it
holds the SQL already (`reads_close_listed`). If no facade under it is of the shelf's
generation and unbroken, the shelf takes nothing (`reads_close_spent`).
-/
import PooledChain.Proofs.Heap.Dead
import PooledChain.Proofs.Heap.Marks
import PooledChain.Proofs.Heap.Ready
import PooledChain.Proofs.Heap.Supply
import PooledChain.Proofs.Heap.Yield
import PooledChain.Proofs.Ledger
import Mathlib.Data.List.Forall2

namespace PooledChain

open Scene (Sound)

variable {s t u : State} {held : List LayerId} {k : LinkId} {max : Nat}
  {listed : List Entry} {id : LayerId} {e : Entry} {n : Native.StatementId}
  {sql : String}

-- ============================================================ the reading

namespace State

/-- Whether a parked layer is what an entry lists. -/
structure Shows (s : State) (p : String × LayerId) (e : Entry) : Prop where
  sql : p.1 = e.sql
  stands : s.Stands p.2 e.statement

/-- Whether a shelf with room for `max` statements holds what is listed,
in this order. -/
structure Reads (s : State) (k : LinkId) (max : Nat)
    (listed : List Entry) : Prop where
  shelf : ∃ store, s.caches.get? k = some store ∧ store.capacity = max
    ∧ List.Forall₂ s.Shows store.entries listed

/-- Whether what callers hold stands on what it stood on. -/
structure Upholds (s : State) (held : List LayerId) (t : State) : Prop where
  stands : ∀ {r n}, r ∈ held → s.Stands r n → t.Stands r n

end State

open State (Shows Reads Upholds)

/-- A relation between entries may use that they are entries. -/
theorem forall₂_of_mem {α β : Type} {R S : α → β → Prop} {l : List α}
    {m : List β} (h : List.Forall₂ R l m)
    (hrs : ∀ a b, a ∈ l → R a b → S a b) : List.Forall₂ S l m :=
  ((List.forall₂_and_left l m).2 ⟨fun _ ha => ha, h⟩).imp
    fun a b hab => hrs a b hab.1 hab.2

/-- What is related to an entry is among the others. -/
theorem exists_of_forall₂ {α β : Type} {R : α → β → Prop} {l : List α}
    {m : List β} (h : List.Forall₂ R l m) {a : α} (ha : a ∈ l) :
    ∃ b ∈ m, R a b := by
  induction h with
  | nil => cases ha
  | cons hab _ ih =>
      rcases List.mem_cons.1 ha with rfl | ha
      · exact ⟨_, List.mem_cons_self, hab⟩
      · obtain ⟨b, hb, hr⟩ := ih ha
        exact ⟨b, List.mem_cons_of_mem _ hb, hr⟩

/-- What a shelf holds is parked. -/
theorem mem_parked_of_shelf {store : CacheStore} {p : String × LayerId}
    (hk : s.caches.get? k = some store) (hp : p ∈ store.entries) :
    p.2 ∈ s.parked :=
  State.mem_onShelves.2 ⟨k, store, p.1, Keyed.mem_of_get? hk, hp⟩

/-- No layer is parked twice. -/
theorem nodup_layers (h : Sound ⟨s, held, none, []⟩) {store : CacheStore}
    (hk : s.caches.get? k = some store) : store.layers.Nodup := by
  have hparked : s.parked.Nodup := h.owned.nodup_parked
  rw [State.parked_eq,
    (State.onShelves_perm h.stocked.distinct hk).nodup_iff] at hparked
  exact (List.nodup_append.1 hparked).1

/-- What had to go is not on the shelf. -/
theorem CacheStore.ne_evicted_of_mem (store : CacheStore) {sql : String}
    {p : String × LayerId} (hnodup : store.layers.Nodup)
    (hnew : id ∉ store.layers) (hp : p ∈ (store.park sql id).1.entries) :
    (store.park sql id).2 ≠ some p.2 := by
  intro hev
  have hperm := store.park_perm sql id
  rw [hev] at hperm
  have hall := hperm.nodup_iff.2 (List.nodup_cons.2 ⟨hnew, hnodup⟩)
  exact (List.nodup_append.1 hall).2.2 _ (List.mem_map_of_mem hp) _
    List.mem_cons_self rfl

/-- The list says the same of the texts. -/
theorem texts_of_shows {store : CacheStore}
    (h : List.Forall₂ s.Shows store.entries listed) :
    store.texts = listed.map (·.sql) := by
  rw [CacheStore.texts]
  generalize store.entries = entries at h ⊢
  induction h with
  | nil => rfl
  | cons hp _ ih => rw [List.map_cons, List.map_cons, hp.sql, ih]

/-- What is found for a SQL text is listed for it. -/
theorem find?_of_shows {store : CacheStore} (sql : String)
    (h : List.Forall₂ s.Shows store.entries listed) :
    (∃ a e, store.find? sql = some a
        ∧ listed.find? (·.sql == sql) = some e ∧ s.Shows (sql, a) e)
      ∨ store.find? sql = none ∧ listed.find? (·.sql == sql) = none := by
  rw [CacheStore.find?]
  generalize store.entries = entries at h ⊢
  induction h with
  | nil => exact .inr ⟨rfl, rfl⟩
  | @cons p e entries listed hp _ ih =>
      obtain ⟨text, a⟩ := p
      have hsql : text = e.sql := hp.sql
      by_cases he : e.sql = sql
      · refine .inl ⟨a, e, ?_, ?_, ⟨he.symm, hp.stands⟩⟩
        · rw [List.lookup_cons, hsql, he, beq_self_eq_true]
        · rw [List.find?_cons, he, beq_self_eq_true]
      · rw [List.lookup_cons, List.find?_cons, hsql,
          beq_eq_false_iff_ne.2 he, beq_eq_false_iff_ne.2 (Ne.symm he)]
        exact ih

/-- What is taken off the shelf leaves the list. -/
theorem shows_remove {store : CacheStore} (sql : String)
    (h : List.Forall₂ s.Shows store.entries listed) :
    List.Forall₂ s.Shows (store.remove sql).entries
      (listed.filter (·.sql != sql)) := by
  rw [CacheStore.remove]
  refine List.rel_filter (fun p e hp => ?_) h
  show (p.1 != sql) = true ↔ (e.sql != sql) = true
  rw [hp.sql]

namespace State

theorem Reads.congr (h : s.Reads k max listed)
    (hk : t.caches.get? k = s.caches.get? k)
    (hstands : ∀ {r n}, r ∈ s.parked → s.Stands r n → t.Stands r n) :
    t.Reads k max listed := by
  obtain ⟨store, hstore, hmax, hshows⟩ := h.shelf
  exact ⟨store, hk.trans hstore, hmax, forall₂_of_mem hshows
    fun p e hp hpe => ⟨hpe.sql,
      hstands (mem_parked_of_shelf hstore hp) hpe.stands⟩⟩

/-- What is on the shelf is not released. -/
theorem Reads.release (h : s.Reads k max listed)
    (hs : Sound ⟨s, held, none, []⟩) :
    (s.release held).Reads k max listed :=
  h.congr (by rw [caches_release]) fun hr hn =>
    hn.release (Scene.Sound.formed hs) (.inr hr)

/-- Layers are added. -/
theorem Reads.grown (h : s.Reads k max listed) (hg : s.Grown t)
    (hk : t.caches = s.caches) : t.Reads k max listed :=
  h.congr (by rw [hk]) fun _ hn => hg.stands hn

/-- A statement is taken off the shelf. -/
theorem Reads.taken (h : s.Reads k max listed) {store : CacheStore}
    (hstore : s.caches.get? k = some store) (hg : s.Grown t)
    (hk : t.caches = s.caches.set k (store.remove sql)) :
    t.Reads k max (listed.filter (·.sql != sql)) := by
  obtain ⟨store', hstore', hmax, hshows⟩ := h.shelf
  rw [hstore] at hstore'
  cases hstore'
  refine ⟨store.remove sql, by rw [hk, Keyed.get?_set, if_pos rfl], hmax,
    (shows_remove sql hshows).imp fun p e hp => ⟨hp.sql, hg.stands hp.stands⟩⟩

-- ====================================================== handles by their use

/-- Whether a handle stands on the statement of an entry, which goes to
the shelf `k` when the handle is closed. -/
structure Lends (s : State) (k : LinkId) (id : LayerId) (e : Entry) :
    Prop where
  ready : s.Ready k e.sql id
  stands : s.Stands id e.statement

/-- Whether no shelf takes back what a handle stands on: what is not
broken under it is of an earlier generation. -/
structure Spent (s : State) (id : LayerId) : Prop where
  earlier : ∀ {a f k g store}, s.Over id a → s.core a = .facade f →
    f.behaviour = .cached k g false → s.caches.get? k = some store →
    g < store.generation

/-- What no shelf takes back is refused. -/
theorem Spent.refused (h : s.Spent id) : s.Refused id := by
  refine ⟨fun {a l f k g d store sql} hover hl hf hb _ hk _ => ?_⟩
  have hlt := h.earlier hover ((core_eq_of_layer? hl).trans hf) hb hk
  refine Bool.eq_false_iff.2 fun ha => ?_
  obtain ⟨hg, -⟩ := CacheStore.accepts_eq_true.1 ha
  exact Nat.ne_of_lt hlt hg

/-- The facade under a handle by which its statement goes to the shelf. -/
theorem Ready.exists_facade (h : s.Ready k sql id) (hn : s.Stands id n) :
    ∃ a l f d store, s.Leads id a ∧ s.caches.get? k = some store
      ∧ s.layer? a = some l ∧ l.sql = some sql ∧ l.core = .facade f
      ∧ f.behaviour = .cached k store.generation false
      ∧ f.delegate = some d := by
  obtain ⟨a, hlead, hfit⟩ := h
  obtain ⟨store, l, f, hstore, hl, hsql, hcore, hb⟩ := hfit.facade
  have hfacade : s.core a = .facade f := (core_eq_of_layer? hl).trans hcore
  have han : s.Stands a n := hn.of_over hlead.over
  obtain ⟨d, hd⟩ : ∃ d, f.delegate = some d := by
    cases han with
    | native hcore' =>
        rw [hfacade] at hcore'
        cases hcore'
    | @facade _ d _ hholds _ =>
        refine ⟨d, ?_⟩
        rw [Holds, hfacade] at hholds
        exact hholds
  exact ⟨a, l, f, d, store, hlead, hstore, hl, hsql, hcore, hb, hd⟩

/-- Facades of one level on one way down are one. -/
theorem Over.eq_of_level (hl : s.Leveled) {a b : LayerId}
    (h : s.Over a b) (hlevel : (s.core a).level = (s.core b).level) :
    a = b := by
  rcases Relation.ReflTransGen.cases_head h with he | ⟨d, hd, hdb⟩
  · exact he
  · have hlow := hl hd
    have hle := Over.level_le hl hdb
    omega

/-- A shelf that has the SQL takes nothing for it. -/
theorem Ready.refused (h : s.Ready k sql id) (hf : s.Formed)
    (hn : s.Stands id n) (hsole : ∀ {k' store},
      s.caches.get? k' = some store → k' = k) {store : CacheStore}
    (hk : s.caches.get? k = some store) (hin : sql ∈ store.texts) :
    s.Refused id := by
  obtain ⟨a, l, f, d, store', hlead, hstore, hl, hsql, hcore, hb, -⟩ :=
    h.exists_facade hn
  have hlevel : ∀ {x f' k' g}, s.core x = .facade f' →
      f'.behaviour = .cached k' g false → (s.core x).level = k'.place + 1 := by
    intro x f' k' g hx hb'
    rw [hx]
    exact hf.placed x hx hb'
  refine ⟨fun {a' l' f' k' g d' store'' sql'} hover hl' hf' hb' _ hk' hsql' =>
    ?_⟩
  obtain rfl := hsole hk'
  have ha : s.core a = .facade f := (core_eq_of_layer? hl).trans hcore
  have ha' : s.core a' = .facade f' := (core_eq_of_layer? hl').trans hf'
  -- both are facades of the one cache
  have hsame : a = a' := by
    have heq := (hlevel ha hb).trans (hlevel ha' hb').symm
    rcases hlead.over.total hover with ho | ho
    · exact ho.eq_of_level hf.leveled heq
    · exact (ho.eq_of_level hf.leveled heq.symm).symm
  subst hsame
  rw [hl] at hl'
  cases hl'
  rw [hsql] at hsql'
  cases hsql'
  rw [hk] at hk'
  cases hk'
  exact Bool.eq_false_iff.2 fun hacc =>
    (CacheStore.accepts_eq_true.1 hacc).2 hin

end State

-- ============================================================== closing

namespace Act

open State (Undone Spent Lends)

/-- Only a handle is taken apart. -/
theorem reads_of_undone (h : Sound ⟨s, held, none, []⟩) (hheld : id ∈ held)
    (hu : s.Undone id t) (hreads : s.Reads k max listed) :
    t.Reads k max listed ∧ s.Upholds (held.filter (· != id)) t := by
  refine ⟨hreads.congr (by rw [hu.caches]) fun {r n} hr hn => ?_,
    ⟨fun {r n} hr hn => ?_⟩⟩
  · exact hu.stands h (.inl hheld) (.inr (.inl hr))
      (fun he => h.owned.not_parked_of_held hheld (he ▸ hr)) hn
  · obtain ⟨hr, hne⟩ := List.mem_filter.1 hr
    exact hu.stands h (.inl hheld) (.inl hr) (bne_iff_ne.1 hne) hn

/-- The shelf has the SQL of what is closed. -/
theorem reads_close_listed (h : Sound ⟨s, held, none, []⟩)
    (hheld : id ∈ held)
    (hsole : ∀ {k' store}, s.caches.get? k' = some store → k' = k)
    (hreads : s.Reads k max listed) (hl : s.Lends k id e)
    (hin : e.sql ∈ listed.map (·.sql)) :
    ((dispatch id .close).run s).2.Reads k max listed
      ∧ s.Upholds (held.filter (· != id)) ((dispatch id .close).run s).2 := by
  obtain ⟨store, hstore, -, hshows⟩ := hreads.shelf
  refine reads_of_undone h hheld (undone_close h.formed ?_) hreads
  refine hl.ready.refused h.formed hl.stands hsole hstore ?_
  rw [texts_of_shows hshows]
  exact hin

/-- The shelf takes what is closed. -/
theorem reads_close_parks (h : Sound ⟨s, held, none, []⟩)
    (hheld : id ∈ held)
    (hsole : ∀ {k' store}, s.caches.get? k' = some store → k' = k)
    (hmax : 0 < max) (hreads : s.Reads k max listed) (hl : s.Lends k id e)
    (hin : e.sql ∉ listed.map (·.sql)) :
    ((dispatch id .close).run s).2.Reads k max ((e :: listed).take max)
      ∧ s.Upholds (held.filter (· != id)) ((dispatch id .close).run s).2 := by
  obtain ⟨store, hstore, rfl, hshows⟩ := hreads.shelf
  obtain ⟨a, l, f, d, store', hlead, hstore', hlayer, hsql, hcore, hb, hd⟩ :=
    hl.ready.exists_facade hl.stands
  rw [hstore] at hstore'
  cases hstore'
  have hfree : e.sql ∉ store.texts := by
    rw [texts_of_shows hshows]
    exact hin
  obtain ⟨t, hrun, hparks, hstands⟩ := close_parks h hheld hlead hlayer hcore
    hb hd hl.stands hstore hmax hsql
    (CacheStore.accepts_eq_true.2 ⟨rfl, hfree⟩)
  rw [hrun]
  have hfits := (h.stocked.shelved (Keyed.mem_of_get? hstore)).fits
  have hentries := store.entries_park e.sql s.layers.length hfits
  -- nothing has changed but the handle and what had to go
  have hkept : ∀ {r m}, Scene.Top ⟨s, held, none, []⟩ r → r ≠ id →
      (store.park e.sql s.layers.length).2 ≠ some r → s.Stands r m →
      t.Stands r m := by
    intro r m hr hne hstay hm
    refine hm.congr fun x hx => ?_
    have hlt := State.lt_of_core (hm.of_over hx).not_released
    refine State.core_congr_layer (hparks.frame.layer hlt ?_)
    rintro (ho | ⟨e', he', ho⟩ | ⟨e', ⟨k', st, sql', hin', hlow, -⟩, -⟩)
    · exact hne (h.owned.top_unique hr (.inl hheld) hx ho)
    · obtain ⟨sql', hmem⟩ := store.mem_of_park_evicts _ _ hmax he'
      have htop : Scene.Top ⟨s, held, none, []⟩ e' :=
        .inr (.inl (mem_parked_of_shelf hstore hmem))
      exact hstay (h.owned.top_unique hr htop hx ho ▸ he')
    · rw [hsole (Keyed.get?_of_mem h.stocked.distinct hin')] at hlow
      exact Nat.lt_irrefl _ hlow
  refine ⟨⟨_, hparks.shelf, CacheStore.capacity_park .., ?_⟩,
    ⟨fun {r m} hr hm => ?_⟩⟩
  · rw [hentries]
    have hall : List.Forall₂ (fun p e' => p = (e.sql, s.layers.length) ∧ e' = e
        ∨ p ∈ store.entries ∧ s.Shows p e')
        (((e.sql, s.layers.length) :: store.entries).take store.capacity)
        ((e :: listed).take store.capacity) := by
      refine List.forall₂_take _ (.cons (.inl ⟨rfl, rfl⟩) ?_)
      exact forall₂_of_mem hshows fun p e' hp hpe => .inr ⟨hp, hpe⟩
    refine forall₂_of_mem hall fun p e' hp hpe => ?_
    rcases hpe with ⟨rfl, rfl⟩ | ⟨hmem, hpe⟩
    · exact ⟨rfl, hstands⟩
    · have hparked := mem_parked_of_shelf hstore hmem
      refine ⟨hpe.sql, hkept (.inr (.inl hparked)) (fun he =>
        h.owned.not_parked_of_held hheld (he ▸ hparked)) (fun hev => ?_)
        hpe.stands⟩
      refine store.ne_evicted_of_mem (nodup_layers h hstore) (fun hnew => ?_)
        (by rw [hentries]; exact hp) hev
      obtain ⟨p', hp', heq⟩ := List.mem_map.1 hnew
      have hlive := h.owned.living (.inr (Scene.mem_owned.2
        (.inr (.inl (mem_parked_of_shelf hstore hp')))))
      exact Nat.ne_of_lt (State.lt_of_core hlive) heq
  · obtain ⟨hr, hne⟩ := List.mem_filter.1 hr
    refine hkept (.inl hr) (bne_iff_ne.1 hne) (fun hev => ?_) hm
    obtain ⟨sql', hmem⟩ := store.mem_of_park_evicts _ _ hmax hev
    exact h.owned.not_parked_of_held hr (mem_parked_of_shelf hstore hmem)

/-- No shelf takes what is closed. -/
theorem reads_close_spent (h : Sound ⟨s, held, none, []⟩)
    (hheld : id ∈ held) (hreads : s.Reads k max listed)
    (hspent : s.Spent id) :
    ((dispatch id .close).run s).2.Reads k max listed
      ∧ s.Upholds (held.filter (· != id)) ((dispatch id .close).run s).2 :=
  reads_of_undone h hheld (undone_close h.formed hspent.refused) hreads

/-- What is closed was closed before. -/
theorem reads_close_dead (h : Sound ⟨s, held, none, []⟩)
    (hheld : id ∈ held) (hreads : s.Reads k max listed)
    (hdead : s.Dead id) :
    ((dispatch id .close).run s).2.Reads k max listed
      ∧ s.Upholds held ((dispatch id .close).run s).2 := by
  obtain ⟨t, hrun, hu⟩ := exists_close_dead h.whole
    (h.owned.living (.inl hheld)) hdead (Nat.le_refl (s.core id).level)
  have hclose : (dispatch id .close).run s = (.ok .unit, t) := hrun
  rw [hclose]
  exact ⟨hreads.congr (by rw [hu.caches]) fun _ hn => hu.stands hn,
    ⟨fun _ hn => hu.stands hn⟩⟩

/-- What is taken off the only shelf to be thrown away has nothing under
it that a shelf would take. -/
theorem undone_evict (h : Sound ⟨s, held, none, []⟩)
    (hsole : ∀ {k' store}, s.caches.get? k' = some store → k' = k)
    {store : CacheStore} (hstore : s.caches.get? k = some store)
    {a : LayerId} (hmem : (sql, a) ∈ store.entries)
    (ht : t = { s with caches := s.caches.set k (store.remove sql) }) :
    t.Undone a ((discardParked a).run t).2 := by
  obtain ⟨l, d, hl, -, hcore⟩ :=
    (h.stocked.shelved (Keyed.mem_of_get? hstore)).entry hmem
  have hlayers : t.layers = s.layers := by rw [ht]
  have ha : t.core a = .facade ⟨k.place + 1, some d, false,
      .cached k store.generation false⟩ := by
    rw [State.core_congr hlayers]
    exact (State.core_eq_of_layer? hl).trans hcore
  have hformed : t.Formed := h.formed.congr hlayers
  have hholds : t.Holds a d := by
    rw [State.Holds, ha]
    rfl
  have hlow := hformed.leveled hholds
  rw [ha] at hlow
  refine undone_discardParked hformed ha rfl
    (State.refused_of_low hformed (Nat.le_of_lt_succ hlow) ?_)
  intro k' store' hk'
  have hsame : k' = k := by
    rw [ht, Keyed.get?_set] at hk'
    split at hk'
    · assumption
    · exact hsole hk'
  exact Nat.le_of_eq (congrArg LinkId.place hsame.symm)

/-- A statement is taken off the shelf and thrown away. -/
theorem reads_forceClose (h : Sound ⟨s, held, none, []⟩)
    (hsole : ∀ {k' store}, s.caches.get? k' = some store → k' = k)
    (hreads : s.Reads k max listed) (sql : String) :
    ((forceClose k sql).run s).2.Reads k max
        (listed.filter (·.sql != sql))
      ∧ s.Upholds held ((forceClose k sql).run s).2 := by
  obtain ⟨store, hstore, hmax, hshows⟩ := hreads.shelf
  unfold forceClose
  rw [run_bind, run_get]
  simp only [hstore]
  cases hfind : store.find? sql with
  | none =>
      refine ⟨?_, ⟨fun _ hn => hn⟩⟩
      -- nothing is listed for the text either
      rcases find?_of_shows sql hshows with ⟨a, e, hf, -⟩ | ⟨-, hnone⟩
      · rw [hfind] at hf
        cases hf
      · rw [List.filter_eq_self.2 fun e he => ?_]
        · exact hreads
        · exact bne_iff_ne.2 fun hsql =>
            List.find?_eq_none.1 hnone e he (beq_iff_eq.2 hsql)
  | some a =>
      have hmem := CacheStore.mem_of_find? hfind
      have hparked := mem_parked_of_shelf hstore hmem
      have hu := undone_evict h hsole hstore hmem rfl
      simp only
      rw [run_bind, run_set]
      simp only
      obtain ⟨t, hrun⟩ := run_discardParked_ok a
        { s with caches := s.caches.set k (store.remove sql) }
      rw [run_bind, hrun]
      rw [hrun] at hu
      -- whatever else is held or parked stands as before
      have hkept : ∀ {r m}, Scene.Top ⟨s, held, none, []⟩ r → r ≠ a →
          s.Stands r m → t.Stands r m := by
        intro r m hr hne hm
        exact hm.congr fun x hx => State.core_congr_layer <|
          hu.layer fun ho => hne (h.owned.top_unique hr (.inr (.inl hparked))
            hx (ho.congr fun _ _ => rfl))
      refine ⟨⟨store.remove sql, ?_, hmax,
        forall₂_of_mem (shows_remove sql hshows) fun p e hp hpe =>
          ⟨hpe.sql, ?_⟩⟩, ⟨fun {r m} hr hm => hkept (.inl hr) (fun he =>
            h.owned.not_parked_of_held hr (he ▸ hparked)) hm⟩⟩
      · show t.caches.get? k = _
        rw [hu.caches, Keyed.get?_set, if_pos rfl]
      · obtain ⟨hp, hne⟩ := List.mem_filter.1 hp
        refine hkept (.inr (.inl (mem_parked_of_shelf hstore hp)))
          (fun he => bne_iff_ne.1 hne ?_) hpe.stands
        -- it would be parked for two texts
        obtain ⟨l, -, hl, hsql, -⟩ :=
          (h.stocked.shelved (Keyed.mem_of_get? hstore)).entry hmem
        obtain ⟨l', -, hl', hsql', -⟩ :=
          (h.stocked.shelved (Keyed.mem_of_get? hstore)).entry hp
        rw [he, hl] at hl'
        cases hl'
        exact Option.some.inj (hsql'.symm.trans hsql)

/-- A statement is used otherwise. -/
theorem reads_marks {g : Bool} {hit : LayerId → Prop}
    (hm : Marks g hit s t) (hreads : s.Reads k max listed) :
    t.Reads k max listed ∧ s.Upholds held t :=
  ⟨hreads.congr (by rw [hm.caches]) fun _ hn => hm.stands.2 hn,
    ⟨fun _ hn => hm.stands.2 hn⟩⟩

end Act

end PooledChain
