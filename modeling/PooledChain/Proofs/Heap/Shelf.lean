/-
What a shelf holds after it was changed.

Parking puts a layer in front and may push the last one out; taking a
statement off and emptying the shelf leave the others, or none. Each of
these moves what a shelf holds into somebody's hands, which is said in
counts, and leaves a shelf that its layers can be on (`Shelves`).
-/
import PooledChain.Proofs.Heap.Move

namespace PooledChain

open List (Perm Sublist)

namespace CacheStore

variable (store : CacheStore) (sql : String) (id : LayerId)

-- ============================================================== parking

@[simp] theorem generation_park :
    (store.park sql id).1.generation = store.generation := by
  rw [park]
  split <;> rfl

@[simp] theorem capacity_park :
    (store.park sql id).1.capacity = store.capacity := by
  rw [park]
  split <;> rfl

/-- What was on the shelf and what is put there: it stays, or it is
pushed out. -/
theorem park_perm :
    Perm ((store.park sql id).1.layers ++ (store.park sql id).2.toList)
      (id :: store.layers) := by
  have hall : id :: store.layers
      = ((sql, id) :: store.entries).map (·.2) := rfl
  rw [park, hall]
  split
  · have hne : (sql, id) :: store.entries ≠ [] := List.cons_ne_nil _ _
    have hlast := List.getLast?_eq_some_getLast hne
    have hcut := List.dropLast_append_getLast hne
    simp only [layers, hlast, Option.map_some, Option.toList_some]
    conv => rhs; rw [← hcut]
    rw [List.map_append]
    exact .refl _
  · simp only [layers, Option.toList_none, List.append_nil]
    exact .refl _

/-- Where there is room for one, the statement stands in front. -/
theorem entries_park (hfits : store.size ≤ store.capacity) :
    (store.park sql id).1.entries
      = ((sql, id) :: store.entries).take store.capacity := by
  have hsize : store.entries.length ≤ store.capacity := hfits
  rw [park]
  split
  · next hfull =>
    have hfull' : store.capacity < store.entries.length + 1 := hfull
    rw [List.dropLast_eq_take, List.length_cons,
      show store.entries.length + 1 - 1 = store.capacity by omega]
  · next hroom =>
    have hroom' : ¬ store.capacity < store.entries.length + 1 := hroom
    rw [List.take_of_length_le]
    rw [List.length_cons]
    omega

/-- It stands in front, if there is room for any. -/
theorem head?_park (hfits : store.size ≤ store.capacity)
    (hroom : 0 < store.capacity) :
    (store.park sql id).1.entries.head? = some (sql, id) := by
  rw [store.entries_park sql id hfits]
  obtain ⟨room, hr⟩ := Nat.exists_eq_succ_of_ne_zero (Nat.ne_of_gt hroom)
  rw [hr, List.take_succ_cons]
  rfl

/-- What has to go was parked before, if there is room for one. -/
theorem mem_of_park_evicts {e : LayerId} (hroom : 0 < store.capacity)
    (he : (store.park sql id).2 = some e) :
    ∃ sql', (sql', e) ∈ store.entries := by
  rw [park] at he
  split at he
  · next hfull =>
    have hfull' : store.capacity < store.entries.length + 1 := hfull
    have hne : store.entries ≠ [] := by
      intro hnil
      rw [hnil, List.length_nil] at hfull'
      omega
    rw [List.getLast?_cons_of_ne_nil hne,
      List.getLast?_eq_some_getLast hne] at he
    cases he
    exact ⟨_, List.getLast_mem hne⟩
  · cases he

/-- After parking a shelf holds the new entry and old ones, in their
order. -/
theorem park_sublist :
    Sublist (store.park sql id).1.entries ((sql, id) :: store.entries) := by
  rw [park]
  split
  · exact List.dropLast_sublist _
  · exact .refl _

/-- A statement can be parked if it is of the shelf's generation and its
SQL is not there yet. -/
theorem accepts_eq_true {store : CacheStore} {sql : String} {g : Nat} :
    store.accepts sql g = true ↔
      g = store.generation ∧ sql ∉ store.texts := by
  rw [accepts, Bool.and_eq_true, beq_iff_eq, Option.isNone_iff_eq_none,
    find?, List.lookup_eq_none_iff]
  refine and_congr_right fun _ => ?_
  simp only [texts, List.mem_map]
  constructor
  · rintro h ⟨e, he, rfl⟩
    exact bne_iff_ne.1 (h e he) rfl
  · intro h e he
    rw [bne_iff_ne]
    exact fun hs => h ⟨e, he, hs.symm⟩

-- ========================================================== taking away

variable {store : CacheStore} {sql : String} {id : LayerId}

/-- What is found on a shelf is one of its entries. -/
theorem mem_of_find? (h : store.find? sql = some id) :
    (sql, id) ∈ store.entries := by
  rw [find?, List.lookup_eq_some_iff] at h
  obtain ⟨l₁, l₂, he, -⟩ := h
  rw [he]
  exact List.mem_append_right _ List.mem_cons_self

/-- What is taken off a shelf is the one statement for that SQL. -/
theorem remove_perm (hd : store.texts.Nodup)
    (h : store.find? sql = some id) :
    Perm (id :: (store.remove sql).layers) store.layers := by
  have hmem := mem_of_find? h
  obtain ⟨l₁, l₂, he⟩ := List.append_of_mem hmem
  have hne : ∀ e ∈ l₁ ++ l₂, (e.1 != sql) = true := by
    intro e hin
    rw [texts, he, List.map_append, List.map_cons, List.nodup_middle,
      List.nodup_cons, ← List.map_append] at hd
    rw [bne_iff_ne]
    intro heq
    exact hd.1 (heq ▸ List.mem_map_of_mem (f := (·.1)) hin)
  have hrest : (store.remove sql).entries = l₁ ++ l₂ := by
    rw [remove, he, List.filter_append, List.filter_cons]
    simp only [bne_self_eq_false, Bool.false_eq_true, if_false]
    rw [← List.filter_append, List.filter_eq_self.2 hne]
  rw [layers, layers, hrest, he, List.map_append, List.map_append,
    List.map_cons]
  exact Perm.symm List.perm_middle

/-- Taking a text off a shelf leaves only old entries. -/
theorem remove_sublist : Sublist (store.remove sql).entries store.entries :=
  List.filter_sublist

end CacheStore

-- ============================================== shelves after a change

/-- `State.onShelves_set`, counted. -/
theorem State.count_onShelves_set {caches : Keyed LinkId CacheStore}
    (hd : caches.Distinct) {k : LinkId} {store : CacheStore}
    (hk : caches.get? k = some store) (store' : CacheStore) (a : LayerId) :
    (onShelves (caches.set k store')).count a + store.layers.count a
      = store'.layers.count a + (onShelves caches).count a := by
  have hold := (onShelves_perm hd hk).count_eq a
  rw [List.count_append] at hold
  rw [onShelves_set, List.count_append, hold]
  omega

namespace Shelves

variable {p : Terms} {s : State} {caches : Keyed LinkId CacheStore}
  {k : LinkId} {store store' : CacheStore}

/-- One shelf is replaced by one that its layers can be on. -/
theorem set (h : Shelves p s caches) (hk : s.caches.get? k = some store)
    (hmem : k.connection < s.connections.length)
    (hs : s.Shelved k store') (hc : store'.capacity = store.capacity)
    (hg : store.generation ≤ store'.generation)
    (hkept : ¬ p.empties k → store'.generation = store.generation) :
    Shelves p s (caches.set k store') where
  distinct := h.distinct.set _ _
  shelved {k' st} hin := by
    rcases Keyed.mem_set.1 hin with he | ⟨hin, -⟩
    · cases he
      exact ⟨hs, hmem⟩
    · exact h.shelved hin
  later {k' old new} ho hn := by
    rw [Keyed.get?_set] at hn
    split at hn
    · next he =>
      subst he
      rw [hk] at ho
      cases ho
      cases hn
      exact ⟨hg, hc⟩
    · exact h.later ho hn
  kept {k' old} ho hne := by
    rw [Keyed.get?_set]
    split
    · next he =>
      subst he
      rw [hk] at ho
      cases ho
      exact ⟨store', rfl, hkept hne⟩
    · exact h.kept ho hne
  stays {k' old} ho hne := by
    rw [Keyed.get?_set]
    split
    · exact ⟨store', rfl⟩
    · exact h.stays ho hne
  new {k' st} ho hn := by
    rw [Keyed.get?_set] at hn
    split at hn
    · next he =>
      subst he
      rw [hk] at ho
      cases ho
    · exact h.new ho hn

/-- Shelves are dropped by caches that are allowed to. -/
theorem filter (h : Shelves p s caches) {q : LinkId → Bool}
    (hempties : ∀ k, q k = false → p.empties k)
    (hdrops : ∀ k, q k = false → p.drops k) :
    Shelves p s (caches.filter q) where
  distinct := h.distinct.filter q
  shelved hin := h.shelved (Keyed.mem_filter.1 hin).1
  later {k old new} ho hn := by
    rw [Keyed.get?_filter] at hn
    split at hn
    · exact h.later ho hn
    · cases hn
  kept {k old} ho hne := by
    rw [Keyed.get?_filter]
    split
    · exact h.kept ho hne
    · next hk => exact absurd (hempties k (by simpa using hk)) hne
  stays {k old} ho hne := by
    rw [Keyed.get?_filter]
    split
    · exact h.stays ho hne
    · next hk => exact absurd (hdrops k (by simpa using hk)) hne
  new {k store} ho hn := by
    rw [Keyed.get?_filter] at hn
    split at hn
    · exact h.new ho hn
    · cases hn

end Shelves

namespace State.Shelved

variable {s : State} {k : LinkId} {store : CacheStore} {sql : String}
  {id d : LayerId} {l : Layer}

/-- A shelf from which something was taken. -/
theorem of_sublist (h : s.Shelved k store) {store' : CacheStore}
    (hsub : Sublist store'.entries store.entries)
    (hg : store'.generation = store.generation)
    (hc : store'.capacity = store.capacity) : s.Shelved k store' where
  distinct := h.distinct.sublist (hsub.map _)
  fits := by
    rw [hc]
    exact Nat.le_trans hsub.length_le h.fits
  entry he := by
    rw [hg]
    exact h.entry (hsub.subset he)

/-- A shelf on which a statement was put for which it has none yet. -/
theorem park (h : s.Shelved k store) (hsql : sql ∉ store.texts)
    (hl : s.layer? id = some l) (hlsql : l.sql = some sql)
    (hcore : l.core = .facade ⟨k.place + 1, some d, false,
      .cached k store.generation false⟩) :
    s.Shelved k (store.park sql id).1 where
  distinct := by
    have hsub := (store.park_sublist sql id).map (·.1)
    exact (List.nodup_cons.2 ⟨hsql, h.distinct⟩).sublist hsub
  fits := by
    rw [CacheStore.capacity_park]
    exact store.size_park_le sql id h.fits
  entry {sql' id'} he := by
    rw [CacheStore.generation_park]
    rcases List.mem_cons.1 ((store.park_sublist sql id).subset he) with hn | ho
    · cases hn
      exact ⟨l, d, hl, hlsql, hcore⟩
    · exact h.entry ho

/-- A shelf may always be empty. -/
theorem empty (s : State) (k : LinkId) (capacity : Nat) :
    s.Shelved k (.empty capacity) where
  distinct := List.nodup_nil
  fits := Nat.zero_le _
  entry he := by cases he

/-- A shelf that was emptied holds what it may. -/
theorem drain (s : State) (k : LinkId) (store : CacheStore) :
    s.Shelved k store.drain.1 where
  distinct := List.nodup_nil
  fits := Nat.zero_le _
  entry he := by cases he

end State.Shelved

end PooledChain
