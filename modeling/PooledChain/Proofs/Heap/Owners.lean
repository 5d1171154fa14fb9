/-
Who owns a layer, counted in lists.

A layer is owned by the facade whose delegate it is, by the shelf it is
parked on, or by somebody who has it in hand. The first two are parts of
the state: `delegates` lists the layers that are delegates, and `parked`
those on shelves. `handles` lists in the same way the driver's
statements that native handles still have.

Every change of the state moves an owned layer from one list to another,
so what a change does is said as a permutation: what the changed layer
owned before, together with the list after, is what it owns now,
together with the list before (`gather_setCore`). A shelf that is
replaced by another gives up what it held (`onShelves_set`,
`onShelves_perm`).
-/
import PooledChain.Proofs.Heap.Stack
import Mathlib.Data.List.Flatten
import Mathlib.Data.List.Nodup
import Mathlib.Data.List.Perm.Basic
import Mathlib.Data.List.Perm.Subperm

namespace PooledChain

open List (Perm Sublist)

-- ================================================== owners in the state

/-- The layers parked on a shelf, the one parked last in front. -/
def CacheStore.layers (store : CacheStore) : List LayerId :=
  store.entries.map (·.2)

namespace State

/-- What the layers of a state have of one sort, in order. -/
def gather {α : Type} (s : State) (g : Core → Option α) : List α :=
  s.layers.filterMap fun l => g l.core

/-- The layers that are delegates. -/
def delegates (s : State) : List LayerId := s.gather Core.delegate?

/-- The driver's statements that native handles still have. -/
def handles (s : State) : List Native.StatementId := s.gather Core.handle?

variable {s : State} {α : Type} {g : Core → Option α}

/-- What is gathered is what some layer has. -/
theorem mem_gather (hg : g .released = none) {a : α} :
    a ∈ s.gather g ↔ ∃ id, g (s.core id) = some a := by
  rw [gather, List.mem_filterMap]
  constructor
  · rintro ⟨l, hl, ha⟩
    obtain ⟨id, hid⟩ := List.getElem?_of_mem hl
    exact ⟨id, by rw [core_eq_of_layer? hid]; exact ha⟩
  · rintro ⟨id, ha⟩
    have hid : s.core id ≠ .released := fun h => by
      rw [h, hg] at ha; cases ha
    obtain ⟨l, hl, hc⟩ := exists_layer hid
    exact ⟨l, List.mem_of_getElem? hl, by rw [hc]; exact ha⟩

/-- The delegates are the layers that another one holds. -/
theorem mem_delegates {d : LayerId} :
    d ∈ s.delegates ↔ ∃ a, s.Holds a d := mem_gather rfl

/-- The handles are the statements that a native handle still has. -/
theorem mem_handles {n : Native.StatementId} :
    n ∈ s.handles ↔ ∃ id, s.core id = .native (some n) := by
  refine (mem_gather rfl).trans ⟨?_, ?_⟩
  · rintro ⟨id, h⟩
    exact ⟨id, Core.eq_native_of_handle? h⟩
  · rintro ⟨id, h⟩
    exact ⟨id, by rw [h]; rfl⟩

/-- Giving a layer another core changes one place of the list. -/
theorem setCore_eq_set {id : LayerId} {l : Layer}
    (h : s.layer? id = some l) (c : Core) :
    (s.setCore id c).layers = s.layers.set id { l with core := c } := by
  refine List.ext_getElem? fun i => ?_
  have hi := layer?_setCore (s := s) id c i
  rw [layer?, layer?] at hi
  rw [hi, List.getElem?_set]
  by_cases he : i = id
  · subst he
    obtain ⟨hlt, hget⟩ := List.getElem?_eq_some_iff.1 h
    simp [hlt, hget]
  · rw [if_neg he, if_neg fun h => he h.symm]

/-- Changing one layer exchanges what it had for what it has. -/
theorem gather_setCore {id : LayerId} (hid : s.core id ≠ .released)
    (c : Core) :
    Perm ((g (s.core id)).toList ++ (s.setCore id c).gather g)
      ((g c).toList ++ s.gather g) := by
  obtain ⟨l, hl, hc⟩ := exists_layer hid
  have hlt := lt_of_core hid
  have hget : s.layers[id] = l := (List.getElem?_eq_some_iff.1 hl).2
  have hnew : Perm ((s.setCore id c).gather g)
      ((g c).toList ++ (s.layers.eraseIdx id).filterMap fun l => g l.core) := by
    rw [gather, setCore_eq_set hl]
    have h := (List.set_perm_cons_eraseIdx hlt { l with core := c }).filterMap
      fun l => g l.core
    refine h.trans ?_
    rw [List.filterMap_cons]
    cases g c <;> exact .refl _
  have hold : Perm (s.gather g)
      ((g (s.core id)).toList
        ++ (s.layers.eraseIdx id).filterMap fun l => g l.core) := by
    have h := (List.getElem_cons_eraseIdx_perm hlt).symm.filterMap
      fun l => g l.core
    refine h.trans ?_
    rw [List.filterMap_cons, hget, hc]
    cases g (s.core id) <;> exact .refl _
  calc
    Perm ((g (s.core id)).toList ++ (s.setCore id c).gather g)
        ((g (s.core id)).toList ++ ((g c).toList
          ++ (s.layers.eraseIdx id).filterMap fun l => g l.core)) :=
      hnew.append_left _
    Perm _ ((g c).toList ++ ((g (s.core id)).toList
          ++ (s.layers.eraseIdx id).filterMap fun l => g l.core)) := by
      rw [← List.append_assoc, ← List.append_assoc]
      exact List.perm_append_comm.append_right _
    Perm _ ((g c).toList ++ s.gather g) := hold.symm.append_left _

/-- A new layer's share comes last. -/
theorem gather_addLayer (l : Layer) :
    (s.addLayer l).2.gather g = s.gather g ++ (g l.core).toList := by
  rw [gather, addLayer, List.filterMap_append, gather]
  cases h : g l.core <;> simp [h]

/-- `gather_setCore`, counted. -/
theorem count_gather_setCore [DecidableEq α] {id : LayerId}
    (hid : s.core id ≠ .released) (c : Core) (a : α) :
    (g (s.core id)).toList.count a + ((s.setCore id c).gather g).count a
      = (g c).toList.count a + (s.gather g).count a := by
  rw [← List.count_append, ← List.count_append]
  exact (gather_setCore hid c).count_eq a

/-- What no two layers have, one layer has. -/
theorem eq_of_gather_nodup [DecidableEq α] (h : (s.gather g).Nodup)
    (hg : g .released = none) {a b : LayerId} {x : α}
    (ha : g (s.core a) = some x) (hb : g (s.core b) = some x) : a = b := by
  by_contra hne
  have hra : s.core a ≠ .released := fun hr => by
    rw [hr, hg] at ha
    cases ha
  -- without the first layer, the second still has it
  have hcount := count_gather_setCore (g := g) hra .released x
  rw [ha, hg, Option.toList_some, List.count_singleton_self] at hcount
  have hmem : x ∈ (s.setCore a .released).gather g :=
    (mem_gather hg).2 ⟨b, by
      rw [core_setCore_of_ne fun he => hne he.symm]
      exact hb⟩
  have hpos := List.count_pos_iff.2 hmem
  have hle := List.nodup_iff_count_le_one.1 h x
  rw [Option.toList_none, List.count_nil] at hcount
  omega

/-- `gather_addLayer`, counted. -/
theorem count_gather_addLayer [DecidableEq α] (l : Layer) (a : α) :
    ((s.addLayer l).2.gather g).count a
      = (s.gather g).count a + (g l.core).toList.count a := by
  rw [gather_addLayer, List.count_append]

-- ============================================================== shelves

/-- What is parked on all shelves together. -/
def onShelves (caches : Keyed LinkId CacheStore) : List LayerId :=
  caches.values.flatMap CacheStore.layers

/-- What is parked is what is on the shelves. -/
theorem parked_eq (s : State) : s.parked = onShelves s.caches := rfl

variable {caches : Keyed LinkId CacheStore}

/-- A replaced shelf: what is parked is what the new one holds and what
all other shelves hold. -/
theorem onShelves_set (caches : Keyed LinkId CacheStore) (k : LinkId)
    (store : CacheStore) :
    onShelves (caches.set k store)
      = store.layers ++ onShelves (caches.erase k) := rfl

/-- What is parked is what one shelf holds and what all others hold. -/
theorem onShelves_perm (hk : caches.Distinct) {k : LinkId}
    {store : CacheStore} (h : caches.get? k = some store) :
    Perm (onShelves caches) (store.layers ++ onShelves (caches.erase k)) :=
  ((Keyed.entries_perm hk h).map Prod.snd).flatMap_right CacheStore.layers

/-- Dropping shelves parks nothing. -/
theorem onShelves_filter (caches : Keyed LinkId CacheStore)
    (p : LinkId → Bool) :
    Sublist (onShelves (caches.filter p)) (onShelves caches) :=
  (List.filter_sublist.map Prod.snd).flatMap CacheStore.layers

/-- A layer is on the shelves when one of them has it under some SQL
text. -/
theorem mem_onShelves {id : LayerId} :
    id ∈ onShelves caches ↔ ∃ k store sql,
      (k, store) ∈ caches.entries ∧ (sql, id) ∈ store.entries := by
  simp only [onShelves, CacheStore.layers, Keyed.values, List.mem_flatMap,
    List.mem_map]
  constructor
  · rintro ⟨store, ⟨⟨k, store'⟩, hm, rfl⟩, ⟨sql, id'⟩, he, rfl⟩
    exact ⟨k, store', sql, hm, he⟩
  · rintro ⟨k, store, sql, hm, he⟩
    exact ⟨store, ⟨(k, store), hm, rfl⟩, (sql, id), he, rfl⟩

end State

end PooledChain
