/-
Two parties in one state, and what is cleared up.

Two parties keep company (`Company`) if one state hosts them both, they
have nothing in common, and every layer of the state is one of theirs.
What one of them does while it minds its own business leaves them in
company (`Company.after`): the other is hosted as before.

After a step the layers that nobody refers to are released. The walk
over the layers with company is the walks over the layers of each party
alone, one turn of either at a time (`Tandem`): a layer is passed in the
turn of the party that it belongs to, with the layer it is paired with,
and lives if that one lives. For a delegate is the same party's as its
facade. So the parties are still in company when the walks are over
(`Company.release`).
-/
import PooledChain.Proofs.Company.Hosting
import PooledChain.Proofs.Heap.Release

namespace PooledChain

variable {p q : Party} {w w' v v' : Pairing} {a b id : LayerId}
  {s s' t t' u : State} {live live' : List LayerId} {n m : Nat}

-- ============================================================== company

/-- Whether the state `s` hosts two parties, who are alone in `t` and in
`u`, and has no layers but theirs. -/
structure Company (p q : Party) (w v : Pairing) (s t u : State) : Prop where
  left : s.Hosts p w t
  right : s.Hosts q v u
  apart : w.Apart v
  covers : ∀ {a}, a < s.layers.length →
    (∃ b, (a, b) ∈ w.layers) ∨ ∃ b, (a, b) ∈ v.layers

namespace Company

/-- One party has done something, and has minded its own business. -/
theorem after (h : Company p q w v s t u) (hpq : p.Distinct q)
    (hm : s.Minds p w w' s') (hh : s'.Hosts p w' t') :
    Company p q w' v s' t' u where
  left := hh
  right := h.right.aside hm hpq.symm h.apart.symm
  apart := (h.right.apart hm h.apart.symm).symm
  covers {a} ha := by
    rcases Nat.lt_or_ge a s.layers.length with hlt | hge
    · exact (h.covers hlt).imp (fun ⟨b, hab⟩ => ⟨b, hm.le hab⟩) fun h => h
    · exact .inl (hm.covers hge ha)

end Company

-- ==================================================== releasing one layer

namespace State

/-- The layers of a pair are released. -/
theorem Hosts.releaseLayer (h : s.Hosts p w t) (hab : (a, b) ∈ w.layers) :
    ∃ ps, s.Minds p w { w with statements := ps } (s.releaseLayer a)
      ∧ (s.releaseLayer a).Hosts p { w with statements := ps }
        (t.releaseLayer b) := by
  unfold State.releaseLayer
  have hcore := h.core hab
  generalize s.core a = c at hcore
  generalize t.core b = c' at hcore
  have hplain : ∃ ps, s.Minds p w { w with statements := ps }
        (s.setCore a .released)
      ∧ (s.setCore a .released).Hosts p { w with statements := ps }
        (t.setCore b .released) :=
    ⟨w.statements, .setCore p s hab _, h.setCore hab .released⟩
  cases hcore with
  | opened hn =>
      obtain ⟨ps, hminds, hhosts, -⟩ :=
        Native.inStep_dispose hn s.native t.native h.native
      have hcalled : s.Minds p w { w with statements := ps } _ :=
        .call hminds
      exact ⟨ps, hcalled.trans (.setCore (w := { w with statements := ps }) p _
        hab .released), (h.call hminds.le hhosts).setCore hab .released⟩
  | letGo | facade | released => exact hplain

-- =============================================================== one turn

/-- How far the walks over `s` and `t` have come, and what they know to
live. -/
structure Tandem (p : Party) (w : Pairing) (s t : State) (n m : Nat)
    (live live' : List LayerId) : Prop where
  hosts : s.Hosts p w t
  passed : ∀ {a b}, (a, b) ∈ w.layers → (a < n ↔ b < m)
  bound : m ≤ t.layers.length
  alike : ∀ {a b}, (a, b) ∈ w.layers → (a ∈ live ↔ b ∈ live')

namespace Tandem

/-- The next layer of a pair is the next on both sides. -/
theorem next (h : Tandem p w s t (id + 1) m live live')
    (hid : (id, b) ∈ w.layers) : m = b + 1 := by
  have hb : b < m := (h.passed hid).1 (Nat.lt_succ_self id)
  refine Nat.le_antisymm (Nat.le_of_not_lt fun hlt => ?_) hb
  -- a layer in between would have a pair in between
  obtain ⟨a, ha⟩ := h.hosts.all (Nat.lt_of_lt_of_le hlt h.bound)
  have hle := Nat.le_of_lt_succ ((h.passed ha).2 hlt)
  have hgt := (h.hosts.ascending.lt_iff hid ha).2 (Nat.lt_succ_self b)
  exact Nat.not_lt_of_le hle hgt

/-- When one walk is at its end, so is the other. -/
theorem at_end (h : Tandem p w s t 0 m live live') : m = 0 := by
  refine Nat.eq_zero_of_not_pos fun hpos => ?_
  obtain ⟨a, ha⟩ := h.hosts.all (Nat.lt_of_lt_of_le hpos h.bound)
  exact absurd ((h.passed ha).2 hpos) (Nat.not_lt_zero a)

/-- What a turn of the party adds to the living is the party's. -/
structure Turn (w : Pairing) (live new : List LayerId) : Prop where
  le : live ⊆ new
  own : ∀ {a}, a ∈ new → a ∈ live ∨ ∃ b, (a, b) ∈ w.layers

/-- A turn of the party. -/
theorem turn (h : Tandem p w s t (id + 1) (b + 1) live live')
    (hid : (id, b) ∈ w.layers) :
    ∃ ps, s.Minds p w { w with statements := ps } (releaseUnless live s id).2
      ∧ Turn w live (releaseUnless live s id).1
      ∧ Tandem p { w with statements := ps } (releaseUnless live s id).2
        (releaseUnless live' t b).2 id b (releaseUnless live s id).1
        (releaseUnless live' t b).1 := by
  have hpassed : ∀ {a c}, (a, c) ∈ w.layers → (a < id ↔ c < b) :=
    fun ha => h.hosts.ascending.lt_iff ha hid
  have hbound := Nat.le_of_succ_le h.bound
  have hsame : Turn w live live := ⟨fun _ hx => hx, .inl⟩
  have hlives : live.contains id = live'.contains b := by
    rw [Bool.eq_iff_iff, List.contains_iff_mem, List.contains_iff_mem]
    exact h.alike hid
  unfold releaseUnless
  rw [hlives]
  split
  · rcases rel_cases (h.hosts.core hid).delegate? with
      ⟨hs, ht⟩ | ⟨d, e, hs, ht, hd⟩ <;> rw [hs, ht]
    · exact ⟨w.statements, .refl p w s, hsame, h.hosts, hpassed, hbound,
        h.alike⟩
    · refine ⟨w.statements, .refl p w s,
        ⟨fun _ hx => List.mem_cons_of_mem d hx, fun hx => ?_⟩,
        h.hosts, hpassed, hbound, fun ha => ?_⟩
      · rcases List.mem_cons.1 hx with rfl | hx
        · exact .inr ⟨e, hd⟩
        · exact .inl hx
      · rw [List.mem_cons, List.mem_cons, h.alike ha, h.hosts.eq_iff ha hd]
  · obtain ⟨ps, hminds, hhosts⟩ := h.hosts.releaseLayer hid
    exact ⟨ps, hminds, hsame, hhosts, hpassed, by rwa [length_releaseLayer],
      h.alike⟩

/-- A turn of the other party. -/
theorem aside (h : Tandem p w s t (id + 1) m live live')
    {new : List LayerId} (hpq : p.Distinct q) (hm : s.Minds q v v' s')
    (hapart : w.Apart v) (hid : (id, b) ∈ v.layers) (hnew : Turn v live new) :
    Tandem p w s' t id m new live' where
  hosts := h.hosts.aside hm hpq hapart
  passed {a c} ha := by
    have hne : a ≠ id := fun he => hapart.layers ha (he ▸ hid)
    rw [← h.passed ha, Nat.lt_succ_iff_lt_or_eq]
    exact (or_iff_left hne).symm
  bound := h.bound
  alike {a c} ha := by
    rw [← h.alike ha]
    refine ⟨fun hin => ?_, fun hin => hnew.le hin⟩
    rcases hnew.own hin with hin | ⟨e, he⟩
    · exact hin
    · exact absurd he (hapart.layers ha)

end Tandem

end State

-- ======================================================= what is parked

/-- A facade of a cache is of a cache of the party. -/
theorem Behaviour.Matches.cached_own {x y : Behaviour} (h : x.Matches p y)
    {k : LinkId} {g : Nat} {broken : Bool}
    (hk : x = .cached k g broken ∨ y = .cached k g broken) :
    k.connection = p.connection := by
  cases h with
  | cached hown => rcases hk with hk | hk <;> cases hk <;> exact hown
  | _ => rcases hk with hk | hk <;> cases hk

/-- A facade of a cache in a pair is one of a cache of the party. -/
theorem Core.Matches.cached_own {c c' : Core} (h : c.Matches p w c')
    {f : Facade} {k : LinkId} {g : Nat} {broken : Bool}
    (hf : c = .facade f ∨ c' = .facade f)
    (hk : f.behaviour = .cached k g broken) :
    k.connection = p.connection := by
  cases h with
  | facade hm =>
      rcases hf with hf | hf <;> cases hf
      · exact hm.behaviour.cached_own (.inl hk)
      · exact hm.behaviour.cached_own (.inr hk)
  | _ => rcases hf with hf | hf <;> cases hf

namespace State

/-- Each layer is in one pair at most. -/
theorem Hosts.biUnique (h : s.Hosts p w t) : Relator.BiUnique w.OnLayers :=
  ⟨fun _ _ _ hab hcb => (h.eq_iff hab hcb).2 rfl,
    fun _ _ _ hab hac => (h.eq_iff hab hac).1 rfl⟩

/-- Where a layer is parked that can be parked with the party only. -/
theorem Stocked.mem_parked_iff (h : s.Stocked)
    (hown : ∀ {f k g broken}, s.core a = .facade f →
      f.behaviour = .cached k g broken → k.connection = p.connection) :
    a ∈ s.parked ↔ ∃ k x, k.connection = p.connection
      ∧ s.caches.get? k = some x ∧ a ∈ x.layers := by
  constructor
  · intro ha
    obtain ⟨k, x, sql, l, d, hk, he, hl, -, hf⟩ := h.parked ha
    rw [← core_eq_of_layer? hl] at hf
    exact ⟨k, x, hown hf rfl, Keyed.get?_of_mem h.distinct hk,
      List.mem_map.2 ⟨_, he, rfl⟩⟩
  · rintro ⟨k, x, -, hx, ha⟩
    obtain ⟨⟨sql, _⟩, he, rfl⟩ := List.mem_map.1 ha
    exact mem_onShelves.2 ⟨k, x, sql, Keyed.mem_of_get? hx, he⟩

/-- Of the layers of a pair both are parked or neither. -/
theorem Hosts.parked_iff (h : s.Hosts p w t) (hs : s.Stocked)
    (ht : t.Stocked) (hab : (a, b) ∈ w.layers) :
    a ∈ s.parked ↔ b ∈ t.parked := by
  have hcore := h.core hab
  have hlayers : ∀ {x y : CacheStore}, x.Matches w y →
      (a ∈ x.layers ↔ b ∈ y.layers) := fun hxy =>
    List.rel_mem h.biUnique hab
      (List.forall₂_map_left_iff.2 (List.forall₂_map_right_iff.2
        (hxy.entries.imp fun _ _ he => he.2)))
  rw [hs.mem_parked_iff fun hf hk => hcore.cached_own (.inl hf) hk,
    ht.mem_parked_iff fun hf hk => hcore.cached_own (.inr hf) hk]
  refine exists_congr fun k => ⟨?_, ?_⟩
  · rintro ⟨x, hk, hx, ha⟩
    rcases rel_cases (h.cache hk) with ⟨hnone, -⟩ | ⟨x', y, hx', hy, hxy⟩
    · rw [hnone] at hx
      cases hx
    · obtain rfl := Option.some.inj (hx'.symm.trans hx)
      exact ⟨y, hk, hy, (hlayers hxy).1 ha⟩
  · rintro ⟨y, hk, hy, hb⟩
    rcases rel_cases (h.cache hk) with ⟨-, hnone⟩ | ⟨x, y', hx, hy', hxy⟩
    · rw [hnone] at hy
      cases hy
    · obtain rfl := Option.some.inj (hy'.symm.trans hy)
      exact ⟨x, hk, hx, (hlayers hxy).2 hb⟩

end State

-- =========================================================== whole walks

namespace Company

open State (Tandem releaseBelow releaseUnless)

/-- A walk releases the topmost layer if it is not alive, and goes on below
it. -/
theorem releaseBelow_turn (n : Nat) (live : List LayerId) (s : State) :
    releaseBelow (n + 1) live s
      = releaseBelow n (releaseUnless live s n).1 (releaseUnless live s n).2 :=
  rfl

/-- The walks of both parties, alone and in company. -/
theorem walk (hpq : p.Distinct q) {k : Nat} {live'' : List LayerId}
    (hleft : Tandem p w s t n m live live')
    (hright : Tandem q v s u n k live live'') (hapart : w.Apart v)
    (hcovers : ∀ {a}, a < n →
      (∃ b, (a, b) ∈ w.layers) ∨ ∃ b, (a, b) ∈ v.layers) :
    ∃ ps qs, { w with statements := ps }.Apart { v with statements := qs }
      ∧ (releaseBelow n live s).Hosts p { w with statements := ps }
        (releaseBelow m live' t)
      ∧ (releaseBelow n live s).Hosts q { v with statements := qs }
        (releaseBelow k live'' u) := by
  induction n generalizing s t u w v m k live live' live'' with
  | zero =>
      obtain rfl := hleft.at_end
      obtain rfl := hright.at_end
      exact ⟨w.statements, v.statements, hapart, hleft.hosts, hright.hosts⟩
  | succ id ih =>
      have hrest : ∀ {a}, a < id →
          (∃ b, (a, b) ∈ w.layers) ∨ ∃ b, (a, b) ∈ v.layers :=
        fun ha => hcovers (Nat.lt_succ_of_lt ha)
      rcases hcovers (Nat.lt_succ_self id) with ⟨b, hid⟩ | ⟨b, hid⟩
      · obtain rfl := hleft.next hid
        obtain ⟨ps, hminds, hnew, hnext⟩ := hleft.turn hid
        have haside := hright.aside hpq.symm hminds hapart.symm hid hnew
        rw [releaseBelow_turn, releaseBelow_turn]
        exact ih (w := { w with statements := ps }) hnext haside
          (hright.hosts.apart hminds hapart.symm).symm hrest
      · obtain rfl := hright.next hid
        obtain ⟨ps, hminds, hnew, hnext⟩ := hright.turn hid
        have haside := hleft.aside hpq hminds hapart hid hnew
        rw [releaseBelow_turn, releaseBelow_turn]
        exact ih (v := { v with statements := ps }) haside hnext
          (hleft.hosts.apart hminds hapart) hrest

/-- What belongs to neither caller is released, in company as alone. -/
theorem release (h : Company p q w v s t u) (hpq : p.Distinct q)
    {held held' held'' : List LayerId}
    (hleft : ∀ {a b}, (a, b) ∈ w.layers →
      (a ∈ held ++ s.parked ↔ b ∈ held' ++ t.parked))
    (hright : ∀ {a b}, (a, b) ∈ v.layers →
      (a ∈ held ++ s.parked ↔ b ∈ held'' ++ u.parked)) :
    ∃ ps qs, Company p q { w with statements := ps }
      { v with statements := qs } (s.release held) (t.release held')
      (u.release held'') := by
  have hwalk : ∀ {p : Party} {w : Pairing} {t : State} {held' : List LayerId},
      s.Hosts p w t →
      (∀ {a b}, (a, b) ∈ w.layers →
        (a ∈ held ++ s.parked ↔ b ∈ held' ++ t.parked)) →
      Tandem p w s t s.layers.length t.layers.length (held ++ s.parked)
        (held' ++ t.parked) := fun h halike =>
    ⟨h, fun ha => iff_of_true (h.lt ha).1 (h.lt ha).2, Nat.le_refl _, halike⟩
  obtain ⟨ps, qs, hapart, hl, hr⟩ := walk hpq (hwalk h.left hleft)
    (hwalk h.right hright) h.apart h.covers
  exact ⟨ps, qs, hl, hr, hapart, fun ha => h.covers
    (by rwa [State.length_release] at ha)⟩

end Company

end PooledChain
