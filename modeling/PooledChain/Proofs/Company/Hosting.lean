/-
A party in company, and alone.

A party is a connection with the physical connection that it is checked
out on (`Party`). It is followed through two states at once: in one of
them others use their connections besides, in the other it is alone. The
layers of its statements have other numbers there, but the same order; a
pairing says which is which. The state with company hosts the party as it
is alone (`State.Hosts`) if

- the layers of a pair are made alike: they have the same kind and text,
  are of no connection but the party's, as facades behave alike and have
  delegates that are a pair, and as handles have statements that are a
  pair;
- the party's caches and trackers have the same entries, up to the
  pairing, and its counters have counted the same;
- the connection, the physical connection, what was returned of it, and
  the driver's side are the same.

Nothing is said of what is recorded, noted or counted by the driver: that
is where others show.

What a party does with its own keeps in step in the two states
(`Act.InStep`): it has the same answer, up to the pairing, and the state
with company hosts the party as before. Also the party minds its own
business there (`State.Minds`): layers that are in none of its pairs,
other connections and what belongs to them are left as they are. That is
all that another party has to know to be hosted as before
(`State.Hosts.aside`).
-/
import PooledChain.Proofs.Company.Driver
import PooledChain.Proofs.Heap.Ask

namespace PooledChain

/-- A connection, what it is checked out on, and the driver's connection
behind that. -/
structure Party where
  connection : ConnectionId
  physical : PhysicalId
  native : Native.ConnectionId

/-- Whether parties have nothing in common. -/
structure Party.Distinct (p q : Party) : Prop where
  connection : p.connection ≠ q.connection
  physical : p.physical ≠ q.physical
  native : p.native ≠ q.native

theorem Party.Distinct.symm {p q : Party} (h : p.Distinct q) : q.Distinct p :=
  ⟨h.connection.symm, h.physical.symm, h.native.symm⟩

/-- Which layer and which statement of the one state is which of the
other. -/
structure Pairing where
  layers : List (LayerId × LayerId)
  statements : Native.Pairs

namespace Pairing

/-- Whether two layers are a pair. -/
def OnLayers (w : Pairing) (a b : LayerId) : Prop := (a, b) ∈ w.layers

/-- Whether entries have the same key, and layers that are a pair. -/
def OnEntries {κ : Type} (w : Pairing) (e e' : κ × LayerId) : Prop :=
  e.1 = e'.1 ∧ (e.2, e'.2) ∈ w.layers

/-- Answers that are the same. -/
def Equal {α : Type} (_ : Pairing) (a b : α) : Prop := a = b

/-- A pairing that has all the pairs of another. -/
structure Le (w v : Pairing) : Prop where
  layers : w.layers ⊆ v.layers
  statements : w.statements ⊆ v.statements

theorem Le.refl (w : Pairing) : w.Le w := ⟨fun _ h => h, fun _ h => h⟩

theorem Le.trans {w v u : Pairing} (h₁ : w.Le v) (h₂ : v.Le u) : w.Le u :=
  ⟨List.Subset.trans h₁.layers h₂.layers,
    List.Subset.trans h₁.statements h₂.statements⟩

/-- Whether two pairings have nothing in common where there is
company. -/
structure Apart (w v : Pairing) : Prop where
  layers : ∀ {a b b'}, (a, b) ∈ w.layers → (a, b') ∉ v.layers
  statements : ∀ {n m m'}, (n, m) ∈ w.statements → (n, m') ∉ v.statements

theorem Apart.symm {w v : Pairing} (h : w.Apart v) : v.Apart w :=
  ⟨fun ha hb => h.layers hb ha, fun ha hb => h.statements hb ha⟩

end Pairing

variable {p q : Party} {w w' w'' v v' : Pairing} {a b d d' : LayerId}

-- ============================================================ made alike

/-- Facades that behave alike, and whose links are the party's. What they
record need not go to the same table. -/
inductive Behaviour.Matches (p : Party) : Behaviour → Behaviour → Prop
  | plain : Matches p .plain .plain
  | cached {k : LinkId} {generation broken} : k.connection = p.connection →
      Matches p (.cached k generation broken) (.cached k generation broken)
  | tracked {k : LinkId} {entry} : k.connection = p.connection →
      Matches p (.tracked k entry) (.tracked k entry)
  | recording {table table' config} :
      Matches p (.recording table config) (.recording table' config)
  | counting {k : LinkId} : k.connection = p.connection →
      Matches p (.counting k) (.counting k)
  | watched {label answered} :
      Matches p (.watched label answered) (.watched label answered)

/-- Whether two facades are the same, their delegates being a pair. -/
structure Facade.Matches (p : Party) (w : Pairing) (f f' : Facade) :
    Prop where
  level : f.level = f'.level
  delegate : Option.Rel w.OnLayers f.delegate f'.delegate
  closed : f.closed = f'.closed
  behaviour : f.behaviour.Matches p f'.behaviour

/-- Whether two layers are the same at present, what they refer to being
pairs. -/
inductive Core.Matches (p : Party) (w : Pairing) : Core → Core → Prop
  | opened {n m} : (n, m) ∈ w.statements →
      Matches p w (.native (some n)) (.native (some m))
  | letGo : Matches p w (.native none) (.native none)
  | facade {f f'} : f.Matches p w f' → Matches p w (.facade f) (.facade f')
  | released : Matches p w .released .released

/-- Whether two layers were made for the same, and are the same at
present. -/
structure Layer.Matches (p : Party) (w : Pairing) (l l' : Layer) : Prop where
  sql : l.sql = l'.sql
  kind : l.kind = l'.kind
  connection : l.connection = l'.connection
  own : ∀ c ∈ l'.connection, c = p.connection
  core : l.core.Matches p w l'.core

/-- Whether two shelves hold pairs, in the same order. -/
structure CacheStore.Matches (w : Pairing) (st st' : CacheStore) : Prop where
  capacity : st.capacity = st'.capacity
  generation : st.generation = st'.generation
  entries : List.Forall₂ w.OnEntries st.entries st'.entries

/-- Whether two trackers list pairs, in the same order. -/
structure Tracker.Matches (w : Pairing) (tr tr' : Tracker) : Prop where
  entries : List.Forall₂ w.OnEntries tr.entries tr'.entries
  next : tr.next = tr'.next

theorem Pairing.OnEntries.mono {κ : Type} {e e' : κ × LayerId}
    (h : w.OnEntries e e') (hw : w.Le v) : v.OnEntries e e' :=
  ⟨h.1, hw.layers h.2⟩

/-- Two values are there together, whatever they have in common. -/
theorem rel_imp {α β : Type} {R S : α → β → Prop} {x : Option α}
    {y : Option β} (h : Option.Rel R x y) (hRS : ∀ {a b}, R a b → S a b) :
    Option.Rel S x y := by
  cases h with
  | some hab => exact .some (hRS hab)
  | none => exact .none

/-- Both are there, or neither is. -/
theorem rel_cases {α β : Type} {R : α → β → Prop} {x : Option α}
    {y : Option β} (h : Option.Rel R x y) :
    (x = none ∧ y = none) ∨ ∃ a b, x = some a ∧ y = some b ∧ R a b := by
  cases h with
  | some hab => exact .inr ⟨_, _, rfl, rfl, hab⟩
  | none => exact .inl ⟨rfl, rfl⟩

theorem Facade.Matches.mono {f f' : Facade} (h : f.Matches p w f')
    (hw : w.Le v) : f.Matches p v f' :=
  ⟨h.level, rel_imp h.delegate fun hab => hw.layers hab, h.closed, h.behaviour⟩

theorem Core.Matches.mono {c c' : Core} (h : c.Matches p w c')
    (hw : w.Le v) : c.Matches p v c' := by
  cases h with
  | opened hn => exact .opened (hw.statements hn)
  | letGo => exact .letGo
  | facade hf => exact .facade (hf.mono hw)
  | released => exact .released

theorem Layer.Matches.mono {l l' : Layer} (h : l.Matches p w l')
    (hw : w.Le v) : l.Matches p v l' :=
  ⟨h.sql, h.kind, h.connection, h.own, h.core.mono hw⟩

theorem CacheStore.Matches.mono {st st' : CacheStore}
    (h : st.Matches w st') (hw : w.Le v) : st.Matches v st' :=
  ⟨h.capacity, h.generation, h.entries.imp fun _ _ he => he.mono hw⟩

theorem Tracker.Matches.mono {tr tr' : Tracker} (h : tr.Matches w tr')
    (hw : w.Le v) : tr.Matches v tr' :=
  ⟨h.entries.imp fun _ _ he => he.mono hw, h.next⟩

namespace Core.Matches

variable {c c' : Core}

/-- Cores of a pair are of one level. -/
theorem level (h : c.Matches p w c') : c.level = c'.level := by
  cases h with
  | facade hf => exact hf.level
  | _ => rfl

/-- Both cores of a pair have a delegate, or neither has. -/
theorem delegate? (h : c.Matches p w c') :
    Option.Rel w.OnLayers c.delegate? c'.delegate? := by
  cases h with
  | facade hf => exact hf.delegate
  | _ => exact .none

/-- Both cores of a pair are facades, or neither is. -/
theorem facade? (h : c.Matches p w c') :
    Option.Rel (Facade.Matches p w) c.facade? c'.facade? := by
  cases h with
  | facade hf => exact .some hf
  | _ => exact .none

/-- Both cores of a pair are closed, or neither is. -/
theorem isClosed (h : c.Matches p w c') {below below' : LayerId → Bool}
    (hbelow : ∀ {a b}, (a, b) ∈ w.layers → below a = below' b) :
    c.isClosed below = c'.isClosed below' := by
  cases h with
  | facade hf =>
      rw [Core.isClosed, Core.isClosed, hf.closed]
      rcases rel_cases hf.delegate with ⟨hs, ht⟩ | ⟨d, d', hs, ht, hd⟩
      · rw [hs, ht]
      · rw [hs, ht]
        simp only
        rw [hbelow hd]
  | _ => rfl

end Core.Matches

-- ============================================================== the state

namespace State

/-- Whether the party is in `s` as it is in `t`. -/
structure Hosts (p : Party) (w : Pairing) (s t : State) : Prop where
  native : s.native.Hosts p.native w.statements t.native
  ascending : Ascending w.layers
  all : ∀ {b}, b < t.layers.length → ∃ a, (a, b) ∈ w.layers
  layer : ∀ {a b}, (a, b) ∈ w.layers → ∃ l l', s.layer? a = some l
    ∧ t.layer? b = some l' ∧ l.Matches p w l'
  physical : s.physical? p.physical = t.physical? p.physical
  behind : ∃ x, t.physical? p.physical = some x ∧ x.native = p.native
  connection : s.connection? p.connection = t.connection? p.connection
  attached : ∀ {x e}, t.connection? p.connection = some x →
    x.terminal.attachment = some e → e.physical = p.physical
  cache : ∀ {k : LinkId}, k.connection = p.connection →
    Option.Rel (CacheStore.Matches w) (s.caches.get? k) (t.caches.get? k)
  tracker : ∀ {k : LinkId}, k.connection = p.connection →
    Option.Rel (Tracker.Matches w) (s.trackers.get? k) (t.trackers.get? k)
  recorder : ∀ {k : LinkId}, k.connection = p.connection →
    (s.recorders.get? k).isSome = (t.recorders.get? k).isSome
  counter : ∀ {k : LinkId}, k.connection = p.connection →
    s.counters.get? k = t.counters.get? k
  returns : s.returns.filter (·.2 == p.physical)
    = t.returns.filter (·.2 == p.physical)

/-- Whether on the way from `s` to `s'` nothing was touched but what is
the party's. The new layers are the party's as well. -/
structure Minds (p : Party) (w w' : Pairing) (s s' : State) : Prop where
  native : s.native.Minds p.native w.statements w'.statements s'.native
  le : w.layers ⊆ w'.layers
  new : ∀ {a b}, (a, b) ∈ w'.layers → (a, b) ∈ w.layers
    ∨ s.layers.length ≤ a
  covers : ∀ {a}, s.layers.length ≤ a → a < s'.layers.length →
    ∃ b, (a, b) ∈ w'.layers
  length : s.layers.length ≤ s'.layers.length
  layer : ∀ {a}, a < s.layers.length → (∀ b, (a, b) ∉ w.layers) →
    s'.layer? a = s.layer? a
  physical : ∀ {x}, x ≠ p.physical → s'.physical? x = s.physical? x
  connection : ∀ {c}, c ≠ p.connection → s'.connection? c = s.connection? c
  cache : ∀ {k : LinkId}, k.connection ≠ p.connection →
    s'.caches.get? k = s.caches.get? k
  tracker : ∀ {k : LinkId}, k.connection ≠ p.connection →
    s'.trackers.get? k = s.trackers.get? k
  recorder : ∀ {k : LinkId}, k.connection ≠ p.connection →
    s'.recorders.get? k = s.recorders.get? k
  counter : ∀ {k : LinkId}, k.connection ≠ p.connection →
    s'.counters.get? k = s.counters.get? k
  returns : ∀ {x}, x ≠ p.physical → s'.returns.filter (·.2 == x)
    = s.returns.filter (·.2 == x)

variable {s s' t t' u : State}

-- ======================================================== minding one's own

namespace Minds

theorem refl (p : Party) (w : Pairing) (s : State) : s.Minds p w w s :=
  ⟨.refl _ _ _, fun _ h => h, .inl, fun ha hb => absurd hb (Nat.not_lt_of_le ha),
    Nat.le_refl _, fun _ _ => rfl, fun _ => rfl, fun _ => rfl, fun _ => rfl,
    fun _ => rfl, fun _ => rfl, fun _ => rfl, fun _ => rfl⟩

theorem trans (h₁ : s.Minds p w w' s') (h₂ : s'.Minds p w' w'' u) :
    s.Minds p w w'' u where
  native := h₁.native.trans h₂.native
  le := List.Subset.trans h₁.le h₂.le
  new ha := by
    rcases h₂.new ha with h | h
    · exact h₁.new h
    · exact .inr (Nat.le_trans h₁.length h)
  covers {a} ha hb := by
    rcases Nat.lt_or_ge a s'.layers.length with hlt | hge
    · obtain ⟨b, hab⟩ := h₁.covers ha hlt
      exact ⟨b, h₂.le hab⟩
    · exact h₂.covers hge hb
  length := Nat.le_trans h₁.length h₂.length
  layer ha hw := by
    refine (h₂.layer (Nat.lt_of_lt_of_le ha h₁.length) fun b hb => ?_).trans
      (h₁.layer ha hw)
    exact (h₁.new hb).elim (hw b) (Nat.not_le_of_lt ha)
  physical hx := (h₂.physical hx).trans (h₁.physical hx)
  connection hc := (h₂.connection hc).trans (h₁.connection hc)
  cache hk := (h₂.cache hk).trans (h₁.cache hk)
  tracker hk := (h₂.tracker hk).trans (h₁.tracker hk)
  recorder hk := (h₂.recorder hk).trans (h₁.recorder hk)
  counter hk := (h₂.counter hk).trans (h₁.counter hk)
  returns hx := (h₂.returns hx).trans (h₁.returns hx)

/-- Pairs stay while the party minds its own business. -/
theorem toLe (h : s.Minds p w w' s') : w.Le w' := ⟨h.le, h.native.le⟩

end Minds

-- ============================================================ being hosted

namespace Hosts

/-- Both layers of a pair are there. -/
theorem lt (h : s.Hosts p w t) (hab : (a, b) ∈ w.layers) :
    a < s.layers.length ∧ b < t.layers.length := by
  obtain ⟨l, l', hl, hl', -⟩ := h.layer hab
  exact ⟨(List.getElem?_eq_some_iff.1 hl).1,
    (List.getElem?_eq_some_iff.1 hl').1⟩

/-- The cores of a pair match. -/
theorem core (h : s.Hosts p w t) (hab : (a, b) ∈ w.layers) :
    (s.core a).Matches p w (t.core b) := by
  obtain ⟨l, l', hl, hl', hmatch⟩ := h.layer hab
  rw [core_eq_of_layer? hl, core_eq_of_layer? hl']
  exact hmatch.core

/-- A layer of one state is in one pair only. -/
theorem eq_iff (h : s.Hosts p w t) (hab : (a, b) ∈ w.layers)
    (hdd : (d, d') ∈ w.layers) : a = d ↔ b = d' :=
  h.ascending.eq_iff hab hdd

theorem level (h : s.Hosts p w t) (hab : (a, b) ∈ w.layers) :
    (s.core a).level = (t.core b).level := (h.core hab).level

theorem facade? (h : s.Hosts p w t) (hab : (a, b) ∈ w.layers) :
    Option.Rel (Facade.Matches p w) (s.facade? a) (t.facade? b) :=
  (h.core hab).facade?

/-- To any depth both layers of a pair look closed, or neither does. -/
theorem closedWithin (h : s.Hosts p w t) (depth : Nat)
    (hab : (a, b) ∈ w.layers) :
    s.closedWithin depth a = t.closedWithin depth b := by
  induction depth generalizing a b with
  | zero => exact (h.core hab).isClosed fun _ => rfl
  | succ depth ih => exact (h.core hab).isClosed ih

/-- Both handles of a pair are closed, or neither is. -/
theorem isClosed (h : s.Hosts p w t) (hab : (a, b) ∈ w.layers) :
    s.isClosed a = t.isClosed b := by
  rw [State.isClosed, State.isClosed, h.level hab]
  exact h.closedWithin _ hab

/-- The physical connection of the party is discarded in both states or in
neither. -/
theorem isDiscarded (h : s.Hosts p w t) :
    s.isDiscarded p.physical = t.isDiscarded p.physical := by
  rw [State.isDiscarded, State.isDiscarded, h.physical]

/-- The terminal of the party is closed in both states or in neither. -/
theorem isClosedTerminal (h : s.Hosts p w t) {x : Connection}
    (hx : t.connection? p.connection = some x) :
    s.isClosedTerminal x.terminal = t.isClosedTerminal x.terminal := by
  rw [State.isClosedTerminal, State.isClosedTerminal]
  cases he : x.terminal.attachment with
  | none => rfl
  | some e =>
      simp only
      rw [h.attached hx he, h.isDiscarded]

theorem isClosedConnection (h : s.Hosts p w t) :
    s.isClosedConnection p.connection
      = t.isClosedConnection p.connection := by
  rw [State.isClosedConnection, State.isClosedConnection, h.connection]
  cases hx : t.connection? p.connection with
  | none => rfl
  | some x => exact h.isClosedTerminal hx

/-- What another party does while it minds its own business is not
noticed. -/
theorem aside (h : s.Hosts p w t) (hm : s.Minds q v v' s')
    (hpq : p.Distinct q) (hapart : w.Apart v) : s'.Hosts p w t := by
  have hother : ∀ {k : LinkId}, k.connection = p.connection →
      k.connection ≠ q.connection := fun hk he =>
    hpq.connection (hk.symm.trans he)
  exact
  { h with
    native := h.native.aside hm.native hpq.native hapart.statements
    layer := fun hab => by
      obtain ⟨l, l', hl, hl', hmatch⟩ := h.layer hab
      have hsame := hm.layer (h.lt hab).1 fun _ => hapart.layers hab
      exact ⟨l, l', hsame.trans hl, hl', hmatch⟩
    physical := (hm.physical hpq.physical).trans h.physical
    connection := (hm.connection hpq.connection).trans h.connection
    cache := fun hk => by
      rw [hm.cache (hother hk)]
      exact h.cache hk
    tracker := fun hk => by
      rw [hm.tracker (hother hk)]
      exact h.tracker hk
    recorder := fun hk => by
      rw [hm.recorder (hother hk)]
      exact h.recorder hk
    counter := fun hk => by
      rw [hm.counter (hother hk)]
      exact h.counter hk
    returns := (hm.returns hpq.physical).trans h.returns }

/-- The pairings of two parties stay apart. -/
theorem apart (h : s.Hosts p w t) (hm : s.Minds q v v' s')
    (hapart : w.Apart v) : w.Apart v' where
  layers ha ha' := by
    rcases hm.new ha' with hv | hge
    · exact hapart.layers ha hv
    · exact absurd (h.lt ha).1 (Nat.not_lt_of_le hge)
  statements hn hn' := by
    rcases hm.native.new hn' with hv | hge
    · exact hapart.statements hn hv
    · exact absurd (h.native.lt hn).1 (Nat.not_lt_of_le hge)

end Hosts

-- ==================================================== what is done to both

/-- Something is recorded or noted. -/
theorem Hosts.record (h : s.Hosts p w t) (r r' : Statistics.Registry)
    (i i' : List LayerId) (j j' : List (String × Note))
    (v v' : List Warning) :
    { s with statistics := r, watched := i, journal := j,
             warnings := v }.Hosts p w
      { t with statistics := r', watched := i', journal := j',
               warnings := v' } :=
  ⟨h.native, h.ascending, h.all, h.layer, h.physical, h.behind,
    h.connection, h.attached, h.cache, h.tracker, h.recorder, h.counter,
    h.returns⟩

/-- Figures, notes and warnings are no business of others. -/
theorem Minds.record (p : Party) (w : Pairing) (s : State)
    (r : Statistics.Registry) (i : List LayerId) (j : List (String × Note))
    (v : List Warning) :
    s.Minds p w w { s with statistics := r, watched := i, journal := j,
                           warnings := v } :=
  ⟨.refl _ _ _, fun _ h => h, .inl,
    fun ha hb => absurd hb (Nat.not_lt_of_le ha), Nat.le_refl _,
    fun _ _ => rfl, fun _ => rfl, fun _ => rfl, fun _ => rfl, fun _ => rfl,
    fun _ => rfl, fun _ => rfl, fun _ => rfl⟩

/-- The driver is called. -/
theorem Hosts.call {st st' : Native.Store} {ps : Native.Pairs}
    (h : s.Hosts p w t) (hle : w.statements ⊆ ps)
    (hst : st.Hosts p.native ps st') :
    { s with native := st }.Hosts p { w with statements := ps }
      { t with native := st' } := by
  have hw : w.Le { w with statements := ps } := ⟨fun _ h => h, hle⟩
  exact
  { h with
    native := hst
    layer := fun hab => by
      obtain ⟨l, l', hl, hl', hmatch⟩ := h.layer hab
      exact ⟨l, l', hl, hl', hmatch.mono hw⟩
    cache := fun hk => rel_imp (h.cache hk) fun hc => hc.mono hw
    tracker := fun hk => rel_imp (h.tracker hk) fun hc => hc.mono hw }

/-- A call of the driver that touches pairs alone is the party's own
business. -/
theorem Minds.call {st : Native.Store} {ps : Native.Pairs}
    (hm : s.native.Minds p.native w.statements ps st) :
    s.Minds p w { w with statements := ps } { s with native := st } :=
  { Minds.refl p w s with native := hm }

/-- The layers of a pair become another pair of the kind. -/
theorem Hosts.setCore (h : s.Hosts p w t) (hab : (a, b) ∈ w.layers)
    {c c' : Core} (hc : c.Matches p w c') :
    (s.setCore a c).Hosts p w (t.setCore b c') :=
  { h with
    all := fun hlt => h.all (by rwa [length_setCore] at hlt)
    layer := fun {d d'} hdd => by
      obtain ⟨l, l', hl, hl', hmatch⟩ := h.layer hdd
      rw [layer?_setCore, layer?_setCore, hl, hl']
      by_cases he : d = a
      · rw [if_pos he, if_pos ((h.eq_iff hdd hab).1 he)]
        exact ⟨_, _, rfl, rfl, hmatch.sql, hmatch.kind, hmatch.connection,
          hmatch.own, hc⟩
      · rw [if_neg he, if_neg fun hb => he ((h.eq_iff hdd hab).2 hb)]
        exact ⟨l, l', rfl, rfl, hmatch⟩ }

theorem Minds.setCore (p : Party) (s : State) (hab : (a, b) ∈ w.layers)
    (c : Core) : s.Minds p w w (s.setCore a c) :=
  { Minds.refl p w s with
    covers := fun ha hb => by
      rw [length_setCore] at hb
      exact absurd hb (Nat.not_lt_of_le ha)
    length := Nat.le_of_eq (length_setCore ..).symm
    layer := fun _ hw => by
      rw [layer?_setCore, if_neg]
      rintro rfl
      exact hw b hab }

end State

/-- A pairing with one more pair of layers. -/
def Pairing.join (w : Pairing) (a b : LayerId) : Pairing :=
  { w with layers := (a, b) :: w.layers }

/-- A new pair leaves the others as they are. -/
theorem Pairing.le_join (w : Pairing) (a b : LayerId) : w.Le (w.join a b) :=
  ⟨fun _ h => List.mem_cons_of_mem _ h, fun _ h => h⟩

namespace State

variable {s s' t t' u : State}

/-- A layer is put in on both sides. -/
theorem Hosts.addLayer (h : s.Hosts p w t) {l l' : Layer}
    (hl : l.Matches p w l') :
    (s.addLayer l).2.Hosts p (w.join s.layers.length t.layers.length)
      (t.addLayer l').2 := by
  have hw := w.le_join s.layers.length t.layers.length
  exact
  { h with
    ascending := h.ascending.cons fun hab => h.lt hab
    all := fun {i} hi => by
      rw [State.addLayer, List.length_append, List.length_singleton] at hi
      rcases Nat.lt_succ_iff_lt_or_eq.1 hi with hlt | rfl
      · obtain ⟨d, hd⟩ := h.all hlt
        exact ⟨d, hw.layers hd⟩
      · exact ⟨_, List.mem_cons_self⟩
    layer := fun {d d'} hdd => by
      rw [layer?_addLayer, layer?_addLayer]
      rcases List.mem_cons.1 hdd with he | hdd
      · cases he
        rw [if_pos rfl, if_pos rfl]
        exact ⟨l, l', rfl, rfl, hl.mono hw⟩
      · obtain ⟨k, k', hk, hk', hmatch⟩ := h.layer hdd
        rw [if_neg (Nat.ne_of_lt (h.lt hdd).1),
          if_neg (Nat.ne_of_lt (h.lt hdd).2)]
        exact ⟨k, k', hk, hk', hmatch.mono hw⟩
    cache := fun hk => rel_imp (h.cache hk) fun hc => hc.mono hw
    tracker := fun hk => rel_imp (h.tracker hk) fun hc => hc.mono hw }

/-- A layer that is made is the new one of a pair. -/
theorem Minds.addLayer (p : Party) (w : Pairing) (s : State) (l : Layer)
    (b : LayerId) :
    s.Minds p w (w.join s.layers.length b) (s.addLayer l).2 :=
  { Minds.refl p w s with
    le := (w.le_join _ b).layers
    new := fun hab => by
      rcases List.mem_cons.1 hab with he | hab
      · cases he
        exact .inr (Nat.le_refl _)
      · exact .inl hab
    covers := fun {a} ha hlt => by
      rw [State.addLayer, List.length_append, List.length_singleton] at hlt
      obtain rfl : a = s.layers.length :=
        Nat.le_antisymm (Nat.le_of_lt_succ hlt) ha
      exact ⟨b, List.mem_cons_self⟩
    length := by
      rw [State.addLayer, List.length_append]
      exact Nat.le_add_right _ _
    layer := fun ha _ => by
      rw [layer?_addLayer_of_lt ha] }

-- =============================================================== the links

/-- The party has the same shelves after a change if those of its own
connection match. -/
theorem Hosts.setCaches (h : s.Hosts p w t) {k k' : Keyed LinkId CacheStore}
    (hk : ∀ {i : LinkId}, i.connection = p.connection →
      Option.Rel (CacheStore.Matches w) (k.get? i) (k'.get? i)) :
    { s with caches := k }.Hosts p w { t with caches := k' } :=
  { h with cache := hk }

/-- Shelves of other connections stay as they are. -/
theorem Minds.setCaches (p : Party) (w : Pairing) {s : State}
    {k : Keyed LinkId CacheStore}
    (hk : ∀ {i : LinkId}, i.connection ≠ p.connection →
      k.get? i = s.caches.get? i) :
    s.Minds p w w { s with caches := k } :=
  { Minds.refl p w s with cache := hk }

/-- The same holds of what trackers list. -/
theorem Hosts.setTrackers (h : s.Hosts p w t) {k k' : Keyed LinkId Tracker}
    (hk : ∀ {i : LinkId}, i.connection = p.connection →
      Option.Rel (Tracker.Matches w) (k.get? i) (k'.get? i)) :
    { s with trackers := k }.Hosts p w { t with trackers := k' } :=
  { h with tracker := hk }

theorem Minds.setTrackers (p : Party) (w : Pairing) {s : State}
    {k : Keyed LinkId Tracker}
    (hk : ∀ {i : LinkId}, i.connection ≠ p.connection →
      k.get? i = s.trackers.get? i) :
    s.Minds p w w { s with trackers := k } :=
  { Minds.refl p w s with tracker := hk }

theorem Hosts.setRecorders (h : s.Hosts p w t)
    {k k' : Keyed LinkId Statistics.TableId}
    (hk : ∀ {i : LinkId}, i.connection = p.connection →
      (k.get? i).isSome = (k'.get? i).isSome) :
    { s with recorders := k }.Hosts p w { t with recorders := k' } :=
  { h with recorder := hk }

theorem Minds.setRecorders (p : Party) (w : Pairing) {s : State}
    {k : Keyed LinkId Statistics.TableId}
    (hk : ∀ {i : LinkId}, i.connection ≠ p.connection →
      k.get? i = s.recorders.get? i) :
    s.Minds p w w { s with recorders := k } :=
  { Minds.refl p w s with recorder := hk }

theorem Hosts.setCounters (h : s.Hosts p w t) {k k' : Keyed LinkId Tally}
    (hk : ∀ {i : LinkId}, i.connection = p.connection →
      k.get? i = k'.get? i) :
    { s with counters := k }.Hosts p w { t with counters := k' } :=
  { h with counter := hk }

theorem Minds.setCounters (p : Party) (w : Pairing) {s : State}
    {k : Keyed LinkId Tally}
    (hk : ∀ {i : LinkId}, i.connection ≠ p.connection →
      k.get? i = s.counters.get? i) :
    s.Minds p w w { s with counters := k } :=
  { Minds.refl p w s with counter := hk }

-- ================================================================ the ends

/-- The end of the party's chain is changed, but not attached to anything
else. -/
theorem Hosts.modifyTerminal (h : s.Hosts p w t) {f : Terminal → Terminal}
    (hf : ∀ {x e}, t.connection? p.connection = some x →
      (f x.terminal).attachment = some e → e.physical = p.physical) :
    (s.modifyTerminal p.connection f).Hosts p w
      (t.modifyTerminal p.connection f) :=
  { h with
    connection := by
      rw [Act.connection?_modifyTerminal, Act.connection?_modifyTerminal,
        h.connection]
    attached := fun {x e} hx he => by
      rw [Act.connection?_modifyTerminal, if_pos rfl] at hx
      obtain ⟨y, hy, rfl⟩ := Option.map_eq_some_iff.1 hx
      exact hf hy he }

/-- The terminal of the party is its own. -/
theorem Minds.modifyTerminal (p : Party) (w : Pairing) (s : State)
    (f : Terminal → Terminal) :
    s.Minds p w w (s.modifyTerminal p.connection f) :=
  { Minds.refl p w s with
    connection := fun hc => by
      rw [Act.connection?_modifyTerminal, if_neg hc] }

/-- Changing a physical connection leaves the others as they are. -/
theorem physical?_modifyPhysical (s : State) (x y : PhysicalId)
    (f : Physical → Physical) :
    (s.modifyPhysical x f).physical? y
      = if y = x then (s.physical? y).map f else s.physical? y := by
  rw [physical?, physical?, modifyPhysical, List.getElem?_modify]
  by_cases hy : y = x
  · subst hy
    simp
  · have hx : ¬ x = y := fun he => hy he.symm
    simp [hy, hx]

/-- The physical connection is lent or discarded. -/
theorem Hosts.modifyPhysical (h : s.Hosts p w t) {f : Physical → Physical}
    (hf : ∀ x, (f x).native = x.native) :
    (s.modifyPhysical p.physical f).Hosts p w
      (t.modifyPhysical p.physical f) :=
  { h with
    physical := by
      rw [physical?_modifyPhysical, physical?_modifyPhysical, h.physical]
    behind := by
      obtain ⟨x, hx, hn⟩ := h.behind
      rw [physical?_modifyPhysical, if_pos rfl, hx]
      exact ⟨f x, rfl, (hf x).trans hn⟩ }

/-- The physical connection of the party is its own. -/
theorem Minds.modifyPhysical (p : Party) (w : Pairing) (s : State)
    (f : Physical → Physical) :
    s.Minds p w w (s.modifyPhysical p.physical f) :=
  { Minds.refl p w s with
    physical := fun hx => by
      rw [physical?_modifyPhysical, if_neg hx] }

/-- The physical connection is returned to a pool. -/
theorem Hosts.giveBack (h : s.Hosts p w t) (pool : PoolId) :
    { s with returns := s.returns ++ [(pool, p.physical)] }.Hosts p w
      { t with returns := t.returns ++ [(pool, p.physical)] } :=
  { h with
    returns := by
      rw [List.filter_append, List.filter_append, h.returns] }

/-- It gives back its own physical connection. -/
theorem Minds.giveBack (p : Party) (w : Pairing) (s : State)
    (pool : PoolId) :
    s.Minds p w w
      { s with returns := s.returns ++ [(pool, p.physical)] } :=
  { Minds.refl p w s with
    returns := fun {x} hx => by
      rw [List.filter_append, List.filter_cons_of_neg, List.filter_nil,
        List.append_nil]
      exact fun he => hx (beq_iff_eq.1 he).symm }

/-- Dropping a connection leaves the others as they are. -/
theorem connection?_dropConnection (s : State) (c i : ConnectionId) :
    (s.dropConnection c).connection? i
      = if i = c then none else s.connection? i := by
  show (s.connections.set c none)[i]?.join = _
  rw [List.getElem?_set]
  by_cases hi : c = i
  · subst hi
    rw [if_pos rfl, if_pos rfl]
    split <;> rfl
  · rw [if_neg hi, if_neg fun he => hi he.symm]
    rfl

/-- The party's connection is dropped, and what its links remember. -/
theorem Hosts.dropConnection (h : s.Hosts p w t) :
    (s.dropConnection p.connection).Hosts p w
      (t.dropConnection p.connection) := by
  have hgone : ∀ {α : Type} (x : Keyed LinkId α) {k : LinkId},
      k.connection = p.connection →
      (x.filter fun i => i.connection != p.connection).get? k = none := by
    intro α x k hk
    rw [Keyed.get?_filter, if_neg]
    simp only [hk, bne_self_eq_false, Bool.false_eq_true, not_false_eq_true]
  exact
  { h with
    connection := by
      rw [connection?_dropConnection, connection?_dropConnection, if_pos rfl,
        if_pos rfl]
    attached := fun hx _ => by
      rw [connection?_dropConnection, if_pos rfl] at hx
      cases hx
    cache := fun hk => by
      show Option.Rel _ (Keyed.get? (Keyed.filter _ _) _)
        (Keyed.get? (Keyed.filter _ _) _)
      rw [hgone _ hk, hgone _ hk]
      exact .none
    tracker := fun hk => by
      show Option.Rel _ (Keyed.get? (Keyed.filter _ _) _)
        (Keyed.get? (Keyed.filter _ _) _)
      rw [hgone _ hk, hgone _ hk]
      exact .none
    recorder := fun hk => by
      show (Keyed.get? (Keyed.filter _ _) _).isSome
        = (Keyed.get? (Keyed.filter _ _) _).isSome
      rw [hgone _ hk, hgone _ hk]
    counter := fun hk => (hgone _ hk).trans (hgone _ hk).symm }

/-- With its connection goes what that connection's links remember, and
nothing else. -/
theorem Minds.dropConnection (p : Party) (w : Pairing) (s : State) :
    s.Minds p w w (s.dropConnection p.connection) := by
  have hkept : ∀ {α : Type} (x : Keyed LinkId α) {k : LinkId},
      k.connection ≠ p.connection →
      (x.filter fun i => i.connection != p.connection).get? k = x.get? k := by
    intro α x k hk
    rw [Keyed.get?_filter, if_pos (bne_iff_ne.2 hk)]
  exact
  { Minds.refl p w s with
    connection := fun hc => by
      rw [connection?_dropConnection, if_neg hc]
    cache := fun hk => hkept _ hk
    tracker := fun hk => hkept _ hk
    recorder := fun hk => hkept _ hk
    counter := fun hk => hkept _ hk }

end State

-- ============================================================ acts in step

namespace Act

variable {s s' t u : State} {α β γ δ : Type}

/-- How acts that keep in step end. -/
structure Ends (p : Party) (V : Pairing → α → β → Prop) (w w' : Pairing)
    (s : State) (r : Except Error α × State) (r' : Except Error β × State) :
    Prop where
  minds : s.Minds p w w' r.2
  hosts : r.2.Hosts p w' r'.2
  answers : Answers (V w') r.1 r'.1

/-- Whether two acts keep in step, the one in company and the other
alone. -/
def InStep (p : Party) (V : Pairing → α → β → Prop) (w : Pairing)
    (x : Act α) (y : Act β) : Prop :=
  ∀ s t : State, s.Hosts p w t →
    ∃ w', Ends p V w w' s (x.run s) (y.run t)

/-- What happened before. -/
theorem Ends.after {V : Pairing → α → β → Prop} {r : Except Error α × State}
    {r' : Except Error β × State} (h : Ends p V w' w'' s' r r')
    (hm : s.Minds p w w' s') : Ends p V w w'' s r r' :=
  ⟨hm.trans h.minds, h.hosts, h.answers⟩

namespace InStep

open Pairing (Equal)

variable {V : Pairing → α → β → Prop} {U : Pairing → γ → δ → Prop}

theorem pure {a : α} {b : β} (h : V w a b) :
    InStep p V w (Pure.pure a) (Pure.pure b) :=
  fun s _ h' => ⟨w, .refl p w s, h', .ok h⟩

theorem throw (e : Error) :
    InStep p V w (MonadExcept.throw e) (MonadExcept.throw e) :=
  fun s _ h => ⟨w, .refl p w s, h, .error e⟩

theorem lift {r : Except Error α} {r' : Except Error β}
    (h : Answers (V w) r r') : InStep p V w (liftM r) (liftM r') :=
  fun s _ h' => ⟨w, .refl p w s, h', h⟩

/-- What follows acts that end in step. -/
theorem after {x : Act α} {y : Act β} {f : α → Act γ} {g : β → Act δ}
    (hx : ∃ w', Ends p V w w' s (x.run s) (y.run t))
    (hf : ∀ {w' a b}, w.Le w' → V w' a b → InStep p U w' (f a) (g b)) :
    ∃ w', Ends p U w w' s ((x >>= f).run s) ((y >>= g).run t) := by
  obtain ⟨w', hminds, hhosts, hanswers⟩ := hx
  rw [run_bind, run_bind]
  rcases hr : x.run s with ⟨r, s'⟩
  rcases hr' : y.run t with ⟨r', t'⟩
  rw [hr] at hminds hhosts hanswers
  rw [hr'] at hhosts hanswers
  cases hanswers with
  | error e => exact ⟨w', hminds, hhosts, .error e⟩
  | ok hab =>
      obtain ⟨w'', hrest⟩ := hf hminds.toLe hab s' t' hhosts
      exact ⟨w'', hrest.after hminds⟩

theorem bind {x : Act α} {y : Act β} {f : α → Act γ} {g : β → Act δ}
    (hx : InStep p V w x y) (hf : ∀ {w' a b}, w.Le w' → V w' a b →
      InStep p U w' (f a) (g b)) : InStep p U w (x >>= f) (y >>= g) :=
  fun s t h => after (hx s t h) hf

/-- What follows a look at the states is given those states. -/
theorem get_bind {f g : State → Act γ} {U : Pairing → γ → γ → Prop}
    (h : ∀ s t, s.Hosts p w t →
      ∃ w', Ends p U w w' s ((f s).run s) ((g t).run t)) :
    InStep p U w (get >>= f) (get >>= g) := h

/-- Changed states are put in place. -/
theorem set_bind {f : PUnit → Act γ} {g : PUnit → Act δ} {t' : State}
    (hm : s.Minds p w w' s') (h : s'.Hosts p w' t')
    (hf : InStep p U w' (f ⟨⟩) (g ⟨⟩)) :
    ∃ w', Ends p U w w' s (((set s' : Act PUnit) >>= f).run s)
      (((set t' : Act PUnit) >>= g).run t) := by
  obtain ⟨w'', hrest⟩ := hf s' t' h
  exact ⟨w'', hrest.after hm⟩

theorem modify {f g : State → State}
    (h : ∀ s t, s.Hosts p w t →
      s.Minds p w w (f s) ∧ (f s).Hosts p w (g t)) :
    InStep p Equal w (modify f : Act PUnit) (modify g : Act PUnit) :=
  fun s t hs => ⟨w, (h s t hs).1, (h s t hs).2, .ok rfl⟩

/-- The failure of an act is handed over as a value. -/
theorem attempt {x : Act α} {y : Act β} (h : InStep p V w x y) :
    InStep p (fun w => Answers (V w)) w (Act.attempt x) (Act.attempt y) := by
  intro s t hs
  obtain ⟨w', hrest⟩ := h s t hs
  exact ⟨w', hrest.minds, hrest.hosts, .ok hrest.answers⟩

/-- A call on the driver's side. -/
theorem native {x : Native.Act α} {y : Native.Act β}
    {R : Native.Pairs → α → β → Prop}
    (h : x.InStep p.native R w.statements y) :
    InStep p (fun w => R w.statements) w (Act.native x) (Act.native y) := by
  intro s t hs
  obtain ⟨ps, hrest⟩ := h s.native t.native hs.native
  exact ⟨{ w with statements := ps }, .call hrest.minds,
    hs.call hrest.minds.le hrest.hosts, hrest.answers.mapError _⟩

end InStep

end Act

end PooledChain
