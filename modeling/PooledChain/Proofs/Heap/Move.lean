/-
The moves that a call is made of.

Whatever a caller or a pool does, what happens to the layers, to the
shelves and to the driver's statements is a sequence of moves of the
sorts listed in `Move`. The list is the one place that says what the
library can do to a statement; that every call is such a sequence is
shown beside the calls, and every invariant is shown for the moves.

# Terms

Not every stretch of a run uses all moves freely. `Terms` says what it
may do: which layers it closes where they stand (not only those it has
in hand), which facades it breaks, which caches it empties or drops,
which chains it sets up, and whether all its links are faithful.

# What is shown here

`Move.sound`: every move keeps a scene sound, under any terms. With it
`Moves.sound` for whole sequences.
-/
import PooledChain.Proofs.Heap.Sound

namespace PooledChain

open State (TrackedBy Placed)

/-- What a stretch of a run may do. -/
structure Terms where
  /-- Whether connections that are opened ask the rules. -/
  guarded : Bool
  /-- The layers it may close where they stand. -/
  closes : LayerId → Prop
  /-- The facades it may break. -/
  taints : LayerId → Prop
  /-- The caches it may empty or drop. -/
  empties : LinkId → Prop
  /-- The caches it may drop. -/
  drops : LinkId → Prop
  /-- The chains it may set up. -/
  connects : List Link → Prop
  /-- The connections whose caches may get a shelf. -/
  stocks : ConnectionId → Prop
  /-- The connections for which it may make statements, put facades of
  their caches around them, and take them off their shelves. -/
  creates : ConnectionId → Prop
  /-- Whether its links are faithful: none of them answers for its facades,
  which all carry the SQL and the kind of their delegates. -/
  faithful : Prop

/-- Terms under which everything can be done. -/
def Terms.free (guarded : Bool) : Terms :=
  ⟨guarded, fun _ => True, fun _ => True, fun _ => True, fun _ => True,
    fun _ => True, fun _ => True, fun _ => True, False⟩

/-- A change that passes the layers, the shelves and the driver's
statements by. -/
structure Aside (guarded : Bool) (s t : State) : Prop where
  layers : t.layers = s.layers
  caches : t.caches = s.caches
  native : Native.Store.Steady guarded s.native t.native
  connections : t.connections.length = s.connections.length
  links : ∀ {c x}, t.connection? c = some x →
    ∃ y, s.connection? c = some y ∧ y.links = x.links
  lists : ∀ {k n id}, t.Lists k n id →
    s.Lists k n id ∨ TrackedBy k n (s.core id)

/-- Two states that differ in what is recorded, counted and listed only,
with nothing listed that was not before. -/
structure State.Alike (s t : State) : Prop where
  layers : t.layers = s.layers
  caches : t.caches = s.caches
  native : t.native = s.native
  connections : t.connections = s.connections
  lists : ∀ {k n id}, t.Lists k n id → s.Lists k n id

theorem State.Alike.refl (s : State) : s.Alike s :=
  ⟨rfl, rfl, rfl, rfl, fun h => h⟩

theorem State.Alike.trans {s t u : State} (h₁ : s.Alike t)
    (h₂ : t.Alike u) : s.Alike u where
  layers := h₂.layers.trans h₁.layers
  caches := h₂.caches.trans h₁.caches
  native := h₂.native.trans h₁.native
  connections := h₂.connections.trans h₁.connections
  lists h := h₁.lists (h₂.lists h)

/-- Trackers that list no more than before. -/
theorem State.Alike.of_trackers {s : State}
    {trackers : Keyed LinkId Tracker}
    (h : ∀ {k t}, (k, t) ∈ trackers.entries → t.entries = [] ∨
      ∃ t', (k, t') ∈ s.trackers.entries ∧ t.entries ⊆ t'.entries) :
    s.Alike { s with trackers } where
  layers := rfl
  caches := rfl
  native := rfl
  connections := rfl
  lists hl := by
    obtain ⟨t, hm, he⟩ := hl
    rcases h hm with ht | ⟨t', hm', hsub⟩
    · rw [ht] at he
      cases he
    · exact ⟨t', hm', hsub he⟩

/-- A tracker that takes entries off its list. -/
theorem State.Alike.modify_tracker (s : State) (k : LinkId)
    {f : Tracker → Tracker} (hf : ∀ t, (f t).entries ⊆ t.entries) :
    s.Alike { s with trackers := s.trackers.modify k f } := by
  refine of_trackers fun {k' t} hm => .inr ?_
  rw [Keyed.modify] at hm
  split at hm
  · next t' ht' =>
    rcases Keyed.mem_set.1 hm with he | ⟨hm, -⟩
    · cases he
      exact ⟨t', Keyed.mem_of_get? ht', hf t'⟩
    · exact ⟨t, hm, fun _ h => h⟩
  · exact ⟨t, hm, fun _ h => h⟩

namespace Aside

variable {g : Bool} {s t u : State}

theorem of_alike (h : s.Alike t) : Aside g s t where
  layers := h.layers
  caches := h.caches
  native := by rw [h.native]; exact .refl _
  connections := by rw [h.connections]
  links {_ x} hc := ⟨x, by
    rw [State.connection?, h.connections] at hc
    exact hc, rfl⟩
  lists hl := .inl (h.lists hl)

theorem refl (s : State) : Aside g s s := of_alike (.refl s)

theorem trans (h₁ : Aside g s t) (h₂ : Aside g t u) : Aside g s u where
  layers := h₂.layers.trans h₁.layers
  caches := h₂.caches.trans h₁.caches
  native := h₁.native.trans h₂.native
  connections := h₂.connections.trans h₁.connections
  links hc := by
    obtain ⟨y, hy, hlinks⟩ := h₂.links hc
    obtain ⟨z, hz, hlinks'⟩ := h₁.links hy
    exact ⟨z, hz, hlinks'.trans hlinks⟩
  lists h := by
    rcases h₂.lists h with h | h
    · exact h₁.lists h
    · rw [State.core_congr h₁.layers] at h
      exact .inr h

/-- A call of the driver that neither makes nor closes a statement. -/
theorem of_native {st : Native.Store}
    (h : Native.Store.Steady g s.native st) :
    Aside g s { s with native := st } where
  layers := rfl
  caches := rfl
  native := h
  connections := rfl
  links {_ x} hc := ⟨x, hc, rfl⟩
  lists h := .inl h

end Aside

/-- Shelves that the layers of a state can be on. A shelf keeps its
generation and what it has room for, unless it is emptied. -/
structure Shelves (p : Terms) (s : State)
    (caches : Keyed LinkId CacheStore) : Prop where
  distinct : caches.Distinct
  shelved : ∀ {k store}, (k, store) ∈ caches.entries →
    s.Shelved k store ∧ k.connection < s.connections.length
  later : ∀ {k old new}, s.caches.get? k = some old →
    caches.get? k = some new →
    old.generation ≤ new.generation ∧ new.capacity = old.capacity
  kept : ∀ {k old}, s.caches.get? k = some old → ¬ p.empties k →
    ∃ new, caches.get? k = some new ∧ new.generation = old.generation
  stays : ∀ {k old}, s.caches.get? k = some old → ¬ p.drops k →
    ∃ new, caches.get? k = some new
  new : ∀ {k store}, s.caches.get? k = none → caches.get? k = some store →
    p.stocks k.connection

namespace State

/-- A new facade of a cache is unbroken and of the present generation. -/
def Fresh (s : State) (f : Facade) : Prop :=
  ∀ {k g b}, f.behaviour = .cached k g b →
    b = false ∧ f.level = k.place + 1
      ∧ ∃ store, s.caches.get? k = some store ∧ store.generation = g

/-- Whether a layer is on the shelf of a cache of that connection. -/
def Keeps (s : State) (i : ConnectionId) (id : LayerId) : Prop :=
  ∃ k store sql, (k, store) ∈ s.caches.entries ∧ (sql, id) ∈ store.entries
    ∧ k.connection = i

/-- What is on some shelf is parked. -/
theorem Keeps.mem_parked {s : State} {i : ConnectionId} {id : LayerId}
    (h : s.Keeps i id) : id ∈ s.parked := by
  obtain ⟨k, store, sql, hk, he, -⟩ := h
  exact mem_onShelves.2 ⟨k, store, sql, hk, he⟩

end State

/-- A facade after it was closed. -/
def Facade.shut (f : Facade) : Facade :=
  { f with closed := true, delegate := none }

/-- A facade of a cache after a permanent failure. -/
def Facade.broken (f : Facade) (k : LinkId) (g : Nat) : Facade :=
  { f with behaviour := .cached k g true }

/-- A layer of the same statement that is an unbroken facade of a
cache. -/
def Layer.twin (l : Layer) (level : Nat) (k : LinkId) (g : Nat)
    (d : LayerId) : Layer :=
  { l with core := .facade ⟨level, some d, false, .cached k g false⟩ }

/-- Whether a facade was made by a link that watches. -/
def Behaviour.isWatched : Behaviour → Bool
  | watched _ _ => true
  | _ => false

/-- Whether a link lets everything pass as it is: it does not answer in
place of what is below it, and changes nothing. -/
def Link.isFaithful : Link → Bool
  | answering _ => false
  | prepending _ => false
  | watcher _ _ _ => false
  | _ => true

/-- One change of a scene that the terms allow. Everything that an operation
does to layers, shelves and statements is a sequence of these. -/
inductive Move (p : Terms) : Scene → Scene → Prop
  /-- Something else happens. -/
  | aside {s t held out loose} : Aside p.guarded s t →
      Move p ⟨s, held, out, loose⟩ ⟨t, held, out, loose⟩
  /-- A connection is set up. -/
  | connect {s held out loose links} : p.connects links →
      Move p ⟨s, held, out, loose⟩
        ⟨{ s with connections := s.connections ++ [some ⟨links, {}⟩] }, held,
          out, loose⟩
  /-- A facade of a cache learns of a permanent failure. -/
  | taint {s held out loose id f k g b} : s.core id = .facade f →
      f.behaviour = .cached k g b → id ∉ s.parked → p.taints id →
      Move p ⟨s, held, out, loose⟩
        ⟨s.setCore id (.facade (f.broken k g)), held, out, loose⟩
  /-- The driver makes a statement, and a native handle is put around
  it. -/
  | make {s st held loose l i} : s.native.Made st l.kind l.sql →
      l.core = .native (some s.native.statements.length) →
      l.connection = some i → p.creates i →
      Move p ⟨s, held, none, loose⟩
        ⟨{ (s.addLayer l).2 with native := st }, held,
          some s.layers.length, loose⟩
  /-- A link puts a facade around the statement on its way up. -/
  | decorate {s held d loose l f} : l.core = .facade f →
      f.delegate = some d → f.closed = false →
      (s.core d).level < f.level → s.Fresh f →
      (∀ {k g b}, f.behaviour = .cached k g b → p.creates k.connection) →
      (∃ i, l.connection = some i ∧ p.creates i) →
      (p.faithful → f.behaviour.isWatched = false ∧ ∃ l',
        s.layer? d = some l' ∧ l.sql = l'.sql ∧ l.kind = l'.kind) →
      Move p ⟨s, held, some d, loose⟩
        ⟨(s.addLayer l).2, held, some s.layers.length, loose⟩
  /-- A facade is closed and lets go of its delegate. -/
  | shut {s held out loose id f d} : s.core id = .facade f →
      f.delegate = some d →
      id ∈ loose ∨ p.closes id ∧ id ∉ s.parked →
      Move p ⟨s, held, out, loose⟩
        ⟨s.setCore id (.facade f.shut), held, out, d :: loose⟩
  /-- A native handle lets go of its statement, which is closed. -/
  | letGo {s held out loose id n} : s.core id = .native (some n) →
      id ∈ loose ∨ p.closes id →
      Move p ⟨s, held, out, loose⟩
        ⟨{ s.setCore id (.native none) with
            native := ((Native.dispose n).run s.native).2 },
          held, out, loose⟩
  /-- A facade of a cache is closed, and its delegate gets a new facade
  of the same sort. -/
  | twin {s held out loose id l f d k g} : s.layer? id = some l →
      l.core = .facade f → f.behaviour = .cached k g false →
      f.delegate = some d →
      id ∈ loose ∨ p.closes id ∧ id ∉ s.parked →
      Move p ⟨s, held, out, loose⟩
        ⟨((s.setCore id (.facade f.shut)).addLayer
            (l.twin f.level k g d)).2, held, out, s.layers.length :: loose⟩
  /-- Layers are parked, taken off a shelf or thrown away. -/
  | shift {s held out out' loose loose' caches} : Shelves p s caches →
      (∀ a, (State.onShelves caches).count a + out'.toList.count a
          + loose'.count a
        ≤ s.parked.count a + out.toList.count a + loose.count a) →
      (∀ {id}, out' = some id →
        out = some id ∨ ∃ i, s.Keeps i id ∧ p.creates i) →
      Move p ⟨s, held, out, loose⟩
        ⟨{ s with caches }, held, out', loose'⟩
  /-- The statement on its way up reaches the caller. -/
  | give {s held loose id} :
      Move p ⟨s, held, some id, loose⟩ ⟨s, id :: held, none, loose⟩
  /-- Callers let go of layers. -/
  | letDown {s held held' out loose} : held' ⊆ held →
      Move p ⟨s, held, out, loose⟩ ⟨s, held', out, loose⟩
  /-- A layer that nobody owns or holds is released. -/
  | free {s held out loose id} : s.core id ≠ .released → id ∉ held →
      id ∉ (⟨s, held, out, loose⟩ : Scene).owned →
      Move p ⟨s, held, out, loose⟩ ⟨s.releaseLayer id, held, out, loose⟩

/-- A sequence of moves. -/
def Moves (p : Terms) : Scene → Scene → Prop :=
  Relation.ReflTransGen (Move p)

-- ======================================================= keeping sound

namespace Scene.Sound

variable {p : Terms} {s t : State} {held held' loose loose' : List LayerId}
  {out out' : Option LayerId}

/-- The statement that a native handle of a sound scene has is open at the
driver. -/
theorem mem_handles (h : Sound ⟨s, held, out, loose⟩) {id : LayerId}
    {n : Native.StatementId} (hid : s.core id = .native (some n)) :
    s.native.HasOpen n :=
  (h.backed.opened n).1 (State.mem_handles.2 ⟨id, hid⟩)

/-- What is in hand is on no shelf. -/
theorem not_parked (h : Sound ⟨s, held, out, loose⟩) {id : LayerId}
    (hid : id ∈ loose) : id ∉ s.parked := by
  intro hp
  have hle := List.nodup_iff_count_le_one.1 h.owned.once id
  have h1 := List.count_pos_iff.2 hid
  have h2 := List.count_pos_iff.2 hp
  rw [count_owned] at hle
  simp only at hle
  omega

/-- A layer that may be closed is not parked, as it is either loose or no
parked one. -/
theorem not_parked_of_closes (h : Sound ⟨s, held, out, loose⟩)
    {id : LayerId} {P : Prop} (hid : id ∈ loose ∨ P ∧ id ∉ s.parked) :
    id ∉ s.parked := by
  rcases hid with hid | ⟨-, hid⟩
  · exact h.not_parked hid
  · exact hid

/-- A change that passes the layers by leaves a scene sound. -/
theorem aside (h : Sound ⟨s, held, out, loose⟩) {g : Bool}
    (ha : Aside g s t) :
    Sound ⟨t, held, out, loose⟩ where
  formed := h.formed.congr ha.layers
  stocked := h.stocked.congr
    (fun id _ => State.layer?_congr ha.layers id) ha.caches
    (Nat.le_of_eq ha.connections.symm)
  backed := h.backed.congr
    (fun n => by rw [State.handles, State.gather_congr _ ha.layers]; rfl)
    ha.native.hasOpen_iff
  listed {k n id} hl := by
    show id < t.layers.length ∧ (t.core id = _ ∨ TrackedBy k n (t.core id))
    rw [State.core_congr ha.layers, ha.layers]
    rcases ha.lists hl with hl | ht
    · exact h.listed hl
    · refine ⟨State.lt_of_core ?_, .inr ht⟩
      obtain ⟨f, hf, -⟩ := ht
      rw [hf]
      exact fun h => by cases h
  owned := by
    have hp : t.parked = s.parked := by
      rw [State.parked_eq, ha.caches, State.parked_eq]
    have hd : t.delegates = s.delegates := State.gather_congr _ ha.layers
    refine h.owned.of_count_le (fun a => ?_) (fun _ ha => ha) fun _ hc => ?_
    · rw [count_owned, count_owned]
      simp only [hp, hd, Nat.le_refl]
    · show t.core _ ≠ _
      rw [State.core_congr ha.layers]
      exact hc

/-- Setting up a connection leaves a scene sound: its shelves are empty. -/
theorem connect (h : Sound ⟨s, held, out, loose⟩) (links : List Link) :
    Sound ⟨{ s with connections := s.connections ++ [some ⟨links, {}⟩] },
      held, out, loose⟩ where
  formed := h.formed.congr rfl
  stocked := h.stocked.congr (fun _ _ => rfl) rfl (by
    rw [List.length_append]
    exact Nat.le_add_right _ _)
  backed := h.backed.congr (fun _ => rfl) fun _ => Iff.rfl
  listed := h.listed
  owned := h.owned.of_count_le (fun _ => Nat.le_refl _) (fun _ ha => ha)
    fun _ hc => hc

/-- A facade that is changed, keeps or loses its delegate, and is on no
shelf. -/
theorem setFacade (h : Sound ⟨s, held, out, loose⟩) {id : LayerId}
    {f f' : Facade} (hid : s.core id = .facade f) (hp : id ∉ s.parked)
    (hlevel : f'.level = f.level)
    (hclosed : f'.closed = f'.delegate.isNone)
    (hplaced : Placed (.facade f'))
    (htracked : ∀ {k n}, f.behaviour = .tracked k n →
      f'.behaviour = .tracked k n)
    (hdelegate : f'.delegate = f.delegate ∧ loose' = loose
      ∨ f'.delegate = none ∧ loose' = f.delegate.toList ++ loose) :
    Sound ⟨s.setCore id (.facade f'), held, out, loose'⟩ := by
  have hne : s.core id ≠ .released := Core.ne_released_of_facade hid
  have hcore := State.core_setCore (State.lt_of_core hne) (.facade f')
  refine ⟨?_, ?_, ?_, ?_, ?_⟩
  · refine h.formed.setCore hne (fun {d} hd => ?_) ?_ (fun {g} hg => ?_) hplaced
    · rw [hid]
      refine ⟨?_, hlevel⟩
      rcases hdelegate with ⟨hf, -⟩ | ⟨hf, -⟩
      · exact hf.symm.trans hd
      · rw [Core.delegate?_facade, hf] at hd
        cases hd
    · rw [hid]
      exact Nat.le_of_eq hlevel
    · cases hg
      exact hclosed
  · refine h.stocked.congr (fun a ha => ?_) rfl (Nat.le_refl _)
    have hne : a ≠ id := fun he => hp (he ▸ ha)
    rw [State.layer?_setCore, if_neg hne]
  · refine h.backed.congr (fun n => ?_) fun n => Iff.rfl
    have hc := State.count_gather_setCore (g := Core.handle?) hne
      (.facade f') n
    rw [hid] at hc
    exact Nat.add_left_cancel hc
  · intro k n a hl
    obtain ⟨hlt, hcase⟩ := h.listed hl
    refine ⟨by rw [State.length_setCore]; exact hlt, ?_⟩
    show (s.setCore id (.facade f')).core a = _ ∨ TrackedBy k n
      ((s.setCore id (.facade f')).core a)
    rw [hcore]
    split
    · next he =>
      subst he
      rcases hcase with hr | ⟨g, hg, hb⟩
      · exact absurd hr hne
      · rw [hid] at hg
        cases hg
        exact .inr ⟨f', rfl, htracked hb⟩
    · exact hcase
  · refine h.owned.of_count_le (fun a => ?_) (fun _ ha => ha)
      fun {a} _ hc => ?_
    · have hcount := State.count_gather_setCore (g := Core.delegate?) hne
        (.facade f') a
      rw [hid] at hcount
      rw [count_owned, count_owned]
      simp only [State.delegates, Core.delegate?_facade] at *
      have hsame : (s.setCore id (.facade f')).parked = s.parked := rfl
      rw [hsame]
      rcases hdelegate with ⟨hf, rfl⟩ | ⟨hf, rfl⟩
      · rw [hf] at hcount
        omega
      · rw [hf] at hcount
        rw [List.count_append]
        simp only [Option.toList_none, List.count_nil] at hcount
        omega
    · show (s.setCore id (.facade f')).core a ≠ _
      rw [hcore]
      split
      · exact fun h => by cases h
      · exact hc

/-- Breaking a facade that is not parked leaves a scene sound. -/
theorem taint (h : Sound ⟨s, held, out, loose⟩) {id : LayerId}
    {f : Facade} {k : LinkId} {g : Nat} {b : Bool}
    (hid : s.core id = .facade f) (hb : f.behaviour = .cached k g b)
    (hp : id ∉ s.parked) :
    Sound ⟨s.setCore id (.facade (f.broken k g)), held, out, loose⟩ := by
  have hclosed : f.closed = f.delegate.isNone := h.formed.hollow hid
  refine h.setFacade hid hp rfl hclosed ?_ ?_ (.inl ⟨rfl, rfl⟩)
  · intro f' k' g' b' hf' hb'
    cases hf'
    cases hb'
    have hplaced : Placed (s.core id) := h.formed.placed id
    have hlevel : f.level = k.place + 1 := hplaced hid hb
    exact hlevel
  · intro k' n hk
    rw [hb] at hk
    cases hk

/-- Closing a facade leaves a scene sound: its delegate is loose now, and
still owned once. -/
theorem shut (h : Sound ⟨s, held, out, loose⟩) {id d : LayerId}
    {f : Facade} (hid : s.core id = .facade f) (hd : f.delegate = some d)
    (hp : id ∉ s.parked) :
    Sound ⟨s.setCore id (.facade f.shut), held, out, d :: loose⟩ := by
  refine h.setFacade hid hp rfl rfl ?_ (fun hk => hk)
    (.inr ⟨rfl, by rw [hd]; rfl⟩)
  intro f' k g b hf' hb
  cases hf'
  have hplaced : Placed (s.core id) := h.formed.placed id
  have hlevel : f.level = k.place + 1 := hplaced hid hb
  exact hlevel

/-- A new layer that owns what was on its way up, if anything, and takes
its place. -/
theorem addLayer (h : Sound ⟨s, held, out, loose⟩) {l : Layer}
    (st : Native.Store)
    (hout : l.core.delegate? = out)
    (hlevel : ∀ {d}, out = some d → (s.core d).level < l.core.level)
    (hclosed : ∀ {f}, l.core = .facade f → f.closed = f.delegate.isNone)
    (hplaced : Placed l.core) (hlive : l.core ≠ .released)
    (hbacked : State.Backed { (s.addLayer l).2 with native := st }) :
    Sound ⟨{ (s.addLayer l).2 with native := st }, held,
      some s.layers.length, loose⟩ := by
  have hcore := State.core_addLayer (s := s) l
  have hold : ∀ {a}, s.core a ≠ .released →
      (s.addLayer l).2.core a = s.core a := fun ha => by
    rw [hcore, if_neg (Nat.ne_of_lt (State.lt_of_core ha))]
  refine ⟨?_, ?_, ?_, ?_, ?_⟩
  · refine State.Formed.congr (s := (s.addLayer l).2) ?_ rfl
    refine h.formed.addLayer (fun {d} hd => ?_) hclosed hplaced
    have hod : out = some d := hout.symm.trans hd
    refine ⟨h.owned.living (.inr ?_), hlevel hod⟩
    exact mem_owned.2 (.inr (.inr (.inl hod)))
  · refine h.stocked.congr (fun a ha => ?_) rfl (Nat.le_refl _)
    have hlive : s.core a ≠ .released :=
      h.owned.living (.inr (mem_owned.2 (.inr (.inl ha))))
    show (s.addLayer l).2.layer? a = s.layer? a
    rw [State.layer?_addLayer_of_lt (State.lt_of_core hlive)]
  · exact hbacked
  · intro k n a hl
    obtain ⟨hlt, hcase⟩ := h.listed hl
    refine ⟨?_, ?_⟩
    · show a < (s.layers ++ [l]).length
      rw [List.length_append]
      exact Nat.lt_add_right _ hlt
    · show (s.addLayer l).2.core a = _ ∨ TrackedBy k n
        ((s.addLayer l).2.core a)
      rw [hcore, if_neg (Nat.ne_of_lt hlt)]
      exact hcase
  · refine h.owned.of_count_le_new (fun a => ?_) (fun _ ha => ha)
      (fun {a} ha => ?_) ?_
    · rw [count_owned, count_owned]
      have hd := State.count_gather_addLayer (s := s)
        (g := Core.delegate?) l a
      simp only [State.delegates] at *
      have hparked : State.parked { (s.addLayer l).2 with native := st }
          = s.parked := rfl
      have hgather : State.gather { (s.addLayer l).2 with native := st }
          Core.delegate?
          = (s.addLayer l).2.gather Core.delegate? := rfl
      rw [hparked, hgather, hd, hout, Option.toList_some,
        List.count_singleton]
      by_cases ha : a = s.layers.length
      · subst ha
        simp only [beq_self_eq_true, if_true]
        omega
      · have hbeq : (s.layers.length == a) = false := by
          simpa using fun he : s.layers.length = a => ha he.symm
        simp only [hbeq, if_neg ha, Bool.false_eq_true, if_false]
        omega
    · show (s.addLayer l).2.core a ≠ _
      rw [hold ha]
      exact ha
    · show (s.addLayer l).2.core s.layers.length ≠ _
      rw [hcore, if_pos rfl]
      exact hlive

/-- Other shelves, and other hands for what was in hand or parked. -/
theorem shift (h : Sound ⟨s, held, out, loose⟩)
    {caches : Keyed LinkId CacheStore} (hc : Shelves p s caches)
    (hle : ∀ a, (State.onShelves caches).count a + out'.toList.count a
        + loose'.count a
      ≤ s.parked.count a + out.toList.count a + loose.count a) :
    Sound ⟨{ s with caches }, held, out', loose'⟩ where
  formed := h.formed.congr rfl
  stocked :=
    { distinct := hc.distinct
      shelved := fun {k store} hk => by
        obtain ⟨hd, hf, he⟩ := (hc.shelved hk).1
        exact ⟨hd, hf, he⟩
      known := fun {k store} hk => (hc.shelved hk).2 }
  backed := h.backed.congr (fun _ => rfl) fun _ => Iff.rfl
  listed := h.listed
  owned := by
    refine h.owned.of_count_le (fun a => ?_) (fun _ ha => ha) fun _ hc => hc
    have h' := hle a
    have hparked : State.parked { s with caches }
        = State.onShelves caches := rfl
    have hdelegates : State.delegates { s with caches } = s.delegates := rfl
    rw [count_owned, count_owned]
    simp only [hparked, hdelegates]
    omega

/-- The shelves that are there. -/
theorem shelves (h : Sound ⟨s, held, out, loose⟩) (p : Terms) :
    Shelves p s s.caches where
  distinct := h.stocked.distinct
  shelved hk := ⟨h.stocked.shelved hk, h.stocked.known hk⟩
  later ho hn := by
    rw [ho] at hn
    cases hn
    exact ⟨Nat.le_refl _, rfl⟩
  kept ho _ := ⟨_, ho, rfl⟩
  stays ho _ := ⟨_, ho⟩
  new ho hn := by
    rw [ho] at hn
    cases hn

/-- Other hands for what is in hand. -/
theorem rehand (h : Sound ⟨s, held, out, loose⟩)
    (hle : ∀ a, out'.toList.count a + loose'.count a
      ≤ out.toList.count a + loose.count a) :
    Sound ⟨s, held, out', loose'⟩ := by
  refine h.shift (h.shelves (.free false)) fun a => ?_
  have := hle a
  rw [State.parked_eq]
  omega

/-- A new handle over a new statement is owned by being on its way up. -/
theorem make (h : Sound ⟨s, held, none, loose⟩) {st : Native.Store}
    {l : Layer} (hm : s.native.Made st l.kind l.sql)
    (hl : l.core = .native (some s.native.statements.length)) :
    Sound ⟨{ (s.addLayer l).2 with native := st }, held,
      some s.layers.length, loose⟩ := by
  refine h.addLayer st (by rw [hl]; rfl) (fun h => by cases h)
    (fun hf => by rw [hl] at hf; cases hf)
    (fun hf => by rw [hl] at hf; cases hf) (Core.ne_released_of_native hl) ?_
  have hhandles : State.handles { (s.addLayer l).2 with native := st }
      = s.handles ++ [s.native.statements.length] := by
    have hg : State.handles { (s.addLayer l).2 with native := st }
      = (s.addLayer l).2.gather Core.handle? := rfl
    rw [hg, State.gather_addLayer, hl]
    rfl
  have hnew : s.native.statements.length ∉ s.handles := fun hmem =>
    Nat.lt_irrefl _ ((h.backed.opened _).1 hmem).lt
  refine ⟨?_, fun n => ?_⟩
  · rw [hhandles]
    refine List.nodup_append.2 ⟨h.backed.once, List.nodup_singleton _, ?_⟩
    intro a ha b hb he
    rw [List.mem_singleton.1 hb] at he
    exact hnew (he ▸ ha)
  · rw [hhandles, List.mem_append, List.mem_singleton, h.backed.opened]
    exact (hm.hasOpen_iff n).symm

/-- A facade around the statement on its way up takes its place, and owns
what it was put around. -/
theorem decorate {d : LayerId} (h : Sound ⟨s, held, some d, loose⟩)
    {l : Layer} {f : Facade} (hl : l.core = .facade f)
    (hd : f.delegate = some d) (hc : f.closed = false)
    (hlevel : (s.core d).level < f.level) (hfresh : s.Fresh f) :
    Sound ⟨(s.addLayer l).2, held, some s.layers.length, loose⟩ := by
  have hnone : l.core.handle? = none := by rw [hl]; rfl
  refine h.addLayer s.native (by rw [hl]; exact hd) (fun he => ?_)
    (fun hf => ?_) ?_ (Core.ne_released_of_facade hl) ?_
  · cases he
    rw [hl]
    exact hlevel
  · rw [hl] at hf
    cases hf
    rw [hc, hd]
    rfl
  · intro f' k g b hf hb
    rw [hl] at hf
    cases hf
    exact (hfresh hb).2.1
  · refine h.backed.congr (fun n => ?_) fun n => Iff.rfl
    have hg := State.count_gather_addLayer (s := s) (g := Core.handle?) l n
    rw [hnone] at hg
    exact hg

/-- A core without a delegate gives no layer another owner. -/
theorem count_owned_vacate {id : LayerId} {c : Core}
    (hne : s.core id ≠ .released) (hdelegate : c.delegate? = none)
    (st : Native.Store) (a : LayerId) :
    (Scene.owned ⟨{ s.setCore id c with native := st }, held, out,
      loose⟩).count a ≤ (Scene.owned ⟨s, held, out, loose⟩).count a := by
  have hcount := State.count_gather_setCore (g := Core.delegate?) hne c a
  have hparked : State.parked { s.setCore id c with native := st }
      = s.parked := rfl
  have hdel : State.delegates { s.setCore id c with native := st }
      = (s.setCore id c).gather Core.delegate? := rfl
  rw [hdelegate, Option.toList_none, List.count_nil] at hcount
  rw [count_owned, count_owned]
  simp only [hparked, hdel]
  simp only [State.delegates] at *
  omega

/-- The driver closes the statement of a core that is exchanged. -/
theorem backed_vacate (h : s.Backed) {id : LayerId} {c : Core}
    (hne : s.core id ≠ .released) (hhandle : c.handle? = none)
    {st : Native.Store}
    (hopen : ∀ n, st.HasOpen n ↔
      s.native.HasOpen n ∧ (s.core id).handle? ≠ some n) :
    State.Backed { s.setCore id c with native := st } := by
  have hcount : ∀ n, (s.core id).handle?.toList.count n
      + (s.setCore id c).handles.count n = s.handles.count n := fun n => by
    have hc := State.count_gather_setCore (g := Core.handle?) hne c n
    rw [hhandle, Option.toList_none, List.count_nil, Nat.zero_add] at hc
    exact hc
  have hle : ∀ n, s.handles.count n ≤ 1 :=
    List.nodup_iff_count_le_one.1 h.once
  refine ⟨List.nodup_iff_count_le_one.2 fun n => ?_, fun n => ?_⟩
  · show (s.setCore id c).handles.count n ≤ 1
    exact Nat.le_trans (Nat.le_of_add_left_le (Nat.le_of_eq (hcount n)))
      (hle n)
  · show n ∈ (s.setCore id c).handles ↔ _
    have hn := hcount n
    have hone := hle n
    rw [hopen, ← h.opened, ← List.count_pos_iff, ← List.count_pos_iff]
    by_cases he : (s.core id).handle? = some n
    · rw [he, Option.toList_some, List.count_singleton_self] at hn
      simp only [he, ne_eq, not_true_eq_false, and_false, iff_false]
      omega
    · have hz : (s.core id).handle?.toList.count n = 0 := by
        refine List.count_eq_zero.2 fun hm => he ?_
        exact Option.mem_toList.1 hm
      simp only [ne_eq, he, not_false_eq_true, and_true]
      omega

/-- A layer whose core is exchanged for one without a delegate, while the
driver closes the statement that the old one had. -/
theorem vacate (h : Sound ⟨s, held, out, loose⟩) {id : LayerId}
    {c : Core} (hne : s.core id ≠ .released)
    (hdelegate : c.delegate? = none) (hhandle : c.handle? = none)
    (hlevel : c.level = 0) (hfacade : ∀ f, c ≠ .facade f)
    (hstay : c = .released → id ∉ held ∧ id ∉ Scene.owned ⟨s, held, out, loose⟩)
    (hlisted : ∀ f, s.core id = .facade f → c = .released)
    {st : Native.Store}
    (hopen : ∀ n, st.HasOpen n ↔
      s.native.HasOpen n ∧ (s.core id).handle? ≠ some n) :
    Sound ⟨{ s.setCore id c with native := st }, held, out, loose⟩ := by
  have hcore := State.core_setCore (State.lt_of_core hne) c
  refine ⟨?_, ?_, backed_vacate h.backed hne hhandle hopen, ?_, ?_⟩
  · refine State.Formed.congr (s := s.setCore id c) ?_ rfl
    refine h.formed.setCore hne (fun {d} hd => ?_) ?_ (fun {f} hf => ?_) ?_
    · rw [hdelegate] at hd
      cases hd
    · rw [hlevel]
      exact Nat.zero_le _
    · exact absurd hf (hfacade f)
    · intro f k g b hf
      exact absurd hf (hfacade f)
  · refine h.stocked.congr (fun a ha => ?_) rfl (Nat.le_refl _)
    show (s.setCore id c).layer? a = s.layer? a
    have hne : a ≠ id := fun he => by
      subst he
      obtain ⟨k, store, d, -, hc⟩ := h.stocked.core_parked ha
      have hr := hlisted _ hc
      exact (hstay hr).2 (mem_owned.2 (.inr (.inl ha)))
    rw [State.layer?_setCore, if_neg hne]
  · intro k n a hl
    obtain ⟨hlt, hcase⟩ := h.listed hl
    refine ⟨by show a < (s.setCore id c).layers.length
               rw [State.length_setCore]; exact hlt, ?_⟩
    show (s.setCore id c).core a = _ ∨ TrackedBy k n ((s.setCore id c).core a)
    rw [hcore]
    split
    · next he =>
      subst he
      rcases hcase with hr | ⟨f, hf, -⟩
      · exact absurd hr hne
      · exact .inl (hlisted f hf)
    · exact hcase
  · have howned : ∀ a,
        (Scene.owned ⟨{ s.setCore id c with native := st }, held, out,
          loose⟩).count a ≤ (Scene.owned ⟨s, held, out, loose⟩).count a :=
      count_owned_vacate hne hdelegate st
    refine h.owned.of_count_le howned (fun _ ha => ha) fun {a} ha hc => ?_
    show (s.setCore id c).core a ≠ _
    rw [hcore]
    split
    · next he =>
      subst he
      intro hr
      obtain ⟨h1, h2⟩ := hstay hr
      rcases ha with ha | ha
      · exact h1 ha
      · exact h2 (List.count_pos_iff.1 (Nat.lt_of_lt_of_le
          (List.count_pos_iff.2 ha) (howned _)))
    · exact hc

/-- Closing the statement under a native handle leaves a scene sound: both
sides lose it. -/
theorem letGo (h : Sound ⟨s, held, out, loose⟩) {id : LayerId}
    {n : Native.StatementId} (hid : s.core id = .native (some n)) :
    Sound ⟨{ s.setCore id (.native none) with
      native := ((Native.dispose n).run s.native).2 }, held, out, loose⟩ := by
  refine h.vacate (Core.ne_released_of_native hid) rfl rfl rfl
    (fun f h => by cases h) (fun h => by cases h)
    (fun f hf => by rw [hid] at hf; cases hf) fun m => ?_
  rw [Native.hasOpen_dispose (h.mem_handles hid), hid]
  simp only [Core.handle?_native, ne_eq, Option.some.injEq]
  exact and_congr_right fun _ => not_congr eq_comm

/-- A layer that nobody owns or holds may be released. -/
theorem free (h : Sound ⟨s, held, out, loose⟩) {id : LayerId}
    (hne : s.core id ≠ .released) (hheld : id ∉ held)
    (howned : id ∉ Scene.owned ⟨s, held, out, loose⟩) :
    Sound ⟨s.releaseLayer id, held, out, loose⟩ := by
  have hvacate : ∀ st : Native.Store, (∀ n, st.HasOpen n ↔
      s.native.HasOpen n ∧ (s.core id).handle? ≠ some n) →
      Sound ⟨{ s.setCore id .released with native := st }, held, out,
        loose⟩ := by
    intro st hopen
    exact h.vacate hne rfl rfl rfl (fun f h => by cases h)
      (fun _ => ⟨hheld, howned⟩) (fun _ _ => rfl) hopen
  rw [State.releaseLayer]
  split
  · next n hid =>
    refine hvacate _ fun m => ?_
    rw [Native.hasOpen_dispose (h.mem_handles hid), hid]
    simp only [Core.handle?_native, ne_eq, Option.some.injEq]
    exact and_congr_right fun _ => not_congr eq_comm
  · next hnot =>
    refine hvacate s.native fun m => ?_
    refine ⟨fun hm => ⟨hm, fun hn => ?_⟩, fun hm => hm.1⟩
    exact hnot m (Core.eq_native_of_handle? hn)

/-- A facade that is closed may leave its delegate to a new one, which is
loose then. -/
theorem twin (h : Sound ⟨s, held, out, loose⟩) {id d : LayerId}
    {l : Layer} {f : Facade} {k : LinkId} {g : Nat}
    (hl : s.layer? id = some l) (hf : l.core = .facade f)
    (hb : f.behaviour = .cached k g false) (hd : f.delegate = some d)
    (hp : id ∉ s.parked) :
    Sound ⟨((s.setCore id (.facade f.shut)).addLayer
        (l.twin f.level k g d)).2, held, out, s.layers.length :: loose⟩ := by
  have hid : s.core id = .facade f := by rw [State.core_eq_of_layer? hl, hf]
  have hholds : s.Holds id d := .of_facade hid hd
  have hshut : Sound ⟨s.setCore id (.facade f.shut), held, some d,
      out.toList ++ loose⟩ := (h.shut hid hd hp).rehand fun a => by
    rw [List.count_append, List.count_cons, Option.toList_some,
      List.count_singleton]
    omega
  have hlevel : ((s.setCore id (.facade f.shut)).core d).level < f.level := by
    have hlt := h.formed.leveled hholds
    have hne : d ≠ id := Nat.ne_of_lt (h.formed.older hholds)
    rw [State.core_setCore_of_ne hne]
    rw [hid] at hlt
    exact hlt
  have hplaced : Placed (s.core id) := h.formed.placed id
  have hplace : f.level = k.place + 1 := hplaced hid hb
  have hadd := hshut.addLayer s.native
    (l := l.twin f.level k g d) rfl (fun he => by cases he; exact hlevel)
    (fun hf => by cases hf; rfl)
    (fun {f' k' g' b'} hf' hb' => by
      cases hf'
      cases hb'
      exact hplace)
    (fun h => by cases h)
    (hshut.backed.congr (fun n => by
      have hg := State.count_gather_addLayer
        (s := s.setCore id (.facade f.shut)) (g := Core.handle?)
        (l.twin f.level k g d) n
      exact hg) fun n => Iff.rfl)
  rw [State.length_setCore] at hadd
  refine hadd.rehand fun a => ?_
  rw [List.count_append, List.count_cons, Option.toList_some,
    List.count_singleton]
  omega

/-- The statement on its way up may be handed to the caller. -/
theorem give {id : LayerId} (h : Sound ⟨s, held, some id, loose⟩) :
    Sound ⟨s, id :: held, none, loose⟩ := by
  have hsub : ∀ {a}, a ∈ Scene.owned ⟨s, id :: held, none, loose⟩ →
      a ∈ Scene.owned ⟨s, held, some id, loose⟩ := fun {a} ha => by
    rw [mem_owned] at *
    simp only at *
    rcases ha with ha | ha | ha | ha
    · exact .inl ha
    · exact .inr (.inl ha)
    · cases ha
    · exact .inr (.inr (.inr ha))
  have hrest : Sound ⟨s, held, none, loose⟩ := h.rehand fun a => by
    rw [Option.toList_none, List.count_nil, Nat.zero_add]
    exact Nat.le_add_left _ _
  refine ⟨h.formed, h.stocked, h.backed, h.listed, hrest.owned.once,
    fun {a} ha hb => ?_, fun {a} ha => ?_⟩
  · rcases List.mem_cons.1 ha with rfl | ha
    · have hone := List.nodup_iff_count_le_one.1 h.owned.once a
      have hpos := List.count_pos_iff.2 hb
      rw [count_owned] at hone hpos
      simp only [Option.toList_some, Option.toList_none, List.count_nil,
        List.count_singleton_self] at hone hpos
      omega
    · exact h.owned.apart ha (hsub hb)
  · rcases ha with ha | ha
    · rcases List.mem_cons.1 ha with rfl | ha
      · exact h.owned.living (.inr (mem_owned.2 (.inr (.inr (.inl rfl)))))
      · exact h.owned.living (.inl ha)
    · exact h.owned.living (.inr (hsub ha))

/-- Callers may let go of what they hold. -/
theorem letDown (h : Sound ⟨s, held, out, loose⟩) (hsub : held' ⊆ held) :
    Sound ⟨s, held', out, loose⟩ :=
  ⟨h.formed, h.stocked, h.backed, h.listed,
    h.owned.of_count_le (fun _ => Nat.le_refl _) hsub fun _ hc => hc⟩

end Scene.Sound

/-- Every move keeps a scene sound. -/
theorem Move.sound {p : Terms} {c c' : Scene} (hm : Move p c c')
    (h : c.Sound) : c'.Sound := by
  cases hm with
  | aside ha => exact h.aside ha
  | connect _ => exact h.connect _
  | taint hid hb hp _ => exact h.taint hid hb hp
  | make hm hl _ _ => exact h.make hm hl
  | decorate hl hd hc hlevel hfresh _ _ _ =>
      exact h.decorate hl hd hc hlevel hfresh
  | shut hid hd hp => exact h.shut hid hd (h.not_parked_of_closes hp)
  | letGo hid _ => exact h.letGo hid
  | twin hl hf hb hd hp =>
      exact h.twin hl hf hb hd (h.not_parked_of_closes hp)
  | shift hc hle _ => exact h.shift hc hle
  | give => exact h.give
  | letDown hsub => exact h.letDown hsub
  | free hne hheld howned => exact h.free hne hheld howned

/-- Whatever moves there are, a sound scene stays sound. -/
theorem Moves.sound {p : Terms} {c c' : Scene} (hm : Moves p c c')
    (h : c.Sound) : c'.Sound := by
  induction hm with
  | refl => exact h
  | tail _ hm ih => exact hm.sound ih

/-- What every move preserves, a sequence of moves preserves. -/
theorem Moves.invariant {p : Terms} {I : Scene → Prop} {c c' : Scene}
    (hm : Moves p c c') (hs : c.Sound) (h : I c)
    (hmove : ∀ {c c'}, c.Sound → Move p c c' → I c → I c') : I c' := by
  induction hm with
  | refl => exact h
  | tail hm hlast ih => exact hmove (Moves.sound hm hs) hlast ih

end PooledChain
