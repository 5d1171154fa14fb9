/-
What holds of the layers at every moment, also in the middle of a call.

# Scenes

While a call runs, some layers are in the hands of the running code: a
new statement on its way to the caller, or the delegate of a facade that
is being closed. A `Scene` is a state together with those hands:

- `held`: the layers that callers hold by name;
- `out`: a statement on its way up the chain to the caller;
- `loose`: layers on their way down, to be closed or thrown away.

# What is sound

- `Formed`: a delegate is older than its facade and of a lower level, a
  facade is closed exactly if it has no delegate, and the facades of a
  cache have the level of the cache.
- `Stocked`: what a shelf holds for a SQL text is an open facade of that
  cache over that text, unbroken and of the shelf's generation; no text
  is there twice.
- `Owned`: no layer has two owners, what a caller holds has none, and
  nothing that is owned or held has been released.
- `Backed`: the statements that native handles have are exactly the open
  statements of the driver, each once.
- `Listed`: a tracker lists facades of its own only.

Nobody else has to look at a whole state: `Scene.Sound` is kept by every
move a call can make, which is shown where the moves are defined.
-/
import PooledChain.Proofs.Heap.Owners
import Mathlib.Data.List.Nodup
import Mathlib.Data.List.Count

namespace PooledChain

-- ========================================================= well-formed

namespace State

/-- Every facade of a cache is of the cache's level. -/
def Placed (c : Core) : Prop :=
  ∀ {f k g b}, c = .facade f → f.behaviour = .cached k g b →
    f.level = k.place + 1

/-- Whether the layers of a state are stacks: each facade over an older
layer of a lower level, closed just when it has no delegate. -/
structure Formed (s : State) : Prop where
  older : ∀ {a d}, s.Holds a d → d < a
  leveled : s.Leveled
  hollow : s.Hollow
  placed : ∀ a, Placed (s.core a)

/-- What a shelf holds: open, unbroken facades of its own generation,
each under its SQL text and no text twice, and not more than it can. -/
structure Shelved (s : State) (k : LinkId) (store : CacheStore) : Prop where
  distinct : store.texts.Nodup
  fits : store.size ≤ store.capacity
  entry : ∀ {sql id}, (sql, id) ∈ store.entries → ∃ l d,
    s.layer? id = some l ∧ l.sql = some sql
      ∧ l.core = .facade ⟨k.place + 1, some d, false,
          .cached k store.generation false⟩

/-- Whether every shelf holds what it may, and belongs to a connection that
was made. -/
structure Stocked (s : State) : Prop where
  distinct : s.caches.Distinct
  shelved : ∀ {k store}, (k, store) ∈ s.caches.entries → s.Shelved k store
  known : ∀ {k store}, (k, store) ∈ s.caches.entries →
    k.connection < s.connections.length

/-- The statements that handles have are the open ones. -/
structure Backed (s : State) : Prop where
  once : s.handles.Nodup
  opened : ∀ n, n ∈ s.handles ↔ s.native.HasOpen n

/-- Whether a tracker lists a layer under a number. -/
def Lists (s : State) (k : LinkId) (n : Nat) (id : LayerId) : Prop :=
  ∃ t, (k, t) ∈ s.trackers.entries ∧ (n, id) ∈ t.entries

/-- Whether a layer is the facade that a tracker made under a number. -/
def TrackedBy (k : LinkId) (n : Nat) (c : Core) : Prop :=
  ∃ f, c = .facade f ∧ f.behaviour = .tracked k n

/-- A listed layer is a facade of the tracker, or was one. -/
def Listed (s : State) : Prop :=
  ∀ {k n id}, s.Lists k n id → id < s.layers.length ∧
    (s.core id = .released ∨ TrackedBy k n (s.core id))

-- ================================================== what follows at once

variable {s : State}

/-- A parked layer is an open, unbroken facade of a cache. -/
theorem Stocked.parked (h : s.Stocked) {id : LayerId}
    (hid : id ∈ s.parked) : ∃ k store sql l d,
      (k, store) ∈ s.caches.entries ∧ (sql, id) ∈ store.entries
        ∧ s.layer? id = some l ∧ l.sql = some sql
        ∧ l.core = .facade ⟨k.place + 1, some d, false,
            .cached k store.generation false⟩ := by
  obtain ⟨k, store, sql, hk, he⟩ := mem_onShelves.1 hid
  obtain ⟨l, d, hl, hsql, hc⟩ := (h.shelved hk).entry he
  exact ⟨k, store, sql, l, d, hk, he, hl, hsql, hc⟩

/-- The facade that is parked. -/
theorem Stocked.core_parked (h : s.Stocked) {id : LayerId}
    (hid : id ∈ s.parked) : ∃ k store d,
      (k, store) ∈ s.caches.entries
        ∧ s.core id = .facade ⟨k.place + 1, some d, false,
            .cached k store.generation false⟩ := by
  obtain ⟨k, store, sql, l, d, hk, -, hl, -, hc⟩ := h.parked hid
  exact ⟨k, store, d, hk, by rw [core_eq_of_layer? hl, hc]⟩

/-- The stock depends on the parked layers and on the shelves only. -/
theorem Stocked.congr {t : State} (h : s.Stocked)
    (hl : ∀ id ∈ s.parked, t.layer? id = s.layer? id)
    (hc : t.caches = s.caches)
    (hn : s.connections.length ≤ t.connections.length) : t.Stocked where
  distinct := by rw [hc]; exact h.distinct
  shelved {k store} hk := by
    rw [hc] at hk
    refine ⟨(h.shelved hk).distinct, (h.shelved hk).fits,
      fun {sql id} he => ?_⟩
    obtain ⟨l, d, hid, hrest⟩ := (h.shelved hk).entry he
    have hp : id ∈ s.parked := mem_onShelves.2 ⟨k, store, sql, hk, he⟩
    exact ⟨l, d, (hl id hp).trans hid, hrest⟩
  known {k store} hk := by
    rw [hc] at hk
    exact Nat.lt_of_lt_of_le (h.known hk) hn

/-- A facade that has a delegate is open. -/
theorem Formed.closed_eq_false (h : s.Formed) {a d : LayerId} {f : Facade}
    (hf : s.core a = .facade f) (hd : f.delegate = some d) :
    f.closed = false := by
  have hclosed : f.closed = f.delegate.isNone := h.hollow hf
  rw [hclosed, hd]
  rfl

/-- A facade that is changed keeps a state well-formed if it keeps its
delegate or loses it, and does not rise. -/
theorem Formed.setCore (h : s.Formed) {id : LayerId}
    (hid : s.core id ≠ .released) {c : Core}
    (hd : ∀ {d}, c.delegate? = some d →
      (s.core id).delegate? = some d ∧ c.level = (s.core id).level)
    (hl : c.level ≤ (s.core id).level)
    (hf : ∀ {f}, c = .facade f → f.closed = f.delegate.isNone)
    (hp : Placed c) : (s.setCore id c).Formed := by
  have hc := core_setCore (lt_of_core hid) c
  have hh : ∀ {a d}, (s.setCore id c).Holds a d → s.Holds a d := by
    intro a d h'
    rw [Holds, hc] at h'
    split at h'
    · next he => subst he; exact (hd h').1
    · exact h'
  refine ⟨fun h' => h.older (hh h'), fun {a d} h' => ?_, fun {a f} ha => ?_,
    fun a => ?_⟩
  · have hlt := h.leveled (hh h')
    have hle : ((s.setCore id c).core d).level ≤ (s.core d).level := by
      rw [hc]
      split
      · next he => subst he; exact hl
      · exact Nat.le_refl _
    have hge : ((s.setCore id c).core a).level = (s.core a).level := by
      rw [Holds, hc] at h'
      rw [hc]
      split at h'
      · next he => subst he; rw [if_pos rfl]; exact (hd h').2
      · next he => rw [if_neg he]
    omega
  · rw [hc] at ha
    split at ha
    · exact hf ha
    · exact h.hollow ha
  · rw [hc]
    split
    · exact hp
    · exact h.placed a

/-- A new layer keeps a state well-formed if its delegate is there and of
a lower level. -/
theorem Formed.addLayer (h : s.Formed) {l : Layer}
    (hd : ∀ {d}, l.core.delegate? = some d →
      s.core d ≠ .released ∧ (s.core d).level < l.core.level)
    (hf : ∀ {f}, l.core = .facade f → f.closed = f.delegate.isNone)
    (hp : Placed l.core) : (s.addLayer l).2.Formed := by
  have hc := core_addLayer (s := s) l
  have hlt : ∀ {a d}, (s.addLayer l).2.Holds a d → d < s.layers.length
      ∧ (if a = s.layers.length then l.core.delegate? = some d
          else s.Holds a d) := by
    intro a d h'
    rw [Holds, hc] at h'
    split at h'
    · next he => exact ⟨lt_of_core (hd h').1, by rw [if_pos he]; exact h'⟩
    · next he =>
      have ha : a < s.layers.length := lt_of_core fun hr => by
        rw [hr] at h'; cases h'
      exact ⟨Nat.lt_trans (h.older h') ha, by rw [if_neg he]; exact h'⟩
  refine ⟨fun {a d} h' => ?_, fun {a d} h' => ?_, fun {a f} ha => ?_,
    fun a => ?_⟩
  · obtain ⟨hd', hcase⟩ := hlt h'
    split at hcase
    · next he => rw [he]; exact hd'
    · exact h.older hcase
  · obtain ⟨hd', hcase⟩ := hlt h'
    rw [hc, hc, if_neg (Nat.ne_of_lt hd')]
    split at hcase
    · next he => rw [if_pos he]; exact (hd hcase).2
    · next he => rw [if_neg he]; exact h.leveled hcase
  · rw [hc] at ha
    split at ha
    · exact hf ha
    · exact h.hollow ha
  · rw [hc]
    split
    · exact hp
    · exact h.placed a

/-- Handles have the same statements, and the same statements are
open. -/
theorem Backed.congr {t : State} (h : s.Backed)
    (hc : ∀ n, t.handles.count n = s.handles.count n)
    (ho : ∀ n, t.native.HasOpen n ↔ s.native.HasOpen n) : t.Backed where
  once := List.nodup_iff_count_le_one.2 fun n => by
    rw [hc]
    exact List.nodup_iff_count_le_one.1 h.once n
  opened n := by
    rw [ho, ← h.opened, ← List.count_pos_iff, ← List.count_pos_iff, hc]

/-- The core of a layer depends on the layers only. -/
theorem core_congr {t : State} (h : t.layers = s.layers) (a : LayerId) :
    t.core a = s.core a := by
  rw [core, core, layer?, layer?, h]

theorem layer?_congr {t : State} (h : t.layers = s.layers) (a : LayerId) :
    t.layer? a = s.layer? a := by
  rw [layer?, layer?, h]

theorem Formed.congr {t : State} (h : s.Formed)
    (hl : t.layers = s.layers) : t.Formed where
  older {a d} ha := h.older (by rw [Holds, ← core_congr hl]; exact ha)
  leveled {a d} ha := by
    rw [core_congr hl, core_congr hl]
    exact h.leveled (by rw [Holds, ← core_congr hl]; exact ha)
  hollow {a f} ha := h.hollow (by rw [← core_congr hl]; exact ha)
  placed a := by rw [core_congr hl]; exact h.placed a

/-- What layers have of one sort depends on them only. -/
theorem gather_congr {t : State} {α : Type} (g : Core → Option α)
    (h : t.layers = s.layers) : t.gather g = s.gather g := by
  rw [gather, gather, h]

end State

-- ============================================================== scenes

/-- A state and the layers in the hands of callers and running code. -/
structure Scene where
  state : State
  /-- Held by callers. -/
  held : List LayerId
  /-- On its way up to the caller. -/
  out : Option LayerId
  /-- On their way down, to be closed or thrown away. -/
  loose : List LayerId

namespace Scene

/-- All layers with an owner other than a caller, once for each owner. -/
def owned (c : Scene) : List LayerId :=
  c.state.delegates ++ c.state.parked ++ c.out.toList ++ c.loose

/-- Whether each layer has one owner at most: a facade, a shelf, a caller or
code that is running. -/
structure Owned (c : Scene) : Prop where
  once : c.owned.Nodup
  apart : ∀ {a}, a ∈ c.held → a ∉ c.owned
  living : ∀ {a}, a ∈ c.held ∨ a ∈ c.owned → c.state.core a ≠ .released

/-- What holds of every scene of a run. -/
structure Sound (c : Scene) : Prop where
  formed : c.state.Formed
  stocked : c.state.Stocked
  backed : c.state.Backed
  listed : c.state.Listed
  owned : c.Owned

variable {c c' : Scene}

/-- The owners of a layer are a facade, a shelf, the way up and code that is
to throw it away. -/
theorem mem_owned {a : LayerId} :
    a ∈ c.owned ↔ a ∈ c.state.delegates ∨ a ∈ c.state.parked
      ∨ a ∈ c.out ∨ a ∈ c.loose := by
  simp [owned]

/-- How often a layer is owned, by each sort of owner. -/
theorem count_owned (c : Scene) (a : LayerId) :
    c.owned.count a = c.state.delegates.count a + c.state.parked.count a
      + c.out.toList.count a + c.loose.count a := by
  rw [owned, List.count_append, List.count_append, List.count_append]

/-- No layer is the delegate of two facades. -/
theorem Owned.nodup_delegates (h : c.Owned) : c.state.delegates.Nodup := by
  refine List.nodup_iff_count_le_one.2 fun a => ?_
  have hle := List.nodup_iff_count_le_one.1 h.once a
  rw [count_owned] at hle
  omega

/-- No layer is on a shelf twice. -/
theorem Owned.nodup_parked (h : c.Owned) : c.state.parked.Nodup := by
  refine List.nodup_iff_count_le_one.2 fun a => ?_
  have hle := List.nodup_iff_count_le_one.1 h.once a
  rw [count_owned] at hle
  omega

/-- A layer at the top of a stack: held, parked or in hand. -/
def Top (c : Scene) (a : LayerId) : Prop :=
  a ∈ c.held ∨ a ∈ c.state.parked ∨ a ∈ c.out ∨ a ∈ c.loose

/-- What is at the top is nobody's delegate. -/
theorem Owned.not_holds (h : c.Owned) {a id : LayerId} (hid : c.Top id) :
    ¬ c.state.Holds a id := by
  intro ha
  have hd : id ∈ c.state.delegates := State.mem_delegates.2 ⟨a, ha⟩
  have hle := List.nodup_iff_count_le_one.1 h.once id
  have h1 := List.count_pos_iff.2 hd
  rw [count_owned] at hle
  rcases hid with hid | hid | hid | hid
  · exact h.apart hid (mem_owned.2 (.inl hd))
  · have h2 := List.count_pos_iff.2 hid
    omega
  · have h2 := List.count_pos_iff.2 (Option.mem_toList.2 hid)
    omega
  · have h2 := List.count_pos_iff.2 hid
    omega

/-- What lies over the top is the top. -/
theorem Owned.eq_of_over (h : c.Owned) {a id : LayerId} (hid : c.Top id)
    (ha : c.state.Over a id) : a = id := by
  rcases Relation.ReflTransGen.cases_tail ha with he | ⟨b, -, hb⟩
  · exact he.symm
  · exact absurd hb (h.not_holds hid)

/-- There is one way up. -/
theorem Owned.holder_unique (h : c.Owned) {a b d : LayerId}
    (ha : c.state.Holds a d) (hb : c.state.Holds b d) : a = b :=
  State.eq_of_gather_nodup h.nodup_delegates rfl ha hb

/-- Of two layers over one layer, one lies over the other. -/
theorem Owned.over_total (h : c.Owned) {a b d : LayerId}
    (ha : c.state.Over a d) (hb : c.state.Over b d) :
    c.state.Over a b ∨ c.state.Over b a := by
  have hunique : Relator.RightUnique (Function.swap c.state.Holds) :=
    fun _ _ _ h1 h2 => h.holder_unique h1 h2
  exact (Relation.ReflTransGen.total_of_right_unique hunique
    (Relation.reflTransGen_swap.2 hb) (Relation.reflTransGen_swap.2 ha)).imp
      Relation.reflTransGen_swap.1 Relation.reflTransGen_swap.1

/-- Stacks have nothing in common. -/
theorem Owned.top_unique (h : c.Owned) {a b x : LayerId} (ha : c.Top a)
    (hb : c.Top b) (hax : c.state.Over a x) (hbx : c.state.Over b x) :
    a = b := by
  rcases h.over_total hax hbx with hab | hba
  · exact h.eq_of_over hb hab
  · exact (h.eq_of_over ha hba).symm

/-- What a caller holds is not parked. -/
theorem Owned.not_parked_of_held (h : c.Owned) {a : LayerId}
    (ha : a ∈ c.held) : a ∉ c.state.parked :=
  fun hp => h.apart ha (mem_owned.2 (.inr (.inl hp)))

/-- What is in hand is not parked. -/
theorem Owned.ne_of_loose (h : c.Owned) {a b : LayerId}
    (ha : a ∈ c.state.parked) (hb : b ∈ c.loose) : a ≠ b := by
  intro he
  subst he
  have hle := List.nodup_iff_count_le_one.1 h.once a
  have h1 := List.count_pos_iff.2 ha
  have h2 := List.count_pos_iff.2 hb
  rw [count_owned] at hle
  omega

/-- A scene in which nothing has got a further owner. -/
theorem Owned.of_count_le (h : c.Owned)
    (hle : ∀ a, c'.owned.count a ≤ c.owned.count a)
    (hheld : c'.held ⊆ c.held)
    (hliv : ∀ {a}, a ∈ c'.held ∨ a ∈ c'.owned → c.state.core a ≠ .released →
      c'.state.core a ≠ .released) : c'.Owned where
  once := List.nodup_iff_count_le_one.2 fun a =>
    Nat.le_trans (hle a) (List.nodup_iff_count_le_one.1 h.once a)
  apart ha hb := h.apart (hheld ha) (List.count_pos_iff.1
    (Nat.lt_of_lt_of_le (List.count_pos_iff.2 hb) (hle _)))
  living ha := hliv ha (h.living (ha.imp (hheld ·) fun hb =>
    List.count_pos_iff.1
      (Nat.lt_of_lt_of_le (List.count_pos_iff.2 hb) (hle _))))

/-- A scene in which nothing but a new layer has got an owner. -/
theorem Owned.of_count_le_new (h : c.Owned)
    (hle : ∀ a, c'.owned.count a
      ≤ c.owned.count a + if a = c.state.layers.length then 1 else 0)
    (hheld : c'.held ⊆ c.held)
    (hliv : ∀ {a}, c.state.core a ≠ .released →
      c'.state.core a ≠ .released)
    (hnew : c'.state.core c.state.layers.length ≠ .released) :
    c'.Owned := by
  have hfresh : ∀ {a}, a ∈ c.held ∨ a ∈ c.owned →
      a ≠ c.state.layers.length := fun ha he =>
    Nat.lt_irrefl _ (he ▸ State.lt_of_core (h.living ha))
  have hmem : ∀ {a}, a ∈ c'.owned →
      a ∈ c.owned ∨ a = c.state.layers.length := by
    intro a ha
    have hpos := Nat.lt_of_lt_of_le (List.count_pos_iff.2 ha) (hle a)
    split at hpos
    · next he => exact .inr he
    · exact .inl (List.count_pos_iff.1 hpos)
  refine ⟨List.nodup_iff_count_le_one.2 fun a => ?_, fun {a} ha hb => ?_,
    fun {a} ha => ?_⟩
  · have h1 := List.nodup_iff_count_le_one.1 h.once a
    have h2 := hle a
    split at h2
    · next he =>
      have h0 : c.owned.count a = 0 := List.count_eq_zero.2 fun hm =>
        hfresh (.inr hm) he
      omega
    · omega
  · rcases hmem hb with hb | rfl
    · exact h.apart (hheld ha) hb
    · exact hfresh (.inl (hheld ha)) rfl
  · rcases ha with ha | ha
    · exact hliv (h.living (.inl (hheld ha)))
    · rcases hmem ha with hb | rfl
      · exact hliv (h.living (.inr hb))
      · exact hnew

end Scene

end PooledChain
