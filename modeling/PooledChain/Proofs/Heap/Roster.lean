/-
What a tracker lists.

A tracker gives each of its facades a number of its own, whatever it has
forgotten in between (`State.Numbered`): so who takes an entry off the
list by its number takes off the facade that was closed and no other. As
long as a tracker is not made to forget, it lists all of its open facades
that are newer than what it forgot last, and nothing older
(`State.Roster`). Both are kept by every change (`Change.numbered`,
`Change.roster`), in the middle of an act as well as between two steps.
-/
import PooledChain.Proofs.Heap.Change

namespace PooledChain

open State (TrackedBy)

namespace State

variable {k : LinkId}

/-- Whether the facades of a tracker have numbers of their own, that the
tracker has given out. -/
structure Numbered (s : State) (k : LinkId) (tr : Tracker) : Prop where
  found : s.trackers.get? k = some tr
  given : ∀ {a n}, TrackedBy k n (s.core a) → n < tr.next
  level : ∀ {a n}, TrackedBy k n (s.core a) →
    (s.core a).level = k.place + 1
  bears : ∀ {a l n}, s.layer? a = some l → TrackedBy k n l.core →
    l.connection = some k.connection
  single : ∀ {a b n}, TrackedBy k n (s.core a) →
    TrackedBy k n (s.core b) → a = b
  listed : ∀ {n a}, (n, a) ∈ tr.entries → n < tr.next
  distinct : tr.entries.Nodup

/-- Whether a tracker lists its open facades from the layer `mark` on, and
nothing older. -/
structure Roster (s : State) (k : LinkId) (mark : Nat) (tr : Tracker) :
    Prop extends s.Numbered k tr where
  known : mark ≤ s.layers.length
  recent : ∀ {n a}, (n, a) ∈ tr.entries → mark ≤ a
  complete : ∀ {a f n}, s.core a = .facade f → f.behaviour = .tracked k n →
    f.delegate ≠ none → mark ≤ a → (n, a) ∈ tr.entries

variable {s t : State} {tr : Tracker} {mark : Nat}

/-- A tracker that lists nothing lists all that is to come. -/
theorem Numbered.roster (h : s.Numbered k tr) (hnone : tr.entries = []) :
    s.Roster k s.layers.length tr where
  toNumbered := h
  known := Nat.le_refl _
  recent hin := by
    rw [hnone] at hin
    cases hin
  complete ha _ _ hle := by
    rw [core_of_le hle] at ha
    cases ha

end State

-- ============================================================ one change

variable {p : Reach} {s t u : State} {k : LinkId} {tr tr' tr'' : Tracker}
  {mark : Nat}

/-- A change other than of a list: who is a facade of a tracker was one
before, and bears what it bore. -/
private theorem State.Numbered.congr (h : s.Numbered k tr)
    (htr : t.trackers.get? k = some tr)
    (hcore : ∀ {a n}, TrackedBy k n (t.core a) →
      TrackedBy k n (s.core a) ∧ (t.core a).level = (s.core a).level)
    (hbears : ∀ {a l n}, t.layer? a = some l → TrackedBy k n l.core →
      ∃ l', s.layer? a = some l' ∧ l'.connection = l.connection) :
    t.Numbered k tr where
  found := htr
  given ht := h.given (hcore ht).1
  level ht := (hcore ht).2.trans (h.level (hcore ht).1)
  bears {a l n} hl ht := by
    obtain ⟨l', hl', hc⟩ := hbears hl ht
    have hbefore := (hcore (a := a) (n := n)
      (by rw [State.core_eq_of_layer? hl]; exact ht)).1
    rw [State.core_eq_of_layer? hl'] at hbefore
    exact hc.symm.trans (h.bears hl' hbefore)
  single ha hb := h.single (hcore ha).1 (hcore hb).1
  listed := h.listed
  distinct := h.distinct

/-- The layers are as they were, and so is what the tracker lists. -/
theorem State.Numbered.of_layers (h : s.Numbered k tr)
    (htr : t.trackers.get? k = some tr) (hl : t.layers = s.layers) :
    t.Numbered k tr :=
  h.congr htr (fun ht => by
    rw [State.core_congr hl] at ht ⊢
    exact ⟨ht, rfl⟩) fun {a l n} ha _ => ⟨l, by
      rw [State.layer?_congr hl] at ha
      exact ⟨ha, rfl⟩⟩

/-- A layer whose core is exchanged, and all others. -/
private theorem State.core_setCore_cases (s : State) (id : LayerId) (c : Core)
    (a : LayerId) : (s.setCore id c).core a = s.core a
      ∨ a = id ∧ (s.setCore id c).core a = c := by
  by_cases hid : id < s.layers.length
  · rw [State.core_setCore hid]
    split
    · next he => exact .inr ⟨he, rfl⟩
    · exact .inl rfl
  · rw [State.setCore, List.modify_eq_self (Nat.le_of_not_lt hid)]
    exact .inl rfl

/-- One layer changes, and is no other facade of a tracker than before. -/
private theorem State.Numbered.setCore (h : s.Numbered k tr)
    {id : LayerId} {c : Core}
    (hc : ∀ {n}, TrackedBy k n c →
      TrackedBy k n (s.core id) ∧ c.level = (s.core id).level) :
    (s.setCore id c).Numbered k tr := by
  have hcore : ∀ {a n}, TrackedBy k n ((s.setCore id c).core a) →
      TrackedBy k n (s.core a)
        ∧ ((s.setCore id c).core a).level = (s.core a).level := by
    intro a n ht
    rcases State.core_setCore_cases s id c a with hsame | ⟨rfl, hnew⟩
    · rw [hsame] at ht ⊢
      exact ⟨ht, rfl⟩
    · rw [hnew] at ht ⊢
      exact hc ht
  refine h.congr h.found hcore fun {a l n} hl _ => ?_
  rw [State.layer?_setCore] at hl
  split at hl
  · obtain ⟨l', hl', rfl⟩ := Option.map_eq_some_iff.1 hl
    exact ⟨l', hl', rfl⟩
  · exact ⟨l, hl, rfl⟩

/-- One layer more, which is no facade of the tracker. -/
private theorem State.Numbered.addLayer (h : s.Numbered k tr) {l : Layer}
    (hl : ∀ n, ¬ TrackedBy k n l.core) : (s.addLayer l).2.Numbered k tr := by
  refine h.congr h.found (fun {a n} ht => ?_) fun {a l' n} ha ht => ?_
  · rw [State.core_addLayer] at ht ⊢
    split at ht
    · exact absurd ht (hl n)
    · next he => rw [if_neg he]; exact ⟨ht, rfl⟩
  · rw [State.layer?_addLayer] at ha
    split at ha
    · obtain rfl := Option.some.inj ha
      exact absurd ht (hl n)
    · exact ⟨l', ha, rfl⟩

/-- The list is as it was, and no facade of the tracker is open that was
not open before. -/
private theorem State.Roster.congr (h : s.Roster k mark tr)
    (hn : t.Numbered k tr) (hle : s.layers.length ≤ t.layers.length)
    (hopen : ∀ {a f n}, t.core a = .facade f → f.behaviour = .tracked k n →
      f.delegate ≠ none → ∃ f', s.core a = .facade f'
        ∧ f'.behaviour = .tracked k n ∧ f'.delegate ≠ none) :
    t.Roster k mark tr where
  toNumbered := hn
  known := Nat.le_trans h.known hle
  recent := h.recent
  complete ha hb hd hm := by
    obtain ⟨f', hf', hb', hd'⟩ := hopen ha hb hd
    exact h.complete hf' hb' hd' hm

/-- What becomes of a list in a stretch of a run. -/
structure State.Tends (p : Reach) (s : State) (k : LinkId) (tr : Tracker)
    (t : State) (tr' : Tracker) : Prop where
  numbered : t.Numbered k tr'
  shorter : ¬ p.lists k → tr'.entries ⊆ tr.entries
  roster : ¬ p.clears k → ∀ {mark}, s.Roster k mark tr →
    t.Roster k mark tr'

namespace State.Tends

/-- A change that touches neither layers nor lists. -/
private theorem of_layers (h : s.Numbered k tr)
    (htr : t.trackers = s.trackers) (hl : t.layers = s.layers) :
    s.Tends p k tr t tr where
  numbered := h.of_layers (by rw [htr]; exact h.found) hl
  shorter _ := List.Subset.refl _
  roster _ _ hr := hr.congr (h.of_layers (by rw [htr]; exact h.found) hl)
    (Nat.le_of_eq (by rw [hl])) fun {a f n} ha hb hd =>
      ⟨f, by rw [← State.core_congr hl]; exact ha, hb, hd⟩

/-- One layer changes, and is no open facade of the tracker after it. -/
private theorem setCore (h : s.Numbered k tr) {id : LayerId} {c : Core}
    (hc : ∀ {n}, TrackedBy k n c →
      TrackedBy k n (s.core id) ∧ c.level = (s.core id).level)
    (hopen : ∀ {f n}, c = .facade f → f.behaviour = .tracked k n →
      f.delegate = none) : s.Tends p k tr (s.setCore id c) tr where
  numbered := h.setCore hc
  shorter _ := List.Subset.refl _
  roster _ _ hr := hr.congr (h.setCore hc)
    (Nat.le_of_eq (State.length_setCore ..).symm) fun {a f n} ha hb hd => by
      rcases State.core_setCore_cases s id c a with hsame | ⟨rfl, hnew⟩
      · exact ⟨f, hsame.symm.trans ha, hb, hd⟩
      · exact absurd (hopen (hnew.symm.trans ha) hb) hd

/-- One layer more, which is no facade of the tracker. -/
private theorem addLayer (h : s.Numbered k tr) {l : Layer}
    (hl : ∀ n, ¬ TrackedBy k n l.core) :
    s.Tends p k tr (s.addLayer l).2 tr where
  numbered := h.addLayer hl
  shorter _ := List.Subset.refl _
  roster _ _ hr := hr.congr (h.addLayer hl)
    (by rw [State.addLayer, List.length_append]; exact Nat.le_add_right ..)
    fun {a f n} ha hb hd => by
      rw [State.core_addLayer] at ha
      split at ha
      · exact absurd ⟨f, ha, hb⟩ (hl n)
      · exact ⟨f, ha, hb, hd⟩

/-- Only the list of another tracker changes. -/
private theorem other (h : s.Tends p k tr t tr')
    (trackers : Keyed LinkId Tracker)
    (htr : trackers.get? k = t.trackers.get? k) :
    s.Tends p k tr { t with trackers } tr' where
  numbered := h.numbered.of_layers (htr.trans h.numbered.found) rfl
  shorter := h.shorter
  roster hp _ hr := (h.roster hp hr).congr
    (h.numbered.of_layers (htr.trans h.numbered.found) rfl) (Nat.le_refl _)
    fun {_ f _} ha hb hd => ⟨f, ha, hb, hd⟩

theorem refl (h : s.Numbered k tr) : s.Tends p k tr s tr :=
  of_layers h rfl rfl

theorem trans (h₁ : s.Tends p k tr t tr') (h₂ : t.Tends p k tr' u tr'') :
    s.Tends p k tr u tr'' where
  numbered := h₂.numbered
  shorter hp := List.Subset.trans (h₂.shorter hp) (h₁.shorter hp)
  roster hp _ hr := h₂.roster hp (h₁.roster hp hr)

end State.Tends

/-- A tracker puts its next facade around a statement. -/
private theorem State.Numbered.enlist (h : s.Numbered k tr) {l : Layer}
    {f : Facade} (hl : l.core = .facade f)
    (hb : f.behaviour = .tracked k tr.next) (hlevel : f.level = k.place + 1)
    (hbears : l.connection = some k.connection) :
    (s.enlist k tr l).Numbered k (tr.listing s.layers.length) := by
  -- A facade of the tracker is the new one, or was there before.
  have hcases : ∀ {a n}, TrackedBy k n ((s.enlist k tr l).core a) →
      (a = s.layers.length ∧ n = tr.next)
        ∨ a ≠ s.layers.length ∧ TrackedBy k n (s.core a) := by
    intro a n ht
    have ht : TrackedBy k n ((s.addLayer l).2.core a) := ht
    rw [State.core_addLayer] at ht
    split at ht
    · next he =>
      obtain ⟨f', hf', hb'⟩ := ht
      obtain rfl : f = f' := Core.facade.inj (hl.symm.trans hf')
      exact .inl ⟨he, ((Behaviour.tracked.inj (hb.symm.trans hb')).2).symm⟩
    · next he => exact .inr ⟨he, ht⟩
  have hcore : ∀ a, (s.enlist k tr l).core a
      = if a = s.layers.length then l.core else s.core a :=
    State.core_addLayer l
  refine ⟨?_, fun {a n} ht => ?_, fun {a n} ht => ?_, fun {a l' n} ha ht => ?_,
    fun {a b n} ha hb => ?_, fun {n a} hin => ?_, ?_⟩
  · show (s.trackers.set k _).get? k = _
    rw [Keyed.get?_set, if_pos rfl]
  · rcases hcases ht with ⟨-, rfl⟩ | ⟨-, ht⟩
    · exact Nat.lt_succ_self _
    · exact Nat.lt_succ_of_lt (h.given ht)
  · rw [hcore]
    rcases hcases ht with ⟨he, -⟩ | ⟨he, ht⟩
    · rw [if_pos he, hl]
      exact hlevel
    · rw [if_neg he]
      exact h.level ht
  · have ha' : (s.addLayer l).2.layer? a = some l' := ha
    rw [State.layer?_addLayer] at ha'
    split at ha'
    · obtain rfl := Option.some.inj ha'
      exact hbears
    · exact h.bears ha' ht
  · rcases hcases ha with ⟨rfl, rfl⟩ | ⟨-, ha⟩
    · rcases hcases hb with ⟨rfl, -⟩ | ⟨-, hb⟩
      · rfl
      · exact absurd (h.given hb) (Nat.lt_irrefl _)
    · rcases hcases hb with ⟨-, rfl⟩ | ⟨-, hb⟩
      · exact absurd (h.given ha) (Nat.lt_irrefl _)
      · exact h.single ha hb
  · rcases List.mem_append.1 hin with hin | hin
    · exact Nat.lt_succ_of_lt (h.listed hin)
    · obtain rfl := (Prod.mk.inj (List.mem_singleton.1 hin)).1
      exact Nat.lt_succ_self _
  · refine List.nodup_append.2 ⟨h.distinct, List.nodup_singleton _, ?_⟩
    rintro ⟨n, a⟩ hin e he rfl
    rw [List.mem_singleton, Prod.mk.injEq] at he
    exact absurd (h.listed hin) (by rw [he.1]; exact Nat.lt_irrefl _)

/-- A tracker forgets what it lists. -/
theorem State.Numbered.clear (h : s.Numbered k tr) :
    (s.clearTracker k).Numbered k { tr with entries := [] } := by
  have hfound : (s.clearTracker k).trackers.get? k
      = some { tr with entries := [] } := by
    show (s.trackers.modify k _).get? k = _
    rw [Keyed.get?_modify, if_pos rfl, h.found]
    rfl
  exact ⟨hfound, h.given, h.level, h.bears, h.single,
    fun hin => (by cases hin), List.nodup_nil⟩

/-- A facade of a tracker was one before, or the tracker may list what is
made. -/
theorem Change.tracked_before (hc : Change p s t) {a : LayerId} {n : Nat}
    (ht : TrackedBy k n (t.core a)) :
    TrackedBy k n (s.core a) ∨ p.lists k := by
  have hset : ∀ {id c}, TrackedBy k n ((s.setCore id c).core a) →
      (TrackedBy k n c → TrackedBy k n (s.core id)) →
      TrackedBy k n (s.core a) ∨ p.lists k := by
    intro id c ht hc
    rcases State.core_setCore_cases s id c a with hsame | ⟨rfl, hnew⟩
    · rw [hsame] at ht
      exact .inl ht
    · rw [hnew] at ht
      exact .inl (hc ht)
  cases hc with
  | driver | shelves | record | ends | unlist | clear => exact .inl ht
  | @shut id f hid =>
      refine hset ht fun ⟨g, hg, hb⟩ => ?_
      cases hg
      exact ⟨f, hid, hb⟩
  | taint =>
      refine hset ht fun ⟨g, hg, hb⟩ => ?_
      cases hg
      cases hb
  | letGo | release => exact hset ht fun ⟨_, hg, _⟩ => by cases hg
  | @add l hl =>
      rw [State.core_addLayer] at ht
      split at ht
      · exact absurd ht (hl k n)
      · exact .inl ht
  | @enlist k' tr' l f _ hl hb _ _ hlists =>
      have ht : TrackedBy k n ((s.addLayer l).2.core a) := ht
      rw [State.core_addLayer] at ht
      split at ht
      · obtain ⟨f', hf', hb'⟩ := ht
        obtain rfl : f = f' := Core.facade.inj (hl.symm.trans hf')
        obtain rfl := (Behaviour.tracked.inj (hb.symm.trans hb')).1
        exact .inr hlists
      · exact .inl ht

/-- Where a tracker lists nothing new, its facades were there before. -/
theorem State.Changes.tracked_before (hc : s.Changes p t)
    (hno : ¬ p.lists k) {a : LayerId} {n : Nat}
    (ht : TrackedBy k n (t.core a)) : TrackedBy k n (s.core a) := by
  induction hc with
  | refl => exact ht
  | tail _ hlast ih => exact ih ((hlast.tracked_before ht).resolve_right hno)

namespace State.Tends

/-- A tracker that lists a new facade lists what it has to. -/
private theorem enlist (h : s.Numbered k tr) {l : Layer} {f : Facade}
    (hl : l.core = .facade f) (hb : f.behaviour = .tracked k tr.next)
    (hlevel : f.level = k.place + 1)
    (hbears : l.connection = some k.connection) (hlists : p.lists k) :
    s.Tends p k tr (s.enlist k tr l) (tr.listing s.layers.length) where
  numbered := h.enlist hl hb hlevel hbears
  shorter hp := absurd hlists hp
  roster _ mark hr := by
    refine ⟨h.enlist hl hb hlevel hbears, ?_, fun {n a} hin => ?_,
      fun {a f' n} ha hb' hd hm => List.mem_append.2 ?_⟩
    · show mark ≤ (s.layers ++ [l]).length
      rw [List.length_append]
      exact Nat.le_trans hr.known (Nat.le_add_right ..)
    · rcases List.mem_append.1 hin with hin | hin
      · exact hr.recent hin
      · obtain rfl := (Prod.mk.inj (List.mem_singleton.1 hin)).2
        exact hr.known
    · have ha' : (s.addLayer l).2.core a = .facade f' := ha
      rw [State.core_addLayer] at ha'
      split at ha'
      · next he =>
        obtain rfl : f = f' := Core.facade.inj (hl.symm.trans ha')
        refine .inr (List.mem_singleton.2 ?_)
        rw [he, (Behaviour.tracked.inj (hb'.symm.trans hb)).2]
      · exact .inl (hr.complete ha' hb' hd hm)

/-- A tracker that takes a closed facade off its list lists what it has
to. -/
private theorem unlist (h : s.Numbered k tr) {id : LayerId} {f : Facade}
    {m : Nat} (hid : s.core id = .facade f)
    (hb : f.behaviour = .tracked k m) (hd : f.delegate = none) :
    s.Tends p k tr { s with trackers := s.trackers.modify k fun t =>
        { t with entries := t.entries.filter (·.1 != m) } }
      { tr with entries := tr.entries.filter (·.1 != m) } := by
  have hfound : (s.trackers.modify k fun t =>
      { t with entries := t.entries.filter (·.1 != m) }).get? k
        = some { tr with entries := tr.entries.filter (·.1 != m) } := by
    rw [Keyed.get?_modify, if_pos rfl, h.found]
    rfl
  have hn : State.Numbered { s with trackers := _ } k _ :=
    ⟨hfound, h.given, h.level, h.bears, h.single,
      fun hin => h.listed (List.mem_filter.1 hin).1, h.distinct.filter _⟩
  refine ⟨hn, fun _ => List.filter_sublist.subset, fun _ mark hr =>
    ⟨hn, hr.known, fun hin => hr.recent (List.mem_filter.1 hin).1, ?_⟩⟩
  intro a f' n ha hb' hd' hm
  refine List.mem_filter.2 ⟨hr.complete ha hb' hd' hm, ?_⟩
  -- The facade of that number was closed.
  rw [bne_iff_ne]
  rintro rfl
  obtain rfl := h.single ⟨f, hid, hb⟩ ⟨f', ha, hb'⟩
  obtain rfl : f = f' := Core.facade.inj (hid.symm.trans ha)
  exact hd' hd

end State.Tends

/-- What one change does to a list. -/
theorem Change.tends (hc : Change p s t) (h : s.Numbered k tr) :
    ∃ tr', s.Tends p k tr t tr' := by
  cases hc with
  | driver | shelves | record | ends => exact ⟨tr, .of_layers h rfl rfl⟩
  | @shut id f hid =>
      refine ⟨tr, .setCore h (fun {n} ht => ?_) fun {g n} hg _ => ?_⟩
      · obtain ⟨g, hg, hb⟩ := ht
        cases hg
        exact ⟨⟨f, hid, hb⟩, by rw [hid]; rfl⟩
      · cases hg
        rfl
  | @taint id f k' g b hid hb =>
      have hno : ∀ {n}, ¬ TrackedBy k n (.facade (f.broken k' g)) := by
        rintro n ⟨f', hf', hb'⟩
        cases hf'
        cases hb'
      exact ⟨tr, .setCore h (fun ht => absurd ht hno) fun hf hb =>
        absurd ⟨_, hf, hb⟩ hno⟩
  | letGo =>
      have hno : ∀ {n}, ¬ TrackedBy k n (.native none) := by
        rintro n ⟨f', hf', -⟩
        cases hf'
      exact ⟨tr, .setCore h (fun ht => absurd ht hno) fun hf hb =>
        absurd ⟨_, hf, hb⟩ hno⟩
  | release id =>
      have hno : ∀ {n}, ¬ TrackedBy k n .released := by
        rintro n ⟨f', hf', -⟩
        cases hf'
      exact ⟨tr, .setCore h (fun ht => absurd ht hno) fun hf hb =>
        absurd ⟨_, hf, hb⟩ hno⟩
  | add hl => exact ⟨tr, .addLayer h fun n => hl k n⟩
  | @enlist k' tr' l f hk' hl hb hlevel hbears hlists =>
      by_cases hk : k = k'
      · subst hk
        obtain rfl : tr = tr' := Option.some.inj (h.found.symm.trans hk')
        exact ⟨_, .enlist h hl hb hlevel hbears hlists⟩
      · refine ⟨tr, (State.Tends.addLayer h fun n => ?_).other _ ?_⟩
        · rintro ⟨f', hf', hb'⟩
          obtain rfl : f = f' := Core.facade.inj (hl.symm.trans hf')
          exact hk (Behaviour.tracked.inj (hb'.symm.trans hb)).1
        · rw [Keyed.get?_set, if_neg hk]
          rfl
  | @unlist id f k' m hid hb hd =>
      by_cases hk : k = k'
      · subst hk
        exact ⟨_, .unlist h hid hb hd⟩
      · exact ⟨tr, (State.Tends.refl h).other _ (by
          rw [Keyed.get?_modify, if_neg hk])⟩
  | @clear k' hp =>
      by_cases hk : k = k'
      · subst hk
        exact ⟨_, h.clear, fun _ => List.nil_subset _,
          fun hno => absurd hp hno⟩
      · exact ⟨tr, (State.Tends.refl h).other _ (by
          rw [Keyed.get?_modify, if_neg hk])⟩

/-- What a sequence of changes does to a list. -/
theorem State.Changes.tends (hc : s.Changes p t) (h : s.Numbered k tr) :
    ∃ tr', s.Tends p k tr t tr' := by
  induction hc with
  | refl => exact ⟨tr, .refl h⟩
  | tail _ hlast ih =>
      obtain ⟨tr', hk⟩ := ih
      obtain ⟨tr'', hk'⟩ := hlast.tends hk.numbered
      exact ⟨tr'', hk.trans hk'⟩

-- ====================================================== nothing on the list

/-- Whether a tracker lists nothing. -/
def State.Blank (s : State) (k : LinkId) : Prop :=
  ∃ tr, s.Numbered k tr ∧ tr.entries = []

/-- A tracker that lists nothing has a list of what comes from now on. -/
theorem State.Blank.roster (h : s.Blank k) :
    ∃ tr, s.Roster k s.layers.length tr := by
  obtain ⟨tr, hn, hnone⟩ := h
  exact ⟨tr, hn.roster hnone⟩

/-- Where it may not list anything, its list stays empty. -/
theorem State.Blank.changes (h : s.Blank k) (hc : s.Changes p t)
    (hp : ¬ p.lists k) : t.Blank k := by
  obtain ⟨tr, hn, hnone⟩ := h
  obtain ⟨tr', ht⟩ := hc.tends hn
  refine ⟨tr', ht.numbered, List.eq_nil_of_subset_nil ?_⟩
  rw [← hnone]
  exact ht.shorter hp

end PooledChain
