/-
Releasing what nothing refers to.

The walk of `State.release` goes from the newest layer to the oldest and
keeps a list of the layers known to live. What it knows (`Walk`): the
list holds the roots and the delegates of the living layers it has
passed, and nothing else; and the other layers it has passed are
released. So a layer that is not in the list when its turn comes is
nobody's delegate, and releasing it is a move (`moves_release`).

At the end every layer that is not released is held, parked or a
delegate (`Tidy`), and by going up from delegate to facade it lies under
a layer that is held or parked (`Tidy.exists_root`).
-/
import PooledChain.Proofs.Heap.Events

namespace PooledChain

open Scene (Sound)

/-- Closes a statement that is let go of, if there is one. -/
def Native.letGo : Option Native.StatementId → Native.Act Unit
  | some n => dispose n
  | none => pure ()

namespace State

variable {p : Terms} {s : State} {held : List LayerId}

/-- Whether every layer that is not released is referred to. -/
def Tidy (s : State) (held : List LayerId) : Prop :=
  ∀ {a}, s.core a ≠ .released → a ∈ held ∨ a ∈ s.parked ∨ a ∈ s.delegates

/-- What the walk knows when the layers from `n` on are passed. -/
structure Walk (s : State) (held : List LayerId) (n : Nat)
    (live : List LayerId) : Prop where
  of_held : held ⊆ live
  of_parked : s.parked ⊆ live
  reached : ∀ {a d}, n ≤ a → a ∈ live → s.Holds a d → d ∈ live
  referred : ∀ {d}, d ∈ live →
    d ∈ held ∨ d ∈ s.parked ∨ ∃ a, n ≤ a ∧ a ∈ live ∧ s.Holds a d
  dead : ∀ {a}, n ≤ a → a ∉ live → s.core a = .released

variable {n id : LayerId} {live : List LayerId}

/-- A layer that is passed and lives. -/
theorem Walk.keep (hw : Walk s held (id + 1) live) (hf : s.Formed)
    (hid : id ∈ live) :
    Walk s held id ((s.core id).delegate?.toList ++ live) where
  of_held := fun _ ha => List.mem_append_right _ (hw.of_held ha)
  of_parked := fun _ ha => List.mem_append_right _ (hw.of_parked ha)
  reached {a d} hn ha hd := by
    rcases Nat.eq_or_lt_of_le hn with rfl | hlt
    · refine List.mem_append_left _ ?_
      rw [Holds] at hd
      rw [hd]
      exact List.mem_singleton_self d
    · rcases List.mem_append.1 ha with ha | ha
      · have hold := hf.older (show s.Holds id a from Option.mem_toList.1 ha)
        exact absurd hold (Nat.lt_asymm hlt)
      · exact List.mem_append_right _ (hw.reached hlt ha hd)
  referred {d} hd := by
    rcases List.mem_append.1 hd with hd | hd
    · exact .inr (.inr ⟨id, Nat.le_refl _, List.mem_append_right _ hid,
        Option.mem_toList.1 hd⟩)
    · rcases hw.referred hd with h | h | ⟨a, hn, ha, hh⟩
      · exact .inl h
      · exact .inr (.inl h)
      · exact .inr (.inr ⟨a, Nat.le_of_succ_le hn,
          List.mem_append_right _ ha, hh⟩)
  dead {a} hn ha := by
    rcases Nat.eq_or_lt_of_le hn with rfl | hlt
    · exact absurd (List.mem_append_right _ hid) ha
    · exact hw.dead hlt fun h => ha (List.mem_append_right _ h)

/-- A layer that is passed and released. -/
theorem Walk.drop {t : State} (hw : Walk s held (id + 1) live)
    (hid : id ∉ live) (hparked : t.parked = s.parked)
    (hcore : ∀ a, a ≠ id → t.core a = s.core a)
    (hdead : t.core id = .released) : Walk t held id live where
  of_held := hw.of_held
  of_parked := by
    rw [hparked]
    exact hw.of_parked
  reached {a d} hn ha hd := by
    have hne : a ≠ id := fun he => hid (he ▸ ha)
    rw [Holds, hcore a hne] at hd
    exact hw.reached (Nat.lt_of_le_of_ne hn fun he => hne he.symm) ha hd
  referred {d} hd := by
    rw [hparked]
    rcases hw.referred hd with h | h | ⟨a, hn, ha, hh⟩
    · exact .inl h
    · exact .inr (.inl h)
    · have hne : a ≠ id := fun he => hid (he ▸ ha)
      refine .inr (.inr ⟨a, Nat.le_of_succ_le hn, ha, ?_⟩)
      rw [Holds, hcore a hne]
      exact hh
  dead {a} hn ha := by
    by_cases he : a = id
    · rw [he]
      exact hdead
    · rw [hcore a he]
      exact hw.dead (Nat.lt_of_le_of_ne hn fun h => he h.symm) ha

/-- The walk starts from what is held and what is parked. -/
theorem walk_start (s : State) (held : List LayerId) :
    Walk s held s.layers.length (held ++ s.parked) := by
  refine ⟨fun _ ha => List.mem_append_left _ ha,
    fun _ ha => List.mem_append_right _ ha, fun {a d} hn _ hd => ?_,
    fun {d} hd => ?_, fun {a} hn _ => core_of_le hn⟩
  · rw [Holds, core_of_le hn] at hd
    cases hd
  · rcases List.mem_append.1 hd with hd | hd
    · exact .inl hd
    · exact .inr (.inl hd)

/-- At the end of the walk the state is tidy. -/
theorem Walk.tidy (hw : Walk s held 0 live) : s.Tidy held := by
  intro a ha
  have hmem : a ∈ live := by
    by_contra hn
    exact ha (hw.dead (Nat.zero_le _) hn)
  rcases hw.referred hmem with h | h | ⟨b, -, -, hh⟩
  · exact .inl h
  · exact .inr (.inl h)
  · exact .inr (.inr (mem_delegates.2 ⟨b, hh⟩))

/-- Releasing a layer takes nothing off a shelf. -/
theorem parked_releaseLayer (s : State) (id : LayerId) :
    (s.releaseLayer id).parked = s.parked := by
  rw [releaseLayer]
  split <;> rfl

/-- The released layer has the core of one, and every other layer its
own. -/
theorem core_releaseLayer (h : s.core id ≠ .released) (a : LayerId) :
    (s.releaseLayer id).core a
      = if a = id then .released else s.core a := by
  rw [releaseLayer]
  split
  · exact core_setCore (lt_of_core h) .released a
  · exact core_setCore (lt_of_core h) .released a

/-- What is released already is not released again. -/
theorem releaseLayer_of_released (h : s.core id = .released) :
    s.releaseLayer id = s := by
  rw [releaseLayer, h]
  simp only
  rw [← h]
  exact setCore_core id

/-- Releasing a layer that is not known to live is a move: nobody refers
to it, for a facade that holds it would be newer. -/
theorem Walk.free (hw : Walk s held (id + 1) live)
    (h : Sound ⟨s, held, none, []⟩) (hid : id ∉ live)
    (hr : s.core id ≠ .released) :
    Move p ⟨s, held, none, []⟩ ⟨s.releaseLayer id, held, none, []⟩ := by
  refine .free hr (fun hh => hid (hw.of_held hh)) fun hmem => ?_
  rcases Scene.mem_owned.1 hmem with hd | hp | ho | hl
  · obtain ⟨a, ha⟩ := mem_delegates.1 hd
    have hlt := h.formed.older ha
    refine hid (hw.reached hlt ?_ ha)
    by_contra hna
    have hdead := hw.dead hlt hna
    rw [Holds, hdead] at ha
    cases ha
  · exact hid (hw.of_parked hp)
  · cases ho
  · cases hl

/-- The walk goes on past a layer that is not known to live and is
released. -/
theorem Walk.next (hw : Walk s held (id + 1) live) (hid : id ∉ live)
    (hr : s.core id ≠ .released) :
    Walk (s.releaseLayer id) held id live := by
  have hcore := core_releaseLayer hr
  exact hw.drop hid (parked_releaseLayer s id)
    (fun a ha => by rw [hcore, if_neg ha]) (by rw [hcore, if_pos rfl])

/-- One turn of the walk. -/
theorem releaseBelow_succ (id : LayerId) (live : List LayerId)
    (s : State) :
    releaseBelow (id + 1) live s
      = if id ∈ live then
          releaseBelow id ((s.core id).delegate?.toList ++ live) s
        else releaseBelow id live (s.releaseLayer id) := by
  rw [releaseBelow, releaseUnless]
  by_cases hid : id ∈ live
  · rw [if_pos (List.contains_iff_mem.2 hid), if_pos hid]
    cases (s.core id).delegate? <;> rfl
  · rw [if_neg fun hc => hid (List.contains_iff_mem.1 hc), if_neg hid]

/-- Stacks are well formed after a layer is released. -/
theorem formed_releaseLayer (h : s.Formed) (id : LayerId) :
    (s.releaseLayer id).Formed := by
  by_cases hr : s.core id = .released
  · rwa [releaseLayer_of_released hr]
  · have hset : (s.setCore id .released).Formed :=
      h.setCore hr (fun hd => by cases hd) (Nat.zero_le _)
        (fun he => by cases he) fun he _ => by cases he
    rw [releaseLayer]
    split
    · exact hset.congr rfl
    · exact hset

/-- The walk is a sequence of moves. -/
theorem moves_releaseBelow (h : Sound ⟨s, held, none, []⟩)
    (hw : Walk s held n live) :
    Moves p ⟨s, held, none, []⟩
      ⟨releaseBelow n live s, held, none, []⟩ := by
  induction n generalizing s live with
  | zero => exact .refl _
  | succ id ih =>
      rw [releaseBelow_succ]
      by_cases hid : id ∈ live
      · rw [if_pos hid]
        exact ih h (hw.keep h.formed hid)
      · rw [if_neg hid]
        by_cases hr : s.core id = .released
        · rw [releaseLayer_of_released hr]
          exact ih h (hw.drop hid rfl (fun _ _ => rfl) hr)
        · have hmove : Move p _ _ := hw.free h hid hr
          exact (Moves.single hmove).trans
            (ih (hmove.sound h) (hw.next hid hr))

/-- The walk leaves a tidy state. -/
theorem tidy_releaseBelow (h : s.Formed) (hw : Walk s held n live) :
    (releaseBelow n live s).Tidy held := by
  induction n generalizing s live with
  | zero => exact hw.tidy
  | succ id ih =>
      rw [releaseBelow_succ]
      by_cases hid : id ∈ live
      · rw [if_pos hid]
        exact ih h (hw.keep h hid)
      · rw [if_neg hid]
        by_cases hr : s.core id = .released
        · rw [releaseLayer_of_released hr]
          exact ih h (hw.drop hid rfl (fun _ _ => rfl) hr)
        · exact ih (formed_releaseLayer h id) (hw.next hid hr)

/-- After the walk every layer that is left is referred to. -/
theorem tidy_release (h : s.Formed) (held : List LayerId) :
    (s.release held).Tidy held :=
  tidy_releaseBelow h (walk_start s held)

/-- Releasing what nothing refers to is a sequence of moves, and leaves a
tidy state. -/
theorem moves_release (h : Sound ⟨s, held, none, []⟩) :
    Moves p ⟨s, held, none, []⟩ ⟨s.release held, held, none, []⟩
      ∧ (s.release held).Tidy held :=
  ⟨moves_releaseBelow h (walk_start s held), tidy_release h.formed held⟩

-- ================================================= what is not released

theorem caches_releaseLayer (s : State) (id : LayerId) :
    (s.releaseLayer id).caches = s.caches := by
  rw [releaseLayer]
  split <;> rfl

theorem connections_releaseLayer (s : State) (id : LayerId) :
    (s.releaseLayer id).connections = s.connections := by
  rw [releaseLayer]
  split <;> rfl

theorem returns_releaseLayer (s : State) (id : LayerId) :
    (s.releaseLayer id).returns = s.returns := by
  rw [releaseLayer]
  split <;> rfl

theorem physicals_releaseLayer (s : State) (id : LayerId) :
    (s.releaseLayer id).physicals = s.physicals := by
  rw [releaseLayer]
  split <;> rfl

/-- Releasing a layer changes no other one. -/
theorem layer?_releaseLayer {a : LayerId} (h : a ≠ id) :
    (s.releaseLayer id).layer? a = s.layer? a := by
  rw [releaseLayer]
  split
  · exact (layer?_setCore id .released a).trans (if_neg h)
  · exact (layer?_setCore id .released a).trans (if_neg h)

/-- What releasing one layer comes to, releasing all does. -/
theorem release_induction {R : State → State → Prop} (hrefl : ∀ s, R s s)
    (htrans : ∀ {s t u}, R s t → R t u → R s u)
    (hstep : ∀ (s : State) (id : LayerId), R s (s.releaseLayer id))
    (s : State) (held : List LayerId) : R s (s.release held) := by
  have hbelow : ∀ (n : Nat) (live : List LayerId) (s : State),
      R s (releaseBelow n live s) := by
    intro n
    induction n with
    | zero => exact fun _ s => hrefl s
    | succ id ih =>
        intro live s
        rw [releaseBelow_succ]
        split
        · exact ih _ _
        · exact htrans (hstep s id) (ih _ _)
  exact hbelow ..

/-- What releasing one layer leaves as it is, releasing all does. -/
theorem release_congr {α : Type} {f : State → α}
    (h : ∀ (s : State) (id : LayerId), f (s.releaseLayer id) = f s)
    (s : State) (held : List LayerId) : f (s.release held) = f s :=
  release_induction (R := fun s t => f t = f s) (fun _ => rfl)
    (fun h₁ h₂ => h₂.trans h₁) h s held

/-- Releasing touches no shelf. -/
theorem caches_release (s : State) (held : List LayerId) :
    (s.release held).caches = s.caches :=
  release_congr caches_releaseLayer s held

theorem connections_release (s : State) (held : List LayerId) :
    (s.release held).connections = s.connections :=
  release_congr connections_releaseLayer s held

theorem returns_release (s : State) (held : List LayerId) :
    (s.release held).returns = s.returns :=
  release_congr returns_releaseLayer s held

theorem physicals_release (s : State) (held : List LayerId) :
    (s.release held).physicals = s.physicals :=
  release_congr physicals_releaseLayer s held

/-- What lies under a root lives when its turn comes. -/
theorem Walk.mem_live (hw : Walk s held (id + 1) live) (hf : s.Formed)
    {r : LayerId} (hr : r ∈ held ∨ r ∈ s.parked) (hover : s.Over r id) :
    id ∈ live := by
  have hroot : r ∈ live := by
    rcases hr with hr | hr
    · exact hw.of_held hr
    · exact hw.of_parked hr
  clear hr
  induction hover using Relation.ReflTransGen.head_induction_on with
  | refl => exact hroot
  | head hd hrest ih =>
      apply ih
      have hlt := Nat.lt_of_le_of_lt (Over.le hf.older hrest) (hf.older hd)
      exact hw.reached hlt hroot hd

/-- What lies under a root stays as it is. -/
theorem layer?_releaseBelow (h : s.Formed) (hw : Walk s held n live)
    {r x : LayerId} (hr : r ∈ held ∨ r ∈ s.parked) (hx : s.Over r x) :
    (releaseBelow n live s).layer? x = s.layer? x := by
  induction n generalizing s live with
  | zero => rfl
  | succ id ih =>
      rw [releaseBelow_succ]
      by_cases hid : id ∈ live
      · rw [if_pos hid]
        exact ih h (hw.keep h hid) hr hx
      · rw [if_neg hid]
        by_cases hrel : s.core id = .released
        · rw [releaseLayer_of_released hrel]
          exact ih h (hw.drop hid rfl (fun _ _ => rfl) hrel) hr hx
        · have hcore := core_releaseLayer hrel
          -- the layer whose turn it is does not lie under the root
          have hne : ∀ {y}, s.Over r y → y ≠ id := fun hy he =>
            hid (hw.mem_live h hr (he ▸ hy))
          rw [ih (formed_releaseLayer h id) (hw.next hid hrel)
            (by rw [parked_releaseLayer]; exact hr)
            (hx.congr fun y hy => by rw [hcore, if_neg (hne hy)])]
          exact layer?_releaseLayer (hne hx)

/-- What a caller holds and what is parked is not touched, nor what lies
under it. -/
theorem layer?_release (h : s.Formed) {r x : LayerId}
    (hr : r ∈ held ∨ r ∈ s.parked) (hx : s.Over r x) :
    (s.release held).layer? x = s.layer? x :=
  layer?_releaseBelow h (walk_start s held) hr hx

/-- What lies under a layer that is held or parked is not touched by the
walk. -/
theorem core_release_of_root (h : s.Formed) {r x : LayerId}
    (hr : r ∈ held ∨ r ∈ s.parked) (hx : s.Over r x) :
    (s.release held).core x = s.core x :=
  core_congr_layer (layer?_release h hr hx)

/-- A layer that is held or parked stands on its statement after the walk
too. -/
theorem Stands.release (h : s.Formed) {r : LayerId}
    {n : Native.StatementId} (hr : r ∈ held ∨ r ∈ s.parked)
    (hn : s.Stands r n) : (s.release held).Stands r n :=
  hn.congr fun _ hx => core_release_of_root h hr hx

/-- A released layer keeps its place. -/
theorem length_releaseLayer (s : State) (id : LayerId) :
    (s.releaseLayer id).layers.length = s.layers.length := by
  rw [releaseLayer]
  split <;> exact length_setCore ..

/-- The walk adds no layer and removes none. -/
theorem length_release (s : State) (held : List LayerId) :
    (s.release held).layers.length = s.layers.length :=
  release_congr (f := fun s => s.layers.length) length_releaseLayer s held

/-- Whether every open handle lies under a layer that is held or
parked. -/
def Rooted (s : State) (held : List LayerId) : Prop :=
  ∀ {x n}, s.core x = .native (some n) →
    ∃ r, (r ∈ held ∨ r ∈ s.parked) ∧ s.Over r x

/-- In a tidy state every layer lies under one that is held or parked. -/
theorem Tidy.exists_root (ht : s.Tidy held) {a : LayerId}
    (ha : s.core a ≠ .released) (hf : s.Formed) :
    ∃ r, (r ∈ held ∨ r ∈ s.parked) ∧ s.Over r a := by
  -- facades are newer than their delegates, and there are finitely many
  induction hk : s.layers.length - a using Nat.strongRecOn generalizing a with
  | ind k ih =>
      rcases ht ha with hh | hp | hd
      · exact ⟨a, .inl hh, .refl⟩
      · exact ⟨a, .inr hp, .refl⟩
      · obtain ⟨b, hb⟩ := mem_delegates.1 hd
        have hlt := hf.older hb
        have hbr : s.core b ≠ .released := hb.not_released
        have hblt := lt_of_core hbr
        have hsmall : s.layers.length - b < k := by
          rw [← hk]
          exact Nat.sub_lt_sub_left (Nat.lt_trans hlt hblt) hlt
        obtain ⟨r, hr, hover⟩ := ih _ hsmall hbr rfl
        exact ⟨r, hr, hover.tail hb⟩

/-- Whether a layer lies under none that is held or parked. -/
structure Astray (s : State) (held : List LayerId) (x : LayerId) : Prop where
  apart : ∀ {r}, r ∈ held ∨ r ∈ s.parked → ¬ s.Over r x

/-- Where every open handle lies under a layer that is held or parked, none
is astray. -/
theorem Rooted.not_astray (h : s.Rooted held) {x : LayerId}
    {m : Native.StatementId} (hx : s.core x = .native (some m)) :
    ¬ s.Astray held x := fun hastray => by
  obtain ⟨r, hr, hover⟩ := h hx
  exact hastray.apart hr hover

/-- What the walk finds to release lies under nothing that is held or
parked. -/
theorem Walk.astray (hw : Walk s held (id + 1) live) (hf : s.Formed)
    (hid : id ∉ live) : s.Astray held id :=
  ⟨fun hr hover => hid (hw.mem_live hf hr hover)⟩

/-- Releasing a layer that is astray leads nothing else astray. -/
theorem astray_releaseLayer (hid : s.Astray held id)
    (hr : s.core id ≠ .released) {x : LayerId} :
    (s.releaseLayer id).Astray held x ↔ s.Astray held x := by
  have hcore := core_releaseLayer hr
  have hparked := parked_releaseLayer s id
  constructor
  · refine fun hx => ⟨fun {r} hroot hover => ?_⟩
    refine hx.apart (by rw [hparked]; exact hroot)
      (hover.congr fun y hy => ?_)
    rw [hcore, if_neg]
    rintro rfl
    exact hid.apart hroot hy
  · refine fun hx => ⟨fun {r} hroot hover => ?_⟩
    rw [hparked] at hroot
    refine hx.apart hroot
      (Relation.ReflTransGen.mono (fun a d hd => ?_) _ _ hover)
    rw [Holds, hcore] at hd
    split at hd
    · cases hd
    · exact hd

/-- Where one statement at most has a handle that is astray, releasing
closes that statement and no other. -/
theorem native_releaseBelow (h : s.Formed) (hw : Walk s held n live)
    {o : Option Native.StatementId}
    (honly : ∀ {x m}, s.core x = .native (some m) → s.Astray held x →
      o = some m)
    (hone : ∀ {m}, o = some m → ∃ x, s.core x = .native (some m)
      ∧ s.Astray held x ∧ ∀ {y}, s.core y = .native (some m) → y = x) :
    (releaseBelow n live s).native
      = ((Native.letGo o).run s.native).2 := by
  induction n generalizing s live o with
  | zero =>
      cases o with
      | none => rfl
      | some m =>
          obtain ⟨x, hx, hastray, -⟩ := hone rfl
          obtain ⟨r, hr, hover⟩ :=
            Tidy.exists_root hw.tidy (Core.ne_released_of_native hx) h
          exact absurd hover (hastray.apart hr)
  | succ id ih =>
      rw [releaseBelow_succ]
      by_cases hid : id ∈ live
      · rw [if_pos hid]
        exact ih h (hw.keep h hid) honly hone
      rw [if_neg hid]
      by_cases hrel : s.core id = .released
      · rw [releaseLayer_of_released hrel]
        exact ih h (hw.drop hid rfl (fun _ _ => rfl) hrel) honly hone
      have hcore := core_releaseLayer hrel
      have hgone := hw.astray h hid
      have hbefore : ∀ {x m}, (s.releaseLayer id).core x = .native (some m) →
          x ≠ id ∧ s.core x = .native (some m) := by
        intro x m hx
        rw [hcore] at hx
        split at hx
        · cases hx
        · next hne => exact ⟨hne, hx⟩
      have hrest := fun {o} => ih (o := o) (formed_releaseLayer h id)
        (hw.next hid hrel)
      by_cases hopen : ∃ m, s.core id = .native (some m)
      · -- this is the one that is astray
        obtain ⟨m, hm⟩ := hopen
        obtain rfl := honly hm hgone
        have hnative : (s.releaseLayer id).native
            = ((Native.dispose m).run s.native).2 := by
          rw [releaseLayer, hm]
          rfl
        rw [hrest (o := none) (fun {x k} hx hastray => ?_)
          (fun he => by cases he), hnative]
        · rfl
        · obtain ⟨hne, hx⟩ := hbefore hx
          obtain rfl : m = k := Option.some.inj
            (honly hx ((astray_releaseLayer hgone hrel).1 hastray))
          obtain ⟨y, -, -, hunique⟩ := hone rfl
          exact absurd ((hunique hx).trans (hunique hm).symm) hne
      · have hnative : (s.releaseLayer id).native = s.native := by
          rw [releaseLayer]
          split
          · next m hm => exact absurd ⟨m, hm⟩ hopen
          · rfl
        rw [hrest (o := o) (fun hx hastray => honly (hbefore hx).2
          ((astray_releaseLayer hgone hrel).1 hastray)) fun {m} ho => ?_,
          hnative]
        obtain ⟨x, hx, hastray, hunique⟩ := hone ho
        have hne : x ≠ id := fun he => hopen ⟨m, he ▸ hx⟩
        exact ⟨x, by rw [hcore, if_neg hne]; exact hx,
          (astray_releaseLayer hgone hrel).2 hastray,
          fun hy => hunique (hbefore hy).2⟩

/-- Then the walk closes no statement. -/
theorem native_release (h : s.Formed) (hroot : s.Rooted held) :
    (s.release held).native = s.native :=
  native_releaseBelow (o := none) h (walk_start s held)
    (fun hx hastray => absurd hastray (hroot.not_astray hx))
    (fun he => by cases he)

end State

end PooledChain
