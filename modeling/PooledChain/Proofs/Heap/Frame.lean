/-
What closing a layer leaves alone.

Closing goes down from a layer to the native handle, unless a cache on
the way takes what is under it. A cache that is full throws another
statement away then, which is closed in turn. So closing can reach the
layers under the one that is closed, and those under whatever the caches
it meets have parked (`Exposed`).

# Frames

Let `K` be some caches. If all facades of caches that can be reached are
of caches in `K` (`Confined`), then closing leaves the shelves of all
other caches as they are, and all layers that cannot be reached
(`Frame`). Two sorts of `K` are of use: the caches below a level, and no
caches at all.

The work is handed down from a layer to its delegate, or from a layer
that is parked to the one that the shelf has no room for. `Handover`
says what may have changed by then, so that whatever can be reached from
there could be reached before.
-/
import PooledChain.Proofs.Heap.Later

namespace PooledChain

open Scene (Sound)

variable {s t u : State} {held loose : List LayerId}
  {out : Option LayerId} {K : LinkId → Prop} {id r : LayerId}

namespace State

/-- Whether a layer is on the shelf of one of the caches `K`. -/
def ParkedIn (s : State) (K : LinkId → Prop) (e : LayerId) : Prop :=
  ∃ k store sql, (k, store) ∈ s.caches.entries ∧ K k
    ∧ (sql, e) ∈ store.entries

/-- The layers under `id`, and those under what the caches `K` have
parked. -/
def Exposed (s : State) (K : LinkId → Prop) (id x : LayerId) : Prop :=
  s.Over id x ∨ ∃ e, s.ParkedIn K e ∧ s.Over e x

/-- Whether no other caches than `K` are met on the way down. -/
structure Confined (s : State) (K : LinkId → Prop) (id : LayerId) :
    Prop where
  met : ∀ {x f k g b}, s.Exposed K id x → s.core x = .facade f →
    f.behaviour = .cached k g b → K k

/-- What is the same in two states: the shelves of the caches that are
not in `K`, and the layers that are not hit. -/
structure Frame (K : LinkId → Prop) (hit : LayerId → Prop) (s t : State) :
    Prop where
  caches : ∀ {k}, ¬ K k → t.caches.get? k = s.caches.get? k
  layer : ∀ {x}, x < s.layers.length → ¬ hit x → t.layer? x = s.layer? x

/-- What lies under an exposed layer is exposed. -/
theorem Exposed.over {x y : LayerId} (h : s.Exposed K id x)
    (hxy : s.Over x y) : s.Exposed K id y := by
  rcases h with h | ⟨e, he, h⟩
  · exact .inl (h.trans hxy)
  · exact .inr ⟨e, he, h.trans hxy⟩

/-- Closing reaches less from a delegate. -/
theorem Exposed.of_over {x : LayerId} (h : s.Exposed K r x)
    (hr : s.Over id r) : s.Exposed K id x := by
  rcases h with h | h
  · exact .inl (hr.trans h)
  · exact .inr h

/-- Further down no other caches are met. -/
theorem Confined.of_over (h : s.Confined K id) (hr : s.Over id r) :
    s.Confined K r :=
  ⟨fun hx hf hb => h.met (hx.of_over hr) hf hb⟩

theorem Exposed.self (s : State) (K : LinkId → Prop) (id : LayerId) :
    s.Exposed K id id :=
  .inl .refl

/-- What is parked depends on the shelves only. -/
theorem ParkedIn.congr (hc : t.caches = s.caches) {e : LayerId}
    (h : t.ParkedIn K e) : s.ParkedIn K e := by
  obtain ⟨k, store, sql, hk, hrest⟩ := h
  rw [hc] at hk
  exact ⟨k, store, sql, hk, hrest⟩

-- ========================================================== handing down

/-- A state in which the closing of `id` goes on: a new layer stands on
layers that could be reached before, and belongs to one of the caches
`K`; and nothing else has been parked there. -/
structure Handover (K : LinkId → Prop) (id : LayerId) (s t : State) :
    Prop where
  later : s.Later t
  holds : ∀ {a d}, s.layers.length ≤ a → t.Holds a d → s.Exposed K id d
  cached : ∀ {a f k g b}, s.layers.length ≤ a → t.core a = .facade f →
    f.behaviour = .cached k g b → K k
  parked : ∀ {e}, t.ParkedIn K e → s.ParkedIn K e ∨ s.layers.length ≤ e

/-- Whatever is reached could be reached before. -/
theorem Handover.over (h : Handover K id s t)
    (hr : s.Exposed K id r ∨ s.layers.length ≤ r) {x : LayerId}
    (hrx : t.Over r x) (hx : x < s.layers.length) : s.Exposed K id x := by
  induction hrx using Relation.ReflTransGen.head_induction_on with
  | refl =>
      rcases hr with hr | hr
      · exact hr
      · exact absurd hx (Nat.not_lt_of_le hr)
  | @head a d had _ ih =>
      apply ih
      left
      by_cases ha : a < s.layers.length
      · rcases hr with hr | hr
        · exact hr.over (.single (h.later.holds ha had))
        · exact absurd ha (Nat.not_lt_of_le hr)
      · exact h.holds (Nat.le_of_not_lt ha) had

namespace Handover

/-- What can be reached from the new layer could be reached before. -/
theorem exposed (h : Handover K id s t)
    (hr : s.Exposed K id r ∨ s.layers.length ≤ r) {x : LayerId}
    (hrx : t.Exposed K r x) (hx : x < s.layers.length) :
    s.Exposed K id x := by
  rcases hrx with hrx | ⟨e, he, hex⟩
  · exact h.over hr hrx hx
  · refine h.over ?_ hex hx
    rcases h.parked he with he | he
    · exact .inl (.inr ⟨e, he, .refl⟩)
    · exact .inr he

/-- No caches are met that would not have been met before. -/
theorem confined (h : Handover K id s t) (hc : s.Confined K id)
    (hr : s.Exposed K id r ∨ s.layers.length ≤ r) : t.Confined K r := by
  refine ⟨fun {x f k g b} hx hf hb => ?_⟩
  by_cases hlt : x < s.layers.length
  · have hlater := h.later.core hlt
    rw [hf] at hlater
    have hexp := h.exposed hr hx hlt
    generalize hcx : s.core x = c at hlater
    cases hlater with
    | @facade f' _ _ _ hb' =>
        rcases hb' with hb' | ⟨k', g', b', hb', he⟩
        · exact hc.met hexp hcx (hb'.symm.trans hb)
        · rw [hb] at he
          cases he
          exact hc.met hexp hcx hb'
  · exact h.cached (Nat.le_of_not_lt hlt) hf hb

end Handover

/-- What is left alone twice is left alone. -/
theorem Frame.trans {hit hit' : LayerId → Prop} (h₁ : Frame K hit s t)
    (h₂ : Frame K hit' t u) (hle : s.layers.length ≤ t.layers.length)
    (hsub : ∀ {x}, x < s.layers.length → hit' x → hit x) :
    Frame K hit s u where
  caches hk := (h₂.caches hk).trans (h₁.caches hk)
  layer {x} hx hn := by
    have hlt := Nat.lt_of_lt_of_le hx hle
    exact (h₂.layer hlt fun hh => hn (hsub hx hh)).trans (h₁.layer hx hn)

/-- The caches that are met below a level are below it. -/
theorem confined_below (h : Sound ⟨s, held, out, loose⟩) {bound : Nat}
    (hid : (s.core id).level ≤ bound) :
    s.Confined (fun k => k.place < bound) id := by
  refine ⟨fun {x f k g b} hx hf hb => ?_⟩
  have hplaced : Placed (s.core x) := h.formed.placed x
  have hlevel : f.level = k.place + 1 := hplaced hf hb
  have hle : (s.core x).level ≤ bound := by
    rcases hx with hx | ⟨e, he, hx⟩
    · exact Nat.le_trans (hx.level_le h.formed.leveled) hid
    · obtain ⟨k', store, sql, hin, hk', hmem⟩ := he
      obtain ⟨l, d, hl, -, hc⟩ := (h.stocked.shelved hin).entry hmem
      have hlow := hx.level_le h.formed.leveled
      rw [core_eq_of_layer? hl, hc] at hlow
      exact Nat.le_trans hlow hk'
  rw [hf] at hle
  have hle' : f.level ≤ bound := hle
  show k.place < bound
  omega

theorem Frame.refl (K : LinkId → Prop) (hit : LayerId → Prop) (s : State) :
    Frame K hit s s :=
  ⟨fun _ => rfl, fun _ _ => rfl⟩

theorem Frame.alike {hit : LayerId → Prop} (h : Frame K hit s t)
    (ha : t.Alike u) : Frame K hit s u where
  caches hk := by rw [ha.caches]; exact h.caches hk
  layer hx hn := by rw [layer?_congr ha.layers]; exact h.layer hx hn

/-- A layer that is closed is one that is reached. -/
theorem frame_setCore (K : LinkId → Prop) (s : State) (id : LayerId)
    (c : Core) : Frame K (s.Exposed K id) s (s.setCore id c) where
  caches _ := rfl
  layer {x} _ hn := by
    rw [layer?_setCore, if_neg]
    intro he
    subst he
    exact hn (.self s K x)

/-- A layer is closed, and perhaps something is noted. -/
theorem handover_shut {a : LayerId} {f : Facade}
    (hf : s.core a = .facade f) (ha : (s.setCore a (.facade f.shut)).Alike t) :
    Handover K id s t where
  later := (Later.shut hf).trans (.of_layers ha.layers)
  holds {a d} hle hh := by
    have hr : t.core a = .released := by
      rw [core_congr ha.layers]
      exact core_of_le (by rw [length_setCore]; exact hle)
    rw [Holds, hr] at hh
    cases hh
  cached {a f k g b} hle hf _ := by
    have hr : t.core a = .released := by
      rw [core_congr ha.layers]
      exact core_of_le (by rw [length_setCore]; exact hle)
    rw [hr] at hf
    cases hf
  parked he := .inl (he.congr ha.caches)

/-- A layer is closed, and its delegate parked under a new one. -/
theorem handover_shelve (l : Layer) {f : Facade} {d : LayerId} {k : LinkId}
    (g : Nat) {store : CacheStore} (sql : String)
    (hid : s.core id = .facade f) (hd : f.delegate = some d) (hK : K k)
    (hk : s.caches.get? k = some store) :
    Handover K id s ((s.setCore id (.facade f.shut)).shelve k store sql
      (l.twin f.level k g d)) := by
  have hlen : (s.setCore id (.facade f.shut)).layers.length
      = s.layers.length := length_setCore ..
  have hcore : ∀ a, s.layers.length ≤ a →
      ((s.setCore id (.facade f.shut)).shelve k store sql
          (l.twin f.level k g d)).core a
        = if a = s.layers.length then (l.twin f.level k g d).core
          else .released := by
    intro a ha
    show ((s.setCore id (.facade f.shut)).addLayer _).2.core a = _
    rw [core_addLayer, hlen]
    split
    · rfl
    · exact core_of_le (by rw [hlen]; exact ha)
  refine ⟨?_, fun {a x} ha hh => ?_, fun {a f' k' g' b} ha hf hb => ?_,
    fun {e} he => ?_⟩
  · exact ((Later.shut hid).trans (.addLayer _ _)).trans (.of_layers rfl)
  · rw [Holds, hcore a ha] at hh
    split at hh
    · cases hh
      left
      exact .single (.of_facade hid hd)
    · cases hh
  · rw [hcore a ha] at hf
    split at hf
    · cases hf
      cases hb
      exact hK
    · cases hf
  · obtain ⟨k', st, sql', hin, hk', hmem⟩ := he
    rcases Keyed.mem_set.1 hin with heq | ⟨hin, -⟩
    · cases heq
      rw [hlen] at hmem
      rcases List.mem_cons.1 ((store.park_sublist _ _).subset hmem)
        with hnew | hold
      · cases hnew
        exact .inr (Nat.le_refl _)
      · exact .inl ⟨k, store, sql', Keyed.mem_of_get? hk, hK, hold⟩
    · exact .inl ⟨k', st, sql', hin, hk', hmem⟩

/-- Parking a statement touches the facade that is closed, and its own
shelf. -/
theorem frame_shelve {l : Layer} {f : Facade} {d : LayerId} {k : LinkId}
    {g : Nat} (store : CacheStore) (sql : String) (hK : K k) :
    Frame K (s.Exposed K id) s
      ((s.setCore id (.facade f.shut)).shelve k store sql
        (l.twin f.level k g d)) where
  caches {k'} hk' := by
    have hne : k' ≠ k := fun he => hk' (he ▸ hK)
    show (s.caches.set k _).get? k' = _
    rw [Keyed.get?_set, if_neg hne]
  layer {x} hx hn := by
    show ((s.setCore id (.facade f.shut)).addLayer _).2.layer? x = _
    rw [layer?_addLayer, length_setCore, if_neg (Nat.ne_of_lt hx)]
    exact (frame_setCore K s id _).layer hx hn

end State

namespace Act

open State (Frame Handover frame_setCore handover_shut)

variable {below : Below} {l : Layer} {f : Facade} {d : LayerId}

-- ============================================================= closing

/-- The layers under the one at hand are closed without touching
anything that cannot be reached. -/
def Frames (K : LinkId → Prop) (below : Below) : Prop :=
  ∀ {s held out loose id}, Sound ⟨s, held, out, loose⟩ → id ∈ loose →
    s.Confined K id →
    Frame K (s.Exposed K id) s ((below id .close).run s).2

/-- A facade is closed, and then its delegate. -/
theorem Frames.closeBelow (hbelow : Frames K below)
    (h : Sound ⟨s, held, out, loose⟩) (hid : s.core id = .facade f)
    (hd : f.delegate = some d) (hp : id ∉ s.parked)
    (hc : s.Confined K d) (ha : (s.setCore id (.facade f.shut)).Alike t) :
    Frame K (s.Exposed K id) s ((Act.closeBelow below d).run t).2 := by
  have hsound := (h.shut hid hd hp).aside (g := false) (.of_alike ha)
  have hover : Handover K d s t := handover_shut hid ha
  have hroot : s.Exposed K d d ∨ s.layers.length ≤ d := .inl (.self s K d)
  have hunder : s.Over id d := .single (.of_facade hid hd)
  rw [run_closeBelow]
  refine ((frame_setCore K s id _).alike ha).trans
    (hbelow hsound List.mem_cons_self (hover.confined hc hroot))
    hover.later.length_le fun hx hhit => ?_
  exact (hover.exposed hroot hhit hx).of_over hunder

/-- A layer in hand is thrown away. Of which cache it is itself does not
matter. -/
theorem Frames.discard (hbelow : Frames K below)
    (h : Sound ⟨s, held, out, id :: loose⟩)
    (hc : ∀ {d}, s.Holds id d → s.Confined K d) :
    Frame K (s.Exposed K id) s ((Act.discard below id).run s).2 := by
  cases hf : s.facade? id with
  | none =>
      rw [run_discard_of_not_facade below hf]
      exact .refl K _ s
  | some f =>
      have hid := State.facade?_eq_some.1 hf
      obtain ⟨t, ht, hrun⟩ := run_discard below hid
      rw [hrun]
      cases hd : f.delegate with
      | none =>
          rw [hd, Option.map_none, Option.getD_none] at ht
          exact (frame_setCore K s id _).alike ht
      | some d =>
          rw [hd, Option.map_some, Option.getD_some] at ht
          have hp := h.not_parked List.mem_cons_self
          have hholds : s.Holds id d := .of_facade hid hd
          exact (hbelow.closeBelow h hid hd hp (hc hholds) (.refl _)).alike ht

/-- The delegate of a facade that is closed is closed, or goes to a
shelf. -/
theorem Frames.closeDelegate (hbelow : Frames K below)
    (h : Sound ⟨s, held, out, loose⟩) (hl : s.layer? id = some l)
    (hf : l.core = .facade f) (hd : f.delegate = some d)
    (hp : id ∉ s.parked) (hc : s.Confined K id) :
    Frame K (s.Exposed K id) s
      ((Act.closeDelegate below id l f d).run
        (s.setCore id (.facade f.shut))).2 := by
  have hid : s.core id = .facade f := by
    rw [State.core_eq_of_layer? hl, hf]
  have hcd : s.Confined K d :=
    hc.of_over (.single (.of_facade hid hd))
  have hclose : Frame K (s.Exposed K id) s
      ((Act.closeBelow below d).run (s.setCore id (.facade f.shut))).2 :=
    hbelow.closeBelow h hid hd hp hcd (.refl _)
  by_cases hb : ∃ k g b, f.behaviour = .cached k g b
  · obtain ⟨k, g, b, hb⟩ := hb
    have hK : K k := hc.met (.self s K id) hid hb
    rw [run_closeDelegate_cached hb]
    cases b with
    | true => exact hclose
    | false =>
        simp only [Bool.false_eq_true, if_false]
        split
        · exact frame_setCore K s id _
        by_cases ha : ∃ store sql, s.caches.get? k = some store
            ∧ l.sql = some sql ∧ store.accepts sql g = true
        · obtain ⟨store, sql, hk, hsql, ha⟩ := ha
          have hmoves : Moves (.free false) _ _ :=
            moves_shelve h hl hf hb hd (.inr ⟨trivial, hp⟩) hk hsql ha
          have hover : Handover K id s _ :=
            State.handover_shelve l g sql hid hd hK hk
          have hshelve : Frame K (s.Exposed K id) s _ :=
            State.frame_shelve (l := l) (f := f) (d := d) (g := g) store sql hK
          have hk' : (s.setCore id (.facade f.shut)).caches.get? k
              = some store := hk
          have hlen : (s.setCore id (.facade f.shut)).layers.length
              = s.layers.length := State.length_setCore ..
          rw [run_park hk' hsql ha, hlen]
          cases hev : (store.park sql s.layers.length).2 with
          | none => exact hshelve
          | some e =>
              rw [hev] at hmoves
              have hr : s.Exposed K id e ∨ s.layers.length ≤ e := by
                have hmem : e ∈ s.layers.length :: store.layers := by
                  refine (store.park_perm sql s.layers.length).subset ?_
                  rw [hev]
                  exact List.mem_append_right _ (List.mem_singleton_self e)
                rcases List.mem_cons.1 hmem with rfl | hmem
                · exact .inr (Nat.le_refl _)
                · obtain ⟨⟨sql', e'⟩, he, rfl⟩ := List.mem_map.1 hmem
                  exact .inl (.inr ⟨e', ⟨k, store, sql',
                    Keyed.mem_of_get? hk, hK, he⟩, .refl⟩)
              refine hshelve.trans (hbelow.discard (hmoves.sound h)
                fun hd => (hover.confined hc hr).of_over (.single hd))
                hover.later.length_le fun hx hhit => ?_
              exact hover.exposed hr hhit hx
        · rw [run_park_refused fun store sql hk hsql => ?_]
          · exact hclose
          · refine Bool.eq_false_iff.2 fun hacc => ha ?_
            exact ⟨store, sql, hk, hsql, hacc⟩
  · obtain ⟨s', hs', hrun⟩ := run_closeDelegate_other below id l d
      (fun k g b h => hb ⟨k, g, b, h⟩) (s.setCore id (.facade f.shut))
    rw [hrun]
    exact hbelow.closeBelow h hid hd hp hcd hs'

/-- Closing a layer leaves alone what it cannot reach. -/
theorem Frames.ask (hbelow : Frames K below)
    (h : Sound ⟨s, held, out, loose⟩) (hp : id ∉ s.parked)
    (hc : s.Confined K id) :
    Frame K (s.Exposed K id) s ((Act.ask below id .close).run s).2 := by
  rw [run_ask]
  cases hl : s.layer? id with
  | none => exact .refl K _ s
  | some l =>
      have hcore := State.core_eq_of_layer? hl
      simp only
      cases hf : l.core with
      | released => exact .refl K _ s
      | native handle =>
          cases handle with
          | none => exact .refl K _ s
          | some n =>
              simp only
              rw [run_askNative_close]
              have hset := frame_setCore K s id (.native none)
              exact ⟨hset.caches, hset.layer⟩
      | facade f =>
          rw [hf] at hcore
          simp only [askFacade]
          cases hcl : f.closed with
          | true =>
              have hrun : (closeFacade below id l f).run s = (.ok .unit, s) := by
                rw [closeFacade, hcl]
                rfl
              rw [hrun]
              exact .refl K _ s
          | false =>
              have hhollow : f.closed = f.delegate.isNone :=
                h.formed.hollow hcore
              cases hd : f.delegate with
              | none =>
                  rw [hcl, hd] at hhollow
                  cases hhollow
              | some d =>
                  rw [run_closeFacade hcl hd]
                  exact hbelow.closeDelegate h hl hf hd hp hc

/-- By the level of a layer, closing touches nothing that cannot be
reached. -/
theorem frames_within (K : LinkId → Prop) (depth : Nat) :
    Frames K (within depth) := by
  have hnone : Frames K fun _ _ => throw (.closed .statement) :=
    fun {s _ _ _ id} _ _ _ => .refl K _ s
  induction depth with
  | zero => exact fun h hid hc => hnone.ask h (h.not_parked hid) hc
  | succ depth ih => exact fun h hid hc => ih.ask h (h.not_parked hid) hc

/-- A caller closes a statement. -/
theorem frame_close (h : Sound ⟨s, held, out, loose⟩) (hp : id ∉ s.parked)
    (hc : s.Confined K id) :
    Frame K (s.Exposed K id) s ((dispatch id .close).run s).2 := by
  have hrun : (dispatch id .close).run s
      = (within (s.core id).level id .close).run s := rfl
  rw [hrun]
  cases (s.core id).level with
  | zero =>
      have hnone : Frames K fun _ _ => throw (.closed .statement) :=
        fun {s _ _ _ id} _ _ _ => .refl K _ s
      exact hnone.ask h hp hc
  | succ depth => exact Frames.ask (frames_within K depth) h hp hc

end Act

end PooledChain
