/-
Closing what no shelf takes.

A facade of a cache offers its delegate to the shelf when it is closed.
The shelf refuses it if the facade is broken, if it is of an earlier
generation, or if the SQL is there already. A layer under which every
offer would be refused (`State.Refused`) takes only itself apart: the
shelves stay as they are, and so does every layer that it does not lead
to (`undone_close`). The same holds of what is thrown away
(`undone_discardParked`).
-/
import PooledChain.Proofs.Heap.Release
import PooledChain.Proofs.Heap.Path

namespace PooledChain

open Scene (Sound)

variable {s t u : State} {held loose : List LayerId}
  {out : Option LayerId} {id d : LayerId} {k : LinkId}

namespace State

/-- Whether no shelf takes anything that is closed with the layer. -/
structure Refused (s : State) (id : LayerId) : Prop where
  refused : ∀ {a l f k g d store sql}, s.Over id a → s.layer? a = some l →
    l.core = .facade f → f.behaviour = .cached k g false →
    f.delegate = some d → s.caches.get? k = some store → l.sql = some sql →
    store.accepts sql g = false

/-- A state in which only layers under `id` have changed, and no shelf. -/
structure Undone (s : State) (id : LayerId) (t : State) : Prop where
  caches : t.caches = s.caches
  length : t.layers.length = s.layers.length
  layer : ∀ {x}, ¬ s.Over id x → t.layer? x = s.layer? x

namespace Undone

theorem refl (s : State) (id : LayerId) : s.Undone id s :=
  ⟨rfl, rfl, fun _ => rfl⟩

/-- What is recorded and listed meanwhile does not count. -/
theorem alike (h : s.Undone id t) (ha : t.Alike u) : s.Undone id u where
  caches := ha.caches.trans h.caches
  length := by rw [ha.layers, h.length]
  layer hx := (layer?_congr ha.layers _).trans (h.layer hx)

/-- Changing the layer itself changes no other. -/
theorem setCore (s : State) (id : LayerId) (c : Core) :
    s.Undone id (s.setCore id c) where
  caches := rfl
  length := length_setCore ..
  layer {x} hx := by
    rw [layer?_setCore, if_neg fun he => hx (by rw [he]; exact .refl)]

/-- What is done under the delegate is done under the facade. -/
theorem below (h : s.Undone id t) (hd : s.Holds id d)
    (hover : ∀ {x}, t.Over d x → s.Over d x) (hu : t.Undone d u) :
    s.Undone id u where
  caches := hu.caches.trans h.caches
  length := hu.length.trans h.length
  layer hx := (hu.layer fun ho => hx (.head hd (hover ho))).trans (h.layer hx)

/-- What callers or shelves hold besides stands where it stood. -/
theorem stands (hu : s.Undone id t) (h : Sound ⟨s, held, out, loose⟩)
    {r : LayerId} {n : Native.StatementId}
    (hid : Scene.Top ⟨s, held, out, loose⟩ id)
    (hr : Scene.Top ⟨s, held, out, loose⟩ r) (hne : r ≠ id)
    (hn : s.Stands r n) : t.Stands r n :=
  hn.congr fun _ hx => State.core_congr_layer <|
    hu.layer fun ho => hne (h.owned.top_unique hr hid hx ho)

end Undone

/-- A facade that was shut leads nowhere. -/
theorem over_of_shut {f : Facade} {a x : LayerId}
    (hid : s.core id = .facade f)
    (ha : (s.setCore id (.facade f.shut)).Alike t) (hx : t.Over a x) :
    s.Over a x := by
  refine Relation.ReflTransGen.mono (fun y z hyz => ?_) _ _ hx
  have hlive : s.core id ≠ .released := Core.ne_released_of_facade hid
  rw [Holds, core_congr ha.layers, core_setCore (lt_of_core hlive)] at hyz
  split at hyz
  · cases hyz
  · exact hyz

/-- If nothing is taken from a layer, nothing is taken from what is
under it. -/
theorem Refused.of_holds (h : s.Refused id) (hd : s.Holds id d) :
    s.Refused d :=
  ⟨fun hover => h.refused (.head hd hover)⟩

/-- Shutting the facade above does not change that. -/
theorem Refused.of_shut {f : Facade} (h : s.Refused d)
    (hs : ∀ {a d}, s.Holds a d → d < a) (hid : s.core id = .facade f)
    (hd : s.Holds id d) (ha : (s.setCore id (.facade f.shut)).Alike t) :
    t.Refused d := by
  refine ⟨fun {a l f' k g d' store sql} hover hl hf hb hd' hk hsql => ?_⟩
  have hover' : s.Over d a := over_of_shut hid ha hover
  have hlt : a < id := Nat.lt_of_le_of_lt (hover'.le hs) (hs hd)
  have hl' : s.layer? a = some l := by
    rw [layer?_congr ha.layers, layer?_setCore, if_neg (Nat.ne_of_lt hlt)]
      at hl
    exact hl
  exact h.refused hover' hl' hf hb hd' (by rw [ha.caches] at hk; exact hk)
    hsql

/-- Nothing low enough is offered to a shelf. -/
theorem refused_of_low (h : s.Formed) {bound : Nat}
    (hid : (s.core id).level ≤ bound)
    (hlow : ∀ {k store}, s.caches.get? k = some store → bound ≤ k.place) :
    s.Refused id := by
  refine ⟨fun {a l f k g d store sql} hover hl hf hb _ hk _ => ?_⟩
  have hcore : s.core a = .facade f := (core_eq_of_layer? hl).trans hf
  have hplaced : Placed (s.core a) := h.placed a
  have hlevel : f.level = k.place + 1 := hplaced hcore hb
  have hle := Nat.le_trans (hover.level_le h.leveled) hid
  rw [hcore, Core.level_facade, hlevel] at hle
  exact absurd (hlow hk) (Nat.not_le_of_lt hle)

end State

namespace Act

open State (Refused Undone)

variable {below : Below}

/-- A way to close layers that takes apart no more than it must. -/
def Yields (below : Below) : Prop :=
  ∀ {s : State} {id}, (∀ {a d}, s.Holds a d → d < a) → s.Refused id →
    s.Undone id ((below id .close).run s).2

/-- The delegate of a facade that was shut is closed. -/
theorem Yields.closeBelow (hbelow : Yields below) {f : Facade}
    (hs : ∀ {a d}, s.Holds a d → d < a) (hid : s.core id = .facade f)
    (hd : s.Holds id d) (ha : (s.setCore id (.facade f.shut)).Alike t)
    (h : s.Refused d) : s.Undone id ((Act.closeBelow below d).run t).2 := by
  have hold : ∀ {a x}, t.Holds a x → x < a := by
    intro a x hax
    refine hs ?_
    have hlive : s.core id ≠ .released := Core.ne_released_of_facade hid
    rw [State.Holds, State.core_congr ha.layers,
      State.core_setCore (State.lt_of_core hlive)] at hax
    split at hax
    · cases hax
    · exact hax
  rw [run_closeBelow]
  exact ((Undone.setCore s id _).alike ha).below hd
    (State.over_of_shut hid ha) (hbelow hold (h.of_shut hs hid hd ha))

/-- The delegate of a facade is refused, and closed if it is open. -/
theorem Yields.closeDelegate (hbelow : Yields below) {l : Layer}
    {f : Facade} (hs : ∀ {a d}, s.Holds a d → d < a)
    (h : s.Refused id) (hl : s.layer? id = some l)
    (hf : l.core = .facade f) (hd : f.delegate = some d) :
    s.Undone id ((Act.closeDelegate below id l f d).run
      (s.setCore id (.facade f.shut))).2 := by
  have hid : s.core id = .facade f := (State.core_eq_of_layer? hl).trans hf
  have hholds : s.Holds id d := .of_facade hid hd
  have hclose : ∀ {t}, (s.setCore id (.facade f.shut)).Alike t →
      s.Undone id ((Act.closeBelow below d).run t).2 := fun ha =>
    hbelow.closeBelow hs hid hholds ha (h.of_holds hholds)
  by_cases hb : ∃ k g b, f.behaviour = .cached k g b
  · obtain ⟨k, g, b, hb⟩ := hb
    rw [run_closeDelegate_cached hb]
    cases b with
    | true => exact hclose (.refl _)
    | false =>
        rw [if_neg Bool.false_ne_true]
        split
        · exact .setCore ..
        · rw [run_park_refused (s := s.setCore id (.facade f.shut))
            fun store sql hk hsql => h.refused .refl hl hf hb hd hk hsql]
          exact hclose (.refl _)
  · have hb' : ∀ k g b, f.behaviour ≠ .cached k g b := fun k g b he =>
      hb ⟨k, g, b, he⟩
    obtain ⟨t, ha, hrun⟩ := run_closeDelegate_other below id l d hb'
      (s.setCore id (.facade f.shut))
    rw [hrun]
    exact hclose ha

/-- Asking a layer to close takes apart no more than it must if asking the
layers below does not. -/
theorem Yields.ask (hbelow : Yields below) : Yields (Act.ask below) := by
  intro s id hs h
  rw [run_ask]
  cases hl : s.layer? id with
  | none => exact .refl s id
  | some l =>
      simp only
      cases hcore : l.core with
      | released => exact .refl s id
      | native handle =>
          cases handle with
          | none => exact .refl s id
          | some n =>
              simp only
              rw [run_askNative_close]
              have hset := Undone.setCore s id (.native none)
              exact ⟨hset.caches, hset.length, hset.layer⟩
      | facade f =>
          show s.Undone id ((closeFacade below id l f).run s).2
          cases hc : f.closed with
          | true =>
              rw [closeFacade, hc]
              exact .refl s id
          | false =>
              cases hd : f.delegate with
              | none =>
                  rw [closeFacade, hc, if_neg Bool.false_ne_true, run_bind,
                    run_modify, hd]
                  exact .setCore ..
              | some d =>
                  rw [run_closeFacade hc hd]
                  exact hbelow.closeDelegate hs h hl hcore hd

/-- Closing a layer takes apart no more than it must, however deep its stack
is. -/
theorem yields_within (depth : Nat) : Yields (within depth) := by
  have hnone : Yields fun _ _ => throw (.closed .statement) :=
    fun {s id} _ _ => .refl s id
  induction depth with
  | zero => exact fun hs h => hnone.ask hs h
  | succ depth ih => exact fun hs h => ih.ask hs h

/-- Closing a layer that nothing is taken from changes nothing else. -/
theorem undone_close (hs : s.Formed) (h : s.Refused id) :
    s.Undone id ((dispatch id .close).run s).2 :=
  yields_within _ hs.older h

/-- Nor does throwing away a facade that has nothing of the sort under
it. -/
theorem undone_discardParked {f : Facade} (hs : s.Formed)
    (hid : s.core id = .facade f) (hd : f.delegate = some d)
    (h : s.Refused d) : s.Undone id ((discardParked id).run s).2 := by
  obtain ⟨t, ha, hrun⟩ :=
    run_discard (within ((s.core id).level - 1)) hid
  rw [run_discardParked, hrun]
  rw [hd, Option.map_some, Option.getD_some] at ha
  have hholds : s.Holds id d := .of_facade hid hd
  have hyields : Yields (within ((s.core id).level - 1)) := yields_within _
  exact (hyields.closeBelow hs.older hid hholds (.refl _) h).alike ha

end Act

end PooledChain
