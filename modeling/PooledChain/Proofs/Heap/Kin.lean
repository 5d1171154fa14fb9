/-
For which connection a layer was made.

A layer bears the connection that it was made on. A handle has it from the
terminal that put it around the driver's statement, a facade from the link
that put it around what came up, and the facade that takes the place of
one that was closed has it from that one. What comes up to a link was made
for the connection of the link, even if it comes from a shelf, since
caches keep to their connection. So every open layer bears the connection
that the statement under it was made for (`State.Kindred`), and a handle
that a caller gets bears the connection that was asked.
-/
import PooledChain.Proofs.Heap.Filed

namespace PooledChain

variable {p : Terms} {c c' : Scene}

/-- Whether every open layer bears the connection that the statement under
it was made for. -/
structure State.Kindred (s : State) : Prop where
  bears : ∀ {a l n}, s.layer? a = some l → s.Stands a n →
    ∃ i, l.connection = some i ∧ s.MadeFor i n

/-- A new layer has its connection from the link that made it, or from the
facade that it replaces. -/
theorem Move.kindred (hm : Move p c c') (h : c.Sound) (hh : c.Homed p)
    (hk : c.state.Kindred) : c'.state.Kindred := by
  refine ⟨fun {a l n} hl hn => ?_⟩
  by_cases ha : a < c.state.layers.length
  · obtain ⟨old, hold⟩ : ∃ old, c.state.layer? a = some old :=
      ⟨_, List.getElem?_eq_getElem ha⟩
    have hbefore := hm.later.stands h.formed.older ha hn
    obtain ⟨i, hi, hmade⟩ := hk.bears hold hbefore
    obtain ⟨l', hl', hlater⟩ := hm.later.layer hold
    obtain rfl : l = l' := Option.some.inj (hl.symm.trans hl')
    exact ⟨i, hlater.connection.trans hi, hm.madeFor h hbefore hmade hn⟩
  · have hcore := State.core_eq_of_layer? hl
    cases hm.adds (Nat.le_of_not_lt ha) hl with
    | @handle i hnative _ hi _ =>
        obtain rfl := hn.unique (.native (hcore.trans hnative))
        exact ⟨i, hi, a, l, hl, hnative, hi⟩
    | @facade f d hf hd hout _ _ hof =>
        obtain ⟨i, hi, hcreates⟩ := hof
        have hholds : c'.state.Holds a d := by
          rw [State.Holds, hcore, hf]
          exact hd
        have hbefore := hm.stands_before h (.inl hout) (hn.of_holds hholds)
        exact ⟨i, hi, hm.madeFor h hbefore
          (hh.rising hout hcreates hbefore) hn⟩
    | @twin b old f d k g hb hf _ hd hl' =>
        have hholds : c'.state.Holds a d := by
          rw [State.Holds, hcore, hl']
          rfl
        have hover : c.state.Holds b d := by
          rw [State.Holds, State.core_eq_of_layer? hb, hf]
          exact hd
        have hbefore := hm.stands_before h (.inr ⟨b, hover⟩)
          (hn.of_holds hholds)
        obtain ⟨i, hi, hmade⟩ := hk.bears hb (.facade hover hbefore)
        refine ⟨i, ?_, hm.madeFor h hbefore hmade hn⟩
        rw [hl']
        exact hi

theorem Moves.kindred (hm : Moves p c c') (h : c.Sound) (hp : p.Serves)
    (hh : c.Homed p) (hk : c.state.Kindred) : c'.state.Kindred :=
  (hm.invariant (I := fun c => c.Homed p ∧ c.state.Kindred) h ⟨hh, hk⟩
    fun hs hmove hi =>
      ⟨hmove.homed hs hp hi.1, hmove.kindred hs hi.1 hi.2⟩).2

-- ============================================================= sessions

namespace Session

variable {s : Session} {step : Step}

/-- In a step layers are made for the connection that their statements were
made for. -/
theorem kindred_step (h : s.Sound) (hord : step.isOrdinary = true)
    (hh : s.state.Homed) (hk : s.state.Kindred) :
    (s.step step).2.state.Kindred := by
  obtain ⟨hm, -⟩ := moves_step hord h.scene (suits_serving s step _)
  exact hm.kindred h.scene (serves_serving s step)
    ⟨hh.facade, fun h => by cases h⟩ hk

/-- Through a whole run every layer bears the connection that its statement
was made for. -/
theorem kindred_run (h : s.Sound) {steps : List Step}
    (hord : ∀ step ∈ steps, step.isOrdinary = true) (hh : s.state.Homed)
    (hk : s.state.Kindred) : (s.run steps).state.Kindred := by
  induction steps generalizing s with
  | nil => exact hk
  | cons step steps ih =>
      have hstep := hord step List.mem_cons_self
      rw [run_cons]
      exact ih (h.step hstep)
        (fun st hst => hord st (List.mem_cons_of_mem _ hst))
        (homed_step h hstep hh) (kindred_step h hstep hh hk)

/-- At the start there are no layers. -/
theorem kindred_start (links : List Link) (guarded checkedOut : Bool) :
    (start links guarded checkedOut).state.Kindred where
  bears ha _ := by
    have hlayers : (start links guarded checkedOut).state.layers = [] :=
      (moves_start (p := .free guarded) rfl trivial trivial checkedOut).2
    rw [State.layer?, hlayers] at ha
    cases ha

end Session

end PooledChain
