/-
Connections that were never checked out.

The driver makes a statement for a connection on what the connection is
attached to, so while it is attached to nothing none is made, and while
none is made there are no layers (`Session.layers_step_eq_nil`). It is
attached to nothing until something is lent to it
(`Session.attached?_step`).
-/
import PooledChain.Proofs.Heap.Making
import PooledChain.Proofs.Heap.Shelter
import PooledChain.Proofs.Returns

namespace PooledChain

variable {p : Terms} {c c' : Scene}

/-- Where the driver makes no statement, the first layer is not made. -/
theorem Moves.layers_eq_nil (hm : Moves p c c') (h : c.Sound)
    (hl : c.state.layers = [])
    (hmade : c'.state.native.statements.length
      ≤ c.state.native.statements.length) : c'.state.layers = [] := by
  induction hm with
  | refl => exact hl
  | @tail b d hm hlast ih =>
      have hm : Moves p c b := hm
      have hs := hm.sound h
      have hle := hm.statements_le h
      have hle' := (Moves.single hlast).statements_le hs
      have hl := ih (Nat.le_trans hle' hmade)
      cases hlayers : d.state.layers with
      | nil => rfl
      | cons l rest =>
          have hfirst : d.state.layer? 0 = some l := by
            rw [State.layer?, hlayers]
            rfl
          cases hlast.adds (Nat.le_of_eq (by rw [hl]; rfl)) hfirst with
          | handle _ hnew _ _ =>
              have hlen := hnew.length
              omega
          | facade _ _ hout _ _ _ =>
              have hlt := State.lt_of_core (hs.owned.living (.inr
                (Scene.mem_owned.2 (.inr (.inr (.inl hout))))))
              rw [hl] at hlt
              cases hlt
          | twin hb _ _ _ _ =>
              rw [State.layer?, hl] at hb
              cases hb

namespace Session

variable {s : Session} {step : Step} {i : ConnectionId}

/-- Where there are no layers, none are made in a step that asks only a
connection that is attached to nothing. -/
theorem layers_step_eq_nil (h : s.Sound) (hord : step.isOrdinary = true)
    (hl : s.state.layers = [])
    (hnone : ∀ {i}, s.Creates step i → s.state.attached? i = none) :
    (s.step step).2.state.layers = [] := by
  have hm := (moves_step hord h.scene (suits_serving s step _)).1
  refine hm.layers_eq_nil h.scene hl (Nat.le_of_eq ?_)
  by_cases hcreates : ∃ i, s.Creates step i
  · obtain ⟨i, hi⟩ := hcreates
    obtain ⟨new, hnew, hon⟩ := (madeOn_step h hi).2.origins
    have hdriver : s.state.driver? i = none := by
      rw [State.driver?, hnone hi]
      rfl
    have hempty : new = [] := List.eq_nil_iff_forall_not_mem.2 fun o ho => by
      have := hon o ho
      rw [hdriver] at this
      cases this
    rw [hempty, List.append_nil] at hnew
    have hlen := congrArg List.length hnew
    rwa [List.length_map, List.length_map] at hlen
  · exact hm.statements_eq h.scene fun i hi => hcreates ⟨i, hi⟩

/-- Clearing up leaves the connections as they are. -/
theorem connection?_step (s : Session) (step : Step) (c : ConnectionId) :
    (s.step step).2.state.connection? c
      = (s.quiet.act step).2.state.connection? c := by
  rw [State.connection?, State.connection?]
  exact congrArg (fun cs => (cs[c]?).join) (State.connections_release _ _)

/-- What is attached to nothing stays so until it is checked out. -/
theorem attached?_step (hp : s.state.Passable i)
    (hturn : ∀ loan, s.turn? i step ≠ some (.lent loan))
    (h : s.state.attached? i = none) :
    (s.step step).2.state.attached? i = none := by
  have hquiet : s.quiet.state.Passable i := ⟨hp.known, hp.passes⟩
  have hof : ∀ {t : State}, (∀ x, t.connection? i = some x →
      x.terminal.attachment = none) → t.attached? i = none := by
    intro t ht
    rw [State.attached?, State.terminalOf]
    cases hx : t.connection? i with
    | none => rfl
    | some x =>
        show x.terminal.attachment.map _ = none
        rw [ht x hx]
        rfl
  have hbefore : ∀ x, s.state.connection? i = some x →
      x.terminal.attachment = none := by
    intro x hx
    rw [State.attached?, State.terminalOf, hx] at h
    exact Option.map_eq_none_iff.1 h
  refine hof fun x hx => ?_
  rw [connection?_step] at hx
  have hfares : Fares s.quiet i step (s.quiet.act step).2.state :=
    fares_act hquiet step
  cases hfares with
  | turned ht =>
      have hturn : ∀ loan, s.quiet.turn? i step ≠ some (.lent loan) := hturn
      rw [ht.connection?, if_pos rfl] at hx
      obtain ⟨y, hy, rfl⟩ := Option.map_eq_some_iff.1 hx
      have hnone := hbefore y hy
      generalize s.quiet.turn? i step = turn at hturn
      cases turn with
      | none => exact hnone
      | some turn =>
          cases turn with
          | lent loan => exact absurd rfl (hturn loan)
          | closed => exact hnone
          | ended => rfl
  | aside _ _ hconn =>
      rw [hconn] at hx
      exact hbefore x hx
  | dropped _ _ hgone =>
      rw [hgone] at hx
      cases hx

end Session

end PooledChain
