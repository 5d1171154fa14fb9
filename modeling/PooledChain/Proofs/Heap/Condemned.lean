/-
Statements that nobody gets any more.

After a permanent failure on its way up to a handle all facades of caches
over the driver's statement are broken. A shelf holds unbroken facades
only, and what a cache hands out comes from a shelf or stands on a
statement that is new; so the statement is never parked, and never on
its way up to another caller (`Condemned`). Every move keeps it so
(`Moves.condemned`).

A handle that was asked to close is closed even if the driver refuses,
and the statement given up (`Act.givesUp_within`); then nothing stands on
it.
-/
import PooledChain.Proofs.Heap.Ready

namespace PooledChain

open Scene (Sound)

variable {p : Terms} {c c' : Scene} {s t : State} {id a : LayerId}
  {n : Native.StatementId}

/-- Whether the statement `n` is at the end of its way: facades of caches
that stand on it are broken, it is not on its way up to a caller, and of
the handles that callers hold only `id` stands on it. -/
structure Scene.Condemned (c : Scene) (n : Native.StatementId)
    (id : LayerId) : Prop where
  known : n < c.state.native.statements.length
  broken : ∀ {a f k g b}, c.state.Stands a n → c.state.core a = .facade f →
    f.behaviour = .cached k g b → b = true
  out : ∀ {a}, c.out = some a → ¬ c.state.Stands a n
  held : ∀ {a}, a ∈ c.held → c.state.Stands a n → a = id

-- ================================================== kept by the moves

/-- An unbroken facade of a cache does not stand on what is condemned. -/
theorem Scene.Condemned.not_stands (hc : c.Condemned n id) {f : Facade}
    {k : LinkId} {g : Nat} (hf : c.state.core a = .facade f)
    (hb : f.behaviour = .cached k g false) : ¬ c.state.Stands a n := by
  intro hn
  have := hc.broken hn hf hb
  cases this

/-- What is condemned is on no shelf. -/
theorem Scene.Condemned.not_parked (hc : c.Condemned n id) (h : c.Sound)
    (ha : a ∈ c.state.parked) : ¬ c.state.Stands a n := by
  obtain ⟨k, store, d, -, hcore⟩ := h.stocked.core_parked ha
  exact hc.not_stands hcore rfl

/-- Nothing that is new stands on what is condemned. -/
theorem Move.not_stands_new (hm : Move p c c') (h : c.Sound)
    (hc : c.Condemned n id) (ha : c.state.layers.length ≤ a) :
    ¬ c'.state.Stands a n := by
  intro hn
  obtain ⟨l, hl, hcore⟩ := State.exists_layer hn.not_released
  -- the delegate of the new layer was in hand, or under another facade
  have hdelegate : ∀ {d}, l.core.delegate? = some d →
      c.out = some d ∨ (∃ b, c.state.Holds b d) → c.state.Stands d n := by
    intro d hd hhand
    refine hm.stands_before h hhand (hn.of_holds ?_)
    rw [State.Holds, ← hcore]
    exact hd
  cases hm.adds ha hl with
  | handle hnative _ _ _ =>
      have he := hn.unique (.native (hcore.symm.trans hnative))
      exact Nat.lt_irrefl _ (he ▸ hc.known)
  | facade hf hd hout _ _ _ _ =>
      exact hc.out hout (hdelegate (by rw [hf]; exact hd) (.inl hout))
  | @twin b l' f d k g hb hf hb' hd hl' =>
      have hcoreb : c.state.core b = .facade f :=
        (State.core_eq_of_layer? hb).trans hf
      have hholds : c.state.Holds b d := .of_facade hcoreb hd
      have hdn := hdelegate (by rw [hl']; rfl) (.inr ⟨b, hholds⟩)
      exact hc.not_stands hcoreb hb' (.facade hholds hdn)

/-- What is condemned stays condemned. -/
theorem Move.condemned (hm : Move p c c') (h : c.Sound)
    (hc : c.Condemned n id) : c'.Condemned n id := by
  have holder : ∀ {x d}, c.state.Holds x d → d < x := h.formed.older
  have hnew : ∀ {a}, c'.state.Stands a n → a < c.state.layers.length := by
    intro a ha
    by_contra hlt
    exact hm.not_stands_new h hc (Nat.le_of_not_lt hlt) ha
  have hback : ∀ {a}, c'.state.Stands a n → c.state.Stands a n := fun ha =>
    hm.later.stands holder (hnew ha) ha
  refine ⟨Nat.lt_of_lt_of_le hc.known ((Moves.single hm).statements_le h),
    fun {a f k g b} ha hf hb => ?_, fun {a} ho ha => ?_,
    fun {a} hh ha => ?_⟩
  · have hlater := hm.later.core (hnew ha)
    rw [hf] at hlater
    generalize hx : c.state.core a = x at hlater
    cases hlater with
    | facade _ _ hb' =>
        rcases hb' with hb' | ⟨k', g', x, -, he⟩
        · exact hc.broken (hback ha) hx (hb'.symm.trans hb)
        · rw [hb] at he
          cases he
          rfl
  · have hold := hback ha
    have hlt := hnew ha
    cases hm with
    | make _ _ _ _ =>
        cases ho
        exact Nat.lt_irrefl _ hlt
    | decorate _ _ _ _ _ _ _ _ =>
        cases ho
        exact Nat.lt_irrefl _ hlt
    | shift _ _ hout =>
        rcases hout ho with ho | ⟨i, hkeeps, -⟩
        · exact hc.out ho hold
        · exact hc.not_parked h hkeeps.mem_parked hold
    | give => cases ho
    | _ => exact hc.out ho hold
  · have hold := hback ha
    cases hm with
    | give =>
        rcases List.mem_cons.1 hh with rfl | hh
        · exact absurd hold (hc.out rfl)
        · exact hc.held hh hold
    | letDown hsub => exact hc.held (hsub hh) hold
    | _ => exact hc.held hh hold

/-- A statement that is at the end of its way stays there. -/
theorem Moves.condemned (hm : Moves p c c') (h : c.Sound)
    (hc : c.Condemned n id) : c'.Condemned n id :=
  hm.invariant h hc fun hs hmove hc => hmove.condemned hs hc

-- ==================================================== how it comes about

/-- A layer on the statement of a stack belongs to the stack. -/
theorem Scene.Sound.over_of_stands (h : c.Sound) (hid : c.Top id)
    (hn : c.state.Stands id n) (ha : c.state.Stands a n) :
    c.state.Over id a := by
  obtain ⟨x, hx, hxn⟩ := hn.exists_native
  obtain ⟨y, hy, hyn⟩ := ha.exists_native
  have hhandle : ∀ {z}, c.state.core z = .native (some n) →
      (c.state.core z).handle? = some n := by
    intro z hz
    rw [hz]
    rfl
  have hxy : x = y := State.eq_of_gather_nodup (g := Core.handle?)
    h.backed.once rfl (hhandle hxn) (hhandle hyn)
  subst hxy
  rcases h.owned.over_total hx hy with hover | hover
  · exact hover
  · rw [h.owned.eq_of_over hid hover]
    exact .refl

namespace Act

variable {held loose : List LayerId} {op : StatementOp} {e : Error}

/-- A permanent failure of a handle condemns its statement. -/
theorem condemned_of_fails (h : Sound ⟨s, held, none, loose⟩)
    (hid : id ∈ held) (hn : s.Stands id n) (hop : op ≠ .close)
    (hr : (dispatch id op).run s = (.error e, t))
    (he : e.isPermanent = true) :
    Scene.Condemned ⟨t, held, none, loose⟩ n id := by
  have hmark : Marking false s id (.error e, t) := by
    rw [← hr]
    exact marking_within hop (s.core id).level id s
  have hlength : t.native.statements.length = s.native.statements.length :=
    hmark.marks.native.length
  have hopen : s.native.HasOpen n := by
    obtain ⟨x, -, hx⟩ := hn.exists_native
    exact h.mem_handles hx
  have hover : ∀ {a}, t.Stands a n → s.Over id a := fun ha =>
    h.over_of_stands (.inl hid) hn (hmark.marks.stands.1 ha)
  refine ⟨?_, fun {a f k g b} ha hf hb => ?_, (fun ho => by cases ho),
    fun {a} hh ha => ?_⟩
  · show n < t.native.statements.length
    rw [hlength]
    exact hopen.lt
  · have hcore := hmark.marks.core a
    rcases hcore with hsame | ⟨f', k', g', b', hs, hb', ht⟩
    · have hs : s.core a = .facade f := hsame.symm.trans hf
      have hbroken := hmark.broken rfl he (hover ha) hs hb
      rw [hf] at hbroken
      injection hbroken with hbroken
      rw [hbroken] at hb
      cases hb
      rfl
    · rw [hf] at ht
      injection ht with ht
      rw [ht] at hb
      cases hb
      rfl
  · exact (h.owned.eq_of_over (.inl hh) (hover ha)).symm

/-- Closing a facade fails only if closing its delegate does. -/
theorem closeDelegate_fails {below : Below} {l : Layer} {f : Facade}
    {d : LayerId} (hr : (closeDelegate below id l f d).run s = (.error e, t)) :
    ∃ s', s.Alike s' ∧ (below d .close).run s' = (.error e, t) := by
  have hbelow : ∀ {s'}, (closeBelow below d).run s' = (.error e, t) →
      (below d .close).run s' = (.error e, t) := by
    intro s' hrun
    rw [run_closeBelow] at hrun
    rcases hd : (below d .close).run s' with ⟨e' | r, u⟩
    · rw [hd] at hrun
      cases hrun
      rfl
    · rw [hd] at hrun
      cases hrun
  by_cases hb : ∃ k g b, f.behaviour = .cached k g b
  · obtain ⟨k, g, b, hb⟩ := hb
    rw [run_closeDelegate_cached hb] at hr
    cases b with
    | true => exact ⟨s, .refl s, hbelow hr⟩
    | false =>
        rw [if_neg Bool.false_ne_true] at hr
        split at hr
        · cases hr
        · by_cases ha : ∃ store sql, s.caches.get? k = some store
              ∧ l.sql = some sql ∧ store.accepts sql g = true
          · -- what a shelf has no room for is thrown away, come what may
            obtain ⟨store, sql, hk, hsql, ha⟩ := ha
            rw [run_park hk hsql ha] at hr
            cases hev : (store.park sql s.layers.length).2 with
            | none =>
                rw [hev] at hr
                cases hr
            | some x =>
                rw [hev] at hr
                simp only at hr
                obtain ⟨u, hu⟩ := run_discard_ok below x
                  (s.shelve k store sql (l.twin f.level k g d))
                rw [hu] at hr
                cases hr
          · rw [run_park_refused fun store sql hk hsql => ?_] at hr
            · exact ⟨s, .refl s, hbelow hr⟩
            · refine Bool.eq_false_iff.2 fun hacc => ha ?_
              exact ⟨store, sql, hk, hsql, hacc⟩
  · obtain ⟨s', hs', hrun⟩ := run_closeDelegate_other below id l d
      (fun k g b h => hb ⟨k, g, b, h⟩) s
    rw [hrun] at hr
    exact ⟨s', hs', hbelow hr⟩

/-- Where closing fails for good, the statement at the bottom was given
up. -/
def GivesUp (below : Below) : Prop :=
  ∀ {s t id n e}, (∀ {a d}, s.Holds a d → d < a) → s.Stands id n →
    (below id .close).run s = (.error e, t) → e.isPermanent = true →
    ¬ t.native.HasOpen n

/-- A layer whose closing fails for good has given up what is below, if the
layers below do so. -/
theorem GivesUp.ask {below : Below} (hbelow : GivesUp below) :
    GivesUp (Act.ask below) := by
  intro s t id n e hs hn hr he
  rw [run_ask] at hr
  cases hl : s.layer? id with
  | none =>
      rw [hl] at hr
      cases hr
      cases he
  | some l =>
      have hcore := State.core_eq_of_layer? hl
      rw [hl] at hr
      simp only at hr
      cases hn with
      | native hid =>
          rw [← hcore, hid] at hr
          simp only at hr
          rw [run_askNative_close] at hr
          have ht := (congrArg Prod.snd hr).symm
          simp only at ht
          rw [ht]
          exact Native.not_hasOpen_dispose n s.native
      | @facade _ d _ hd hdn =>
          obtain ⟨f, hf, hdel⟩ := Core.exists_facade_of_delegate? hd
          rw [← hcore, hf] at hr
          simp only at hr
          have hclose : (closeFacade below id l f).run s = (.error e, t) := hr
          by_cases hc : f.closed = true
          · unfold closeFacade at hclose
            rw [if_pos hc] at hclose
            cases hclose
          · rw [run_closeFacade (Bool.eq_false_iff.2 hc) hdel] at hclose
            rcases hdel' : (closeDelegate below id l f d).run
              (s.setCore id (.facade f.shut)) with ⟨e' | r, u⟩
            · rw [hdel'] at hclose
              cases hclose
              obtain ⟨s', hs', hrun⟩ := closeDelegate_fails hdel'
              -- what is under the delegate has not been touched
              have hcore' : ∀ {x}, x ≠ id → s'.core x = s.core x := by
                intro x hx
                rw [State.core_congr hs'.layers,
                  State.core_setCore_of_ne hx]
              have hlt := hs hd
              refine hbelow (fun {x y} hxy => hs ?_) (hdn.congr fun x hx => ?_)
                hrun he
              · by_cases hx : x = id
                · subst hx
                  rw [State.Holds, State.core_congr hs'.layers,
                    State.core_setCore (State.lt_of_core
                      (Core.ne_released_of_facade hf)),
                    if_pos rfl] at hxy
                  cases hxy
                · rw [State.Holds, hcore' hx] at hxy
                  exact hxy
              · have hle := hx.le hs
                exact hcore' (Nat.ne_of_lt (Nat.lt_of_le_of_lt hle hlt))
            · rw [hdel'] at hclose
              cases hclose

/-- By the level of a layer, so it is for all of them. -/
theorem givesUp_within (depth : Nat) : GivesUp (within depth) := by
  induction depth with
  | zero =>
      apply GivesUp.ask
      intro s t id n e _ _ hr he
      cases hr
      cases he
  | succ depth ih => exact ih.ask

/-- A permanent failure of a handle, whatever it was asked, condemns its
statement. -/
theorem condemned_of_dispatch (h : Sound ⟨s, held, none, loose⟩)
    (hid : id ∈ held) (hn : s.Stands id n)
    (hr : (dispatch id op).run s = (.error e, t))
    (he : e.isPermanent = true) :
    Scene.Condemned ⟨t, held, none, loose⟩ n id := by
  by_cases hop : op = .close
  · subst hop
    have hm : Moves (.free false) ⟨s, held, none, loose⟩
        ⟨((dispatch id .close).run s).2, held, none, loose⟩ :=
      moves_close h trivial (not_parked_of_held h hid .refl)
    rw [hr] at hm
    have hgone : ¬ t.native.HasOpen n :=
      givesUp_within (s.core id).level h.formed.older hn hr he
    have hnone : ∀ {a}, ¬ t.Stands a n := fun ha => by
      obtain ⟨x, -, hx⟩ := ha.exists_native
      exact hgone ((hm.sound h).mem_handles hx)
    have hopen : s.native.HasOpen n := by
      obtain ⟨x, -, hx⟩ := hn.exists_native
      exact h.mem_handles hx
    exact ⟨Nat.lt_of_lt_of_le hopen.lt (hm.statements_le h),
      fun ha _ _ => absurd ha hnone, fun _ => hnone,
      fun _ ha => absurd ha hnone⟩
  · exact condemned_of_fails h hid hn hop hr he

end Act

end PooledChain
