/-
What fails on an open statement.

An operation that gets down to the driver fails there or not at all: the
facades on the way add no failure of their own and pass on what comes up
(`run_dispatch_failed`). For operations other than closing this is so
because each is one call of the driver (`run_dispatch_open`). Closing is
another matter: every facade on the way is shut and lets go of its
delegate, trackers and counters take note, and a cache may end the way by
parking what is left. But whoever parks does not fail, whatever is thrown
away for it, and nothing of all that calls the driver; so a failure comes
from the handle at the bottom, and that was asked in the driver's state in
which the caller asked (`run_within_close_failed`, by induction on the
levels that are left).
-/
import PooledChain.Proofs.Heap.Dead

namespace PooledChain

variable {s t u : State} {id d x : LayerId} {n : Native.StatementId}
  {op : StatementOp} {e : Error}

/-- Whether `e` is what disposing of the driver's statement `n` fails with
in the state `s`, and the driver is left in `t` as it is by that. -/
structure State.FailsToDispose (s : State) (n : Native.StatementId)
    (e : Error) (t : State) : Prop where
  answer : ((Act.native (Native.dispose n)).run s).1 = .error e
  native : t.native = ((Act.native (Native.dispose n)).run s).2.native

/-- It is a matter of the driver's side. -/
theorem State.FailsToDispose.congr (h : t.FailsToDispose n e u)
    (hn : t.native = s.native) : s.FailsToDispose n e u := by
  obtain ⟨hanswer, hnative⟩ := h
  rw [Act.run_native, hn] at hanswer hnative
  exact ⟨hanswer, hnative⟩

namespace Act

-- ============================================================== closing

/-- If closing a facade fails, closing its delegate has failed. -/
theorem run_closeDelegate_failed {below : Below} {l : Layer} {f : Facade}
    (h : (closeDelegate below id l f d).run s = (.error e, t)) :
    ∃ s', s.Alike s' ∧ (below d .close).run s' = (.error e, t) := by
  have hbelow : ∀ {s'}, (closeBelow below d).run s' = (.error e, t) →
      (below d .close).run s' = (.error e, t) := by
    intro s' hr
    rw [run_closeBelow] at hr
    rcases hb : (below d .close).run s' with ⟨e' | r, t'⟩
    · rw [hb] at hr
      cases hr
      rfl
    · rw [hb] at hr
      cases hr
  by_cases hb : ∃ k g b, f.behaviour = .cached k g b
  · obtain ⟨k, g, b, hb⟩ := hb
    rw [run_closeDelegate_cached hb] at h
    cases b with
    | true => exact ⟨s, .refl s, hbelow h⟩
    | false =>
        simp only [Bool.false_eq_true, if_false] at h
        split at h
        · cases h
        · by_cases ha : ∃ store sql, s.caches.get? k = some store
              ∧ l.sql = some sql ∧ store.accepts sql g = true
          · -- who parks does not fail
            obtain ⟨store, sql, hk, hsql, ha⟩ := ha
            rw [run_park hk hsql ha] at h
            split at h
            · next evicted _ =>
              obtain ⟨v, hv⟩ := run_discard_ok below evicted
                (s.shelve k store sql (l.twin f.level k g d))
              rw [hv] at h
              cases h
            · cases h
          · rw [run_park_refused fun store sql hk hsql => ?_] at h
            · exact ⟨s, .refl s, hbelow h⟩
            · exact Bool.eq_false_iff.2 fun hacc =>
                ha ⟨store, sql, hk, hsql, hacc⟩
  · obtain ⟨s', hs', hrun⟩ := run_closeDelegate_other below id l d
      (fun k g b he => hb ⟨k, g, b, he⟩) s
    rw [hrun] at h
    exact ⟨s', hs', hbelow h⟩

/-- If closing an open layer fails, then at the handle at the bottom,
given that this is so for what is under the layer. -/
theorem ask_close_failed {below : Below} (hw : s.Whole)
    (hn : s.Stands id n) (hr : (ask below id .close).run s = (.error e, t))
    (hbelow : ∀ {d u}, s.Holds id d → u.Whole → u.core d = s.core d →
      u.Stands d n → (below d .close).run u = (.error e, t) →
      u.FailsToDispose n e t) : s.FailsToDispose n e t := by
  obtain ⟨l, hl, hlc⟩ := State.exists_layer hn.not_released
  rw [run_ask, hl] at hr
  simp only at hr
  rw [hlc] at hr
  cases hn with
  | native hcore =>
      rw [hcore] at hr
      simp only at hr
      rw [run_askNative_close] at hr
      rcases hd : (Native.dispose n).run s.native with ⟨e' | _, v⟩
      · rw [hd] at hr
        cases hr
        exact ⟨by rw [run_native, hd]; rfl, by rw [run_native, hd]⟩
      · rw [hd] at hr
        cases hr
  | @facade _ d _ hholds hdn =>
      obtain ⟨f, hcore, hdel⟩ := Core.exists_facade_of_delegate? hholds
      have hopen : f.closed = false :=
        hw.formed.closed_eq_false hcore hdel
      rw [hcore] at hr
      simp only [askFacade] at hr
      rw [run_closeFacade hopen hdel] at hr
      have hfailed : (closeDelegate below id l f d).run
          (s.setCore id (.facade f.shut)) = (.error e, t) := by
        rcases hc : (closeDelegate below id l f d).run
          (s.setCore id (.facade f.shut)) with ⟨e' | _, v⟩
        · rw [hc] at hr
          cases hr
          rfl
        · rw [hc] at hr
          cases hr
      obtain ⟨s', hs', hclose⟩ := run_closeDelegate_failed hfailed
      -- shutting the facade touches nothing under it
      have hunder : ∀ x, s.Over d x → s'.core x = s.core x := by
        intro x hx
        have hlow : x < id := Nat.lt_of_le_of_lt (hx.le hw.formed.older)
          (hw.formed.older hholds)
        rw [State.core_congr hs'.layers,
          State.core_setCore_of_ne (Nat.ne_of_lt hlow)]
      have hrest := hbelow hholds ((hw.shut hcore).congr hs'.layers)
        (hunder d .refl) (hdn.congr hunder) hclose
      exact hrest.congr hs'.native

/-- If closing an open layer fails, then at the handle at the bottom. -/
theorem run_within_close_failed (hw : s.Whole) (hn : s.Stands id n)
    {depth : Nat} (hd : (s.core id).level ≤ depth)
    (hr : (within depth id .close).run s = (.error e, t)) :
    s.FailsToDispose n e t := by
  induction depth generalizing s id with
  | zero =>
      refine ask_close_failed hw hn hr fun {d u} hh _ _ _ _ => ?_
      have hlow := hw.formed.leveled hh
      exact absurd (Nat.lt_of_lt_of_le hlow hd) (Nat.not_lt_zero _)
  | succ depth ih =>
      refine ask_close_failed hw hn hr fun {d u} hh hu hsame hdn hclose =>
        ih hu hdn ?_ hclose
      rw [hsame]
      exact Nat.le_of_lt_succ (Nat.lt_of_lt_of_le (hw.formed.leveled hh) hd)

/-- What fails to be disposed of, fails so for whoever has the handle. -/
theorem run_dispatch_native_failed (hx : s.core x = .native (some n))
    (h : s.FailsToDispose n e t) :
    ∃ u, (dispatch x .close).run s = (.error e, u) ∧ t.native = u.native := by
  obtain ⟨hanswer, hnative⟩ := h
  have hrun : (dispatch x .close).run s
      = (askNative x (some n) .close).run s :=
    run_within_native hx (s.core x).level .close
  refine ⟨((dispatch x .close).run s).2, Prod.ext ?_ rfl, ?_⟩
  · rw [hrun, run_askNative_close]
    exact congrArg (Except.map fun _ => StatementReply.unit) hanswer
  · rw [hrun, run_askNative_close]
    exact hnative

-- ======================================================= any operation

/-- The facades on the way let a failure pass. -/
theorem risen_eq_error {r : Except DriverError Native.Answer}
    (h : s.risen id r = .error e) (x : LayerId) : s.risen x r = .error e := by
  cases r with
  | error e' => exact h
  | ok a => cases h

/-- An operation on an open layer fails as it fails on the handle at the
bottom, and does no more to the driver than it does there. -/
theorem run_dispatch_failed (hs : s.Whole)
    (hw : ∀ {a f}, s.core a = .facade f → f.behaviour.isWatched = false)
    (hn : s.Stands id n) (hr : (dispatch id op).run s = (.error e, t)) :
    ∃ x, s.Over id x ∧ s.core x = .native (some n)
      ∧ ∃ u, (dispatch x op).run s = (.error e, u) ∧ t.native = u.native := by
  obtain ⟨x, hover, hx⟩ := hn.exists_native
  refine ⟨x, hover, hx, ?_⟩
  by_cases hc : op = .close
  · subst hc
    have hfails : s.FailsToDispose n e t :=
      run_within_close_failed hs hn (Nat.le_refl _) hr
    exact run_dispatch_native_failed hx hfails
  by_cases hi : op = .isClosed
  · subst hi
    rw [run_dispatch_isClosed hn.not_released] at hr
    cases hr
  · obtain ⟨hanswer, hnative⟩ := run_dispatch_open hc hi hs.formed hw hn
    obtain ⟨hanswer', hnative'⟩ :=
      run_dispatch_open hc hi hs.formed hw (.native hx)
    rw [hr] at hanswer hnative
    rw [risen_eq_error hanswer.symm x] at hanswer'
    exact ⟨((dispatch x op).run s).2, Prod.ext hanswer' rfl,
      hnative.trans hnative'.symm⟩

end Act

end PooledChain
