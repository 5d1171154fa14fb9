/-
Using an open statement.

An operation on an open handle, other than closing it, reaches the
driver's statement at the bottom; the driver's answer comes up as it is,
apart from the rows, which every facade on the way stamps
(`run_dispatch_open`). That is so if no facade on the way answers in
place of the statement, as those of watchers can.

Besides the driver's side, an operation changes nothing but marks
(`Marks`), so nothing is to be released after it (`State.release_of_tidy`
and `Marks.tidy`), and the next operation finds the handle as this one
did.
-/
import PooledChain.Proofs.Heap.Loyal

namespace PooledChain

variable {s t : State} {held : List LayerId} {id : LayerId}
  {n : Native.StatementId} {op : StatementOp}

-- ===================================================== nothing to release

namespace State

/-- Where every layer is referred to, the walk lets all of them live. -/
theorem releaseBelow_of_tidy (ht : s.Tidy held) (hf : s.Formed)
    {k : Nat} {live : List LayerId} (hw : Walk s held k live) :
    releaseBelow k live s = s := by
  induction k generalizing live with
  | zero => rfl
  | succ id ih =>
      rw [releaseBelow_succ]
      by_cases hid : id ∈ live
      · rw [if_pos hid]
        exact ih (hw.keep hf hid)
      · have hr : s.core id = .released := by
          by_contra hlive
          rcases ht hlive with hh | hp | hd
          · exact hid (hw.of_held hh)
          · exact hid (hw.of_parked hp)
          · obtain ⟨a, ha⟩ := mem_delegates.1 hd
            have hlt := hf.older ha
            refine hid (hw.reached hlt ?_ ha)
            by_contra hna
            rw [Holds, hw.dead hlt hna] at ha
            cases ha
        rw [if_neg hid, releaseLayer_of_released hr]
        exact ih (hw.drop hid rfl (fun _ _ => rfl) hr)

/-- In a tidy state there is nothing to release. -/
theorem release_of_tidy (ht : s.Tidy held) (hf : s.Formed) :
    s.release held = s :=
  releaseBelow_of_tidy ht hf (walk_start s held)

end State

/-- A tidy state is tidy after an operation. -/
theorem Marks.tidy {g : Bool} {hit : LayerId → Prop}
    (hm : Marks g hit s t) (ht : s.Tidy held) : t.Tidy held := by
  intro a ha
  have hlive : s.core a ≠ .released := by
    intro hr
    rcases hm.core a with he | ⟨f, k, n, b, hs, -, -⟩
    · exact ha (he.trans hr)
    · rw [hr] at hs
      cases hs
  rcases ht hlive with hh | hp | hd
  · exact .inl hh
  · right; left
    rw [hm.parked]
    exact hp
  · obtain ⟨b, hb⟩ := State.mem_delegates.1 hd
    exact .inr (.inr (State.mem_delegates.2 ⟨b, hm.holds.2 hb⟩))

/-- What is a facade is one after an operation. -/
theorem Marks.facade {g : Bool} {hit : LayerId → Prop}
    (hm : Marks g hit s t) {f : Facade} (hf : s.core id = .facade f) :
    ∃ f', t.core id = .facade f' := by
  rcases hm.core id with he | ⟨f', k, n, b, -, -, ht⟩
  · exact ⟨f, he.trans hf⟩
  · exact ⟨_, ht⟩

-- ================================================== the way down and up

/-- A reply of the driver's statement when it has come up to a layer. -/
def State.rise (s : State) (id : LayerId) (r : StatementReply) :
    StatementReply :=
  match s.core id with
  | .facade _ => Act.stamp id r
  | _ => r

/-- What comes up of an answer of the driver. -/
def State.risen (s : State) (id : LayerId)
    (r : Except DriverError Native.Answer) : Except Error StatementReply :=
  (r.mapError fun e => Error.driver e.unwrapped).map fun a =>
    s.rise id (.ofNative a)

namespace Act

/-- The last stamp is the one that counts. -/
theorem stamp_rise (s : State) (a d : LayerId) (r : StatementReply) :
    stamp a (s.rise d r) = stamp a r := by
  rw [State.rise]
  split
  · cases r <;> rfl
  · rfl

/-- An operation on an open layer is one on the statement that it stands
on, and changes nothing else on the driver's side. -/
theorem run_within_open (hc : op ≠ .close) (hi : op ≠ .isClosed)
    (hf : s.Formed)
    (hw : ∀ {a f}, s.core a = .facade f → f.behaviour.isWatched = false)
    (hn : s.Stands id n) {depth : Nat} (hd : (s.core id).level ≤ depth) :
    ((within depth id op).run s).1
        = s.risen id ((Native.perform n op).run s.native).1
      ∧ ((within depth id op).run s).2.native
        = ((Native.perform n op).run s.native).2 := by
  induction hn generalizing depth with
  | @native id n hcore =>
      rw [run_within_native hcore, run_askNative hc hi, State.risen]
      simp only [State.rise, hcore, and_self]
  | @facade id d n hholds hdn ih =>
      obtain ⟨f, hcore, hdel⟩ := Core.exists_facade_of_delegate? hholds
      have hrise : ∀ r, s.rise id r = stamp id r := fun r => by
        rw [State.rise, hcore]
      have hopen : f.closed = false := hf.closed_eq_false hcore hdel
      have hlow : (s.core d).level < (s.core id).level := hf.leveled hholds
      cases depth with
      | zero => exact absurd (Nat.lt_of_lt_of_le hlow hd) (Nat.not_lt_zero _)
      | succ depth =>
          obtain ⟨hr, hnative⟩ :=
            ih (Nat.le_of_lt_succ (Nat.lt_of_lt_of_le hlow hd))
          obtain ⟨l, hl, -⟩ := State.exists_layer
            (Core.ne_released_of_facade hcore)
          obtain ⟨t, ht, hrun⟩ := run_invoke_forwards (within depth) id op
            l.sql (hw hcore) s
          have hforward : (forward (within depth) id op).run s
              = (within depth d op).run s := by
            rw [run_forward, hholds]
          rw [hforward] at ht hrun
          rw [run_within_facade hl hcore, askFacade_of_use hc hi,
            run_useFacade, hopen, if_neg Bool.false_ne_true, hrun, hr,
            ← hnative, ← ht.native, State.risen, State.risen]
          rcases ((Native.perform n op).run s.native).1 with e | a
          · obtain ⟨u, hu, -, hun, -⟩ :=
              run_report false id l.sql (.driver e.unwrapped) t
            simp only [Except.mapError, Except.map, hu]
            exact ⟨trivial, hun⟩
          · simp only [Except.mapError, Except.map, stamp_rise, hrise,
              and_self]

/-- An operation on a handle that stands on a statement is answered by the
driver's statement. -/
theorem run_dispatch_open (hc : op ≠ .close) (hi : op ≠ .isClosed)
    (hf : s.Formed)
    (hw : ∀ {a f}, s.core a = .facade f → f.behaviour.isWatched = false)
    (hn : s.Stands id n) :
    ((dispatch id op).run s).1
        = s.risen id ((Native.perform n op).run s.native).1
      ∧ ((dispatch id op).run s).2.native
        = ((Native.perform n op).run s.native).2 :=
  run_within_open hc hi hf hw hn (Nat.le_refl _)

/-- A statement says whether it is closed, and nothing changes. -/
theorem run_dispatch_isClosed (h : s.core id ≠ .released) :
    (dispatch id .isClosed).run s = (.ok (.bool (s.isClosed id)), s) := by
  obtain ⟨l, hl, hlc⟩ := State.exists_layer h
  obtain ⟨below, hbelow⟩ := exists_within (s.core id).level
  show (within (s.core id).level id .isClosed).run s = _
  rw [hbelow, run_ask, hl]
  simp only
  rw [hlc]
  cases hcore : s.core id with
  | released => exact absurd hcore h
  | native handle =>
      have hclosed : s.isClosed id = handle.isNone := by
        rw [State.isClosed, hcore, Core.level, State.closedWithin, hcore]
        rfl
      rw [hclosed]
      cases handle <;> rfl
  | facade f => rfl

end Act

-- ========================================================= whole sessions

/-- A step that asks a handle for anything but closing it leaves nothing
to release. -/
theorem Session.step_of_dispatch {s : Session} {id : LayerId}
    {op : StatementOp} {step : Step} {reply : StatementReply → Reply}
    (h : s.Sound) (hc : op ≠ .close) (hid : id ∈ s.held)
    (hact : s.quiet.act step = s.quiet.answer (Act.dispatch id op) reply) :
    s.step step = ((s.quiet.act step).1, { s.quiet with
      state := ((Act.dispatch id op).run s.quiet.state).2 }) := by
  have hquiet := sound_quiet h.scene
  obtain ⟨hmarks, -⟩ :=
    Act.marking_within (g := s.guarded) hc (s.quiet.state.core id).level id
      s.quiet.state
  have hafter : Scene.Sound
      ⟨((Act.dispatch id op).run s.quiet.state).2, s.held, none, []⟩ := by
    have hm : Moves (.free s.guarded) _
        ⟨((Act.dispatch id op).run s.quiet.state).2, s.held, none, []⟩ :=
      Act.moves_dispatch hquiet hid (fun _ => trivial) fun _ _ _ => trivial
    exact hm.sound hquiet
  -- nothing is to be released, since nothing was before
  have htidy : s.quiet.state.Tidy s.held := fun {a} ha => h.tidy ha
  have hrelease := State.release_of_tidy (hmarks.tidy htidy) hafter.formed
  have hleft : (s.quiet.act step).2
      = { s.quiet with
          state := ((Act.dispatch id op).run s.quiet.state).2 } := by
    rw [hact, answer, perform]
    rcases (Act.dispatch id op).run s.quiet.state with ⟨_ | _, t⟩ <;> rfl
  have hsettle : (s.quiet.act step).2.settle = (s.quiet.act step).2 := by
    rw [hleft]
    exact congrArg (fun t => { s.quiet with state := t }) hrelease
  show ((s.quiet.act step).1, (s.quiet.act step).2.settle) = _
  rw [hsettle, hleft]

end PooledChain
