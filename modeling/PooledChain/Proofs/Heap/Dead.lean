/-
What can be done with a dead statement: one that stands on nothing.

A layer is dead once nothing under it leads to a statement of the
driver, for whatever reason: the layer was closed itself, a tracker
closed it, or one below it was taken from it. Any operation on it but
closing fails before it reaches anything and leaves all as it was
(`run_within_dead`). Closing it takes apart what is left of its stack,
and that is dead too; so what is open does not notice
(`State.Unnoticed`, `exists_close_dead`).
-/
import PooledChain.Proofs.Heap.Use

namespace PooledChain

variable {s t u : State} {id d : LayerId} {n : Native.StatementId}
  {op : StatementOp}

namespace State

/-- Whether a layer stands on nothing. -/
def Dead (s : State) (id : LayerId) : Prop := ∀ n, ¬ s.Stands id n

/-- A handle says that it is closed exactly if it is dead. -/
theorem isClosed_eq_true_iff (hf : s.Formed) :
    s.isClosed id = true ↔ s.Dead id := by
  rw [← Bool.not_eq_false, isClosed_eq_false_iff hf.leveled hf.hollow,
    not_exists, Dead]

/-- What is under a dead layer is dead. -/
theorem Dead.of_holds (h : s.Dead id) (hd : s.Holds id d) : s.Dead d :=
  fun n hn => h n (.facade hd hn)

/-- Whether nothing changed that an open layer could notice: layers were
taken apart at most that were dead. -/
structure Unnoticed (s t : State) : Prop where
  native : t.native = s.native
  caches : t.caches = s.caches
  later : s.Later t
  length : t.layers.length = s.layers.length
  core : ∀ {a n}, s.Stands a n → t.core a = s.core a

namespace Unnoticed

theorem refl (s : State) : s.Unnoticed s :=
  ⟨rfl, rfl, .refl s, rfl, fun _ => rfl⟩

theorem of_alike (h : s.Alike t) : s.Unnoticed t :=
  ⟨h.native, h.caches, .of_layers h.layers, by rw [h.layers],
    fun _ => core_congr h.layers _⟩

/-- What is open stays so. -/
theorem stands (h : s.Unnoticed t) {a : LayerId} (hn : s.Stands a n) :
    t.Stands a n :=
  hn.congr fun _ hx => h.core (hn.of_over hx)

/-- A layer stands on what it stood on. -/
theorem stands_iff (h : s.Unnoticed t) (hf : s.Formed) {a : LayerId} :
    t.Stands a n ↔ s.Stands a n := by
  refine ⟨fun hn => ?_, h.stands⟩
  have hlt := lt_of_core hn.not_released
  rw [h.length] at hlt
  exact h.later.stands hf.older hlt hn

theorem trans (h₁ : s.Unnoticed t) (h₂ : t.Unnoticed u) : s.Unnoticed u where
  native := h₂.native.trans h₁.native
  caches := h₂.caches.trans h₁.caches
  later := h₁.later.trans h₂.later
  length := h₂.length.trans h₁.length
  core hn := (h₂.core (h₁.stands hn)).trans (h₁.core hn)

/-- A facade that is dead is closed. -/
theorem shut {f : Facade} (hid : s.core id = .facade f) (hdead : s.Dead id) :
    s.Unnoticed (s.setCore id (.facade f.shut)) where
  native := rfl
  caches := rfl
  later := .shut hid
  length := length_setCore ..
  core {a n} hn := by
    refine core_setCore_of_ne (fun he => ?_) _
    exact hdead n (he ▸ hn)

/-- What is open is answered as before. -/
theorem isClosed_eq (h : s.Unnoticed t) (hs : s.Formed) (ht : t.Formed)
    (a : LayerId) : t.isClosed a = s.isClosed a := by
  rw [Bool.eq_iff_iff, isClosed_eq_true_iff ht, isClosed_eq_true_iff hs]
  exact forall_congr' fun n => not_congr (h.stands_iff hs)

/-- If everything was referred to, then every open handle has a root
still. -/
theorem rooted (h : s.Unnoticed t) (hf : s.Formed) {held : List LayerId}
    (htidy : s.Tidy held) : t.Rooted held := by
  intro x m hx
  have hm : s.Stands x m := (h.stands_iff hf).1 (.native hx)
  obtain ⟨r, hr, hover⟩ := htidy.exists_root hm.not_released hf
  refine ⟨r, ?_, hover.congr fun y hy => h.core ((hm.over hover).of_over hy)⟩
  rw [parked_eq, h.caches, ← parked_eq]
  exact hr

/-- Clearing up after what nobody noticed is not noticed either. -/
theorem release (h : s.Unnoticed t) {held : List LayerId}
    (htidy : s.Tidy held) (hs : s.Formed)
    (ht : Scene.Sound ⟨t, held, none, []⟩) :
    s.Unnoticed (t.release held) where
  native := (native_release ht.formed (h.rooted hs htidy)).trans h.native
  caches := (caches_release t held).trans h.caches
  later := by
    have hm : Moves (.free false) ⟨t, held, none, []⟩ _ := (moves_release ht).1
    exact h.later.trans hm.later
  length := (length_release t held).trans h.length
  core {a n} hn := by
    obtain ⟨x, hax, hx⟩ := hn.exists_native
    have hsame : ∀ y, s.Over a y → t.core y = s.core y :=
      fun y hy => h.core (hn.of_over hy)
    obtain ⟨r, hr, hover⟩ := htidy.exists_root hn.not_released hs
    have hra : t.Over r a :=
      hover.congr fun y hy => h.core ((hn.over hover).of_over hy)
    have hroot : r ∈ held ∨ r ∈ t.parked := by
      rw [parked_eq, h.caches, ← parked_eq]
      exact hr
    rw [core_release_of_root ht.formed hroot hra, hsame a .refl]

end Unnoticed

/-- What a dead stack is like: it is well-formed, and what is a delegate
is there. -/
structure Whole (s : State) : Prop where
  formed : s.Formed
  living : ∀ {a d}, s.Holds a d → s.core d ≠ .released

theorem Whole.congr (h : s.Whole) (hl : t.layers = s.layers) : t.Whole where
  formed := h.formed.congr hl
  living {a d} hd := by
    rw [Holds, core_congr hl] at hd
    rw [core_congr hl]
    exact h.living hd

/-- A facade that is closed leaves the stacks whole. -/
theorem Whole.shut (h : s.Whole) {f : Facade}
    (hid : s.core id = .facade f) :
    (s.setCore id (.facade f.shut)).Whole := by
  have hlive : s.core id ≠ .released := Core.ne_released_of_facade hid
  have hcore := core_setCore (lt_of_core hlive) (.facade f.shut)
  refine ⟨h.formed.setCore hlive (fun hd => by cases hd) ?_ ?_ ?_,
    fun {a d} hd => ?_⟩
  · rw [hid]
    exact Nat.le_refl _
  · intro f' he
    cases he
    rfl
  · intro f' k g b he hb
    cases he
    have hplaced : Placed (s.core id) := h.formed.placed id
    exact (hplaced hid hb : f.level = k.place + 1)
  · rw [Holds, hcore] at hd
    split at hd
    · cases hd
    · rw [hcore]
      split
      · exact fun he => by cases he
      · exact h.living hd

end State

/-- In a sound scene stacks are whole. -/
theorem Scene.Sound.whole {held loose : List LayerId} {out : Option LayerId}
    (h : Scene.Sound ⟨s, held, out, loose⟩) : s.Whole where
  formed := h.formed
  living hd := h.owned.living (.inr (Scene.mem_owned.2
    (.inl (State.mem_delegates.2 ⟨_, hd⟩))))

namespace Act

-- ============================================================ using it

/-- What fails below an open facade that nobody watches fails above
it. -/
theorem run_invoke_of_error {below : Below} {own : Option String}
    {b : Behaviour} {e : Error} (hb : b.isWatched = false)
    (h : (forward below id op).run s = (.error e, s)) :
    (invoke below id own b op).run s = (.error e, s) := by
  cases b with
  | recording table config =>
      show (timed below id own table config op).run s = _
      unfold timed
      split
      · rw [run_bind, run_get]
        exact run_bind_error _ h
      · exact h
  | watched label answered => cases hb
  | plain | cached | tracked | counting => exact h

/-- A failure that is not for good leaves a facade that nobody watches as
it was. -/
theorem run_report_of_not_permanent {f : Facade} {e : Error}
    (hid : s.core id = .facade f) (hw : f.behaviour.isWatched = false)
    (he : e.isPermanent = false) (own : Option String) :
    (report id own e).run s = (.ok (), s) := by
  unfold report
  rw [run_bind, run_get]
  simp only [State.facade?_eq_some.2 hid]
  cases hb : f.behaviour with
  | cached k g b => rw [he]; rfl
  | watched label answered =>
      rw [hb] at hw
      cases hw
  | plain | tracked | recording | counting => rfl

/-- An operation on a dead layer fails and leaves everything as it
was. -/
theorem run_within_dead (hc : op ≠ .close) (hi : op ≠ .isClosed)
    (hf : s.Formed)
    (hw : ∀ {a f}, s.core a = .facade f → f.behaviour.isWatched = false)
    (hdead : s.Dead id) {depth : Nat} (hd : (s.core id).level ≤ depth) :
    (within depth id op).run s = (.error (.closed .statement), s) := by
  have hask : ∀ {below : Below} {id : LayerId}, s.Dead id →
      (∀ d, s.Holds id d →
        (below d op).run s = (.error (.closed .statement), s)) →
      (ask below id op).run s = (.error (.closed .statement), s) := by
    intro below id hdead hbelow
    rw [run_ask]
    cases hl : s.layer? id with
    | none => rfl
    | some l =>
        have hcore := State.core_eq_of_layer? hl
        simp only
        cases hlc : l.core with
        | released => rfl
        | native handle =>
            rw [hlc] at hcore
            cases handle with
            | some n => exact absurd (.native hcore) (hdead n)
            | none =>
                cases op with
                | close => exact absurd rfl hc
                | isClosed => exact absurd rfl hi
                | _ => rfl
        | facade f =>
            rw [hlc] at hcore
            have hforward : (forward below id op).run s
                = (.error (.closed .statement), s) := by
              rw [run_forward]
              split
              · next d hd => exact hbelow d hd
              · rfl
            simp only
            rw [askFacade_of_use hc hi, run_useFacade]
            split
            · rfl
            · rw [run_invoke_of_error (hw hcore) hforward]
              simp only
              rw [run_report_of_not_permanent hcore (hw hcore) rfl]
  induction depth generalizing id with
  | zero =>
      refine hask hdead fun d hh => ?_
      have hlow := hf.leveled hh
      exact absurd (Nat.lt_of_lt_of_le hlow hd) (Nat.not_lt_zero _)
  | succ depth ih =>
      refine hask hdead fun d hh => ih (hdead.of_holds hh) ?_
      exact Nat.le_of_lt_succ (Nat.lt_of_lt_of_le (hf.leveled hh) hd)

-- ========================================================== closing it

/-- Closing a dead layer, given that what is under it is closed without
anything open noticing. -/
theorem exists_ask_close_dead {below : Below} (h : s.Whole)
    (hlive : s.core id ≠ .released) (hdead : s.Dead id)
    (hbelow : ∀ {t d}, s.Holds id d → t.Whole → t.core d = s.core d →
      t.Dead d → ∃ u, (below d .close).run t = (.ok .unit, u)
        ∧ t.Unnoticed u) :
    ∃ t, (ask below id .close).run s = (.ok .unit, t) ∧ s.Unnoticed t := by
  obtain ⟨l, hl, hlc⟩ := State.exists_layer hlive
  rw [run_ask, hl]
  simp only
  rw [hlc]
  cases hcore : s.core id with
  | released => exact absurd hcore hlive
  | native handle =>
      cases handle with
      | some n => exact absurd (.native hcore) (hdead n)
      | none => exact ⟨s, rfl, .refl s⟩
  | facade f =>
      simp only [askFacade]
      have hhollow : f.closed = f.delegate.isNone := h.formed.hollow hcore
      cases hd : f.delegate with
      | none =>
          -- closed already
          rw [hd] at hhollow
          refine ⟨s, ?_, .refl s⟩
          rw [closeFacade, hhollow]
          rfl
      | some d =>
          have hopen : f.closed = false :=
            h.formed.closed_eq_false hcore hd
          have hholds : s.Holds id d := .of_facade hcore hd
          have hshut := State.Unnoticed.shut hcore hdead
          have hwhole := h.shut hcore
          have hne : d ≠ id := Nat.ne_of_lt (h.formed.older hholds)
          have hclose : ∀ {t}, (s.setCore id (.facade f.shut)).Alike t →
              ∃ u, (closeBelow below d).run t = (.ok (), u)
                ∧ s.Unnoticed u := by
            intro t ht
            have hnoticed := hshut.trans (.of_alike ht)
            have hsame : t.core d = s.core d := by
              rw [State.core_congr ht.layers, State.core_setCore_of_ne hne]
            obtain ⟨u, hu, hun⟩ := hbelow hholds (hwhole.congr ht.layers)
              hsame fun n hn => hdead.of_holds hholds n
                ((hnoticed.stands_iff h.formed).1 hn)
            exact ⟨u, by rw [run_closeBelow, hu]; rfl, hnoticed.trans hun⟩
          have hdelegate : ∃ u, (closeDelegate below id l f d).run
              (s.setCore id (.facade f.shut)) = (.ok (), u)
                ∧ s.Unnoticed u := by
            by_cases hb : ∃ k g b, f.behaviour = .cached k g b
            · obtain ⟨k, g, b, hb⟩ := hb
              have hclosed : (s.setCore id (.facade f.shut)).isClosed d
                  = true :=
                (State.isClosed_eq_true_iff hwhole.formed).2 fun n hn =>
                  hdead.of_holds hholds n
                    ((hshut.stands_iff h.formed).1 hn)
              rw [run_closeDelegate_cached hb]
              cases b with
              | true => exact hclose (.refl _)
              | false =>
                  -- there is nothing to park
                  simp only [Bool.false_eq_true, if_false]
                  rw [if_pos hclosed]
                  exact ⟨_, rfl, hshut⟩
            · obtain ⟨t, ht, hrun⟩ := run_closeDelegate_other below id l d
                (fun k g b he => hb ⟨k, g, b, he⟩)
                (s.setCore id (.facade f.shut))
              rw [hrun]
              exact hclose ht
          obtain ⟨u, hu, hun⟩ := hdelegate
          exact ⟨u, by rw [run_closeFacade hopen hd, hu]; rfl, hun⟩

/-- Closing a dead layer succeeds, and nothing open notices. -/
theorem exists_close_dead (h : s.Whole) (hlive : s.core id ≠ .released)
    (hdead : s.Dead id) {depth : Nat} (hd : (s.core id).level ≤ depth) :
    ∃ t, (within depth id .close).run s = (.ok .unit, t)
      ∧ s.Unnoticed t := by
  induction depth generalizing s id with
  | zero =>
      refine exists_ask_close_dead h hlive hdead fun {t d} hh _ _ _ => ?_
      have hlow := h.formed.leveled hh
      exact absurd (Nat.lt_of_lt_of_le hlow hd) (Nat.not_lt_zero _)
  | succ depth ih =>
      refine exists_ask_close_dead h hlive hdead
        fun {t d} hh ht hsame hdead' => ih ht ?_ hdead' ?_
      · rw [hsame]
        exact h.living hh
      · rw [hsame]
        exact Nat.le_of_lt_succ
          (Nat.lt_of_lt_of_le (h.formed.leveled hh) hd)

-- ================================================== what closing leaves

/-- Whatever becomes of the delegate of a facade that was shut, the
facade stays shut. -/
theorem later_closeDelegate {below : Below} {held loose : List LayerId}
    {out : Option LayerId} {l : Layer} {f : Facade}
    (hbelow : Closes (.free false) below)
    (h : Scene.Sound ⟨s, held, out, loose⟩) (hl : s.layer? id = some l)
    (hf : l.core = .facade f) (hd : f.delegate = some d)
    (hp : id ∉ s.parked) : (s.setCore id (.facade f.shut)).Later
      ((closeDelegate below id l f d).run
        (s.setCore id (.facade f.shut))).2 := by
  have hcore : s.core id = .facade f := (State.core_eq_of_layer? hl).trans hf
  have hshut := h.shut hcore hd hp
  have hclose : ∀ {t}, (s.setCore id (.facade f.shut)).Alike t →
      (s.setCore id (.facade f.shut)).Later
        ((closeBelow below d).run t).2 := by
    intro t ht
    have haside : Scene.Sound ⟨t, held, out, d :: loose⟩ :=
      hshut.aside (.of_alike (g := false) ht)
    exact (State.Later.of_layers ht.layers).trans
      (hbelow.closeBelow haside).later
  by_cases hb : ∃ k g b, f.behaviour = .cached k g b
  · obtain ⟨k, g, b, hb⟩ := hb
    rw [run_closeDelegate_cached hb]
    cases b with
    | true => exact hclose (.refl _)
    | false =>
        rw [if_neg Bool.false_ne_true]
        split
        · exact .refl _
        · by_cases ha : ∃ store sql, s.caches.get? k = some store
              ∧ l.sql = some sql ∧ store.accepts sql g = true
          · obtain ⟨store, sql, hk, hsql, ha⟩ := ha
            have hk' : (s.setCore id (.facade f.shut)).caches.get? k
                = some store := hk
            have hlen : (s.setCore id (.facade f.shut)).layers.length
                = s.layers.length := State.length_setCore ..
            have hshelved := (moves_shelve (p := .free false) h hl hf hb hd
              (.inr ⟨trivial, hp⟩) hk hsql ha).sound h
            have hadd := State.Later.addLayer (s.setCore id (.facade f.shut))
              (l.twin f.level k g d)
            have hshelve : (s.setCore id (.facade f.shut)).Later
                ((s.setCore id (.facade f.shut)).shelve k store sql
                  (l.twin f.level k g d)) := ⟨hadd.layer⟩
            rw [run_park hk' hsql ha, hlen]
            cases hev : (store.park sql s.layers.length).2 with
            | none => exact hshelve
            | some e =>
                rw [hev] at hshelved
                exact hshelve.trans (hbelow.discard hshelved).later
          · rw [run_park_refused fun store sql hk hsql => ?_]
            · exact hclose (.refl _)
            · exact Bool.eq_false_iff.2 fun hacc =>
                ha ⟨store, sql, hk, hsql, hacc⟩
  · obtain ⟨t, ht, hrun⟩ := run_closeDelegate_other below id l d
      (fun k g b he => hb ⟨k, g, b, he⟩) (s.setCore id (.facade f.shut))
    rw [hrun]
    exact hclose ht

/-- A layer that is not parked is dead once it was asked to close. -/
theorem dead_ask_close {below : Below} {held loose : List LayerId}
    {out : Option LayerId} (hbelow : Closes (.free false) below)
    (h : Scene.Sound ⟨s, held, out, loose⟩) (hp : id ∉ s.parked) :
    ((ask below id .close).run s).2.Dead id := by
  -- what leads to no delegate and has no statement is dead
  have hend : ∀ {t : State}, (t.core id).delegate? = none →
      (t.core id).handle? = none → t.Dead id := by
    intro t hdelegate hhandle n hn
    cases hn with
    | native hcore =>
        rw [hcore] at hhandle
        cases hhandle
    | facade hholds _ =>
        rw [State.Holds, hdelegate] at hholds
        cases hholds
  rw [run_ask]
  cases hl : s.layer? id with
  | none =>
      have hcore : s.core id = .released := by
        rw [State.core, hl]
        rfl
      exact hend (by rw [hcore]; rfl) (by rw [hcore]; rfl)
  | some l =>
      have hcore := State.core_eq_of_layer? hl
      simp only
      cases hf : l.core with
      | released =>
          rw [hf] at hcore
          exact hend (by rw [hcore]; rfl) (by rw [hcore]; rfl)
      | native handle =>
          rw [hf] at hcore
          have hlt := State.lt_of_core (Core.ne_released_of_native hcore)
          cases handle with
          | none =>
              show s.Dead id
              exact hend (by rw [hcore]; rfl) (by rw [hcore]; rfl)
          | some n =>
              simp only
              rw [run_askNative_close]
              have hset : State.core { s.setCore id (.native none) with
                  native := ((Native.dispose n).run s.native).2 } id
                  = .native none := by
                have hset := State.core_setCore hlt (.native none) id
                rw [if_pos rfl] at hset
                exact hset
              exact hend (by rw [hset]; rfl) (by rw [hset]; rfl)
      | facade f =>
          rw [hf] at hcore
          have hlt := State.lt_of_core (Core.ne_released_of_facade hcore)
          have hhollow : f.closed = f.delegate.isNone := h.formed.hollow hcore
          simp only [askFacade]
          cases hd : f.delegate with
          | none =>
              rw [hd] at hhollow
              rw [closeFacade, hhollow]
              show s.Dead id
              exact hend (by rw [hcore]; exact hd) (by rw [hcore]; rfl)
          | some d =>
              have hopen : f.closed = false :=
                h.formed.closed_eq_false hcore hd
              rw [run_closeFacade hopen hd]
              have hlater := (later_closeDelegate hbelow h hl hf hd hp).core
                (a := id) (by rw [State.length_setCore]; exact hlt)
              rw [State.core_setCore hlt, if_pos rfl] at hlater
              refine hend (Option.eq_none_iff_forall_ne_some.2 fun d' hd' => ?_)
                (Option.eq_none_iff_forall_ne_some.2 fun n hn => ?_)
              · cases hlater.delegate? hd'
              · cases hlater.handle? hn

/-- What is closed is dead, whatever the answer. -/
theorem dead_close {held loose : List LayerId} {out : Option LayerId}
    (h : Scene.Sound ⟨s, held, out, loose⟩) (hp : id ∉ s.parked) :
    ((dispatch id .close).run s).2.Dead id := by
  show ((within (s.core id).level id .close).run s).2.Dead id
  cases (s.core id).level with
  | zero =>
      have hnone : Closes (.free false) fun _ _ =>
          throw (.closed .statement) := fun _ _ => .refl _
      exact dead_ask_close hnone h hp
  | succ depth => exact dead_ask_close (closes_within _ depth) h hp

end Act

end PooledChain
