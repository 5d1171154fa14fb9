/-
Taking thin stacks apart.

Closing a handle closes the statement that it stands on, and takes its
stack apart down to the native handle (`Act.closing_within`). Whatever
else stood on that statement is dead then, and nothing else is
(`State.Closing.stands_iff`): a stack may have several handles, for a
caller can put a facade of its own around one and keep both.

Letting go of handles gives up a statement if nothing that is still held
stands on it (`State.Thin.native_release`), and what is held stays as it
is (`State.Thin.stands_release`). After it nothing is open that is not
held (`State.Thin.exists_held`).
-/
import PooledChain.Proofs.Heap.Thin

namespace PooledChain

variable {s t u : State} {a b d x : LayerId} {held : List LayerId}
  {n m : Native.StatementId}

/-- A layer after it was closed. -/
def Core.shed : Core → Core
  | native _ => native none
  | facade f => facade f.shut
  | released => released

/-- A layer that is closed is a later one. -/
theorem Core.later_shed (c : Core) : c.Later c.shed := by
  cases c with
  | native h => exact .native (.inr rfl)
  | facade f => exact .shut f
  | released => exact .released

/-- What is let go of is not open after it, and nothing else closes. -/
theorem Native.hasOpen_letGo {st : Store} {o : Option StatementId}
    (h : ∀ {n}, o = some n → st.HasOpen n) (m : StatementId) :
    ((letGo o).run st).2.HasOpen m ↔ st.HasOpen m ∧ o ≠ some m := by
  cases o with
  | none => exact ⟨fun hm => ⟨hm, fun he => by cases he⟩, And.left⟩
  | some n =>
      refine (hasOpen_dispose (h rfl) m).trans (and_congr_right fun _ => ?_)
      rw [Ne, Ne, Option.some_inj, eq_comm]

-- ============================================================ taken apart

namespace State

/-- What a stack stands on is all that there is to be found under it. -/
theorem statementUnder?_congr (hs : s.Leveled) (ht : t.Leveled)
    (h : ∀ n, t.Stands b n ↔ s.Stands a n) :
    t.statementUnder? b = s.statementUnder? a := by
  refine Option.ext fun n => ?_
  rw [statementUnder?_eq_some ht, statementUnder?_eq_some hs, h]

/-- A layer stands on no statement just when it is dead. -/
theorem statementUnder?_eq_none (hl : s.Leveled) :
    s.statementUnder? a = none ↔ s.Dead a := by
  rw [Option.eq_none_iff_forall_ne_some]
  exact forall_congr' fun n => not_congr (statementUnder?_eq_some hl)

/-- What has no delegate and is no open native handle stands on
nothing. -/
theorem dead_of_leaf (hd : (s.core a).delegate? = none)
    (hh : (s.core a).handle? = none) : s.Dead a := by
  intro n hn
  cases hn with
  | native hc =>
      rw [hc] at hh
      cases hh
  | facade hd' _ =>
      rw [Holds, hd] at hd'
      cases hd'

/-- Under a facade there are itself and what is under its delegate. -/
theorem over_iff_of_holds (hd : s.Holds a d) :
    s.Over a x ↔ x = a ∨ s.Over d x := by
  constructor
  · intro hx
    cases hx using Relation.ReflTransGen.head_induction_on with
    | refl => exact .inl rfl
    | head hd' hx => exact .inr (hd.unique hd' ▸ hx)
  · rintro (rfl | hx)
    · exact .refl
    · exact .head hd hx

/-- Under what has no delegate there is nothing else. -/
theorem eq_of_over (hd : (s.core a).delegate? = none) (hx : s.Over a x) :
    x = a := by
  cases hx using Relation.ReflTransGen.head_induction_on with
  | refl => rfl
  | head hd' _ =>
      rw [Holds, hd] at hd'
      cases hd'

/-- What closing a layer leaves: its stack is taken apart. -/
structure Sheds (s : State) (a : LayerId) (t : State) : Prop where
  beside : s.Beside t
  length : t.layers.length = s.layers.length
  gone : ∀ {x}, s.Over a x → t.layer? x
    = (s.layer? x).map fun l => { l with core := l.core.shed }
  kept : ∀ {x}, ¬ s.Over a x → t.layer? x = s.layer? x

namespace Sheds

/-- A layer is closed that has no delegate. -/
theorem leaf (hd : (s.core a).delegate? = none) (hb : s.Beside t)
    (ht : t.layers = (s.setCore a (s.core a).shed).layers) :
    s.Sheds a t where
  beside := hb
  length := by rw [ht, length_setCore]
  gone {x} hx := by
    obtain rfl := eq_of_over hd hx
    rw [layer?_congr ht, layer?_setCore, if_pos rfl]
    cases hl : s.layer? x with
    | none => rfl
    | some l => rw [core_eq_of_layer? hl]; rfl
  kept {x} hx := by
    rw [layer?_congr ht, layer?_setCore, if_neg]
    rintro rfl
    exact hx .refl

/-- A facade is closed, and then its delegate. -/
theorem facade (hf : s.Formed) (hd : s.Holds a d) (hb : s.Beside t)
    (ht : t.layers = (s.setCore a (s.core a).shed).layers)
    (h : t.Sheds d u) : s.Sheds a u := by
  have hlayer : ∀ {x}, x ≠ a → t.layer? x = s.layer? x := fun hne => by
    rw [layer?_congr ht, layer?_setCore, if_neg hne]
  have hne : ∀ {x}, s.Over d x → x ≠ a := fun hx =>
    Nat.ne_of_lt (Nat.lt_of_le_of_lt (hx.le hf.older) (hf.older hd))
  have hcore : ∀ x, s.Over d x → t.core x = s.core x := fun x hx =>
    core_congr_layer (hlayer (hne hx))
  have hover : ∀ {x}, t.Over d x ↔ s.Over d x := fun {x} =>
    ⟨fun hx => hx.of_congr hcore, fun hx => hx.congr hcore⟩
  refine ⟨hb.trans h.beside, ?_, fun {x} hx => ?_, fun {x} hx => ?_⟩
  · rw [h.length, ht, length_setCore]
  · rcases (over_iff_of_holds hd).1 hx with rfl | hx
    · rw [h.kept fun hx => hne (hover.1 hx) rfl, layer?_congr ht,
        layer?_setCore, if_pos rfl]
      cases hl : s.layer? x with
      | none => rfl
      | some l => rw [core_eq_of_layer? hl]; rfl
    · rw [h.gone (hover.2 hx), hlayer (hne hx)]
  · rw [over_iff_of_holds hd, not_or] at hx
    rw [h.kept fun hd => hx.2 (hover.1 hd), hlayer hx.1]

end Sheds

/-- How closing a layer ends: the statement that it stands on is let go
of, and its stack is taken apart. -/
structure Closing (s : State) (a : LayerId)
    (r : Except Error StatementReply × State) : Prop
    extends s.Sheds a r.2 where
  answer : r.1 = (((Native.letGo (s.statementUnder? a)).run
    s.native).1.mapError fun e => .driver e.unwrapped).map fun _ => .unit
  native : r.2.native
    = ((Native.letGo (s.statementUnder? a)).run s.native).2

/-- Facades are light after one of them is closed. -/
theorem Light.shut (h : s.Light) {f : Facade} (ha : s.core a = .facade f) :
    (s.setCore a (.facade f.shut)).Light := by
  refine ⟨fun {x f'} hf => ?_⟩
  rw [core_setCore (lt_of_core (Core.ne_released_of_facade ha))] at hf
  split at hf
  · cases hf
    exact (h.facade ha : f.behaviour.isLight = true)
  · exact h.facade hf

end State

namespace Act

variable {below : Below}

/-- A light facade that is closing closes its delegate. -/
theorem exists_closeDelegate (below : Below) (id : LayerId) (l : Layer)
    {f : Facade} (hb : f.behaviour.isLight = true) (d : LayerId)
    (s : State) : ∃ t, s.Unseen t
      ∧ (closeDelegate below id l f d).run s = (closeBelow below d).run t := by
  unfold closeDelegate
  cases hk : f.behaviour with
  | plain | recording => exact ⟨s, .refl s, rfl⟩
  | counting counter =>
      refine ⟨{ s with counters := s.counters.modify counter fun t =>
        { t with closed := t.closed + 1 } }, ?_, rfl⟩
      exact ⟨⟨⟨rfl, rfl, rfl, rfl, rfl, rfl⟩, rfl⟩, rfl⟩
  | cached | tracked | watched => rw [hk] at hb; cases hb

/-- What stands on nothing, and has nothing under it, is left as it is. -/
theorem closing_leaf (hf : s.Formed) (hsame : (s.core a).shed = s.core a)
    (hd : (s.core a).delegate? = none) (hh : (s.core a).handle? = none) :
    s.Closing a (.ok .unit, s) := by
  have hnone := (State.statementUnder?_eq_none hf.leveled).2
    (State.dead_of_leaf hd hh)
  refine ⟨.leaf hd (.refl s) ?_, ?_, ?_⟩
  · rw [hsame, State.setCore_core]
  · rw [hnone]
    rfl
  · rw [hnone]
    rfl

/-- An open facade of a light stack closes what is under it. -/
theorem closing_facade (h : s.Whole) (hlight : s.Light) {f : Facade}
    (hcore : s.core a = .facade f) (hd : f.delegate = some d) (l : Layer)
    (hbelow : ∀ {t : State}, t.Whole → t.Light → t.core d = s.core d →
      t.Closing d ((below d .close).run t)) :
    s.Closing a ((closeFacade below a l f).run s) := by
  have hf := h.formed
  have hopen : f.closed = false := hf.closed_eq_false hcore hd
  have hholds : s.Holds a d := .of_facade hcore hd
  obtain ⟨t, ht, hrun⟩ := exists_closeDelegate below a l
    (hlight.facade hcore) d (s.setCore a (.facade f.shut))
  have hsame : ∀ x, s.Over d x → t.core x = s.core x := by
    intro x hx
    have hne : x ≠ a := Nat.ne_of_lt
      (Nat.lt_of_le_of_lt (hx.le hf.older) (hf.older hholds))
    rw [State.core_congr ht.layers, State.core_setCore_of_ne hne]
  have hwhole : t.Whole := (h.shut hcore).congr ht.layers
  have hclosing := hbelow hwhole ((hlight.shut hcore).congr ht.layers)
    (hsame d .refl)
  have hunder : t.statementUnder? d = s.statementUnder? a :=
    State.statementUnder?_congr hf.leveled hwhole.formed.leveled
      fun n => ⟨fun hn => .facade hholds (hn.congr fun x hx =>
          (hsame x (hx.of_congr hsame)).symm),
        fun hn => (hn.of_holds hholds).congr hsame⟩
  have hnative : t.native = s.native := ht.native
  rw [run_closeFacade hopen hd, hrun, run_closeBelow]
  refine ⟨.facade hf hholds ?_ ?_ hclosing.toSheds, ?_, ?_⟩
  · exact ⟨ht.physicals, ht.returns, ht.connections, ht.caches,
      ht.watched, ht.standing⟩
  · rw [ht.layers, hcore]
    rfl
  · show Except.map _ (Except.map _ _) = _
    rw [hclosing.answer, hunder, hnative]
    rcases ((Native.letGo (s.statementUnder? a)).run s.native).1 with
      e | ⟨⟩ <;> rfl
  · show ((below d .close).run t).2.native = _
    rw [hclosing.native, hunder, hnative]

/-- Closing a layer of a light stack, given that the layers under it are
closed. -/
theorem closing_ask (h : s.Whole) (hlight : s.Light)
    (hlive : s.core a ≠ .released)
    (hbelow : ∀ {t : State} {d}, s.Holds a d → t.Whole → t.Light →
      t.core d = s.core d → t.Closing d ((below d .close).run t)) :
    s.Closing a ((ask below a .close).run s) := by
  have hf := h.formed
  obtain ⟨l, hl, hlc⟩ := State.exists_layer hlive
  rw [run_ask, hl]
  simp only
  rw [hlc]
  cases hcore : s.core a with
  | released => exact absurd hcore hlive
  | native handle =>
      cases handle with
      | none =>
          exact closing_leaf hf (by rw [hcore]; rfl) (by rw [hcore]; rfl)
            (by rw [hcore]; rfl)
      | some n =>
          have hsome := (State.statementUnder?_eq_some hf.leveled).2
            (.native hcore)
          simp only
          rw [run_askNative_close]
          refine ⟨.leaf (by rw [hcore]; rfl) ⟨rfl, rfl, rfl, rfl, rfl, rfl⟩
            (by rw [hcore]; rfl), ?_, ?_⟩
          · rw [hsome]
            rfl
          · rw [hsome]
            rfl
  | facade f =>
      have hhollow : f.closed = f.delegate.isNone := hf.hollow hcore
      simp only [askFacade]
      cases hd : f.delegate with
      | none =>
          -- closed already
          have hshut : f.shut = f := by
            cases f
            cases hd
            cases hhollow
            rfl
          have hclosed : (closeFacade below a l f).run s = (.ok .unit, s) := by
            rw [closeFacade, hhollow, hd]
            rfl
          rw [hclosed]
          refine closing_leaf hf ?_ (by rw [hcore]; exact hd)
            (by rw [hcore]; rfl)
          rw [hcore]
          exact congrArg Core.facade hshut
      | some d =>
          exact closing_facade h hlight hcore hd l
            (hbelow (.of_facade hcore hd))

/-- Closing a layer lets go of the statement that it stands on. -/
theorem closing_within (h : s.Whole) (hlight : s.Light)
    (hlive : s.core a ≠ .released) {depth : Nat}
    (hd : (s.core a).level ≤ depth) :
    s.Closing a ((within depth a .close).run s) := by
  induction depth generalizing s a with
  | zero =>
      refine closing_ask h hlight hlive fun {t d} hh _ _ _ => ?_
      have hlow := h.formed.leveled hh
      exact absurd (Nat.lt_of_lt_of_le hlow hd) (Nat.not_lt_zero _)
  | succ depth ih =>
      refine closing_ask h hlight hlive fun {t d} hh ht hlight' hsame =>
        ih ht hlight' ?_ ?_
      · rw [hsame]
        exact h.living hh
      · rw [hsame]
        exact Nat.le_of_lt_succ
          (Nat.lt_of_lt_of_le (h.formed.leveled hh) hd)

end Act

namespace State

namespace Sheds

/-- Each layer of the stack is closed. -/
theorem core_gone (h : s.Sheds a t) (hx : s.Over a x) :
    t.core x = (s.core x).shed := by
  rw [core, h.gone hx, core]
  cases s.layer? x <;> rfl

/-- Each layer outside the stack is as it was. -/
theorem core_kept (h : s.Sheds a t) (hx : ¬ s.Over a x) :
    t.core x = s.core x :=
  core_congr_layer (h.kept hx)

/-- When a stack is taken apart, a state wanes. -/
theorem wanes (h : s.Sheds a t) (hf : s.Formed) : s.Wanes t where
  later := by
    refine ⟨fun {x l} hl => ?_⟩
    by_cases hx : s.Over a x
    · rw [h.gone hx, hl]
      exact ⟨_, rfl, rfl, rfl, rfl, l.core.later_shed⟩
    · rw [h.kept hx]
      exact ⟨l, hl, .refl l⟩
  length := h.length
  hollow {x f} hc := by
    by_cases hx : s.Over a x
    · rw [h.core_gone hx] at hc
      cases hs : s.core x with
      | facade f' =>
          rw [hs] at hc
          cases hc
          rfl
      | native _ => rw [hs] at hc; cases hc
      | released => rw [hs] at hc; cases hc
    · rw [h.core_kept hx] at hc
      exact hf.hollow hc
  living {x d} _ hd := by
    by_cases hx : s.Over a d
    · rw [h.core_gone hx]
      cases hs : s.core d with
      | released => exact absurd hs hd
      | native _ => exact fun he => by cases he
      | facade _ => exact fun he => by cases he
    · rw [h.core_kept hx]
      exact hd

end Sheds

namespace Closing

variable {r : Except Error StatementReply × State}

/-- What stood on the statement that was closed stands on nothing, and
nothing else has changed. -/
theorem stands_iff (hc : s.Closing a r) (h : s.Thin) :
    r.2.Stands b m ↔ s.Stands b m ∧ s.statementUnder? a ≠ some m := by
  have hw := hc.toSheds.wanes h.whole.formed
  rw [Ne, h.under_eq_some]
  constructor
  · refine fun hm => ⟨hw.stands hm, fun ha => ?_⟩
    -- the native handle has let go of the statement
    obtain ⟨y, -, hy⟩ := hm.exists_native
    obtain ⟨z, hz, hzn⟩ := ha.exists_native
    obtain rfl := h.once (hw.native hy) hzn
    rw [hc.toSheds.core_gone hz, hzn] at hy
    cases hy
  · rintro ⟨hm, hne⟩
    refine hm.congr fun y hy => hc.toSheds.core_kept fun hay => hne ?_
    exact (hm.of_over hy).over hay

/-- The open statements are those with a handle still. -/
theorem opened (hc : s.Closing a r) (h : s.Thin) (n : Native.StatementId) :
    r.2.native.HasOpen n ↔ ∃ x, r.2.core x = .native (some n) := by
  have hw := hc.toSheds.wanes h.whole.formed
  rw [hc.native, Native.hasOpen_letGo fun ho => ?_, h.opened]
  · constructor
    · rintro ⟨⟨x, hx⟩, hne⟩
      have hm := (hc.stands_iff h).2 ⟨.native hx, hne⟩
      obtain ⟨y, -, hy⟩ := hm.exists_native
      exact ⟨y, hy⟩
    · rintro ⟨x, hx⟩
      exact ⟨⟨x, hw.native hx⟩, ((hc.stands_iff h).1 (.native hx)).2⟩
  · obtain ⟨x, -, hx⟩ := (h.under_eq_some.1 ho).exists_native
    exact (h.opened _).2 ⟨x, hx⟩

/-- A thin state is thin after a layer was closed. -/
theorem thin (hc : s.Closing a r) (h : s.Thin) : r.2.Thin :=
  h.wanes (hc.toSheds.wanes h.whole.formed) hc.beside (hc.opened h)

end Closing

-- ============================================================ letting go

/-- Whether a statement is open that nothing which is held stands on. -/
def Lost (s : State) (held : List LayerId) (n : Native.StatementId) : Prop :=
  s.native.HasOpen n ∧ ∀ {a}, a ∈ held → ¬ s.Stands a n

/-- The walk gets at layers and the driver's side only. -/
theorem beside_release (s : State) (held : List LayerId) :
    s.Beside (s.release held) := by
  refine release_induction .refl (fun h₁ h₂ => h₁.trans h₂) (fun u id => ?_)
    s held
  rw [releaseLayer]
  split <;> exact ⟨rfl, rfl, rfl, rfl, rfl, rfl⟩

/-- A layer stays as it is, or is released. -/
theorem core_release (s : State) (held : List LayerId) (x : LayerId) :
    (s.release held).core x = s.core x
      ∨ (s.release held).core x = .released := by
  refine release_induction (R := fun s t => ∀ x, t.core x = s.core x
    ∨ t.core x = .released) (fun _ _ => .inl rfl) (fun h₁ h₂ x => ?_)
    (fun u id x => ?_) s held x
  · rcases h₂ x with h | h
    · rw [h]
      exact h₁ x
    · exact .inr h
  · by_cases hr : u.core id = .released
    · rw [releaseLayer_of_released hr]
      exact .inl rfl
    · rw [core_releaseLayer hr]
      split
      · exact .inr rfl
      · exact .inl rfl

/-- Every layer is there after the walk, or a released one in its place. -/
theorem later_release (s : State) (held : List LayerId) :
    s.Later (s.release held) := by
  refine release_induction .refl (fun h₁ h₂ => h₁.trans h₂) (fun u id => ?_)
    s held
  rw [releaseLayer]
  split
  · exact ⟨(Later.setCore (s := u) .released).layer⟩
  · exact .setCore .released

/-- Stacks are well formed after the walk. -/
theorem formed_release (h : s.Formed) (held : List LayerId) :
    (s.release held).Formed :=
  release_induction (R := fun s t => s.Formed → t.Formed) (fun _ h => h)
    (fun h₁ h₂ h => h₂ (h₁ h)) (fun _ id h => formed_releaseLayer h id) s held
    h

namespace Thin

/-- What is not released is under something that is held. -/
theorem exists_root_release (h : s.Thin)
    (hx : (s.release held).core x ≠ .released) :
    ∃ r ∈ held, (s.release held).Over r x := by
  obtain ⟨r, hr, hover⟩ := Tidy.exists_root
    (tidy_release h.whole.formed held) hx (formed_release h.whole.formed held)
  rw [parked_eq (s.release held), caches_release, ← parked_eq, h.parked] at hr
  exact ⟨r, hr.resolve_right List.not_mem_nil, hover⟩

/-- A thin state wanes in the walk. -/
theorem wanes_release (h : s.Thin) (held : List LayerId) :
    s.Wanes (s.release held) := by
  have hf := h.whole.formed
  have hholds : ∀ {a d}, (s.release held).Holds a d →
      (s.release held).core a ≠ .released ∧ s.Holds a d := by
    intro a d hd
    rcases core_release s held a with hc | hc
    · refine ⟨fun hr => ?_, ?_⟩
      · rw [Holds, hr] at hd
        cases hd
      · rwa [Holds, hc] at hd
    · rw [Holds, hc] at hd
      cases hd
  refine ⟨later_release s held, length_release s held, fun {x f} hx => ?_,
    fun {a d} hd hlive => ?_⟩
  · rcases core_release s held x with hc | hc
    · exact hf.hollow (hc.symm.trans hx)
    · rw [hc] at hx
      cases hx
  · obtain ⟨r, hr, hover⟩ := h.exists_root_release (hholds hd).1
    have hover : s.Over r d := Relation.ReflTransGen.tail
      (Relation.ReflTransGen.mono (fun _ _ hd => (hholds hd).2) _ _ hover)
      (hholds hd).2
    rw [core_release_of_root hf (.inl hr) hover]
    exact hlive

/-- What is held stands where it stood. -/
theorem stands_release (h : s.Thin) (ha : a ∈ held) :
    (s.release held).Stands a m ↔ s.Stands a m :=
  ⟨(h.wanes_release held).stands, .release h.whole.formed (.inl ha)⟩

/-- After releasing, every open handle is under one that is held. -/
theorem exists_held (h : s.Thin)
    (hx : (s.release held).core x = .native (some m)) :
    ∃ a ∈ held, (s.release held).Stands a m := by
  obtain ⟨r, hr, hover⟩ := h.exists_root_release
    (Core.ne_released_of_native hx)
  exact ⟨r, hr, Stands.over (.native hx) hover⟩

/-- A statement that is lost, if no other is, is given up, and nothing
else happens on the driver's side. -/
theorem native_release (h : s.Thin) {o : Option Native.StatementId}
    (ho : ∀ n, s.Lost held n ↔ o = some n) :
    (s.release held).native = ((Native.letGo o).run s.native).2 := by
  refine native_releaseBelow h.whole.formed (walk_start s held)
    (fun {x n} hx hastray => (ho n).1 ⟨(h.opened n).2 ⟨x, hx⟩, ?_⟩)
    fun {n} hn => ?_
  · intro a ha hn
    obtain ⟨y, hy, hyn⟩ := hn.exists_native
    obtain rfl := h.once hyn hx
    exact hastray.apart (.inl ha) hy
  · obtain ⟨hopen, hlost⟩ := (ho n).2 hn
    obtain ⟨x, hx⟩ := (h.opened n).1 hopen
    refine ⟨x, hx, ⟨fun {r} hr hover => ?_⟩, fun hy => h.once hy hx⟩
    rcases hr with hr | hr
    · exact hlost hr (Stands.over (.native hx) hover)
    · rw [h.parked] at hr
      cases hr

/-- A thin state is thin after the walk, when one statement at most had been
lost. -/
theorem release (h : s.Thin) {o : Option Native.StatementId}
    (ho : ∀ n, s.Lost held n ↔ o = some n) : (s.release held).Thin := by
  refine h.wanes (h.wanes_release held) (beside_release s held) fun n => ?_
  rw [h.native_release ho, Native.hasOpen_letGo fun he => ((ho _).2 he).1,
    Ne, ← ho]
  constructor
  · rintro ⟨hopen, hkept⟩
    obtain ⟨a, ha, hn⟩ : ∃ a ∈ held, s.Stands a n := by
      by_contra hnone
      exact hkept ⟨hopen, fun {a} ha hn => hnone ⟨a, ha, hn⟩⟩
    obtain ⟨x, -, hx⟩ := ((h.stands_release ha).2 hn).exists_native
    exact ⟨x, hx⟩
  · rintro ⟨x, hx⟩
    obtain ⟨a, ha, hn⟩ := h.exists_held hx
    exact ⟨(h.opened n).2 ⟨x, (h.wanes_release held).native hx⟩,
      fun hlost => hlost.2 ha ((h.stands_release ha).1 hn)⟩

end Thin

end State

end PooledChain
