/-
Handles that can be parked.

A handle is ready if the first facade of a cache under it is fit for the
cache's shelf (`State.Ready`). What a caller gets from a chain with a
cache is ready, and it stays ready as long as it is open, whatever
happens to other handles: nothing but a permanent failure of its own
breaks its facade (`Moves.untainted`), and the shelf changes its
generation only when it is emptied.

The one thing to be seen is that a failure of another handle does not
reach it: two handles have no facade in common, since neither is under
anything (`Scene.owned`).
-/
import PooledChain.Proofs.Heap.Creation

namespace PooledChain

open Scene (Sound)

-- ============================================================ one move

/-- What a move makes of the core of a layer. -/
inductive Core.Turns (tainted : Prop) : Core → Core → Prop
  | same {x} : Turns tainted x x
  | broken {f k g b} : tainted → f.behaviour = .cached k g b →
      Turns tainted (.facade f) (.facade (f.broken k g))
  | shut {f} : Turns tainted (.facade f) (.facade f.shut)
  | letGo {handle} : Turns tainted (.native handle) (.native none)
  | released {x} : Turns tainted x .released

variable {p : Terms} {c c' : Scene} {s t : State} {k : LinkId}
  {sql : String} {h a : LayerId}

theorem Core.Turns.of_eq {tainted : Prop} {x y : Core} (he : y = x) :
    Turns tainted x y := by
  rw [he]
  exact .same

/-- A layer that is there stays as it is, unless the move is about it. -/
theorem Move.turns (hm : Move p c c') (ha : a < c.state.layers.length) :
    (c.state.core a).Turns (p.taints a) (c'.state.core a) := by
  have hset : ∀ {s : State} {id : LayerId} {x : Core},
      (a = id → (s.core a).Turns (p.taints a) x) → a < s.layers.length →
      (s.core a).Turns (p.taints a) ((s.setCore id x).core a) := by
    intro s id x hx hlt
    by_cases he : a = id
    · subst he
      rw [State.core_setCore hlt, if_pos rfl]
      exact hx rfl
    · exact .of_eq (State.core_setCore_of_ne he x)
  cases hm with
  | aside h => exact .of_eq (State.core_congr h.layers a)
  | @taint s _ _ _ id f k g b hid hb _ ht =>
      refine hset (fun he => ?_) ha
      subst he
      rw [hid]
      exact .broken ht hb
  | @make s _ _ _ l _ _ =>
      refine .of_eq ?_
      show (s.addLayer l).2.core a = s.core a
      rw [State.core_addLayer_of_lt ha]
  | @decorate s _ _ _ l _ _ _ _ _ _ _ _ =>
      refine .of_eq ?_
      show (s.addLayer l).2.core a = s.core a
      rw [State.core_addLayer_of_lt ha]
  | shut hid _ _ =>
      refine hset (fun he => ?_) ha
      rw [he, hid]
      exact .shut
  | letGo hid _ =>
      refine hset (fun he => ?_) ha
      rw [he, hid]
      exact .letGo
  | @twin s _ _ _ id l f d k g hl hf _ _ _ =>
      have hadd : ((s.setCore id (.facade f.shut)).addLayer
          (l.twin f.level k g d)).2.core a
            = (s.setCore id (.facade f.shut)).core a := by
        rw [State.core_addLayer, State.length_setCore,
          if_neg (Nat.ne_of_lt ha)]
      rw [hadd]
      refine hset (fun he => ?_) ha
      rw [he, State.core_eq_of_layer? hl, hf]
      exact .shut
  | @free s _ _ _ id _ _ _ =>
      show (s.core a).Turns _ ((s.releaseLayer id).core a)
      rw [State.releaseLayer]
      split <;> exact hset (fun _ => .released) ha
  | _ => exact .same

/-- A facade that may not be broken behaves as before. -/
theorem Core.Turns.behaviour {tainted : Prop} {x y : Core}
    (ht : Turns tainted x y) (hn : ¬ tainted) {f : Facade}
    (hx : x = .facade f) : y = .released
      ∨ ∃ f', y = .facade f' ∧ f'.behaviour = f.behaviour := by
  subst hx
  cases ht with
  | same => exact .inr ⟨f, rfl, rfl⟩
  | broken h _ => exact absurd h hn
  | shut => exact .inr ⟨f.shut, rfl, rfl⟩
  | released => exact .inl rfl

/-- A facade that is not broken behaves as before, until it is released. -/
theorem Moves.untainted (hm : Moves p c c') (ha : ¬ p.taints a)
    {f : Facade} (hf : c.state.core a = .facade f) :
    c'.state.core a = .released
      ∨ ∃ f', c'.state.core a = .facade f' ∧ f'.behaviour = f.behaviour := by
  have hlt : a < c.state.layers.length :=
    State.lt_of_core (Core.ne_released_of_facade hf)
  induction hm with
  | refl => exact .inr ⟨f, hf, rfl⟩
  | tail hm hlast ih =>
      have hm : Moves p c _ := hm
      have hlt' := Nat.lt_of_lt_of_le hlt hm.length_le
      have hturns := hlast.turns hlt'
      have hlater := hlast.later.core hlt'
      rcases ih with hr | ⟨f', hf', hb⟩
      · rw [hr] at hlater
        exact .inl hlater.eq_released
      · rcases hturns.behaviour ha hf' with hr | ⟨f'', hf'', hb'⟩
        · exact .inl hr
        · exact .inr ⟨f'', hf'', hb'.trans hb⟩

-- =============================================================== fitness

namespace State

/-- A fit facade stays fit as long as it is there, if neither it is broken
nor its shelf emptied. -/
theorem Fit.moves (hf : c.state.Fit k sql a) (hm : Moves p c c')
    (ha : ¬ p.taints a) (hk : ¬ p.empties k)
    (hlive : c'.state.core a ≠ .released) : c'.state.Fit k sql a := by
  obtain ⟨store, l, f, hstore, hl, hsql, hcore, hb⟩ := hf.facade
  obtain ⟨new, hnew, hg⟩ := hm.kept hstore hk
  obtain ⟨l', hl', hlater⟩ := hm.later.layer hl
  have hfacade := (core_eq_of_layer? hl).trans hcore
  rcases hm.untainted ha hfacade with hr | ⟨f', hf', hb'⟩
  · exact absurd hr hlive
  · refine ⟨new, l', f', hnew, hl', hlater.sql.trans hsql, ?_, ?_⟩
    · rw [← core_eq_of_layer? hl', hf']
    · rw [hb', hb, hg]

/-- Whether closing a handle would offer its statement to the cache `k`,
whose shelf would take it under `sql` if it has nothing there. -/
def Ready (s : State) (k : LinkId) (sql : String) (h : LayerId) : Prop :=
  ∃ a, s.Leads h a ∧ s.Fit k sql a

/-- It depends on the shelves and on what is under the handle. -/
theorem Ready.congr (hr : s.Ready k sql h) (hc : t.caches = s.caches)
    (hl : ∀ x, s.Over h x → t.layer? x = s.layer? x) :
    t.Ready k sql h := by
  obtain ⟨a, hlead, hfit⟩ := hr
  refine ⟨a, hlead.congr fun x hx => ?_, hfit.congr hc (hl a hlead.over)⟩
  rw [core, hl x hx, core]

/-- It stays so as long as the handle is open, if none of its facades is
broken and the shelf is not emptied. -/
theorem Ready.moves (hr : c.state.Ready k sql h) (hsound : c.Sound)
    (hm : Moves p c c') (hh : h < c.state.layers.length)
    (ha : ∀ a, c.state.Over h a → ¬ p.taints a) (hk : ¬ p.empties k)
    {n : Native.StatementId} (hn : c'.state.Stands h n) :
    c'.state.Ready k sql h := by
  obtain ⟨a, hlead, hfit⟩ := hr
  have holder : ∀ {x d}, c.state.Holds x d → d < x := hsound.formed.older
  have hlead' := hlead.later hm.later holder hh hn
  have hlive := (hn.of_over hlead'.over).not_released
  exact ⟨a, hlead', hfit.moves hm (ha a hlead.over) hk hlive⟩

end State

/-- Terms under which the shelf of `k` is not emptied and no facade of
`spared` is broken. -/
def Terms.sparing (guarded : Bool) (k : LinkId)
    (spared : LayerId → Prop) : Terms :=
  ⟨guarded, fun _ => True, fun a => ¬ spared a, (· ≠ k), fun _ => True,
    fun _ => True, fun _ => True, fun _ => True, False⟩

namespace Act

/-- What comes up through a cache of the statement's kind is ready. -/
theorem ready_askLinks {held : List LayerId} (c : ConnectionId)
    {above below : List Link} {config : CacheConfig} {op : ConnectionOp}
    {kind : StatementKind} {store : CacheStore}
    (hsound : Sound ⟨s, held, none, []⟩)
    (hk : s.caches.get? ⟨c, below.length⟩ = some store)
    (hkind : op.creates? = some kind)
    (habove : ∀ link ∈ above, link.defers op = true)
    (hsql : (reaching above op).sql? = some sql)
    (hdec : config.kinds.contains kind = true)
    (hr : (askLinks c (above ++ .cache config :: below) op).run s
      = (.ok (.statement h), t)) : t.Ready ⟨c, below.length⟩ sql h := by
  obtain ⟨s', hs', -, hd⟩ := dresses_askLinks c (.cache config :: below)
    hkind habove s
  rw [hr] at hd
  -- the shelf is not emptied while the links are asked
  let p : Terms := .sparing false ⟨c, below.length⟩ fun _ => False
  have hnext : AsksBelow p ⟨c, below.length⟩ (askLinks c below) :=
    asked_askLinks c fun hf => hf.elim
  have hspared : ¬ p.empties ⟨c, below.length⟩ := fun hne => hne rfl
  have hreaching : (reaching above op).creates? = some kind := by
    rw [creates?_reaching]
    exact hkind
  rcases hinner : (askLinks c (.cache config :: below)
    (reaching above op)).run s' with ⟨r, u⟩
  rw [hinner] at hd
  cases hd with
  | @statement _ _ e _ hdressed =>
      have hs : Sound ⟨s', held, none, []⟩ :=
        hsound.aside (g := false) (.of_alike hs')
      have hfit : u.Fit ⟨c, below.length⟩ sql e :=
        fit_throughCache config hnext hspared (fun _ => trivial) hs
          (by rw [hs'.caches]; exact hk) hreaching hsql hdec hinner
      have hfit' : t.Fit ⟨c, below.length⟩ sql e :=
        hfit.congr hdressed.caches (hdressed.layer e hfit.lt)
      exact ⟨e, hdressed.wraps.leads hfit'.leads, hfit'⟩
  | other _ ho _ => cases ho

end Act

end PooledChain
