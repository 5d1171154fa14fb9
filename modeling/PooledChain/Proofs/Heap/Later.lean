/-
What becomes of a layer.

A layer keeps its SQL, its kind and its connection for ever. A native
handle loses its statement at most, a facade its delegate, and a facade
of a cache may be broken; nothing of that is ever undone, and no layer
turns into one of another sort (`Core.Later`). The moves are the only
changes there are, so this is shown for them (`Moves.later`).

Two things follow that later proofs ask for again and again: what is
closed stays closed (`Moves.stands`), and a facade that a tracker has
listed never gets onto a shelf (`Moves.listed`).
-/
import PooledChain.Proofs.Heap.Close

namespace PooledChain

-- ======================================================== one layer

/-- A behaviour later on: a facade of a cache may be broken. -/
def Behaviour.Later (b b' : Behaviour) : Prop :=
  b' = b ∨ ∃ k g x, b = .cached k g x ∧ b' = .cached k g true

/-- A core later on. -/
inductive Core.Later : Core → Core → Prop
  | released {c} : Later c released
  | native {h h'} : h' = h ∨ h' = none → Later (native h) (native h')
  | facade {f f'} : f'.level = f.level →
      f'.delegate = f.delegate ∨ f'.delegate = none →
      f.behaviour.Later f'.behaviour → Later (facade f) (facade f')

/-- A layer later on. -/
structure Layer.Later (l l' : Layer) : Prop where
  sql : l'.sql = l.sql
  kind : l'.kind = l.kind
  connection : l'.connection = l.connection
  core : l.core.Later l'.core

namespace Behaviour.Later

theorem refl (b : Behaviour) : Later b b := .inl rfl

theorem trans {b b' b'' : Behaviour} (h₁ : Later b b')
    (h₂ : Later b' b'') : Later b b'' := by
  rcases h₁ with rfl | ⟨k, g, x, rfl, rfl⟩
  · exact h₂
  · rcases h₂ with rfl | ⟨k', g', x', he, rfl⟩
    · exact .inr ⟨k, g, x, rfl, rfl⟩
    · cases he
      exact .inr ⟨k, g, x, rfl, rfl⟩

end Behaviour.Later

namespace Core.Later

theorem refl (c : Core) : Later c c := by
  cases c with
  | native h => exact .native (.inl rfl)
  | facade f => exact .facade rfl (.inl rfl) (.refl _)
  | released => exact .released

theorem trans {c c' c'' : Core} (h₁ : Later c c') (h₂ : Later c' c'') :
    Later c c'' := by
  cases h₂ with
  | released => exact .released
  | native h =>
      cases h₁ with
      | native h' =>
          refine .native ?_
          rcases h with rfl | rfl
          · exact h'
          · exact .inr rfl
  | facade hl hd hb =>
      cases h₁ with
      | facade hl' hd' hb' =>
          refine .facade (hl.trans hl') ?_ (hb'.trans hb)
          rcases hd with hd | hd
          · rw [hd]
            exact hd'
          · exact .inr hd

/-- A facade may be closed later on. -/
theorem shut (f : Facade) : Later (.facade f) (.facade f.shut) :=
  .facade rfl (.inr rfl) (.refl _)

/-- What has a delegate later on has had it before. -/
theorem delegate? {c c' : Core} (h : Later c c') {d : LayerId}
    (hd : c'.delegate? = some d) : c.delegate? = some d := by
  cases h with
  | released => cases hd
  | native _ => cases hd
  | facade _ hdel _ =>
      rcases hdel with hdel | hdel
      · exact hdel.symm.trans hd
      · rw [delegate?_facade, hdel] at hd
        cases hd

/-- What has a statement later on has had it before. -/
theorem handle? {c c' : Core} (h : Later c c') {n : Native.StatementId}
    (hn : c'.handle? = some n) : c.handle? = some n := by
  cases h with
  | released => cases hn
  | native hh =>
      rcases hh with rfl | rfl
      · exact hn
      · cases hn
  | facade _ _ _ => cases hn

/-- A released layer stays released. -/
theorem eq_released {c : Core} (h : Later .released c) : c = .released := by
  cases h
  rfl

/-- A facade of a tracker stays one, or is released. -/
theorem tracked {c c' : Core} (h : Later c c') {k : LinkId} {n : Nat}
    (ht : State.TrackedBy k n c) :
    c' = .released ∨ State.TrackedBy k n c' := by
  obtain ⟨f, rfl, hb⟩ := ht
  cases h with
  | released => exact .inl rfl
  | facade _ _ hb' =>
      rcases hb' with hb' | ⟨k', g, x, he, -⟩
      · exact .inr ⟨_, rfl, hb'.trans hb⟩
      · rw [hb] at he
        cases he

/-- A facade of a tracker was one before. -/
theorem tracked_before {c c' : Core} (h : Later c c') {k : LinkId} {n : Nat}
    (ht : State.TrackedBy k n c') : State.TrackedBy k n c := by
  obtain ⟨f', hf', hb'⟩ := ht
  cases h with
  | released => cases hf'
  | native => cases hf'
  | @facade f _ _ _ hb =>
      cases hf'
      refine ⟨f, rfl, ?_⟩
      rcases hb with hb | ⟨k', g, x, -, hb⟩
      · exact hb.symm.trans hb'
      · cases hb'.symm.trans hb

end Core.Later

namespace Layer.Later

theorem refl (l : Layer) : Later l l := ⟨rfl, rfl, rfl, .refl _⟩

theorem trans {l l' l'' : Layer} (h₁ : Later l l') (h₂ : Later l' l'') :
    Later l l'' where
  sql := h₂.sql.trans h₁.sql
  kind := h₂.kind.trans h₁.kind
  connection := h₂.connection.trans h₁.connection
  core := h₁.core.trans h₂.core

end Layer.Later

-- ========================================================== all layers

variable {p : Terms} {s t : State} {held held' loose loose' : List LayerId}
  {out out' : Option LayerId} {c c' : Scene}

namespace State

/-- Every layer is there later on. -/
structure Later (s t : State) : Prop where
  layer : ∀ {a l}, s.layer? a = some l → ∃ l', t.layer? a = some l' ∧ l.Later l'

theorem Later.refl (s : State) : s.Later s :=
  ⟨fun {_ l} hl => ⟨l, hl, .refl l⟩⟩

theorem Later.trans {u : State} (h₁ : s.Later t) (h₂ : t.Later u) :
    s.Later u := by
  refine ⟨fun hl => ?_⟩
  obtain ⟨l', hl', h⟩ := h₁.layer hl
  obtain ⟨l'', hl'', h'⟩ := h₂.layer hl'
  exact ⟨l'', hl'', h.trans h'⟩

/-- No layer goes away. -/
theorem Later.length_le (h : s.Later t) :
    s.layers.length ≤ t.layers.length := by
  by_contra hlt
  have hlt := Nat.lt_of_not_le hlt
  obtain ⟨l', hl', -⟩ := h.layer (List.getElem?_eq_getElem hlt)
  exact Nat.lt_irrefl _ (List.getElem?_eq_some_iff.1 hl').1

/-- What leaves the layers alone may come later on. -/
theorem Later.of_layers (h : t.layers = s.layers) : s.Later t :=
  ⟨fun {a l} hl => ⟨l, by rw [layer?_congr h]; exact hl, .refl l⟩⟩

/-- A core may be written that comes later on. -/
theorem Later.setCore {id : LayerId} {c : Core}
    (h : (s.core id).Later c) : s.Later (s.setCore id c) := by
  refine ⟨fun {a l} hl => ?_⟩
  rw [layer?_setCore]
  split
  · next he =>
    subst he
    rw [core_eq_of_layer? hl] at h
    exact ⟨{ l with core := c }, by rw [hl]; rfl, rfl, rfl, rfl, h⟩
  · exact ⟨l, hl, .refl l⟩

theorem Later.shut {id : LayerId} {f : Facade}
    (hid : s.core id = .facade f) :
    s.Later (s.setCore id (.facade f.shut)) := by
  refine .setCore ?_
  rw [hid]
  exact .shut f

/-- A layer may be added. -/
theorem Later.addLayer (s : State) (l : Layer) :
    s.Later (s.addLayer l).2 := by
  refine ⟨fun {a l'} hl => ?_⟩
  have hlt : a < s.layers.length := (List.getElem?_eq_some_iff.1 hl).1
  rw [layer?_addLayer_of_lt hlt]
  exact ⟨l', hl, .refl l'⟩

/-- A layer that was there has a core that comes later on. -/
theorem Later.core (h : s.Later t) {a : LayerId}
    (ha : a < s.layers.length) : (s.core a).Later (t.core a) := by
  obtain ⟨l', hl', hlater⟩ := h.layer (List.getElem?_eq_getElem ha)
  rw [core_eq_of_layer? hl', core_eq_of_layer? (List.getElem?_eq_getElem ha)]
  exact hlater.core

/-- A delegate was the delegate before, since a facade gets none later
on. -/
theorem Later.holds (h : s.Later t) {a d : LayerId}
    (ha : a < s.layers.length) (hh : t.Holds a d) : s.Holds a d :=
  (h.core ha).delegate? hh

/-- What is open later on has been open before, and over the same
statement. -/
theorem Later.stands (h : s.Later t) (hs : ∀ {a d}, s.Holds a d → d < a)
    {a : LayerId} (ha : a < s.layers.length) {n : Native.StatementId}
    (hn : t.Stands a n) : s.Stands a n := by
  induction hn with
  | native hn =>
      refine .native (Core.eq_native_of_handle? ((h.core ha).handle? ?_))
      rw [hn]
      rfl
  | facade hd _ ih =>
      have hd' := h.holds ha hd
      exact .facade hd' (ih (Nat.lt_trans (hs hd') ha))

/-- What lies under a layer later on has lain under it before. -/
theorem Later.over (h : s.Later t) (hs : ∀ {a d}, s.Holds a d → d < a)
    {a b : LayerId} (ha : a < s.layers.length) (hab : t.Over a b) :
    s.Over a b := by
  induction hab using Relation.ReflTransGen.head_induction_on with
  | refl => exact .refl
  | head hd _ ih =>
      have hd' := h.holds ha hd
      exact .head hd' (ih (Nat.lt_trans (hs hd') ha))

/-- What lies under a layer lies under it as long as the layer is open. -/
theorem Later.over_of_stands (h : s.Later t)
    (hs : ∀ {a d}, s.Holds a d → d < a) {a b : LayerId}
    (ha : a < s.layers.length) (hab : s.Over a b) {n : Native.StatementId}
    (hn : t.Stands a n) : t.Over a b := by
  induction hab using Relation.ReflTransGen.head_induction_on with
  | refl => exact .refl
  | @head a d hd _ ih =>
      cases hn with
      | native hc =>
          have hcore := h.core ha
          obtain ⟨f, hf, -⟩ := Core.exists_facade_of_delegate? hd
          rw [hf, hc] at hcore
          cases hcore
      | facade hd' hn' =>
          obtain rfl := (h.holds ha hd').unique hd
          exact .head hd' (ih (Nat.lt_trans (hs hd) ha) hn')

end State

/-- What comes after a move comes later on. -/
theorem Move.later (hm : Move p c c') : c.state.Later c'.state := by
  cases hm with
  | aside h => exact .of_layers h.layers
  | connect _ => exact .of_layers rfl
  | taint hid hb _ _ =>
      refine .setCore ?_
      rw [hid]
      exact .facade rfl (.inl rfl) (.inr ⟨_, _, _, hb, rfl⟩)
  | @make s st held loose l i hm hl _ _ =>
      exact (State.Later.addLayer s l).trans (.of_layers rfl)
  | decorate _ _ _ _ _ _ _ _ => exact .addLayer ..
  | shut hid _ _ => exact .shut hid
  | @letGo s held out loose id n hid _ =>
      refine State.Later.trans (t := s.setCore id (.native none)) (.setCore ?_)
        (.of_layers rfl)
      rw [hid]
      exact .native (.inr rfl)
  | @twin s held out loose id l f d k g hl hf hb hd _ =>
      exact (State.Later.shut ((State.core_eq_of_layer? hl).trans hf)).trans
        (.addLayer ..)
  | shift _ _ _ => exact .of_layers rfl
  | give => exact .refl _
  | letDown _ => exact .refl _
  | @free s held out loose id hne _ _ =>
      simp only [State.releaseLayer]
      split
      · exact State.Later.trans (t := s.setCore id .released)
          (.setCore .released) (.of_layers rfl)
      · exact .setCore .released

/-- A layer keeps its SQL and its kind, and what it has lost it never
has again. -/
theorem Moves.later (hm : Moves p c c') : c.state.Later c'.state := by
  induction hm with
  | refl => exact .refl _
  | tail _ hm ih => exact ih.trans hm.later

/-- Moves take no layer away. -/
theorem Moves.length_le (hm : Moves p c c') :
    c.state.layers.length ≤ c'.state.layers.length :=
  hm.later.length_le

/-- The driver forgets no statement, and what a statement was made from
stays as it is. -/
theorem Move.origins (hm : Move p c c') (h : c.Sound) :
    ∃ new, c'.state.native.statements.map Native.Statement.origin
        = c.state.native.statements.map Native.Statement.origin ++ new
      ∧ ((∀ i, ¬ p.creates i) → new = []) := by
  cases hm with
  | aside ha =>
      refine ⟨[], ?_, fun _ => rfl⟩
      rw [ha.native.origins, List.append_nil]
  | make hmade _ _ hcreates =>
      obtain ⟨i, -, hs⟩ := hmade.origins
      exact ⟨_, hs, fun hp => absurd hcreates (hp _)⟩
  | letGo hid _ =>
      refine ⟨[], ?_, fun _ => rfl⟩
      rw [List.append_nil]
      exact (Native.origins_dispose (h.mem_handles hid)).1
  | @free s _ _ _ id _ _ _ =>
      refine ⟨[], ?_, fun _ => rfl⟩
      rw [List.append_nil]
      show (s.releaseLayer id).native.statements.map _ = _
      rw [State.releaseLayer]
      split
      · next m hid =>
        exact (Native.origins_dispose (h.mem_handles hid)).1
      · rfl
  | _ => exact ⟨[], (List.append_nil _).symm, fun _ => rfl⟩

/-- Where nothing is asked for, nothing is made. -/
theorem Moves.origins (hm : Moves p c c') (h : c.Sound) :
    ∃ new, c'.state.native.statements.map Native.Statement.origin
        = c.state.native.statements.map Native.Statement.origin ++ new
      ∧ ((∀ i, ¬ p.creates i) → new = []) := by
  induction hm with
  | refl => exact ⟨[], (List.append_nil _).symm, fun _ => rfl⟩
  | tail hm hlast ih =>
      have hm : Moves p c _ := hm
      obtain ⟨new, hnew, hnone⟩ := ih
      obtain ⟨more, hmore, hnone'⟩ := hlast.origins (hm.sound h)
      refine ⟨new ++ more, by rw [hmore, hnew, List.append_assoc],
        fun hp => ?_⟩
      rw [hnone hp, hnone' hp]
      rfl

/-- Moves take none of the driver's statements away. -/
theorem Moves.statements_le (hm : Moves p c c') (h : c.Sound) :
    c.state.native.statements.length
      ≤ c'.state.native.statements.length := by
  obtain ⟨new, hnew, -⟩ := hm.origins h
  have hlen := congrArg List.length hnew
  rw [List.length_append, List.length_map, List.length_map] at hlen
  omega

-- ========================================================== new layers

/-- What a move can add: a handle of a statement that the driver just
made, a facade around what is on its way up, or one in the place of a
facade of a cache that is closed. -/
inductive Move.Adds (p : Terms) (c c' : Scene) (l : Layer) : Prop
  | handle {i} : l.core = .native (some c.state.native.statements.length) →
      c.state.native.Made c'.state.native l.kind l.sql →
      l.connection = some i → p.creates i → Adds p c c' l
  | facade {f d} : l.core = .facade f → f.delegate = some d →
      c.out = some d → c.state.Fresh f →
      (∀ {k g b}, f.behaviour = .cached k g b → p.creates k.connection) →
      (∃ i, l.connection = some i ∧ p.creates i) →
      (p.faithful → f.behaviour.isWatched = false ∧ ∃ l',
        c.state.layer? d = some l' ∧ l.sql = l'.sql ∧ l.kind = l'.kind) →
      Adds p c c' l
  | twin {b l' f d k g} : c.state.layer? b = some l' → l'.core = .facade f →
      f.behaviour = .cached k g false → f.delegate = some d →
      l = l'.twin f.level k g d → Adds p c c' l

/-- A layer that was not there before. -/
theorem Move.adds (hm : Move p c c') {a : LayerId} {l : Layer}
    (ha : c.state.layers.length ≤ a) (hl : c'.state.layer? a = some l) :
    Adds p c c' l := by
  -- a layer that was added to a state of the old length
  have hadded : ∀ {t : State} {l' : Layer},
      t.layers.length = c.state.layers.length →
      (t.addLayer l').2.layer? a = some l → l = l' := by
    intro t l' hlen hl
    rw [State.layer?_addLayer] at hl
    by_cases he : a = t.layers.length
    · rw [if_pos he] at hl
      exact (Option.some.inj hl).symm
    · rw [if_neg he] at hl
      have hlt := (List.getElem?_eq_some_iff.1 hl).1
      rw [hlen] at hlt
      exact absurd ha (Nat.not_le_of_lt hlt)
  have hsame : c'.state.layers.length = c.state.layers.length → False := by
    intro hlen
    have hlt := (List.getElem?_eq_some_iff.1 hl).1
    rw [hlen] at hlt
    exact Nat.lt_irrefl _ (Nat.lt_of_lt_of_le hlt ha)
  cases hm with
  | aside hs => exact (hsame (by rw [hs.layers])).elim
  | taint _ _ _ _ => exact (hsame (State.length_setCore ..)).elim
  | @make s _ _ _ new _ hmade hcore hi hcreates =>
      obtain rfl : l = new := hadded (t := s) rfl hl
      exact .handle hcore hmade hi hcreates
  | @decorate s _ _ _ new _ hf hd _ _ hfresh hcreates hof hfaith =>
      obtain rfl : l = new := hadded (t := s) rfl hl
      exact .facade hf hd rfl hfresh hcreates hof hfaith
  | shut _ _ _ => exact (hsame (State.length_setCore ..)).elim
  | letGo _ _ => exact (hsame (State.length_setCore ..)).elim
  | @twin s _ _ _ id old f _ _ _ hold hf hb hd _ =>
      exact .twin hold hf hb hd
        (hadded (t := s.setCore id (.facade f.shut))
          (State.length_setCore ..) hl)
  | free _ _ _ =>
      refine (hsame ?_).elim
      rw [State.releaseLayer]
      split <;> exact State.length_setCore ..
  | _ => exact (hsame rfl).elim

/-- A new layer stands on what was on its way up, or on the delegate of a
facade that was closed. -/
theorem Move.holds_new (hm : Move p c c') {a d : LayerId}
    (ha : c.state.layers.length ≤ a) (hd : c'.state.Holds a d) :
    c.out = some d ∨ ∃ b, c.state.Holds b d := by
  obtain ⟨l, hl, hcore⟩ := State.exists_layer hd.not_released
  rw [State.Holds, ← hcore] at hd
  cases hm.adds ha hl with
  | handle hnative _ _ _ =>
      rw [hnative] at hd
      cases hd
  | facade hf hdel hout _ _ _ =>
      rw [hf] at hd
      rw [hout]
      exact .inl (hdel.symm.trans hd)
  | @twin b l' f _ _ _ hb hf _ hdel hl' =>
      subst hl'
      cases hd
      exact .inr ⟨b, .of_facade ((State.core_eq_of_layer? hb).trans hf) hdel⟩

/-- What is in somebody's hands or under a facade stood, before the move,
where it stands after it. -/
theorem Move.stands_before (hm : Move p c c') (h : c.Sound) {d : LayerId}
    (hd : c.out = some d ∨ ∃ b, c.state.Holds b d)
    {n : Native.StatementId} (hn : c'.state.Stands d n) :
    c.state.Stands d n := by
  have holder : ∀ {x d}, c.state.Holds x d → d < x := h.formed.older
  refine hm.later.stands holder ?_ hn
  rcases hd with hd | ⟨b, hb⟩
  · exact State.lt_of_core (h.owned.living
      (.inr (Scene.mem_owned.2 (.inr (.inr (.inl hd))))))
  · exact State.lt_of_core (h.owned.living
      (.inr (Scene.mem_owned.2 (.inl (State.mem_delegates.2 ⟨b, hb⟩)))))

/-- What has no owner gets none: owners hand over what they have. -/
theorem Move.not_owned (hm : Move p c c') {a : LayerId}
    (ha : a < c.state.layers.length) (hn : a ∉ c.owned) : a ∉ c'.owned := by
  have hdel : a ∉ c'.state.delegates := by
    intro hd
    obtain ⟨b, hb⟩ := State.mem_delegates.1 hd
    apply hn
    by_cases hlt : b < c.state.layers.length
    · exact Scene.mem_owned.2 (.inl
        (State.mem_delegates.2 ⟨b, hm.later.holds hlt hb⟩))
    · rcases hm.holds_new (Nat.le_of_not_lt hlt) hb with ho | ⟨b', hb'⟩
      · exact Scene.mem_owned.2 (.inr (.inr (.inl ho)))
      · exact Scene.mem_owned.2 (.inl (State.mem_delegates.2 ⟨b', hb'⟩))
  have hparked : a ∉ c.state.parked := fun hp =>
    hn (Scene.mem_owned.2 (.inr (.inl hp)))
  have hout : a ∉ c.out := fun ho =>
    hn (Scene.mem_owned.2 (.inr (.inr (.inl ho))))
  have hloose : a ∉ c.loose := fun hl =>
    hn (Scene.mem_owned.2 (.inr (.inr (.inr hl))))
  have hold : ∀ b, b = c.state.layers.length → a ≠ b := fun b hb he => by
    rw [he, hb] at ha
    exact Nat.lt_irrefl _ ha
  have hrest : a ∉ c'.state.parked ∧ a ∉ c'.out ∧ a ∉ c'.loose := by
    cases hm with
    | @aside s t _ _ _ h =>
        have hp : t.parked = s.parked := by
          rw [State.parked_eq, h.caches, State.parked_eq]
        exact ⟨by rw [hp]; exact hparked, hout, hloose⟩
    | make _ _ _ _ =>
        refine ⟨hparked, fun ho => ?_, hloose⟩
        exact hold _ rfl (Option.some.inj ho).symm
    | decorate _ _ _ _ _ _ _ _ =>
        refine ⟨hparked, fun ho => ?_, hloose⟩
        exact hold _ rfl (Option.some.inj ho).symm
    | @shut s _ _ _ id f d hid hd _ =>
        refine ⟨hparked, hout, fun hl => ?_⟩
        rcases List.mem_cons.1 hl with rfl | hl
        · refine hn (Scene.mem_owned.2 (.inl (State.mem_delegates.2
            ⟨id, ?_⟩)))
          show (s.core id).delegate? = _
          rw [hid]
          exact hd
        · exact hloose hl
    | twin _ _ _ _ _ =>
        refine ⟨hparked, hout, fun hl => ?_⟩
        rcases List.mem_cons.1 hl with he | hl
        · exact hold _ rfl he
        · exact hloose hl
    | @shift s _ out out' loose loose' caches _ hle _ =>
        have hle := hle a
        rw [List.count_eq_zero.2 hparked, List.count_eq_zero.2 hloose,
          List.count_eq_zero.2 fun ho => hout (Option.mem_toList.1 ho)] at hle
        have hzero : ∀ {l : List LayerId}, l.count a = 0 → a ∉ l :=
          fun h => List.count_eq_zero.1 h
        have hshelves : s.parked.count a = 0 := List.count_eq_zero.2 hparked
        refine ⟨hzero ?_, fun ho => ?_, hzero ?_⟩
        · show (State.onShelves caches).count a = 0
          omega
        · have hpos : 0 < out'.toList.count a :=
            List.count_pos_iff.2 (Option.mem_toList.2 ho)
          omega
        · show loose'.count a = 0
          omega
    | give => exact ⟨hparked, (fun ho => by cases ho), hloose⟩
    | @free s _ _ _ id _ _ _ =>
        have hp : (s.releaseLayer id).parked = s.parked := by
          rw [State.releaseLayer]
          split <;> rfl
        exact ⟨by rw [hp]; exact hparked, hout, hloose⟩
    | _ => exact ⟨hparked, hout, hloose⟩
  rw [Scene.mem_owned]
  rintro (hd | hp | ho | hl)
  · exact hdel hd
  · exact hrest.1 hp
  · exact hrest.2.1 ho
  · exact hrest.2.2 hl

/-- A layer that nobody owns is not owned again. -/
theorem Moves.not_owned (hm : Moves p c c') {a : LayerId}
    (ha : a < c.state.layers.length) (hn : a ∉ c.owned) : a ∉ c'.owned := by
  induction hm with
  | refl => exact hn
  | tail hm hlast ih =>
      have hm : Moves p c _ := hm
      exact hlast.not_owned (Nat.lt_of_lt_of_le ha hm.later.length_le) ih

/-- A layer that is released, or a facade of a tracker, is on no shelf
and gets onto none. -/
theorem Moves.not_parked (hm : Moves p c c') (h : c.Sound) {a : LayerId}
    (ha : a < c.state.layers.length) {k : LinkId} {n : Nat}
    (ht : c.state.core a = .released ∨ State.TrackedBy k n (c.state.core a)) :
    a ∉ c'.state.parked := by
  intro hp
  obtain ⟨k', store, d, -, hcore⟩ := (hm.sound h).stocked.core_parked hp
  have hlater := hm.later.core ha
  rcases ht with hr | ht
  · rw [hr] at hlater
    rw [hlater.eq_released] at hcore
    cases hcore
  · rcases hlater.tracked ht with hr | ⟨f, hf, hb⟩
    · rw [hr] at hcore
      cases hcore
    · rw [hf] at hcore
      cases hcore
      cases hb

end PooledChain
