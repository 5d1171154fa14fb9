/-
The way down to the first facade of a cache.

Closing a handle closes the facades on the way down one after the other,
until it meets the facade of a cache, which decides what becomes of the
rest. `Leads` says where that is; `run_close_leads` says that closing the
handle is closing that facade, in a state where the facades on the way
are closed (`Stripped`).

Where the cache takes the statement, the new facade stands on the shelf
in front and on the statement that the handle stood on, whatever else was
thrown away for it (`close_parks`).
-/
import PooledChain.Proofs.Heap.Frame

namespace PooledChain

open Scene (Sound)

variable {s t u : State} {held loose : List LayerId}
  {out : Option LayerId} {id a : LayerId}

namespace State

/-- The first facade of a cache on the way down from a layer. -/
inductive Leads (s : State) : LayerId → LayerId → Prop
  | here {a f k g b} : s.core a = .facade f → f.behaviour = .cached k g b →
      Leads s a a
  | there {id f d a} : s.core id = .facade f →
      (∀ k g b, f.behaviour ≠ .cached k g b) → f.delegate = some d →
      Leads s d a → Leads s id a

/-- The facade that a layer leads to is below it. -/
theorem Leads.over (h : s.Leads id a) : s.Over id a := by
  induction h with
  | here _ _ => exact .refl
  | there hf _ hd _ ih =>
      exact .head (.of_facade hf hd) ih

namespace Leads

/-- It depends on the layers under the first one only. -/
theorem congr (h : s.Leads id a)
    (hc : ∀ x, s.Over id x → t.core x = s.core x) : t.Leads id a := by
  induction h with
  | here hf hb => exact .here ((hc _ .refl).trans hf) hb
  | there hf hb hd _ ih =>
      exact .there ((hc _ .refl).trans hf) hb hd (ih fun x hx =>
        hc x (.head (.of_facade hf hd) hx))

/-- It stays the first one as long as the layer is open. -/
theorem later (h : s.Leads id a) (hl : s.Later t)
    (hs : ∀ {a d}, s.Holds a d → d < a) (hid : id < s.layers.length)
    {n : Native.StatementId} (hn : t.Stands id n) : t.Leads id a := by
  induction h with
  | @here a f k g b hf hb =>
      have hlater := hl.core hid
      rw [hf] at hlater
      generalize hc : t.core a = c at hlater
      cases hlater with
      | released => exact absurd hc hn.not_released
      | facade _ _ hb' =>
          rcases hb' with hb' | ⟨k', g', x, -, he⟩
          · exact .here hc (hb'.trans hb)
          · exact .here hc he
  | @there id f d a hf hb hd _ ih =>
      have hlater := hl.core hid
      rw [hf] at hlater
      generalize hc : t.core id = c at hlater
      cases hlater with
      | released => exact absurd hc hn.not_released
      | @facade _ f' _ hd' hb' =>
          have hholds : s.Holds id d := .of_facade hf hd
          have hplain : f'.behaviour = f.behaviour := by
            rcases hb' with hb' | ⟨k, g, x, he, -⟩
            · exact hb'
            · exact absurd he (hb k g x)
          rcases hd' with hd' | hd'
          · have hdel : f'.delegate = some d := hd'.trans hd
            have hn' : t.Stands d n := hn.of_holds (.of_facade hc hdel)
            have hlt := Nat.lt_trans (hs hholds) hid
            refine .there hc (fun k g b => ?_) hdel (ih hlt hn')
            rw [hplain]
            exact hb k g b
          · cases hn with
            | native hn => rw [hc] at hn; cases hn
            | facade hh _ =>
                rw [Holds, hc] at hh
                rw [Core.delegate?_facade, hd'] at hh
                cases hh

end Leads

/-- A state in which the facades on the way from `id` down to `a` are
closed, and nothing else has changed. -/
structure Stripped (s : State) (id a : LayerId) (t : State) : Prop where
  caches : t.caches = s.caches
  native : t.native = s.native
  connections : t.connections = s.connections
  length : t.layers.length = s.layers.length
  layer : ∀ {x}, (s.Over id x → x ≤ a) → t.layer? x = s.layer? x

theorem Stripped.refl (s : State) (a : LayerId) : s.Stripped a a s :=
  ⟨rfl, rfl, rfl, rfl, fun _ => rfl⟩

/-- What is not on the way down has the core it had. -/
theorem Stripped.core (h : s.Stripped id a t) {x : LayerId}
    (hx : s.Over id x → x ≤ a) : t.core x = s.core x :=
  core_congr_layer (h.layer hx)

/-- The way may start one facade further up, which is closed first. -/
theorem Stripped.head {s' : State} {f : Facade} {d : LayerId}
    (h : s'.Stripped d a t) (hs : s.Formed) (hid : s.core id = .facade f)
    (hd : f.delegate = some d) (had : a ≤ d)
    (hs' : (s.setCore id (.facade f.shut)).Alike s') :
    s.Stripped id a t where
  caches := h.caches.trans hs'.caches
  native := h.native.trans hs'.native
  connections := h.connections.trans hs'.connections
  length := by rw [h.length, hs'.layers, length_setCore]
  layer {x} hx := by
    have hholds : s.Holds id d := .of_facade hid hd
    have hlt : d < id := hs.older hholds
    have hne : x ≠ id := fun he => by
      subst he
      exact Nat.not_lt_of_le (hx .refl) (Nat.lt_of_le_of_lt had hlt)
    have hlater : s.Later s' := (Later.shut hid).trans (.of_layers hs'.layers)
    have hdlt : d < s.layers.length :=
      Nat.lt_trans hlt (lt_of_core (Core.ne_released_of_facade hid))
    rw [h.layer fun hover => hx
        (.head hholds (hlater.over hs.older hdlt hover)),
      layer?_congr hs'.layers, layer?_setCore, if_neg hne]

end State

namespace Act

open State (Stripped Leads)

/-- A facade on the way is shut, and what is under it is closed. -/
theorem run_close_there {f : Facade} {d : LayerId} (depth : Nat)
    (hs : s.Formed) (hid : s.core id = .facade f)
    (hb : ∀ k g b, f.behaviour ≠ .cached k g b)
    (hd : f.delegate = some d) :
    ∃ s', (s.setCore id (.facade f.shut)).Alike s'
      ∧ (within (depth + 1) id .close).run s
        = (((within depth d .close).run s').1.map fun _ => .unit,
           ((within depth d .close).run s').2) := by
  obtain ⟨l, hl, -⟩ := State.exists_layer (Core.ne_released_of_facade hid)
  obtain ⟨s', hs', hrun⟩ := run_closeDelegate_other (within depth) id l d hb
    (s.setCore id (.facade f.shut))
  refine ⟨s', hs', ?_⟩
  rw [run_within_facade hl hid]
  show (closeFacade (within depth) id l f).run s = _
  rw [run_closeFacade (hs.closed_eq_false hid hd) hd, hrun, run_closeBelow]
  rcases (within depth d .close).run s' with ⟨_ | _, v⟩ <;> rfl

/-- Closing a handle is closing the first facade of a cache under it. -/
theorem run_close_leads {depth : Nat} {l : Layer} {f : Facade}
    {d : LayerId} (h : Sound ⟨s, held, out, loose⟩) (hid : id ∉ s.parked)
    (hlead : s.Leads id a) (hl : s.layer? a = some l)
    (hf : l.core = .facade f) (hd : f.delegate = some d)
    (hlevel : (s.core id).level ≤ depth) :
    ∃ below t, s.Stripped id a t ∧ Sound ⟨t, held, out, loose⟩
      ∧ a ∉ t.parked ∧ (within depth id .close).run s
        = (((closeDelegate (within below) a l f d).run
              (t.setCore a (.facade f.shut))).1.map fun _ => .unit,
           ((closeDelegate (within below) a l f d).run
              (t.setCore a (.facade f.shut))).2) := by
  induction depth generalizing s id loose with
  | zero =>
      -- there is something under a facade
      have hholds : ∃ d', s.Holds id d' := by
        cases hlead with
        | here _ _ =>
            exact ⟨d, .of_facade ((State.core_eq_of_layer? hl).trans hf) hd⟩
        | there hf' _ hd' _ => exact ⟨_, .of_facade hf' hd'⟩
      obtain ⟨d', hd'⟩ := hholds
      have hlow : (s.core d').level < (s.core id).level :=
        h.formed.leveled hd'
      exact absurd (Nat.lt_of_lt_of_le hlow hlevel) (Nat.not_lt_zero _)
  | succ depth ih =>
      cases hlead with
      | here hcore _ =>
          have hcore : s.core a = .facade f :=
            (State.core_eq_of_layer? hl).trans hf
          have hopen : f.closed = false :=
            h.formed.closed_eq_false hcore hd
          exact ⟨depth, s, .refl s a, h, hid,
            (run_within_facade hl hcore depth .close).trans
              (run_closeFacade hopen hd)⟩
      | @there _ f' d' _ hcore hb hdel hrest =>
          have hholds : s.Holds id d' := .of_facade hcore hdel
          have hlt : d' < id := h.formed.older hholds
          have had : a ≤ d' := hrest.over.le h.formed.older
          obtain ⟨s', hs', hrun⟩ :=
            run_close_there depth h.formed hcore hb hdel
          have hsound := (h.shut hcore hdel hid).aside (g := false)
            (.of_alike hs')
          -- what is under the facade is as it was
          have hlayer : ∀ {x}, x ≤ d' → s'.layer? x = s.layer? x := by
            intro x hx
            rw [State.layer?_congr hs'.layers, State.layer?_setCore,
              if_neg (Nat.ne_of_lt (Nat.lt_of_le_of_lt hx hlt))]
          have hunder : ∀ x, s.Over d' x → s'.core x = s.core x :=
            fun x hx => State.core_congr_layer
              (hlayer (hx.le h.formed.older))
          have hl' : s'.layer? a = some l := (hlayer had).trans hl
          have hlevel' : (s'.core d').level ≤ depth := by
            rw [hunder d' .refl]
            exact Nat.le_of_lt_succ
              (Nat.lt_of_lt_of_le (h.formed.leveled hholds) hlevel)
          obtain ⟨below, t, hstrip, hsound', hpark, hclose⟩ := ih hsound
            (hsound.not_parked List.mem_cons_self) (hrest.congr hunder) hl'
            hlevel'
          refine ⟨below, t, hstrip.head h.formed hcore hdel had hs',
            hsound'.rehand fun x => ?_, hpark, ?_⟩
          · rw [List.count_cons]
            omega
          · rw [hrun, hclose]
            rcases (closeDelegate (within below) a l f d).run
              (t.setCore a (.facade f.shut)) with ⟨_ | _, v⟩ <;> rfl

end Act

-- ============================================================= parking

/-- What a handle that was closed has become: its statement is parked by
the cache `k`, in front, under a new layer. Besides the layers under the
handle only those under what had to go are touched, and those under what
caches below have parked. -/
structure State.Parks (s : State) (id : LayerId) (k : LinkId)
    (store : CacheStore) (sql : String) (twin : Layer) (t : State) :
    Prop where
  shelf : t.caches.get? k = some (store.park sql s.layers.length).1
  layer : t.layer? s.layers.length = some twin
  frame : State.Frame (fun k' => k'.place < k.place ∨ k' = k)
    (fun x => s.Over id x
      ∨ (∃ e, (store.park sql s.layers.length).2 = some e ∧ s.Over e x)
      ∨ ∃ e, s.ParkedIn (fun k' => k'.place < k.place) e ∧ s.Over e x) s t

namespace Act

open State (Frame Stripped)

variable {l : Layer} {f : Facade} {k : LinkId} {g : Nat} {d : LayerId}
  {n : Native.StatementId} {store : CacheStore} {sql : String}

/-- What a shelf has no room for is thrown away; what is still there
stays as it is. -/
theorem close_evicts (depth : Nat) {e : LayerId}
    (h : Sound ⟨s, held, out, e :: loose⟩) {store' : CacheStore}
    (hk : s.caches.get? k = some store') {twin : LayerId} {sql' : String}
    (hin : (sql', twin) ∈ store'.entries) (hn : s.Stands twin n)
    (he : (s.core e).level = k.place + 1) :
    Frame (fun k' => k'.place < k.place)
        (s.Exposed (fun k' => k'.place < k.place) e) s
        ((discard (within depth) e).run s).2
      ∧ ∀ x, s.Over twin x →
        ((discard (within depth) e).run s).2.layer? x = s.layer? x := by
  have hframe : Frame (fun k' => k'.place < k.place) _ s
      ((discard (within depth) e).run s).2 :=
    Frames.discard (frames_within _ depth) h fun {d'} hd' => by
      have hlow : (s.core d').level < (s.core e).level :=
        h.formed.leveled hd'
      refine State.confined_below h ?_
      rw [he] at hlow
      exact Nat.le_of_lt_succ hlow
  refine ⟨hframe, fun x hx => ?_⟩
  have hmem := Keyed.mem_of_get? hk
  have hparked : twin ∈ s.parked :=
    State.mem_onShelves.2 ⟨k, store', sql', hmem, hin⟩
  have htop : Scene.Top ⟨s, held, out, e :: loose⟩ twin :=
    .inr (.inl hparked)
  have hlt : x < s.layers.length := by
    exact State.lt_of_core (hn.of_over hx).not_released
  refine hframe.layer hlt ?_
  rintro (hex | ⟨e', he', hex⟩)
  · have heq := h.owned.top_unique htop
      (.inr (.inr (.inr List.mem_cons_self))) hx hex
    exact h.owned.ne_of_loose hparked List.mem_cons_self heq
  · obtain ⟨k', st, sql'', hin', hplace, hmem'⟩ := he'
    have htop' : Scene.Top ⟨s, held, out, e :: loose⟩ e' :=
      .inr (.inl (State.mem_onShelves.2 ⟨k', st, sql'', hin', hmem'⟩))
    have heq := h.owned.top_unique htop htop' hx hex
    subst heq
    -- it would be a facade of two caches
    obtain ⟨l₁, d₁, hl₁, -, hc₁⟩ := (h.stocked.shelved hmem).entry hin
    obtain ⟨l₂, d₂, hl₂, -, hc₂⟩ := (h.stocked.shelved hin').entry hmem'
    rw [hl₁] at hl₂
    cases hl₂
    have hlevel := congrArg Core.level (hc₁.symm.trans hc₂)
    simp only [Core.level] at hlevel
    omega

/-- The way down is closed, and the rest is parked: what is not on the way
stays as it is, and the new layer stands on what is under it. -/
theorem shelve_stripped (h : Sound ⟨s, held, out, loose⟩)
    (hstrip : s.Stripped id a t) (hover : s.Over id a)
    (hd : s.Holds a d) (hn : s.Stands d n) (store : CacheStore)
    (sql : String) (twin : Layer)
    (htwin : twin.core.delegate? = some d) (c : Core) :
    Frame (· = k) (s.Over id) s ((t.setCore a c).shelve k store sql twin)
      ∧ ((t.setCore a c).shelve k store sql twin).layer? s.layers.length
        = some twin
      ∧ ((t.setCore a c).shelve k store sql twin).Stands s.layers.length
        n := by
  have hlen : (t.setCore a c).layers.length = s.layers.length := by
    rw [State.length_setCore, hstrip.length]
  have hnew : ((t.setCore a c).shelve k store sql twin).layer?
      s.layers.length = some twin := by
    show ((t.setCore a c).addLayer twin).2.layer? _ = _
    rw [State.layer?_addLayer, hlen, if_pos rfl]
  have hold : ∀ {x}, x < s.layers.length → x ≠ a →
      (s.Over id x → x ≤ a) →
      ((t.setCore a c).shelve k store sql twin).layer? x
        = s.layer? x := by
    intro x hx hxa hlow
    show ((t.setCore a c).addLayer twin).2.layer? x = _
    rw [State.layer?_addLayer, hlen, if_neg (Nat.ne_of_lt hx),
      State.layer?_setCore, if_neg hxa, hstrip.layer hlow]
  have hda : d < a := h.formed.older hd
  refine ⟨⟨fun {k'} hk' => ?_, fun {x} hx hn => ?_⟩, hnew, ?_⟩
  · show (t.caches.set k _).get? k' = _
    rw [Keyed.get?_set, if_neg hk', hstrip.caches]
  · refine hold hx (fun he => hn ?_) fun hx' => absurd hx' hn
    rw [he]
    exact hover
  · refine .facade (d := d) ?_ (hn.congr fun x hx => ?_)
    · rw [State.Holds, State.core_eq_of_layer? hnew]
      exact htwin
    · have hxa : x < a := Nat.lt_of_le_of_lt (hx.le h.formed.older) hda
      have hlt := State.lt_of_core (hn.of_over hx).not_released
      exact State.core_congr_layer
        (hold hlt (Nat.ne_of_lt hxa) fun _ => Nat.le_of_lt hxa)

/-- What is under the first facade of the cache has not been touched. -/
theorem isClosed_stripped (h : Sound ⟨s, held, out, loose⟩)
    (h₁ : Sound ⟨t, held, out, loose⟩) (hstrip : s.Stripped id a t)
    (hcore : s.core a = .facade f) (hd : f.delegate = some d)
    (hpark : a ∉ t.parked) (hn : s.Stands d n) :
    (t.setCore a (.facade f.shut)).isClosed d = false := by
  have hcore₁ : t.core a = .facade f :=
    (hstrip.core fun _ => Nat.le_refl _).trans hcore
  have hshut := h₁.shut hcore₁ hd hpark
  have hda : d < a := h.formed.older (.of_facade hcore hd)
  refine (State.isClosed_eq_false_iff hshut.formed.leveled
    hshut.formed.hollow).2 ⟨n, hn.congr fun x hx => ?_⟩
  have hxa : x < a := Nat.lt_of_le_of_lt (hx.le h.formed.older) hda
  rw [State.core_setCore_of_ne (Nat.ne_of_lt hxa)]
  exact hstrip.core fun _ => Nat.le_of_lt hxa

/-- What is parked has nothing in common with what is held. -/
theorem layer?_of_parked (h : Sound ⟨s, held, out, loose⟩)
    (hheld : id ∈ held) {K : LinkId → Prop}
    (hframe : Frame K (s.Over id) s t) {r x : LayerId} (hr : r ∈ s.parked)
    (hx : s.Over r x) : t.layer? x = s.layer? x := by
  have hid : id ∉ s.parked := h.owned.not_parked_of_held hheld
  have hlive := h.owned.living
    (.inr (Scene.mem_owned.2 (.inr (.inl hr))))
  have hlt : x < s.layers.length :=
    Nat.lt_of_le_of_lt (hx.le h.formed.older) (State.lt_of_core hlive)
  refine hframe.layer hlt fun ho => hid ?_
  rw [h.owned.top_unique (.inl hheld) (.inr (.inl hr)) ho hx]
  exact hr

/-- What can be reached from a layer that was parked could be reached
from it before. -/
theorem exposed_of_parked (h : Sound ⟨s, held, out, loose⟩)
    (hheld : id ∈ held) (hframe : Frame (· = k) (s.Over id) s t)
    (ht : t.caches.Distinct) {e x : LayerId} (he : e ∈ s.parked)
    (hx : t.Exposed (fun k' => k'.place < k.place) e x) :
    s.Exposed (fun k' => k'.place < k.place) e x := by
  have hback : ∀ {r}, r ∈ s.parked → t.Over r x → s.Over r x :=
    fun hr hx => hx.of_congr fun y hy =>
      State.core_congr_layer (layer?_of_parked h hheld hframe hr hy)
  rcases hx with hx | ⟨e', ⟨k', st, sql', hin, hplace, hmem⟩, hx⟩
  · exact .inl (hback he hx)
  · have hne : k' ≠ k := fun he => by
      subst he
      exact Nat.lt_irrefl _ hplace
    have hin' : (k', st) ∈ s.caches.entries := Keyed.mem_of_get?
      ((hframe.caches hne).symm.trans (Keyed.get?_of_mem ht hin))
    have he' : e' ∈ s.parked :=
      State.mem_onShelves.2 ⟨k', st, sql', hin', hmem⟩
    exact .inr ⟨e', ⟨k', st, sql', hin', hplace, hmem⟩, hback he' hx⟩

/-- A handle is closed whose cache takes the statement: it is parked in
front, and stays open. -/
theorem close_parks (h : Sound ⟨s, held, out, loose⟩)
    (hheld : id ∈ held) (hlead : s.Leads id a) (hl : s.layer? a = some l)
    (hf : l.core = .facade f) (hb : f.behaviour = .cached k g false)
    (hd : f.delegate = some d) (hn : s.Stands id n)
    (hk : s.caches.get? k = some store) (hroom : 0 < store.capacity)
    (hsql : l.sql = some sql) (ha : store.accepts sql g = true) :
    ∃ t, (dispatch id .close).run s = (.ok .unit, t)
      ∧ s.Parks id k store sql (l.twin f.level k g d) t
      ∧ t.Stands s.layers.length n := by
  have hid : id ∉ s.parked := h.owned.not_parked_of_held hheld
  obtain ⟨below, s₁, hstrip, h₁, hpark, hrun⟩ :=
    run_close_leads h hid hlead hl hf hd (Nat.le_refl _)
  have hcore : s.core a = .facade f := (State.core_eq_of_layer? hl).trans hf
  have hholds : s.Holds a d := .of_facade hcore hd
  have hl₁ : s₁.layer? a = some l :=
    (hstrip.layer fun _ => Nat.le_refl _).trans hl
  have hk₁ : s₁.caches.get? k = some store := by
    rw [hstrip.caches]
    exact hk
  have hmoves : Moves (.free false) _ _ :=
    moves_shelve h₁ hl₁ hf hb hd (.inr ⟨trivial, hpark⟩) hk₁ hsql ha
  rw [hstrip.length] at hmoves
  have hdn : s.Stands d n := (hn.of_over hlead.over).of_holds hholds
  obtain ⟨hframe, hnew, hstands⟩ := shelve_stripped (k := k) h hstrip
    hlead.over hholds hdn store sql (l.twin f.level k g d) rfl
    (.facade f.shut)
  have hopen := isClosed_stripped h h₁ hstrip hcore hd hpark hdn
  have hlen : (s₁.setCore a (.facade f.shut)).layers.length
      = s.layers.length := by
    rw [State.length_setCore, hstrip.length]
  have hk₂ : (s₁.setCore a (.facade f.shut)).caches.get? k = some store := hk₁
  have hclose : (dispatch id .close).run s
      = (within (s.core id).level id .close).run s := rfl
  rw [hclose, hrun, run_closeDelegate_cached hb, if_neg Bool.false_ne_true,
    hopen, if_neg Bool.false_ne_true, run_park hk₂ hsql ha, hlen]
  have hshelf : ((s₁.setCore a (.facade f.shut)).shelve k store sql
      (l.twin f.level k g d)).caches.get? k
        = some (store.park sql s.layers.length).1 := by
    show (s₁.caches.set k _).get? k = _
    rw [Keyed.get?_set, if_pos rfl, hlen]
  generalize (s₁.setCore a (.facade f.shut)).shelve k store sql
    (l.twin f.level k g d) = v at *
  cases hev : (store.park sql s.layers.length).2 with
  | none =>
      refine ⟨v, rfl, ⟨hshelf, hnew, ?_, ?_⟩, hstands⟩
      · exact fun hk' => hframe.caches fun he => hk' (.inr he)
      · exact fun hx hhit => hframe.layer hx fun ho => hhit (.inl ho)
  | some e =>
      rw [hev] at hmoves
      have hv : Sound ⟨v, held, out, e :: loose⟩ := hmoves.sound h₁
      have hin := Keyed.mem_of_get? hk
      obtain ⟨sql', hmem⟩ := store.mem_of_park_evicts sql _ hroom hev
      have hep : e ∈ s.parked :=
        State.mem_onShelves.2 ⟨k, store, sql', hin, hmem⟩
      have hlevel : (v.core e).level = k.place + 1 := by
        obtain ⟨l', d', hl', -, hc'⟩ := (h.stocked.shelved hin).entry hmem
        rw [State.core_congr_layer (layer?_of_parked h hheld hframe hep .refl),
          State.core_eq_of_layer? hl', hc']
        rfl
      have hfront : (sql, s.layers.length)
          ∈ (store.park sql s.layers.length).1.entries :=
        List.mem_of_mem_head? (store.head?_park _ _
          (h.stocked.shelved hin).fits hroom)
      obtain ⟨hframe', hkeep⟩ := close_evicts below hv hshelf
        hfront hstands hlevel
      obtain ⟨t, hrun'⟩ := run_discard_ok (within below) e v
      rw [hrun'] at hframe' hkeep
      refine ⟨t, by simp only [hrun']; rfl, ⟨?_, ?_, ⟨fun {k'} hk' => ?_,
        fun {x} hx hhit => ?_⟩⟩, ?_⟩
      · exact (hframe'.caches (Nat.lt_irrefl _)).trans hshelf
      · exact (hkeep _ .refl).trans hnew
      · exact (hframe'.caches fun he => hk' (.inl he)).trans
          (hframe.caches fun he => hk' (.inr he))
      · have hlt : x < v.layers.length :=
          Nat.lt_trans hx (List.getElem?_eq_some_iff.1 hnew).1
        refine (hframe'.layer hlt fun hex => hhit ?_).trans
          (hframe.layer hx fun ho => hhit (.inl ho))
        rcases exposed_of_parked h hheld hframe hv.stocked.distinct hep hex
          with hex | hex
        · exact .inr (.inl ⟨e, hev, hex⟩)
        · exact .inr (.inr hex)
      · exact hstands.congr fun x hx => State.core_congr_layer (hkeep x hx)

end Act

end PooledChain
