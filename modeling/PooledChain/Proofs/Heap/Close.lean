/-
Closing a stack of layers, and parking what is under a facade of a
cache.

Closing takes the delegate from a facade and closes it in its turn, down
to the native handle; a facade of a cache may put its delegate on a
shelf instead. Whatever way it goes, and whether it fails or not, it is
a sequence of moves: the layer closed is in the closer's hands, or one
that may be closed where it stands, and every delegate on the way is in
the closer's hands when it is its turn (`closes_within`,
`moves_close`). The same holds of a statement that is thrown away
(`moves_discardParked`).
-/
import PooledChain.Proofs.Heap.Marks
import PooledChain.Proofs.Heap.Shelf

namespace PooledChain

open Scene (Sound)

variable {p : Terms} {s t : State} {held loose loose' : List LayerId}
  {out : Option LayerId} {id d : LayerId}

-- ============================================================ hands

namespace Moves

theorem refl (c : Scene) : Moves p c c := Relation.ReflTransGen.refl

theorem single {c c' : Scene} (h : Move p c c') : Moves p c c' :=
  Relation.ReflTransGen.single h

theorem trans {c c' c'' : Scene} (h₁ : Moves p c c')
    (h₂ : Moves p c' c'') : Moves p c c'' :=
  Relation.ReflTransGen.trans h₁ h₂

/-- What is in hand is thrown away or put in another order. -/
theorem rehand (h : Sound ⟨s, held, out, loose⟩)
    (hle : ∀ a, loose'.count a ≤ loose.count a) :
    Moves p ⟨s, held, out, loose⟩ ⟨s, held, out, loose'⟩ := by
  refine .single (.shift (h.shelves p) (fun a => ?_) fun he => .inl he)
  rw [State.parked_eq]
  exact Nat.add_le_add_left (hle a) _

/-- What is in hand is thrown away. -/
theorem drop (h : Sound ⟨s, held, out, d :: loose⟩) :
    Moves p ⟨s, held, out, d :: loose⟩ ⟨s, held, out, loose⟩ :=
  rehand h fun a => by
    rw [List.count_cons]
    exact Nat.le_add_right _ _

/-- A change that passes the scene by is a move. -/
theorem aside (h : Aside p.guarded s t) :
    Moves p ⟨s, held, out, loose⟩ ⟨t, held, out, loose⟩ :=
  .single (.aside h)

end Moves

namespace Act

variable {below : Below}

/-- The layers under the one at hand are closed by moves. -/
def Closes (p : Terms) (below : Below) : Prop :=
  ∀ {s held out loose id}, Sound ⟨s, held, out, loose⟩ → id ∈ loose →
    Moves p ⟨s, held, out, loose⟩
      ⟨((below id .close).run s).2, held, out, loose⟩

/-- Closing the layer below has its answer dropped. -/
theorem run_closeBelow (below : Below) (d : LayerId) (s : State) :
    (closeBelow below d).run s
      = (((below d .close).run s).1.map fun _ => ⟨⟩,
         ((below d .close).run s).2) := by
  unfold closeBelow
  rw [run_bind]
  rcases (below d .close).run s with ⟨_ | _, t⟩ <;> rfl

/-- A layer in hand is closed and then thrown away. -/
theorem Closes.closeBelow (hbelow : Closes p below)
    (h : Sound ⟨s, held, out, d :: loose⟩) :
    Moves p ⟨s, held, out, d :: loose⟩
      ⟨((closeBelow below d).run s).2, held, out, loose⟩ := by
  have hm := hbelow h List.mem_cons_self
  rw [run_closeBelow]
  exact hm.trans (.drop (hm.sound h))

-- ==================================================== throwing away

/-- What became of a facade that is retired: it is closed, and its
delegate is in somebody's hands. -/
theorem run_retire {f : Facade} (hid : s.core id = .facade f) :
    (retire id).run s
      = (.ok f.delegate, s.setCore id (.facade f.shut)) := by
  unfold retire
  rw [run_bind, run_get]
  simp only [State.facade?_eq_some.2 hid]
  rfl

/-- What is no facade has no delegate to let go of. -/
theorem run_retire_of_not_facade (hid : s.facade? id = none) :
    (retire id).run s = (.ok none, s) := by
  unfold retire
  rw [run_bind, run_get]
  simp only [hid]
  rfl

/-- Throwing away a facade never fails. -/
theorem run_discard (below : Below) {f : Facade}
    (hid : s.core id = .facade f) :
    ∃ t, (((f.delegate.map fun d =>
          ((closeBelow below d).run (s.setCore id (.facade f.shut))).2).getD
          (s.setCore id (.facade f.shut))).Alike t)
      ∧ (discard below id).run s = (.ok ⟨⟩, t) := by
  unfold discard
  rw [run_bind, run_get]
  simp only
  rw [run_bind, run_retire hid]
  simp only
  cases f.delegate with
  | none => exact ⟨_, .refl _, rfl⟩
  | some d =>
      simp only [Option.map_some, Option.getD_some]
      rw [run_bind, run_attempt]
      rcases (closeBelow below d).run (s.setCore id (.facade f.shut))
        with ⟨e | ⟨⟩, t⟩
      · refine ⟨_, ?_, rfl⟩
        exact ⟨rfl, rfl, rfl, rfl, fun h => h⟩
      · exact ⟨t, .refl t, rfl⟩

/-- What is not a facade is left as it is. -/
theorem run_discard_of_not_facade (below : Below)
    (hid : s.facade? id = none) :
    (discard below id).run s = (.ok ⟨⟩, s) := by
  unfold discard
  rw [run_bind, run_get]
  simp only
  rw [run_bind, run_retire_of_not_facade hid]
  rfl

/-- Throwing away a layer never fails. -/
theorem run_discard_ok (below : Below) (id : LayerId) (s : State) :
    ∃ t, (discard below id).run s = (.ok ⟨⟩, t) := by
  cases hf : s.facade? id with
  | none => exact ⟨s, run_discard_of_not_facade below hf⟩
  | some f =>
      obtain ⟨t, -, hrun⟩ := run_discard below (State.facade?_eq_some.1 hf)
      exact ⟨t, hrun⟩

/-- A layer in hand is thrown away: it is closed, and its delegate after
it. -/
theorem Closes.discard (hbelow : Closes p below)
    (h : Sound ⟨s, held, out, id :: loose⟩) :
    Moves p ⟨s, held, out, id :: loose⟩
      ⟨((discard below id).run s).2, held, out, loose⟩ := by
  cases hf : s.facade? id with
  | none =>
      rw [run_discard_of_not_facade below hf]
      exact .drop h
  | some f =>
      have hid := State.facade?_eq_some.1 hf
      obtain ⟨t, ht, hrun⟩ := run_discard below hid
      rw [hrun]
      cases hd : f.delegate with
      | none =>
          have hclosed : f.closed = f.delegate.isNone := h.formed.hollow hid
          have hshut : f.shut = f := by
            rw [Facade.shut, ← hd]
            rw [hd] at hclosed
            cases f
            cases hclosed
            rfl
          have hsame : s.setCore id (.facade f.shut) = s := by
            rw [hshut, ← hid]
            exact State.setCore_core id
          rw [hd, Option.map_none, Option.getD_none, hsame] at ht
          exact (Moves.drop h).trans (.aside (.of_alike ht))
      | some d =>
          rw [hd, Option.map_some, Option.getD_some] at ht
          have hshut : Move p ⟨s, held, out, id :: loose⟩
              ⟨s.setCore id (.facade f.shut), held, out,
                d :: id :: loose⟩ :=
            .shut hid hd (.inl List.mem_cons_self)
          have hclose := hbelow.closeBelow (hshut.sound h)
          have hm := (Moves.single hshut).trans hclose
          have hdrop := hm.trans (.drop (hm.sound h))
          exact hdrop.trans (.aside (.of_alike ht))

-- ============================================================ parking

end Act

/-- The state after a new layer was put on a shelf. -/
def State.shelve (s : State) (k : LinkId) (store : CacheStore)
    (sql : String) (l : Layer) : State :=
  { (s.addLayer l).2 with
    caches := s.caches.set k (store.park sql s.layers.length).1 }

namespace Act

variable {below : Below} {l : Layer} {f : Facade} {k : LinkId} {g : Nat}
  {store : CacheStore} {sql : String}

/-- Parking where the shelf is there and takes the statement. -/
theorem run_park (hk : s.caches.get? k = some store)
    (hl : l.sql = some sql) (ha : store.accepts sql g = true)
    (level : Nat) :
    (park below l level k g d).run s
      = match (store.park sql s.layers.length).2 with
        | some e =>
          (discard below e).run (s.shelve k store sql (l.twin level k g d))
        | none => (.ok ⟨⟩, s.shelve k store sql (l.twin level k g d)) := by
  obtain ⟨lsql, kind, connection, core⟩ := l
  cases hl
  unfold park
  rw [run_bind, run_get]
  simp only [hk, ha, if_true]
  rw [run_bind, run_set]
  simp only [State.addLayer]
  cases (store.park sql s.layers.length).2 <;> rfl

/-- Parking where the shelf is gone or does not take the statement, which
is closed then. -/
theorem run_park_refused
    (h : ∀ store sql, s.caches.get? k = some store → l.sql = some sql →
      store.accepts sql g = false) (level : Nat) :
    (park below l level k g d).run s = (closeBelow below d).run s := by
  unfold park
  rw [run_bind, run_get]
  simp only
  split
  · next store sql hk hl =>
    rw [h store sql hk hl]
    rfl
  · rfl

/-- What a facade of a cache does when it is closed. -/
theorem run_closeDelegate_cached {b : Bool}
    (hb : f.behaviour = .cached k g b) :
    (closeDelegate below id l f d).run s
      = if b then (closeBelow below d).run s
        else if s.isClosed d then (.ok ⟨⟩, s)
        else (park below l f.level k g d).run s := by
  unfold closeDelegate
  rw [hb]
  simp only
  cases b with
  | true => rfl
  | false =>
      simp only [Bool.false_eq_true, if_false]
      rw [run_bind, run_get]
      simp only
      split <;> rfl

/-- Any other facade closes its delegate, perhaps after noting it. -/
theorem run_closeDelegate_other (below : Below) (id : LayerId)
    (l : Layer) (d : LayerId) (hb : ∀ k g b, f.behaviour ≠ .cached k g b) (s : State) :
    ∃ s', s.Alike s' ∧ (closeDelegate below id l f d).run s
      = (closeBelow below d).run s' := by
  unfold closeDelegate
  cases hf : f.behaviour with
  | cached k g b => exact absurd hf (hb k g b)
  | plain => exact ⟨s, .refl s, rfl⟩
  | recording table config => exact ⟨s, .refl s, rfl⟩
  | tracked tracker entry =>
      simp only
      rw [run_bind, run_modify]
      exact ⟨_, .modify_tracker s tracker
        fun t => List.filter_sublist.subset, rfl⟩
  | counting counter =>
      simp only
      rw [run_bind, run_modify]
      refine ⟨_, ?_, rfl⟩
      exact ⟨rfl, rfl, rfl, rfl, fun h => h⟩
  | watched label answered =>
      simp only
      rw [run_bind, run_get]
      simp only
      rw [run_bind, run_modify]
      refine ⟨_, ?_, rfl⟩
      exact ⟨rfl, rfl, rfl, rfl, fun h => h⟩

/-- Closing an open facade takes its delegate from it. -/
theorem run_closeFacade (hc : f.closed = false)
    (hd : f.delegate = some d) :
    (closeFacade below id l f).run s
      = (((closeDelegate below id l f d).run
            (s.setCore id (.facade f.shut))).1.map fun _ => .unit,
         ((closeDelegate below id l f d).run
            (s.setCore id (.facade f.shut))).2) := by
  unfold closeFacade
  simp only [hc, Bool.false_eq_true, if_false]
  rw [run_bind, run_modify]
  simp only [hd]
  rw [run_bind]
  rw [Facade.shut]
  rcases (closeDelegate below id l f d).run
    (s.setCore id (.facade { f with closed := true, delegate := none }))
    with ⟨_ | _, t⟩ <;> rfl

-- ============================================================ closing

/-- The delegate of a facade that is closing goes to a shelf; what the
shelf has no room for is in hand then. -/
theorem moves_shelve
    (h : Sound ⟨s, held, out, loose⟩) (hl : s.layer? id = some l)
    (hf : l.core = .facade f) (hb : f.behaviour = .cached k g false)
    (hd : f.delegate = some d)
    (hid : id ∈ loose ∨ p.closes id ∧ id ∉ s.parked)
    (hk : s.caches.get? k = some store) (hsql : l.sql = some sql)
    (ha : store.accepts sql g = true) :
    Moves p ⟨s, held, out, loose⟩
      ⟨(s.setCore id (.facade f.shut)).shelve k store sql
          (l.twin f.level k g d), held, out,
        (store.park sql s.layers.length).2.toList ++ loose⟩ := by
  have hcore : s.core id = .facade f := by
    rw [State.core_eq_of_layer? hl, hf]
  have hplaced : State.Placed (s.core id) := h.formed.placed id
  have hlevel : f.level = k.place + 1 := hplaced hcore hb
  have hin := Keyed.mem_of_get? hk
  obtain ⟨rfl, hnew⟩ := CacheStore.accepts_eq_true.1 ha
  -- the new facade, in the hands of the one that parks it
  have htwin : Move p ⟨s, held, out, loose⟩
      ⟨((s.setCore id (.facade f.shut)).addLayer
          (l.twin f.level k store.generation d)).2, held, out,
        s.layers.length :: loose⟩ := .twin hl hf hb hd hid
  have hsound := htwin.sound h
  have hlen : (s.setCore id (.facade f.shut)).layers.length
      = s.layers.length := State.length_setCore ..
  have hlast : ((s.setCore id (.facade f.shut)).addLayer
      (l.twin f.level k store.generation d)).2.layer? s.layers.length
      = some (l.twin f.level k store.generation d) := by
    rw [State.layer?_addLayer, hlen, if_pos rfl]
  have hshelved := (hsound.stocked.shelved hin).park hnew hlast hsql
    (by rw [Layer.twin, hlevel])
  have hshelves := (hsound.shelves p).set hk (hsound.stocked.known hin)
    hshelved (CacheStore.capacity_park ..)
    (Nat.le_of_eq (CacheStore.generation_park ..).symm)
    fun _ => CacheStore.generation_park ..
  -- from there to the shelf, where it may push another one out
  have hcount : ∀ a,
      (State.onShelves (s.caches.set k
          (store.park sql s.layers.length).1)).count a
        + out.toList.count a
        + ((store.park sql s.layers.length).2.toList ++ loose).count a
      ≤ (State.onShelves s.caches).count a + out.toList.count a
        + (s.layers.length :: loose).count a := by
    intro a
    have hdistinct : s.caches.Distinct := h.stocked.distinct
    have hset := State.count_onShelves_set hdistinct hk
      (store.park sql s.layers.length).1 a
    have hpark := (store.park_perm sql s.layers.length).count_eq a
    rw [List.count_append, List.count_cons] at hpark
    rw [List.count_append, List.count_cons]
    omega
  rw [State.shelve, hlen]
  exact (Moves.single htwin).trans
    (.single (.shift hshelves hcount fun he => .inl he))

/-- What the shelf has no room for is thrown away. -/
theorem Closes.shelve (hbelow : Closes p below)
    (h : Sound ⟨s, held, out, loose⟩) (hl : s.layer? id = some l)
    (hf : l.core = .facade f) (hb : f.behaviour = .cached k g false)
    (hd : f.delegate = some d)
    (hid : id ∈ loose ∨ p.closes id ∧ id ∉ s.parked)
    (hk : s.caches.get? k = some store) (hsql : l.sql = some sql)
    (ha : store.accepts sql g = true) :
    Moves p ⟨s, held, out, loose⟩
      ⟨((park below l f.level k g d).run
          (s.setCore id (.facade f.shut))).2, held, out, loose⟩ := by
  have hmoves := moves_shelve h hl hf hb hd hid hk hsql ha
  have hk' : (s.setCore id (.facade f.shut)).caches.get? k = some store := hk
  have hlen : (s.setCore id (.facade f.shut)).layers.length
      = s.layers.length := State.length_setCore ..
  rw [run_park hk' hsql ha, hlen]
  cases hev : (store.park sql s.layers.length).2 with
  | none =>
      rw [hev] at hmoves
      exact hmoves
  | some e =>
      rw [hev] at hmoves
      exact hmoves.trans (hbelow.discard (hmoves.sound h))

/-- The delegate of a facade that is closed is closed, or goes to a
shelf. -/
theorem Closes.closeDelegate (hbelow : Closes p below)
    (h : Sound ⟨s, held, out, loose⟩) (hl : s.layer? id = some l)
    (hf : l.core = .facade f) (hd : f.delegate = some d)
    (hid : id ∈ loose ∨ p.closes id ∧ id ∉ s.parked) :
    Moves p ⟨s, held, out, loose⟩
      ⟨((Act.closeDelegate below id l f d).run
          (s.setCore id (.facade f.shut))).2, held, out, loose⟩ := by
  have hcore : s.core id = .facade f := by
    rw [State.core_eq_of_layer? hl, hf]
  have hshut : Moves p ⟨s, held, out, loose⟩
      ⟨s.setCore id (.facade f.shut), held, out, d :: loose⟩ :=
    .single (.shut hcore hd hid)
  have hsound := hshut.sound h
  have hclose := hshut.trans (hbelow.closeBelow hsound)
  have hdrop := hshut.trans (Moves.drop hsound)
  by_cases hb : ∃ k g b, f.behaviour = .cached k g b
  · obtain ⟨k, g, b, hb⟩ := hb
    rw [run_closeDelegate_cached hb]
    cases b with
    | true => exact hclose
    | false =>
        simp only [Bool.false_eq_true, if_false]
        split
        · exact hdrop
        · by_cases ha : ∃ store sql, s.caches.get? k = some store
              ∧ l.sql = some sql ∧ store.accepts sql g = true
          · obtain ⟨store, sql, hk, hsql, ha⟩ := ha
            exact hbelow.shelve h hl hf hb hd hid hk hsql ha
          · rw [run_park_refused fun store sql hk hsql => ?_]
            · exact hclose
            · refine Bool.eq_false_iff.2 fun hacc => ha ?_
              exact ⟨store, sql, hk, hsql, hacc⟩
  · obtain ⟨s', hs', hrun⟩ := run_closeDelegate_other below id l d
      (fun k g b h => hb ⟨k, g, b, h⟩) (s.setCore id (.facade f.shut))
    rw [hrun]
    have haside := hshut.trans (.aside (.of_alike hs'))
    exact haside.trans (hbelow.closeBelow (haside.sound h))

/-- A native handle that is closed lets go of its statement. -/
theorem run_askNative_close (id : LayerId) (n : Native.StatementId)
    (s : State) :
    (askNative id (some n) .close).run s
      = ((((Native.dispose n).run s.native).1.mapError
            fun e => Error.driver e.unwrapped).map fun _ => .unit,
         { s.setCore id (.native none) with
           native := ((Native.dispose n).run s.native).2 }) := by
  unfold askNative
  rw [run_bind, run_modify]
  simp only
  rw [run_bind, run_native]
  have hn : (s.setCore id (.native none)).native = s.native := rfl
  rw [hn]
  rcases (Native.dispose n).run s.native with ⟨_ | _, t⟩ <;> rfl

/-- Closing a layer, given that the layers under it are closed by
moves. -/
theorem Closes.ask (hbelow : Closes p below)
    (h : Sound ⟨s, held, out, loose⟩)
    (hid : id ∈ loose ∨ p.closes id ∧ id ∉ s.parked) :
    Moves p ⟨s, held, out, loose⟩
      ⟨((Act.ask below id .close).run s).2, held, out, loose⟩ := by
  rw [run_ask]
  cases hl : s.layer? id with
  | none => exact .refl _
  | some l =>
      have hcore := State.core_eq_of_layer? hl
      simp only
      cases hf : l.core with
      | released => exact .refl _
      | native handle =>
          rw [hf] at hcore
          cases handle with
          | none => exact .refl _
          | some n =>
              simp only
              rw [run_askNative_close]
              exact .single (.letGo hcore (hid.imp_right And.left))
      | facade f =>
          rw [hf] at hcore
          simp only [askFacade]
          cases hc : f.closed with
          | true =>
              have hrun : (closeFacade below id l f).run s = (.ok .unit, s) := by
                rw [closeFacade, hc]
                rfl
              rw [hrun]
              exact .refl _
          | false =>
              have hhollow : f.closed = f.delegate.isNone :=
                h.formed.hollow hcore
              cases hd : f.delegate with
              | none =>
                  rw [hc, hd] at hhollow
                  cases hhollow
              | some d =>
                  rw [run_closeFacade hc hd]
                  exact hbelow.closeDelegate h hl hf hd hid

/-- Every layer is closed by moves. -/
theorem closes_within (p : Terms) (depth : Nat) :
    Closes p (within depth) := by
  induction depth with
  | zero =>
      intro s held out loose id h hid
      have hnone : Closes p fun _ _ => throw (.closed .statement) :=
        fun _ _ => .refl _
      exact hnone.ask h (.inl hid)
  | succ depth ih => exact fun h hid => ih.ask h (.inl hid)

/-- A statement is closed where it stands. -/
theorem moves_close (h : Sound ⟨s, held, out, loose⟩)
    (hid : p.closes id) (hp : id ∉ s.parked) :
    Moves p ⟨s, held, out, loose⟩
      ⟨((dispatch id .close).run s).2, held, out, loose⟩ := by
  have hrun : (dispatch id .close).run s
      = (within (s.core id).level id .close).run s := rfl
  rw [hrun]
  cases (s.core id).level with
  | zero =>
      have hnone : Closes p fun _ _ => throw (.closed .statement) :=
        fun _ _ => .refl _
      exact hnone.ask h (.inr ⟨hid, hp⟩)
  | succ depth => exact Closes.ask (closes_within p depth) h (.inr ⟨hid, hp⟩)

theorem run_discardParked (id : LayerId) (s : State) :
    (discardParked id).run s
      = (discard (within ((s.core id).level - 1)) id).run s := rfl

/-- A statement that leaves a cache is closed, and a failure is not passed
on. -/
theorem run_discardParked_ok (id : LayerId) (s : State) :
    ∃ t, (discardParked id).run s = (.ok ⟨⟩, t) := by
  rw [run_discardParked]
  exact run_discard_ok (within ((s.core id).level - 1)) id s

/-- A statement in hand is thrown away. -/
theorem moves_discardParked (h : Sound ⟨s, held, out, id :: loose⟩) :
    Moves p ⟨s, held, out, id :: loose⟩
      ⟨((discardParked id).run s).2, held, out, loose⟩ := by
  rw [run_discardParked]
  exact Closes.discard (closes_within p _) h

end Act

end PooledChain
