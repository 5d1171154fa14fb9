/-
Every statement of the driver has one owner, and is closed once.

# The books

The driver counts what it makes and what it closes. `Balanced` says that
its books agree with the statements and with the native handles: what was
made is closed or open, a statement is closed by one call or not at all,
and there are as many open statements as handles that have one. One move
at a time preserves this (`Move.balanced`): only `make`, `letGo` and
`free` touch the books.

# The owners

Callers hold handles, and shelves hold parked facades; both are the
`owners` of a session. In a tidy state the handle of an open statement
lies under an owner (`exists_owner`); and under one only, since going up
from the handle there is one way to go, and an owner is nobody's delegate
(`owner_unique`). So the open statements can be counted by their owners
(`length_open_owners`).
-/
import PooledChain.Proofs.Heap.Runs
import Mathlib.Data.List.Dedup
import Mathlib.Data.List.Perm.Basic

namespace PooledChain

open Scene (Sound)

-- ============================================================ the books

namespace Native

/-- Whether a statement was closed by one call, or is open and no call
has closed it. -/
def Statement.ClosedOnce (st : Statement) : Prop :=
  st.closeCalls = if st.closed then 1 else 0

theorem Statement.ClosedOnce.congr {st st' : Statement}
    (h : st.ClosedOnce) (hb : st'.bare = st.bare) : st'.ClosedOnce := by
  have hcalls : st'.bare.closeCalls = st.bare.closeCalls := by rw [hb]
  have hclosed : st'.bare.closed = st.bare.closed := by rw [hb]
  have hcalls' : st'.closeCalls = st.closeCalls := hcalls
  have hclosed' : st'.closed = st.closed := hclosed
  rw [ClosedOnce, hcalls', hclosed']
  exact h

/-- Then no statement was closed by two calls. -/
theorem Statement.ClosedOnce.le_one {st : Statement}
    (h : st.ClosedOnce) : st.closeCalls ≤ 1 := by
  rw [h]
  split
  · exact Nat.le_refl _
  · exact Nat.zero_le _

/-- Whether the driver's books agree with its statements, `n` of them
open. Its connections do not ask the rules, which could refuse to close
a statement. -/
structure Store.Balanced (s : Store) (n : Nat) : Prop where
  unguarded : s.AllGuarded false
  made : s.driver.creates + s.driver.prepares = s.statements.length
  ended : s.driver.nativeCloses + s.driver.openStatements
    = s.statements.length
  opened : s.driver.openStatements = n
  once : ∀ st ∈ s.statements, st.ClosedOnce

namespace Store.Balanced

variable {a b : Store} {n : Nat}

/-- The books agree after what makes and closes nothing. -/
theorem steady (h : a.Balanced n) (hs : Store.Steady false a b) :
    b.Balanced n where
  unguarded := hs.guarded h.unguarded
  made := by rw [hs.creates, hs.prepares, hs.length]; exact h.made
  ended := by
    rw [hs.nativeCloses, hs.openStatements, hs.length]
    exact h.ended
  opened := hs.openStatements.trans h.opened
  once st hst := by
    have hbare : st.bare ∈ a.statements.map Statement.bare := by
      rw [← hs.statements]
      exact List.mem_map_of_mem hst
    obtain ⟨old, hold, he⟩ := List.mem_map.1 hbare
    exact (h.once old hold).congr he.symm

/-- The books agree with one open statement more after one was made. -/
theorem make (h : a.Balanced n) {kind : StatementKind}
    {sql : Option String} (hm : a.Made b kind sql) :
    b.Balanced (n + 1) := by
  obtain ⟨c, hs, -⟩ := hm.statements
  have hlen := hm.length
  refine ⟨?_, ?_, ?_, ?_, fun st hst => ?_⟩
  · intro x hx
    rw [hm.connections] at hx
    exact h.unguarded x hx
  · rw [hm.made, hlen, h.made]
  · rw [hm.nativeCloses, hm.openStatements, hlen, ← h.ended, Nat.add_assoc]
  · rw [hm.openStatements, h.opened]
  · rw [hs, List.mem_append, List.mem_singleton] at hst
    rcases hst with hst | rfl
    · exact h.once st hst
    · rfl

/-- Closing an open statement for good is one call, which is counted. -/
theorem dispose (h : a.Balanced (n + 1)) {m : StatementId}
    (hm : a.HasOpen m) :
    (((Native.dispose m).run a).2).Balanced n := by
  obtain ⟨st, hst, ho⟩ := hm
  rw [run_dispose hst ho, refuses?_of_unguarded h.unguarded]
  have hopen := h.opened
  have hended := h.ended
  refine ⟨h.unguarded, ?_, ?_, ?_, fun x hx => ?_⟩
  · rw [List.length_set]
    exact h.made
  · rw [List.length_set]
    show a.driver.nativeCloses + 1 + (a.driver.openStatements - 1) = _
    omega
  · show a.driver.openStatements - 1 = n
    omega
  · rcases List.mem_or_eq_of_mem_set hx with hx | rfl
    · exact h.once x hx
    · have hnone : st.closeCalls = if st.closed then 1 else 0 :=
        h.once st (List.mem_of_getElem? hst)
      rw [ho, if_neg Bool.false_ne_true] at hnone
      show st.closeCalls + 1 = if true then 1 else 0
      rw [hnone, if_pos rfl]

end Store.Balanced

end Native

-- =================================================== kept by the moves

/-- The books agree with the native handles. -/
def State.Balanced (s : State) : Prop :=
  s.native.Balanced s.handles.length

namespace State.Balanced

variable {s t : State} {id : LayerId} {c : Core}

/-- Layers that have as many statements as before. -/
theorem congr (h : s.Balanced) (hn : t.native = s.native)
    (hlen : t.handles.length = s.handles.length) : t.Balanced := by
  rw [Balanced, hn, hlen]
  exact h

/-- A layer that has no statement, before or after. -/
theorem setCore (h : s.Balanced) (hid : s.core id ≠ .released)
    (hold : (s.core id).handle? = none) (hnew : c.handle? = none) :
    (s.setCore id c).Balanced := by
  have hlen := (gather_setCore (g := Core.handle?) hid c).length_eq
  rw [hold, hnew] at hlen
  exact h.congr rfl hlen

/-- A facade that changes. -/
theorem setFacade (h : s.Balanced) {f f' : Facade}
    (hid : s.core id = .facade f) :
    (s.setCore id (.facade f')).Balanced := by
  refine h.setCore ?_ ?_ rfl
  · rw [hid]
    exact fun h => by cases h
  · rw [hid]
    rfl

/-- A new layer that has no statement. -/
theorem addLayer (h : s.Balanced) {l : Layer}
    (hl : l.core.handle? = none) : (s.addLayer l).2.Balanced := by
  refine h.congr rfl ?_
  rw [handles, gather_addLayer, hl, Option.toList_none, List.append_nil,
    handles]

/-- A handle that loses its statement, which is closed. -/
theorem dispose (h : s.Balanced) {n : Native.StatementId}
    (hid : s.core id = .native (some n)) (hopen : s.native.HasOpen n)
    (hc : c.handle? = none) :
    State.Balanced { s.setCore id c with
      native := ((Native.dispose n).run s.native).2 } := by
  have hne : s.core id ≠ .released := Core.ne_released_of_native hid
  have hlen := (gather_setCore (g := Core.handle?) hne c).length_eq
  rw [hid, hc, List.length_append, List.length_append] at hlen
  have hone : s.handles.length = (s.setCore id c).handles.length + 1 := by
    simp only [Core.handle?_native, Option.toList_some, Option.toList_none,
      List.length_nil, List.length_singleton] at hlen
    rw [handles, handles]
    omega
  rw [Balanced, hone] at h
  exact h.dispose hopen

/-- A layer that is released. -/
theorem releaseLayer (h : s.Balanced) (hid : s.core id ≠ .released)
    (hopen : ∀ {n}, s.core id = .native (some n) → s.native.HasOpen n) :
    (s.releaseLayer id).Balanced := by
  rw [State.releaseLayer]
  split
  · next n hn => exact h.dispose hn (hopen hn) rfl
  · next hn =>
    refine h.setCore hid ?_ rfl
    cases hc : (s.core id).handle? with
    | none => rfl
    | some n => exact absurd (Core.eq_native_of_handle? hc) (hn n)

end State.Balanced

/-- Every move keeps the books balanced. -/
theorem Move.balanced {p : Terms} {c c' : Scene} (hm : Move p c c')
    (hp : p.guarded = false) (h : c.Sound) (hb : c.state.Balanced) :
    c'.state.Balanced := by
  cases hm with
  | @aside s t _ _ _ ha =>
      have hlen : t.handles = s.handles := State.gather_congr _ ha.layers
      have hsteady := ha.native
      rw [hp] at hsteady
      show t.native.Balanced t.handles.length
      rw [hlen]
      exact hb.steady hsteady
  | connect _ => exact hb.congr rfl rfl
  | taint hid _ _ _ => exact hb.setFacade hid
  | @make s st _ _ l _ hmade hl _ _ =>
      have hlen : (s.addLayer l).2.handles.length = s.handles.length + 1 := by
        rw [State.handles, State.gather_addLayer, hl, List.length_append]
        rfl
      show st.Balanced (s.addLayer l).2.handles.length
      rw [hlen]
      exact hb.make hmade
  | decorate hl _ _ _ _ _ _ _ => exact hb.addLayer (by rw [hl]; rfl)
  | shut hid _ _ => exact hb.setFacade hid
  | letGo hid _ => exact hb.dispose hid (h.mem_handles hid) rfl
  | twin hl hf _ _ _ =>
      have hid := (State.core_eq_of_layer? hl).trans hf
      exact (hb.setFacade hid).addLayer rfl
  | shift _ _ _ => exact hb.congr rfl rfl
  | give => exact hb
  | letDown _ => exact hb
  | free hne _ _ => exact hb.releaseLayer hne fun hn => h.mem_handles hn

-- =========================================================== the owners

namespace Session

variable {s : Session}

/-- Those who can own a statement: the handles that callers hold and the
facades that are parked, each once. -/
def owners (s : Session) : List LayerId := s.held.dedup ++ s.state.parked

/-- The owners are the handles that are held or parked. -/
theorem mem_owners {id : LayerId} :
    id ∈ s.owners ↔ id ∈ s.held ∨ id ∈ s.state.parked := by
  rw [owners, List.mem_append, List.mem_dedup]

namespace Sound

/-- Nothing is held and parked, or parked twice. -/
theorem nodup_owners (h : s.Sound) : s.owners.Nodup := by
  refine List.nodup_append.2 ⟨List.nodup_dedup _,
    h.scene.owned.nodup_parked, ?_⟩
  intro a ha b hb he
  rw [List.mem_dedup] at ha
  refine h.scene.owned.apart ha ?_
  exact Scene.mem_owned.2 (.inr (.inl (he ▸ hb)))

/-- Each owner is at the top of its stack. -/
theorem top_of_mem_owners {id : LayerId} (hid : id ∈ s.owners) :
    s.scene.Top id := by
  rcases mem_owners.1 hid with hheld | hparked
  · exact .inl hheld
  · exact .inr (.inl hparked)

variable {n : Native.StatementId}

/-- An open statement has an owner. -/
theorem exists_owner (h : s.Sound) (hn : s.state.native.HasOpen n) :
    ∃ id ∈ s.owners, s.state.Stands id n := by
  have hmem : n ∈ s.state.handles := (h.scene.backed.opened n).2 hn
  obtain ⟨b, hb⟩ := State.mem_handles.1 hmem
  have hlive : s.state.core b ≠ .released := Core.ne_released_of_native hb
  obtain ⟨r, hr, hover⟩ := State.Tidy.exists_root h.tidy hlive h.scene.formed
  exact ⟨r, mem_owners.2 hr, (State.Stands.native hb).over hover⟩

/-- What an owner stands on is open. -/
theorem hasOpen (h : s.Sound) {id : LayerId}
    (hid : s.state.Stands id n) : s.state.native.HasOpen n := by
  obtain ⟨b, -, hb⟩ := hid.exists_native
  exact h.scene.mem_handles hb

/-- No statement has two owners. -/
theorem owner_unique (h : s.Sound) {a b : LayerId} (ha : a ∈ s.owners)
    (hb : b ∈ s.owners) (han : s.state.Stands a n)
    (hbn : s.state.Stands b n) : a = b := by
  obtain ⟨x, hax, hx⟩ := han.exists_native
  obtain ⟨y, hby, hy⟩ := hbn.exists_native
  have hxy : x = y := by
    refine State.eq_of_gather_nodup (g := Core.handle?)
      h.scene.backed.once rfl (x := n) ?_ ?_
    · show (s.state.core x).handle? = some n
      rw [hx]
      rfl
    · show (s.state.core y).handle? = some n
      rw [hy]
      rfl
  subst hxy
  exact h.scene.owned.top_unique (top_of_mem_owners ha)
    (top_of_mem_owners hb) hax hby

/-- The statements that owners stand on are those that handles have. -/
theorem statements_perm (h : s.Sound) :
    (s.owners.filterMap s.state.statementUnder?).Perm s.state.handles := by
  have hleveled : s.state.Leveled := h.scene.formed.leveled
  have hnodup : (s.owners.filterMap s.state.statementUnder?).Nodup := by
    refine List.pairwise_filterMap.2 (h.nodup_owners.imp_of_mem ?_)
    intro a b ha hb hne n hn m hm he
    subst he
    exact hne (h.owner_unique ha hb
      ((State.statementUnder?_eq_some hleveled).1 hn)
      ((State.statementUnder?_eq_some hleveled).1 hm))
  refine (List.perm_ext_iff_of_nodup hnodup h.scene.backed.once).2
    fun n => ?_
  rw [List.mem_filterMap]
  refine ⟨fun ⟨id, _, hid⟩ => ?_, fun hn => ?_⟩
  · have hstands := (State.statementUnder?_eq_some hleveled).1 hid
    exact (h.scene.backed.opened n).2 (h.hasOpen hstands)
  · obtain ⟨id, hid, hstands⟩ :=
      h.exists_owner ((h.scene.backed.opened n).1 hn)
    exact ⟨id, hid, (State.statementUnder?_eq_some hleveled).2 hstands⟩

/-- As many owners are open as handles have a statement. -/
theorem length_open_owners (h : s.Sound) :
    (s.owners.filter fun id => !s.state.isClosed id).length
      = s.state.handles.length := by
  have hollow : s.state.Hollow := h.scene.formed.hollow
  have hfilter : s.owners.filter (fun id => !s.state.isClosed id)
      = s.owners.filter fun id => (s.state.statementUnder? id).isSome := by
    refine List.filter_congr fun id _ => ?_
    rw [State.isClosed_eq hollow]
    cases s.state.statementUnder? id <;> rfl
  rw [hfilter, ← List.countP_eq_length_filter,
    ← List.length_filterMap_eq_countP]
  exact h.statements_perm.length_eq

end Sound

/-- In every session that ordinary steps reach the books are balanced. -/
theorem balanced_run {links : List Link} {checkedOut : Bool}
    {steps : List Step} (hord : ∀ step ∈ steps, step.isOrdinary = true) :
    ((start links false checkedOut).run steps).state.Balanced := by
  refine run_invariant (I := fun c => c.state.Balanced) hord ?_
    fun hs hm hb => hm.balanced rfl hs hb
  exact
    { unguarded := fun c hc => by cases hc
      made := rfl
      ended := rfl
      opened := rfl
      once := fun st hst => by cases hst }

/-- No statement is lost, shared or closed twice. Whatever callers and
pools do with chains of any links, what the driver made is closed or
open, no statement is closed by two calls, and each open one stands under
one owner: a handle that a caller holds, or a parked facade. So the
driver has as many open statements as there are open owners, and none if
callers hold closed handles only and nothing is parked. -/
theorem each_open_statement_has_one_owner (links : List Link)
    (checkedOut : Bool) {steps : List Step}
    (hord : ∀ step ∈ steps, step.isOrdinary = true) :
    let s := (start links false checkedOut).run steps
    let driver := s.state.native.driver
    driver.creates + driver.prepares
        = driver.nativeCloses + driver.openStatements
      ∧ (∀ st ∈ s.state.native.statements, st.closeCalls ≤ 1)
      ∧ s.owners.Nodup
      ∧ (∀ n, s.state.native.HasOpen n →
          ∃! id, id ∈ s.owners ∧ s.state.Stands id n)
      ∧ driver.openStatements
        = (s.owners.filter fun id => !s.state.isClosed id).length
      ∧ ((∀ id ∈ s.held, s.state.isClosed id = true) →
          s.state.parked = [] → driver.openStatements = 0) := by
  intro s driver
  have h : s.Sound := (sound_start links false checkedOut).run hord
  have hb : s.state.Balanced := balanced_run hord
  have hcount : driver.openStatements
      = (s.owners.filter fun id => !s.state.isClosed id).length := by
    rw [h.length_open_owners]
    exact hb.opened
  refine ⟨hb.made.trans hb.ended.symm, fun st hst => (hb.once st hst).le_one,
    h.nodup_owners, fun n hn => ?_, hcount, fun hclosed hparked => ?_⟩
  · obtain ⟨id, hid, hstands⟩ := h.exists_owner hn
    exact ⟨id, ⟨hid, hstands⟩, fun other ⟨hother, hn'⟩ =>
      h.owner_unique hother hid hn' hstands⟩
  · rw [hcount, List.length_eq_zero_iff]
    refine List.filter_eq_nil_iff.2 fun id hid => ?_
    rcases mem_owners.1 hid with hheld | hp
    · rw [hclosed id hheld]
      exact fun h => by cases h
    · rw [hparked] at hp
      cases hp

/-- A parked facade owns the statement of a handle that was closed. -/
theorem parked_facade_is_the_one_owner :
    let s := (start [.cache .standard] false true).run
      [.onConnection "p0" "x0" "c0" (.create (.prepareStatement "q") "a"),
       .onStatement "a" (.call .close),
       .dropStatement "a"]
    s.held = [] ∧ s.state.parked = [2] ∧ s.state.native.HasOpen 0
      ∧ ∃! id, id ∈ s.owners ∧ s.state.Stands id 0 := by
  intro s
  have hopen : s.state.native.HasOpen 0 :=
    ⟨{ connection := 1, kind := .prepared, sql := some "q" },
      by decide +kernel, rfl⟩
  have hord : ∀ step ∈ [.onConnection "p0" "x0" "c0"
        (.create (.prepareStatement "q") "a"),
      .onStatement "a" (.call .close), .dropStatement "a"],
      Step.isOrdinary step = true := by decide
  obtain ⟨-, -, -, howner, -⟩ :=
    each_open_statement_has_one_owner [.cache .standard] true hord
  exact ⟨by decide +kernel, by decide +kernel, hopen, howner 0 hopen⟩

end Session

end PooledChain
