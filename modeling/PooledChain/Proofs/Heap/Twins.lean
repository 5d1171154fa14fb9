/-
The same done to two states that only their links tell apart.

Two thin states that look the same through their links are twins
(`State.Twins`). The handles in them need not have the same numbers, nor
stacks of the same height; all that counts is which handle of the one
state meets which of the other. What is done to both alike, with handles
that meet, is answered the same, apart from the stamps on rows, and
leaves twins in which the handles meet as they did:

- what makes no statement and is done with none (`Agrees.abide`);
- an operation on a statement (`Act.dispatches`);
- asking a connection for a statement, after which the handles that were
  raised meet as well (`Act.fetches_invokeOp`);
- letting go of handles (`State.Twins.release`).
-/
import PooledChain.Proofs.Heap.Raise

namespace PooledChain

variable {s t u : State} {a b d x : LayerId} {held held' : List LayerId}
  {n m : Native.StatementId} {c : ConnectionId} {op : ConnectionOp}
  {kind : StatementKind}

namespace State

/-- Whether two thin states look the same through their links. -/
structure Twins (s t : State) : Prop extends s.Veiled t where
  thin : s.Thin
  thin' : t.Thin

/-- Twins that have become `s'` and `t'` are twins still. The handles
that met do so still, and no statement was lost. -/
structure Abide (s t s' t' : State) : Prop where
  twins : s'.Twins t'
  meets : ∀ {x y}, s.Meets t x y → s'.Meets t' x y
  lost : ∀ {held}, (∀ n, ¬ s.Lost held n) → ∀ n, ¬ s'.Lost held n

/-- What spares the statements loses none. -/
theorem Spares.lost_iff (h : s.Spares t) :
    t.Lost held n ↔ s.Lost held n := by
  rw [Lost, Lost, h.opened]
  refine and_congr_right fun _ => forall_congr' fun a =>
    imp_congr_right fun _ => not_congr ?_
  constructor
  · exact fun hn => hn.congr fun x _ => (core_congr h.layers x).symm
  · exact fun hn => hn.congr fun x _ => core_congr h.layers x

/-- Only rows are stamped on their way up. -/
theorem rise_unit (s : State) (a : LayerId) : s.rise a .unit = .unit := by
  rw [State.rise]
  split <;> rfl

/-- A yes or no comes up as it is. -/
theorem rise_bool (s : State) (a : LayerId) (value : Bool) :
    s.rise a (.bool value) = .bool value := by
  rw [State.rise]
  split <;> rfl

/-- What layers are added to lose no statement, unless it is new. -/
theorem Grown.lost (h : s.Grown t) (hn : t.Lost held n)
    (hopen : s.native.HasOpen n) : s.Lost held n :=
  ⟨hopen, fun ha hs => hn.2 ha (h.stands hs)⟩

/-- Handles that met do so still when layers are added on either side. -/
theorem Grown.meets {s' t' : State} (hs : s.Grown s') (ht : t.Grown t')
    (h : s.Twins t) (hab : s.Meets t a b) : s'.Meets t' a b :=
  ((Meets.of_grown hab.left h.thin.whole.formed hs).symm.trans hab).trans
    (.of_grown hab.right h.thin'.whole.formed ht)

/-- A caller puts a facade around either of two handles that meet. -/
theorem Twins.addFacade (h : s.Twins t) (hab : s.Meets t a b)
    {l l' : Layer} {f f' : Facade} (hface : l'.face = l.face)
    (hl : l.core = .facade f) (hl' : l'.core = .facade f')
    (hf : f = ⟨(s.core a).level + 1, some a, false, .plain⟩)
    (hf' : f' = ⟨(t.core b).level + 1, some b, false, .plain⟩) :
    Abide s t (s.addLayer l).2 (t.addLayer l').2
      ∧ (s.addLayer l).2.Meets (t.addLayer l').2 s.layers.length
          t.layers.length := by
  subst hf hf'
  have hlayer : ∀ (u : State) (k : Layer),
      (u.addLayer k).2.layer? u.layers.length = some k := fun u k => by
    rw [layer?_addLayer_new]
  have hlive : ∀ {u : State} {k : Layer} {g}, k.core = .facade g →
      (u.addLayer k).2.core u.layers.length ≠ .released := by
    intro u k g hk
    rw [core_eq_of_layer? (hlayer u k), hk]
    exact fun he => by cases he
  refine ⟨⟨⟨h.beside ⟨rfl, rfl, rfl, rfl, rfl, rfl⟩
        ⟨rfl, rfl, rfl, rfl, rfl, rfl⟩ h.native,
      h.thin.addFacade hl rfl rfl rfl hab.left (Nat.lt_succ_self _),
      h.thin'.addFacade hl' rfl rfl rfl hab.right (Nat.lt_succ_self _)⟩,
    fun hxy => Grown.meets (.addLayer s l) (.addLayer t l') h hxy,
    fun hk n hn => hk n (Grown.lost (.addLayer s l) hn hn.1)⟩,
    ⟨hlive hl, hlive hl', ?_, fun n => ?_⟩⟩
  · rw [hlayer, hlayer]
    exact congrArg some hface
  · rw [stands_addFacade h.thin.whole.formed hl rfl hab.left,
      stands_addFacade h.thin'.whole.formed hl' rfl hab.right, hab.stands]

end State

namespace Act

variable {α : Type}

/-- Twins from which the same answer came are twins still. -/
theorem Agrees.abide {r r' : Except Error α × State} (h : s.Twins t)
    (hr : Agrees s t r r') : State.Abide s t r.2 r'.2 where
  twins := ⟨hr.veiled, h.thin.spares hr.left, h.thin'.spares hr.right⟩
  meets hab :=
    ((State.Meets.of_layers hab.left hr.left.layers).symm.trans hab).trans
      (.of_layers hab.right hr.right.layers)
  lost hk n hn := hk n (hr.left.lost_iff.1 hn)

-- ==================================================== using a statement

/-- How an operation on two handles that meet ends: with the same answer
of the driver, as it comes up to either of them. -/
structure Dispatches (s t : State) (a b : LayerId)
    (r r' : Except Error StatementReply × State) : Prop
    extends State.Abide s t r.2 r'.2 where
  answer : ∃ q : Except Error Native.Answer,
    r.1 = q.map (fun x => s.rise a (.ofNative x))
      ∧ r'.1 = q.map fun x => t.rise b (.ofNative x)

/-- The use of two handles that meet has the same answer of the driver. -/
theorem dispatches_use {op : StatementOp} (h : s.Twins t)
    (hab : s.Meets t a b) (hc : op ≠ .close) (hi : op ≠ .isClosed) :
    Dispatches s t a b ((dispatch a op).run s) ((dispatch b op).run t) := by
  obtain ⟨hr, hnative, hcalls⟩ := run_use h.thin hc hi a
  obtain ⟨hr', hnative', hcalls'⟩ := run_use h.thin' hc hi b
  have hunder := hab.under h.thin.whole.formed h.thin'.whole.formed
  have hsteady : ∀ {u : State} {x},
      Native.Store.Steady false u.native (u.use x op).2 := by
    intro u x
    rw [State.use]
    split
    · exact Native.isSteady_perform _ hc false u.native
    · exact .refl _
  have hspares : ∀ {u v : State} {x}, u.Calls v →
      v.native = (u.use x op).2 → u.Spares v := fun hv hn =>
    ⟨hv.layers, hv.caches, hv.watched, fun n => by
      rw [hn]
      exact hsteady.hasOpen_iff n⟩
  have hsame : (t.use b op).2 = (s.use a op).2 := by
    rw [State.use, State.use, hunder, h.native]
    cases s.statementUnder? a <;> rfl
  have hagrees : Agrees s t (.ok (), ((dispatch a op).run s).2)
      (.ok (), ((dispatch b op).run t).2) :=
    ⟨rfl, h.beside hcalls.toBeside hcalls'.toBeside
        (by rw [hnative', hnative, hsame]),
      hspares hcalls hnative, hspares hcalls' hnative'⟩
  have habide := hagrees.abide h
  refine ⟨habide, ?_⟩
  rw [hr, hr', State.use, State.use, hunder, h.native]
  cases s.statementUnder? a with
  | none => exact ⟨.error (.closed .statement), rfl, rfl⟩
  | some n => exact ⟨_, rfl, rfl⟩

theorem dispatches_close (h : s.Twins t) (hab : s.Meets t a b) :
    Dispatches s t a b ((dispatch a .close).run s)
      ((dispatch b .close).run t) := by
  have hclosing : s.Closing a ((dispatch a .close).run s) :=
    closing_within h.thin.whole h.thin.light hab.left (Nat.le_refl _)
  have hclosing' : t.Closing b ((dispatch b .close).run t) :=
    closing_within h.thin'.whole h.thin'.light hab.right (Nat.le_refl _)
  have hunder := hab.under h.thin.whole.formed h.thin'.whole.formed
  refine ⟨⟨⟨h.beside hclosing.beside hclosing'.beside ?_,
      hclosing.thin h.thin, hclosing'.thin h.thin'⟩,
    fun hxy => hclosing.meets h.thin h.thin' hclosing' hab hxy,
    fun {held} hk n hn => ?_⟩, ?_⟩
  · rw [hclosing.native, hclosing'.native, hunder, h.native]
  · obtain ⟨hopen, hlost⟩ := hn
    obtain ⟨y, hy⟩ := (hclosing.opened h.thin n).1 hopen
    obtain ⟨hy, hne⟩ := (hclosing.stands_iff h.thin).1 (.native hy)
    refine hk n ⟨(h.thin.opened n).2 ?_, fun hx hn =>
      hlost hx ((hclosing.stands_iff h.thin).2 ⟨hn, hne⟩)⟩
    obtain ⟨z, -, hz⟩ := hy.exists_native
    exact ⟨z, hz⟩
  · refine ⟨((((Native.letGo (s.statementUnder? a)).run
      s.native).1.mapError fun e => .driver e.unwrapped)).map fun _ => .unit,
      ?_, ?_⟩
    · rw [hclosing.answer]
      rcases ((Native.letGo (s.statementUnder? a)).run s.native).1 with e | ⟨⟩
      · rfl
      · exact congrArg Except.ok (s.rise_unit a).symm
    · rw [hclosing'.answer, hunder, h.native]
      rcases ((Native.letGo (s.statementUnder? a)).run s.native).1 with e | ⟨⟩
      · rfl
      · exact congrArg Except.ok (t.rise_unit b).symm

/-- An operation on handles that meet. -/
theorem dispatches (h : s.Twins t) (hab : s.Meets t a b)
    (op : StatementOp) :
    Dispatches s t a b ((dispatch a op).run s) ((dispatch b op).run t) := by
  by_cases hc : op = .close
  · subst hc
    exact dispatches_close h hab
  by_cases hi : op = .isClosed
  · subst hi
    rw [run_dispatch_isClosed hab.left, run_dispatch_isClosed hab.right,
      hab.isClosed h.thin.whole.formed h.thin'.whole.formed]
    have hagrees : Agrees s t (.ok (), s) (.ok (), t) := .refl h.toVeiled _
    have habide := hagrees.abide h
    exact ⟨habide, .ok (.bool (s.isClosed a)),
      congrArg Except.ok (s.rise_bool a _).symm,
      congrArg Except.ok (t.rise_bool b _).symm⟩
  · exact dispatches_use h hab hc hi

-- ================================================= asking a connection

/-- How asking a connection ends: with the same answer, in which there is
no statement, or with a handle on either side over a new statement. -/
inductive Fetches (s t : State) (c : ConnectionId) (op : ConnectionOp)
    (r r' : Except Error ConnectionReply × State) : Prop
  | same : Agrees s t r r' → outOf r.1 = none → Fetches s t c op r r'
  | raised {kind n a b u v k k'} : r = (.ok (.statement a), u) →
      r' = (.ok (.statement b), v) → u.Twins v →
      s.Raised c op.sql? kind k n a u → t.Raised c op.sql? kind k' n b v →
      Fetches s t c op r r'

/-- Two chains that only wrap raise their handles alike. -/
theorem fetches_askLinks (h : s.Twins t) (hk : op.creates? = some kind)
    {links links' : List Link}
    (hlinks : ∀ link ∈ links, link.isWrapper = true)
    (hlinks' : ∀ link ∈ links', link.isWrapper = true) :
    Fetches s t c op ((askLinks c links op).run s)
      ((askLinks c links' op).run t) := by
  have hr := raises_askLinks (c := c) h.thin hk hlinks
  have hr' := raises_askLinks (c := c) h.thin' hk hlinks'
  rw [h.request] at hr'
  cases hq : s.request c op with
  | error e =>
      rw [hq] at hr hr'
      generalize (askLinks c links op).run s = r at hr
      generalize (askLinks c links' op).run t = r' at hr'
      cases hr
      cases hr'
      exact .same (.refl h.toVeiled _) rfl
  | ok make =>
      have hmakes := State.makes_of_request hk hq s.native
      rw [hq] at hr hr'
      generalize (askLinks c links op).run s = r at hr
      generalize (askLinks c links' op).run t = r' at hr'
      -- the driver is asked for the same in the same state
      cases hr with
      | failed he =>
          cases hr' with
          | failed he' =>
              rw [h.native] at he'
              cases he.symm.trans he'
              have hsteady : Native.Store.Steady false s.native
                  (make.run s.native).2 := by
                rcases hm : make.run s.native with ⟨e | n, st⟩ <;>
                  rw [hm] at hmakes he
                · exact hmakes false
                · cases he
              refine .same ⟨rfl, ?_, .call hsteady, .call (g := false) ?_⟩ rfl
              · rw [h.native]
                exact h.call _
              · rw [h.native]
                exact hsteady
          | made hn' _ _ =>
              rw [h.native] at hn'
              cases he.symm.trans hn'
      | made hn hnative hraised =>
          cases hr' with
          | failed he' =>
              rw [h.native] at he'
              cases hn.symm.trans he'
          | made hn' hnative' hraised' =>
              rw [h.native] at hn' hnative'
              cases hn.symm.trans hn'
              exact .raised rfl rfl ⟨h.beside hraised.beside hraised'.beside
                (hnative'.trans hnative.symm), hraised.thin, hraised'.thin⟩
                hraised hraised'

/-- Whatever the connections of twins are asked, the answers are the same,
or there is a handle on either side over a new statement. -/
theorem fetches_invokeOp (h : s.Twins t) (c : ConnectionId)
    (op : ConnectionOp) :
    Fetches s t c op ((invokeOp c op).run s) ((invokeOp c op).run t) := by
  cases hk : op.creates? with
  | none =>
      exact .same (agree_invokeOp c hk s t h.toVeiled)
        (outOf_invokeOp h.left c hk)
  | some kind =>
      unfold invokeOp
      rw [run_bind, run_bind, run_get, run_get]
      rcases h.connection? c with ⟨hs, ht⟩ | ⟨x, y, hs, ht, -⟩
      · simp only [hs, ht]
        exact .same (.refl h.toVeiled _) rfl
      · simp only [hs, ht]
        exact fetches_askLinks h hk (h.left.wraps hs) (h.right.wraps ht)

end Act

namespace State

/-- The handles that were raised on either side meet. -/
theorem Raised.meets {sql : Option String} {k k' : Nat} {v : State}
    (h : s.Raised c sql kind k n a u) (h' : t.Raised c sql kind k' n b v) :
    u.Meets v a b where
  left := h.live
  right := h'.live
  face := h'.face.trans h.face.symm
  stands m := by
    constructor
    · exact fun hm => hm.unique h'.stands ▸ h.stands
    · exact fun hm => hm.unique h.stands ▸ h'.stands

-- ========================================================== letting go

namespace Twins

/-- What is let go of on both sides. -/
theorem release (h : s.Twins t)
    (hlost : ∀ n, t.Lost held' n ↔ s.Lost held n)
    (hone : ∀ {n m}, s.Lost held n → s.Lost held m → n = m) :
    (s.release held).Twins (t.release held') := by
  obtain ⟨o, ho⟩ : ∃ o : Option Native.StatementId,
      ∀ n, s.Lost held n ↔ o = some n := by
    by_cases hex : ∃ n, s.Lost held n
    · obtain ⟨n, hn⟩ := hex
      exact ⟨some n, fun m => ⟨fun hm => congrArg some (hone hn hm),
        fun he => Option.some.inj he ▸ hn⟩⟩
    · exact ⟨none, fun n => ⟨fun hn => absurd ⟨n, hn⟩ hex, nofun⟩⟩
  have ho' := fun n => (hlost n).trans (ho n)
  exact ⟨h.beside (beside_release s held) (beside_release t held')
      (by rw [h.thin.native_release ho, h.thin'.native_release ho', h.native]),
    h.thin.release ho, h.thin'.release ho'⟩

/-- Handles that are held meet after the walk if they met before. -/
theorem meets_release (h : s.Twins t) (ha : a ∈ held) (hb : b ∈ held')
    (hab : s.Meets t a b) :
    (s.release held).Meets (t.release held') a b := by
  have hkept : ∀ {u : State} {held x}, u.Thin → x ∈ held →
      u.core x ≠ .released → u.Meets (u.release held) x x := fun hu hx hl =>
    .of_under hl fun _ hy => layer?_release hu.whole.formed (.inl hx) hy
  exact ((hkept h.thin ha hab.left).symm.trans hab).trans
    (hkept h.thin' hb hab.right)

end Twins

end State

end PooledChain
