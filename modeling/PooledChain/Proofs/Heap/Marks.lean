/-
What operations other than closing do to a stack of layers.

Such an operation travels down to the native handle, and all it can do
to the layers on the way is to break facades of caches, when a permanent
failure comes up. `Marks` is that: a sequence of changes that pass the
layers by, and of facades that are broken.

- `Marking.marks`: an operation breaks facades of its own stack only, and
  only if its answer is a permanent failure.
- `Marking.broken`: after a permanent failure every facade of a cache in
  the stack is broken.
- `marking_within`: every operation other than closing ends like that.
- `Marks.layer?` and the lemmas after it: what has been marked is in its
  place still, over the same delegate.
-/
import PooledChain.Proofs.Heap.Move

namespace PooledChain

-- =============================================================== marking

/-- One change made by an operation other than closing; `hit` are the
facades that may be broken. -/
inductive Mark (g : Bool) (hit : LayerId → Prop) : State → State → Prop
  | aside {s t} : Aside g s t → Mark g hit s t
  | taint {s id f k n b} : s.core id = .facade f →
      f.behaviour = .cached k n b → hit id →
      Mark g hit s (s.setCore id (.facade (f.broken k n)))

/-- A sequence of such changes. -/
def Marks (g : Bool) (hit : LayerId → Prop) : State → State → Prop :=
  Relation.ReflTransGen (Mark g hit)

/-- A core that is unchanged or a broken facade now. -/
def Core.Marked (c c' : Core) : Prop :=
  c' = c ∨ ∃ f k n b, c = .facade f ∧ f.behaviour = .cached k n b
    ∧ c' = .facade (f.broken k n)

namespace Core.Marked

theorem trans {c c' c'' : Core} (h₁ : Marked c c') (h₂ : Marked c' c'') :
    Marked c c'' := by
  rcases h₁ with rfl | ⟨f, k, n, b, rfl, hb, rfl⟩
  · exact h₂
  · rcases h₂ with rfl | ⟨f', k', n', b', hf', hb', rfl⟩
    · exact .inr ⟨f, k, n, b, rfl, hb, rfl⟩
    · cases hf'
      cases hb'
      exact .inr ⟨f, k, n, b, rfl, hb, rfl⟩

/-- A marked facade has the delegate it had. -/
theorem delegate? {c c' : Core} (h : Marked c c') :
    c'.delegate? = c.delegate? := by
  rcases h with rfl | ⟨f, k, n, b, rfl, -, rfl⟩ <;> rfl

/-- What is broken stays as it is. -/
theorem of_broken {f : Facade} {k : LinkId} {n : Nat} {c : Core}
    (h : Marked (.facade (f.broken k n)) c) : c = .facade (f.broken k n) := by
  rcases h with h | ⟨f', k', n', b', hf', hb', rfl⟩
  · exact h
  · cases hf'
    cases hb'
    rfl

/-- A facade of a cache that is marked is one of that cache still. -/
theorem of_cached {f : Facade} {k : LinkId} {n : Nat} {b : Bool} {c : Core}
    (h : Marked (.facade f) c) (hb : f.behaviour = .cached k n b) :
    ∃ f' b', c = .facade f' ∧ f'.behaviour = .cached k n b'
      ∧ f'.broken k n = f.broken k n := by
  rcases h with h | ⟨f', k', n', b', hf', hb', rfl⟩
  · exact ⟨f, b, h, hb, rfl⟩
  · cases hf'
    rw [hb] at hb'
    cases hb'
    exact ⟨_, true, rfl, rfl, rfl⟩

end Core.Marked

namespace Marks

variable {g : Bool} {hit : LayerId → Prop} {s t u : State}

theorem refl (s : State) : Marks g hit s s := Relation.ReflTransGen.refl

/-- A change that passes the layers by is a sequence of marks by itself. -/
theorem aside (h : Aside g s t) : Marks g hit s t := .single (.aside h)

theorem trans (h₁ : Marks g hit s t) (h₂ : Marks g hit t u) :
    Marks g hit s u := Relation.ReflTransGen.trans h₁ h₂

theorem mono {hit' : LayerId → Prop} (h : Marks g hit s t)
    (hsub : ∀ a, hit a → hit' a) : Marks g hit' s t := by
  refine Relation.ReflTransGen.mono (fun s t hm => ?_) _ _ h
  cases hm with
  | aside ha => exact .aside ha
  | taint hid hb ha => exact .taint hid hb (hsub _ ha)

/-- No layer is added. -/
theorem length (h : Marks g hit s t) :
    t.layers.length = s.layers.length := by
  induction h with
  | refl => rfl
  | tail _ hm ih =>
      cases hm with
      | aside ha => rw [ha.layers]; exact ih
      | taint _ _ _ => rw [State.length_setCore]; exact ih

/-- A layer keeps all but its core, and that may only be broken. -/
theorem layer? (h : Marks g hit s t) {a : LayerId} {l : Layer}
    (hl : s.layer? a = some l) :
    ∃ c, t.layer? a = some { l with core := c } ∧ l.core.Marked c
      ∧ (¬ hit a → c = l.core) := by
  induction h with
  | refl => exact ⟨l.core, hl, .inl rfl, fun _ => rfl⟩
  | tail _ hm ih =>
      obtain ⟨c, hc, hmark, hnot⟩ := ih
      cases hm with
      | aside ha =>
          exact ⟨c, by rw [State.layer?_congr ha.layers]; exact hc, hmark, hnot⟩
      | @taint id f k n b hid hb hhit =>
          rw [State.layer?_setCore]
          by_cases he : a = id
          · subst he
            rw [if_pos rfl, hc]
            have hcf : c = .facade f := by
              rw [State.core_eq_of_layer? hc] at hid
              exact hid
            refine ⟨_, rfl, hmark.trans (.inr ⟨f, k, n, b, hcf, hb, rfl⟩), ?_⟩
            exact fun hn => absurd hhit hn
          · rw [if_neg he]
            exact ⟨c, hc, hmark, hnot⟩

/-- Where there was no layer there is none now. -/
theorem layer?_eq_none (h : Marks g hit s t) {a : LayerId}
    (hl : s.layer? a = none) : t.layer? a = none := by
  refine List.getElem?_eq_none ?_
  rw [h.length]
  exact List.getElem?_eq_none_iff.1 hl

/-- Every layer's core is as it was or a broken facade now. -/
theorem core (h : Marks g hit s t) (a : LayerId) :
    (s.core a).Marked (t.core a) := by
  cases hl : s.layer? a with
  | none =>
      rw [State.core, State.core, hl, h.layer?_eq_none hl]
      exact .inl rfl
  | some l =>
      obtain ⟨c, hc, hmark, -⟩ := h.layer? hl
      rw [State.core_eq_of_layer? hl, State.core_eq_of_layer? hc]
      exact hmark

/-- The layers hold the delegates they held. -/
theorem holds (h : Marks g hit s t) {a d : LayerId} :
    t.Holds a d ↔ s.Holds a d := by
  rw [State.Holds, State.Holds, (h.core a).delegate?]

/-- The layers stand over the same layers as before. -/
theorem over_iff (h : Marks g hit s t) {a d : LayerId} :
    t.Over a d ↔ s.Over a d :=
  ⟨Relation.ReflTransGen.mono (fun _ _ => h.holds.1) _ _,
   Relation.ReflTransGen.mono (fun _ _ => h.holds.2) _ _⟩

/-- The native handles are the ones there were, over the same statements. -/
theorem core_native (h : Marks g hit s t) {a : LayerId}
    {handle : Option Native.StatementId} :
    t.core a = .native handle ↔ s.core a = .native handle := by
  rcases h.core a with he | ⟨f, k, n, b, hs, -, ht⟩
  · rw [he]
  · rw [hs, ht]
    exact ⟨fun h => (by cases h), fun h => (by cases h)⟩

/-- A layer stands over the driver's statement it stood over. -/
theorem stands (h : Marks g hit s t) {a : LayerId}
    {n : Native.StatementId} : t.Stands a n ↔ s.Stands a n := by
  constructor
  · intro hs
    induction hs with
    | native hn => exact .native (h.core_native.1 hn)
    | facade hd _ ih => exact .facade (h.holds.1 hd) ih
  · intro hs
    induction hs with
    | native hn => exact .native (h.core_native.2 hn)
    | facade hd _ ih => exact .facade (h.holds.2 hd) ih

/-- The shelves of the caches are as they were. -/
theorem caches (h : Marks g hit s t) : t.caches = s.caches := by
  induction h with
  | refl => rfl
  | tail _ hm ih =>
      cases hm with
      | aside ha => rw [ha.caches]; exact ih
      | taint _ _ _ => exact ih

/-- What is parked is what was parked. -/
theorem parked (h : Marks g hit s t) : t.parked = s.parked := by
  rw [State.parked_eq, h.caches, State.parked_eq]

theorem native (h : Marks g hit s t) :
    Native.Store.Steady g s.native t.native := by
  induction h with
  | refl => exact .refl _
  | tail _ hm ih =>
      cases hm with
      | aside ha => exact ih.trans ha.native
      | taint _ _ _ => exact ih

/-- Marking is a sequence of moves. -/
theorem moves {p : Terms} {held loose : List LayerId}
    {out : Option LayerId} (h : Marks p.guarded hit s t)
    (hhit : ∀ a, hit a → a ∉ s.parked ∧ p.taints a) :
    Moves p ⟨s, held, out, loose⟩ ⟨t, held, out, loose⟩ := by
  induction h with
  | refl => exact .refl
  | @tail t u hst hm ih =>
      refine ih.tail ?_
      cases hm with
      | aside ha => exact .aside ha
      | taint hid hb ha =>
          obtain ⟨hp, ht⟩ := hhit _ ha
          have hst : Marks p.guarded hit s t := hst
          exact .taint hid hb (by rw [hst.parked]; exact hp) ht

end Marks

-- ============================================ one layer's own doings

namespace Act

variable {g : Bool} {s t : State} {below : Below} {id : LayerId}
  {op : StatementOp} {own : Option String}

/-- Recording an execution is nothing but recording it. -/
theorem run_recordExecution (table : Statistics.TableId)
    (config : RecorderConfig) (sql : String) (elapsed started : Nat)
    (s : State) :
    ∃ t, s.Alike t
      ∧ (recordExecution table config sql elapsed started).run s
        = (.ok ⟨⟩, t) := by
  unfold recordExecution
  split
  · rw [run_bind, run_modify]
    simp only
    split
    · refine ⟨_, ?_, rfl⟩
      exact ⟨rfl, rfl, rfl, rfl, fun h => h⟩
    · refine ⟨_, ?_, rfl⟩
      exact ⟨rfl, rfl, rfl, rfl, fun h => h⟩
  · exact ⟨s, .refl s, rfl⟩

/-- Timing an operation records it, if at all, after it was done. -/
theorem run_timed (table : Statistics.TableId) (config : RecorderConfig)
    (s : State) :
    ∃ t, ((forward below id op).run s).2.Alike t
      ∧ (timed below id own table config op).run s
        = (((forward below id op).run s).1, t) := by
  unfold timed
  split
  · rw [run_bind, run_get]
    simp only
    rw [run_bind]
    rcases (forward below id op).run s with ⟨_ | r, t⟩
    · exact ⟨t, .refl t, rfl⟩
    · simp only
      rw [run_bind, run_get]
      simp only
      split
      · next sql _ =>
        rw [run_bind]
        obtain ⟨u, hu, hr⟩ := run_recordExecution table config sql
          (min (t.native.driver.clock - s.native.driver.clock) maxDuration)
          s.native.driver.clock t
        rw [hr]
        exact ⟨u, hu, rfl⟩
      · exact ⟨t, .refl t, rfl⟩
  · exact ⟨_, .refl _, rfl⟩

/-- An open facade that nobody watches forwards an operation; apart from
that it records. -/
theorem run_invoke_forwards (below : Below) (id : LayerId)
    (op : StatementOp) (own : Option String) {b : Behaviour}
    (hb : b.isWatched = false) (s : State) :
    ∃ t, ((forward below id op).run s).2.Alike t
      ∧ (invoke below id own b op).run s
        = (((forward below id op).run s).1, t) := by
  cases b with
  | recording table config => exact run_timed table config s
  | watched label answered => cases hb
  | plain | cached | tracked | counting => exact ⟨_, .refl _, rfl⟩

/-- An open facade answers an operation itself, or forwards it; apart
from that it records and logs. -/
theorem run_invoke (below : Below) (id : LayerId) (op : StatementOp)
    (own : Option String) (b : Behaviour) (s : State) : ∃ s', s.Alike s' ∧
    ((invoke below id own b op).run s = (.ok .unit, s')
      ∨ ∃ t, ((forward below id op).run s').2.Alike t
        ∧ (invoke below id own b op).run s
          = (((forward below id op).run s').1, t)) := by
  cases b with
  | watched label answered =>
      refine ⟨s.note label (.invoked op.name op.sql? own),
        ⟨rfl, rfl, rfl, rfl, fun h => h⟩, ?_⟩
      rw [invoke, run_bind, run_modify]
      simp only
      split
      · exact .inl rfl
      · exact .inr ⟨_, .refl _, rfl⟩
  | plain | cached | tracked | counting | recording =>
      exact ⟨s, .refl s, .inr (run_invoke_forwards below id op own rfl s)⟩

/-- Forwarding asks the delegate. -/
theorem run_forward (s : State) :
    (forward below id op).run s
      = match (s.core id).delegate? with
        | some d => (below d op).run s
        | none => (.error (.closed .statement), s) := by
  unfold forward facade
  rw [run_bind, run_bind, run_get]
  simp only [State.facade?]
  cases s.core id with
  | facade f =>
      simp only [Core.facade?, run_pure, Core.delegate?_facade]
      cases f.delegate <;> rfl
  | native h => rfl
  | released => rfl

/-- A failure breaks a facade of a cache if it is permanent; any other
facade it passes leaves as it was. -/
theorem run_report (g : Bool) (id : LayerId) (own : Option String)
    (e : Error) (s : State) :
    ∃ t, (report id own e).run s = (.ok ⟨⟩, t)
      ∧ Marks g (fun a => a = id ∧ e.isPermanent = true) s t
      ∧ t.native = s.native
      ∧ ∀ {f k n b}, s.core id = .facade f → f.behaviour = .cached k n b →
        e.isPermanent = true → t.core id = .facade (f.broken k n) := by
  unfold report
  rw [run_bind, run_get]
  simp only
  cases hf : s.facade? id with
  | none =>
      refine ⟨s, rfl, .refl s, rfl, fun hid _ _ => ?_⟩
      rw [State.facade?_eq_some.2 hid] at hf
      cases hf
  | some f =>
      have hid := State.facade?_eq_some.1 hf
      simp only
      cases hb : f.behaviour with
      | cached k n b =>
          simp only
          by_cases he : e.isPermanent = true
          · rw [if_pos he]
            refine ⟨_, rfl, .single (.taint hid hb ⟨rfl, he⟩), rfl, ?_⟩
            intro f' k' n' b' hid' hb' _
            rw [hid] at hid'
            cases hid'
            rw [hb] at hb'
            cases hb'
            exact State.core_setCore_self
              (by rw [hid]; exact fun h => (by cases h)) _
          · rw [if_neg he]
            exact ⟨s, rfl, .refl s, rfl, fun _ _ h => absurd h he⟩
      | watched label answered =>
          refine ⟨_, rfl, .aside (.of_alike ⟨rfl, rfl, rfl, rfl, fun h => h⟩), rfl, ?_⟩
          intro f' k' n' b' hid' hb' _
          rw [hid] at hid'
          cases hid'
          rw [hb] at hb'
          cases hb'
      | plain | tracked | recording | counting =>
          refine ⟨s, rfl, .refl s, rfl, ?_⟩
          intro f' k' n' b' hid' hb' _
          rw [hid] at hid'
          cases hid'
          rw [hb] at hb'
          cases hb'

-- ======================================================== whole stacks

/-- One layer is asked according to what it is. -/
theorem run_ask (below : Below) (id : LayerId) (op : StatementOp)
    (s : State) :
    (ask below id op).run s
      = match s.layer? id with
        | none => (.error (.closed .statement), s)
        | some l =>
          match l.core with
          | .native handle => (askNative id handle op).run s
          | .facade f => (askFacade below id l f op).run s
          | .released => (.error (.closed .statement), s) := by
  unfold ask
  rw [run_bind, run_get]
  simp only
  cases s.layer? id with
  | none => rfl
  | some l =>
      simp only
      cases l.core <;> rfl

/-- Whatever depth is left, a layer is asked in the same way, with something
to ask the layers below. -/
theorem exists_within (depth : Nat) : ∃ below, within depth = ask below := by
  cases depth <;> exact ⟨_, rfl⟩

/-- A bare handle answers at any depth. -/
theorem run_within_native {handle : Option Native.StatementId}
    (hid : s.core id = .native handle) (depth : Nat) (op : StatementOp) :
    (within depth id op).run s = (askNative id handle op).run s := by
  obtain ⟨below, hbelow⟩ := exists_within depth
  obtain ⟨l, hl, hcore⟩ := State.exists_layer (Core.ne_released_of_native hid)
  rw [hbelow, run_ask, hl]
  simp only
  rw [hcore, hid]

/-- A facade answers with what is under it. -/
theorem run_within_facade {l : Layer} {f : Facade}
    (hl : s.layer? id = some l) (hid : s.core id = .facade f) (depth : Nat)
    (op : StatementOp) :
    (within (depth + 1) id op).run s
      = (askFacade (within depth) id l f op).run s := by
  show (ask (within depth) id op).run s = _
  rw [run_ask, hl]
  simp only
  rw [← State.core_eq_of_layer? hl, hid]

/-- Every operation but closing and asking for closedness uses the
facade. -/
theorem askFacade_of_use {op : StatementOp} (hc : op ≠ .close)
    (hi : op ≠ .isClosed) (below : Below) (id : LayerId) (l : Layer)
    (f : Facade) :
    askFacade below id l f op = useFacade below id l f op := by
  cases op with
  | close => exact absurd rfl hc
  | isClosed => exact absurd rfl hi
  | _ => rfl

/-- Using a facade is one of its own doings, and a report if it fails. -/
theorem run_useFacade (below : Below) (id : LayerId) (l : Layer)
    (f : Facade) (op : StatementOp) (s : State) :
    (useFacade below id l f op).run s
      = if f.closed then (.error (.closed .statement), s)
        else match (invoke below id l.sql f.behaviour op).run s with
          | (.ok r, t) => (.ok (stamp id r), t)
          | (.error e, t) => (.error e, ((report id l.sql e).run t).2) := by
  unfold useFacade
  split
  · rfl
  · rw [run_bind, run_attempt]
    rcases (invoke below id l.sql f.behaviour op).run s with ⟨e | r, t⟩
    · simp only
      rw [run_bind]
      obtain ⟨u, hu, -⟩ := run_report false id l.sql e t
      rw [hu]
      rfl
    · rfl

/-- A native handle passes an operation on its statement to the
driver. -/
theorem run_askNative (hc : op ≠ .close) (hi : op ≠ .isClosed)
    (id : LayerId) (n : Native.StatementId) (s : State) :
    (askNative id (some n) op).run s
      = ((((Native.perform n op).run s.native).1.mapError
            fun e => Error.driver e.unwrapped).map StatementReply.ofNative,
         { s with native := ((Native.perform n op).run s.native).2 }) := by
  have hask : askNative id (some n) op
      = (do return .ofNative (← native (Native.perform n op))) := by
    cases op with
    | close => exact absurd rfl hc
    | isClosed => exact absurd rfl hi
    | _ => rfl
  rw [hask, run_bind, run_native]
  rcases (Native.perform n op).run s.native with ⟨_ | _, t⟩ <;> rfl

/-- A call on the driver's statement changes the driver's side only. -/
theorem exists_askNative (g : Bool) (hop : op ≠ .close) (id : LayerId)
    (handle : Option Native.StatementId) (s : State) :
    ∃ st, Native.Store.Steady g s.native st
      ∧ ((askNative id handle op).run s).2 = { s with native := st } := by
  cases handle with
  | none => cases op <;> exact ⟨s.native, .refl _, rfl⟩
  | some n =>
      by_cases hi : op = .isClosed
      · subst hi
        exact ⟨s.native, .refl _, rfl⟩
      · rw [run_askNative hop hi]
        exact ⟨_, Native.isSteady_perform n hop g s.native, rfl⟩

/-- How an operation other than closing, asked of a layer, can end: with
facades of the layer's stack broken if it failed for good, and then all
of them. -/
structure Marking (g : Bool) (s : State) (id : LayerId)
    (r : Except Error StatementReply × State) : Prop where
  marks : Marks g (fun a => s.Over id a
    ∧ ∃ e, r.1 = .error e ∧ e.isPermanent = true) s r.2
  broken : ∀ {e a f k n b}, r.1 = .error e → e.isPermanent = true →
    s.Over id a → s.core a = .facade f → f.behaviour = .cached k n b →
    r.2.core a = .facade (f.broken k n)

/-- A layer without a delegate stands over nothing but itself. -/
private theorem eq_of_over {a : LayerId} (h : s.Over id a)
    (hd : (s.core id).delegate? = none) : a = id := by
  rcases Relation.ReflTransGen.cases_head h with rfl | ⟨d, hh, -⟩
  · rfl
  · rw [State.Holds, hd] at hh
    cases hh

/-- Where nothing fails for good, only the changes have to be looked
at. -/
private theorem marking_of {r : Except Error StatementReply}
    (h : Marks g (fun _ => False) s t)
    (hr : ∀ e, r = .error e → e.isPermanent = false) :
    Marking g s id (r, t) := by
  refine ⟨h.mono fun _ h => h.elim, fun {e} _ _ _ _ _ he hp => ?_⟩
  rw [hr e he] at hp
  cases hp

/-- The use of a facade ends as a marking when what it asks below does. -/
private theorem marking_useFacade
    (hbelow : ∀ id s, Marking g s id ((below id op).run s)) {l : Layer}
    {f : Facade} (hl : s.layer? id = some l) (hf : l.core = .facade f) :
    Marking g s id ((useFacade below id l f op).run s) := by
  have hid : s.core id = .facade f := by
    rw [State.core_eq_of_layer? hl, hf]
  rw [run_useFacade]
  split
  · exact marking_of (.refl s) fun e he => by cases he; rfl
  · obtain ⟨s', hs', hcase⟩ := run_invoke below id op l.sql
      f.behaviour s
    have hcore : ∀ a, s'.core a = s.core a := State.core_congr hs'.layers
    have hmark' : Marks g (fun _ => False) s s' := .aside (.of_alike hs')
    rcases hcase with hrun | ⟨t, ht, hrun⟩
    · rw [hrun]
      exact marking_of hmark' fun e he => by cases he
    · rw [hrun]
      have hmark : ∀ hit, Marks g hit ((forward below id op).run s').2 t :=
        fun _ => .aside (.of_alike ht)
      rw [run_forward, hcore, hid] at hmark
      rw [run_forward, hcore, hid]
      simp only [Core.delegate?_facade] at hmark ⊢
      cases hd : f.delegate with
      | none =>
          rw [hd] at hmark
          simp only at hmark ⊢
          obtain ⟨u, hu, hm, -⟩ := run_report g id l.sql
            (.closed .statement) t
          rw [hu]
          refine marking_of ?_ fun e he => by cases he; rfl
          refine hmark'.trans ((hmark _).trans (hm.mono ?_))
          rintro a ⟨-, hp⟩
          cases hp
      | some d =>
          rw [hd] at hmark
          simp only at hmark ⊢
          have hover : ∀ {a}, s'.Over d a → s.Over id a := fun ha =>
            .head (.of_facade hid hd) (hmark'.over_iff.1 ha)
          obtain ⟨hm, hbelow⟩ := hbelow d s'
          rcases hr : ((below d op).run s').1 with e | r
          · rw [hr] at hm hbelow
            simp only at hmark ⊢
            obtain ⟨u, hu, hrep, -, hbr⟩ := run_report g id l.sql e t
            rw [hu]
            refine ⟨?_, ?_⟩
            · refine (hmark'.mono fun _ h => h.elim).trans
                ((hm.mono ?_).trans ((hmark _).trans (hrep.mono ?_)))
              · rintro a ⟨ha, e', he', hp⟩
                exact ⟨hover ha, e', he', hp⟩
              · rintro a ⟨rfl, hp⟩
                exact ⟨.refl, e, rfl, hp⟩
            · intro e' a f' k n b he hp ha hfa hb
              cases he
              rcases Relation.ReflTransGen.cases_head ha with rfl | ⟨d', hd', ha⟩
              · rw [hid] at hfa
                cases hfa
                have hmk := ((hmark'.core id).trans (hm.core id)).trans
                  ((hmark fun _ => False).core id)
                rw [hid] at hmk
                obtain ⟨f', b', hf', hb', hbroken⟩ := hmk.of_cached hb
                rw [hbr hf' hb' hp, hbroken]
              · have hdd : d = d' := by
                  rw [State.Holds, hid] at hd'
                  exact Option.some.inj (hd.symm.trans hd')
                subst hdd
                have hcore' := hbelow rfl hp (hmark'.over_iff.2 ha)
                  (by rw [hcore]; exact hfa) hb
                have hmk := ((hmark fun _ => False).core a).trans
                  (hrep.core a)
                rw [hcore'] at hmk
                exact hmk.of_broken
          · rw [hr] at hm
            refine ⟨?_, fun he => (by cases he)⟩
            refine (hmark'.mono fun _ h => h.elim).trans
              ((hm.mono ?_).trans (hmark _))
            rintro a ⟨-, e', he', -⟩
            cases he'

/-- Asking a layer ends as a marking when asking the layers below does. -/
theorem marking_ask (hop : op ≠ .close)
    (hbelow : ∀ id s, Marking g s id ((below id op).run s)) (id : LayerId)
    (s : State) : Marking g s id ((ask below id op).run s) := by
  rw [run_ask]
  cases hl : s.layer? id with
  | none => exact marking_of (.refl s) fun e he => by cases he; rfl
  | some l =>
      simp only
      cases hf : l.core with
      | released => exact marking_of (.refl s) fun e he => by cases he; rfl
      | native handle =>
          have hid : s.core id = .native handle := by
            rw [State.core_eq_of_layer? hl, hf]
          obtain ⟨st, hst, hrun⟩ := exists_askNative g hop id handle s
          simp only
          refine ⟨?_, fun _ _ ha hfa _ => ?_⟩
          · rw [hrun]
            exact .aside (.of_native hst)
          · rw [eq_of_over ha (by rw [hid]; rfl), hid] at hfa
            cases hfa
      | facade f =>
          cases op with
          | close => exact absurd rfl hop
          | isClosed => exact marking_of (.refl s) fun e he => by cases he
          | _ => exact marking_useFacade hbelow hl hf

/-- An operation other than closing breaks facades of caches at most, and
breaks all of its stack if it fails for good. -/
theorem marking_within (hop : op ≠ .close) (depth : Nat) (id : LayerId)
    (s : State) : Marking g s id ((within depth id op).run s) := by
  induction depth generalizing id s with
  | zero =>
      refine marking_ask hop (fun id s => ?_) id s
      exact marking_of (.refl s) fun e he => by cases he; rfl
  | succ depth ih => exact marking_ask hop ih id s

end Act

end PooledChain
