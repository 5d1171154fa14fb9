/-
Stacks of facades that only pass on.

Where every facade was put up by a link that only wraps, or by a caller,
and nothing is parked (`State.Thin`), a stack is worth what is at its
bottom. What is asked of its handle, other than to close, is asked of
the driver's statement there, and nobody else hears of it but the
recorders (`Act.run_use`).

What spares the statements leaves such a state thin (`Thin.spares`), and
so does what takes stacks apart (`Thin.wanes`).
-/
import PooledChain.Proofs.Heap.Dead
import PooledChain.Proofs.Heap.Veil

namespace PooledChain

variable {s t u : State} {a b d x : LayerId} {held : List LayerId}
  {n m : Native.StatementId} {op : StatementOp}

/-- Whether a facade passes on what it is asked, and that it is closed. -/
def Behaviour.isLight : Behaviour → Bool
  | plain => true
  | recording _ _ => true
  | counting _ => true
  | _ => false

/-- A light facade watches nothing. -/
theorem Behaviour.isWatched_of_isLight {b : Behaviour}
    (h : b.isLight = true) : b.isWatched = false := by
  cases b with
  | watched label answered => cases h
  | _ => rfl

/-- A light facade stays as it is. -/
theorem Behaviour.Later.eq_of_isLight {b b' : Behaviour} (h : b.Later b')
    (hb : b.isLight = true) : b' = b := by
  rcases h with rfl | ⟨k, g, x, rfl, rfl⟩
  · rfl
  · cases hb

/-- A layer is of no higher level later on, and of the same if it has a
delegate. -/
theorem Core.Later.level {c c' : Core} (h : c.Later c') :
    c'.level ≤ c.level ∧ (c'.delegate?.isSome = true → c'.level = c.level) := by
  cases h with
  | released => exact ⟨Nat.zero_le _, fun hd => by cases hd⟩
  | native _ => exact ⟨Nat.le_refl _, fun _ => rfl⟩
  | facade hl _ _ => exact ⟨Nat.le_of_eq hl, fun _ => hl⟩

namespace State

/-- Whether all facades are light. -/
structure Light (s : State) : Prop where
  facade : ∀ {a f}, s.core a = .facade f → f.behaviour.isLight = true

theorem Light.congr (h : s.Light) (hl : t.layers = s.layers) : t.Light :=
  ⟨fun {a f} hf => h.facade (by rw [← core_congr hl]; exact hf)⟩

/-- Whether there is nothing to a stack but its native handle, and each
open statement has one. -/
structure Thin (s : State) : Prop where
  whole : s.Whole
  light : s.Light
  caches : s.caches = .empty
  watched : s.watched = []
  once : ∀ {a b n}, s.core a = .native (some n) →
    s.core b = .native (some n) → a = b
  opened : ∀ n, s.native.HasOpen n ↔ ∃ a, s.core a = .native (some n)

-- ================================================== layers that wane

/-- A later state without new layers, in which a facade is closed if it
has lost its delegate, and no facade that is there has lost it
otherwise. -/
structure Wanes (s t : State) : Prop where
  later : s.Later t
  length : t.layers.length = s.layers.length
  hollow : t.Hollow
  living : ∀ {a d}, t.Holds a d → s.core d ≠ .released →
    t.core d ≠ .released

namespace Wanes

/-- What is not released later was there, and is a later form of it. -/
theorem core (h : s.Wanes t) (ha : t.core a ≠ .released) :
    (s.core a).Later (t.core a) :=
  h.later.core (by rw [← h.length]; exact lt_of_core ha)

/-- What holds a delegate later held it before. -/
theorem holds (h : s.Wanes t) (hd : t.Holds a d) : s.Holds a d :=
  (h.core hd.not_released).delegate? hd

theorem native (h : s.Wanes t) (ha : t.core a = .native (some n)) :
    s.core a = .native (some n) := by
  refine Core.eq_native_of_handle? ((h.core fun hr => ?_).handle? ?_)
  · rw [hr] at ha
    cases ha
  · rw [ha]
    rfl

/-- What stands on a statement later stood on it before. -/
theorem stands (h : s.Wanes t) (hn : t.Stands a n) : s.Stands a n := by
  induction hn with
  | native hn => exact .native (h.native hn)
  | facade hd _ ih => exact .facade (h.holds hd) ih

/-- Facades stay light. -/
theorem light (h : s.Wanes t) (hs : s.Light) : t.Light := by
  refine ⟨fun {a f} hf => ?_⟩
  have hlater := h.core (a := a) (Core.ne_released_of_facade hf)
  rw [hf] at hlater
  cases hc : s.core a with
  | facade f' =>
      rw [hc] at hlater
      cases hlater with
      | facade _ _ hb =>
          rw [hb.eq_of_isLight (hs.facade hc)]
          exact hs.facade hc
  | native h => rw [hc] at hlater; cases hlater
  | released => rw [hc] at hlater; cases hlater

/-- Stacks stay whole. -/
theorem whole (h : s.Wanes t) (hs : s.Whole) (hlight : s.Light) :
    t.Whole where
  formed := by
    refine ⟨fun hd => hs.formed.older (h.holds hd), fun {a d} hd => ?_,
      h.hollow, fun a f k g b hf hb => ?_⟩
    · have hlive : t.core a ≠ .released := hd.not_released
      rw [(h.core hlive).level.2 (by rw [hd]; rfl)]
      refine Nat.lt_of_le_of_lt ?_ (hs.formed.leveled (h.holds hd))
      by_cases hr : t.core d = .released
      · rw [hr]
        exact Nat.zero_le _
      · exact (h.core hr).level.1
    · have hl := (h.light hlight).facade hf
      rw [hb] at hl
      cases hl
  living hd := h.living hd (hs.living (h.holds hd))

end Wanes

namespace Thin

/-- No facade of a thin state watches anything. -/
theorem not_watched (h : s.Thin) {f : Facade} (hf : s.core a = .facade f) :
    f.behaviour.isWatched = false :=
  Behaviour.isWatched_of_isLight (h.light.facade hf)

/-- The statement under a handle is the one that it stands on. -/
theorem under_eq_some (h : s.Thin) :
    s.statementUnder? a = some n ↔ s.Stands a n :=
  statementUnder?_eq_some h.whole.formed.leveled

/-- Nothing is parked in a thin state. -/
theorem parked (h : s.Thin) : s.parked = [] := by
  rw [State.parked, h.caches]
  rfl

/-- What spares the statements leaves a state thin. -/
theorem spares (h : s.Thin) (hs : s.Spares t) : t.Thin where
  whole := h.whole.congr hs.layers
  light := h.light.congr hs.layers
  caches := hs.caches.trans h.caches
  watched := hs.watched.trans h.watched
  once {a b n} ha hb := by
    rw [core_congr hs.layers] at ha hb
    exact h.once ha hb
  opened n := by
    rw [hs.opened, h.opened]
    simp only [core_congr hs.layers]

/-- If layers wane, a state stays thin as long as the open statements are
those with a handle. -/
theorem wanes (h : s.Thin) (hw : s.Wanes t) (hb : s.Beside t)
    (ho : ∀ n, t.native.HasOpen n ↔ ∃ a, t.core a = .native (some n)) :
    t.Thin where
  whole := hw.whole h.whole h.light
  light := hw.light h.light
  caches := hb.caches.trans h.caches
  watched := hb.watched.trans h.watched
  once ha hb := h.once (hw.native ha) (hw.native hb)
  opened := ho

end Thin

end State

-- ================================================================ using it

namespace Act

open State (Calls Unseen)

variable {α β : Type} {below : Below}

/-- Two acts that only call the driver and record do so one after the
other. -/
theorem calls_bind {x : Act α} {f : α → Act β} (hx : s.Calls (x.run s).2)
    (hf : ∀ a t, s.Calls t → t.Calls ((f a).run t).2) :
    s.Calls ((x >>= f).run s).2 := by
  rw [run_bind]
  rcases hr : x.run s with ⟨e | a, t⟩ <;> rw [hr] at hx
  · exact hx
  · exact hx.trans (hf a t hx)

/-- Recording an execution only records. -/
theorem calls_recordExecution (table : Statistics.TableId)
    (config : RecorderConfig) (sql : String) (elapsed started : Nat)
    (s : State) :
    s.Calls ((recordExecution table config sql elapsed started).run s).2 := by
  unfold recordExecution
  split
  · refine calls_bind ⟨⟨rfl, rfl, rfl, rfl, rfl, rfl⟩, rfl⟩ fun _ t _ => ?_
    split
    · exact calls_bind (.refl t) fun _ u _ =>
        ⟨⟨rfl, rfl, rfl, rfl, rfl, rfl⟩, rfl⟩
    · exact .refl t
  · exact .refl s

/-- Whether the layers below only call the driver, and record, when they
are asked. -/
structure CallsBelow (below : Below) (op : StatementOp) : Prop where
  calls : ∀ {t : State} (d : LayerId), t.Light →
    t.Calls ((below d op).run t).2

/-- What is passed on to such layers only calls and records. -/
theorem calls_forward (hbelow : CallsBelow below op) (h : s.Light)
    (id : LayerId) : s.Calls ((forward below id op).run s).2 := by
  rw [run_forward]
  split
  · exact hbelow.calls _ h
  · exact .refl s

/-- A light facade forwards what it is asked. -/
theorem calls_invoke (hbelow : CallsBelow below op) (h : s.Light)
    {b : Behaviour} (hb : b.isLight = true) (id : LayerId)
    (own : Option String) :
    s.Calls ((invoke below id own b op).run s).2 := by
  have hforward : ∀ {t : State}, s.Calls t →
      t.Calls ((forward below id op).run t).2 := fun ht =>
    calls_forward hbelow (h.congr ht.layers) id
  cases b with
  | recording table config =>
      show s.Calls ((timed below id own table config op).run s).2
      unfold timed
      split
      · refine calls_bind (.refl s) fun _ t ht =>
          calls_bind (hforward ht) fun reply u _ =>
            calls_bind (.refl u) fun _ v _ => ?_
        simp only
        split
        · exact calls_bind (calls_recordExecution ..) fun _ w _ => .refl w
        · exact .refl v
      · exact hforward (.refl s)
  | plain | counting => exact hforward (.refl s)
  | cached | tracked | watched => cases hb

/-- A failure passes a light facade. -/
theorem run_report_of_light (h : s.Light) (id : LayerId)
    (own : Option String) (e : Error) :
    (report id own e).run s = (.ok (), s) := by
  unfold report
  rw [run_bind, run_get]
  simp only
  cases hf : s.facade? id with
  | none => rfl
  | some f =>
      have hb := h.facade (State.facade?_eq_some.1 hf)
      simp only
      cases hk : f.behaviour with
      | plain | recording | counting => rfl
      | cached | tracked | watched => rw [hk] at hb; cases hb

/-- Asking a light facade only calls and records, if asking the layers below
does. -/
theorem calls_ask (hc : op ≠ .close) (hbelow : CallsBelow below op) :
    CallsBelow (ask below) op := by
  refine ⟨fun {t} id h => ?_⟩
  rw [run_ask]
  cases hl : t.layer? id with
  | none => exact .refl t
  | some l =>
      simp only
      cases hlc : l.core with
      | released => exact .refl t
      | native handle =>
          simp only
          by_cases hi : op = .isClosed
          · subst hi
            exact .refl t
          cases handle with
          | none => cases op <;> exact .refl t
          | some n =>
              rw [run_askNative hc hi]
              exact ⟨⟨rfl, rfl, rfl, rfl, rfl, rfl⟩, rfl⟩
      | facade f =>
          have hlight := h.facade ((State.core_eq_of_layer? hl).trans hlc)
          have huse : t.Calls ((useFacade below id l f op).run t).2 := by
            rw [run_useFacade]
            split
            · exact .refl t
            · have hinvoke := calls_invoke hbelow h hlight id l.sql
              rcases hr : (invoke below id l.sql f.behaviour op).run t with
                ⟨e | r, u⟩ <;> rw [hr] at hinvoke
              · simp only
                rw [run_report_of_light (h.congr hinvoke.layers)]
                exact hinvoke
              · exact hinvoke
          cases op with
          | close => exact absurd rfl hc
          | isClosed => exact calls_bind (.refl t) fun _ u _ => .refl u
          | _ => exact huse

/-- What is asked of a light stack, other than to close, gets to the
driver and into the records. -/
theorem calls_within (hc : op ≠ .close) (depth : Nat) :
    CallsBelow (within depth) op := by
  induction depth with
  | zero =>
      refine calls_ask hc ⟨fun {t} d _ => ?_⟩
      rw [run_throw]
      exact .refl t
  | succ depth ih => exact calls_ask hc ih

end Act

/-- What a handle answers, and what becomes of the driver's side: the
statement that it stands on is asked. -/
def State.use (s : State) (a : LayerId) (op : StatementOp) :
    Except Error StatementReply × Native.Store :=
  match s.statementUnder? a with
  | some n => (s.risen a ((Native.perform n op).run s.native).1,
      ((Native.perform n op).run s.native).2)
  | none => (.error (.closed .statement), s.native)

/-- An operation other than closing is one on the statement at the bottom
of the stack, if there is one. -/
theorem Act.run_use (h : s.Thin) (hc : op ≠ .close) (hi : op ≠ .isClosed)
    (a : LayerId) : ((dispatch a op).run s).1 = (s.use a op).1
      ∧ ((dispatch a op).run s).2.native = (s.use a op).2
      ∧ s.Calls ((dispatch a op).run s).2 := by
  have hf := h.whole.formed
  have hcalls : s.Calls ((dispatch a op).run s).2 :=
    (calls_within hc _).calls a h.light
  rw [State.use]
  split
  · next n hn =>
    obtain ⟨hr, hnative⟩ := run_dispatch_open hc hi hf h.not_watched
      ((State.statementUnder?_eq_some hf.leveled).1 hn)
    exact ⟨hr, hnative, hcalls⟩
  · next hnone =>
    have hdead : s.Dead a := fun n hn => by
      rw [(State.statementUnder?_eq_some hf.leveled).2 hn] at hnone
      cases hnone
    have hrun : (dispatch a op).run s = (.error (.closed .statement), s) :=
      run_within_dead hc hi hf h.not_watched hdead (Nat.le_refl _)
    rw [hrun]
    exact ⟨rfl, rfl, .refl s⟩

end PooledChain
