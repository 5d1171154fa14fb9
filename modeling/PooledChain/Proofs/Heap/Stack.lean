/-
Stacks of layers: which layers a layer stands on, and which of the
driver's statements is at the bottom.

# The relations

- `Holds a d`: `a` is a facade whose delegate is `d`.
- `Over a b`: `b` is reached from `a` by going from delegate to
  delegate, in any number of steps.
- `Stands a n`: at the bottom of the stack of `a`, with a delegate in
  every facade on the way, is a native handle that still has the
  driver's statement `n`.

A layer has at most one delegate, so what a layer stands on is unique
(`Stands.unique`) and two layers over which the same one lies in a
single line can be compared (`Over.total`).

`Stands` is what `isClosed` computes the absence of, and
`statementUnder?` the statement itself; that they agree needs the levels
to go down along a stack, so it is proved where that is known.
-/
import PooledChain.Proofs.Native
import Mathlib.Logic.Relation

namespace PooledChain

namespace Core

/-- The driver's statement that a native handle still has. -/
def handle? : Core → Option Native.StatementId
  | native handle => handle
  | _ => none

/-- A facade holds its delegate. -/
@[simp] theorem delegate?_facade (f : Facade) :
    (facade f).delegate? = f.delegate := rfl

/-- A native handle holds no layer. -/
@[simp] theorem delegate?_native (h : Option Native.StatementId) :
    (native h).delegate? = none := rfl

/-- A released layer holds none. -/
@[simp] theorem delegate?_released : released.delegate? = none := rfl

/-- A native handle has the statement it was put around. -/
@[simp] theorem handle?_native (h : Option Native.StatementId) :
    (native h).handle? = h := rfl

/-- A facade has no statement of its own. -/
@[simp] theorem handle?_facade (f : Facade) : (facade f).handle? = none := rfl

/-- A released layer has no statement. -/
@[simp] theorem handle?_released : released.handle? = none := rfl

/-- The level of a facade is what it was given. -/
@[simp] theorem level_facade (f : Facade) : (facade f).level = f.level := rfl

/-- Native handles are at the bottom. -/
@[simp] theorem level_native (h : Option Native.StatementId) :
    (native h).level = 0 := rfl

/-- Only a facade has a delegate. -/
theorem exists_facade_of_delegate? {c : Core} {d : LayerId}
    (h : c.delegate? = some d) : ∃ f, c = facade f ∧ f.delegate = some d := by
  cases c with
  | facade f => exact ⟨f, rfl, h⟩
  | native h' => cases h
  | released => cases h

/-- A facade is not released. -/
theorem ne_released_of_facade {c : Core} {f : Facade} (h : c = facade f) :
    c ≠ released := by
  rw [h]
  exact fun h => by cases h

/-- A native handle is not released. -/
theorem ne_released_of_native {c : Core} {h : Option Native.StatementId}
    (hc : c = native h) : c ≠ released := by
  rw [hc]
  exact fun h => by cases h

/-- Only a native handle has a statement of the driver. -/
theorem eq_native_of_handle? {c : Core} {n : Native.StatementId}
    (h : c.handle? = some n) : c = native (some n) := by
  cases c with
  | native h' => cases h; rfl
  | facade f => cases h
  | released => cases h

end Core

namespace State

variable {s : State}

-- ====================================================== looking at cores

/-- The core of a layer that is there is its own. -/
theorem core_eq_of_layer? {id : LayerId} {l : Layer}
    (h : s.layer? id = some l) : s.core id = l.core := by
  rw [core, h]
  rfl

/-- Equal layers have equal cores. -/
theorem core_congr_layer {t : State} {id : LayerId}
    (h : t.layer? id = s.layer? id) : t.core id = s.core id := by
  rw [core, core, h]

/-- What is not released is there. -/
theorem exists_layer {id : LayerId} (h : s.core id ≠ .released) :
    ∃ l, s.layer? id = some l ∧ l.core = s.core id := by
  cases hl : s.layer? id with
  | none => rw [core, hl] at h; exact absurd rfl h
  | some l => exact ⟨l, rfl, (core_eq_of_layer? hl).symm⟩

/-- A layer that is not released is one of the list. -/
theorem lt_of_core {id : LayerId} (h : s.core id ≠ .released) :
    id < s.layers.length := by
  obtain ⟨l, hl, -⟩ := exists_layer h
  exact (List.getElem?_eq_some_iff.1 hl).1

/-- Beyond the list everything counts as released. -/
theorem core_of_le {id : LayerId} (h : s.layers.length ≤ id) :
    s.core id = .released := by
  rw [core, layer?, List.getElem?_eq_none h]
  rfl

/-- A facade is found where the core is one. -/
theorem facade?_eq_some {id : LayerId} {f : Facade} :
    s.facade? id = some f ↔ s.core id = .facade f := by
  rw [facade?]
  cases s.core id <;> simp [Core.facade?]

/-- Giving a layer another core changes that layer only. -/
theorem layer?_setCore (id : LayerId) (c : Core) (x : LayerId) :
    (s.setCore id c).layer? x
      = if x = id then (s.layer? x).map ({ · with core := c })
        else s.layer? x := by
  rw [layer?, setCore, List.getElem?_modify]
  by_cases h : x = id
  · subst h; simp [layer?]
  · have h' : ¬ id = x := fun he => h he.symm
    simp [layer?, h, h']

/-- The layer has the new core, and every other one its own. -/
theorem core_setCore {id : LayerId} (hid : id < s.layers.length) (c : Core)
    (x : LayerId) :
    (s.setCore id c).core x = if x = id then c else s.core x := by
  rw [core, layer?_setCore]
  by_cases h : x = id
  · subst h
    simp [layer?, List.getElem?_eq_getElem hid]
  · simp [h, core]

/-- A layer that is not released has the core it is given. -/
theorem core_setCore_self {id : LayerId} (h : s.core id ≠ .released)
    (c : Core) : (s.setCore id c).core id = c := by
  rw [core_setCore (lt_of_core h), if_pos rfl]

/-- Other layers keep their cores. -/
theorem core_setCore_of_ne {id x : LayerId} (h : x ≠ id) (c : Core) :
    (s.setCore id c).core x = s.core x := by
  rw [core, layer?_setCore, if_neg h, core]

/-- Giving a layer the core it has. -/
theorem setCore_core (id : LayerId) : s.setCore id (s.core id) = s := by
  have hlayers : (s.setCore id (s.core id)).layers = s.layers := by
    refine List.ext_getElem? fun i => ?_
    have hi := layer?_setCore (s := s) id (s.core id) i
    rw [layer?, layer?] at hi
    rw [hi]
    split
    · next he =>
      subst he
      cases hl : s.layers[i]? with
      | none => rfl
      | some l =>
          have hc : s.core i = l.core := core_eq_of_layer? hl
          rw [Option.map_some, hc]
    · rfl
  show { s with layers := (s.setCore id (s.core id)).layers } = s
  rw [hlayers]

/-- No layer is added or removed. -/
@[simp] theorem length_setCore (id : LayerId) (c : Core) :
    (s.setCore id c).layers.length = s.layers.length :=
  List.length_modify ..

/-- A new layer comes after the ones there are. -/
theorem layer?_addLayer (l : Layer) (x : LayerId) :
    (s.addLayer l).2.layer? x
      = if x = s.layers.length then some l else s.layer? x := by
  rcases Nat.lt_trichotomy x s.layers.length with h | h | h
  · rw [if_neg (Nat.ne_of_lt h)]
    exact List.getElem?_append_left h
  · subst h
    simp [layer?, addLayer]
  · rw [if_neg (Nat.ne_of_gt h), layer?, layer?, addLayer,
      List.getElem?_eq_none (Nat.le_of_lt h)]
    exact List.getElem?_eq_none (by
      rw [List.length_append, List.length_singleton]; exact h)

/-- It has its core, and every other one its own. -/
theorem core_addLayer (l : Layer) (x : LayerId) :
    (s.addLayer l).2.core x
      = if x = s.layers.length then l.core else s.core x := by
  rw [core, layer?_addLayer]
  by_cases h : x = s.layers.length <;> simp [h, core]

/-- The new layer is in the first free place. -/
theorem layer?_addLayer_new (s : State) (l : Layer) :
    (s.addLayer l).2.layer? s.layers.length = some l := by
  rw [layer?_addLayer, if_pos rfl]

/-- Its core is found there. -/
theorem core_addLayer_new (s : State) (l : Layer) :
    (s.addLayer l).2.core s.layers.length = l.core := by
  rw [core_addLayer, if_pos rfl]

/-- The layers there are stay as they are. -/
theorem layer?_addLayer_of_lt {x : LayerId} (h : x < s.layers.length)
    (l : Layer) : (s.addLayer l).2.layer? x = s.layer? x := by
  rw [layer?_addLayer, if_neg (Nat.ne_of_lt h)]

/-- The cores there are stay as they are. -/
theorem core_addLayer_of_lt {x : LayerId} (h : x < s.layers.length)
    (l : Layer) : (s.addLayer l).2.core x = s.core x := by
  rw [core_addLayer, if_neg (Nat.ne_of_lt h)]

-- ============================================================ delegates

/-- `a` is a facade whose delegate is `d`. -/
def Holds (s : State) (a d : LayerId) : Prop := (s.core a).delegate? = some d

/-- `b` is reached from `a` by going from delegate to delegate. -/
def Over (s : State) : LayerId → LayerId → Prop :=
  Relation.ReflTransGen s.Holds

/-- The layer stands on the driver's statement `n`: no facade on the way
is without a delegate, and the handle at the bottom has `n`. -/
inductive Stands (s : State) : LayerId → Native.StatementId → Prop
  | native {id n} : s.core id = .native (some n) → Stands s id n
  | facade {id d n} : s.Holds id d → Stands s d n → Stands s id n

/-- A facade has one delegate. -/
theorem Holds.unique {a d d' : LayerId} (h : s.Holds a d)
    (h' : s.Holds a d') : d = d' :=
  Option.some.inj (h.symm.trans h')

/-- A facade holds its delegate. -/
theorem Holds.of_facade {a d : LayerId} {f : Facade}
    (ha : s.core a = .facade f) (hd : f.delegate = some d) : s.Holds a d := by
  rw [Holds, ha]
  exact hd

/-- What holds a delegate is not released. -/
theorem Holds.not_released {a d : LayerId} (h : s.Holds a d) :
    s.core a ≠ .released := by
  intro hr
  rw [Holds, hr] at h
  cases h

/-- What holds a delegate is no native handle. -/
theorem Holds.not_native {a d : LayerId} (h : s.Holds a d)
    {handle : Option Native.StatementId} : s.core a ≠ .native handle := by
  intro hn
  rw [Holds, hn] at h
  cases h

/-- What is under a facade stands on what the facade stands on. -/
theorem Stands.of_holds {a d : LayerId} {n : Native.StatementId}
    (h : s.Stands a n) (hd : s.Holds a d) : s.Stands d n := by
  cases h with
  | native hn => exact absurd hn hd.not_native
  | facade hd' h' => exact hd.unique hd' ▸ h'

/-- A layer stands on one statement. -/
theorem Stands.unique {a : LayerId} {n n' : Native.StatementId}
    (h : s.Stands a n) (h' : s.Stands a n') : n = n' := by
  induction h with
  | native hn =>
      cases h' with
      | native hn' => rw [hn] at hn'; cases hn'; rfl
      | facade hd _ => exact absurd hn hd.not_native
  | facade hd _ ih => exact ih (h'.of_holds hd)

/-- What stands on a statement is not released. -/
theorem Stands.not_released {a : LayerId} {n : Native.StatementId}
    (h : s.Stands a n) : s.core a ≠ .released := by
  cases h with
  | native hn => rw [hn]; exact fun h => by cases h
  | facade hd _ =>
      intro hr
      rw [Holds, hr] at hd
      cases hd

/-- A facade that is open has a delegate. -/
theorem Stands.delegate_ne_none {a : LayerId} {n : Native.StatementId}
    {f : Facade} (h : s.Stands a n) (hf : s.core a = .facade f) :
    f.delegate ≠ none := by
  intro hno
  cases h with
  | native hc => cases hf.symm.trans hc
  | facade hd _ =>
      rw [Holds, hf] at hd
      cases hno.symm.trans hd

/-- What lies over a layer stands on what the layer stands on. -/
theorem Stands.over {a b : LayerId} {n : Native.StatementId}
    (h : s.Stands b n) (hab : s.Over a b) : s.Stands a n := by
  induction hab using Relation.ReflTransGen.head_induction_on with
  | refl => exact h
  | head hd _ ih => exact .facade hd ih

/-- Every layer on the way down stands on the same statement. -/
theorem Stands.of_over {a b : LayerId} {n : Native.StatementId}
    (h : s.Stands a n) (hab : s.Over a b) : s.Stands b n := by
  induction hab with
  | refl => exact h
  | tail _ hd ih => exact ih.of_holds hd

/-- The native handle at the bottom. -/
theorem Stands.exists_native {a : LayerId} {n : Native.StatementId}
    (h : s.Stands a n) : ∃ b, s.Over a b ∧ s.core b = .native (some n) := by
  induction h with
  | native hn => exact ⟨_, .refl, hn⟩
  | facade hd _ ih =>
      obtain ⟨b, hb, hn⟩ := ih
      exact ⟨b, .head hd hb, hn⟩

/-- What a layer stands on depends on the layers under it only. -/
theorem Stands.congr {t : State} {a : LayerId} {n : Native.StatementId}
    (h : s.Stands a n) (hc : ∀ x, s.Over a x → t.core x = s.core x) :
    t.Stands a n := by
  induction h with
  | native hn => exact .native ((hc _ .refl).trans hn)
  | facade hd _ ih =>
      refine .facade ?_ (ih fun x hx => hc x (.head hd hx))
      rw [Holds, hc _ .refl]
      exact hd

theorem Over.congr {t : State} {a b : LayerId} (h : s.Over a b)
    (hc : ∀ x, s.Over a x → t.core x = s.core x) : t.Over a b := by
  induction h with
  | refl => exact .refl
  | tail hab hd ih =>
      refine ih.tail ?_
      rw [Holds, hc _ hab]
      exact hd

/-- It was there if no core on it has changed since. -/
theorem Over.of_congr {t : State} {a b : LayerId} (h : t.Over a b)
    (hc : ∀ x, s.Over a x → t.core x = s.core x) : s.Over a b := by
  induction h with
  | refl => exact .refl
  | tail _ hd ih =>
      refine ih.tail ?_
      rw [Holds, hc _ ih] at hd
      exact hd

/-- What lies under a layer is older. -/
theorem Over.le (hs : ∀ {a d}, s.Holds a d → d < a) {a b : LayerId}
    (h : s.Over a b) : b ≤ a := by
  induction h with
  | refl => exact Nat.le_refl _
  | tail _ hd ih => exact Nat.le_trans (Nat.le_of_lt (hs hd)) ih

/-- What lies under a layer is of no higher level. -/
theorem Over.level_le
    (hl : ∀ {a d}, s.Holds a d → (s.core d).level < (s.core a).level)
    {a b : LayerId} (h : s.Over a b) :
    (s.core b).level ≤ (s.core a).level := by
  induction h with
  | refl => exact Nat.le_refl _
  | tail _ hd ih => exact Nat.le_trans (Nat.le_of_lt (hl hd)) ih

/-- Of two layers under one layer, one lies over the other. -/
theorem Over.total {a b c : LayerId} (hb : s.Over a b) (hc : s.Over a c) :
    s.Over b c ∨ s.Over c b :=
  Relation.ReflTransGen.total_of_right_unique
    (fun _ _ _ h h' => Holds.unique h h') hb hc

-- ====================================================== looking down

/-- The driver's statement under a layer, looked for down to a depth. -/
def underWithin (s : State) : Nat → LayerId → Option Native.StatementId
  | 0, id => (s.core id).handle?
  | depth + 1, id =>
    match (s.core id).delegate? with
    | some d => s.underWithin depth d
    | none => (s.core id).handle?

/-- The driver's statement that a layer stands on, if it is open. -/
def statementUnder? (s : State) (id : LayerId) :
    Option Native.StatementId :=
  s.underWithin (s.core id).level id

/-- Whether the delegates of a state are below their facades. -/
def Leveled (s : State) : Prop :=
  ∀ {a d}, s.Holds a d → (s.core d).level < (s.core a).level

/-- Looking deep enough finds the statement that a layer stands on. -/
theorem underWithin_eq_some (hl : s.Leveled) {n : Native.StatementId}
    {depth : Nat} {id : LayerId} (hd : (s.core id).level ≤ depth) :
    s.underWithin depth id = some n ↔ s.Stands id n := by
  induction depth generalizing id with
  | zero =>
      rw [underWithin]
      refine ⟨fun h => .native (Core.eq_native_of_handle? h), fun h => ?_⟩
      cases h with
      | native hn => rw [hn]; rfl
      | facade hh _ =>
          have := hl hh
          omega
  | succ depth ih =>
      rw [underWithin]
      cases hc : (s.core id).delegate? with
      | none =>
          refine ⟨fun h => .native (Core.eq_native_of_handle? h), fun h => ?_⟩
          cases h with
          | native hn => rw [hn]; rfl
          | facade hh _ => rw [Holds, hc] at hh; cases hh
      | some d =>
          have hlt := hl hc
          refine (ih (by omega)).trans ⟨fun h => .facade hc h, fun h => ?_⟩
          exact h.of_holds hc

/-- Looking down finds what the layer stands on. -/
theorem statementUnder?_eq_some (hl : s.Leveled) {id : LayerId}
    {n : Native.StatementId} :
    s.statementUnder? id = some n ↔ s.Stands id n :=
  underWithin_eq_some hl (Nat.le_refl _)

/-- Whether exactly the facades without a delegate are marked closed. -/
def Hollow (s : State) : Prop :=
  ∀ {a f}, s.core a = .facade f → f.closed = f.delegate.isNone

/-- A layer is closed if looking down from it finds no statement. -/
theorem closedWithin_eq (hs : s.Hollow) (depth : Nat) (id : LayerId) :
    s.closedWithin depth id = (s.underWithin depth id).isNone := by
  induction depth generalizing id with
  | zero =>
      rw [closedWithin, underWithin]
      cases hc : s.core id with
      | native h => rfl
      | released => rfl
      | facade f =>
          cases hd : f.delegate <;> simp [Core.isClosed, hd]
  | succ depth ih =>
      rw [closedWithin, underWithin]
      cases hc : s.core id with
      | native h => rfl
      | released => rfl
      | facade f =>
          have hf := hs hc
          cases hd : f.delegate with
          | none => simp [Core.isClosed, hd]
          | some d =>
              rw [hd] at hf
              simp [Core.isClosed, hd, hf, ih d]

/-- A layer is closed just when it stands on no statement. -/
theorem isClosed_eq (hs : s.Hollow) (id : LayerId) :
    s.isClosed id = (s.statementUnder? id).isNone :=
  closedWithin_eq hs _ id

/-- A layer is open if and only if it stands on a statement. -/
theorem isClosed_eq_false_iff (hl : s.Leveled) (hs : s.Hollow)
    {id : LayerId} : s.isClosed id = false ↔ ∃ n, s.Stands id n := by
  rw [isClosed_eq hs]
  cases h : s.statementUnder? id with
  | some n =>
      exact ⟨fun _ => ⟨n, (statementUnder?_eq_some hl).1 h⟩, fun _ => rfl⟩
  | none =>
      refine ⟨fun h => (by cases h), fun ⟨n, hn⟩ => ?_⟩
      rw [(statementUnder?_eq_some hl).2 hn] at h
      cases h

end State

end PooledChain
