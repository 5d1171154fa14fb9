/-
Running acts: what each building block of an act answers, and which
state it leaves behind.

An act is a program over the state that can fail and keeps what it
changed before it failed. Every later proof about an act goes through
the equations here: a sequence runs its second part from the state the
first part left, unless that failed (`run_bind`), and a call on the
driver's side changes the driver's store alone (`run_native`).

The same equations are stated for the driver's own calls, which are
acts over the driver's store.
-/
import PooledChain.Session.View

namespace PooledChain

namespace Act

variable {α β : Type}

/-- A sequence: what the first part changed stays changed even if it
failed. -/
theorem run_bind (x : Act α) (f : α → Act β) (s : State) :
    (x >>= f).run s
      = match x.run s with
        | (.ok a, t) => (f a).run t
        | (.error e, t) => (.error e, t) := by
  show (ExceptT.bindCont f (x.run s).1) (x.run s).2 = _
  rcases x.run s with ⟨_ | _, t⟩ <;> rfl

/-- A sequence whose first part answers. -/
theorem run_bind_ok {x : Act α} {s t : State} {a : α} (f : α → Act β)
    (h : x.run s = (.ok a, t)) : (x >>= f).run s = (f a).run t := by
  rw [run_bind, h]

/-- A sequence whose first part fails. -/
theorem run_bind_error {x : Act α} {s t : State} {e : Error}
    (f : α → Act β) (h : x.run s = (.error e, t)) :
    (x >>= f).run s = (.error e, t) := by
  rw [run_bind, h]

/-- An answer alone leaves the state as it is. -/
@[simp] theorem run_pure (a : α) (s : State) :
    (pure a : Act α).run s = (.ok a, s) := rfl

/-- A failure alone leaves the state as it is. -/
@[simp] theorem run_throw (e : Error) (s : State) :
    (throw e : Act α).run s = (.error e, s) := rfl

/-- Looking at the state answers with it. -/
@[simp] theorem run_get (s : State) :
    (get : Act State).run s = (.ok s, s) := rfl

/-- Writing the state answers nothing. -/
@[simp] theorem run_set (s t : State) :
    (set t : Act PUnit).run s = (.ok ⟨⟩, t) := rfl

/-- A change of the state answers nothing. -/
@[simp] theorem run_modify (f : State → State) (s : State) :
    (modify f : Act PUnit).run s = (.ok ⟨⟩, f s) := rfl

/-- A change may come with an answer. -/
@[simp] theorem run_modifyGet (f : State → α × State) (s : State) :
    (modifyGet f : Act α).run s = (.ok (f s).1, (f s).2) := rfl

/-- The result of a calculation is an answer or a failure alone. -/
@[simp] theorem run_lift (r : Except Error α) (s : State) :
    (liftM r : Act α).run s = (r, s) := rfl

/-- An attempt always answers, with how the act ended, and keeps what the
act has done. -/
@[simp] theorem run_attempt (x : Act α) (s : State) :
    (attempt x).run s = (.ok (x.run s).1, (x.run s).2) := rfl

/-- A call of the driver changes the driver's side only. Its failures come
up without the invocations around them. -/
@[simp] theorem run_native (x : Native.Act α) (s : State) :
    (native x).run s
      = ((x.run s.native).1.mapError fun e => .driver e.unwrapped,
         { s with native := (x.run s.native).2 }) := rfl

end Act

namespace Native.Act

variable {α β : Type}

/-- One call of the driver after another: the first one that fails is the
last. -/
theorem run_bind (x : Act α) (f : α → Act β) (s : Store) :
    (x >>= f).run s
      = match x.run s with
        | (.ok a, t) => (f a).run t
        | (.error e, t) => (.error e, t) := by
  show (ExceptT.bindCont f (x.run s).1) (x.run s).2 = _
  rcases x.run s with ⟨_ | _, t⟩ <;> rfl

/-- An answer alone leaves the store as it is. -/
@[simp] theorem run_pure (a : α) (s : Store) :
    (pure a : Act α).run s = (.ok a, s) := rfl

/-- A failure alone leaves the store as it is. -/
@[simp] theorem run_throw (e : DriverError) (s : Store) :
    (throw e : Act α).run s = (.error e, s) := rfl

/-- Looking at the store answers with it. -/
@[simp] theorem run_get (s : Store) :
    (get : Act Store).run s = (.ok s, s) := rfl

/-- Writing the store answers nothing. -/
@[simp] theorem run_set (s t : Store) :
    (set t : Act PUnit).run s = (.ok ⟨⟩, t) := rfl

/-- A change of the store answers nothing. -/
@[simp] theorem run_modify (f : Store → Store) (s : Store) :
    (modify f : Act PUnit).run s = (.ok ⟨⟩, f s) := rfl

/-- A change of the store may come with an answer. -/
@[simp] theorem run_modifyGet (f : Store → α × Store) (s : Store) :
    (modifyGet f : Act α).run s = (.ok (f s).1, (f s).2) := rfl

end Native.Act

end PooledChain
