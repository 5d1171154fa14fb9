/-
How far the steps of a session get.

A step that leaves it at the connections that there are is a sequence of
changes (`Session.changes_step`). In it only the trackers of a connection
that is asked for a statement list anything, and only those of a
connection for which the step is a turn of its loan forget anything
(`Session.reach`), unless one link of a chain is told alone what all of
its links should hear (`Step.tellsAll`).

What holds of every session, whatever its links, is gathered at the end
(`Session.Orderly`).
-/
import PooledChain.Proofs.Heap.Kin
import PooledChain.Proofs.Heap.Names
import PooledChain.Proofs.Heap.Roster
import PooledChain.Proofs.Ledger
import PooledChain.Proofs.Returns

namespace PooledChain

open State (TrackedBy)

-- ======================================================= clearing up

namespace State

variable {p : Reach} {s : State}

/-- Releasing a layer changes it, and closes its statement if it is a
handle. -/
theorem changes_releaseLayer (s : State) (id : LayerId) :
    s.Changes p (s.releaseLayer id) := by
  unfold releaseLayer
  split
  · exact (Changes.of_change (.driver _)).trans (.of_change (.release id))
  · exact .of_change (.release id)

theorem changes_releaseBelow (n : Nat) (live : List LayerId) (s : State) :
    s.Changes p (releaseBelow n live s) := by
  induction n generalizing live s with
  | zero => exact .refl s
  | succ id ih =>
      rw [releaseBelow_succ]
      split
      · exact ih _ _
      · exact (changes_releaseLayer s id).trans (ih _ _)

theorem changes_release (s : State) (held : List LayerId) :
    s.Changes p (s.release held) := changes_releaseBelow _ _ _

end State

-- ============================================================ steps

/-- Whether a step, if it attaches a chain, lets all of its links hear
of it. -/
def Step.tellsAll : Step → Bool
  | onConnection _ _ _ (.attachLink _ _ _) => false
  | _ => true

namespace Session

variable {s : Session} {step : Step} {c : ConnectionId}

/-- How far a step gets. -/
def reach (s : Session) (step : Step) : Reach where
  ends := True
  lists k := s.Creates step k.connection
  clears k := (s.turn? k.connection step).isSome = true

/-- What the turn of a step on a connection is. -/
theorem turn?_of_target? {pool physical name : String} {q : PoolId}
    {y : PhysicalId} {x : Connection}
    (h : s.target? pool physical name = some (q, y, c, x))
    (cstep : ConnectionStep) :
    s.turn? c (.onConnection pool physical name cstep) = cstep.turn? q y := by
  rw [turn?, h]
  exact if_pos rfl

/-- A step on a statement gets to no end of a chain. -/
theorem changes_onStatement {p : Reach} {id : LayerId} {use : StatementStep}
    (hord : use.isOrdinary = true) :
    s.state.Changes p (s.onStatement id use).2.state := by
  cases use with
  | call op =>
      rw [onStatement, state_answer]
      exact Act.changes_dispatch id op _
  | dispatch op =>
      rw [onStatement, state_answer]
      exact Act.changes_dispatch id op _
  | info =>
      rw [onStatement]
      split <;> exact .refl _
  | wrap | retire | forward => cases hord

/-- A step on a pool gets to the ends of the chains. -/
theorem changes_onPool {p : Reach} (hends : p.ends) (pool : PoolId)
    (y : PhysicalId) (step : PoolStep) :
    s.state.Changes p (s.onPool pool y step).2.state := by
  cases step with
  | close names =>
      rw [onPool, state_answer]
      exact Act.changes_closePool pool hends _ _
  | discard =>
      rw [onPool, state_answer]
      exact Act.changes_discardPhysical y hends _
  | info =>
      rw [onPool]
      split
      · exact .refl _
      · exact .of_change (.driver _)

/-- A step on a connection gets as far as it should. -/
theorem changes_onConnection {pool physical name : String} {q : PoolId}
    {y : PhysicalId} {x : Connection} {cstep : ConnectionStep}
    (htarget : s.target? pool physical name = some (q, y, c, x))
    (htells : (Step.onConnection pool physical name cstep).tellsAll = true) :
    s.state.Changes (s.reach (.onConnection pool physical name cstep))
      (s.onConnection q y c x cstep).2.state := by
  have hturn := turn?_of_target? htarget cstep
  obtain ⟨hname, hx⟩ := lookup_of_target? htarget
  have hclears : (cstep.turn? q y).isSome = true → ∀ place,
      (s.reach (.onConnection pool physical name cstep)).clears ⟨c, place⟩ := by
    intro hsome _
    show (s.turn? c (.onConnection pool physical name cstep)).isSome = true
    rw [hturn]
    exact hsome
  cases hasked : cstep.asked? with
  | some op =>
      rw [(asks_onConnection (q := q) (y := y) (x := x) hasked).state]
      refine Act.changes_invokeOp c ⟨fun hk place => ?_, fun hop => ?_,
        fun _ => trivial⟩ _
      · refine ⟨?_, hname, by rw [hx]; rfl⟩
        rw [hasked]
        exact hk
      · subst hop
        refine hclears ?_
        cases cstep with
        | call | create | invoke | reshape =>
            simp only [ConnectionStep.turn?]
            rw [if_pos hasked]
            rfl
        | nativeNumber => cases hasked
        | _ => cases hasked
  | none =>
      cases cstep with
      | checkOut =>
          rw [onConnection, state_answer]
          exact Act.changes_checkOut c q y (hclears rfl) trivial _
      | checkIn =>
          rw [onConnection, state_answer]
          exact Act.changes_tell c _ (fun _ => hclears rfl) (fun _ => trivial) _
      | disconnect =>
          rw [onConnection, state_answer]
          exact Act.changes_tell c _ (fun _ => hclears rfl) (fun _ => trivial) _
      | discard =>
          rw [onConnection, state_answer]
          exact Act.changes_discardConnection c q y (hclears rfl) trivial _
      | poolStarted | poolClosed =>
          rw [onConnection, state_answer]
          exact Act.changes_tell c _ (fun hno => by cases hno)
            (fun hno => by cases hno) _
      | attachLink => cases htells
      | forceClose sql =>
          rw [onConnection]
          split
          · exact .refl _
          · rw [state_answer]
            exact Act.changes_forceClose _ sql _
      | describe => exact .refl _
      | call | create | nativeNumber | invoke | reshape => cases hasked

/-- A step, up to the clearing up, if it leaves it at the connections that
there are. -/
theorem changes_act (hord : step.isOrdinary = true)
    (htells : step.tellsAll = true) (hkeeps : step.keepsConnections = true) :
    s.state.Changes (s.reach step) (s.act step).2.state := by
  cases step with
  | instruct | addRule | clearRules => exact .of_change (.driver _)
  | preparedSql | dropStatement | tablePools => exact .refl _
  | newPool name =>
      exact .of_change (.record _ s.state.recorders s.state.counters
        s.state.watched s.state.journal s.state.warnings (.inr trivial))
  | newPhysical name =>
      exact (State.Changes.of_change (.driver _)).trans (.of_change
        (.ends s.state.connections _ s.state.returns trivial))
  | newConnection | dropConnection => cases hkeeps
  | sameStatement a b =>
      rw [act]
      split <;> exact .refl _
  | nameStatement statement name =>
      rw [act]
      split <;> exact .refl _
  | onStatement name use =>
      rw [act]
      split
      · exact changes_onStatement hord
      · exact .refl _
  | onPool pool physical pstep =>
      rw [act]
      split
      · exact .refl _
      · exact .refl _
      · exact changes_onPool trivial _ _ _
  | onConnection pool physical name cstep =>
      cases htarget : s.target? pool physical name with
      | none =>
          obtain ⟨what, hact⟩ := act_of_target?_none htarget cstep
          rw [hact]
          exact .refl _
      | some found =>
          obtain ⟨q, y, d, x⟩ := found
          rw [act_of_target? htarget]
          exact changes_onConnection htarget htells

theorem changes_quiet {p : Reach} (s : Session) :
    s.state.Changes p s.quiet.state :=
  .of_change (.record s.state.statistics s.state.recorders s.state.counters
    s.state.watched [] [] (.inl rfl))

/-- A step that leaves it at the connections that there are. -/
theorem changes_step (hord : step.isOrdinary = true)
    (htells : step.tellsAll = true) (hkeeps : step.keepsConnections = true) :
    s.state.Changes (s.reach step) (s.step step).2.state :=
  ((changes_quiet s).trans
    (changes_act (s := s.quiet) hord htells hkeeps)).trans
    (State.changes_release _ _)

-- ================================================= what always holds

/-- A step that makes or drops a connection, up to the clearing up, leaves
the layers as they are. -/
theorem layers_act (hkeeps : step.keepsConnections = false) :
    (s.act step).2.state.layers = s.state.layers := by
  have hdrop : ∀ (t : Session) (name : String),
      (t.dropConnection name).state.layers = t.state.layers := by
    intro t name
    rw [dropConnection]
    split <;> rfl
  cases step with
  | newConnection name spec =>
      rw [act]
      split
      · rfl
      · exact (hdrop _ name).trans (layers_installLinks _ _ _)
  | dropConnection name => exact hdrop s name
  | _ => cases hkeeps

/-- What holds of a session between two steps, whatever its links. -/
structure Orderly (s : Session) : Prop where
  sound : s.Sound
  homed : s.state.Homed
  kindred : s.state.Kindred
  filed : s.state.Filed fun _ _ => True
  installed : s.state.Installed
  named : s.Named
  /-- A tracker whose facades there are is one of a connection that was
  made. -/
  tracked : ∀ {a k n}, TrackedBy k n (s.state.core a) →
    k.connection < s.state.connections.length

/-- No step takes the number of a connection away. -/
theorem connections_le_step (h : s.Sound) (hord : step.isOrdinary = true) :
    s.state.connections.length ≤ (s.step step).2.state.connections.length :=
  (moves_step hord h.scene (suits_free s step _)).1.connections_le

/-- An ordinary step keeps a session in order if all links of a chain hear
of what they should. -/
theorem orderly_step (h : s.Orderly) (hord : step.isOrdinary = true)
    (htells : step.tellsAll = true) : (s.step step).2.Orderly where
  sound := h.sound.step hord
  homed := homed_step h.sound hord h.homed
  kindred := kindred_step h.sound hord h.homed h.kindred
  filed := filed_step h.sound hord h.filed fun _ _ => trivial
  installed := installed_step h.installed h.sound.scene hord
  named := named_step h.named h.sound hord
  tracked {a k n} ht := by
    refine Nat.lt_of_lt_of_le ?_ (connections_le_step h.sound hord)
    revert a
    cases hkeeps : step.keepsConnections with
    | true =>
        refine (changes_step hord htells hkeeps).preserves
          (I := fun t => ∀ {a}, TrackedBy k n (t.core a) →
            k.connection < s.state.connections.length)
          (fun {_ _} hc hI {a} ht => ?_) fun {a} => h.tracked
        exact (hc.tracked_before ht).elim hI lt_of_creates
    | false =>
        refine (State.changes_release (p := ⟨False, fun _ => False,
          fun _ => False⟩) (s.quiet.act step).2.state _).preserves
          (I := fun t => ∀ {a}, TrackedBy k n (t.core a) →
            k.connection < s.state.connections.length)
          (fun {_ _} hc hI {a} ht => ?_) fun {a} ht => ?_
        · exact (hc.tracked_before ht).elim hI False.elim
        · rw [State.core_congr (layers_act hkeeps)] at ht
          exact h.tracked ht

/-- A session is in order at the start. -/
theorem orderly_start (links : List Link) (guarded checkedOut : Bool) :
    (start links guarded checkedOut).Orderly where
  sound := sound_start links guarded checkedOut
  homed := homed_start links guarded checkedOut
  kindred := kindred_start links guarded checkedOut
  filed := filed_start links guarded checkedOut
  installed := @installed_run _ _ _ [] nofun
  named := named_start links guarded checkedOut
  tracked {a k n} ht := by
    obtain ⟨f, hf, -⟩ := ht
    have hnone : (start links guarded checkedOut).state.layers = [] :=
      (moves_start (p := .free guarded) rfl trivial trivial checkedOut).2
    rw [State.core_of_le (by rw [hnone]; exact Nat.zero_le _)] at hf
    cases hf

end Session

end PooledChain
