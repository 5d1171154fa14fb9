/-
A closed connection refuses everything.

A connection is closed while nothing is on loan to it, and also while
what is on loan has been discarded (`State.isClosedConnection_iff`). Most
operations find that out at the terminal. A statement from a cache would
never get there, so a cache asks the links below it first, before it
looks at its shelf; hence the induction on the links of a chain
(`refuses_askLinks`) carries the answer to that question along with the
refusals.

What is refused leaves everything as it was, and a settled session has
nothing to release, so neither does the step
(`closed_connection_refuses`).
-/
import PooledChain.Proofs.Heap.Asking
import PooledChain.Proofs.Heap.Loans
import PooledChain.Proofs.Heap.Use

namespace PooledChain

/-- Whether a link is of one of the library's own kinds. The others
observe a chain or stand in for one. -/
def Link.isOwn : Link → Bool
  | decorator => true
  | cache _ => true
  | leakTracker => true
  | recorder _ => true
  | counter => true
  | _ => false

variable {s : State} {c : ConnectionId}

/-- A connection is closed if nothing is on loan to it, or if what is on
loan was discarded. -/
theorem State.isClosedConnection_iff :
    s.isClosedConnection c = true ↔ s.loan? c = none
      ∨ ∃ a, s.loan? c = some a ∧ s.isDiscarded a.physical = true := by
  cases hx : s.connection? c with
  | none =>
      rw [isClosedConnection, loan?, hx]
      exact ⟨fun _ => .inl rfl, fun _ => rfl⟩
  | some x =>
      rw [loan?_of_connection? hx, isClosedConnection, hx]
      obtain ⟨links, attachment, closed⟩ := x
      cases closed with
      | true => exact ⟨fun _ => .inl rfl, fun _ => rfl⟩
      | false =>
          cases attachment with
          | none => exact ⟨fun _ => .inl rfl, fun _ => rfl⟩
          | some a =>
              refine ⟨fun h => .inr ⟨a, rfl, h⟩, fun h => ?_⟩
              rcases h with h | ⟨b, h, hb⟩
              · cases h
              · cases h
                exact hb

namespace Act

variable {next : Next} {self : LinkId}

/-- How the links of a closed connection answer: what is not closing is
refused, or answered with the fact that it is closed, and leaves
everything as it was. -/
structure Refuses (next : Next) (s : State) : Prop where
  isClosed : (next .isClosed).run s = (.ok (.bool true), s)
  refused : ∀ {op}, op ≠ .close → op ≠ .isClosed →
    (next op).run s = (.error (.closed .connection), s)

/-- The terminal refuses once its connection is closed. -/
theorem refuses_askTerminal (h : s.isClosedConnection c = true) :
    Refuses (askTerminal c) s where
  isClosed := by
    show (Except.ok (ConnectionReply.bool (s.isClosedConnection c)), s) = _
    rw [h]
  refused hc hi := by rw [run_askTerminal hc hi, if_pos h]

/-- A link that passes operations on refuses what the links below refuse. -/
theorem refuses_intercept (link : Link) (h : Refuses next s) :
    Refuses (intercept link self next) s where
  isClosed := h.isClosed
  refused {op} hc hi := by
    have hrefused := h.refused hc hi
    rcases intercept_cases link self next hc with ⟨kind, hk, hlink⟩ | hsame
    · -- nothing comes up that could be decorated
      rw [intercept_of_decorates hk hlink]
      exact run_bind_error _ hrefused
    · rw [hsame]
      exact hrefused

/-- A cache hands nothing out on a closed connection. -/
theorem run_reuse?_of_refuses (h : Refuses next s) (kind : StatementKind)
    (sql : String) :
    (reuse? self next kind sql).run s = (.ok none, s)
      ∨ (reuse? self next kind sql).run s
        = (.error (.closed .connection), s) := by
  unfold reuse?
  rw [run_bind, run_get]
  simp only
  split
  · exact .inl rfl
  · rw [run_bind_ok _ h.isClosed]
    exact .inr rfl

/-- A cache refuses what the links below it refuse. -/
theorem refuses_throughCache (config : CacheConfig) (h : Refuses next s) :
    Refuses (throughCache config self next) s where
  isClosed := h.isClosed
  refused {op} hc hi := by
    have hrest : Refuses (intercept (.cache config) self next) s :=
      refuses_intercept _ h
    have hpass := hrest.refused hc hi
    unfold throughCache
    split
    · next kind sql _ _ =>
      split
      · have hreuse : (reuse? self next kind sql).run s = (.ok none, s)
            ∨ (reuse? self next kind sql).run s
              = (.error (.closed .connection), s) :=
          run_reuse?_of_refuses h kind sql
        rcases hreuse with hr | hr
        · rw [run_bind_ok _ hr]
          exact hpass
        · exact run_bind_error _ hr
      · exact hpass
    · exact hpass

/-- Chains of the library's own links refuse what a closed terminal
refuses. -/
theorem refuses_askLinks {links : List Link}
    (hown : ∀ link ∈ links, link.isOwn = true)
    (h : s.isClosedConnection c = true) :
    Refuses (askLinks c links) s := by
  induction links with
  | nil => exact refuses_askTerminal h
  | cons link rest ih =>
      have hrest := ih fun l hl => hown l (List.mem_cons_of_mem _ hl)
      have hlink := hown link List.mem_cons_self
      cases link with
      | cache config => exact refuses_throughCache config hrest
      | decorator | leakTracker | recorder | counter =>
          exact refuses_intercept _ hrest
      | probe | bare | answering | prepending | watcher => cases hlink

end Act

namespace Session

variable {t : Session} {pool physical name : String} {q : PoolId}
  {y : PhysicalId} {x : Connection} {op : ConnectionOp}
  {step : ConnectionStep}

/-- A step that changes nothing leaves nothing to release. -/
theorem step_of_act (h : t.Sound) {step : Step} {reply : Reply}
    (hact : t.quiet.act step = (reply, t.quiet)) :
    t.step step = (reply, t.quiet) := by
  have hsettle : t.quiet.settle = t.quiet := by
    have hrelease : t.quiet.state.release t.held = t.quiet.state :=
      State.release_of_tidy h.tidy (sound_quiet h.scene).formed
    show { t.quiet with state := t.quiet.state.release t.held } = _
    rw [hrelease]
  show ((t.quiet.act step).1, (t.quiet.act step).2.settle) = _
  rw [hact]
  exact Prod.ext rfl hsettle

/-- A closed connection refuses everything and changes nothing.

In every session that ordinary steps reach, take a connection whose links
are the library's own, with nothing on loan to it (it was never checked
out, or has been closed, checked in or disconnected since), or with
something on loan that has been discarded. It says that it is closed. A
step that asks it for anything else but closing, be it for a statement
that one of its caches holds, fails with the error for a closed
connection. Either way the session is as it was before, all of its state
included; only the notes of the last step are gone. -/
theorem closed_connection_refuses {links : List Link}
    {guarded checkedOut : Bool} {steps : List Step}
    (hord : ∀ step ∈ steps, step.isOrdinary = true)
    {pool physical name : String} {q : PoolId} {y : PhysicalId}
    {c : ConnectionId} {x : Connection} :
    let s := (start links guarded checkedOut).run steps
    s.target? pool physical name = some (q, y, c, x) →
    (∀ link ∈ x.links, link.isOwn = true) →
    (s.state.loan? c = none
      ∨ ∃ a, s.state.loan? c = some a
        ∧ s.state.isDiscarded a.physical = true) →
    s.step (.onConnection pool physical name (.call .isClosed))
        = (.bool true, s.quiet)
      ∧ (∀ handle, s.step (.onConnection pool physical name
          (.invoke .isClosed handle)) = (.bool true, s.quiet))
      ∧ ∀ step op, step.asked? = some op → op ≠ .close → op ≠ .isClosed →
        s.step (.onConnection pool physical name step)
          = (.failed (.closed .connection), s.quiet) := by
  intro s htarget hown hclosed
  have hs : s.Sound := (sound_start links guarded checkedOut).run hord
  obtain ⟨-, hx⟩ := lookup_of_target? htarget
  have htarget : s.quiet.target? pool physical name = some (q, y, c, x) :=
    htarget
  have hclosed : s.quiet.state.isClosedConnection c = true :=
    State.isClosedConnection_iff.2 hclosed
  have hrefuses : Act.Refuses (Act.invokeOp c) s.quiet.state := by
    have hlinks := Act.refuses_askLinks hown hclosed
    have hrun := run_invokeOp (t := s.quiet.state) hx
    exact ⟨(hrun _).trans hlinks.isClosed,
      fun hc hi => (hrun _).trans (hlinks.refused hc hi)⟩
  refine ⟨step_of_act hs ?_, fun handle => step_of_act hs ?_,
    fun step op hop hc hi => step_of_act hs ?_⟩
  · rw [act_of_target? htarget]
    show s.quiet.answer (Act.boolOf c .isClosed) .bool = _
    rw [answer, perform, Act.boolOf,
      Act.run_read c _ (ConnectionReply.toBool _), hrefuses.isClosed]
    rfl
  · rw [act_of_target? htarget, onConnection, perform, hrefuses.isClosed]
    rfl
  · have hrefused := hrefuses.refused hc hi
    have hasks : Asks c op s.quiet (s.quiet.onConnection q y c x step) :=
      asks_onConnection hop
    rw [act_of_target? htarget,
      hasks.failed (congrArg Prod.fst hrefused), hrefused]

/-- A statement that a cache holds is not to be had once the physical
connection was discarded behind the connection's back. -/
theorem parked_statement_is_refused :
    let steps := [
      Step.onConnection "p0" "x0" "c0" (.create (.prepareStatement "q") "a"),
      .onStatement "a" (.call .close), .onPool "p0" "x0" .discard]
    let s := (start [.decorator, .cache .standard] false true).run steps
    let ask := Step.onConnection "p0" "x0" "c0"
      (.create (.prepareStatement "q") "b")
    (∀ step ∈ steps, step.isOrdinary = true)
      ∧ s.target? "p0" "x0" "c0" = some (0, 0, 0,
          ⟨[.decorator, .cache .standard], ⟨some ⟨some 0, 0⟩, false⟩⟩)
      ∧ s.state.loan? 0 = some ⟨some 0, 0⟩ ∧ s.state.isDiscarded 0 = true
      ∧ s.state.cacheView ⟨0, 0⟩ = (1, ["q"])
      ∧ s.step ask = (.failed (.closed .connection), s.quiet) := by
  intro steps s ask
  have hord : ∀ step ∈ steps, step.isOrdinary = true := by decide
  have htarget : s.target? "p0" "x0" "c0" = some (0, 0, 0,
      ⟨[.decorator, .cache .standard], ⟨some ⟨some 0, 0⟩, false⟩⟩) := by
    decide +kernel
  have hloan : s.state.loan? 0 = some ⟨some 0, 0⟩ := by decide +kernel
  have hgone : s.state.isDiscarded 0 = true := by decide +kernel
  obtain ⟨-, -, hrefused⟩ := closed_connection_refuses hord htarget
    (by decide) (.inr ⟨_, hloan, hgone⟩)
  exact ⟨hord, htarget, hloan, hgone, by decide +kernel,
    hrefused _ _ rfl (by decide) (by decide)⟩

end Session

end PooledChain
