/-
Giving back what is on loan.

A physical connection that is checked out goes back to its pool once,
when the connection is closed, and not at all if the connection is
checked in or told that its physical connection is gone before that
(`returned_once_per_checkout`). The law of one step is `fares_act`: what
is on loan to a connection, and what goes back to a pool, is settled by
the turn that the step is for the loan (`Session.turn?`), whatever the
links of the chain, as long as none answers in the place of the
terminal. The law of a run follows by induction on its steps
(`returnedBy_eq`), since the loan at its start and the turns taken are
all that matters.

For pools this is all there is: whatever a step is on, nothing goes back
in it unless it closes some connection, and then no more than what that
connection has on loan (`returns_step`).
-/
import PooledChain.Proofs.Heap.Asking
import PooledChain.Proofs.Heap.Installed
import PooledChain.Proofs.Heap.Loans

namespace PooledChain

-- ============================================================== turns

/-- The turn that a step on a connection is for what is on loan to it. -/
def ConnectionStep.turn? (pool : PoolId) (x : PhysicalId) :
    ConnectionStep → Option Turn
  | checkOut => some (.lent (some ⟨some pool, x⟩))
  | checkIn => some .ended
  | disconnect _ _ => some .ended
  | discard => some .ended
  | attachLink (some .terminal) withPool withPhysical =>
    some (.lent ((Session.onlyIf withPhysical x).map fun x =>
      ⟨Session.onlyIf withPool pool, x⟩))
  | step => if step.asked? = some .close then some .closed else none

namespace Session

/-- The turn that a step is for what is on loan to a connection. -/
def turn? (s : Session) (c : ConnectionId) : Step → Option Turn
  | .dropConnection name =>
    if s.connections.lookup name = some c then some .ended else none
  | .newConnection name spec =>
    if spec.links.isOk ∧ s.connections.lookup name = some c then some .ended
    else none
  | .onConnection pool physical name step =>
    match s.target? pool physical name with
    | some (q, y, d, _) => if d = c then step.turn? q y else none
    | none => none
  | _ => none

/-- The turns of a run. -/
def turns (c : ConnectionId) : Session → List Step → List Turn
  | _, [] => []
  | s, step :: rest => (s.turn? c step).toList ++ turns c (s.step step).2 rest

/-- Whether a step is on that connection. -/
def isOn (s : Session) (c : ConnectionId) : Step → Bool
  | .onConnection _ _ name _ => s.connections.lookup name == some c
  | _ => false

/-- Whether a step is on another connection than that one. -/
def isOnOther (s : Session) (c : ConnectionId) : Step → Bool
  | .onConnection _ _ name _ => (s.connections.lookup name).any (· != c)
  | _ => false

/-- What goes back to pools in a step, for all that a connection has to
do with it: whatever the step is, unless it is on another connection. -/
def returned (s : Session) (c : ConnectionId) (step : Step) :
    List (PoolId × PhysicalId) :=
  if s.isOnOther c step then []
  else (s.step step).2.state.returns.drop s.state.returns.length

/-- What goes back to pools in a run, but for its steps on other
connections. -/
def returnedBy (c : ConnectionId) :
    Session → List Step → List (PoolId × PhysicalId)
  | _, [] => []
  | s, step :: rest => s.returned c step ++ returnedBy c (s.step step).2 rest

end Session

/-- Whether closing a connection, and the question whether it is closed,
get through its chain to the terminal. -/
structure State.Passable (s : State) (c : ConnectionId) : Prop where
  known : c < s.connections.length
  passes : ∀ {x}, s.connection? c = some x → ∀ link ∈ x.links,
    link.passes .close = true ∧ link.passes .isClosed = true

namespace Session

variable {s : Session} {c d : ConnectionId} {step : Step}

-- ========================================================= the law of a step

/-- How a connection fares in a step: it takes its turn; or it is left as
it is, or dropped, and then nothing goes back to a pool, unless the step
is on another connection. -/
inductive Fares (s : Session) (c : ConnectionId) (step : Step)
    (t : State) : Prop
  /-- The connection takes its turn, if it has one. -/
  | turned : s.state.Turned c (s.turn? c step) t → Fares s c step t
  /-- The step has to do with others alone. -/
  | aside : s.turn? c step = none →
      (s.isOnOther c step = false → t.returns = s.state.returns) →
      t.connection? c = s.state.connection? c →
      s.state.connections.length ≤ t.connections.length → Fares s c step t
  /-- The connection loses its name and is gone. -/
  | dropped : s.turn? c step = some .ended →
      t.returns = s.state.returns → t.connection? c = none →
      s.state.connections.length ≤ t.connections.length → Fares s c step t

/-- A step on a connection is a turn for nobody but it. It is the turn
that the step should be unless a link answers in the place of the
terminal, and closes the connection only if it should. -/
theorem turned_onConnection {q : PoolId} {y : PhysicalId} {x : Connection}
    (hx : s.state.connection? d = some x) (step : ConnectionStep) :
    ∃ turn, s.state.Turned d turn (s.onConnection q y d x step).2.state
      ∧ ((∀ link ∈ x.links, link.passes .close = true) →
        turn = step.turn? q y)
      ∧ (turn = some .closed → step.turn? q y = some .closed) := by
  have hsome : (s.state.connection? d).isSome := by rw [hx]; rfl
  have hasked : ∀ op, step.asked? = some op →
      step.turn? q y = (if some op = some .close then some .closed else none) →
      ∃ turn, s.state.Turned d turn (s.onConnection q y d x step).2.state
        ∧ ((∀ link ∈ x.links, link.passes .close = true) →
          turn = step.turn? q y)
        ∧ (turn = some .closed → step.turn? q y = some .closed) := by
    intro op hop hturn
    have hasks : Asks d op s (s.onConnection q y d x step) :=
      asks_onConnection hop
    rw [hasks.state, hturn]
    by_cases hc : op = .close
    · subst hc
      rw [run_invokeOp hx]
      obtain ⟨turn, ht, hpass⟩ :=
        Act.turned_askLinks_close d x.links s.state
      exact ⟨turn, ht, fun hall => (hpass hall).1, fun _ => rfl⟩
    · rw [if_neg fun he => hc (Option.some.inj he)]
      exact ⟨none, .of_sameEnds d (Act.sameEnds_invokeOp d hc s.state),
        fun _ => rfl, id⟩
  cases step with
  | call op | create op | invoke op | reshape op => exact hasked op rfl rfl
  | nativeNumber => exact hasked _ rfl rfl
  | checkOut =>
      rw [onConnection, state_answer]
      exact ⟨_, Act.turned_checkOut d q y s.state hsome, fun _ => rfl, id⟩
  | checkIn =>
      rw [onConnection, state_answer]
      exact ⟨_, Act.turned_tell d .checkIn s.state hsome, fun _ => rfl, id⟩
  | disconnect withPool finalizing =>
      rw [onConnection, state_answer]
      exact ⟨_, Act.turned_tell d (.disconnect _ _ _) s.state hsome,
        fun _ => rfl, id⟩
  | discard =>
      rw [onConnection, state_answer]
      exact ⟨_, Act.turned_discardConnection d q y s.state hsome,
        fun _ => rfl, id⟩
  | poolStarted =>
      rw [onConnection, state_answer]
      exact ⟨_, Act.turned_tell d (.poolStarted q) s.state hsome,
        fun _ => rfl, id⟩
  | poolClosed =>
      rw [onConnection, state_answer]
      exact ⟨_, Act.turned_tell d (.poolClosed q) s.state hsome,
        fun _ => rfl, id⟩
  | attachLink choice withPool withPhysical =>
      cases choice with
      | none => exact ⟨none, .of_sameEnds d (.refl _), fun _ => rfl, id⟩
      | some choice =>
          have hhear : ∀ link place, ∃ turn, s.state.Turned d turn
              (s.answer (Act.hear link ⟨d, place⟩ (.attach
                (onlyIf withPool q) (onlyIf withPhysical y)))
                fun _ => .unit).2.state
              ∧ ((∀ link ∈ x.links, link.passes .close = true) →
                turn = none)
              ∧ (turn = some .closed → none = some Turn.closed) :=
            fun link place => by
              rw [state_answer]
              exact ⟨none, .of_sameEnds d (Act.sameEnds_hear ..),
                fun _ => rfl, id⟩
          rw [onConnection, attachLink.eq_def]
          cases choice with
          | terminal =>
              simp only
              rw [state_answer]
              exact ⟨_, Act.turned_hearTerminal d (.attach _ _) s.state,
                fun _ => rfl, id⟩
          | recorder | leakTracker | cache =>
              cases choose x.links _ with
              | none =>
                  exact ⟨none, .of_sameEnds d (.refl _), fun _ => rfl, id⟩
              | some found => exact hhear found.1 found.2
  | forceClose sql =>
      rw [onConnection]
      split
      · exact ⟨none, .of_sameEnds d (.refl _), fun _ => rfl, id⟩
      · rw [state_answer]
        exact ⟨none, .of_sameEnds d (Act.sameEnds (Act.changes_forceClose _ sql) s.state),
          fun _ => rfl, id⟩
  | describe => exact ⟨none, .of_sameEnds d (.refl _), fun _ => rfl, id⟩

/-- A step on a statement returns nothing and turns no connection. -/
theorem turned_onStatement (s : Session) (c : ConnectionId) (id : LayerId)
    (step : StatementStep) :
    s.state.Turned c none (s.onStatement id step).2.state := by
  have hsame : s.state.Turned c none s.state := .of_sameEnds c (.refl _)
  cases step with
  | call op | dispatch op =>
      rw [onStatement, state_answer]
      exact .of_sameEnds c (Act.sameEnds (Act.changes_dispatch id op) s.state)
  | info => rw [onStatement]; split <;> exact hsame
  | wrap name orphan =>
      rw [onStatement]
      split
      · exact hsame
      · exact .of_same c rfl rfl (.of_same rfl)
  | retire number name =>
      rw [onStatement]
      split
      · exact hsame
      · next facade _ =>
        rw [perform]
        have hretire := Act.sameEnds (Act.changes_retire facade) s.state
        rcases hr : (Act.retire facade).run s.state with ⟨e | d, t⟩
        · rw [hr] at hretire
          exact .of_sameEnds c hretire
        · rw [hr] at hretire
          simp only
          split <;> exact .of_sameEnds c hretire
  | forward number op =>
      rw [onStatement]
      split
      · exact hsame
      · next facade _ =>
        rw [state_answer]
        exact .of_sameEnds c (Act.sameEnds (Act.changes_forwardStatement facade op) s.state)

/-- A step on a pool returns nothing and turns no connection. -/
theorem turned_onPool (s : Session) (c : ConnectionId) (pool : PoolId)
    (x : PhysicalId) (step : PoolStep) :
    s.state.Turned c none (s.onPool pool x step).2.state := by
  cases step with
  | close names =>
      rw [onPool, state_answer]
      exact Act.turned_closePool c pool _ s.state
  | discard =>
      rw [onPool, state_answer]
      exact Act.turned_discardPhysical c x s.state
  | info =>
      rw [onPool]
      split
      · exact .of_sameEnds c (.refl _)
      · exact .of_same c rfl rfl (.of_same rfl)

/-- Every step that is on no connection, and neither makes one nor drops
one, returns nothing and turns no connection. -/
theorem turned_act_of_none (s : Session) (c : ConnectionId) {step : Step}
    (hnew : ∀ name spec, step ≠ .newConnection name spec)
    (hdrop : ∀ name, step ≠ .dropConnection name)
    (hon : ∀ pool physical name use,
      step ≠ .onConnection pool physical name use) :
    s.state.Turned c none (s.act step).2.state := by
  have hsame : s.state.Turned c none s.state := .of_sameEnds c (.refl _)
  cases step with
  | newConnection name spec => exact absurd rfl (hnew name spec)
  | dropConnection name => exact absurd rfl (hdrop name)
  | onConnection pool physical name use => exact absurd rfl (hon _ _ _ _)
  | onStatement name step =>
      rw [act]
      split
      · exact turned_onStatement s c _ step
      · exact hsame
  | onPool pool physical step =>
      rw [act]
      split
      · exact hsame
      · exact hsame
      · exact turned_onPool s c _ _ step
  | newPhysical name =>
      exact .of_same c rfl rfl (.newPhysical s.state s.guarded)
  | newPool | instruct | addRule | clearRules =>
      exact .of_same c rfl rfl (.of_same rfl)
  | preparedSql | dropStatement | tablePools => exact hsame
  | sameStatement a b | nameStatement a b =>
      rw [act]
      split <;> exact hsame

/-- No step takes a physical connection away. -/
theorem lasting_act (s : Session) (step : Step) :
    s.state.Lasting (s.act step).2.state := by
  have hsame : ∀ {t : State}, t.physicals = s.state.physicals →
      s.state.Lasting t := .of_same
  have hdrop : ∀ (t : Session) (name : String),
      (t.dropConnection name).state.physicals = t.state.physicals := by
    intro t name
    rw [dropConnection]
    split <;> rfl
  cases step with
  | newConnection name spec =>
      rw [act]
      split
      · exact .refl _
      · exact hsame ((hdrop _ name).trans (State.physicals_installLinks ..))
  | dropConnection name => exact hsame (hdrop s name)
  | onConnection pool physical name step =>
      cases htarget : s.target? pool physical name with
      | none =>
          obtain ⟨what, hact⟩ := act_of_target?_none htarget step
          rw [hact]
          exact .refl _
      | some found =>
          obtain ⟨q, y, d, x⟩ := found
          obtain ⟨turn, ht, -, -⟩ := turned_onConnection (q := q) (y := y)
            (lookup_of_target? htarget).2 step
          rw [act_of_target? htarget]
          exact ht.lasting
  | _ =>
      exact (turned_act_of_none s 0 (fun _ _ h => by cases h)
        (fun _ h => by cases h) fun _ _ _ _ h => by cases h).lasting

/-- A step takes no physical connection away, and leaves each on its
connection of the driver. -/
theorem lasting_step (s : Session) (step : Step) :
    s.state.Lasting (s.step step).2.state :=
  (lasting_act s.quiet step).trans
    (.of_same (State.physicals_release _ (s.quiet.act step).2.held))

/-- Dropping a name drops the connection that has it, and gives nothing
back. -/
theorem connection?_dropConnection (s : Session) (c : ConnectionId)
    (name : String) :
    (s.dropConnection name).state.connection? c
        = (if s.connections.lookup name = some c then none
          else s.state.connection? c)
      ∧ (s.dropConnection name).state.connections.length
        = s.state.connections.length
      ∧ (s.dropConnection name).state.returns = s.state.returns := by
  rw [dropConnection]
  cases hname : s.connections.lookup name with
  | none => exact ⟨by rw [if_neg fun he => by cases he], rfl, rfl⟩
  | some d =>
      refine ⟨?_, List.length_set, rfl⟩
      show ((s.state.connections.set d none)[c]?).join = _
      rw [List.getElem?_set]
      by_cases hd : d = c
      · subst hd
        rw [if_pos rfl, if_pos rfl]
        split <;> rfl
      · rw [if_neg hd, if_neg fun he => hd (Option.some.inj he)]
        rfl

/-- Making a connection changes no other one, and returns nothing. -/
theorem connection?_newConnection {t : State}
    (hc : c < t.connections.length) (links : List Link) :
    (t.newConnection links).2.connection? c = t.connection? c
      ∧ (t.newConnection links).2.connections.length
        = t.connections.length + 1
      ∧ (t.newConnection links).2.returns = t.returns := by
  have hconn : (t.newConnection links).2.connections
      = t.connections ++ [some ⟨links, {}⟩] :=
    State.connections_installLinks ..
  refine ⟨?_, ?_, State.returns_installLinks ..⟩
  · rw [State.connection?, hconn, List.getElem?_append_left hc]
    rfl
  · rw [hconn, List.length_append]
    rfl

theorem Fares.of_state {t : State} (hturn : s.turn? c step = none)
    (ht : t = s.state) : Fares s c step t := by
  refine .turned ?_
  rw [hturn, ht]
  exact .of_sameEnds c (.refl _)

/-- A name is dropped after something that has not touched the connection
and has given nothing back. -/
theorem fares_dropConnection {t : Session} {name : String}
    (hnames : t.connections = s.connections)
    (hconn : t.state.connection? c = s.state.connection? c)
    (hlen : s.state.connections.length ≤ t.state.connections.length)
    (hback : t.state.returns = s.state.returns)
    (hturn : s.turn? c step = (if s.connections.lookup name = some c
      then some .ended else none)) :
    Fares s c step (t.dropConnection name).state := by
  obtain ⟨hget, hlen', hback'⟩ := connection?_dropConnection t c name
  rw [hnames] at hget
  have hlen : s.state.connections.length
      ≤ (t.dropConnection name).state.connections.length := by
    rw [hlen']
    exact hlen
  by_cases hname : s.connections.lookup name = some c
  · rw [if_pos hname] at hget hturn
    exact .dropped hturn (hback'.trans hback) hget hlen
  · rw [if_neg hname] at hget hturn
    exact .aside hturn (fun _ => hback'.trans hback) (hget.trans hconn) hlen

/-- A connection is left as it is when another one is made. -/
theorem fares_newConnection (hp : s.state.Passable c) (name : String)
    (spec : ChainSpec) :
    Fares s c (.newConnection name spec)
      (s.act (.newConnection name spec)).2.state := by
  rw [act]
  cases hspec : spec.links with
  | error e =>
      refine .of_state ?_ rfl
      rw [turn?, hspec]
      exact if_neg fun h => by cases h.1
  | ok links =>
      obtain ⟨hget, hlen, hback⟩ := connection?_newConnection hp.known links
      refine fares_dropConnection (t := { s with
        state := (s.state.newConnection links).2 }) rfl hget ?_ hback ?_
      · rw [hlen]
        exact Nat.le_succ _
      · rw [turn?, hspec]
        simp only [Except.isOk, Except.toBool, true_and]

/-- A connection takes its turn in a step on it, and is left as it is in a
step on another one. -/
theorem fares_onConnection (hp : s.state.Passable c)
    (pool physical name : String) (step : ConnectionStep) :
    Fares s c (.onConnection pool physical name step)
      (s.act (.onConnection pool physical name step)).2.state := by
  cases htarget : s.target? pool physical name with
  | none =>
      obtain ⟨what, hact⟩ := act_of_target?_none htarget step
      exact .of_state (by rw [turn?, htarget]) (by rw [hact])
  | some found =>
      obtain ⟨q, y, d, x⟩ := found
      obtain ⟨hname, hx⟩ := lookup_of_target? htarget
      obtain ⟨turn, ht, hpass, -⟩ :=
        turned_onConnection (q := q) (y := y) hx step
      rw [act_of_target? htarget]
      have hturn : s.turn? c (.onConnection pool physical name step)
          = if d = c then step.turn? q y else none := by
        rw [turn?, htarget]
      by_cases hd : d = c
      · subst hd
        rw [if_pos rfl, ← hpass fun l hl => (hp.passes hx l hl).1] at hturn
        refine .turned ?_
        rw [hturn]
        exact ht
      · rw [if_neg hd] at hturn
        refine .aside hturn (fun hother => ?_) ?_
          (Nat.le_of_eq ht.length.symm)
        · rw [isOnOther, hname] at hother
          exact absurd (bne_iff_ne.2 hd) (Bool.eq_false_iff.1 hother)
        · rw [ht.connection?, if_neg fun he => hd he.symm]

/-- The same for steps of every kind. -/
theorem fares_act (hp : s.state.Passable c) (step : Step) :
    Fares s c step (s.act step).2.state := by
  cases step with
  | newConnection name spec => exact fares_newConnection hp name spec
  | dropConnection name =>
      exact fares_dropConnection rfl rfl (Nat.le_refl _) rfl rfl
  | onConnection pool physical name step =>
      exact fares_onConnection hp pool physical name step
  | _ =>
      exact .turned (turned_act_of_none s c (fun _ _ h => by cases h)
        (fun _ h => by cases h) fun _ _ _ _ h => by cases h)

/-- A step on another connection is no turn for this one. -/
theorem turn?_of_isOnOther (h : s.isOnOther c step = true) :
    s.turn? c step = none := by
  cases step with
  | onConnection pool physical name step =>
      rw [turn?]
      split
      · next q y d x htarget =>
        obtain ⟨hname, -⟩ := lookup_of_target? htarget
        rw [isOnOther, hname] at h
        exact if_neg (bne_iff_ne.1 h)
      · rfl
  | _ => cases h

/-- Nothing goes back to a pool in a step, unless the step closes a
connection: then at most what was on loan to that one. -/
theorem returns_act (s : Session) (step : Step) :
    (s.act step).2.state.returns = s.state.returns
      ∨ ∃ d, s.turn? d step = some .closed
        ∧ (s.act step).2.state.returns = s.state.returns
          ++ Turn.dues (some .closed) (s.state.loan? d) := by
  cases step with
  | onConnection pool physical name step =>
      cases htarget : s.target? pool physical name with
      | none =>
          obtain ⟨what, hact⟩ := act_of_target?_none htarget step
          exact .inl (by rw [hact])
      | some found =>
          obtain ⟨q, y, d, x⟩ := found
          obtain ⟨turn, ht, -, honly⟩ := turned_onConnection (q := q) (y := y)
            (lookup_of_target? htarget).2 step
          rw [act_of_target? htarget]
          by_cases hclosed : turn = some .closed
          · refine .inr ⟨d, ?_, hclosed ▸ ht.returns⟩
            rw [turn?, htarget]
            exact (if_pos rfl).trans (honly hclosed)
          · refine .inl (ht.returns.trans ?_)
            rw [Turn.dues_of_ne_closed hclosed, List.append_nil]
  | newConnection name spec =>
      rw [act]
      split
      · exact .inl rfl
      · next links _ =>
        obtain ⟨-, -, hback⟩ := connection?_dropConnection
          { s with state := (s.state.newConnection links).2 } 0 name
        exact .inl (hback.trans (State.returns_installLinks ..))
  | dropConnection name =>
      exact .inl (connection?_dropConnection s 0 name).2.2
  | _ =>
      exact .inl (turned_act_of_none s 0 (fun _ _ h => by cases h)
        (fun _ h => by cases h) fun _ _ _ _ h => by cases h).returns_of_none

/-- Nothing is lent to a connection that is gone. -/
theorem loan?_of_gone (h : s.state.connection? c = none) (step : Step) :
    Turn.loan? (s.turn? c step) none = none := by
  cases step with
  | onConnection pool physical name step =>
      rw [turn?]
      split
      · next q y d x htarget =>
        obtain ⟨-, hx⟩ := lookup_of_target? htarget
        split
        · next hd =>
          rw [hd, h] at hx
          cases hx
        · rfl
      · rfl
  | newConnection name spec | dropConnection name =>
      rw [turn?]
      split <;> rfl
  | _ => rfl

-- ========================================================= the law of a run

/-- Clearing up before and after a step gives nothing back. -/
theorem returns_step (s : Session) (step : Step) :
    (s.step step).2.state.returns = s.state.returns
      ∨ ∃ d, s.turn? d step = some .closed
        ∧ (s.step step).2.state.returns = s.state.returns
          ++ Turn.dues (some .closed) (s.state.loan? d) := by
  have hsettle : (s.step step).2.state.returns
      = (s.quiet.act step).2.state.returns := State.returns_release ..
  rw [hsettle]
  exact returns_act s.quiet step

/-- A step can be the turn of one connection only. -/
theorem turn?_unique {turn turn' : Turn}
    (hc : s.turn? c step = some turn) (hd : s.turn? d step = some turn') :
    d = c := by
  have hsame : ∀ {names : List (String × ConnectionId)} {name : String},
      names.lookup name = some c → names.lookup name = some d → d = c :=
    fun hc hd => Option.some.inj (hd.symm.trans hc)
  cases step with
  | onConnection pool physical name step =>
      rw [turn?] at hc hd
      cases htarget : s.target? pool physical name with
      | none =>
          rw [htarget] at hc
          cases hc
      | some found =>
          obtain ⟨q, y, e, x⟩ := found
          rw [htarget] at hc hd
          obtain ⟨rfl, -⟩ := Option.ite_none_right_eq_some.1 hc
          exact (Option.ite_none_right_eq_some.1 hd).1.symm
  | dropConnection name =>
      exact hsame (Option.ite_none_right_eq_some.1 hc).1
        (Option.ite_none_right_eq_some.1 hd).1
  | newConnection name spec =>
      exact hsame (Option.ite_none_right_eq_some.1 hc).1.2
        (Option.ite_none_right_eq_some.1 hd).1.2
  | _ => cases hc

/-- What a step does to a loan, all told. -/
structure Took (s : Session) (c : ConnectionId) (step : Step) : Prop where
  loan : (s.step step).2.state.loan? c
    = Turn.loan? (s.turn? c step) (s.state.loan? c)
  returned : s.returned c step
    = Turn.dues (s.turn? c step) (s.state.loan? c)
  passable : (s.step step).2.state.Passable c

/-- Nothing happens to a loan before and after a step. -/
theorem turned_quiet (s : Session) (c : ConnectionId) :
    s.state.Turned c none s.quiet.state :=
  .of_same c rfl rfl (.of_same rfl)

/-- Releasing what nobody holds returns nothing and turns no connection. -/
theorem turned_settle (s : Session) (c : ConnectionId) :
    s.state.Turned c none s.settle.state :=
  .of_same c (State.connections_release ..) (State.returns_release ..)
    (.of_same (State.physicals_release ..))

/-- A step does to a loan what its turn says. -/
theorem took_step (hp : s.state.Passable c) (step : Step) :
    Took s c step := by
  have hquiet : s.quiet.state.Passable c := ⟨hp.known, hp.passes⟩
  have hfares : Fares s c step (s.quiet.act step).2.state := by
    have hact := fares_act hquiet step
    cases hact with
    | turned h => exact .turned ((turned_quiet s c).after h)
    | aside hturn hback hconn hlen => exact .aside hturn hback hconn hlen
    | dropped hturn hback hconn hlen => exact .dropped hturn hback hconn hlen
  have hsettle := turned_settle (s.quiet.act step).2 c
  have hstep : (s.step step).2.state = (s.quiet.act step).2.settle.state := rfl
  cases hfares with
  | turned h =>
      have hturned : s.state.Turned c (s.turn? c step) (s.step step).2.state :=
        h.before hsettle
      refine ⟨?_, ?_, ?_⟩
      · cases hx : s.state.connection? c with
        | some x => exact hturned.loan? (by rw [hx]; rfl)
        | none =>
            have hloan : s.state.loan? c = none := by rw [State.loan?, hx]; rfl
            have hgone := hturned.connection? c
            rw [if_pos rfl, hx] at hgone
            rw [hloan, loan?_of_gone hx, State.loan?, hgone]
            rfl
      · rw [returned, hturned.returns, List.drop_left]
        by_cases hother : s.isOnOther c step = true
        · rw [if_pos hother, turn?_of_isOnOther hother]
          rfl
        · rw [if_neg hother]
      · refine ⟨by rw [hturned.length]; exact hp.known, fun {x} hx => ?_⟩
        rw [hturned.connection?, if_pos rfl] at hx
        obtain ⟨y, hy, rfl⟩ := Option.map_eq_some_iff.1 hx
        exact fun link hl => hp.passes hy link hl
  | aside hturn hback hconn hlen =>
      have hsame : (s.step step).2.state.connection? c
          = s.state.connection? c := by
        rw [hstep, hsettle.connection?_of_none, hconn]
      refine ⟨?_, ?_, ?_, fun {x} hx => ?_⟩
      · rw [hturn]
        exact State.loan?_congr hsame
      · rw [returned, hturn]
        by_cases hother : s.isOnOther c step = true
        · rw [if_pos hother]
          rfl
        · rw [if_neg hother, hstep, hsettle.returns_of_none,
            hback (Bool.eq_false_iff.2 hother), List.drop_length]
          rfl
      · rw [hstep, hsettle.length]
        exact Nat.lt_of_lt_of_le hp.known hlen
      · rw [hsame] at hx
        exact hp.passes hx
  | dropped hturn hback hconn hlen =>
      have hgone : (s.step step).2.state.connection? c = none := by
        rw [hstep, hsettle.connection?_of_none, hconn]
      refine ⟨?_, ?_, ?_, fun {x} hx => ?_⟩
      · rw [hturn, State.loan?, hgone]
        rfl
      · rw [returned, hturn, hstep, hsettle.returns_of_none, hback,
          List.drop_length, ite_self]
        exact (Turn.dues_of_ne_closed (fun he => by cases he) _).symm
      · rw [hstep, hsettle.length]
        exact Nat.lt_of_lt_of_le hp.known hlen
      · rw [hgone] at hx
        cases hx

/-- A connection is passable if all its links let closing and the question
for it pass. -/
theorem passable_of_connection? {x : Connection}
    (hx : s.state.connection? c = some x)
    (hpass : ∀ link ∈ x.links,
      link.passes .close = true ∧ link.passes .isClosed = true) :
    s.state.Passable c := by
  refine ⟨?_, fun {y} hy => ?_⟩
  · by_contra hlen
    rw [State.connection?, List.getElem?_eq_none (Nat.le_of_not_lt hlen)]
      at hx
    cases hx
  · rw [hx] at hy
    cases hy
    exact hpass

variable {steps : List Step}

/-- A passable connection stays passable. -/
theorem passable_run (hp : s.state.Passable c) :
    (s.run steps).state.Passable c := by
  induction steps generalizing s with
  | nil => exact hp
  | cons step steps ih => exact ih (took_step hp step).passable

/-- The turn of the first step comes first. -/
theorem turns_cons (s : Session) (c : ConnectionId) (step : Step)
    (steps : List Step) :
    turns c s (step :: steps)
      = (s.turn? c step).toList ++ turns c (s.step step).2 steps := rfl

/-- Until it is lent something, a connection gives back what was on loan
to it at first, and that if the first turn is that it is closed. -/
theorem returnedBy_eq (hp : s.state.Passable c)
    (hnone : ∀ loan, .lent loan ∉ turns c s steps) :
    returnedBy c s steps
      = if (turns c s steps).head? = some .closed
        then Turn.dues (some .closed) (s.state.loan? c) else [] := by
  induction steps generalizing s with
  | nil => rfl
  | cons step steps ih =>
      have hstep := took_step hp step
      rw [turns_cons] at hnone ⊢
      have hrest := ih hstep.passable fun loan hin =>
        hnone loan (List.mem_append_right _ hin)
      rw [returnedBy, hstep.returned, hrest, hstep.loan]
      cases hturn : s.turn? c step with
      | none => rfl
      | some turn =>
          have hnil : (if (turns c (s.step step).2 steps).head?
              = some Turn.closed then Turn.dues (some .closed) none
              else []) = [] := by
            rw [Turn.dues_none, ite_self]
          cases turn with
          | lent loan =>
              rw [hturn] at hnone
              exact absurd (List.mem_append_left _ (List.mem_singleton_self _))
                (hnone loan)
          | closed =>
              rw [Turn.loan?, hnil, List.append_nil]
              exact (if_pos rfl).symm
          | ended =>
              rw [Turn.loan?, hnil]
              exact (if_neg fun he => by cases he).symm

/-- Once there is no loan, there is none until the next is made. -/
theorem loan?_run (hp : s.state.Passable c)
    (hloan : s.state.loan? c = none)
    (hnone : ∀ loan, .lent loan ∉ turns c s steps) :
    (s.run steps).state.loan? c = none := by
  induction steps generalizing s with
  | nil => exact hloan
  | cons step steps ih =>
      have hstep := took_step hp step
      rw [turns_cons] at hnone
      rw [run_cons]
      refine ih hstep.passable ?_ fun loan hin =>
        hnone loan (List.mem_append_right _ hin)
      rw [hstep.loan, hloan]
      cases hturn : s.turn? c step with
      | none => rfl
      | some turn =>
          cases turn with
          | lent loan =>
              rw [hturn] at hnone
              exact absurd (List.mem_append_left _ (List.mem_singleton_self _))
                (hnone loan)
          | closed | ended => rfl

/-- A loan goes back at most once. -/
theorem length_returnedBy_le (hp : s.state.Passable c) :
    (returnedBy c s steps).length
      ≤ (turns c s steps).countP Turn.isLent
        + if (s.state.loan? c).isSome then 1 else 0 := by
  induction steps generalizing s with
  | nil => exact Nat.zero_le _
  | cons step steps ih =>
      have hstep := took_step hp step
      have hrest := ih hstep.passable
      rw [hstep.loan] at hrest
      rw [returnedBy, turns_cons, List.length_append, List.countP_append,
        hstep.returned]
      have hdues := Turn.length_dues_le (s.turn? c step) (s.state.loan? c)
      cases hturn : s.turn? c step with
      | none =>
          rw [hturn] at hrest
          exact Nat.zero_add _ ▸ Nat.zero_add _ ▸ hrest
      | some turn =>
          rw [hturn] at hrest hdues
          cases turn with
          | lent loan =>
              have hone : (if (Turn.loan? (some (.lent loan))
                  (s.state.loan? c)).isSome then 1 else 0) ≤ 1 := by
                split <;> omega
              have hlent : [Turn.lent loan].countP Turn.isLent = 1 := rfl
              have hback : Turn.dues (some (.lent loan)) (s.state.loan? c)
                  = [] := rfl
              rw [Option.toList_some, hlent, hback, List.length_nil]
              omega
          | closed | ended =>
              rw [Turn.loan?, Option.isSome_none, if_neg Bool.false_ne_true]
                at hrest
              rw [Option.toList_some, List.countP_singleton]
              simp only [Turn.isLent, Bool.false_eq_true, if_false]
              omega

-- ============================================================ answers

variable {pool physical name : String} {q : PoolId} {y : PhysicalId}
  {x : Connection}

/-- The reply to a step is that of its act. -/
theorem fst_step (s : Session) (step : Step) :
    (s.step step).1 = (s.quiet.act step).1 := rfl

/-- Closing is answered, and never with a failure. -/
theorem step_close (hp : s.state.Passable c)
    (h : s.target? pool physical name = some (q, y, c, x)) :
    (s.step (.onConnection pool physical name (.call .close))).1 = .unit
      ∧ ∀ handle, (s.step (.onConnection pool physical name
          (.invoke .close handle))).1 = .bareUnit := by
  obtain ⟨-, hx⟩ := lookup_of_target? h
  have hquiet : s.quiet.target? pool physical name = some (q, y, c, x) := h
  obtain ⟨_, _, hok⟩ := Act.turned_askLinks_close c x.links s.quiet.state
  obtain ⟨-, hreply⟩ := hok fun link hl => (hp.passes hx link hl).1
  have hrun : (Act.invokeOp c .close).run s.quiet.state
      = (.ok .unit, ((Act.invokeOp c .close).run s.quiet.state).2) := by
    rw [run_invokeOp (t := s.quiet.state) hx]
    exact Prod.ext hreply rfl
  refine ⟨?_, fun handle => ?_⟩
  · rw [fst_step, act_of_target? hquiet]
    show (s.quiet.answer (Act.runOp c .close) _).1 = _
    rw [answer, perform, Act.runOp, Act.run_bind_ok _ hrun]
    rfl
  · rw [fst_step, act_of_target? hquiet, onConnection, perform, hrun]
    rfl

/-- The question whether it is closed is answered by the terminal. -/
theorem step_isClosed (hp : s.state.Passable c)
    (h : s.target? pool physical name = some (q, y, c, x)) :
    (s.step (.onConnection pool physical name (.call .isClosed))).1
      = .bool (s.state.isClosedConnection c) := by
  obtain ⟨-, hx⟩ := lookup_of_target? h
  have hquiet : s.quiet.target? pool physical name = some (q, y, c, x) := h
  have hreply := Act.run_askLinks_isClosed c
    (fun link hl => (hp.passes hx link hl).2) s.quiet.state
  have hsame : s.quiet.state.isClosedConnection c
      = s.state.isClosedConnection c := rfl
  rw [hsame] at hreply
  rw [fst_step, act_of_target? hquiet]
  show (s.quiet.answer (Act.boolOf c .isClosed) .bool).1 = _
  rw [answer, perform, Act.boolOf,
    Act.run_read c _ (ConnectionReply.toBool _),
    run_invokeOp (t := s.quiet.state) hx, hreply]
  rfl

-- ============================================================= the law

/-- A physical connection goes back to its pool once per checkout.

Take any session with a connection `c` none of whose links answers
closing, or the question whether it is closed, in the place of the
terminal.

Once it is lent something, and until it is lent something again, just
that goes back, to the pool it is from, if the connection is closed
before it is checked in, disconnected or dropped, and nothing otherwise.
Before it is lent anything nothing goes back, and nothing ever does more
often than it is lent something. Counted are all steps, those on
statements and pools too, but for the steps on other connections; and no
step at all gives anything back unless it closes a connection, and then
only what was on loan to that one. Closing always succeeds; and after
any turn but being lent something, the connection says that it is closed
until it is. -/
theorem returned_once_per_checkout {s : Session} {c : ConnectionId}
    {x : Connection} (hx : s.state.connection? c = some x)
    (hpass : ∀ link ∈ x.links,
      link.passes .close = true ∧ link.passes .isClosed = true) :
    (∀ lend loan during, s.turn? c lend = some (.lent loan) →
      (∀ l, .lent l ∉ turns c (s.step lend).2 during) →
      s.returned c lend = []
        ∧ returnedBy c (s.step lend).2 during
          = if (turns c (s.step lend).2 during).head? = some .closed
            then Turn.dues (some .closed) loan else [])
    ∧ (s.state.loan? c = none → ∀ steps,
        ((∀ l, .lent l ∉ turns c s steps) → returnedBy c s steps = [])
          ∧ (returnedBy c s steps).length
            ≤ (turns c s steps).countP Turn.isLent)
    ∧ (∀ {pool physical name q y z},
        s.target? pool physical name = some (q, y, c, z) →
        (s.step (.onConnection pool physical name (.call .close))).1 = .unit
          ∧ ∀ handle, (s.step (.onConnection pool physical name
              (.invoke .close handle))).1 = .bareUnit)
    ∧ (∀ step turn after, s.turn? c step = some turn →
        turn.isLent = false →
        (∀ l, .lent l ∉ turns c (s.step step).2 after) →
        ∀ {pool physical name q y z},
          ((s.step step).2.run after).target? pool physical name
            = some (q, y, c, z) →
          (((s.step step).2.run after).step
            (.onConnection pool physical name (.call .isClosed))).1
              = .bool true)
    ∧ (∀ (t : Session) step, (∀ d, t.turn? d step ≠ some .closed) →
        (t.step step).2.state.returns = t.state.returns)
    ∧ (∀ (t : Session) step d, t.turn? d step = some .closed →
        (t.step step).2.state.returns = t.state.returns
          ∨ (t.step step).2.state.returns = t.state.returns
            ++ Turn.dues (some .closed) (t.state.loan? d)) := by
  have hp := passable_of_connection? hx hpass
  refine ⟨fun lend loan during hlend hnone => ?_, fun hloan steps => ?_,
    fun h => step_close hp h, fun step turn after hturn hended hnone => ?_,
    fun t step hopen => ?_, fun t step d hclosed => ?_⟩
  · have hstep := took_step hp lend
    have hloan := hstep.loan
    have hback := hstep.returned
    rw [hlend] at hloan hback
    rw [returnedBy_eq hstep.passable hnone, hloan]
    exact ⟨hback, rfl⟩
  · refine ⟨fun hnone => ?_, ?_⟩
    · rw [returnedBy_eq hp hnone, hloan, Turn.dues_none, ite_self]
    · have hle : (returnedBy c _ steps).length ≤ _ := length_returnedBy_le hp
      rw [hloan] at hle
      exact hle
  · intro pool physical name q y z h
    have hstep := took_step hp step
    have hloan := hstep.loan
    rw [hturn] at hloan
    have hgone : (s.step step).2.state.loan? c = none := by
      cases turn with
      | lent loan => cases hended
      | closed | ended => exact hloan
    rw [step_isClosed (passable_run hstep.passable) h,
      State.isClosedConnection_of_loan?
        (loan?_run hstep.passable hgone hnone)]
  · obtain hsame | ⟨d, hclosed, -⟩ := returns_step t step
    · exact hsame
    · exact absurd hclosed (hopen d)
  · obtain hsame | ⟨e, hturn, hback⟩ := returns_step t step
    · exact .inl hsame
    · obtain rfl := turn?_unique hclosed hturn
      exact .inr hback

/-- A connection that is closed twice and then checked in gives back what
it was lent once; a statement that is closed in between gives back
nothing. -/
theorem closed_twice_and_returned_once :
    let s := start [.leakTracker, .cache .standard] false false
    let lend := Step.onConnection "p0" "x0" "c0" .checkOut
    let close := Step.onStatement "a" (.call .close)
    let during := [
      Step.onConnection "p0" "x0" "c0" (.create (.prepareStatement "q") "a"),
      .onConnection "p0" "x0" "c0" (.call .close), close,
      .onConnection "p0" "x0" "c0" (.call .close),
      .onConnection "p0" "x0" "c0" .checkIn]
    s.state.connection? 0 = some ⟨[.leakTracker, .cache .standard], {}⟩
      ∧ s.turn? 0 lend = some (.lent (some ⟨some 0, 0⟩))
      ∧ turns 0 (s.step lend).2 during = [.closed, .closed, .ended]
      ∧ returnedBy 0 (s.step lend).2 during = [(0, 0)]
      ∧ (((s.step lend).2.run (during.take 2)).step close).2.state.returns
        = [(0, 0)] := by
  intro s lend close during
  have hx : s.state.connection? 0
      = some ⟨[.leakTracker, .cache .standard], {}⟩ := by decide +kernel
  have hlend : s.turn? 0 lend = some (.lent (some ⟨some 0, 0⟩)) := by
    decide +kernel
  have hturns : turns 0 (s.step lend).2 during
      = [.closed, .closed, .ended] := by decide +kernel
  obtain ⟨hinterval, -, -, -, hkept, -⟩ :=
    returned_once_per_checkout hx (by decide)
  have hnone : ∀ l, Turn.lent l ∉ turns 0 (s.step lend).2 during := by
    rw [hturns]
    intro l
    simp
  obtain ⟨-, hback⟩ := hinterval lend _ during hlend hnone
  refine ⟨hx, hlend, hturns, ?_, ?_⟩
  · rw [hback, hturns]
    rfl
  · have hclosed : ((s.step lend).2.run (during.take 2)).state.returns
        = [(0, 0)] := by decide +kernel
    have hopen : ∀ (t : Session) d, t.turn? d close ≠ some .closed :=
      fun t d h => by cases h
    rw [hkept _ close (hopen _), hclosed]

end Session

end PooledChain
