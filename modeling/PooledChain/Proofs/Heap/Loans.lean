/-
The loan of a physical connection.

At checkout a connection is attached to a physical connection of a pool.
That is on loan to it (`State.loan?`) until the connection is closed, or
is detached, at check-in or when the physical connection is gone. These
are the turns that a loan can take (`Turn`), and each is the doing of
one act on the terminal:

- attaching makes the loan (`turned_hearTerminal`), detaching ends it and
  gives nothing back;
- closing ends it too, and gives back what was on loan, if a pool is
  there to take it (`run_closeTerminal_eq`). Closing goes through every
  link that does not answer in the terminal's place, and always
  succeeds (`turned_askLinks_close`);
- without a loan a connection is closed (`isClosedConnection_of_loan?`).
-/
import PooledChain.Proofs.Heap.Ends

namespace PooledChain

variable {s t u : State} {c : ConnectionId}

-- ================================================== loans and their turns

/-- What an open terminal is attached to. -/
def Terminal.loan? (e : Terminal) : Option Attachment :=
  if e.closed then none else e.attachment

/-- What is on loan to a connection. -/
def State.loan? (s : State) (c : ConnectionId) : Option Attachment :=
  (s.connection? c).bind fun x => x.terminal.loan?

/-- What can happen to a loan. -/
inductive Turn
  /-- The connection is attached; nothing is lent if there is no physical
  connection to attach it to. -/
  | lent (loan : Option Attachment)
  /-- The connection is closed. -/
  | closed
  /-- The connection is detached, or dropped. -/
  | ended
  deriving DecidableEq, Repr

namespace Turn

/-- Whether a turn makes a loan. -/
def isLent : Turn → Bool
  | lent _ => true
  | _ => false

/-- The terminal after a turn, or after none. -/
def terminal : Option Turn → Terminal → Terminal
  | none, e => e
  | some (lent (some a)), _ => { attachment := some a, closed := false }
  | some (lent none), _ => {}
  | some closed, e => { e with closed := true }
  | some ended, _ => {}

/-- The loan after a turn, or after none. -/
def loan? : Option Turn → Option Attachment → Option Attachment
  | none, loan => loan
  | some (lent loan), _ => loan
  | some closed, _ => none
  | some ended, _ => none

/-- What goes back in a turn: what was on loan, to its pool, if the
connection is closed. -/
def dues : Option Turn → Option Attachment → List (PoolId × PhysicalId)
  | some closed, some ⟨some pool, x⟩ => [(pool, x)]
  | _, _ => []

/-- A turn settles what is on loan by settling what the terminal is attached
to. -/
theorem loan?_terminal (turn : Option Turn) (e : Terminal) :
    (terminal turn e).loan? = loan? turn e.loan? := by
  cases turn with
  | none => rfl
  | some turn =>
      cases turn with
      | lent loan => cases loan <;> rfl
      | closed | ended => rfl

/-- Where nothing is on loan, nothing goes back. -/
@[simp] theorem dues_none (turn : Option Turn) : dues turn none = [] := by
  cases turn with
  | none => rfl
  | some turn => cases turn <;> rfl

/-- Nothing goes back but in closing. -/
theorem dues_of_ne_closed {turn : Option Turn} (h : turn ≠ some closed)
    (loan : Option Attachment) : dues turn loan = [] := by
  cases turn with
  | none => rfl
  | some turn =>
      cases turn with
      | closed => exact absurd rfl h
      | lent | ended => rfl

/-- At most what is on loan goes back. -/
theorem length_dues_le (turn : Option Turn) (loan : Option Attachment) :
    (dues turn loan).length ≤ if loan.isSome then 1 else 0 := by
  unfold dues
  split
  · exact Nat.le_refl 1
  · exact Nat.zero_le _

end Turn

/-- Whether the physical connections are still there, each on the same
connection of the driver. -/
def State.Lasting (s t : State) : Prop :=
  ∀ x q, s.physical? x = some q →
    ∃ q', t.physical? x = some q' ∧ q'.native = q.native

namespace State.Lasting

theorem of_same (h : t.physicals = s.physicals) : s.Lasting t := by
  intro x q hq
  rw [physical?, ← h] at hq
  exact ⟨q, hq, rfl⟩

theorem refl (s : State) : s.Lasting s := of_same rfl

theorem trans (h₁ : s.Lasting t) (h₂ : t.Lasting u) : s.Lasting u := by
  intro x q hq
  obtain ⟨q', hq', hnative⟩ := h₁ x q hq
  obtain ⟨q'', hq'', hnative'⟩ := h₂ x q' hq'
  exact ⟨q'', hq'', hnative'.trans hnative⟩

/-- A physical connection may change, but for the driver's connection behind
it. -/
theorem modifyPhysical (s : State) (x : PhysicalId)
    {f : Physical → Physical} (hf : ∀ q, (f q).native = q.native) :
    s.Lasting (s.modifyPhysical x f) := by
  intro y q hq
  rw [physical?] at hq
  rw [physical?, State.modifyPhysical, List.getElem?_modify, hq]
  refine ⟨_, rfl, ?_⟩
  by_cases hy : x = y
  · simp only [if_pos hy, hf]
  · simp only [if_neg hy]

/-- One more takes none away. -/
theorem newPhysical (s : State) (guarded : Bool) :
    s.Lasting (s.newPhysical guarded).2 := by
  intro x q hq
  rw [physical?] at hq
  refine ⟨q, ?_, rfl⟩
  rw [physical?]
  show (s.physicals ++ [_])[x]? = some q
  rw [List.getElem?_append_left (List.getElem?_eq_some_iff.1 hq).1]
  exact hq

end State.Lasting

/-- Whether a connection took a turn from one state to the other, and no
other connection did. -/
structure State.Turned (c : ConnectionId) (turn : Option Turn)
    (s t : State) : Prop where
  connection? : ∀ c', t.connection? c'
    = if c' = c then (s.connection? c').map fun x =>
        { x with terminal := Turn.terminal turn x.terminal }
      else s.connection? c'
  length : t.connections.length = s.connections.length
  returns : t.returns = s.returns ++ Turn.dues turn (s.loan? c)
  lasting : s.Lasting t

namespace State

/-- What is on loan depends on the connection alone. -/
theorem loan?_congr (h : t.connection? c = s.connection? c) :
    t.loan? c = s.loan? c := by
  rw [loan?, loan?, h]

/-- What is on loan to a connection that is there is what its terminal is
attached to. -/
theorem loan?_of_connection? {x : Connection}
    (h : s.connection? c = some x) : s.loan? c = x.terminal.loan? := by
  rw [loan?, h]
  rfl

/-- What is not on loan to anybody is closed. -/
theorem isClosedConnection_of_loan? (h : s.loan? c = none) :
    s.isClosedConnection c = true := by
  rw [isClosedConnection]
  cases hx : s.connection? c with
  | none => rfl
  | some x =>
      rw [loan?_of_connection? hx] at h
      show (x.terminal.closed || _) = true
      rw [Bool.or_eq_true]
      by_cases hclosed : x.terminal.closed = true
      · exact .inl hclosed
      · rw [Terminal.loan?, if_neg hclosed] at h
        rw [h]
        exact .inr rfl

end State

namespace State.Turned

variable {turn : Option Turn}

theorem of_same (c : ConnectionId) (hconn : t.connections = s.connections)
    (hret : t.returns = s.returns) (hlast : s.Lasting t) :
    s.Turned c none t where
  connection? c' := by
    rw [State.connection?, State.connection?, hconn]
    split
    · cases (s.connections[c']?).join <;> rfl
    · rfl
  length := congrArg List.length hconn
  returns := by
    rw [hret]
    exact (List.append_nil _).symm
  lasting := hlast

/-- Where the ends are the same, nobody took a turn. -/
theorem of_sameEnds (c : ConnectionId) (h : s.SameEnds t) :
    s.Turned c none t :=
  of_same c h.connections h.returns (.of_same h.physicals)

/-- Where nobody took a turn, connections are as they were. -/
theorem connection?_of_none (h : s.Turned c none t) (c' : ConnectionId) :
    t.connection? c' = s.connection? c' := by
  rw [h.connection?]
  split
  · cases s.connection? c' <;> rfl
  · rfl

/-- Where nobody took a turn, nothing went back. -/
theorem returns_of_none (h : s.Turned c none t) : t.returns = s.returns := by
  rw [h.returns]
  exact List.append_nil _

/-- Where nothing happened, nothing happened to anybody. -/
theorem of_none (h : s.Turned c none t) (d : ConnectionId) :
    s.Turned d none t where
  connection? c' := by
    rw [h.connection?_of_none]
    split
    · cases s.connection? c' <;> rfl
    · rfl
  length := h.length
  returns := by
    rw [h.returns_of_none]
    exact (List.append_nil _).symm
  lasting := h.lasting

/-- Nothing has happened before the turn. -/
theorem after (h₁ : s.Turned c none t) (h₂ : t.Turned c turn u) :
    s.Turned c turn u where
  connection? c' := by
    rw [h₂.connection?, h₁.connection?_of_none]
  length := h₂.length.trans h₁.length
  returns := by
    rw [h₂.returns, h₁.returns_of_none,
      loan?_congr (h₁.connection?_of_none c)]
  lasting := h₁.lasting.trans h₂.lasting

/-- Nothing has happened since the turn. -/
theorem before (h₁ : s.Turned c turn t) (h₂ : t.Turned c none u) :
    s.Turned c turn u where
  connection? c' := by
    rw [h₂.connection?_of_none, h₁.connection?]
  length := h₂.length.trans h₁.length
  returns := by rw [h₂.returns_of_none, h₁.returns]
  lasting := h₁.lasting.trans h₂.lasting

/-- A turn settles what is on loan to its connection. -/
theorem loan? (h : s.Turned c turn t) (hc : (s.connection? c).isSome) :
    t.loan? c = Turn.loan? turn (s.loan? c) := by
  obtain ⟨x, hx⟩ := Option.isSome_iff_exists.1 hc
  have ht := h.connection? c
  rw [if_pos rfl, hx] at ht
  rw [loan?_of_connection? ht, loan?_of_connection? hx]
  exact Turn.loan?_terminal turn x.terminal

/-- Nothing happens after the act in which the turn was taken. -/
theorem bind {α β : Type} {x : Act α} {f : α → Act β}
    (hx : s.Turned c turn (x.run s).2)
    (hf : ∀ a t, State.Turned c none t ((f a).run t).2) :
    s.Turned c turn ((x >>= f).run s).2 := by
  rw [Act.run_bind]
  rcases hr : x.run s with ⟨e | a, t⟩
  · rw [hr] at hx
    exact hx
  · rw [hr] at hx
    exact hx.before (hf a t)

end State.Turned

namespace Act

-- =========================================================== closing

/-- What the terminal does when it is closed. -/
theorem run_closeTerminal_eq (c : ConnectionId) (s : State) :
    ∃ t, (closeTerminal c).run s = (.ok .unit, t)
      ∧ s.Turned c (some .closed) t := by
  have hconn : ∀ c', (s.modifyTerminal c fun e =>
        { e with closed := true }).connection? c'
      = if c' = c then (s.connection? c').map fun x =>
          { x with terminal := Turn.terminal (some .closed) x.terminal }
        else s.connection? c' := fun c' => connection?_modifyTerminal s c c' _
  have hloan : s.loan? c = (s.terminalOf c).loan? := by
    rw [State.loan?, State.terminalOf]
    cases s.connection? c <;> rfl
  unfold closeTerminal
  rw [run_bind, run_terminal]
  simp only
  by_cases hclosed : (s.terminalOf c).closed = true
  · rw [if_pos hclosed]
    refine ⟨s, rfl, fun c' => ?_, rfl, ?_, ?_⟩
    · by_cases hc : c' = c
      · subst hc
        rw [if_pos rfl]
        cases hx : s.connection? c' with
        | none => rfl
        | some x =>
            obtain ⟨links, attachment, closed⟩ := x
            rw [State.terminalOf, hx] at hclosed
            have hclosed : closed = true := hclosed
            subst hclosed
            rfl
      · rw [if_neg hc]
    · rw [hloan, Terminal.loan?, if_pos hclosed, Turn.dues_none,
        List.append_nil]
    · exact .refl s
  · rw [if_neg hclosed, run_bind, run_modify]
    rw [Terminal.loan?, if_neg hclosed] at hloan
    simp only
    cases ha : (s.terminalOf c).attachment with
    | none =>
        refine ⟨_, rfl, hconn, List.length_modify .., ?_, .of_same rfl⟩
        rw [hloan, ha]
        exact (List.append_nil _).symm
    | some a =>
        obtain ⟨pool, x⟩ := a
        cases pool with
        | none =>
            refine ⟨_, rfl, hconn, List.length_modify .., ?_, .of_same rfl⟩
            rw [hloan, ha]
            exact (List.append_nil _).symm
        | some pool =>
            refine ⟨_, rfl, hconn, List.length_modify .., ?_, .of_same rfl⟩
            rw [hloan, ha]
            rfl

/-- Before a connection closes, no link fails. -/
theorem run_closeListed_ok (entries : List (Nat × LayerId)) (s : State) :
    ((closeListed entries).run s).1 = .ok () := by
  induction entries generalizing s with
  | nil => rfl
  | cons e rest ih =>
      unfold closeListed
      rw [run_bind, run_get]
      simp only
      split
      · rw [run_bind, run_attempt]
        exact ih _
      · exact ih s

/-- What a link does before its connection closes never fails. -/
theorem run_beforeClose_ok (link : Link) (self : LinkId) (s : State) :
    ((beforeClose link self).run s).1 = .ok () := by
  cases link with
  | leakTracker =>
      unfold beforeClose
      simp only
      rw [run_bind, run_get]
      simp only
      split
      · exact run_closeListed_ok _ _
      · rfl
  | _ => rfl

end Act

/-- Whether a link asks the links below it for such an operation. -/
def Link.passes (op : ConnectionOp) : Link → Bool
  | answering answers => (answers.lookup op.name).isNone
  | _ => true

namespace Act

/-- What a link does before it passes on that its connection closes. -/
def closing (link : Link) (self : LinkId) : Act Unit :=
  match link with
  | .probe label =>
    modify (·.note label (.operation ConnectionOp.close.name none))
  | link => beforeClose link self

/-- A link that passes it on asks the links below to close. -/
theorem run_askLink_close {link : Link} (hpass : link.passes .close = true)
    (self : LinkId) (next : Next) (s : State) :
    (askLink link self next .close).run s
      = (next .close).run ((closing link self).run s).2 := by
  have hintercept : (beforeClose link self >>= fun _ => next .close).run s
      = (next .close).run ((beforeClose link self).run s).2 :=
    run_bind_ok _ (Prod.ext (run_beforeClose_ok link self s) rfl)
  cases link with
  | bare => rfl
  | probe label => rfl
  | prepending text => rfl
  | answering answers =>
      rw [Link.passes, Option.isNone_iff_eq_none] at hpass
      rw [askLink, hpass]
      rfl
  | cache | decorator | leakTracker | recorder | counter | watcher =>
      exact hintercept

/-- Before closing goes on below, the ends are as they were. -/
theorem sameEnds_closing (link : Link) (self : LinkId) (s : State) :
    s.SameEnds ((closing link self).run s).2 := by
  have hbefore := sameEnds (changes_beforeClose link self fun _ => trivial) s
  cases link with
  | probe label => exact ⟨rfl, rfl, rfl⟩
  | _ => exact hbefore

/-- Closing gets through to the terminal, unless a link answers in its
place. -/
theorem turned_askLinks_close (c : ConnectionId) (links : List Link)
    (s : State) :
    ∃ turn, s.Turned c turn ((askLinks c links .close).run s).2
      ∧ ((∀ link ∈ links, link.passes .close = true) →
        turn = some .closed
          ∧ ((askLinks c links .close).run s).1 = .ok .unit) := by
  have hend : ∀ s : State, s.Turned c (some .closed)
        ((askTerminal c .close).run s).2
      ∧ ((askTerminal c .close).run s).1 = .ok .unit := by
    intro s
    obtain ⟨t, hrun, ht⟩ := run_closeTerminal_eq c s
    have hrun : (askTerminal c .close).run s = (.ok .unit, t) := hrun
    rw [hrun]
    exact ⟨ht, rfl⟩
  induction links generalizing s with
  | nil => exact ⟨_, (hend s).1, fun _ => ⟨rfl, (hend s).2⟩⟩
  | cons link rest ih =>
      by_cases hpass : link.passes .close = true
      · have hrun : (askLinks c (link :: rest) .close).run s = _ :=
          run_askLink_close hpass ⟨c, rest.length⟩ (askLinks c rest) s
        obtain ⟨turn, hturn, hok⟩ :=
          ih ((closing link ⟨c, rest.length⟩).run s).2
        rw [hrun]
        exact ⟨turn, .after (.of_sameEnds c (sameEnds_closing ..)) hturn,
          fun hall => hok fun l hl => hall l (List.mem_cons_of_mem _ hl)⟩
      · have hnot : ¬ ∀ l ∈ link :: rest, l.passes .close = true :=
          fun hall => hpass (hall _ List.mem_cons_self)
        cases link with
        | answering answers =>
            obtain ⟨answer, ha⟩ : ∃ answer,
                answers.lookup ConnectionOp.close.name = some answer := by
              rw [Link.passes, Option.isNone_iff_eq_none] at hpass
              exact Option.ne_none_iff_exists'.1 hpass
            have hrun : (askLinks c (.answering answers :: rest) .close).run s
                = (canned c .close answer).run s := by
              show (askLink (.answering answers) _ _ .close).run s = _
              rw [askLink, ha]
            rw [hrun]
            cases answer with
            | terminal =>
                exact ⟨_, (hend s).1, fun hall => absurd hall hnot⟩
            | bool | unit | text | fail =>
                exact ⟨none, .of_sameEnds c (.refl s),
                  fun hall => absurd hall hnot⟩
        | _ => exact absurd rfl hpass

/-- The question whether it is closed is answered by the terminal. -/
theorem run_askLinks_isClosed (c : ConnectionId) {links : List Link}
    (h : ∀ link ∈ links, link.passes .isClosed = true) (s : State) :
    ((askLinks c links .isClosed).run s).1
      = .ok (.bool (s.isClosedConnection c)) := by
  induction links generalizing s with
  | nil => rfl
  | cons link rest ih =>
      have hrest := ih fun l hl => h l (List.mem_cons_of_mem _ hl)
      cases link with
      | probe label =>
          have hnote : s.SameEnds (s.note label
              (.operation (ConnectionOp.isClosed).name none)) :=
            ⟨rfl, rfl, rfl⟩
          rw [← hnote.isClosedConnection c]
          exact hrest _
      | answering answers =>
          have hself := h _ List.mem_cons_self
          rw [Link.passes, Option.isNone_iff_eq_none] at hself
          show ((askLink (.answering answers) _ _ .isClosed).run s).1 = _
          rw [askLink, hself]
          exact hrest s
      | _ => exact hrest s

-- ==================================================== what a pool does

/-- Emptying a cache never fails. -/
theorem run_discardAll_ok (ids : List LayerId) (s : State) :
    ((discardAll ids).run s).1 = .ok () := by
  induction ids generalizing s with
  | nil => rfl
  | cons id rest ih =>
      obtain ⟨t, ht⟩ := run_discardParked_ok id s
      unfold discardAll
      rw [run_bind_ok _ ht]
      exact ih t

/-- Links hear of an event without touching the ends. -/
theorem sameEnds_hear (link : Link) (self : LinkId) (event : Event)
    (s : State) : s.SameEnds ((hear link self event).run s).2 :=
  sameEnds (changes_hear link event fun _ _ => trivial) s

/-- No link fails when it hears of an event. -/
theorem run_hear_ok (link : Link) (self : LinkId) (event : Event)
    (s : State) : ((hear link self event).run s).1 = .ok () := by
  unfold hear
  split
  · rfl
  · unfold drainCache
    rw [run_bind, run_get]
    simp only
    split
    · rfl
    · exact run_discardAll_ok _ _
  · rfl
  · rfl
  · rfl
  · rfl
  · rfl
  · rfl

end Act

/-- The turn that an event is for the loan of who hears it. -/
def Event.turn? : Event → Option Turn
  | attach pool x => some (.lent (x.map fun x => ⟨pool, x⟩))
  | checkIn => some .ended
  | disconnect _ _ _ => some .ended
  | poolStarted _ => none
  | poolClosed _ => none

namespace Act

/-- A terminal that is written as after a turn has taken it. -/
theorem turned_modifyTerminal (s : State) (c : ConnectionId)
    (turn : Turn) (hne : turn ≠ .closed) {f : Terminal → Terminal}
    (hf : ∀ e, f e = Turn.terminal (some turn) e) :
    s.Turned c (some turn) (s.modifyTerminal c f) where
  connection? c' := by
    rw [connection?_modifyTerminal]
    simp only [hf]
  length := List.length_modify ..
  returns := by
    rw [Turn.dues_of_ne_closed fun he => hne (Option.some.inj he),
      List.append_nil]
    rfl
  lasting := .of_same rfl

/-- A terminal that is attached is lent something; one that is detached
loses it. -/
theorem turned_hearTerminal (c : ConnectionId) (event : Event) (s : State) :
    s.Turned c event.turn? ((hearTerminal c event).run s).2 := by
  cases event with
  | attach pool x =>
      cases x <;> exact turned_modifyTerminal s c (.lent _)
        (fun he => by cases he) fun e => rfl
  | checkIn =>
      exact turned_modifyTerminal s c .ended (fun he => by cases he)
        fun e => rfl
  | disconnect pool x finalizing =>
      exact turned_modifyTerminal s c .ended (fun he => by cases he)
        fun e => rfl
  | poolStarted | poolClosed => exact .of_sameEnds c (.refl s)

/-- All links hear of an event, and the terminal takes the turn. -/
theorem turned_hearAll (c : ConnectionId) (event : Event)
    (links : List Link) (s : State) :
    s.Turned c event.turn? ((hearAll c event links).run s).2 := by
  induction links generalizing s with
  | nil => exact turned_hearTerminal c event s
  | cons link rest ih =>
      have hlink := sameEnds_hear link ⟨c, rest.length⟩ event s
      show s.Turned c _ (((hear link ⟨c, rest.length⟩ event) >>= fun _ =>
        hearAll c event rest).run s).2
      rw [run_bind_ok _ (Prod.ext (run_hear_ok _ _ event s) rfl)]
      exact .after (.of_sameEnds c hlink) (ih _)

/-- A connection hears of an event. -/
theorem turned_tell (c : ConnectionId) (event : Event) (s : State)
    (hc : (s.connection? c).isSome) :
    s.Turned c event.turn? ((tell c event).run s).2 := by
  obtain ⟨x, hx⟩ := Option.isSome_iff_exists.1 hc
  unfold tell
  rw [run_bind, run_get]
  simp only [hx]
  exact turned_hearAll c event x.links s

/-- Of some events a connection hears without taking a turn. -/
theorem keepsEnds_tell (c : ConnectionId) {event : Event}
    (he : event.turn? = none) (s : State) :
    s.Turned c none ((tell c event).run s).2 := by
  cases hc : s.connection? c with
  | none =>
      unfold tell
      rw [run_bind, run_get]
      simp only [hc]
      exact .of_sameEnds c (.refl s)
  | some x =>
      rw [← he]
      exact turned_tell c event s (by rw [hc]; rfl)

/-- The checkout of a physical connection lends it. -/
theorem turned_checkOut (c : ConnectionId) (pool : PoolId) (x : PhysicalId)
    (s : State) (hc : (s.connection? c).isSome) :
    s.Turned c (some (.lent (some ⟨some pool, x⟩)))
      ((checkOut c pool x).run s).2 := by
  have hcount : s.Turned c none
      (s.modifyPhysical x fun p => { p with checkouts := p.checkouts + 1 }) :=
    .of_same c rfl rfl (.modifyPhysical s x fun _ => rfl)
  exact hcount.after (turned_tell c (.attach (some pool) (some x)) _ hc)

/-- Discarding a physical connection leaves connections and returns as
they are. -/
theorem turned_discardPhysical (c : ConnectionId) (x : PhysicalId)
    (s : State) : s.Turned c none ((discardPhysical x).run s).2 := by
  unfold discardPhysical
  rw [run_bind, run_get]
  simp only
  split
  · exact .of_sameEnds c (.refl s)
  · split
    · exact .of_sameEnds c (.refl s)
    · exact .of_same c rfl rfl (.modifyPhysical s x fun _ => rfl)

/-- A connection that is discarded loses its loan without giving it back. -/
theorem turned_discardConnection (c : ConnectionId) (pool : PoolId)
    (x : PhysicalId) (s : State) (hc : (s.connection? c).isSome) :
    s.Turned c (some .ended) ((discardConnection c pool x).run s).2 :=
  .bind (turned_tell c (.disconnect (some pool) x false) s hc)
    fun _ t => turned_discardPhysical c x t

/-- What all connections of a pool hear of is a turn for none of them. -/
theorem turned_tellAll (c : ConnectionId) {event : Event}
    (he : event.turn? = none) (cs : List ConnectionId) (s : State) :
    s.Turned c none ((tellAll event cs).run s).2 := by
  induction cs generalizing s with
  | nil => exact .of_sameEnds c (.refl s)
  | cons d cs ih =>
      have htell := keepsEnds_tell d he s
      have hsame : s.Turned c none ((tell d event).run s).2 :=
        htell.of_none c
      exact hsame.bind fun _ t => ih t

/-- Nobody loses a loan when a pool closes. -/
theorem turned_closePool (c : ConnectionId) (pool : PoolId)
    (cs : List ConnectionId) (s : State) :
    s.Turned c none ((closePool pool cs).run s).2 := by
  unfold closePool
  rw [run_bind, run_get]
  simp only
  split
  · rw [run_bind, run_modify]
    have hmark : s.Turned c none
        { s with statistics := s.statistics.markClosed pool } :=
      .of_same c rfl rfl (.of_same rfl)
    refine hmark.after (.bind (turned_tellAll c rfl cs _) fun _ t => ?_)
    exact .of_same c rfl rfl (.of_same rfl)
  · exact .of_sameEnds c (.refl s)

end Act

end PooledChain
