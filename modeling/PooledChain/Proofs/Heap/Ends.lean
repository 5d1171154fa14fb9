/-
The ends of the chains: the connections with their terminals, the
physical connections, and what was returned to the pools.

Statements do not reach that far. Whatever is done with a statement, and
whatever a link does on the way of an operation, leaves the ends as they
are (`Act.sameEnds`); only closing, attaching and detaching a terminal,
discarding a physical connection and counting its checkouts change them.
So an operation other than closing keeps them, whatever the chain
(`Act.sameEnds_invokeOp`).
-/
import PooledChain.Proofs.Heap.Change

namespace PooledChain

variable {s t u : State}

/-- Whether two states agree on the ends of the chains. -/
structure State.SameEnds (s t : State) : Prop where
  connections : t.connections = s.connections
  physicals : t.physicals = s.physicals
  returns : t.returns = s.returns

namespace State.SameEnds

theorem refl (s : State) : s.SameEnds s := ⟨rfl, rfl, rfl⟩

theorem trans (h₁ : s.SameEnds t) (h₂ : t.SameEnds u) : s.SameEnds u :=
  ⟨h₂.connections.trans h₁.connections, h₂.physicals.trans h₁.physicals,
    h₂.returns.trans h₁.returns⟩

/-- Where the ends are the same, so are the connections. -/
theorem connection? (h : s.SameEnds t) (c : ConnectionId) :
    t.connection? c = s.connection? c := by
  rw [State.connection?, State.connection?, h.connections]

/-- States with the same ends have the same physical connections
discarded. -/
theorem isDiscarded (h : s.SameEnds t) (x : PhysicalId) :
    t.isDiscarded x = s.isDiscarded x := by
  rw [State.isDiscarded, State.isDiscarded, State.physical?,
    State.physical?, h.physicals]

/-- States with the same ends have the same terminals. -/
theorem terminalOf (h : s.SameEnds t) (c : ConnectionId) :
    t.terminalOf c = s.terminalOf c := by
  rw [State.terminalOf, State.terminalOf, h.connection?]

/-- A terminal is closed in both states or in neither. -/
theorem isClosedTerminal (h : s.SameEnds t) (e : Terminal) :
    t.isClosedTerminal e = s.isClosedTerminal e := by
  rw [State.isClosedTerminal, State.isClosedTerminal]
  congr 1
  split
  · exact h.isDiscarded _
  · rfl

/-- States with the same ends have the same connections closed. -/
theorem isClosedConnection (h : s.SameEnds t) (c : ConnectionId) :
    t.isClosedConnection c = s.isClosedConnection c := by
  rw [State.isClosedConnection, State.isClosedConnection, h.connection?]
  cases s.connection? c with
  | none => rfl
  | some x => exact h.isClosedTerminal x.terminal

end State.SameEnds

/-- The reach of acts that do not get to the ends of the chains. -/
def Reach.inside : Reach := ⟨False, fun _ => True, fun _ => True⟩

/-- Changes of that reach leave the ends as they are. -/
theorem State.Changes.sameEnds (h : s.Changes .inside t) : s.SameEnds t :=
  h.preserves (fun {t u} hc ht => by
    cases hc with
    | ends connections physicals returns hends => exact hends.elim
    | _ => exact ht.trans ⟨rfl, rfl, rfl⟩) (.refl s)

namespace Act

variable {α : Type} {cop : ConnectionOp}

/-- An act that does not get to the ends of the chains leaves them as they
are, whether it fails or not. -/
theorem sameEnds {x : Act α} (h : Changes .inside x) (s : State) :
    s.SameEnds (x.run s).2 :=
  (h s).sameEnds

/-- Only closing gets to the end of a chain. -/
theorem asks_inside (c : ConnectionId) (hop : cop ≠ .close) :
    Asks .inside c cop :=
  ⟨fun _ _ => trivial, fun h => absurd h hop, fun h => absurd h hop⟩

/-- A text before the SQL makes no closing of another operation. -/
theorem prepend_ne_close {text : String} (hop : cop ≠ .close) :
    cop.prepend text ≠ .close := by
  cases cop with
  | close => exact absurd rfl hop
  | _ => exact fun he => by cases he

/-- Nothing but closing gets to the ends of the chains. -/
theorem changes_askLinks_inside (c : ConnectionId) (links : List Link)
    (hop : cop ≠ .close) : Changes .inside (askLinks c links cop) :=
  changes_askLinks c links cop (asks_inside c hop)

/-- Whatever is asked of a connection but to close, the ends of the
chains stay as they are. -/
theorem sameEnds_invokeOp (c : ConnectionId) (hop : cop ≠ .close)
    (s : State) : s.SameEnds ((invokeOp c cop).run s).2 :=
  sameEnds (changes_invokeOp c (asks_inside c hop)) s

end Act
end PooledChain
