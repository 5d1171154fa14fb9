/-
The names of a party, and its steps.

A caller has a seat (`Seat`): the name of its connection, the name of the
physical connection, and the names that are its own to give to
statements. It takes the steps that are about these (`Step.isOf`). A
session hosts the caller as it is alone (`Session.Hosts`) if its state
does so and the caller's names stand for the same in both sessions, up to
the pairing.

Whatever act a step of the caller comes down to, it ends alike in the two
sessions (`Session.Hosts.perform`): with the same reply, and hosted as
before; and it leaves alone what has a name that is another's
(`Session.Minds`).
-/
import PooledChain.Proofs.Company.Events
import PooledChain.Proofs.Heap.Asking

namespace PooledChain

open Pairing (Equal OnLayers)

/-- The names by which a caller knows what is his own. -/
structure Seat where
  /-- His connection. -/
  connection : String
  /-- The physical connection that is lent to him. -/
  physical : String
  /-- Which names are the caller's to give to statements. -/
  owns : String → Bool

/-- Whether two callers have no name in common, and every statement's name
is one of theirs. -/
structure Seat.Apart (j k : Seat) : Prop where
  connection : j.connection ≠ k.connection
  physical : j.physical ≠ k.physical
  owns : ∀ name, k.owns name = !j.owns name

theorem Seat.Apart.symm {j k : Seat} (h : j.Apart k) : k.Apart j :=
  ⟨h.connection.symm, h.physical.symm, fun name => by
    rw [h.owns, Bool.not_not]⟩

-- ================================================================ steps

/-- Whether a step on a connection gives a name of the caller's, if any,
and is not the end of a pool. -/
def ConnectionStep.suits (k : Seat) : ConnectionStep → Bool
  | poolClosed => false
  | create _ name => k.owns name
  | invoke _ name => k.owns name
  | _ => true

/-- Whether a step is about the physical connection alone. -/
def PoolStep.isLocal : PoolStep → Bool
  | close _ => false
  | _ => true

/-- Whether a step is one of the caller's. -/
def Step.isOf (k : Seat) : Step → Bool
  | dropConnection name => name == k.connection
  | dropStatement name => k.owns name
  | sameStatement a b => k.owns a && k.owns b
  | nameStatement a b => k.owns a && k.owns b
  | onStatement name step => k.owns name && step.isOrdinary
  | onPool _ physical step => physical == k.physical && step.isLocal
  | onConnection _ physical name step =>
    name == k.connection && physical == k.physical && step.suits k
  | _ => false

/-- Whether a step tells the driver what to do. -/
def Step.isScript : Step → Bool
  | instruct _ => true
  | addRule _ => true
  | clearRules => true
  | _ => false

-- ================================================================ names

/-- Taking some names away leaves the look-up of the others. -/
theorem lookup_filter {α : Type} (l : List (String × α)) {f : String → Bool}
    {name : String} (h : f name = true) :
    (l.filter fun e => f e.1).lookup name = l.lookup name := by
  induction l with
  | nil => rfl
  | cons e rest ih =>
      rw [List.filter_cons, List.lookup_cons]
      by_cases he : name = e.1
      · rw [if_pos (he ▸ h), List.lookup_cons, beq_iff_eq.2 he]
      · rw [beq_eq_false_iff_ne.2 he]
        split
        · rw [List.lookup_cons, beq_eq_false_iff_ne.2 he, ih]
        · exact ih

/-- The name of an object that nothing else can have. -/
theorem nameOf_eq_lookup {names : List (String × Nat)} {name : String}
    {i : Nat} (h : ∀ {n c}, (n, c) ∈ names → (n = name ↔ c = i)) :
    nameOf names i = (names.lookup name).map fun _ => name := by
  induction names with
  | nil => rfl
  | cons e rest ih =>
      obtain ⟨n, c⟩ := e
      have hrest := ih fun hin => h (List.mem_cons_of_mem _ hin)
      have hfirst := h List.mem_cons_self
      unfold nameOf at hrest ⊢
      rw [List.find?_cons, List.lookup_cons]
      by_cases hc : c = i
      · rw [beq_iff_eq.2 hc, beq_iff_eq.2 (hfirst.2 hc).symm]
        exact congrArg some (hfirst.2 hc)
      · rw [beq_eq_false_iff_ne.2 hc,
          beq_eq_false_iff_ne.2 fun hn => hc (hfirst.1 hn.symm)]
        exact hrest

/-- Names that are not the caller's stay when one of the caller's goes. -/
theorem filter_others {α : Type} (l : List (String × α)) {f : String → Bool}
    {name : String} (h : f name = true) :
    ((l.filter fun e => e.1 != name).filter fun e => !f e.1)
      = l.filter fun e => !f e.1 := by
  rw [List.filter_filter]
  refine List.filter_congr fun e _ => ?_
  by_cases he : e.1 = name
  · rw [he, h, Bool.not_true, Bool.false_and]
  · rw [bne_iff_ne.2 he, Bool.and_true]

/-- A name of the caller's goes on both sides. -/
theorem forall₂_filter_own {w : Pairing} {l l' : List (String × LayerId)}
    {f : String → Bool}
    (h : List.Forall₂ w.OnEntries (l.filter fun e => f e.1) l')
    (name : String) :
    List.Forall₂ w.OnEntries
      ((l.filter fun e => e.1 != name).filter fun e => f e.1)
      (l'.filter fun e => e.1 != name) := by
  have hrest := forall₂_filter h (· != name)
  rw [List.filter_filter] at hrest ⊢
  simp only [Bool.and_comm (f _)]
  exact hrest

-- ============================================================= sessions

namespace Session

variable {j k : Seat} {p q : Party} {w w' w'' v v' : Pairing}
  {s s' t t' u : Session} {a b : LayerId}

/-- Whether the caller is in `s` as it is in `t`. -/
structure Hosts (k : Seat) (p : Party) (w : Pairing) (s t : Session) :
    Prop where
  state : s.state.Hosts p w t.state
  statements : List.Forall₂ w.OnEntries
    (s.statements.filter fun e => k.owns e.1) t.statements
  pools : s.pools = t.pools
  physicals : s.physicals = t.physicals
  physical : t.physicals.lookup k.physical = some p.physical
  connection : s.connections.lookup k.connection
    = t.connections.lookup k.connection
  /-- The connection has one name, and the name stands for nothing
  else. -/
  called : ∀ {name c}, (name, c) ∈ s.connections ∨ (name, c) ∈ t.connections →
    (name = k.connection ↔ c = p.connection)

/-- Whether on the way from `s` to `s'` nothing was touched but what is
the caller's. -/
structure Minds (k : Seat) (p : Party) (w w' : Pairing) (s s' : Session) :
    Prop where
  state : s.state.Minds p w w' s'.state
  statements : (s'.statements.filter fun e => !k.owns e.1)
    = s.statements.filter fun e => !k.owns e.1
  others : (s'.connections.filter fun e => e.1 != k.connection)
    = s.connections.filter fun e => e.1 != k.connection
  connections : s'.connections ⊆ s.connections
  pools : s'.pools = s.pools
  physicals : s'.physicals = s.physicals

theorem Minds.trans (h₁ : s.Minds k p w w' s') (h₂ : s'.Minds k p w' w'' u) :
    s.Minds k p w w'' u where
  state := h₁.state.trans h₂.state
  statements := h₂.statements.trans h₁.statements
  others := h₂.others.trans h₁.others
  connections := List.Subset.trans h₂.connections h₁.connections
  pools := h₂.pools.trans h₁.pools
  physicals := h₂.physicals.trans h₁.physicals

/-- Only the state has changed. -/
theorem Minds.of_state {x : State} (h : s.state.Minds p w w' x) :
    s.Minds k p w w' { s with state := x } :=
  ⟨h, rfl, rfl, fun _ h => h, rfl, rfl⟩

theorem Minds.refl (k : Seat) (p : Party) (w : Pairing) (s : Session) :
    s.Minds k p w w s := .of_state (.refl p w s.state)

namespace Hosts

theorem of_state (h : s.Hosts k p w t) {x y : State} (hxy : x.Hosts p w' y)
    (hw : w.layers ⊆ w'.layers) :
    { s with state := x }.Hosts k p w' { t with state := y } :=
  { h with
    state := hxy
    statements := h.statements.imp fun _ _ he => ⟨he.1, hw he.2⟩ }

/-- What another caller does while it minds its own business is not
noticed. -/
theorem aside (h : s.Hosts j p w t) (hm : s.Minds k q v v' s')
    (hjk : j.Apart k) (hpq : p.Distinct q) (hapart : w.Apart v) :
    s'.Hosts j p w t where
  state := h.state.aside hm.state hpq hapart
  statements := by
    have hsame := hm.statements
    simp only [hjk.owns, Bool.not_not] at hsame
    rw [hsame]
    exact h.statements
  pools := hm.pools.trans h.pools
  physicals := hm.physicals.trans h.physicals
  physical := h.physical
  connection := by
    have hne : (j.connection != k.connection) = true :=
      bne_iff_ne.2 hjk.connection
    rw [← lookup_filter s'.connections (f := (· != k.connection)) hne,
      hm.others, lookup_filter s.connections (f := (· != k.connection)) hne]
    exact h.connection
  called hin := h.called (hin.imp (hm.connections ·) fun h => h)

/-- The connection of the party has the same name in both sessions. -/
theorem nameOf_connection (h : s.Hosts k p w t) :
    nameOf s.connections p.connection = nameOf t.connections p.connection := by
  rw [nameOf_eq_lookup fun hin => h.called (.inl hin),
    nameOf_eq_lookup fun hin => h.called (.inr hin), h.connection]

/-- What a name of the caller stands for. -/
theorem lookup_statement (h : s.Hosts k p w t) {name : String}
    (hname : k.owns name = true) :
    Option.Rel w.OnLayers (s.statements.lookup name)
      (t.statements.lookup name) := by
  rw [← lookup_filter s.statements (f := k.owns) hname]
  exact forall₂_lookup h.statements name

/-- The name of his connection leads the caller to no other one. -/
theorem of_lookup (h : s.Hosts k p w t) {c : ConnectionId}
    (hc : t.connections.lookup k.connection = some c) : c = p.connection := by
  obtain ⟨l, l', hl, -⟩ := List.lookup_eq_some_iff.1 hc
  refine (h.called (.inr ?_)).1 rfl
  rw [hl]
  exact List.mem_append_right _ List.mem_cons_self

end Hosts

-- =========================================================== steps alike

/-- How a step of the caller ends in both sessions. -/
structure Ends (k : Seat) (p : Party) (w w' : Pairing) (s : Session)
    (r r' : Reply × Session) : Prop where
  minds : s.Minds k p w w' r.2
  hosts : r.2.Hosts k p w' r'.2
  reply : r.1 = r'.1

/-- Nothing has happened. -/
theorem Hosts.ends (h : s.Hosts k p w t) {r r' : Reply} (hr : r = r') :
    ∃ w', Ends k p w w' s (r, s) (r', t) :=
  ⟨w, .refl k p w s, h, hr⟩

variable {α β : Type} {V : Pairing → α → β → Prop}

/-- Acts in step, and what comes of their answers. -/
theorem Hosts.perform (h : s.Hosts k p w t) {x : Act α} {y : Act β}
    (hxy : x.InStep p V w y) {f : α → Session → Reply × Session}
    {g : β → Session → Reply × Session}
    (hfg : ∀ {w' a b s' t'}, w.Le w' → V w' a b → s'.Hosts k p w' t' →
      ∃ w'', Ends k p w' w'' s' (f a s') (g b t')) :
    ∃ w', Ends k p w w' s (s.perform x f) (t.perform y g) := by
  obtain ⟨w', hminds, hhosts, hanswers⟩ := hxy s.state t.state h.state
  rw [Session.perform, Session.perform]
  rcases hr : x.run s.state with ⟨r, s'⟩
  rcases hr' : y.run t.state with ⟨r', t'⟩
  rw [hr] at hminds hhosts hanswers
  rw [hr'] at hhosts hanswers
  have hafter := h.of_state hhosts hminds.le
  have hminded : s.Minds k p w w' { s with state := s' } := .of_state hminds
  cases hanswers with
  | error e => exact ⟨w', hminded, hafter, rfl⟩
  | ok hab =>
      obtain ⟨w'', hrest⟩ := hfg hminds.toLe hab hafter
      exact ⟨w'', hminded.trans hrest.minds, hrest.hosts, hrest.reply⟩

/-- Acts in step whose answers are all there is to say. -/
theorem Hosts.answer (h : s.Hosts k p w t) {x : Act α} {y : Act β}
    (hxy : x.InStep p V w y) {f : α → Reply} {g : β → Reply}
    (hfg : ∀ {w' a b}, w.Le w' → V w' a b → ∀ {s' t' : Session},
      s'.Hosts k p w' t' → f a = g b) :
    ∃ w', Ends k p w w' s (s.answer x f) (t.answer y g) :=
  h.perform hxy fun hw hab h' => h'.ends (hfg hw hab h')

/-- An act that keeps in step is answered alike in both sessions. -/
theorem Hosts.answer_equal (h : s.Hosts k p w t) {x y : Act α}
    (hxy : x.InStep p Equal w y) (f : α → Reply) :
    ∃ w', Ends k p w w' s (s.answer x f) (t.answer y f) :=
  h.answer hxy fun _ hab _ _ _ => congrArg f hab

/-- The layers of a pair get a name of the caller's. -/
theorem Hosts.storeStatement (h : s.Hosts k p w t) {name : String}
    (hname : k.owns name = true) (hab : (a, b) ∈ w.layers) {r r' : Reply}
    (hr : r = r') :
    ∃ w', Ends k p w w' s (r, s.storeStatement name a)
      (r', t.storeStatement name b) := by
  refine ⟨w, ⟨.refl p w s.state, ?_, rfl, fun _ h => h, rfl, rfl⟩,
    { h with statements := ?_ }, hr⟩
  · show ((name, a) :: s.statements.filter fun e => e.1 != name).filter _ = _
    rw [List.filter_cons_of_neg (by rw [hname]; exact Bool.false_ne_true),
      filter_others _ hname]
  · show List.Forall₂ _
      (((name, a) :: s.statements.filter fun e => e.1 != name).filter _)
      ((name, b) :: t.statements.filter fun e => e.1 != name)
    rw [List.filter_cons_of_pos (by exact hname)]
    exact .cons ⟨rfl, hab⟩ (forall₂_filter_own h.statements name)

end Session

end PooledChain
