/-
Connections do not interfere.

Two callers use connections of one factory on one driver, each checked
out on a physical connection of its own, from one pool or two. Whatever
they do, and in whatever order, each of them sees what it would see if
the other had never done anything (`unaffected_by_the_other`): the same
replies, and after each of its steps the same of its connection, its
caches, trackers and counters, its statements and its physical
connection. What the driver is told in between both hear. The driver's
own counters and the tables of statistics, which belong to nobody, are
not among what a caller sees (`Session.outlook`).

A run with both callers is followed together with the two runs in which
they are alone. At every point the session with both hosts either caller
as it is alone, and what it has is the one's or the other's
(`Session.Companions`). A step of one caller leaves the other hosted as
it was (`Companions.step`); and since what is cleared up after it was
that caller's, nothing has changed for the other.
-/
import PooledChain.Proofs.Company.Settling
import PooledChain.Proofs.Company.Steps
import PooledChain.Proofs.Heap.Listing
import PooledChain.Proofs.Heap.Use

namespace PooledChain

-- ==================================================== what a caller sees

/-- What a caller sees of what is its own. -/
structure Outlook where
  /-- Missing if there is no such connection. -/
  closed : Option Bool
  /-- How many statements each cache has parked, and their SQL. -/
  caches : List (Nat × List String)
  /-- How many open statements each tracker lists. -/
  tracked : List Nat
  /-- Statements made, closed, and still open, by each counter. -/
  counted : List (Nat × Nat × Nat)
  /-- Every statement that has a name of the caller's, and whether it is
  closed. -/
  statements : List (String × Bool)
  physical : Option Physical
  /-- The pools that the physical connection was returned to, once for
  each return. -/
  returned : List PoolId
  deriving DecidableEq, Repr, Inhabited

/-- The links of a connection, by their places. -/
def State.places (s : State) (c : ConnectionId) : List LinkId :=
  match s.connection? c with
  | none => []
  | some x => (List.range x.links.length).map fun place => ⟨c, place⟩

namespace Session

/-- The links of the caller's connection; those that are no caches have
nothing parked, and so on. -/
def places (s : Session) (k : Seat) : List LinkId :=
  match s.connections.lookup k.connection with
  | none => []
  | some c => s.state.places c

/-- What the caller with these names sees in a session. -/
def outlook (s : Session) (k : Seat) : Outlook where
  closed := (s.connections.lookup k.connection).map s.state.isClosedConnection
  caches := (s.places k).map s.state.cacheView
  tracked := (s.places k).map s.state.trackedCount
  counted := (s.places k).map s.state.counterView
  statements := (s.statements.filter fun e => k.owns e.1).map fun e =>
    (e.1, s.state.isClosed e.2)
  physical := (s.physicals.lookup k.physical).bind s.state.physical?
  returned := (s.state.returns.filter fun e =>
    s.physicals.lookup k.physical == some e.2).map (·.1)

/-- What a caller sees of a run: the reply to each of its steps, and what
it sees after it. -/
def transcript (k : Seat) : Session → List Step → List (Reply × Outlook)
  | _, [] => []
  | s, step :: rest =>
    let seen := transcript k (s.step step).2 rest
    if step.isOf k then
      ((s.step step).1, (s.step step).2.outlook k) :: seen
    else seen

variable {j k : Seat} {p q : Party} {w w' v v' : Pairing}
  {s s' t t' u : Session} {a b : LayerId} {turn : Step}

/-- The caller sees the reply to a step of its own, and what is so after
it. -/
theorem transcript_own (s : Session) (h : turn.isOf k = true)
    (rest : List Step) :
    s.transcript k (turn :: rest)
      = ((s.step turn).1, (s.step turn).2.outlook k)
        :: (s.step turn).2.transcript k rest := by
  rw [transcript, h]
  rfl

/-- Steps of others do not stand in the transcript. -/
theorem transcript_other (s : Session) (h : turn.isOf k = false)
    (rest : List Step) :
    s.transcript k (turn :: rest) = (s.step turn).2.transcript k rest := by
  rw [transcript, h]
  rfl

/-- The links of the caller's connection are in the same places. -/
theorem Hosts.places_eq (h : s.Hosts k p w t) : s.places k = t.places k := by
  rw [places, places, h.connection]
  cases hc : t.connections.lookup k.connection with
  | none => rfl
  | some c =>
      obtain rfl := h.of_lookup hc
      show s.state.places _ = t.state.places _
      rw [State.places, State.places, h.state.connection]

/-- The places are places of the party's connection. -/
theorem Hosts.of_places (h : s.Hosts k p w t) {i : LinkId}
    (hi : i ∈ t.places k) : i.connection = p.connection := by
  rw [places] at hi
  cases hc : t.connections.lookup k.connection with
  | none =>
      rw [hc] at hi
      cases hi
  | some c =>
      obtain rfl := h.of_lookup hc
      rw [hc] at hi
      simp only [State.places] at hi
      split at hi
      · cases hi
      · obtain ⟨place, -, rfl⟩ := List.mem_map.1 hi
        rfl

end Session

namespace State.Hosts

variable {p : Party} {w : Pairing} {s t : State} {k : LinkId}

/-- A cache of the caller's shows the same in both sessions. -/
theorem cacheView_eq (h : s.Hosts p w t) (hk : k.connection = p.connection) :
    s.cacheView k = t.cacheView k := by
  rw [cacheView, cacheView]
  rcases rel_cases (h.cache hk) with ⟨hs, ht⟩ | ⟨x, y, hs, ht, hxy⟩ <;>
    rw [hs, ht]
  simp only [hxy.size, hxy.texts]

/-- A tracker of the caller's lists as many statements in both sessions. -/
theorem trackedCount_eq (h : s.Hosts p w t)
    (hk : k.connection = p.connection) :
    s.trackedCount k = t.trackedCount k := by
  rw [trackedCount, trackedCount]
  rcases rel_cases (h.tracker hk) with ⟨hs, ht⟩ | ⟨x, y, hs, ht, hxy⟩ <;>
    rw [hs, ht]
  refine List.Forall₂.length_eq (R := w.OnEntries) ?_
  exact List.rel_filter (fun _ _ he => by simp only [h.isClosed he.2])
    hxy.entries

/-- A counter of the caller's has the same numbers in both sessions. -/
theorem counterView_eq (h : s.Hosts p w t)
    (hk : k.connection = p.connection) :
    s.counterView k = t.counterView k := by
  rw [counterView, counterView, h.counter hk]

end State.Hosts

namespace Session

variable {j k : Seat} {p q : Party} {w w' v v' : Pairing}
  {s s' t t' u : Session} {a b : LayerId} {turn : Step}

/-- The names of a caller stand for statements that are closed alike. -/
theorem Hosts.statements_eq (h : s.Hosts k p w t) :
    ((s.statements.filter fun e => k.owns e.1).map fun e =>
        (e.1, s.state.isClosed e.2))
      = t.statements.map fun e => (e.1, t.state.isClosed e.2) := by
  have hall := h.statements
  generalize s.statements.filter _ = l at hall ⊢
  generalize t.statements = l' at hall ⊢
  induction hall with
  | nil => rfl
  | cons he _ ih =>
      rw [List.map_cons, List.map_cons, he.1, h.state.isClosed he.2, ih]

/-- A caller that is alone is alone with its names. -/
theorem Hosts.owns (h : s.Hosts k p w t) {e : String × LayerId}
    (he : e ∈ t.statements) : k.owns e.1 = true := by
  obtain ⟨e', he', hsame⟩ := exists_of_forall₂ h.statements.flip he
  rw [← hsame.1]
  exact (List.mem_filter.1 he').2

/-- A caller sees what it sees when it is alone. -/
theorem Hosts.outlook_eq (h : s.Hosts k p w t) :
    s.outlook k = t.outlook k := by
  have hclosed : (s.connections.lookup k.connection).map
        s.state.isClosedConnection
      = (t.connections.lookup k.connection).map t.state.isClosedConnection := by
    rw [h.connection]
    cases hc : t.connections.lookup k.connection with
    | none => rfl
    | some c =>
        obtain rfl := h.of_lookup hc
        exact congrArg some h.state.isClosedConnection
  have hphysical := h.physicals ▸ h.physical
  unfold outlook
  rw [hclosed, h.places_eq, h.statements_eq, h.physical, hphysical,
    Option.bind_some, Option.bind_some, h.state.physical]
  have hreturns := h.state.returns
  have hswap : ∀ e : PoolId × PhysicalId,
      (some p.physical == some e.2) = (e.2 == p.physical) := fun e =>
    (Option.some_beq_some ..).trans (BEq.comm ..)
  simp only [hswap, hreturns]
  rw [List.filter_eq_self.2 fun e he => h.owns he]
  congr 1
  · exact List.map_congr_left fun i hi => h.state.cacheView_eq (h.of_places hi)
  · exact List.map_congr_left fun i hi =>
      h.state.trackedCount_eq (h.of_places hi)
  · exact List.map_congr_left fun i hi =>
      h.state.counterView_eq (h.of_places hi)

-- ============================================================ two callers

/-- Whether the session `s` hosts two callers, who are alone in `t` and in
`u`, and what it has is theirs. -/
structure Companions (j k : Seat) (p q : Party) (w v : Pairing)
    (s t u : Session) : Prop where
  seats : j.Apart k
  parties : p.Distinct q
  left : s.Hosts j p w t
  right : s.Hosts k q v u
  pairings : w.Apart v
  covers : ∀ {a}, a < s.state.layers.length →
    (∃ b, (a, b) ∈ w.layers) ∨ ∃ b, (a, b) ∈ v.layers

/-- A caller finds what it is to find when a step begins. -/
theorem Hosts.quiet (h : s.Hosts k p w t) : s.quiet.Hosts k p w t.quiet :=
  h.of_state (h.state.record _ _ _ _ _ _ _ _) fun _ h => h

theorem minds_quiet (k : Seat) (p : Party) (w : Pairing) (s : Session) :
    s.Minds k p w w s.quiet :=
  .of_state (.record p w s.state _ _ _ _)

/-- Of the layers of a pair both are held or neither. -/
theorem Companions.held_iff (h : Companions j k p q w v s t u)
    (hab : (a, b) ∈ w.layers) : a ∈ s.held ↔ b ∈ t.held := by
  constructor
  · intro ha
    obtain ⟨⟨name, _⟩, he, rfl⟩ := List.mem_map.1 ha
    cases hname : j.owns name with
    | true =>
        obtain ⟨⟨_, c⟩, hc, -, hac⟩ := exists_of_forall₂ h.left.statements
          (List.mem_filter.2 ⟨he, hname⟩)
        obtain rfl := (h.left.state.eq_iff hab hac).1 rfl
        exact List.mem_map.2 ⟨_, hc, rfl⟩
    | false =>
        have hother : k.owns name = true := by rw [h.seats.owns, hname]; rfl
        obtain ⟨⟨_, c⟩, -, -, hac⟩ := exists_of_forall₂ h.right.statements
          (List.mem_filter.2 ⟨he, hother⟩)
        exact absurd hac (h.pairings.layers hab)
  · intro hb
    obtain ⟨e, he, rfl⟩ := List.mem_map.1 hb
    obtain ⟨e', he', -, hac⟩ := exists_of_forall₂ h.left.statements.flip he
    obtain rfl := (h.left.state.eq_iff hab hac).2 rfl
    exact List.mem_map.2 ⟨e', (List.mem_filter.1 he').1, rfl⟩

namespace Companions

theorem symm (h : Companions j k p q w v s t u) :
    Companions k j q p v w s u t :=
  ⟨h.seats.symm, h.parties.symm, h.right, h.left, h.pairings.symm,
    fun ha => (h.covers ha).symm⟩

/-- Callers who share a session have their connections in the same state. -/
theorem company (h : Companions j k p q w v s t u) :
    Company p q w v s.state t.state u.state :=
  ⟨h.left.state, h.right.state, h.pairings, h.covers⟩

/-- One caller has done something, and has minded its own business. -/
theorem after (h : Companions j k p q w v s t u)
    (hm : s.Minds j p w w' s') (hh : s'.Hosts j p w' t') :
    Companions j k p q w' v s' t' u where
  seats := h.seats
  parties := h.parties
  left := hh
  right := h.right.aside hm h.seats.symm h.parties.symm h.pairings.symm
  pairings := (h.company.after h.parties hm.state hh.state).apart
  covers := (h.company.after h.parties hm.state hh.state).covers

/-- What is cleared up is the one's or the other's. -/
theorem settle (h : Companions j k p q w v s t u) (hs : s.scene.Sound)
    (ht : t.scene.Sound) (hu : u.scene.Sound) :
    ∃ w' v', Companions j k p q w' v' s.settle t.settle u.settle := by
  have hleft : ∀ {a b}, (a, b) ∈ w.layers →
      (a ∈ s.held ++ s.state.parked ↔ b ∈ t.held ++ t.state.parked) :=
    fun hab => by
      rw [List.mem_append, List.mem_append, h.held_iff hab,
        h.left.state.parked_iff hs.stocked ht.stocked hab]
  have hright : ∀ {a b}, (a, b) ∈ v.layers →
      (a ∈ s.held ++ s.state.parked ↔ b ∈ u.held ++ u.state.parked) :=
    fun hab => by
      rw [List.mem_append, List.mem_append, h.symm.held_iff hab,
        h.right.state.parked_iff hs.stocked hu.stocked hab]
  obtain ⟨ps, qs, hleft, hright, hapart, hcovers⟩ :=
    h.company.release h.parties hleft hright
  exact ⟨_, _, h.seats, h.parties, h.left.of_state hleft fun _ h => h,
    h.right.of_state hright fun _ h => h, hapart, hcovers⟩

end Companions

/-- There is nothing to clear up between two steps. -/
theorem Sound.settle_eq (h : s.Sound) : s.settle = s := by
  show { s with state := s.state.release s.held } = s
  rw [State.release_of_tidy h.tidy h.scene.formed]

/-- A session is sound before what nobody holds is released. -/
theorem Sound.act (h : s.Sound) (hord : turn.isOrdinary = true) :
    (s.quiet.act turn).2.scene.Sound :=
  (moves_act hord (sound_quiet h.scene) (suits_free s.quiet turn _)).sound
    (sound_quiet h.scene)

/-- The steps of a caller are ordinary ones. -/
theorem isOrdinary_of_isOf (h : turn.isOf k = true) :
    turn.isOrdinary = true := by
  cases turn with
  | onStatement name step => exact (Bool.and_eq_true_iff.1 h).2
  | _ => rfl

theorem isOrdinary_of_isScript (h : turn.isScript = true) :
    turn.isOrdinary = true := by
  cases turn with
  | onStatement => cases h
  | _ => rfl

namespace Companions

/-- A step of one caller: it is answered as if the caller were alone, and
the other has not noticed. -/
theorem step (h : Companions j k p q w v s t u) (hs : s.Sound) (ht : t.Sound)
    (hu : u.Sound) (hstep : turn.isOf j = true) :
    (s.step turn).1 = (t.step turn).1
      ∧ ∃ w' v', Companions j k p q w' v' (s.step turn).2 (t.step turn).2 u := by
  have hord := isOrdinary_of_isOf hstep
  obtain ⟨w', hminds, hhosts, hreply⟩ := h.left.quiet.act hstep
  have hafter := h.after ((minds_quiet j p w s).trans hminds) hhosts
  have hsettled := hafter.settle (hs.act hord) (ht.act hord) hu.scene
  rw [hu.settle_eq] at hsettled
  exact ⟨hreply, hsettled⟩

/-- What the driver is told, both callers hear. -/
theorem script (h : Companions j k p q w v s t u) (hs : s.Sound)
    (ht : t.Sound) (hu : u.Sound) (hstep : turn.isScript = true) :
    ∃ w' v', Companions j k p q w' v' (s.step turn).2 (t.step turn).2
      (u.step turn).2 := by
  have hord := isOrdinary_of_isScript hstep
  have htold : Companions j k p q w v (s.quiet.act turn).2
      (t.quiet.act turn).2 (u.quiet.act turn).2 :=
    ⟨h.seats, h.parties, h.left.quiet.script hstep,
      h.right.quiet.script hstep, h.pairings, fun ha => h.covers
        (by rwa [layers_script _ hstep] at ha)⟩
  exact htold.settle (hs.act hord) (ht.act hord) (hu.act hord)

end Companions

/-- A step is one caller's. -/
theorem isOf_ne (hjk : j.Apart k) (h : turn.isOf j = true) :
    turn.isOf k = false := by
  have hname : ∀ {name}, j.owns name = true → k.owns name = false :=
    fun hname => by rw [hjk.owns, hname]; rfl
  cases turn with
  | dropConnection name =>
      obtain rfl := beq_iff_eq.1 h
      exact beq_eq_false_iff_ne.2 hjk.connection
  | dropStatement name => exact hname h
  | sameStatement n m | nameStatement n m =>
      simp only [Step.isOf, hname (Bool.and_eq_true_iff.1 h).1, Bool.false_and]
  | onStatement name =>
      simp only [Step.isOf, hname (Bool.and_eq_true_iff.1 h).1, Bool.false_and]
  | onPool pool physical =>
      obtain rfl := beq_iff_eq.1 (Bool.and_eq_true_iff.1 h).1
      simp only [Step.isOf, beq_eq_false_iff_ne.2 hjk.physical, Bool.false_and]
  | onConnection pool physical name =>
      obtain rfl := beq_iff_eq.1
        (Bool.and_eq_true_iff.1 (Bool.and_eq_true_iff.1 h).1).1
      simp only [Step.isOf, beq_eq_false_iff_ne.2 hjk.connection,
        Bool.false_and]
  | _ => cases h

/-- A step that tells the driver what to do is nobody's. -/
theorem isScript_ne (h : turn.isScript = true) : turn.isOf k = false := by
  cases turn with
  | instruct | addRule | clearRules => rfl
  | _ => cases h

/-- A run of two callers, and the run in which one of them is alone. -/
theorem Companions.transcript_eq (h : Companions j k p q w v s t u)
    (hs : s.Sound) (ht : t.Sound) (hu : u.Sound) {steps : List Step}
    (hsteps : ∀ step ∈ steps, step.isOf j = true ∨ step.isOf k = true
      ∨ step.isScript = true) :
    t.transcript j (steps.filter fun step => !step.isOf k)
      = s.transcript j steps := by
  induction steps generalizing s t u w v with
  | nil => rfl
  | cons turn rest ih =>
      have hrest : ∀ step ∈ rest, step.isOf j = true ∨ step.isOf k = true
          ∨ step.isScript = true :=
        fun step hin => hsteps step (List.mem_cons_of_mem _ hin)
      rcases hsteps turn List.mem_cons_self with hj | hk | hscript
      · have hord := isOrdinary_of_isOf hj
        obtain ⟨hreply, w', v', hnext⟩ := h.step hs ht hu hj
        rw [List.filter_cons_of_pos (by rw [isOf_ne h.seats hj]; rfl),
          transcript_own t hj, transcript_own s hj, hreply,
          hnext.left.outlook_eq,
          ih hnext (hs.step hord) (ht.step hord) hu hrest]
      · have hord := isOrdinary_of_isOf hk
        obtain ⟨-, v', w', hnext⟩ := h.symm.step hs hu ht hk
        rw [List.filter_cons_of_neg (by rw [hk]; exact Bool.false_ne_true),
          transcript_other s (isOf_ne h.seats.symm hk),
          ih hnext.symm (hs.step hord) ht (hu.step hord) hrest]
      · have hord := isOrdinary_of_isScript hscript
        obtain ⟨w', v', hnext⟩ := h.script hs ht hu hscript
        rw [List.filter_cons_of_pos (by rw [isScript_ne hscript]; rfl),
          transcript_other t (isScript_ne hscript),
          transcript_other s (isScript_ne hscript),
          ih hnext (hs.step hord) (ht.step hord) (hu.step hord) hrest]

-- ======================================================== the beginning

/-- Whether a caller's connection is there, and has not been on another
physical connection than the caller's. -/
structure Ready (k : Seat) (p : Party) (s : Session) : Prop where
  physical : s.physicals.lookup k.physical = some p.physical
  behind : ∃ x, s.state.physical? p.physical = some x ∧ x.native = p.native
  attached : ∀ {x e}, s.state.connection? p.connection = some x →
    x.terminal.attachment = some e → e.physical = p.physical
  called : ∀ {name c}, (name, c) ∈ s.connections →
    (name = k.connection ↔ c = p.connection)

/-- A caller who has made no statements yet. -/
theorem Ready.hosts (h : s.Ready k p) (hs : s.Sound)
    (hl : s.state.layers = []) : s.Hosts k p ⟨[], []⟩ s := by
  have hnone : ∀ a, s.state.layer? a = none := fun a => by
    rw [State.layer?, hl]
    rfl
  have hheld : s.statements = [] := by
    refine List.eq_nil_iff_forall_not_mem.2 fun e he => ?_
    refine hs.scene.owned.living (.inl (List.mem_map.2 ⟨e, he, rfl⟩)) ?_
    exact State.core_of_le (s := s.state) (by rw [hl]; exact Nat.zero_le _)
  refine
    { state := ?_
      statements := by rw [hheld]; exact .nil
      pools := rfl
      physicals := rfl
      physical := h.physical
      connection := rfl
      called := fun hin => hin.elim h.called h.called }
  exact
    { native := ⟨.nil, rfl, rfl, fun hin => (List.not_mem_nil hin).elim⟩
      ascending := .nil
      all := fun hb => by rw [hl] at hb; cases hb
      layer := fun hin => (List.not_mem_nil hin).elim
      physical := rfl
      behind := h.behind
      connection := rfl
      attached := h.attached
      cache := fun {i} _ => by
        cases hi : s.state.caches.get? i with
        | none => exact .none
        | some x =>
            have hempty : x.entries = [] := by
              refine List.eq_nil_iff_forall_not_mem.2 fun e he => ?_
              obtain ⟨l, d, hlayer, -⟩ :=
                (hs.scene.stocked.shelved (Keyed.mem_of_get? hi)).entry he
              cases (hnone e.2).symm.trans hlayer
            exact .some ⟨rfl, rfl, by rw [hempty]; exact .nil⟩
      tracker := fun {i} _ => by
        cases hi : s.state.trackers.get? i with
        | none => exact .none
        | some x =>
            have hempty : x.entries = [] := by
              refine List.eq_nil_iff_forall_not_mem.2 fun e he => ?_
              have hlt : e.2 < s.state.layers.length :=
                (hs.scene.listed ⟨x, Keyed.mem_of_get? hi, he⟩).1
              rw [hl] at hlt
              cases hlt
            exact .some ⟨by rw [hempty]; exact .nil, rfl⟩
      recorder := fun _ => rfl
      counter := fun _ => rfl
      returns := rfl }

/-- Two callers whose connections are ready, and of whom none has a
statement yet, share the session with nothing paired. -/
theorem companions_start (hjk : j.Apart k) (hpq : p.Distinct q)
    (hj : s.Ready j p) (hk : s.Ready k q) (hs : s.Sound)
    (hl : s.state.layers = []) :
    Companions j k p q ⟨[], []⟩ ⟨[], []⟩ s s s where
  seats := hjk
  parties := hpq
  left := hj.hosts hs hl
  right := hk.hosts hs hl
  pairings := ⟨nofun, nofun⟩
  covers ha := by
    rw [hl] at ha
    cases ha

/-- A new connection comes last, and only its links have caches, trackers
and counters started for them. -/
theorem newConnection_eq (s : Session) (name : String) (links : List Link)
    (h : s.connections.lookup name = none) :
    ∃ caches trackers counters, s.newConnection name links
      = { s with
          state := { s.state with
            connections := s.state.connections ++ [some { links }]
            caches, trackers, counters }
          connections := (name, s.state.connections.length)
            :: s.connections } := by
  obtain ⟨caches, trackers, counters, hinstalled⟩ :=
    installLinks_eq s.state.connections.length { s.state with
      connections := s.state.connections ++ [some { links }] } links
  refine ⟨caches, trackers, counters, ?_⟩
  unfold newConnection State.newConnection dropConnection
  simp only [hinstalled, h]

/-- One driver, two pools with a physical connection each, and two
connections. -/
def opening (links links' : List Link) (guarded : Bool) : Session :=
  (((start links guarded false).newPool "p1").newPhysical "x1").newConnection
    "c1" links'

/-- The callers of the two connections. The statements with some of the
names are the first one's, all others are the second one's. -/
def seat (mine : String → Bool) (second : Bool) : Seat where
  connection := bif second then "c1" else "c0"
  physical := bif second then "x1" else "x0"
  owns name := mine name != second

/-- The connections of the two callers, with what they are lent. -/
def party (second : Bool) : Party where
  connection := second.toNat
  physical := second.toNat
  native := second.toNat + 1

variable (links links' : List Link) (guarded : Bool) (mine : String → Bool)

/-- The opening with any two chains differs from that with none in the
chains, and in what their links start with. -/
theorem opening_eq : ∃ caches trackers counters,
    opening links links' guarded
      = { (opening [] [] guarded) with
          state := { (opening [] [] guarded).state with
            connections := [some { links }, some { links := links' }]
            caches, trackers, counters } } := by
  have hfirst : ∃ caches trackers counters, start links guarded false = _ :=
    newConnection_eq _ "c0" links rfl
  obtain ⟨x, y, z, hfirst⟩ := hfirst
  have hsecond := newConnection_eq
    (((start links guarded false).newPool "p1").newPhysical "x1") "c1" links' rfl
  rw [hfirst] at hsecond
  obtain ⟨x, y, z, hsecond⟩ := hsecond
  refine ⟨x, y, z, ?_⟩
  unfold opening
  rw [hfirst, hsecond]
  rfl

/-- No layer is there at the opening. -/
theorem layers_opening : (opening links links' guarded).state.layers = [] := by
  obtain ⟨x, y, z, h⟩ := opening_eq links links' guarded
  rw [h]
  rfl

/-- The opening is sound. -/
theorem sound_opening : (opening links links' guarded).Sound := by
  have hact : ∀ {s : Session} (step : Step), step.isOrdinary = true →
      s.scene.Sound → (s.act step).2.scene.Sound := fun {s} step hord h =>
    (moves_act hord h (suits_free s step _)).sound h
  have hmade : ∀ links : List Link,
      LinkSpec.links (links.map .made) = .ok links := by
    intro links
    induction links with
    | nil => rfl
    | cons link rest ih =>
        rw [List.map_cons, LinkSpec.links, ih]
        rfl
  have hready := hact (.newPhysical "x1") rfl (hact (.newPool "p1") rfl
    (sound_start links guarded false).scene)
  have hopened := hact (.newConnection "c1" (.listed (links'.map .made))) rfl
    hready
  simp only [act, ChainSpec.links, hmade] at hopened
  refine ⟨hopened, fun {a} ha => ?_⟩
  have hlt := State.lt_of_core ha
  rw [layers_opening] at hlt
  cases hlt

/-- Each caller's connection is ready at the opening. -/
theorem ready_opening (i : Bool) :
    (opening links links' guarded).Ready (seat mine i) (party i) := by
  obtain ⟨x, y, z, h⟩ := opening_eq links links' guarded
  have hcalled : ∀ i : Bool, ∀ e ∈ [("c1", 1), ("c0", 0)],
      e.1 = (bif i then "c1" else "c0") ↔ e.2 = i.toNat := by decide
  rw [h]
  refine ⟨?_, ?_, fun {x e} hx he => ?_, fun hin => hcalled i _ hin⟩
  · cases i <;> rfl
  · cases i <;> exact ⟨_, rfl, rfl⟩
  · cases i <;> cases hx <;> cases he

/-- The two callers have no name in common. -/
theorem seats_apart (i : Bool) : (seat mine i).Apart (seat mine !i) := by
  have hnames : ∀ i : Bool, ((bif i then "c1" else "c0")
      ≠ bif !i then "c1" else "c0") ∧ (bif i then "x1" else "x0")
      ≠ bif !i then "x1" else "x0" := by decide
  refine ⟨(hnames i).1, (hnames i).2, fun name => ?_⟩
  show (mine name != !i) = !(mine name != i)
  cases mine name <;> cases i <;> rfl

theorem parties_distinct (i : Bool) : (party i).Distinct (party !i) := by
  cases i <;> exact ⟨by decide, by decide, by decide⟩

/-- Either caller sees of a run what it sees of the run without the
other's steps. -/
theorem unaffected_by_the_other (i : Bool) {steps : List Step}
    (h : ∀ step ∈ steps, step.isOf (seat mine false) = true
      ∨ step.isOf (seat mine true) = true ∨ step.isScript = true) :
    (opening links links' guarded).transcript (seat mine i)
        (steps.filter fun step => !step.isOf (seat mine !i))
      = (opening links links' guarded).transcript (seat mine i) steps := by
  have hsound := sound_opening links links' guarded
  refine (companions_start (seats_apart mine i) (parties_distinct i)
    (ready_opening links links' guarded mine i)
    (ready_opening links links' guarded mine !i) hsound
    (layers_opening links links' guarded)).transcript_eq hsound hsound hsound
    fun step hin => ?_
  cases i with
  | false => exact h step hin
  | true =>
      rcases h step hin with h | h | h
      · exact .inr (.inl h)
      · exact .inl h
      · exact .inr (.inr h)

/-- Both callers prepare the same text. The second one parks its statement
and loses its physical connection; the first one parks its own and gets it
again. -/
theorem same_text_in_both_caches :
    let mine : String → Bool := (· == "a")
    let first := opening [.cache .standard] [.cache .standard, .leakTracker]
      false
    let turns : List Step :=
      [.onConnection "p0" "x0" "c0" .checkOut,
       .onConnection "p1" "x1" "c1" .checkOut,
       .onConnection "p0" "x0" "c0" (.create (.prepareStatement "q") "a"),
       .onConnection "p1" "x1" "c1" (.create (.prepareStatement "q") "b"),
       .instruct (.failPrepare "q"),
       .onStatement "b" (.call .close),
       .onStatement "a" (.call .close),
       .onConnection "p1" "x1" "c1" .discard,
       .onConnection "p0" "x0" "c0" (.create (.prepareStatement "q") "a")]
    (∀ step ∈ turns, step.isOf (seat mine false) = true
      ∨ step.isOf (seat mine true) = true ∨ step.isScript = true)
    ∧ first.transcript (seat mine false)
        (turns.filter fun step => !step.isOf (seat mine true))
      = first.transcript (seat mine false) turns
    ∧ (first.transcript (seat mine false) turns).map (fun e =>
        (e.1, e.2.caches))
      = [(.unit, [(0, [])]), (.unit, [(0, [])]), (.unit, [(1, ["q"])]),
         (.unit, [(0, [])])] :=
  ⟨by decide, unaffected_by_the_other _ _ _ _ false (by decide),
    by decide +kernel⟩

end Session

end PooledChain
