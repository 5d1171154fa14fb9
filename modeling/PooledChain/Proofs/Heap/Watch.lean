/-
Where the lists of trackers begin, and how a handle gets onto one.

The trackers of a connection are set up with empty lists when the
connection is made (`Session.blanks_newConnection`), and each turn of the
loan of the connection empties them again (`Session.blanks_turn`).

A statement that is created under a tracker gets a facade of the tracker,
which is listed, and if no link above the tracker hands out statements of
its own, every handle that the connection hands out lies over such a
facade that is new (`Session.Grants.exists_tracked`).
-/
import PooledChain.Proofs.Heap.Closing
import PooledChain.Proofs.Heap.Footprint
import PooledChain.Proofs.Heap.Lone

namespace PooledChain

open Scene (Sound)
open State (TrackedBy)

/-- Whether a link answers operations in place of the links below it. -/
def Link.isAnswering : Link → Bool
  | answering _ => true
  | _ => false

/-- A link that answers nothing itself passes everything on. -/
theorem Link.passes_of_not_answering {link : Link}
    (h : link.isAnswering = false) (op : ConnectionOp) :
    link.passes op = true := by
  cases link with
  | answering => cases h
  | _ => rfl

/-- If it is no cache either it leaves all answers to the links below. -/
theorem Link.defers_of_not_answering {link : Link}
    (h : link.isAnswering = false) (hc : link.isCache = false)
    (op : ConnectionOp) : link.defers op = true := by
  cases link with
  | answering => cases h
  | cache => cases hc
  | _ => rfl

-- ======================================================= getting listed

namespace Act

variable {s t : State} {held loose : List LayerId} {c : ConnectionId}
  {k : LinkId} {tr : Tracker} {above below : List Link}
  {op : ConnectionOp} {kind : StatementKind}

/-- A tracker puts its next facade around a statement, and lists it. -/
theorem run_decorate_tracker (hk : s.trackers.get? k = some tr)
    (kind : StatementKind) (sql : Option String) (d : LayerId) :
    (decorate .leakTracker k kind sql d).run s
      = (.ok s.layers.length, s.enlist k tr
          (facadeOf k kind sql d (.tracked k tr.next))) := by
  have hrun : (behaviour? .leakTracker k kind sql s.layers.length).run s
      = (.ok (some (.tracked k tr.next)), { s with
          trackers := s.trackers.set k (tr.listing s.layers.length) }) := by
    unfold behaviour?
    rw [run_bind, run_get]
    simp only
    rw [hk]
    rfl
  unfold decorate
  rw [run_bind, run_get]
  simp only
  rw [run_bind, hrun]
  rfl

/-- What comes up through a tracker lies over a new facade of the tracker,
if the links above leave it to those below to create statements. -/
theorem tracked_askLinks (h : Sound ⟨s, held, none, loose⟩)
    (hn : s.Numbered ⟨c, below.length⟩ tr) (hk : op.creates? = some kind)
    (habove : ∀ link ∈ above, link.defers op = true) {a : LayerId}
    (hr : (askLinks c (above ++ .leakTracker :: below) op).run s
      = (.ok (.statement a), t)) :
    ∃ f n, s.layers.length ≤ f ∧ t.Over a f
      ∧ TrackedBy ⟨c, below.length⟩ n (t.core f) := by
  obtain ⟨s', halike, htrackers, hd⟩ :=
    dresses_askLinks c (.leakTracker :: below) hk habove s
  have hk' : (reaching above op).creates? = some kind := by
    rw [creates?_reaching]
    exact hk
  rw [hr] at hd
  rcases hinner : (askLinks c (.leakTracker :: below)
    (reaching above op)).run s' with ⟨r, u⟩
  rw [hinner] at hd
  cases hd with
  | other _ hno _ => cases hno
  | @statement _ _ d _ hdressed =>
      have hlink : Link.leakTracker.decorates.contains kind = true := by
        cases kind <;> rfl
      obtain ⟨e, w, hbelow, hdecorate⟩ := exists_decorated hk' hlink hinner
      have hs' : Sound ⟨s', held, none, loose⟩ :=
        h.aside (g := false) (.of_alike halike)
      have hasks : AsksBelow (.free false) ⟨c, below.length⟩
          (askLinks c below) := asked_askLinks c False.elim
      have hask := hasks s' held loose (reaching above op) hs' (fun _ _ => trivial)
        fun _ => trivial
      have hchanges := changes_askLinks (p := ⟨True, fun _ => True,
        fun _ => True⟩) c below (reaching above op)
        ⟨fun _ _ => trivial, fun _ _ => trivial, fun _ => trivial⟩ s'
      rw [hbelow] at hask hchanges
      have hle : s.layers.length ≤ w.layers.length := by
        rw [← halike.layers]
        exact hask.moves.length_le
      obtain ⟨tr', htr'⟩ := hchanges.tends
        (hn.of_layers (by rw [htrackers]; exact hn.found) halike.layers)
      rw [run_decorate_tracker htr'.numbered.found] at hdecorate
      cases hdecorate
      refine ⟨_, tr'.next, hle, hdressed.wraps.over, ?_⟩
      have hlt : w.layers.length < (w.enlist ⟨c, below.length⟩ tr' (facadeOf
          ⟨c, below.length⟩ kind (reaching above op).sql? e
          (.tracked ⟨c, below.length⟩ tr'.next))).layers.length := by
        show _ < (w.layers ++ [_]).length
        rw [List.length_append]
        exact Nat.lt_succ_self _
      rw [hdressed.core hlt]
      refine ⟨⟨below.length + 1, some e, false, _⟩, ?_, rfl⟩
      show (w.addLayer _).2.core w.layers.length = _
      rw [State.core_addLayer_new]
      rfl

end Act

namespace State

variable {s : State} {i : ConnectionId} {k : LinkId} {links : List Link}

-- ============================================================ setting up

/-- Links set up no tracker but their own. -/
theorem trackers_installLinks (hk : k.connection = i → links.length ≤ k.place)
    (s : State) :
    (installLinks i s links).trackers.get? k = s.trackers.get? k := by
  induction links generalizing s with
  | nil => rfl
  | cons link rest ih =>
      rw [installLinks, ih fun hi => Nat.le_of_succ_le (hk hi)]
      have hne : k ≠ ⟨i, rest.length⟩ := by
        rintro rfl
        exact Nat.lt_irrefl _ (hk rfl)
      cases link with
      | leakTracker =>
          show (s.trackers.set _ _).get? k = _
          rw [Keyed.get?_set, if_neg hne]
      | cache config =>
          rw [installLink]
          split <;> rfl
      | counter => rfl
      | _ => rfl

/-- The trackers of a chain that is set up list nothing. -/
theorem tracker_installLinks {above below : List Link} (s : State) :
    (installLinks i s (above ++ .leakTracker :: below)).trackers.get?
      ⟨i, below.length⟩ = some {} := by
  induction above generalizing s with
  | nil =>
      rw [List.nil_append, installLinks, trackers_installLinks fun _ =>
        Nat.le_refl _]
      show (s.trackers.set _ _).get? _ = _
      rw [Keyed.get?_set, if_pos rfl]
  | cons link rest ih => exact ih _

/-- What a connection that was not made before sets up, lists nothing. -/
theorem blanks_newConnection (s : State) (links : List Link)
    (htracked : ∀ {a k n}, TrackedBy k n (s.core a) →
      k.connection < s.connections.length) :
    (s.newConnection links).2.Blanks s.connections.length links := by
  refine ⟨fun {above below} he => ⟨{}, ?_, rfl⟩⟩
  have hlayers : (s.newConnection links).2.layers = s.layers :=
    Session.layers_installLinks ..
  have hno : ∀ {a n}, ¬ TrackedBy ⟨s.connections.length, below.length⟩ n
      ((s.newConnection links).2.core a) := fun {a n} ht => by
    rw [core_congr hlayers] at ht
    exact Nat.lt_irrefl _ (htracked (a := a) ht)
  subst he
  exact ⟨tracker_installLinks _, fun ht => absurd ht hno,
    fun ht => absurd ht hno,
    fun hl ht => absurd (by rw [core_eq_of_layer? hl]; exact ht) hno,
    fun ht _ => absurd ht hno, fun hin => (by cases hin), List.nodup_nil⟩

/-- The lists of a connection depend on its trackers and on the layers. -/
theorem Rosters.congr {t : State} {mark : Nat} (h : s.Rosters i links mark)
    (hl : t.layers = s.layers)
    (htr : ∀ place, t.trackers.get? ⟨i, place⟩ = s.trackers.get? ⟨i, place⟩) :
    t.Rosters i links mark := by
  refine ⟨fun {above below} he => ?_⟩
  obtain ⟨tr, hr⟩ := h.roster he
  refine ⟨tr, hr.toNumbered.of_layers ((htr _).trans hr.found) hl, ?_,
    hr.recent, fun {a f n} ha => ?_⟩
  · rw [hl]
    exact hr.known
  · rw [core_congr hl] at ha
    exact hr.complete ha

theorem Blanks.congr {t : State} (h : s.Blanks i links)
    (hl : t.layers = s.layers)
    (htr : ∀ place, t.trackers.get? ⟨i, place⟩ = s.trackers.get? ⟨i, place⟩) :
    t.Blanks i links := by
  refine ⟨fun {above below} he => ?_⟩
  obtain ⟨tr, hn, hnone⟩ := h.blank he
  exact ⟨tr, hn.of_layers ((htr _).trans hn.found) hl, hnone⟩

end State

namespace Session

variable {s : Session} {step : Step} {c : ConnectionId}
  {links : List Link} {mark : Nat}

/-- Dropping another connection leaves the trackers of this one. -/
theorem trackers_dropConnection {name : String}
    (hname : s.connections.lookup name ≠ some c) (place : Nat) :
    (s.dropConnection name).state.trackers.get? ⟨c, place⟩
      = s.state.trackers.get? ⟨c, place⟩ := by
  rw [dropConnection]
  cases hlookup : s.connections.lookup name with
  | none => rfl
  | some i =>
      have hne : c ≠ i := fun he => hname (by rw [hlookup, he])
      show (s.state.trackers.filter _).get? _ = _
      rw [Keyed.get?_filter, if_pos (by simpa using hne)]

-- ================================================================ turns

/-- Trackers that list nothing do so after the walk. -/
theorem blanks_release {s : State} (h : s.Blanks c links)
    (held : List LayerId) : (s.release held).Blanks c links :=
  h.changes (State.changes_release (p := ⟨False, fun _ => False,
    fun _ => False⟩) s held) fun _ => not_false

/-- A connection is told that a checkout begins or ends. -/
theorem blanks_tell {s : State} {x : Connection} {event : Event}
    (hx : s.connection? c = some x) (he : event.isTurn = true)
    (hr : s.Rosters c x.links mark) :
    ((Act.tell c event).run s).2.Blanks c x.links := by
  unfold Act.tell
  rw [Act.run_bind, Act.run_get]
  simp only
  rw [hx]
  exact Act.blanks_hearAll he hr

/-- In a turn of its loan a connection lets its trackers forget. -/
theorem blanks_onConnection {s : Session} {q : PoolId} {y : PhysicalId}
    {x : Connection} {cstep : ConnectionStep}
    (hx : s.state.connection? c = some x)
    (hpass : ∀ link ∈ x.links, link.passes .close = true)
    (hr : s.state.Rosters c x.links mark)
    (htells : ∀ link pool physical,
      cstep ≠ .attachLink link pool physical)
    (hturn : (cstep.turn? q y).isSome = true) :
    (s.onConnection q y c x cstep).2.state.Blanks c x.links := by
  cases hasked : cstep.asked? with
  | some op =>
      have hclose : op = .close := by
        cases cstep with
        | call | create | invoke | reshape =>
            simp only [ConnectionStep.turn?] at hturn
            rw [hasked] at hturn
            by_contra hne
            rw [if_neg fun he => hne (Option.some.inj he)] at hturn
            cases hturn
        | nativeNumber => cases hturn
        | _ => cases hasked
      subst hclose
      rw [(asks_onConnection (q := q) (y := y) (x := x) hasked).state,
        run_invokeOp hx]
      exact Act.blanks_askLinks hpass hr
  | none =>
      cases cstep with
      | checkOut =>
          rw [onConnection, state_answer]
          exact blanks_tell (s := s.state.modifyPhysical y _) hx rfl
            (hr.congr rfl fun _ => rfl)
      | checkIn | disconnect =>
          rw [onConnection, state_answer]
          exact blanks_tell hx rfl hr
      | discard =>
          rw [onConnection, state_answer]
          have hturn : (Event.disconnect (some q) y false).isTurn = true := rfl
          have htold := blanks_tell hx hturn hr
          have hchanges := Act.changes_discardPhysical (p := ⟨True,
            fun _ => False, fun _ => False⟩) y trivial
          unfold Act.discardConnection
          rw [Act.run_bind]
          rcases htell : (Act.tell c (.disconnect (some q) y false)).run
            s.state with ⟨e | a, t⟩
          · rw [htell] at htold
            exact htold
          · rw [htell] at htold
            exact htold.changes (hchanges t) fun _ hno => hno
      | attachLink => exact absurd rfl (htells _ _ _)
      | poolStarted | poolClosed | forceClose | describe => cases hturn
      | call | create | nativeNumber | invoke | reshape => cases hasked

/-- After a turn of its loan the trackers of a connection list nothing. -/
theorem blanks_turn {x : Connection} (hx : s.state.connection? c = some x)
    (hpass : ∀ link ∈ x.links, link.passes .close = true)
    (hr : s.state.Rosters c x.links mark) (htells : step.tellsAll = true)
    (hkeeps : step.keepsConnections = true)
    (hturn : (s.turn? c step).isSome = true) :
    (s.step step).2.state.Blanks c x.links := by
  refine blanks_release (s := (s.quiet.act step).2.state) ?_ _
  cases step with
  | onConnection pool physical name cstep =>
      cases htarget : s.target? pool physical name with
      | none =>
          rw [turn?, htarget] at hturn
          cases hturn
      | some found =>
          obtain ⟨q, y, d, z⟩ := found
          have hd : d = c := by
            by_contra hne
            rw [turn?, htarget] at hturn
            simp only [if_neg hne] at hturn
            cases hturn
          subst hd
          rw [turn?_of_target? htarget] at hturn
          have hz : s.state.connection? d = some z :=
            (lookup_of_target? htarget).2
          obtain rfl : x = z := Option.some.inj (hx.symm.trans hz)
          have htarget' : s.quiet.target? pool physical name
              = some (q, y, d, x) := htarget
          rw [act_of_target? htarget']
          exact blanks_onConnection (s := s.quiet) hx hpass
            (hr.congr rfl fun _ => rfl)
            (fun _ _ _ he => by subst he; cases htells) hturn
  | newConnection | dropConnection => cases hkeeps
  | _ => cases hturn

-- ===================================================== other steps

/-- Making and dropping other connections leaves the trackers of one that
stays as they are. -/
theorem trackers_act (hkeeps : step.keepsConnections = false)
    (hc : c < s.state.connections.length) {x : Connection}
    (hx : (s.act step).2.state.connection? c = some x) (place : Nat) :
    (s.act step).2.state.trackers.get? ⟨c, place⟩
      = s.state.trackers.get? ⟨c, place⟩ := by
  -- the name that is dropped is not that of the connection
  have hdrop : ∀ {t : Session} {name : String},
      (t.dropConnection name).state.connection? c = some x →
      (t.dropConnection name).state.trackers.get? ⟨c, place⟩
        = t.state.trackers.get? ⟨c, place⟩ := by
    intro t name ht
    refine trackers_dropConnection (fun hname => ?_) place
    rw [(connection?_dropConnection t c name).1, if_pos hname] at ht
    cases ht
  cases step with
  | newConnection name spec =>
      rw [act] at hx ⊢
      cases hspec : spec.links with
      | error e => rfl
      | ok links =>
          rw [hspec] at hx
          exact (hdrop hx).trans (State.trackers_installLinks
            (fun he => absurd he (Nat.ne_of_lt hc)) _)
  | dropConnection name => exact hdrop hx
  | _ => cases hkeeps

/-- A step that is no turn for a connection that stays leaves the lists
of its trackers complete. -/
theorem rosters_step (hord : step.isOrdinary = true)
    (htells : step.tellsAll = true) {x : Connection}
    (hc : c < s.state.connections.length)
    (hx : (s.step step).2.state.connection? c = some x)
    (hr : s.state.Rosters c links mark) (hturn : s.turn? c step = none) :
    (s.step step).2.state.Rosters c links mark := by
  cases hkeeps : step.keepsConnections with
  | true =>
      refine hr.changes (changes_step hord htells hkeeps) fun place _ hno => ?_
      have hsome : (s.turn? c step).isSome = true := hno
      rw [hturn] at hsome
      cases hsome
  | false =>
      have hx' : (s.quiet.act step).2.state.connection? c = some x := by
        rw [← hx]
        exact congrArg (fun l => (l[c]?).join)
          (State.connections_release _ _).symm
      refine State.Rosters.changes (hr.congr
        (layers_act (s := s.quiet) hkeeps)
        (trackers_act (s := s.quiet) hkeeps hc hx'))
        (State.changes_release (p := ⟨False, fun _ => False,
          fun _ => False⟩) _ _) fun _ _ hno => hno

/-- A connection that gets a name lists nothing. -/
theorem blanks_named (hnamed : s.Named)
    (htracked : ∀ {a k n}, TrackedBy k n (s.state.core a) →
      k.connection < s.state.connections.length)
    (hc : s.state.connections.length ≤ c) {name : String} (links : List Link) {x : Connection}
    (hx : (s.newConnection name links).state.connection? c = some x) :
    (s.newConnection name links).state.Blanks c x.links := by
  have hname : s.connections.lookup name ≠ some c := fun hname =>
    Nat.not_lt.2 hc (hnamed.lt_of_lookup hname)
  let t : Session := { s with state := (s.state.newConnection links).2 }
  have hdrop : (s.newConnection name links).state
      = (t.dropConnection name).state := rfl
  have hconn : t.state.connections
      = s.state.connections ++ [some ⟨links, {}⟩] :=
    State.connections_installLinks ..
  rw [hdrop, (connection?_dropConnection t c name).1, if_neg hname,
    State.connection?, hconn, List.getElem?_append_right hc] at hx
  have hlast : c = s.state.connections.length := by
    by_contra hne
    have hlt : 1 ≤ c - s.state.connections.length :=
      Nat.sub_pos_of_lt (Nat.lt_of_le_of_ne hc fun he => hne he.symm)
    rw [List.getElem?_eq_none hlt] at hx
    cases hx
  subst hlast
  rw [Nat.sub_self] at hx
  cases hx
  rw [hdrop]
  refine (State.blanks_newConnection s.state links htracked).congr ?_
    (trackers_dropConnection hname)
  rw [dropConnection]
  split <;> rfl

/-- A connection that a step makes lists nothing. -/
theorem blanks_made (h : s.Orderly) (hord : step.isOrdinary = true)
    (hc : s.state.connections.length ≤ c) {x : Connection}
    (hx : (s.step step).2.state.connection? c = some x) :
    (s.step step).2.state.Blanks c x.links := by
  have hnone : s.state.connection? c = none := by
    rw [State.connection?, List.getElem?_eq_none hc]
    rfl
  cases hkeeps : step.keepsConnections with
  | true =>
      obtain ⟨y, hy, -⟩ := (moves_setting h.sound hord hkeeps).links
        (.inl fun _ => id) hx
      cases hnone.symm.trans hy
  | false =>
      have hx' : (s.quiet.act step).2.state.connection? c = some x := by
        rw [← hx]
        exact congrArg (fun l => (l[c]?).join)
          (State.connections_release _ _).symm
      refine blanks_release (s := (s.quiet.act step).2.state) ?_ _
      cases step with
      | newConnection name spec =>
          rw [act] at hx' ⊢
          cases hspec : spec.links with
          | error e =>
              rw [hspec] at hx'
              cases hnone.symm.trans hx'
          | ok links =>
              rw [hspec] at hx'
              exact blanks_named (s := s.quiet)
                ⟨h.named.once, h.named.known⟩ h.tracked hc links hx'
      | dropConnection name =>
          have hx'' : (s.quiet.dropConnection name).state.connection? c
              = some x := hx'
          rw [(connection?_dropConnection s.quiet c name).1] at hx''
          split at hx''
          · cases hx''
          · cases hnone.symm.trans hx''
      | _ => cases hkeeps

-- ============================================================ handing out

/-- A handle that a connection hands out lies over a new facade of the
tracker, if the tracker is above all caches. -/
theorem Grants.exists_tracked {name handle : String} {op : ConnectionOp}
    (hg : s.Grants step name op handle) (h : s.Sound)
    {above below : List Link} {x : Connection} {tr : Tracker}
    (hname : s.connections.lookup name = some c)
    (hx : s.state.connection? c = some x)
    (hlinks : x.links = above ++ .leakTracker :: below)
    (hasks : ∀ link ∈ x.links, link.isAnswering = false)
    (habove : ∀ link ∈ above, link.isCache = false)
    (hn : s.state.Numbered ⟨c, below.length⟩ tr) {r : LayerId}
    (hr : (s.step step).2.statements.lookup handle = some r) :
    ∃ f n, s.state.layers.length ≤ f ∧ (s.step step).2.state.Over r f
      ∧ TrackedBy ⟨c, below.length⟩ n ((s.step step).2.state.core f) := by
  obtain ⟨c', x', a, t, hname', hx', hrun, ha, hkept⟩ := hg.exists_settled h
  obtain rfl : c = c' := Option.some.inj (hname.symm.trans hname')
  obtain rfl : x = x' := Option.some.inj (hx.symm.trans hx')
  obtain rfl : a = r := Option.some.inj (ha.symm.trans hr)
  have hquiet : Scene.Sound ⟨s.quiet.state, s.held, none, []⟩ :=
    sound_quiet h.scene
  have hbelow : Act.AsksBelow (.free false) ⟨c, x.links.length⟩
      (Act.askLinks c x.links) := Act.asked_askLinks c False.elim
  have hask := hbelow s.quiet.state s.held [] op hquiet (fun _ _ => trivial)
    fun _ => trivial
  rw [hrun] at hask
  obtain ⟨kind, hk⟩ := hask.creates rfl
  rw [hlinks] at hrun hasks
  obtain ⟨f, n, hle, hover, ht⟩ := Act.tracked_askLinks hquiet
    (hn.of_layers hn.found rfl) hk (fun link hin =>
      Link.defers_of_not_answering
        (hasks link (List.mem_append_left _ hin)) (habove link hin) op) hrun
  have hcore : ∀ y, t.Over a y →
      (s.step step).2.state.core y = t.core y := fun y hy =>
    State.core_congr_layer (hkept y hy)
  exact ⟨f, n, hle, hover.congr hcore, by rw [hcore f hover]; exact ht⟩

end Session

end PooledChain
