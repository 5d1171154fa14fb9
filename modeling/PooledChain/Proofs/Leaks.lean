/-
What a leak tracker knows, and what it closes.

A tracker that stands above all caches of its chain puts a facade around
every statement that its connection hands out, and lists it. The list is
emptied in each turn of the loan: when the connection is checked out,
checked in, told of a loss, or closed. So what is on the list and open
are the handles that were handed out since then and are open
(`Session.Watched`), each under its own facade. A handle of an earlier
checkout is on no list, and closing it late takes nothing off the list,
for every facade is listed under a number of its own.

When the connection is closed, the tracker closes what is on the list.
With it go the handles of this checkout and no others, and what they
stood on is closed, or parked by a cache below the tracker
(`leaks_are_closed`).
-/
import PooledChain.Proofs.Heap.Watch
import PooledChain.Proofs.Requests
import Mathlib.Combinatorics.Enumerative.DoubleCounting

namespace PooledChain

open Scene (Sound)
open State (TrackedBy)

namespace Session

variable {s t : Session} {step : Step} {c : ConnectionId} {r : LayerId}
  {above below : List Link} {x y : Connection} {mark : Nat}
  {l : List LayerId}

-- ========================================================== handing out

/-- The handle that a connection hands out in a step. -/
def handedBy? (s : Session) (c : ConnectionId) (step : Step) :
    Option LayerId :=
  if s.isOn c step then s.granted? step else none

/-- What a connection has handed out in a run since the last turn of its
loan of the sort `anew`; before the run that is `l`. -/
def handed (c : ConnectionId) (anew : Turn → Bool) :
    Session → List LayerId → List Step → List LayerId
  | _, l, [] => l
  | s, l, step :: rest =>
    handed c anew (s.step step).2
      (if (s.turn? c step).any anew then []
        else l ++ (s.handedBy? c step).toList) rest

/-- What is handed out in a longer run continues what was handed out
before. -/
theorem handed_append (anew : Turn → Bool) (s : Session) (l : List LayerId)
    (a b : List Step) :
    handed c anew s l (a ++ b)
      = handed c anew (s.run a) (handed c anew s l a) b := by
  induction a generalizing s l with
  | nil => rfl
  | cons step rest ih => exact ih _ _

/-- A step on a connection finds it by its name. -/
theorem lookup_of_isOn {pool physical name : String}
    {cstep : ConnectionStep}
    (h : s.isOn c (.onConnection pool physical name cstep) = true) :
    s.connections.lookup name = some c := by
  rw [isOn] at h
  exact beq_iff_eq.1 h

/-- Nothing is handed out by a connection that was not made yet, and
nothing happens to its loan. -/
theorem handed_before_made (h : s.Named)
    (hc : s.state.connections.length ≤ c) (step : Step) :
    s.turn? c step = none ∧ s.handedBy? c step = none := by
  have hno : ∀ name, s.connections.lookup name ≠ some c := fun name hname =>
    Nat.not_lt.2 hc (h.lt_of_lookup hname)
  constructor
  · cases step with
    | dropConnection name => exact if_neg (hno name)
    | newConnection name spec => exact if_neg fun ho => hno name ho.2
    | onConnection pool physical name cstep =>
        rw [turn?]
        split
        · next htarget =>
          refine if_neg ?_
          rintro rfl
          exact hno name (lookup_of_target? htarget).1
        · rfl
    | _ => rfl
  · rw [handedBy?]
    refine if_neg fun hon => ?_
    cases step with
    | onConnection pool physical name cstep =>
        exact hno name (lookup_of_isOn hon)
    | _ => cases hon

/-- What a connection hands out is held, bears the connection, and lies
over a new facade of its tracker. -/
theorem exists_handed (h : s.Orderly) (hx : s.state.connection? c = some x)
    (hlinks : x.links = above ++ .leakTracker :: below)
    (hasks : ∀ link ∈ x.links, link.isAnswering = false)
    (habove : ∀ link ∈ above, link.isCache = false) {tr : Tracker}
    (hn : s.state.Numbered ⟨c, below.length⟩ tr)
    (hr : s.handedBy? c step = some r) :
    r ∈ (s.step step).2.held
      ∧ (∃ a, (s.step step).2.state.layer? r = some a
        ∧ a.connection = some c)
      ∧ ∃ f n, s.state.layers.length ≤ f ∧ (s.step step).2.state.Over r f
        ∧ TrackedBy ⟨c, below.length⟩ n ((s.step step).2.state.core f) := by
  rw [handedBy?] at hr
  split at hr
  · next hon =>
    obtain ⟨pool, physical, name, cstep, op, handle, rfl, -, hg, hlookup⟩ :=
      exists_grants hr
    have hname := lookup_of_isOn hon
    obtain ⟨c', a, layer, hname', ha, hlayer, hbears⟩ :=
      hg.exists_layer h.sound h.homed h.kindred h.filed
    obtain rfl : c = c' := Option.some.inj (hname.symm.trans hname')
    obtain rfl : a = r := Option.some.inj (ha.symm.trans hlookup)
    exact ⟨held_of_lookup hlookup, ⟨layer, hlayer, hbears⟩,
      hg.exists_tracked h.sound hname hx hlinks hasks habove hn hlookup⟩
  · cases hr

/-- What a connection hands out over a facade of its tracker is new. -/
theorem le_of_handed (h : s.Orderly) (hord : step.isOrdinary = true)
    (hx : s.state.connection? c = some x)
    (hlinks : x.links = above ++ .leakTracker :: below)
    (hasks : ∀ link ∈ x.links, link.isAnswering = false)
    (habove : ∀ link ∈ above, link.isCache = false) {tr : Tracker}
    (hn : s.state.Numbered ⟨c, below.length⟩ tr)
    (hr : s.handedBy? c step = some r) : s.state.layers.length ≤ r := by
  obtain ⟨-, -, f, n, hle, hover, -⟩ :=
    exists_handed h hx hlinks hasks habove hn hr
  exact Nat.le_trans hle (hover.le (h.sound.step hord).scene.formed.older)

/-- What a caller holds that bears a connection was held before, or the
connection has handed it out. -/
theorem held_or_handed (h : s.Orderly) (hord : step.isOrdinary = true)
    {a : Layer} (hr : r ∈ (s.step step).2.held)
    (ha : (s.step step).2.state.layer? r = some a)
    (hbears : a.connection = some c) :
    r ∈ s.held ∨ s.handedBy? c step = some r := by
  refine (mem_held_step hord hr).imp_right fun hr => ?_
  obtain ⟨pool, physical, name, cstep, op, handle, rfl, -, hg, hlookup⟩ :=
    exists_grants hr
  obtain ⟨c', a', layer, hname, ha', hlayer, hbears'⟩ :=
    hg.exists_layer h.sound h.homed h.kindred h.filed
  obtain rfl : a' = r := Option.some.inj (ha'.symm.trans hlookup)
  obtain rfl : layer = a := Option.some.inj (hlayer.symm.trans ha)
  obtain rfl : c = c' := Option.some.inj (hbears.symm.trans hbears')
  have hon : s.isOn c (.onConnection pool physical name cstep) = true := by
    rw [isOn, hname]
    exact beq_self_eq_true _
  rw [handedBy?, if_pos hon]
  exact hr

-- ============================================================ watching

/-- Whether the trackers of a connection began their lists at the layer
`mark`, and its tracker above `below` has under its eyes what was handed
out since, which is `l`. -/
structure Watched (s : Session) (c : ConnectionId)
    (above below : List Link) (mark : Nat) (l : List LayerId) : Prop where
  rosters : s.state.Rosters c (above ++ .leakTracker :: below) mark
  once : l.Nodup
  recent : ∀ {r}, r ∈ l → mark ≤ r
  unowned : ∀ {r}, r ∈ l → r ∉ s.scene.owned
  bears : ∀ {r}, r ∈ l → ∃ a, s.state.layer? r = some a
    ∧ a.connection = some c
  /-- Everything else that the connection handed out is older. -/
  all : ∀ {r a}, r ∈ s.held → s.state.layer? r = some a →
    a.connection = some c → mark ≤ r → r ∈ l
  covered : ∀ {r m}, r ∈ l → s.state.Stands r m → ∃ f n, mark ≤ f
    ∧ s.state.Over r f ∧ TrackedBy ⟨c, below.length⟩ n (s.state.core f)

/-- What the tracker has under its eyes is there. -/
theorem Watched.lt (hw : s.Watched c above below mark l) (hr : r ∈ l) :
    r < s.state.layers.length := by
  obtain ⟨a, ha, -⟩ := hw.bears hr
  exact (List.getElem?_eq_some_iff.1 ha).1

/-- The tracker has a list that begins at the mark. -/
theorem Watched.exists_roster (hw : s.Watched c above below mark l) :
    ∃ tr, s.state.Roster ⟨c, below.length⟩ mark tr := hw.rosters.roster rfl

/-- What callers hold is there. -/
theorem lt_of_mem_held (h : s.Sound) (hr : r ∈ s.held) :
    r < s.state.layers.length :=
  State.lt_of_core (h.scene.owned.living (.inl hr))

/-- Where all lists are empty, the watch begins. -/
theorem watched_of_blanks (h : s.Sound)
    (hb : s.state.Blanks c (above ++ .leakTracker :: below)) :
    s.Watched c above below s.state.layers.length [] where
  rosters := hb.rosters
  once := List.nodup_nil
  recent hr := by cases hr
  unowned hr := by cases hr
  bears hr := by cases hr
  all hr _ _ hle := absurd (lt_of_mem_held h hr) (Nat.not_lt.2 hle)
  covered hr := by cases hr

/-- A step that is no turn for the connection. -/
theorem Watched.next (hw : s.Watched c above below mark l) (h : s.Orderly)
    (hord : step.isOrdinary = true) (htells : step.tellsAll = true)
    (hx : s.state.connection? c = some x)
    (hlinks : x.links = above ++ .leakTracker :: below)
    (hasks : ∀ link ∈ x.links, link.isAnswering = false)
    (habove : ∀ link ∈ above, link.isCache = false)
    (hy : (s.step step).2.state.connection? c = some y)
    (hturn : s.turn? c step = none) :
    (s.step step).2.Watched c above below mark
      (l ++ (s.handedBy? c step).toList) := by
  have hafter := h.sound.step hord
  have hm := (moves_step hord h.sound.scene (suits_free s step _)).1
  have hlater : s.state.Later (s.step step).2.state := hm.later
  have hlt : c < s.state.connections.length := by
    by_contra hno
    rw [State.connection?, List.getElem?_eq_none (Nat.not_lt.1 hno)] at hx
    cases hx
  obtain ⟨tr, hroster⟩ := hw.exists_roster
  have hnew : ∀ {r}, s.handedBy? c step = some r →
      s.state.layers.length ≤ r :=
    le_of_handed h hord hx hlinks hasks habove hroster.toNumbered
  have hmem : ∀ {r}, r ∈ l ++ (s.handedBy? c step).toList ↔
      r ∈ l ∨ s.handedBy? c step = some r := by
    intro r
    rw [List.mem_append, Option.mem_toList]
  refine ⟨rosters_step hord htells hlt hy hw.rosters hturn, ?_,
    fun hr => ?_, fun hr => ?_, fun hr => ?_, fun {r a} hr ha hbears hle => ?_,
    fun {r m} hr hmr => ?_⟩
  · refine List.nodup_append.2 ⟨hw.once, ?_, ?_⟩
    · cases s.handedBy? c step with
      | none => exact List.nodup_nil
      | some r => exact List.nodup_singleton r
    · rintro r hr _ hr' rfl
      rw [Option.mem_toList] at hr'
      exact absurd (hw.lt hr) (Nat.not_lt.2 (hnew hr'))
  · rcases hmem.1 hr with hr | hr
    · exact hw.recent hr
    · exact Nat.le_trans hroster.known (hnew hr)
  · rcases hmem.1 hr with hr | hr
    · exact hm.not_owned (hw.lt hr) (hw.unowned hr)
    · exact hafter.scene.owned.apart
        (exists_handed h hx hlinks hasks habove hroster.toNumbered hr).1
  · rcases hmem.1 hr with hr | hr
    · obtain ⟨a, ha, hbears⟩ := hw.bears hr
      obtain ⟨a', ha', hl⟩ := hlater.layer ha
      exact ⟨a', ha', hl.connection.trans hbears⟩
    · exact (exists_handed h hx hlinks hasks habove hroster.toNumbered hr).2.1
  · refine hmem.2 ?_
    refine (held_or_handed h hord hr ha hbears).imp_left fun hr => ?_
    obtain ⟨a', ha', -⟩ := State.exists_layer
      (h.sound.scene.owned.living (.inl hr))
    obtain ⟨a'', ha'', hl⟩ := hlater.layer ha'
    obtain rfl : a'' = a := Option.some.inj (ha''.symm.trans ha)
    exact hw.all hr ha' (hl.connection.symm.trans hbears) hle
  · rcases hmem.1 hr with hr | hr
    · have hbefore := hlater.stands h.sound.scene.formed.older (hw.lt hr) hmr
      obtain ⟨f, n, hle, hover, ht⟩ := hw.covered hr hbefore
      have hover' := hlater.over_of_stands h.sound.scene.formed.older
        (hw.lt hr) hover hmr
      refine ⟨f, n, hle, hover', ?_⟩
      have hflt := State.lt_of_core (hbefore.of_over hover).not_released
      exact ((hlater.core hflt).tracked ht).resolve_left
        (hmr.of_over hover').not_released
    · obtain ⟨-, -, f, n, hle, hover, ht⟩ :=
        exists_handed h hx hlinks hasks habove hroster.toNumbered hr
      exact ⟨f, n, Nat.le_trans hroster.known hle, hover, ht⟩

-- ======================================================= whole runs

/-- A connection whose name is taken away is gone. -/
theorem connection?_of_dropped (hkeeps : step.keepsConnections = false)
    (hturn : s.turn? c step ≠ none) :
    (s.step step).2.state.connection? c = none := by
  have hsettle : (s.step step).2.state.connection? c
      = (s.quiet.act step).2.state.connection? c :=
    congrArg (fun l => (l[c]?).join) (State.connections_release _ _)
  rw [hsettle]
  cases step with
  | newConnection name spec =>
      rw [turn?] at hturn
      obtain ⟨hok, hname⟩ := of_not_not fun hno => hturn (if_neg hno)
      cases hspec : spec.links with
      | error e =>
          rw [hspec] at hok
          cases hok
      | ok links =>
          rw [act, hspec]
          let t : Session := { s.quiet with
            state := (s.quiet.state.newConnection links).2 }
          show (t.dropConnection name).state.connection? c = none
          rw [(connection?_dropConnection t c name).1]
          exact if_pos hname
  | dropConnection name =>
      rw [turn?] at hturn
      have hname := of_not_not fun hno => hturn (if_neg hno)
      show (s.quiet.dropConnection name).state.connection? c = none
      rw [(connection?_dropConnection s.quiet c name).1]
      exact if_pos hname
  | _ => cases hkeeps

/-- What a connection was before a step in which it stays. -/
theorem chain_before (h : s.Sound) (hord : step.isOrdinary = true)
    (hlt : c < s.state.connections.length)
    (hy : (s.step step).2.state.connection? c = some y) :
    ∃ x, s.state.connection? c = some x ∧ x.links = y.links :=
  (moves_step hord h.scene (suits_free s step _)).1.links (.inr hlt) hy

/-- The trackers of a connection begin anew when it is made, and in each
turn of its loan. -/
theorem blanks_anew (h : s.Orderly) (hord : step.isOrdinary = true)
    (htells : step.tellsAll = true)
    (hasks : ∀ link ∈ y.links, link.isAnswering = false)
    (hr : ∀ {x}, s.state.connection? c = some x → x.links = y.links →
      ∃ mark, s.state.Rosters c y.links mark)
    (hanew : s.turn? c step ≠ none ∨ s.state.connections.length ≤ c)
    (hy : (s.step step).2.state.connection? c = some y) :
    (s.step step).2.state.Blanks c y.links := by
  rcases Nat.lt_or_ge c s.state.connections.length with hlt | hge
  · obtain ⟨x, hx, hlinks⟩ := chain_before h.sound hord hlt hy
    obtain ⟨mark, hrosters⟩ := hr hx hlinks
    have hturn := hanew.resolve_right (Nat.not_le_of_lt hlt)
    have hkeeps : step.keepsConnections = true := by
      by_contra hno
      have hgone := connection?_of_dropped (Bool.eq_false_iff.2 hno) hturn
      cases hgone.symm.trans hy
    rw [← hlinks] at hasks hrosters ⊢
    exact blanks_turn hx (fun link hin =>
      Link.passes_of_not_answering (hasks link hin) .close) hrosters htells
      hkeeps (Option.isSome_iff_ne_none.2 hturn)
  · exact blanks_made h hord hge hy

/-- What holds in a run: once the connection is made, its tracker has
under its eyes what was handed out since the last turn. -/
structure Watching (s : Session) (c : ConnectionId)
    (above below : List Link) (l : List LayerId) : Prop where
  orderly : s.Orderly
  unmade : s.state.connections.length ≤ c → l = []
  watched : ∀ {x}, s.state.connection? c = some x →
    x.links = above ++ .leakTracker :: below →
    ∃ mark, s.Watched c above below mark l

/-- An ordinary step leaves the connection watched: a turn starts the list
anew, and a handle that is handed out comes onto it. -/
theorem Watching.next (hw : s.Watching c above below l)
    (hord : step.isOrdinary = true) (htells : step.tellsAll = true)
    (hasks : ∀ link ∈ above ++ .leakTracker :: below,
      link.isAnswering = false)
    (habove : ∀ link ∈ above, link.isCache = false) :
    (s.step step).2.Watching c above below
      (if (s.turn? c step).any fun _ => true then []
        else l ++ (s.handedBy? c step).toList) := by
  have hafter := orderly_step hw.orderly hord htells
  have hanew : ∀ {y}, (s.step step).2.state.connection? c = some y →
      y.links = above ++ .leakTracker :: below →
      s.turn? c step ≠ none ∨ s.state.connections.length ≤ c →
      (s.step step).2.Watched c above below
        (s.step step).2.state.layers.length [] := by
    intro y hy hlinks hanew
    rw [← hlinks] at hasks
    have hblanks := blanks_anew hw.orderly hord htells hasks
      (fun hx hsame => (hw.watched hx (hsame.trans hlinks)).imp
        fun _ hwatched => hlinks ▸ hwatched.rosters) hanew hy
    exact watched_of_blanks hafter.sound (hlinks ▸ hblanks)
  rcases Nat.lt_or_ge c s.state.connections.length with hlt | hge
  · refine ⟨hafter, fun hge => absurd hlt (Nat.not_lt.2 (Nat.le_trans
      (connections_le_step hw.orderly.sound hord) hge)),
      fun {y} hy hlinks => ?_⟩
    cases hturn : s.turn? c step with
    | none =>
        obtain ⟨x, hx, hsame⟩ := chain_before hw.orderly.sound hord hlt hy
        have hxlinks := hsame.trans hlinks
        obtain ⟨mark, hwatched⟩ := hw.watched hx hxlinks
        exact ⟨mark, hwatched.next hw.orderly hord htells hx hxlinks
          (by rw [hxlinks]; exact hasks) habove hy hturn⟩
    | some turn =>
        exact ⟨_, hanew hy hlinks (.inl (by
          rw [hturn]
          exact Option.some_ne_none turn))⟩
  · obtain ⟨hturn, hhanded⟩ := handed_before_made hw.orderly.named hge step
    have hnil : l ++ (none : Option LayerId).toList = [] := by
      rw [hw.unmade hge]
      rfl
    rw [hturn, hhanded, hnil]
    exact ⟨hafter, fun _ => rfl, fun hy hlinks =>
      ⟨_, hanew hy hlinks (.inr hge)⟩⟩

/-- Through every ordinary run the connection is watched. -/
theorem Watching.run (hw : s.Watching c above below l) {steps : List Step}
    (hord : ∀ step ∈ steps, step.isOrdinary = true)
    (htells : ∀ step ∈ steps, step.tellsAll = true)
    (hasks : ∀ link ∈ above ++ .leakTracker :: below,
      link.isAnswering = false)
    (habove : ∀ link ∈ above, link.isCache = false) :
    (s.run steps).Watching c above below
      (handed c (fun _ => true) s l steps) := by
  induction steps generalizing s l with
  | nil => exact hw
  | cons step rest ih =>
      rw [run_cons, handed]
      exact ih (hw.next (hord _ List.mem_cons_self)
          (htells _ List.mem_cons_self) hasks habove)
        (fun st hst => hord _ (List.mem_cons_of_mem _ hst))
        fun st hst => htells _ (List.mem_cons_of_mem _ hst)

/-- At the start nothing was handed out. -/
theorem watching_start (links : List Link) (guarded checkedOut : Bool) :
    (start links guarded checkedOut).Watching c above below [] := by
  have horderly := orderly_start links guarded checkedOut
  refine ⟨horderly, fun _ => rfl, fun {x} hx hlinks => ⟨_,
    watched_of_blanks horderly.sound ?_⟩⟩
  rw [← hlinks]
  let empty := (Session.newPool ⟨{}, guarded, [], [], [], []⟩ "p0").newPhysical
    "x0"
  have hno : ∀ {a k n}, TrackedBy k n (empty.state.core a) →
      k.connection < empty.state.connections.length := by
    rintro a k n ⟨f, hf, -⟩
    rw [State.core_of_le (Nat.zero_le _)] at hf
    cases hf
  have hnamed : empty.Named := ⟨List.nodup_nil, fun hp => by cases hp⟩
  have hfirst : ∀ {y}, (unattached links guarded).state.connection? c
      = some y → (unattached links guarded).state.Blanks c y.links :=
    blanks_named hnamed hno (Nat.zero_le _) links
  cases checkedOut with
  | false => exact hfirst hx
  | true =>
      have hstate : (start links guarded true).state
          = ((Act.checkOut 0 0 0).run (unattached links guarded).state).2 :=
        state_answer _ _ _
      have haside := Act.aside_checkOut guarded 0 0 0
        (unattached links guarded).state
      have hchanges := Act.changes_checkOut (p := ⟨True, fun _ => False,
        fun _ => True⟩) 0 0 0 (fun _ => trivial) trivial
        (unattached links guarded).state
      rw [hstate] at hx ⊢
      obtain ⟨y, hy, hsame⟩ := haside.links hx
      rw [← hsame]
      exact (hfirst hy).changes hchanges fun _ hno => hno

-- ======================================================= looking back

/-- Whether a connection, if it was made, has these links. -/
structure HasChain (s : Session) (c : ConnectionId) (links : List Link) :
    Prop where
  made : c < s.state.connections.length →
    ∃ x, s.state.connection? c = some x ∧ x.links = links

/-- A connection had these links before a step if it has them after. -/
theorem hasChain_before {links : List Link} (h : s.Sound)
    (hord : step.isOrdinary = true)
    (hc : (s.step step).2.HasChain c links) : s.HasChain c links := by
  refine ⟨fun hlt => ?_⟩
  obtain ⟨y, hy, hlinks⟩ :=
    hc.made (Nat.lt_of_lt_of_le hlt (connections_le_step h hord))
  obtain ⟨x, hx, hsame⟩ := chain_before h hord hlt hy
  exact ⟨x, hx, hsame.trans hlinks⟩

/-- A connection had these links before a run if it has them after. -/
theorem hasChain_start {links : List Link} {steps : List Step}
    (h : s.Sound) (hord : ∀ step ∈ steps, step.isOrdinary = true)
    (hc : (s.run steps).HasChain c links) : s.HasChain c links := by
  induction steps generalizing s with
  | nil => exact hc
  | cons step rest ih =>
      have hstep := hord step List.mem_cons_self
      exact hasChain_before h hstep (ih (h.step hstep)
        (fun st hst => hord st (List.mem_cons_of_mem _ hst)) hc)

/-- What the connection hands out is new. -/
theorem Watching.le_of_handed (hw : s.Watching c above below l)
    (hord : step.isOrdinary = true)
    (hasks : ∀ link ∈ above ++ .leakTracker :: below,
      link.isAnswering = false)
    (habove : ∀ link ∈ above, link.isCache = false)
    (hc : s.HasChain c (above ++ .leakTracker :: below))
    (hr : s.handedBy? c step = some r) : s.state.layers.length ≤ r := by
  rcases Nat.lt_or_ge c s.state.connections.length with hlt | hge
  · obtain ⟨x, hx, hlinks⟩ := hc.made hlt
    obtain ⟨mark, hwatched⟩ := hw.watched hx hlinks
    obtain ⟨tr, hroster⟩ := hwatched.exists_roster
    exact Session.le_of_handed hw.orderly hord hx hlinks
      (by rw [hlinks]; exact hasks) habove hroster.toNumbered hr
  · cases (handed_before_made hw.orderly.named hge step).2.symm.trans hr

variable {steps : List Step}

/-- What was there before a run, the connection does not hand out in it;
and callers hold of it what they held. -/
theorem Watching.before (hw : s.Watching c above below l)
    (hord : ∀ step ∈ steps, step.isOrdinary = true)
    (htells : ∀ step ∈ steps, step.tellsAll = true)
    (hasks : ∀ link ∈ above ++ .leakTracker :: below,
      link.isAnswering = false)
    (habove : ∀ link ∈ above, link.isCache = false)
    (hc : (s.run steps).HasChain c (above ++ .leakTracker :: below))
    {a : Layer} (ha : s.state.layer? r = some a) :
    (r ∈ handed c (fun _ => true) s l steps → r ∈ l)
      ∧ (a.connection = some c → r ∈ (s.run steps).held → r ∈ s.held) := by
  induction steps generalizing s l a with
  | nil => exact ⟨id, fun _ => id⟩
  | cons step rest ih =>
      have hstep := hord step List.mem_cons_self
      have hrest : ∀ st ∈ rest, st.isOrdinary = true := fun st hst =>
        hord st (List.mem_cons_of_mem _ hst)
      have hnext := hw.next hstep (htells step List.mem_cons_self) hasks
        habove
      have hm := (moves_step hstep hw.orderly.sound.scene
        (suits_free s step _)).1
      obtain ⟨a', ha', hl⟩ := hm.later.layer ha
      have hold : s.handedBy? c step ≠ some r := fun hr =>
        Nat.not_lt.2 (hw.le_of_handed hstep hasks habove
          (hasChain_start hw.orderly.sound hord hc) hr)
          (List.getElem?_eq_some_iff.1 ha).1
      obtain ⟨hhanded, hheld⟩ := ih hnext hrest
        (fun st hst => htells st (List.mem_cons_of_mem _ hst)) hc ha'
      refine ⟨fun hr => ?_, fun hbears hr => ?_⟩
      · have hr := hhanded hr
        split at hr
        · cases hr
        · exact (List.mem_append.1 hr).resolve_right fun hr =>
            hold (Option.mem_toList.1 hr)
      · have hbears' := hl.connection.trans hbears
        exact (held_or_handed hw.orderly hstep (hheld hbears' hr) ha'
          hbears').resolve_right hold

/-- While something is on loan to a connection, the last turn of its loan
was that it was lent. -/
theorem handed_lent {links : List Link} {l' : List LayerId}
    (h : s.Orderly) (hord : ∀ step ∈ steps, step.isOrdinary = true)
    (htells : ∀ step ∈ steps, step.tellsAll = true)
    (hasks : ∀ link ∈ links, link.isAnswering = false)
    (hc : (s.run steps).HasChain c links)
    (hl : l = l' ∨ c < s.state.connections.length
      ∧ s.state.loan? c = none)
    (hloan : (s.run steps).state.loan? c ≠ none) :
    handed c (fun _ => true) s l steps = handed c Turn.isLent s l' steps := by
  induction steps generalizing s l l' with
  | nil => exact hl.resolve_right fun hno => hloan hno.2
  | cons step rest ih =>
      have hstep := hord step List.mem_cons_self
      have hchain := hasChain_start h.sound hord hc
      refine ih (orderly_step h hstep (htells step List.mem_cons_self))
        (fun st hst => hord st (List.mem_cons_of_mem _ hst))
        (fun st hst => htells st (List.mem_cons_of_mem _ hst)) hc ?_ hloan
      rcases Nat.lt_or_ge c s.state.connections.length with hlt | hge
      · obtain ⟨x, hx, rfl⟩ := hchain.made hlt
        have hpass := fun link hin (op : ConnectionOp) =>
          Link.passes_of_not_answering (hasks link hin) op
        have htook := (took_step (passable_of_connection? hx
          fun link hin => ⟨hpass link hin _, hpass link hin _⟩) step).loan
        have hlt' := Nat.lt_of_lt_of_le hlt (connections_le_step h.sound hstep)
        cases hturn : s.turn? c step with
        | none =>
            rw [hturn] at htook
            exact hl.imp (fun he => by rw [he]; rfl)
              fun hno => ⟨hlt', htook.trans hno.2⟩
        | some turn =>
            rw [hturn] at htook
            cases turn with
            | lent => exact .inl rfl
            | closed => exact .inr ⟨hlt', htook⟩
            | ended => exact .inr ⟨hlt', htook⟩
      · obtain ⟨hturn, -⟩ := handed_before_made h.named hge step
        obtain rfl := hl.resolve_right fun hno => Nat.not_lt.2 hge hno.1
        rw [hturn]
        exact .inl rfl

-- ======================================================= the roots

/-- A cache of a chain is below a tracker that stands above all caches. -/
theorem place_lt_of_cache {above' below' : List Link} {config : CacheConfig}
    (habove : ∀ link ∈ above, link.isCache = false)
    (hlinks : above ++ .leakTracker :: below
      = above' ++ .cache config :: below') : below'.length < below.length := by
  rcases List.append_eq_append_iff.1 hlinks with ⟨rest, -, hr⟩ | ⟨rest, ha, hr⟩
  · cases rest with
    | nil => cases hr
    | cons link rest =>
        obtain ⟨-, rfl⟩ := List.cons.inj hr
        simp
        omega
  · cases rest with
    | nil => cases hr
    | cons link rest =>
        obtain ⟨rfl, -⟩ := List.cons.inj hr
        have hno := habove (.cache config)
          (by rw [ha]; exact List.mem_append_right _ List.mem_cons_self)
        cases hno

/-- What is parked over a statement that was made for a connection is
parked by a cache of that connection, and below a tracker that stands above
all caches. -/
theorem parked_below (h : s.Orderly) (hx : s.state.connection? c = some x)
    (hlinks : x.links = above ++ .leakTracker :: below)
    (habove : ∀ link ∈ above, link.isCache = false)
    (hr : r ∈ s.state.parked) {m : Native.StatementId}
    (hm : s.state.Stands r m) (hmade : s.state.MadeFor c m) :
    ∃ place store sql, place < below.length
      ∧ s.state.caches.get? ⟨c, place⟩ = some store
      ∧ (sql, r) ∈ store.entries
      ∧ (s.state.core r).level = place + 1 := by
  obtain ⟨k, store, sql, hin, hmem⟩ := State.mem_onShelves.1 hr
  obtain ⟨a, d, ha, -, hcore⟩ := (h.sound.scene.stocked.shelved hin).entry hmem
  have hcore' := (State.core_eq_of_layer? ha).trans hcore
  have hmade' := h.homed.facade ⟨_, _, hcore', rfl⟩ hm
  have hk : k.connection = c := h.sound.scene.madeFor_unique hmade' hmade
  have hget := Keyed.get?_of_mem h.sound.scene.stocked.distinct hin
  obtain ⟨i, place⟩ := k
  cases hk
  obtain ⟨above', config, below', hlinks', hplace⟩ :=
    h.installed.owner hx hget
  have hlt := place_lt_of_cache habove (hlinks.symm.trans hlinks')
  rw [hplace] at hlt
  exact ⟨place, store, sql, hlt, hget, hmem, congrArg Core.level hcore'⟩

/-- An open facade of a tracker that stands above all caches lies under a
handle that a caller holds, and the handle bears the connection too. -/
theorem exists_holder (h : s.Orderly) (hx : s.state.connection? c = some x)
    (hlinks : x.links = above ++ .leakTracker :: below)
    (habove : ∀ link ∈ above, link.isCache = false) {tr : Tracker}
    (hn : s.state.Numbered ⟨c, below.length⟩ tr) {f : LayerId} {n : Nat}
    (hf : TrackedBy ⟨c, below.length⟩ n (s.state.core f))
    {m : Native.StatementId} (hm : s.state.Stands f m) :
    ∃ r a, r ∈ s.held ∧ s.state.Over r f ∧ s.state.layer? r = some a
      ∧ a.connection = some c := by
  have hformed := h.sound.scene.formed
  obtain ⟨r, hroot, hover⟩ :=
    State.Tidy.exists_root h.sound.tidy hm.not_released hformed
  have hmr := hm.over hover
  -- the facade bears the connection, and so does all that lies over it
  obtain ⟨b, hb, hbcore⟩ := State.exists_layer hm.not_released
  obtain ⟨i, hi, hmade⟩ := h.kindred.bears hb hm
  have hbears : b.connection = some c :=
    hn.bears hb (by rw [hbcore]; exact hf)
  obtain rfl : i = c := Option.some.inj (hi.symm.trans hbears)
  obtain ⟨a, ha, -⟩ := State.exists_layer hmr.not_released
  obtain ⟨j, hj, hmade'⟩ := h.kindred.bears ha hmr
  obtain rfl : j = i := h.sound.scene.madeFor_unique hmade' hmade
  refine ⟨r, a, hroot.resolve_right fun hparked => ?_, hover, ha, hj⟩
  obtain ⟨place, store, sql, hlt, -, -, hlevel⟩ :=
    parked_below h hx hlinks habove hparked hmr hmade
  have hle : (s.state.core f).level ≤ (s.state.core r).level :=
    hover.level_le hformed.leveled
  rw [hlevel, hn.level hf] at hle
  exact Nat.not_lt.2 (Nat.le_of_succ_le_succ hle) hlt

/-- A handle that was handed out and is open is held. -/
theorem Watched.held (hw : s.Watched c above below mark l) (h : s.Sound)
    (hr : r ∈ l) {m : Native.StatementId} (hm : s.state.Stands r m) :
    r ∈ s.held := by
  have hno := hw.unowned hr
  rw [Scene.mem_owned, not_or, not_or] at hno
  rcases h.tidy hm.not_released with hheld | hparked | hdelegate
  · exact hheld
  · exact absurd hparked hno.2.1
  · exact absurd hdelegate hno.1

-- ======================================================= counting

/-- Two lists are as long if each entry of the one belongs to one of the
other. -/
theorem length_eq_of_matched {a b : List Nat} (ha : a.Nodup) (hb : b.Nodup)
    {R : Nat → Nat → Prop} (hab : ∀ x ∈ a, ∃ y ∈ b, R x y)
    (hba : ∀ y ∈ b, ∃ x ∈ a, R x y)
    (hleft : ∀ y ∈ b, ∀ x ∈ a, ∀ x' ∈ a, R x y → R x' y → x = x')
    (hright : ∀ x ∈ a, ∀ y ∈ b, ∀ y' ∈ b, R x y → R x y' → y = y') :
    a.length = b.length := by
  rw [← List.toFinset_card_of_nodup ha, ← List.toFinset_card_of_nodup hb]
  apply Nat.le_antisymm
  · refine Finset.card_le_card_of_forall_subsingleton R (fun x hx => ?_)
      fun y hy x hx x' hx' => ?_
    · obtain ⟨y, hy, hxy⟩ := hab x (List.mem_toFinset.1 hx)
      exact ⟨y, List.mem_toFinset.2 hy, hxy⟩
    · exact hleft y (List.mem_toFinset.1 hy) x (List.mem_toFinset.1 hx.1) x'
        (List.mem_toFinset.1 hx'.1) hx.2 hx'.2
  · refine Finset.card_le_card_of_forall_subsingleton' R (fun y hy => ?_)
      fun x hx y hy y' hy' => ?_
    · obtain ⟨x, hx, hxy⟩ := hba y (List.mem_toFinset.1 hy)
      exact ⟨x, List.mem_toFinset.2 hx, hxy⟩
    · exact hright x (List.mem_toFinset.1 hx) y (List.mem_toFinset.1 hy.1) y'
        (List.mem_toFinset.1 hy'.1) hy.2 hy'.2

/-- A tracker counts the handles that are open. -/
theorem Watched.trackedCount (hw : s.Watched c above below mark l)
    (h : s.Orderly) (hx : s.state.connection? c = some x)
    (hlinks : x.links = above ++ .leakTracker :: below)
    (habove : ∀ link ∈ above, link.isCache = false) :
    s.state.trackedCount ⟨c, below.length⟩
      = (l.filter fun id => !s.state.isClosed id).length := by
  have hsound := h.sound.scene
  have hopen : ∀ id, (!s.state.isClosed id) = true ↔
      ∃ m, s.state.Stands id m := by
    intro id
    rw [Bool.not_eq_true']
    exact State.isClosed_eq_false_iff hsound.formed.leveled
      hsound.formed.hollow
  obtain ⟨tr, hroster⟩ := hw.exists_roster
  -- an open layer on the list is a facade of the tracker
  have htracked : ∀ {n id m}, (n, id) ∈ tr.entries → s.state.Stands id m →
      TrackedBy ⟨c, below.length⟩ n (s.state.core id) := fun hin hm =>
    ((Act.enrolled_of_sound hsound hroster.found).known hin).2.resolve_left
      hm.not_released
  rw [State.trackedCount, hroster.found]
  have hmap : (tr.entries.filter fun e => !s.state.isClosed e.2).length
      = ((tr.entries.filter fun e => !s.state.isClosed e.2).map
        (·.2)).length := (List.length_map ..).symm
  refine hmap.trans (length_eq_of_matched (R := fun f r => s.state.Over r f)
    ?_ (hw.once.filter _) (fun f hf => ?_) (fun r hr => ?_)
    (fun r hr f hf f' hf' ho ho' => ?_) fun f hf r hr r' hr' ho ho' => ?_)
  · refine (List.pairwise_map.2 ?_ : List.Nodup _)
    refine (hroster.distinct.filter _).imp_of_mem ?_
    rintro ⟨n, id⟩ ⟨n', id'⟩ hin hin' hne rfl
    obtain ⟨hin, hid⟩ := List.mem_filter.1 hin
    obtain ⟨m, hm⟩ := (hopen id).1 hid
    -- a facade has one number only
    obtain ⟨g, hg, hb⟩ := htracked hin hm
    obtain ⟨g', hg', hb'⟩ := htracked (List.mem_filter.1 hin').1 hm
    obtain rfl : g = g' := Core.facade.inj (hg.symm.trans hg')
    exact hne (by rw [(Behaviour.tracked.inj (hb.symm.trans hb')).2])
  · obtain ⟨⟨n, id⟩, hin, rfl⟩ := List.mem_map.1 hf
    obtain ⟨hin, hid⟩ := List.mem_filter.1 hin
    obtain ⟨m, hm⟩ := (hopen id).1 hid
    obtain ⟨r, a, hheld, hover, ha, hbears⟩ := exists_holder h hx hlinks
      habove hroster.toNumbered (htracked hin hm) hm
    have hle := Nat.le_trans (hroster.recent hin)
      (hover.le hsound.formed.older)
    exact ⟨r, List.mem_filter.2 ⟨hw.all hheld ha hbears hle,
      (hopen r).2 ⟨m, hm.over hover⟩⟩, hover⟩
  · obtain ⟨hr, hid⟩ := List.mem_filter.1 hr
    obtain ⟨m, hm⟩ := (hopen r).1 hid
    obtain ⟨f, n, hle, hover, ht⟩ := hw.covered hr hm
    have hmf := hm.of_over hover
    obtain ⟨g, hg, hb⟩ := ht
    have hin := hroster.complete hg hb (hmf.delegate_ne_none hg) hle
    exact ⟨f, List.mem_map.2 ⟨(n, f), List.mem_filter.2
      ⟨hin, (hopen f).2 ⟨m, hmf⟩⟩, rfl⟩, hover⟩
  · obtain ⟨⟨n, f⟩, hin, rfl⟩ := List.mem_map.1 hf
    obtain ⟨⟨n', f'⟩, hin', rfl⟩ := List.mem_map.1 hf'
    obtain ⟨hin, hid⟩ := List.mem_filter.1 hin
    obtain ⟨hin', hid'⟩ := List.mem_filter.1 hin'
    obtain ⟨m, hm⟩ := (hopen f).1 hid
    obtain ⟨m', hm'⟩ := (hopen f').1 hid'
    have hlevel := hroster.level (htracked hin hm)
    have hlevel' := hroster.level (htracked hin' hm')
    rcases ho.total ho' with hff | hff
    · exact hff.eq_of_level hsound.formed.leveled
        (hlevel.trans hlevel'.symm)
    · exact (hff.eq_of_level hsound.formed.leveled
        (hlevel'.trans hlevel.symm)).symm
  · obtain ⟨hr, hid⟩ := List.mem_filter.1 hr
    obtain ⟨hr', hid'⟩ := List.mem_filter.1 hr'
    obtain ⟨m, hm⟩ := (hopen r).1 hid
    obtain ⟨m', hm'⟩ := (hopen r').1 hid'
    exact hsound.owned.top_unique (.inl (hw.held h.sound hr hm))
      (.inl (hw.held h.sound hr' hm')) ho ho'

-- ============================================================ closing

variable {pool physical name : String} {q : PoolId} {z : PhysicalId}
  {cstep : ConnectionStep}

/-- Who closes a connection gets no statement. -/
theorem statements_closing (hx : s.state.connection? c = some x)
    (hasks : ∀ link ∈ x.links, link.isAnswering = false)
    (hclose : cstep.asked? = some .close) :
    (s.onConnection q z c x cstep).2.statements = s.statements := by
  obtain ⟨turn, -, hok⟩ :=
    Act.turned_askLinks_close c x.links s.state
  have hunit := (hok fun link hin =>
    Link.passes_of_not_answering (hasks link hin) .close).2
  rcases hrun : (Act.askLinks c x.links .close).run s.state with ⟨r, u⟩
  rw [hrun] at hunit
  have hunit : r = .ok .unit := hunit
  subst hunit
  rw [← run_invokeOp hx] at hrun
  cases cstep with
  | call op =>
      cases hclose
      exact statements_callConnection c .close
  | create op handle =>
      cases hclose
      have hno : (Act.statementOf c .close).run s.state
          = (.error (.unexpectedReply (ConnectionOp.close).name), u) := by
        unfold Act.statementOf
        rw [Act.run_read, hrun]
        rfl
      rw [onConnection, perform, hno]
  | invoke op handle =>
      cases hclose
      rw [onConnection, perform, hrun]
      rfl
  | reshape op shape =>
      cases hclose
      rw [onConnection, perform, hrun]
      simp only
      split <;> rfl
  | nativeNumber => cases hclose
  | _ => cases hclose

/-- What closing a connection comes to. -/
structure Closed (s : Session) (c : ConnectionId) (links : List Link)
    (mark : Nat) (t : Session) : Prop where
  statements : t.statements = s.statements
  shed : s.state.Shed s.held c links mark t.state
  links : ∃ y, t.state.connection? c = some y ∧ y.links = links

/-- A step that closes a connection closes what its trackers list. -/
theorem closed_step (h : s.Sound)
    (htarget : s.target? pool physical name = some (q, z, c, x))
    (hasks : ∀ link ∈ x.links, link.isAnswering = false)
    (hclose : cstep.asked? = some .close)
    (hr : s.state.Rosters c x.links mark) :
    s.Closed c x.links mark
      (s.step (.onConnection pool physical name cstep)).2 := by
  have hx : s.state.connection? c = some x := (lookup_of_target? htarget).2
  have hpass : ∀ link ∈ x.links, link.passes .close = true := fun link hin =>
    Link.passes_of_not_answering (hasks link hin) .close
  have hquiet : Scene.Sound ⟨s.quiet.state, s.held, none, []⟩ :=
    sound_quiet h.scene
  obtain ⟨step, hstep⟩ : ∃ step, step
    = Step.onConnection pool physical name cstep := ⟨_, rfl⟩
  have hact : s.quiet.act step = s.quiet.onConnection q z c x cstep := by
    rw [hstep]
    exact act_of_target? (s := s.quiet) htarget cstep
  have hstate : (s.quiet.act step).2.state
      = ((Act.askLinks c x.links .close).run s.quiet.state).2 := by
    rw [hact, (asks_onConnection (q := q) (y := z) (x := x) hclose).state,
      run_invokeOp (t := s.quiet.state) hx]
  have hnames : (s.quiet.act step).2.statements = s.statements := by
    rw [hact]
    exact statements_closing (s := s.quiet) hx hasks hclose
  have hshed := Act.shed_askLinks (c := c) hpass hquiet
    (hr.congr rfl fun _ => rfl)
  have hturned := Act.turned_askLinks_close c x.links s.quiet.state
  rw [← hstate] at hshed hturned
  have hord : step.isOrdinary = true := by rw [hstep]; rfl
  have hafter := sound_act h hord
  have hm := moves_quiet_act h.scene hord
  have hrelease := (State.moves_release (p := .free false) hafter).1
  rw [← hstep]
  refine ⟨hnames, ⟨fun {above below a n} he ht hle => ?_,
    fun {r m} hr hmr hnot => ?_⟩, ?_⟩
  · have hlt : a < s.state.layers.length := State.lt_of_core fun hno => by
      obtain ⟨f, hf, -⟩ := ht
      cases hf.symm.trans hno
    exact (hshed.dead he ht hle).later hafter.formed hrelease.later
      (Nat.lt_of_lt_of_le hlt hm.length_le)
  · have hquieted : s.quiet.state.Stands r m := hmr.congr fun _ _ => rfl
    refine stands_settle hafter ?_ (hshed.spared hr hquieted
      fun he ho ht => hnot he (ho.congr fun _ _ => rfl) ht)
    show r ∈ (s.quiet.act step).2.statements.map (·.2)
    rw [hnames]
    exact hr
  · obtain ⟨turn, hturn, -⟩ := hturned
    have hget := hturn.connection? c
    rw [if_pos rfl, show s.quiet.state.connection? c = some x from hx] at hget
    exact ⟨{ x with terminal := Turn.terminal turn x.terminal },
      (congrArg (fun l => (l[c]?).join) (State.connections_release
        (s.quiet.act step).2.state _)).trans hget, rfl⟩

variable (hw : s.Watched c above below mark l)
  (hclosed : s.Closed c (above ++ .leakTracker :: below) mark t)

include hw hclosed

/-- What was handed out since the last turn is closed. -/
theorem Watched.dead (h : s.Sound) (hlater : s.state.Later t.state)
    (hr : r ∈ l) : t.state.Dead r := by
  intro m hm
  have hformed := h.scene.formed
  obtain ⟨f, n, hle, hover, ht⟩ :=
    hw.covered hr (hlater.stands hformed.older (hw.lt hr) hm)
  exact hclosed.shed.dead rfl ht hle m
    (hm.of_over (hlater.over_of_stands hformed.older (hw.lt hr) hover hm))

/-- What was not handed out since the last turn stays as it is. -/
theorem Watched.spared (h : s.Orderly) (hheld : r ∈ s.held) (hr : r ∉ l)
    {m : Native.StatementId} (hm : s.state.Stands r m) :
    t.state.Stands r m := by
  refine hclosed.shed.spared hheld hm fun {above' below' f n} he hover ht =>
    Nat.lt_of_not_le fun hle => hr ?_
  -- a facade of a tracker of the connection bears it, and so does the handle
  obtain ⟨tr, hroster⟩ := hw.rosters.roster he
  have hmf := hm.of_over hover
  obtain ⟨b, hb, hbcore⟩ := State.exists_layer hmf.not_released
  obtain ⟨i, hi, hmade⟩ := h.kindred.bears hb hmf
  obtain rfl : i = c :=
    Option.some.inj (hi.symm.trans (hroster.bears hb (by rwa [hbcore])))
  obtain ⟨a, ha, -⟩ := State.exists_layer hm.not_released
  obtain ⟨j, hj, hmade'⟩ := h.kindred.bears ha hm
  obtain rfl : j = i := h.sound.scene.madeFor_unique hmade' hmade
  exact hw.all hheld ha hj
    (Nat.le_trans hle (hover.le h.sound.scene.formed.older))

omit hw hclosed

/-- What a handle of the list ever stood on is closed with the connection,
or parked. -/
theorem Watched.parked {v : Session} {before : List LayerId}
    (hv : v.Watching c above below before)
    (hord : ∀ step ∈ steps, step.isOrdinary = true)
    (htells : ∀ step ∈ steps, step.tellsAll = true)
    (hasks : ∀ link ∈ above ++ .leakTracker :: below,
      link.isAnswering = false)
    (habove : ∀ link ∈ above, link.isCache = false)
    (hs : v.run steps = s)
    (hl : handed c (fun _ => true) v before steps = l)
    (hc : s.HasChain c (above ++ .leakTracker :: below))
    (hw : s.Watched c above below mark l)
    (hclosed : s.Closed c (above ++ .leakTracker :: below) mark t)
    {p : Terms} (hm : Moves p s.scene t.scene) (ht : t.Orderly)
    (hr : r ∈ l) {n : Native.StatementId} (hn : v.state.Stands r n)
    (hopen : t.state.native.HasOpen n) :
    ∃ id ∈ t.state.parked, t.state.Stands id n ∧ t.state.MadeFor c n := by
  subst hs hl
  have hsound := hv.orderly.sound
  have hmoves := moves_run hsound hord
  have hend := hsound.run hord
  have hrlt : r < v.state.layers.length := State.lt_of_core hn.not_released
  -- it was made for the connection
  have hmade : v.state.MadeFor c n := by
    obtain ⟨a, ha, -⟩ := State.exists_layer hn.not_released
    obtain ⟨i, hi, hmade⟩ := hv.orderly.kindred.bears ha hn
    obtain ⟨a', ha', hl⟩ := hmoves.later.layer ha
    obtain ⟨a'', ha'', hbears⟩ := hw.bears hr
    obtain rfl : a' = a'' := Option.some.inj (ha'.symm.trans ha'')
    obtain rfl : i = c := Option.some.inj
      (hi.symm.trans (hl.connection.symm.trans hbears))
    exact hmade
  have hnlt := (hsound.hasOpen hn).lt
  obtain ⟨id, hid, hidn⟩ := ht.sound.exists_owner hopen
  obtain ⟨b, hb, -⟩ := State.exists_layer hidn.not_released
  obtain ⟨j, hj, hmade'⟩ := ht.kindred.bears hb hidn
  obtain rfl : j = c := hsound.scene.madeFor_unique
    (hmoves.madeFor_before hsound.scene hnlt (hm.madeFor_before hend.scene
      (Nat.lt_of_lt_of_le hnlt (hmoves.statements_le hsound.scene)) hmade'))
    hmade
  refine (mem_owners.1 hid).elim (fun hheld => ?_)
    fun hparked => ⟨id, hparked, hidn, hmade'⟩
  -- no caller holds it: that handle would be on the list
  have hheld : id ∈ (v.run steps).held := by
    have hsame := congrArg (List.map (·.2)) hclosed.statements
    exact (show t.held = (v.run steps).held from hsame) ▸ hheld
  have hidlt := lt_of_mem_held hend hheld
  obtain ⟨b', hb', -⟩ := State.exists_layer
    (hend.scene.owned.living (.inl hheld))
  obtain ⟨b'', hb'', hl⟩ := hm.later.layer hb'
  obtain rfl : b'' = b := Option.some.inj (hb''.symm.trans hb)
  have hbears : b'.connection = some j := hl.connection.symm.trans hj
  refine absurd hidn (hw.dead hclosed hend hm.later ?_ n)
  rcases Nat.lt_or_ge id v.state.layers.length with hlt | hge
  · obtain ⟨a, ha, -⟩ := State.exists_layer hn.not_released
    have hold := (hv.before hord htells hasks habove hc ha).1 hr
    obtain ⟨x, hx, hlinks⟩ := (hasChain_start hsound hord hc).made
      (Nat.lt_of_not_le fun hge => by
        rw [hv.unmade hge] at hold
        cases hold)
    obtain ⟨mark', hwv⟩ := hv.watched hx hlinks
    obtain ⟨d, hd⟩ : ∃ d, v.state.layer? id = some d :=
      ⟨_, List.getElem?_eq_getElem hlt⟩
    obtain ⟨d', hd', hl'⟩ := hmoves.later.layer hd
    obtain rfl : d' = b' := Option.some.inj (hd'.symm.trans hb')
    have hidv := (hv.before hord htells hasks habove hc hd).2
      (hl'.connection.symm.trans hbears) hheld
    have hstands := hmoves.later.stands hsound.scene.formed.older hlt
      (hm.later.stands hend.scene.formed.older hidlt hidn)
    have hone : id = r := hsound.owner_unique (mem_owners.2 (.inl hidv))
      (mem_owners.2 (.inl (hwv.held hsound hold hn))) hstands hn
    exact hone ▸ hr
  · exact hw.all hheld hb' hbears
      (Nat.le_trans (hw.recent hr) (Nat.le_trans (Nat.le_of_lt hrlt) hge))

/-- A leak tracker knows what is open, and closes it.

Take a connection, in any session, with a leak tracker that stands above
all caches of its chain. The tracker counts the handles that the
connection handed out since it was last checked out, checked in, told of
a loss or closed, and that are open. So a handle of an earlier checkout
that is closed late takes none of them off the list.

When the connection is closed while something is on loan to it, all
handles that it handed out since it was checked out are closed. What they
ever stood on is closed too, or parked by a cache below the tracker. All
other handles, those of earlier checkouts among them, are as open as they
were. -/
theorem leaks_are_closed {links : List Link} {guarded checkedOut : Bool}
    {steps : List Step} (hord : ∀ step ∈ steps, step.isOrdinary = true)
    (htells : ∀ step ∈ steps, step.tellsAll = true) {c : ConnectionId}
    {x : Connection} {above below : List Link}
    (hx : ((start links guarded checkedOut).run steps).state.connection? c
      = some x)
    (hlinks : x.links = above ++ .leakTracker :: below)
    (habove : ∀ link ∈ above, link.isCache = false)
    (hasks : ∀ link ∈ x.links, link.isAnswering = false) :
    let first := start links guarded checkedOut
    let s := first.run steps
    s.state.trackedCount ⟨c, below.length⟩
        = ((handed c (fun _ => true) first [] steps).filter
            fun r => !s.state.isClosed r).length
      ∧ ∀ {pool physical name q z cstep},
        s.target? pool physical name = some (q, z, c, x) →
        cstep.asked? = some .close → s.state.loan? c ≠ none →
        let lent := handed c Turn.isLent first [] steps
        let t := (s.step (.onConnection pool physical name cstep)).2
        (∀ r ∈ lent, t.state.isClosed r = true)
          ∧ (∀ before after r n, steps = before ++ after → r ∈ lent →
            (first.run before).state.Stands r n →
            ¬ t.state.native.HasOpen n
              ∨ ∃ place store sql id, place < below.length
                ∧ t.state.caches.get? ⟨c, place⟩ = some store
                ∧ (sql, id) ∈ store.entries ∧ t.state.Stands id n)
          ∧ ∀ r ∈ s.held, r ∉ lent → s.state.isClosed r = false →
            t.state.isClosed r = false := by
  intro first s
  have hchain : s.HasChain c (above ++ .leakTracker :: below) :=
    ⟨fun _ => ⟨x, hx, hlinks⟩⟩
  have hasks' : ∀ link ∈ above ++ .leakTracker :: below,
      link.isAnswering = false := hlinks ▸ hasks
  have hwatching : s.Watching c above below
      (handed c (fun _ => true) first [] steps) :=
    (watching_start links guarded checkedOut).run hord htells hasks' habove
  have hs := hwatching.orderly
  obtain ⟨mark, hw⟩ := hwatching.watched hx hlinks
  refine ⟨hw.trackedCount hs hx hlinks habove,
    fun {pool physical name q z cstep} htarget hclose hloan => ?_⟩
  intro lent t
  have hlent : handed c (fun _ => true) first [] steps = lent :=
    handed_lent (orderly_start links guarded checkedOut) hord htells hasks'
      hchain (.inl rfl) hloan
  have hm : Moves _ s.scene t.scene := (moves_step rfl hs.sound.scene
    (suits_free s (.onConnection pool physical name cstep) _)).1
  have ht : t.Orderly := orderly_step hs rfl (by
    cases cstep with
    | attachLink => cases hclose
    | _ => rfl)
  have hclosed : s.Closed c (above ++ .leakTracker :: below) mark t :=
    hlinks ▸ closed_step hs.sound htarget hasks hclose (hlinks ▸ hw.rosters)
  obtain ⟨y, hy, hylinks⟩ := hclosed.links
  have hformed := ht.sound.scene.formed
  refine ⟨fun r hr => ?_, fun before after r n hsteps hr hn => ?_,
    fun r hheld hr hropen => ?_⟩
  · exact (State.isClosed_eq_true_iff hformed).2
      (hw.dead hclosed hs.sound hm.later (hlent ▸ hr))
  · refine or_iff_not_imp_left.2 fun hopen => ?_
    have hbefore : ∀ st ∈ before, st ∈ steps := fun st hst =>
      hsteps ▸ List.mem_append_left _ hst
    have hafter : ∀ st ∈ after, st ∈ steps := fun st hst =>
      hsteps ▸ List.mem_append_right _ hst
    have hv : (first.run before).Watching c above below
        (handed c (fun _ => true) first [] before) :=
      (watching_start links guarded checkedOut).run
        (fun st hst => hord st (hbefore st hst))
        (fun st hst => htells st (hbefore st hst)) hasks' habove
    obtain ⟨id, hparked, hidn, hmade⟩ := Watched.parked hv
      (fun st hst => hord st (hafter st hst))
      (fun st hst => htells st (hafter st hst)) hasks' habove
      (by rw [← run_append, ← hsteps]) (by rw [← handed_append, ← hsteps])
      hchain hw hclosed hm ht (hlent ▸ hr) hn (of_not_not hopen)
    obtain ⟨place, store, sql, hlt, hget, hin, -⟩ :=
      parked_below ht hy hylinks habove hparked hidn hmade
    exact ⟨place, store, sql, id, hlt, hget, hin, hidn⟩
  · obtain ⟨m, hm⟩ := (State.isClosed_eq_false_iff hs.sound.scene.formed.leveled
      hs.sound.scene.formed.hollow).1 hropen
    exact (State.isClosed_eq_false_iff hformed.leveled hformed.hollow).2
      ⟨m, hw.spared hclosed hs hheld (hlent ▸ hr) hm⟩

/-- Two statements of an earlier checkout are left, and one of them is
closed late. The tracker still counts the two of this checkout; closing the
connection closes them, and not the one that is left. -/
theorem late_close_takes_nothing_off :
    let links := [Link.decorator, .leakTracker, .cache .standard]
    let steps := [
      Step.onConnection "p0" "x0" "c0" (.create (.prepareStatement "q") "a"),
      .onConnection "p0" "x0" "c0" (.create (.prepareStatement "r") "e"),
      .onConnection "p0" "x0" "c0" .checkIn,
      .onConnection "p0" "x0" "c0" .checkOut,
      .onConnection "p0" "x0" "c0" (.create (.prepareStatement "s") "b"),
      .onConnection "p0" "x0" "c0" (.create (.prepareStatement "q") "d"),
      .onStatement "a" (.call .close)]
    let s := (start links false true).run steps
    let t := (s.step (.onConnection "p0" "x0" "c0" (.call .close))).2
    s.statements = [("d", 15), ("b", 11), ("e", 7), ("a", 3)]
      ∧ s.state.isClosed 3 = true ∧ s.state.trackedCount ⟨0, 1⟩ = 2
      ∧ t.state.isClosed 11 = true ∧ t.state.isClosed 15 = true
      ∧ t.state.isClosed 7 = false := by
  intro links steps s t
  have hord : ∀ step ∈ steps, step.isOrdinary = true := by decide
  have htells : ∀ step ∈ steps, step.tellsAll = true := by decide
  have hx : s.state.connection? 0
      = some ⟨links, ⟨some ⟨some 0, 0⟩, false⟩⟩ := by decide +kernel
  have htarget : s.target? "p0" "x0" "c0"
      = some (0, 0, 0, ⟨links, ⟨some ⟨some 0, 0⟩, false⟩⟩) := by
    decide +kernel
  have hlent : handed 0 Turn.isLent (start links false true) [] steps
      = [11, 15] := by decide +kernel
  have hall : handed 0 (fun _ => true) (start links false true) [] steps
      = [11, 15] := by decide +kernel
  have hopen : ([11, 15].filter fun r => !s.state.isClosed r) = [11, 15] := by
    decide +kernel
  have hheld : 7 ∈ s.held := by decide +kernel
  have hloan : s.state.loan? 0 ≠ none := by decide +kernel
  have hleft : s.state.isClosed 7 = false := by decide +kernel
  obtain ⟨hcount, hclose⟩ := @leaks_are_closed links false true steps hord
    htells 0 _ [.decorator] [.cache .standard] hx rfl (by decide) (by decide)
  obtain ⟨hclosed, -, hspared⟩ := @hclose "p0" "x0" "c0" 0 0 (.call .close)
    htarget rfl hloan
  rw [hall, hopen] at hcount
  rw [hlent] at hclosed hspared
  dsimp only [t, s]
  exact ⟨by decide +kernel, by decide +kernel, hcount,
    hclosed 11 (by decide), hclosed 15 (by decide),
    hspared 7 hheld (by decide) hleft⟩

end Session

end PooledChain
