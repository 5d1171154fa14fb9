/-
Closing a connection whose chain has leak trackers.

When a connection closes, each tracker of its chain forgets what it
lists and closes it, before the links below hear of the closing. What
comes of it is said for lists that begin at one mark (`State.Rosters`):
every facade of a tracker from the mark on is dead afterwards, the lists
are empty, and what callers hold over no such facade stands where it
stood (`Act.shed_askLinks`).

Checking out, checking in and the loss of the physical connection make
the trackers forget without closing anything (`Act.blanks_hearAll`).
-/
import PooledChain.Proofs.Heap.Dead
import PooledChain.Proofs.Heap.Frame
import PooledChain.Proofs.Heap.Loans
import PooledChain.Proofs.Heap.Roster

namespace PooledChain

open Scene (Sound)
open State (TrackedBy)

variable {p : Terms} {s t u : State} {held loose : List LayerId}
  {c : ConnectionId} {k : LinkId} {mark : Nat} {tr : Tracker}
  {links : List Link}

namespace State

/-- Whether every tracker among the links of `c` lists its open facades
from the layer `mark` on. -/
structure Rosters (s : State) (c : ConnectionId) (links : List Link)
    (mark : Nat) : Prop where
  roster : ∀ {above below}, links = above ++ .leakTracker :: below →
    ∃ tr, s.Roster ⟨c, below.length⟩ mark tr

namespace Rosters

/-- What holds of all trackers of a chain holds of those below. -/
theorem tail {link : Link} (h : s.Rosters c (link :: links) mark) :
    s.Rosters c links mark :=
  ⟨fun {above below} he => h.roster
    (show link :: links = (link :: above) ++ .leakTracker :: below by
      rw [he]; rfl)⟩

/-- The first link, if it is a tracker, has its list. -/
theorem head (h : s.Rosters c (.leakTracker :: links) mark) :
    ∃ tr, s.Roster ⟨c, links.length⟩ mark tr :=
  h.roster (List.nil_append _).symm

/-- Lists that nobody forgets. -/
theorem changes {q : Reach} (h : s.Rosters c links mark)
    (hc : s.Changes q t)
    (hclears : ∀ place, place < links.length → ¬ q.clears ⟨c, place⟩) :
    t.Rosters c links mark := by
  refine ⟨fun {above below} he => ?_⟩
  obtain ⟨tr, hr⟩ := h.roster he
  obtain ⟨tr', ht⟩ := hc.tends hr.toNumbered
  exact ⟨tr', ht.roster (hclears _ (by rw [he]; simp; omega)) hr⟩

end Rosters

/-- Whether every tracker among the links of `c` lists nothing. -/
structure Blanks (s : State) (c : ConnectionId) (links : List Link) :
    Prop where
  blank : ∀ {above below}, links = above ++ .leakTracker :: below →
    s.Blank ⟨c, below.length⟩

/-- A tracker that lists nothing begins anew. -/
theorem Blanks.rosters (h : s.Blanks c links) :
    s.Rosters c links s.layers.length :=
  ⟨fun he => (h.blank he).roster⟩

/-- Empty lists stay empty where nothing may be listed. -/
theorem Blanks.changes {q : Reach} (h : s.Blanks c links)
    (hc : s.Changes q t) (hlists : ∀ k, ¬ q.lists k) : t.Blanks c links :=
  ⟨fun he => (h.blank he).changes hc (hlists _)⟩

/-- Of the trackers of a chain, the first link may be one. -/
theorem Blanks.cons {link : Link} (h : s.Blanks c links)
    (hself : link = .leakTracker → s.Blank ⟨c, links.length⟩) :
    s.Blanks c (link :: links) := by
  refine ⟨fun {above below} he => ?_⟩
  cases above with
  | nil =>
      obtain ⟨rfl, rfl⟩ := List.cons.inj he
      exact hself rfl
  | cons _ above => exact h.blank (List.cons.inj he).2

/-- Dead layers stay dead. -/
theorem Dead.later {id : LayerId} (h : s.Dead id) (hf : s.Formed) (hl : s.Later t)
    (hid : id < s.layers.length) : t.Dead id :=
  fun n hn => h n (hl.stands hf.older hid hn)

/-- What becomes of the facades of trackers when they are closed: those
from the mark on are dead, and what is held over none of them stands
where it stood. -/
structure Shed (s : State) (held : List LayerId) (c : ConnectionId)
    (links : List Link) (mark : Nat) (t : State) : Prop where
  dead : ∀ {above below a n}, links = above ++ .leakTracker :: below →
    TrackedBy ⟨c, below.length⟩ n (s.core a) → mark ≤ a → t.Dead a
  spared : ∀ {r m}, r ∈ held → s.Stands r m →
    (∀ {above below a n}, links = above ++ .leakTracker :: below →
      s.Over r a → TrackedBy ⟨c, below.length⟩ n (s.core a) → a < mark) →
    t.Stands r m

end State

namespace Act

-- ======================================================= closing a list

/-- What is held and does not lie over a layer does not notice that the
layer is closed. -/
theorem stands_close (h : Sound ⟨s, held, none, loose⟩) {id r : LayerId}
    {m : Native.StatementId} (hp : id ∉ s.parked) (hr : r ∈ held)
    (hnot : ¬ s.Over r id) (hm : s.Stands r m) :
    ((dispatch id .close).run s).2.Stands r m := by
  have hframe := frame_close (K := fun _ => True) h hp ⟨fun _ _ _ => trivial⟩
  have htop : Scene.Top ⟨s, held, none, loose⟩ r := .inl hr
  refine hm.congr fun x hx => ?_
  have hlive : s.core x ≠ .released := (hm.of_over hx).not_released
  refine State.core_congr_layer (hframe.layer (State.lt_of_core hlive) ?_)
  rintro (hid | ⟨e, ⟨k, store, sql, hin, -, he⟩, hex⟩)
  · -- of two layers over one, one lies over the other, and `r` is a top
    rcases h.owned.over_total hid hx with hir | hri
    · obtain rfl : id = r := h.owned.eq_of_over htop hir
      exact hnot .refl
    · exact hnot hri
  · have hparked : e ∈ s.parked :=
      State.mem_onShelves.2 ⟨k, store, sql, hin, he⟩
    obtain rfl : e = r :=
      h.owned.top_unique (.inr (.inl hparked)) htop hex hx
    exact h.owned.not_parked_of_held hr hparked

variable {entries : List (Nat × LayerId)}

/-- What was on the list is dead. -/
theorem dead_closeListed (h : Sound ⟨s, held, none, loose⟩)
    (hlisted : s.Enrolled k entries) {n : Nat} {id : LayerId}
    (he : (n, id) ∈ entries) : ((closeListed entries).run s).2.Dead id := by
  induction entries generalizing s with
  | nil => cases he
  | cons e rest ih =>
      obtain ⟨n', id'⟩ := e
      obtain ⟨hlt, hid⟩ := hlisted.known List.mem_cons_self
      have hm := moves_closeOne (p := .free false) (fun _ => trivial) h hlt hid
      have hs := hm.sound h
      have hrest := hlisted.tail.later hm.later
      rw [closeListed_cons]
      rcases List.mem_cons.1 he with heq | he
      · obtain ⟨rfl, rfl⟩ := Prod.mk.inj heq
        have hdead : (if s.isClosed id then s
            else ((dispatch id .close).run s).2).Dead id := by
          split
          · next hc => exact (State.isClosed_eq_true_iff h.formed).1 hc
          · exact dead_close h
              ((Moves.refl (p := .free false) _).not_parked h hlt hid)
        have hmrest := moves_closeListed (p := .free false)
          (fun _ => trivial) hs hrest
        exact hdead.later hs.formed hmrest.later
          (Nat.lt_of_lt_of_le hlt hm.length_le)
      · exact ih hs hrest he

/-- What is held over nothing on the list stands where it stood. -/
theorem stands_closeListed (h : Sound ⟨s, held, none, loose⟩)
    (hlisted : s.Enrolled k entries) {r : LayerId}
    {m : Native.StatementId} (hr : r ∈ held) (hm : s.Stands r m)
    (hnot : ∀ {n id}, (n, id) ∈ entries → ¬ s.Over r id) :
    ((closeListed entries).run s).2.Stands r m := by
  induction entries generalizing s with
  | nil => exact hm
  | cons e rest ih =>
      obtain ⟨n, id⟩ := e
      obtain ⟨hlt, hid⟩ := hlisted.known List.mem_cons_self
      have hmoves := moves_closeOne (p := .free false) (fun _ => trivial) h
        hlt hid
      rw [closeListed_cons]
      refine ih (hmoves.sound h) (hlisted.tail.later hmoves.later) ?_
        fun he ho => hnot (List.mem_cons_of_mem _ he)
          (hmoves.later.over h.formed.older
            (State.lt_of_core hm.not_released) ho)
      split
      · exact hm
      · exact stands_close h
          ((Moves.refl (p := .free false) _).not_parked h hlt hid) hr
          (hnot List.mem_cons_self) hm

-- ====================================================== before closing

/-- What a link does before its connection closes is a sequence of moves. -/
theorem moves_closing (hcloses : ∀ id, p.closes id) (link : Link)
    (self : LinkId) (h : Sound ⟨s, held, none, loose⟩) :
    Moves p ⟨s, held, none, loose⟩
      ⟨((closing link self).run s).2, held, none, loose⟩ := by
  have hbefore := moves_beforeClose hcloses link self h
  cases link with
  | probe label => exact .aside (.of_alike ⟨rfl, rfl, rfl, rfl, fun h => h⟩)
  | _ => exact hbefore

/-- It lets no list but its own forget. -/
theorem changes_closing {q : Reach} (link : Link) (self : LinkId)
    (hclears : link.isLeakTracker = true → q.clears self) :
    Changes q (closing link self) := by
  have hbefore := changes_beforeClose (p := q) link self hclears
  cases link with
  | probe label => exact .modify fun s => .record _ _ _ _ _ _ (.inl rfl)
  | _ => exact hbefore

/-- Other links than trackers note at most that the connection closes. -/
theorem alike_closing {link : Link} (hlink : link ≠ .leakTracker)
    (self : LinkId) (s : State) :
    s.Alike ((closing link self).run s).2 := by
  cases link with
  | leakTracker => exact absurd rfl hlink
  | probe | watcher => exact ⟨rfl, rfl, rfl, rfl, fun h => h⟩
  | _ => exact .refl s

/-- A tracker forgets what it lists, and closes it. -/
theorem run_closing_tracker (hk : s.trackers.get? k = some tr) :
    ((closing .leakTracker k).run s).2
      = ((closeListed tr.entries).run (s.clearTracker k)).2 := by
  have hclear : s.clearTracker k
      = { s with trackers := s.trackers.set k { tr with entries := [] } } := by
    rw [State.clearTracker, Keyed.modify, hk]
  show ((beforeClose .leakTracker k).run s).2 = _
  unfold beforeClose
  simp only
  rw [run_bind, run_get]
  simp only
  rw [hk, hclear]
  rfl

/-- What a tracker has on its list are facades of its own. -/
theorem enrolled_of_sound (h : Sound ⟨s, held, none, loose⟩)
    (hk : s.trackers.get? k = some tr) : s.Enrolled k tr.entries :=
  ⟨fun he => h.listed ⟨tr, Keyed.mem_of_get? hk, he⟩⟩

/-- The list of a tracker that prepares for the closing is empty. -/
theorem blank_closing (hn : s.Numbered k tr) :
    ((closing .leakTracker k).run s).2.Blank k := by
  rw [run_closing_tracker hn.found]
  have hblank : (s.clearTracker k).Blank k := ⟨_, hn.clear, rfl⟩
  exact hblank.changes
    (changes_closeListed (p := ⟨False, fun _ => False, fun _ => False⟩) _ _)
    not_false

/-- A tracker closes its facades from the mark on, and nothing that is held
over other layers. -/
theorem shed_closing (h : Sound ⟨s, held, none, loose⟩)
    (hr : s.Roster k mark tr) :
    (∀ {a n}, TrackedBy k n (s.core a) → mark ≤ a →
        ((closing .leakTracker k).run s).2.Dead a)
      ∧ ∀ {r m}, r ∈ held → s.Stands r m →
        (∀ {a n}, s.Over r a → TrackedBy k n (s.core a) → a < mark) →
        ((closing .leakTracker k).run s).2.Stands r m := by
  have hforget : Aside false s (s.clearTracker k) :=
    aside_clearTracker false s k
  have hmove : Moves (.free false) ⟨s, held, none, loose⟩
      ⟨s.clearTracker k, held, none, loose⟩ := .aside hforget
  have hs := hmove.sound h
  have hlisted := enrolled_of_sound h hr.found
  have hlisted' : (s.clearTracker k).Enrolled k tr.entries :=
    hlisted.later hmove.later
  rw [run_closing_tracker hr.found]
  refine ⟨fun {a n} ht hle m hm => ?_, fun {r m} hheld hm hnot => ?_⟩
  · -- what is open afterwards was open, and so it was on the list
    have hlt : a < s.layers.length := State.lt_of_core fun hno => by
      obtain ⟨f, hf, -⟩ := ht
      rw [hno] at hf
      cases hf
    have hbefore : s.Stands a m := Moves.later (p := .free false)
      (hmove.trans (moves_closeListed (fun _ => trivial) hs hlisted'))
      |>.stands h.formed.older hlt hm
    obtain ⟨f, hf, hb⟩ := ht
    have hin := hr.complete hf hb (hbefore.delegate_ne_none hf) hle
    exact dead_closeListed hs hlisted' hin m hm
  · refine stands_closeListed hs hlisted' hheld
      (hm.congr fun x _ => State.core_congr hforget.layers x)
      fun {n id} he ho => ?_
    obtain ⟨hlt, hid⟩ := hlisted.known he
    have hover : s.Over r id :=
      ho.of_congr fun x _ => State.core_congr hforget.layers x
    have hlive : s.core id ≠ .released := (hm.of_over hover).not_released
    exact absurd (hnot hover (hid.resolve_left hlive))
      (Nat.not_lt.2 (hr.recent he))

-- ============================================================ the chain

/-- A connection is closed: its trackers close their facades from the mark
on, and nothing that is held over other layers. -/
theorem shed_askLinks (hpass : ∀ link ∈ links, link.passes .close = true)
    (h : Sound ⟨s, held, none, loose⟩) (hr : s.Rosters c links mark) :
    s.Shed held c links mark ((askLinks c links .close).run s).2 := by
  induction links generalizing s with
  | nil =>
      obtain ⟨t, ht, hrun⟩ := run_closeTerminal false c s
      have hrun : (askLinks c [] .close).run s = (.ok .unit, t) := hrun
      rw [hrun]
      refine ⟨fun {above below a n} he => ?_, fun _ hm _ =>
        hm.congr fun x _ => State.core_congr ht.layers x⟩
      cases above <;> cases he
  | cons link rest ih =>
      have hrun : (askLinks c (link :: rest) .close).run s = _ :=
        run_askLink_close (hpass _ List.mem_cons_self) ⟨c, rest.length⟩
          (askLinks c rest) s
      rw [hrun]
      have hm := moves_closing (p := .free false) (fun _ => trivial) link
        ⟨c, rest.length⟩ h
      have hs := hm.sound h
      -- only the list of this link, if it is a tracker, is forgotten
      have hchanges := changes_closing
        (q := ⟨False, fun _ => False, (· = ⟨c, rest.length⟩)⟩) link
        ⟨c, rest.length⟩ (fun _ => rfl) s
      have hrest := ih (fun l hl => hpass l (List.mem_cons_of_mem _ hl)) hs
        (hr.tail.changes hchanges fun place hlt he =>
          absurd (LinkId.mk.inj he).2 (Nat.ne_of_lt hlt))
      generalize hu : ((closing link ⟨c, rest.length⟩).run s).2 = u at *
      have hlater : u.Later ((askLinks c rest .close).run u).2 := by
        have hasks : AsksBelow (.free false) ⟨c, rest.length⟩
            (askLinks c rest) := asked_askLinks c False.elim
        have hask := hasks u held loose .close hs (fun _ _ => trivial)
          (fun hno => by cases hno)
        exact hask.moves.later
      refine ⟨fun {above below a n} he ht hle => ?_,
        fun {r m} hheld hmr hnot => ?_⟩
      · have hlt : a < s.layers.length := State.lt_of_core fun hno => by
          obtain ⟨f, hf, -⟩ := ht
          rw [hno] at hf
          cases hf
        cases above with
        | nil =>
            obtain ⟨rfl, rfl⟩ := List.cons.inj he
            obtain ⟨tr, hroster⟩ := hr.head
            have hdead := (shed_closing h hroster).1 ht hle
            rw [hu] at hdead
            exact hdead.later hs.formed hlater
              (Nat.lt_of_lt_of_le hlt hm.length_le)
        | cons _ above =>
            rcases (hm.later.core hlt).tracked ht with hno | ht'
            · have hdead : u.Dead a := fun m hmu => hmu.not_released hno
              exact hdead.later hs.formed hlater
                (Nat.lt_of_lt_of_le hlt hm.length_le)
            · exact hrest.dead (List.cons.inj he).2 ht' hle
      · have hmu : u.Stands r m := by
          rw [← hu]
          by_cases hlink : link = .leakTracker
          · subst hlink
            obtain ⟨tr, hroster⟩ := hr.head
            exact (shed_closing h hroster).2 hheld hmr
              (hnot (List.nil_append _).symm)
          · exact hmr.congr fun x _ =>
              State.core_congr (alike_closing hlink _ s).layers x
        refine hrest.spared hheld hmu fun {above below a n} he ho ht => ?_
        have hover := hm.later.over h.formed.older
          (State.lt_of_core hmr.not_released) ho
        have hlt := State.lt_of_core (hmr.of_over hover).not_released
        exact hnot (show link :: rest = (link :: above) ++ .leakTracker :: below
          by rw [he]; rfl) hover
          ((hm.later.core hlt).tracked_before ht)

-- =================================================== forgetting all

/-- What a link of a chain forgets, no tracker below it does. -/
theorem rosters_below {q : Reach} {link : Link}
    (hr : s.Rosters c (link :: links) mark)
    (hclears : ∀ k, q.clears k → k = ⟨c, links.length⟩)
    (hc : s.Changes q t) : t.Rosters c links mark :=
  hr.tail.changes hc fun _ hlt hno =>
    absurd (LinkId.mk.inj (hclears _ hno)).2 (Nat.ne_of_lt hlt)

/-- When a connection is closed, all of its trackers forget what they
list. -/
theorem blanks_askLinks (hpass : ∀ link ∈ links, link.passes .close = true)
    (hr : s.Rosters c links mark) :
    ((askLinks c links .close).run s).2.Blanks c links := by
  induction links generalizing s with
  | nil => exact ⟨fun {above _} he => by cases above <;> cases he⟩
  | cons link rest ih =>
      have hrun : (askLinks c (link :: rest) .close).run s = _ :=
        run_askLink_close (hpass _ List.mem_cons_self) ⟨c, rest.length⟩
          (askLinks c rest) s
      rw [hrun]
      have hbelow := rosters_below hr (fun _ => id) (changes_closing
        (q := ⟨False, fun _ => False, (· = ⟨c, rest.length⟩)⟩) link
        ⟨c, rest.length⟩ (fun _ => rfl) s)
      refine (ih (fun l hl => hpass l (List.mem_cons_of_mem _ hl))
        hbelow).cons fun hlink => ?_
      subst hlink
      obtain ⟨tr, hroster⟩ := hr.head
      exact (blank_closing hroster.toNumbered).changes
        (changes_askLinks (p := ⟨True, fun _ => False, fun _ => True⟩) c rest
          .close ⟨nofun, fun _ _ => trivial, fun _ => trivial⟩ _) not_false

/-- In a turn of the loan a tracker forgets what it lists. -/
theorem run_hear_tracker {event : Event} (he : event.isTurn = true)
    (self : LinkId) (s : State) :
    (hear .leakTracker self event).run s = (.ok (), s.clearTracker self) := by
  cases event with
  | attach | checkIn | disconnect => rfl
  | poolStarted | poolClosed => cases he

/-- When a checkout begins or ends, all trackers of the connection forget
what they list. -/
theorem blanks_hearAll {event : Event} (he : event.isTurn = true)
    (hr : s.Rosters c links mark) :
    ((hearAll c event links).run s).2.Blanks c links := by
  induction links generalizing s with
  | nil => exact ⟨fun {above _} he => by cases above <;> cases he⟩
  | cons link rest ih =>
      have hrun : ((hearAll c event (link :: rest)).run s).2 = ((hearAll c event
          rest).run ((hear link ⟨c, rest.length⟩ event).run s).2).2 := by
        rw [hearAll, run_bind_ok _
          (Prod.ext (run_hear_ok link ⟨c, rest.length⟩ event s) rfl)]
      rw [hrun]
      have hbelow := rosters_below hr (fun _ => id) (changes_hear
        (p := ⟨False, fun _ => False, (· = ⟨c, rest.length⟩)⟩) link event
        (fun _ _ => rfl) s)
      refine (ih hbelow).cons fun hlink => ?_
      subst hlink
      obtain ⟨tr, hroster⟩ := hr.head
      have hblank : ((hear .leakTracker ⟨c, rest.length⟩ event).run s).2.Blank
          ⟨c, rest.length⟩ := by
        rw [run_hear_tracker he]
        exact ⟨_, hroster.toNumbered.clear, rfl⟩
      exact hblank.changes (changes_hearAll
        (p := ⟨True, fun _ => False, fun _ => True⟩) c event
        (fun _ _ => trivial) (fun _ => trivial) rest _) not_false

end Act

end PooledChain
