/-
What a pool does with a connection in company, and alone.

What the connection is told keeps in step as well (`inStep_tell`): a
cache throws away the layers of the same pairs, a tracker forgets the
same, and the end is attached to the party's own physical connection or
to nothing. So does what the pool does besides: it lends, takes back and
closes what is behind the connection.

That a pool has closed is not meant here (`Event.suits`): whether a
recorder heeds it is a matter of its table, and tables are shared.
-/
import PooledChain.Proofs.Company.Chains
import PooledChain.Session.Run

namespace PooledChain

open Pairing (Equal OnLayers)

variable {p : Party} {w : Pairing} {a b : LayerId} {s t : State}

/-- Whether an event can be meant for the party, from a pool that is
open. -/
def Event.suits (p : Party) : Event → Prop
  | .attach _ physical => ∀ x ∈ physical, x = p.physical
  | .poolClosed _ => False
  | _ => True

namespace Act

variable {self : LinkId} {link : Link} {event : Event}

/-- The number of the driver's connection behind the party's. -/
theorem inStep_nativeNumber :
    InStep p Equal w (nativeNumber p.connection)
      (nativeNumber p.connection) := by
  refine .bind (inStep_physicalOf _) fun {_ x y} _ hxy => ?_
  obtain ⟨rfl, rfl⟩ := hxy
  refine .get_bind fun s t h => ?_
  rw [h.bind_native fun x n => n.typeName?.map fun _ => x.native]
  split
  · exact ⟨_, .refl p _ s, h, .ok rfl⟩
  · exact ⟨_, .refl p _ s, h, .error _⟩

-- ========================================================= a link hears

/-- Statements that leave two caches are closed pair by pair. -/
theorem inStep_discardAll {l l' : List LayerId}
    (h : List.Forall₂ w.OnLayers l l') :
    ∀ {w'}, w.Le w' → InStep p Equal w' (discardAll l) (discardAll l') := by
  induction h with
  | nil => exact fun _ => .pure rfl
  | cons hab _ ih =>
      exact fun hw => .bind (inStep_discardParked (hw.layers hab))
        fun hw' _ => ih (hw.trans hw')

/-- Two caches that hold pairs are emptied in step. -/
theorem inStep_drainCache (hself : self.connection = p.connection) :
    InStep p Equal w (drainCache self) (drainCache self) := by
  refine .get_bind fun s t h => ?_
  rcases rel_cases (h.cache hself) with ⟨hs, ht⟩ | ⟨st, st', hs, ht, hst⟩ <;>
    rw [hs, ht]
  · exact ⟨w, .refl p w s, h, .ok rfl⟩
  · obtain ⟨hdrained, hgone⟩ := hst.drain
    obtain ⟨hminds, hhosts⟩ := h.shelve hself hdrained
    exact InStep.set_bind hminds hhosts (inStep_discardAll hgone (.refl w))

/-- A tracker forgets what it lists in both runs. -/
theorem inStep_clearTracker (hself : self.connection = p.connection) :
    InStep p Equal w (modify (·.clearTracker self) : Act PUnit)
      (modify (·.clearTracker self) : Act PUnit) :=
  .modify fun _ _ h =>
    ⟨.setTrackers p w fun hi => get?_modify_of_connection hself hi _,
      h.setTrackers fun hi => rel_modify (h.tracker hi) fun htr =>
        ⟨.nil, htr.next⟩⟩

/-- The table need not be the same for either, only whether there is
one. -/
theorem inStep_takeTable (hself : self.connection = p.connection)
    (config : RecorderConfig) (pool : Option PoolId) :
    InStep p Equal w (modify (·.takeTable self config pool) : Act PUnit)
      (modify (·.takeTable self config pool) : Act PUnit) := by
  refine .modify fun s t h => ?_
  cases pool with
  | none =>
      refine ⟨.setRecorders p w fun {i} hi => ?_, h.setRecorders fun {i} hi => ?_⟩
      · rw [Keyed.get?_erase, if_neg]
        rintro rfl
        exact hi hself
      · rw [Keyed.get?_erase, Keyed.get?_erase]
        split
        · rfl
        · exact h.recorder hi
  | some pool =>
      simp only [State.takeTable]
      have hhosts := h.record (s.statistics.register pool config.maxQueries).2
        (t.statistics.register pool config.maxQueries).2 s.watched t.watched
        s.journal t.journal s.warnings t.warnings
      refine ⟨(State.Minds.record p w s
          (s.statistics.register pool config.maxQueries).2 s.watched s.journal
          s.warnings).trans (.setRecorders p w fun hi =>
            get?_set_of_connection hself hi _),
        hhosts.setRecorders fun {i} hi => ?_⟩
      rw [Keyed.get?_set, Keyed.get?_set]
      split
      · rfl
      · exact h.recorder hi

/-- A link that hears of an event keeps the two runs in step. -/
theorem inStep_hear (hself : self.connection = p.connection)
    (h : event.suits p) :
    InStep p Equal w (hear link self event) (hear link self event) := by
  cases link with
  | probe => exact inStep_record (fun _ => rfl) fun _ => rfl
  | cache =>
      cases event with
      | disconnect => exact inStep_drainCache hself
      | _ => exact .pure rfl
  | leakTracker =>
      cases event with
      | attach | checkIn | disconnect => exact inStep_clearTracker hself
      | _ => exact .pure rfl
  | recorder config =>
      cases event with
      | attach pool => exact inStep_takeTable hself config pool
      | poolClosed => cases h
      | _ => exact .pure rfl
  | _ => exact .pure rfl

-- ================================================= a whole chain hears

/-- The terminals are attached to the same physical connection, or to
none. -/
theorem inStep_attach (pool : Option PoolId) {physical : Option PhysicalId}
    (h : ∀ x ∈ physical, x = p.physical) :
    InStep p Equal w (attach p.connection pool physical)
      (attach p.connection pool physical) := by
  refine .modify fun s t hst => ⟨.modifyTerminal p w s _,
    hst.modifyTerminal fun {x e} _ he => ?_⟩
  cases physical with
  | none => cases he
  | some x =>
      cases he
      exact h x rfl

theorem inStep_detach :
    InStep p Equal w (detach p.connection) (detach p.connection) :=
  .modify fun s _ h => ⟨.modifyTerminal p w s _,
    h.modifyTerminal fun _ he => by cases he⟩

theorem inStep_hearTerminal (h : event.suits p) :
    InStep p Equal w (hearTerminal p.connection event)
      (hearTerminal p.connection event) := by
  cases event with
  | attach pool physical => exact inStep_attach pool h
  | checkIn | disconnect => exact inStep_detach
  | poolStarted | poolClosed => exact .pure rfl

/-- By induction, so do all links of a chain, and the terminal. -/
theorem inStep_hearAll (h : event.suits p) (links : List Link) :
    ∀ {w}, InStep p Equal w (hearAll p.connection event links)
      (hearAll p.connection event links) := by
  induction links with
  | nil => exact inStep_hearTerminal h
  | cons link rest ih =>
      exact .bind (inStep_hear rfl h) fun _ _ => ih

/-- What the connection is told keeps in step. -/
theorem inStep_tell (h : event.suits p) :
    InStep p Equal w (tell p.connection event) (tell p.connection event) := by
  refine .get_bind fun s t hst => ?_
  rw [hst.connection]
  cases t.connection? p.connection with
  | none => exact ⟨w, .refl p w s, hst, .ok rfl⟩
  | some x => exact inStep_hearAll h x.links s t hst

-- ===================================================== what a pool does

/-- The physical connection of the party is lent in both runs. -/
theorem inStep_checkOut (pool : PoolId) :
    InStep p Equal w (checkOut p.connection pool p.physical)
      (checkOut p.connection pool p.physical) :=
  .bind (.modify fun s _ h => ⟨.modifyPhysical p w s _,
      h.modifyPhysical fun _ => rfl⟩)
    fun _ _ => inStep_tell fun _ hx => (Option.some.inj hx).symm

theorem inStep_checkIn :
    InStep p Equal w (checkIn p.connection) (checkIn p.connection) :=
  inStep_tell trivial

/-- The physical connection of the party is closed for good in both runs,
and the first time in both. -/
theorem inStep_discardPhysical :
    InStep p Equal w (discardPhysical p.physical)
      (discardPhysical p.physical) := by
  refine .get_bind fun s t h => ?_
  obtain ⟨x, hx, hn⟩ := h.behind
  rw [h.physical, hx]
  simp only
  split
  · exact ⟨w, .refl p w s, h, .ok rfl⟩
  · refine InStep.set_bind (.modifyPhysical p w s _)
      (h.modifyPhysical fun _ => rfl) fun s t h => ?_
    obtain ⟨ps, hminds, hhosts, hanswers⟩ :=
      Native.inStep_closeConnection s.native t.native h.native
    rw [hn]
    refine ⟨{ w with statements := ps }, .call hminds,
      h.call hminds.le hhosts, .ok ?_⟩
    exact hanswers.eq

theorem inStep_discardConnection (pool : PoolId) :
    InStep p Equal w (discardConnection p.connection pool p.physical)
      (discardConnection p.connection pool p.physical) :=
  .bind (inStep_tell trivial) fun _ _ => inStep_discardPhysical

/-- What the caches hold for a SQL text is closed in both runs. -/
theorem inStep_forceClose (hself : self.connection = p.connection)
    (sql : String) :
    InStep p Equal w (forceClose self sql) (forceClose self sql) := by
  refine .get_bind fun s t h => ?_
  rcases rel_cases (h.cache hself) with ⟨hs, ht⟩ | ⟨st, st', hs, ht, hst⟩ <;>
    rw [hs, ht]
  · exact ⟨w, .refl p w s, h, .ok rfl⟩
  simp only
  rcases rel_cases (hst.find? sql) with ⟨hs, ht⟩ | ⟨a, b, hs, ht, hab⟩ <;>
    rw [hs, ht]
  · exact ⟨w, .refl p w s, h, .ok rfl⟩
  obtain ⟨hminds, hhosts⟩ := h.shelve hself (hst.remove sql)
  exact InStep.set_bind hminds hhosts
    (.bind (inStep_discardParked hab) fun _ _ => .pure rfl)

end Act

end PooledChain
