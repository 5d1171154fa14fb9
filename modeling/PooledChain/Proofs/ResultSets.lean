/-
Where result sets lead back to, and where failures come from.

A caller reads his own handle on a result set if a link decorated the
handle, and none if it is the native handle itself
(`rows_lead_back_to_the_handle`). Which links decorate is decided when
the statement is asked for (`State.decorates`); a handle stays a facade
or stays native as long as it is held, whatever else is done, so what is
told of a result set later depends on that alone. On its way up every
facade stamps the rows and the last stamp counts: it is that of the
handle that was asked, however many facades are below and whoever made
them.

A failure is not stamped. What an open handle fails with is what the
native handle at the bottom fails with when it is asked itself.
-/
import PooledChain.Proofs.Heap.Decorated
import PooledChain.Proofs.Heap.Failing
import PooledChain.Proofs.Recordings

namespace PooledChain

variable {s t : State} {id : LayerId} {r : StatementReply}

-- =================================================== facades stay facades

/-- What is there later on is a facade if it was one. -/
theorem State.Later.isSome_facade? (h : s.Later t)
    (hlt : id < s.layers.length) (hlive : t.core id ≠ .released) :
    (t.facade? id).isSome = (s.facade? id).isSome := by
  have hlater := h.core hlt
  rw [State.facade?, State.facade?]
  generalize s.core id = c at hlater
  generalize t.core id = c' at hlater hlive
  cases hlater with
  | released => exact absurd rfl hlive
  | native _ => rfl
  | facade _ _ _ => rfl

/-- What is there and no facade is a native handle. -/
theorem State.exists_native_of_facade? (hlive : s.core id ≠ .released)
    (h : (s.facade? id).isSome = false) :
    ∃ handle, s.core id = .native handle := by
  rw [State.facade?] at h
  cases hcore : s.core id with
  | native handle => exact ⟨handle, rfl⟩
  | facade f =>
      rw [hcore] at h
      cases h
  | released => exact absurd hcore hlive

/-- Rows that come up to a facade are stamped by it. -/
theorem State.rise_rows (s : State) (id : LayerId) (rows : Rows) :
    s.rise id (.rows rows none)
      = .rows rows (if (s.facade? id).isSome then some id else none) := by
  rw [State.rise, State.facade?]
  cases s.core id <;> rfl

namespace Session

variable {s : Session} {u : State} {given : Option String}

-- ============================================================ one query

/-- A query that succeeds is answered by rows that came up to the
handle. -/
theorem run_executeQuery (h : s.Sound) (hl : s.Loyal)
    (hr : (Act.dispatch id (.executeQuery given)).run s.state = (.ok r, u)) :
    ∃ rows, r = s.state.rise id (.rows rows none) := by
  have hc : StatementOp.executeQuery given ≠ .close := fun he => by cases he
  have hi : StatementOp.executeQuery given ≠ .isClosed := fun he => by
    cases he
  by_cases hdead : s.state.Dead id
  · have hrefused : (Act.dispatch id (.executeQuery given)).run s.state
        = (.error (.closed .statement), s.state) :=
      Act.run_within_dead hc hi h.scene.formed
        (fun hf => hl.state.unwatched hf) hdead (Nat.le_refl _)
    rw [hrefused] at hr
    cases hr
  · obtain ⟨n, hn⟩ := not_forall_not.1 hdead
    obtain ⟨hanswer, -⟩ := Act.run_dispatch_open (s := s.state) hc hi
      h.scene.formed (fun hf => hl.state.unwatched hf) hn
    obtain ⟨x, -, hx⟩ := hn.exists_native
    obtain ⟨st, hst, -⟩ := h.scene.mem_handles hx
    rw [hr, State.risen] at hanswer
    rcases ha : ((Native.perform n (.executeQuery given)).run
      s.state.native).1 with e | a
    · rw [ha] at hanswer
      cases hanswer
    · obtain ⟨hfits, -⟩ := Native.fits_perform hst rfl ha
      rw [ha] at hanswer
      cases a with
      | rows rows => exact ⟨rows, Except.ok.inj hanswer⟩
      | unit | bool | count | counts => cases hfits

-- ========================================================= the whole run

variable {step : Step} {conn handle : String} {op : ConnectionOp}

/-- A handle that a caller gets is a facade if a link decorates it. -/
theorem Grants.exists_decorated (hg : s.Grants step conn op handle)
    (h : s.Sound) (hl : s.Loyal) : ∃ c x kind id,
      s.connections.lookup conn = some c
      ∧ s.state.connection? c = some x
      ∧ op.creates? = some kind
      ∧ (s.step step).2.statements.lookup handle = some id
      ∧ ((s.step step).2.state.facade? id).isSome
        = s.state.decorates c kind op.sql? x.links := by
  obtain ⟨c, x, id, t, hname, hc, hask, hid, hsame⟩ := hg.exists_settled h
  have hquiet : Scene.Sound ⟨s.quiet.state, s.held, none, []⟩ :=
    sound_quiet h.scene
  have hasked := Act.asksBelow_setting c x.links s.quiet.state s.held [] op
    hquiet (fun _ _ => trivial) fun _ => trivial
  rw [hask] at hasked
  obtain ⟨kind, hk⟩ := hasked.creates rfl
  have hmade := Act.isSome_facade?_askLinks c (hl.links hc) hquiet hk hask
  refine ⟨c, x, kind, id, hname, hc, hk, hid, ?_⟩
  have hquiet' : s.state.SameGear s.quiet.state :=
    ⟨fun _ => rfl, fun _ => rfl, rfl⟩
  rw [State.facade?, State.core, hsame id .refl, ← hquiet'.decorates]
  exact hmade

/-- Result sets lead back to the handle that was asked, and failures come
from the driver's side.

Take any session that ordinary steps reach with links that pass everything
on, a step in which a connection grants a caller a handle, and any such
steps after that; the caller may have the handle under any name by then.
If a query on the handle succeeds, it is answered by rows. They lead back
to this very handle if some link of the connection's chain decorated it; if
none did, the handle is the native one and the rows lead nowhere. It makes
no difference whether the statement was new or taken off a shelf, nor what
was parked and handed out since.

If an operation on the handle fails while it is open, then the native
handle at the bottom fails with the same error when it is asked at that
moment, and the driver is left as it would be by that. -/
theorem rows_lead_back_to_the_handle {links : List Link}
    (hlinks : ∀ link ∈ links, link.isFaithful = true)
    {guarded checkedOut : Bool} {steps later : List Step}
    (hord : ∀ step ∈ steps, step.isOrdinary = true)
    (hf : ∀ step ∈ steps, step.isFaithful = true)
    (hord' : ∀ step ∈ later, step.isOrdinary = true)
    (hf' : ∀ step ∈ later, step.isFaithful = true)
    {step : Step} {conn handle : String} {op : ConnectionOp} :
    let s := (start links guarded checkedOut).run steps
    s.Grants step conn op handle →
    ∃ c x kind id, s.connections.lookup conn = some c
      ∧ s.state.connection? c = some x
      ∧ op.creates? = some kind
      ∧ (s.step step).2.statements.lookup handle = some id
      ∧ ∀ name,
        ((s.step step).2.run later).statements.lookup name = some id →
        let t := ((s.step step).2.run later).state
        (∀ given r u,
            (Act.dispatch id (.executeQuery given)).run t = (.ok r, u) →
            ∃ rows,
              (s.state.decorates c kind op.sql? x.links = true →
                r = .rows rows (some id))
              ∧ (s.state.decorates c kind op.sql? x.links = false →
                (∃ own, t.core id = .native own) ∧ r = .rows rows none))
          ∧ (t.isClosed id = false → ∀ op' e u,
            (Act.dispatch id op').run t = (.error e, u) →
            ∃ y n, t.Over id y ∧ t.core y = .native (some n)
              ∧ ∃ v, (Act.dispatch y op').run t = (.error e, v)
                ∧ u.native = v.native) := by
  intro s hg
  have hs : s.Sound := (sound_start links guarded checkedOut).run hord
  have hl : s.Loyal := loyal_run hlinks hord hf
  have hstep : step.isFaithful = true := by cases hg <;> rfl
  have hs' := hs.step hg.isOrdinary
  have hl' := hl.step hs hg.isOrdinary hstep
  obtain ⟨c, x, kind, id, hname, hc, hk, hid, hmade⟩ :=
    hg.exists_decorated hs hl
  refine ⟨c, x, kind, id, hname, hc, hk, hid, fun name hheld => ?_⟩
  have hsound := hs'.run hord'
  have hloyal := hl'.run hs' hord' hf'
  have hlive : ((s.step step).2.run later).state.core id ≠ .released :=
    held_not_released hsound hheld
  have hlt : id < (s.step step).2.state.layers.length :=
    State.lt_of_core (held_not_released hs' hid)
  have hfacade : (((s.step step).2.run later).state.facade? id).isSome
      = s.state.decorates c kind op.sql? x.links :=
    ((moves_run hs' hord').later.isSome_facade? hlt hlive).trans hmade
  refine ⟨fun given r u hr => ?_, fun hopen op' e u hr => ?_⟩
  · obtain ⟨rows, rfl⟩ := run_executeQuery hsound hloyal hr
    rw [State.rise_rows, hfacade]
    refine ⟨rows, fun hdec => by rw [if_pos hdec], fun hnone => ⟨?_, ?_⟩⟩
    · exact State.exists_native_of_facade? hlive (hfacade.trans hnone)
    · rw [hnone, if_neg Bool.false_ne_true]
  · have hformed := hsound.scene.formed
    obtain ⟨n, hn⟩ :=
      (State.isClosed_eq_false_iff hformed.leveled hformed.hollow).1 hopen
    obtain ⟨y, hover, hy, hfails⟩ := Act.run_dispatch_failed
      hsound.scene.whole (fun hf => hloyal.state.unwatched hf) hn hr
    exact ⟨y, n, hover, hy, hfails⟩

/-- A statement that a cache hands out again, with a facade of a tracker
below and a new one above. Result sets of it lead back to the new handle,
and what the driver says of a parameter that cannot be comes up. -/
theorem reused_statement_leads_back :
    let links := [Link.decorator, .cache .standard, .leakTracker]
    let steps := [
      Step.onConnection "p0" "x0" "c0" (.create (.prepareStatement "q") "a"),
      .onStatement "a" (.call .close)]
    let again := Step.onConnection "p0" "x0" "c0"
      (.create (.prepareStatement "q") "b")
    let later := [Step.onStatement "b" (.call (.setParameter 1 (.int 7)))]
    let s := (start links false true).run steps
    let t := (s.step again).2.run later
    (∀ link ∈ links, link.isFaithful = true)
      ∧ (∀ step ∈ steps, step.isOrdinary = true)
      ∧ (∀ step ∈ steps, step.isFaithful = true)
      ∧ (∀ step ∈ later, step.isOrdinary = true)
      ∧ (∀ step ∈ later, step.isFaithful = true)
      ∧ s.Grants again "c0" (.prepareStatement "q") "b"
      ∧ t.statements.lookup "b" = some 5
      ∧ t.state.native.driver.prepares = 1
      ∧ s.state.decorates 0 .prepared (some "q") links = true
      ∧ t.state.isClosed 5 = false
      ∧ (∃ rows u, (Act.dispatch 5 (.executeQuery none)).run t.state
        = (.ok (.rows rows (some 5)), u))
      ∧ ∃ e u, (Act.dispatch 5 (.setParameter 0 .null)).run t.state
          = (.error e, u)
        ∧ ∃ y n v, t.state.Over 5 y ∧ t.state.core y = .native (some n)
          ∧ (Act.dispatch y (.setParameter 0 .null)).run t.state
            = (.error e, v) := by
  intro links steps again later s t
  have hlinks : ∀ link ∈ links, link.isFaithful = true := by decide
  have hord : ∀ step ∈ steps, step.isOrdinary = true := by decide
  have hf : ∀ step ∈ steps, step.isFaithful = true := by decide
  have hord' : ∀ step ∈ later, step.isOrdinary = true := by decide
  have hf' : ∀ step ∈ later, step.isFaithful = true := by decide
  have hgrants : s.Grants again "c0" (.prepareStatement "q") "b" :=
    .create (by decide +kernel)
  have hheld : t.statements.lookup "b" = some 5 := by decide +kernel
  have hprepares : t.state.native.driver.prepares = 1 := by decide +kernel
  have hdecorates : s.state.decorates 0 .prepared (some "q") links = true := by
    decide +kernel
  have hopen : t.state.isClosed 5 = false := by decide +kernel
  have hok : ((Act.dispatch 5 (.executeQuery none)).run t.state).1.isOk
      = true := by decide +kernel
  have hfailed : ((Act.dispatch 5 (.setParameter 0 .null)).run
      t.state).1.isOk = false := by decide +kernel
  -- which connection, which chain and which handle it is
  have hconn : s.connections.lookup "c0" = some 0 := by decide +kernel
  have hchain : (s.state.connection? 0).map (·.links) = some links := by
    decide +kernel
  have hid : (s.step again).2.statements.lookup "b" = some 5 := by
    decide +kernel
  have hlead := rows_lead_back_to_the_handle hlinks hord hf hord' hf' hgrants
  have hs : (start links false true).run steps = s := rfl
  have ht : (s.step again).2.run later = t := rfl
  rw [hs, ht] at hlead
  clear_value t s
  obtain ⟨c, x, kind, id, hname, hc, hk, hid', hboth⟩ := hlead
  cases hk
  obtain rfl : 0 = c := Option.some.inj (hconn.symm.trans hname)
  obtain rfl : 5 = id := Option.some.inj (hid.symm.trans hid')
  have hx : x.links = links := by
    rw [hc] at hchain
    exact Option.some.inj hchain
  obtain ⟨hrows, hfails⟩ := hboth "b" hheld
  refine ⟨hlinks, hord, hf, hord', hf', hgrants, hheld, hprepares, hdecorates,
    hopen, ?_, ?_⟩
  · rcases hrun : (Act.dispatch 5 (.executeQuery none)).run t.state
      with ⟨e | r, u⟩
    · rw [hrun] at hok
      cases hok
    · obtain ⟨rows, hown, -⟩ := hrows none r u hrun
      exact ⟨rows, u, by rw [hown (hx ▸ hdecorates)]⟩
  · rcases hrun : (Act.dispatch 5 (.setParameter 0 .null)).run t.state
      with ⟨e | r, u⟩
    · obtain ⟨y, n, hover, hy, v, hv, -⟩ := hfails hopen _ e u hrun
      exact ⟨e, u, rfl, y, n, v, hover, hy, hv⟩
    · rw [hrun] at hfailed
      cases hfailed

end Session

end PooledChain
