/-
What a caller gets is what it asked for.

A request for a statement can be answered by the driver, by any of the
caches of the chain, or by a cache that had to throw away what it found
closed first; and whatever comes up goes through the links above. In all
cases the handle that the caller gets is open and new to all callers, it
is of the SQL and the kind that were asked for and of the connection that
was asked, and it alone stands on its statement, which the driver made by
the same kind of call from the same SQL (`granted_as_asked`).
-/
import PooledChain.Proofs.Heap.Kin
import PooledChain.Proofs.Heap.Names
import PooledChain.Proofs.Ownership
import PooledChain.Proofs.Replies

namespace PooledChain

namespace Session

variable {s : Session} {step : Step} {name handle : String}
  {op : ConnectionOp} {id : LayerId}

/-- What callers have held comes up no chain again: a handle has no owner
while it is held, and gets none afterwards. -/
theorem Grants.new_to_callers (hg : s.Grants step name op handle)
    (h : s.Sound) {first : Session} {steps : List Step}
    (hfirst : first.Sound) (hord : ∀ step ∈ steps, step.isOrdinary = true)
    (hrun : s = first.run steps)
    (hid : (s.step step).2.statements.lookup handle = some id) :
    id ∉ first.held := by
  intro hheld
  obtain ⟨c, a, n, t, -, ha, -, hm, -, -⟩ := hg.exists_rising h
  obtain rfl : a = id := Option.some.inj (ha.symm.trans hid)
  have howned : a ∉ first.scene.owned := hfirst.scene.owned.apart hheld
  have hlt : a < first.state.layers.length :=
    State.lt_of_core (hfirst.scene.owned.living (.inl hheld))
  have hruns : Moves (.free first.guarded) first.scene s.scene := by
    rw [hrun]
    exact moves_run hfirst hord
  have hstill : a ∉ s.scene.owned := hruns.not_owned hlt howned
  have hout := hm.not_owned (Nat.lt_of_lt_of_le hlt hruns.length_le) hstill
  exact hout (Scene.mem_owned.2 (.inr (.inr (.inl rfl))))

/-- What a caller gets bears the connection that it asked. -/
theorem Grants.exists_layer (hg : s.Grants step name op handle)
    (h : s.Sound) (hh : s.state.Homed) (hk : s.state.Kindred)
    (hf : s.state.Filed fun _ _ => True) :
    ∃ c a l, s.connections.lookup name = some c
      ∧ (s.step step).2.statements.lookup handle = some a
      ∧ (s.step step).2.state.layer? a = some l
      ∧ l.connection = some c := by
  obtain ⟨c, a, n, hname, ha, hn, hmade, -⟩ :=
    hg.exists_filed h hh hf fun _ _ => trivial
  have hafter := h.step hg.isOrdinary
  obtain ⟨l, hl, -⟩ := State.exists_layer hn.not_released
  obtain ⟨i, hi, hmade'⟩ :=
    (kindred_step h hg.isOrdinary hh hk).bears hl hn
  obtain rfl : i = c := hafter.scene.madeFor_unique hmade' hmade
  exact ⟨i, a, l, hname, ha, hl, hi⟩

/-- An open layer stands on a statement of its own kind and SQL. -/
theorem Loyal.exists_statement (hl : s.Loyal) (h : s.Sound) {l : Layer}
    {n : Native.StatementId} (hlayer : s.state.layer? id = some l)
    (hn : s.state.Stands id n) :
    ∃ st, s.state.native.statement? n = some st ∧ st.kind = l.kind
      ∧ st.sql = l.sql ∧ st.closed = false := by
  obtain ⟨x, -, hx⟩ := hn.exists_native
  obtain ⟨st, hst, hopen⟩ := h.scene.mem_handles hx
  have horigin : (s.state.native.statements.map Native.Statement.origin)[n]?
      = some st.origin := by
    rw [List.getElem?_map, show s.state.native.statements[n]? = some st
      from hst]
    rfl
  have hmade := hl.state.made hlayer hn horigin
  exact ⟨st, hst, congrArg Prod.fst hmade, congrArg Prod.snd hmade, hopen⟩

-- =============================================================== the law

/-- What a caller gets is what it asked for.

Take any session that ordinary steps reach with links that pass
everything on, however many caches and trackers are among them, and a step
in which a caller asks a connection for a statement and gets a handle. No
caller has held that handle before. It says that it is open, of the SQL
that was asked for, or of none for a plain statement, of the kind that was
asked for, and of the connection that was asked. It stands on an open
statement that the driver made by a call of the same kind from the same
SQL, and neither another handle nor anything parked stands on that. -/
theorem granted_as_asked {links : List Link}
    (hlinks : ∀ link ∈ links, link.isFaithful = true)
    {guarded checkedOut : Bool} {steps : List Step}
    (hord : ∀ step ∈ steps, step.isOrdinary = true)
    (hfaith : ∀ step ∈ steps, step.isFaithful = true)
    {s t : Session} {step : Step} {name handle : String}
    {op : ConnectionOp}
    (hrun : s = (start links guarded checkedOut).run steps)
    (hstep : t = (s.step step).2) (hg : s.Grants step name op handle) :
    ∃ id n info st, t.statements.lookup handle = some id
      ∧ (∀ before after, steps = before ++ after →
        id ∉ ((start links guarded checkedOut).run before).held)
      ∧ (t.step (.onStatement handle .info)).1 = .statementInfo info
      ∧ info.closed = false ∧ info.sql = op.sql?
      ∧ op.creates? = some info.kind ∧ info.connection = some name
      ∧ t.state.Stands id n
      ∧ t.state.native.statement? n = some st ∧ st.closed = false
      ∧ op.creates? = some st.kind ∧ st.sql = op.sql?
      ∧ ∀ r ∈ t.owners, t.state.Stands r n → r = id := by
  have hfirst := sound_start links guarded checkedOut
  have hs : s.Sound := hrun ▸ hfirst.run hord
  have hl : s.Loyal := hrun ▸ loyal_run hlinks hord hfaith
  have hh : s.state.Homed := hrun ▸ homed_run hfirst hord (homed_start ..)
  have hk : s.state.Kindred :=
    hrun ▸ kindred_run hfirst hord (homed_start ..) (kindred_start ..)
  have hf : s.state.Filed fun _ _ => True :=
    hrun ▸ filed_run hfirst hord (filed_start ..) fun _ => trivial
  have hnamed : s.Named :=
    hrun ▸ named_run (named_start links guarded checkedOut) hfirst hord
  have hgrant : step.isOrdinary = true := hg.isOrdinary
  have ht : t.Sound := hstep ▸ hs.step hgrant
  have htl : t.Loyal :=
    hstep ▸ hl.step hs hgrant (by cases hg <;> rfl)
  have htnamed : t.Named := hstep ▸ named_step hnamed hs hgrant
  obtain ⟨c, id, l, hname, hid, hlayer, hof⟩ := hg.exists_layer hs hh hk hf
  obtain ⟨n, l', hn, hlayer', hsql, hkind, -⟩ := hg.opened hs hl hid
  obtain rfl : l' = l := Option.some.inj (hlayer'.symm.trans hlayer)
  have hnames : t.connections = s.connections := by
    rw [hstep]
    exact (sameNames_step s (by cases hg <;> rfl)).connections
  rw [← hstep] at hid hlayer hn
  obtain ⟨st, hst, hstkind, hstsql, hopen⟩ :=
    htl.exists_statement ht hlayer hn
  refine ⟨id, n, t.quiet.statementInfo id l', st, hid, ?_, ?_, ?_, hsql,
    hkind, ?_, hn, hst, hopen, by rw [hstkind]; exact hkind,
    hstsql.trans hsql, fun r hr hrn => ?_⟩
  · intro before after hsplit
    have hbefore : ∀ step ∈ before, step.isOrdinary = true := fun step hin =>
      hord step (hsplit ▸ List.mem_append_left _ hin)
    have hafter : ∀ step ∈ after, step.isOrdinary = true := fun step hin =>
      hord step (hsplit ▸ List.mem_append_right _ hin)
    refine hg.new_to_callers hs (hfirst.run hbefore) hafter ?_ (hstep ▸ hid)
    rw [hrun, hsplit, run_append]
  · have hlook : t.quiet.statements.lookup handle = some id := hid
    have hthere : t.quiet.state.layer? id = some l' := hlayer
    show (t.quiet.act (.onStatement handle .info)).1 = _
    rw [act, hlook]
    simp only
    rw [onStatement, hthere]
  · have hquiet := sound_quiet ht.scene
    exact (State.isClosed_eq_false_iff hquiet.formed.leveled
      hquiet.formed.hollow).2 ⟨n, hn.congr fun _ _ => rfl⟩
  · show l'.connection.bind (nameOf t.connections) = some name
    rw [hof, hnames]
    exact hnamed.nameOf_eq hname
  · exact ht.owner_unique hr (mem_owners.2 (.inl (held_of_lookup hid))) hrn hn

/-- A parked statement that a tracker closed is not handed out: who asks
for its SQL gets a statement that the driver makes. -/
theorem closed_underneath_is_made_anew :
    let links := [Link.cache .standard, .leakTracker]
    let steps := [
      Step.onConnection "p0" "x0" "c0" (.create (.prepareStatement "q") "a"),
      .onStatement "a" (.call .close),
      .onConnection "p0" "x0" "c0" (.call .close),
      .onConnection "p0" "x0" "c0" .checkOut]
    let s := (start links false true).run steps
    let ask := Step.onConnection "p0" "x0" "c0"
      (.create (.prepareStatement "q") "b")
    let t := (s.step ask).2
    s.state.parked = [3] ∧ s.state.isClosed 3 = true
      ∧ s.Grants ask "c0" (.prepareStatement "q") "b"
      ∧ t.state.native.driver.prepares = 2
      ∧ ∃ id n info st, t.statements.lookup "b" = some id
        ∧ (t.step (.onStatement "b" .info)).1 = .statementInfo info
        ∧ info.closed = false ∧ info.sql = some "q"
        ∧ info.connection = some "c0" ∧ t.state.Stands id n
        ∧ t.state.native.statement? n = some st ∧ st.closed = false
        ∧ st.sql = some "q" := by
  intro links steps s ask t
  have hg : s.Grants ask "c0" (.prepareStatement "q") "b" :=
    .create (by decide +kernel)
  obtain ⟨id, n, info, st, hid, -, hinfo, hopen, hsql, -, hof, hn, hst, ho,
    -, hmade, -⟩ := @granted_as_asked links (by decide) false true steps
      (by decide) (by decide) s t ask "c0" "b" _ rfl rfl hg
  exact ⟨by decide +kernel, by decide +kernel, hg, by decide +kernel, id, n,
    info, st, hid, hinfo, hopen, hsql, hof, hn, hst, ho, hmade⟩

end Session

end PooledChain
