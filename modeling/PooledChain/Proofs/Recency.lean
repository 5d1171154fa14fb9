/-
A cache follows its ledger.

Whatever is done with a connection and its statements, the cache lists
what its ledger lists, in the same order, and never more than there is
room for. What the ledger does not list and no caller holds is closed on
the driver's side; and a request for a statement is answered as the
ledger says, from the list without the driver, or by the driver
(`Session.cache_follows_ledger`).
-/
import PooledChain.Proofs.Bookkeeping

namespace PooledChain

-- =============================================== what the driver prepared

/-- How often the driver was asked to prepare, and from which SQL. -/
def Native.Store.prepared (s : Native.Store) : Nat × List String :=
  (s.driver.prepares, s.driver.preparedSql)

/-- Closing for good prepares nothing. -/
theorem Native.prepared_dispose (n : Native.StatementId)
    (s : Native.Store) :
    ((Native.dispose n).run s).2.prepared = s.prepared := by
  have hgiveUp : ∀ s : Native.Store, (s.giveUp n).prepared = s.prepared := by
    intro s
    rw [Native.Store.giveUp]
    split
    · rfl
    · next st _ =>
      cases hc : st.closed
        <;> simp [Native.Statement.giveUp, hc, Native.Store.prepared]
  have hrun : (Native.dispose n).run s
      = (((Native.perform n .close).run s).1.map fun _ => (),
         ((Native.perform n .close).run s).2.giveUp n) := rfl
  rw [hrun, hgiveUp]
  cases hst : s.statement? n with
  | none =>
      have hnone : (Native.perform n .close).run s
          = (.error Native.Statement.closedError, s) := by
        unfold Native.perform
        rw [Native.Act.run_bind, Native.Act.run_get]
        simp only [hst]
        rfl
      rw [hnone]
  | some st =>
      rw [Native.run_perform hst]
      cases s.refuses? st .close with
      | some e => rfl
      | none =>
          cases hc : st.closed
            <;> simp [Native.Statement.perform, hc, Native.Store.prepared]

/-- The walk asks the driver to prepare nothing. -/
theorem State.prepared_release (s : State) (held : List LayerId) :
    (s.release held).native.prepared = s.native.prepared := by
  refine State.release_congr (f := fun s => s.native.prepared)
    (fun s id => ?_) s held
  rw [State.releaseLayer]
  split
  · exact Native.prepared_dispose _ _
  · rfl

/-- The name that a step gives to a handle. -/
def ConnectionStep.handle? : ConnectionStep → Option String
  | create _ handle => some handle
  | invoke _ handle => some handle
  | _ => none

namespace Session

variable {s : Session} {above below : List Link} {config : CacheConfig}
  {l : Ledger} {e : Entry} {n : Native.StatementId} {sql : String}
  {kind : StatementKind} {pool physical name : String} {c : ConnectionId}
  {cstep : ConnectionStep} {op : ConnectionOp} {max : Nat} {id : LayerId}

-- ============================================== how requests are answered

/-- Whether a caller gets a handle over a statement of the driver. -/
def Gives (s : Session) (step : Step) (n : Native.StatementId) : Prop :=
  ∃ id, s.granted? step = some id ∧ (s.step step).2.state.Stands id n

/-- How a request of the connection `c` for a statement is answered, given
the entry that is listed for it. With `named`, the step has a name for the
handle. -/
inductive Answered (s : Session) (step : Step) (c : ConnectionId)
    (kind : StatementKind) (sql : String) (named : Bool) :
    Option Entry → Prop
  /-- The listed statement is handed out, and nothing is prepared. -/
  | listed {e : Entry} :
      (s.step step).2.state.native.prepared = s.state.native.prepared →
      (named = true → s.Gives step e.statement) →
      Answered s step c kind sql named (some e)
  /-- The driver prepares a statement, which is handed out. -/
  | prepared {n : Native.ConnectionId} {m : Native.StatementId}
      {st : Native.Store} : s.state.driver? c = some n →
      (Native.prepare n kind sql).run s.state.native = (.ok m, st) →
      (s.step step).2.state.native.prepared = st.prepared →
      (named = true → s.Gives step m) →
      Answered s step c kind sql named none
  /-- The driver refuses, and nothing is handed out. -/
  | refused {n : Native.ConnectionId} {e : DriverError}
      {st : Native.Store} : s.state.driver? c = some n →
      (Native.prepare n kind sql).run s.state.native = (.error e, st) →
      (s.step step).2.state.native.prepared = st.prepared →
      s.granted? step = none → Answered s step c kind sql named none

/-- Who asks under a name gets what comes up the chain. -/
theorem granted?_of_ask {q : PoolId} {y : PhysicalId} {x : Connection}
    (htarget : s.target? pool physical name = some (q, y, c, x))
    (hop : cstep.asked? = some op) (hnamed : cstep.handle?.isSome = true)
    {t : State} (hrun : (Act.askLinks c x.links op).run s.quiet.state
      = (.ok (.statement id), t)) :
    s.granted? (.onConnection pool physical name cstep) = some id := by
  have htarget : s.quiet.target? pool physical name = some (q, y, c, x) :=
    htarget
  have hx := (lookup_of_target? htarget).2
  have hact := act_of_target? htarget cstep
  have hreply : (s.step (.onConnection pool physical name cstep)).1
      = (s.quiet.onConnection q y c x cstep).1 := by
    rw [← hact]
    rfl
  have hnames : (s.step (.onConnection pool physical name
      cstep)).2.statements
      = (s.quiet.onConnection q y c x cstep).2.statements := by
    rw [← hact]
    rfl
  cases cstep with
  | create op' handle =>
      cases hop
      rw [granted?, hreply, hnames, onConnection, perform, Act.statementOf,
        Act.run_read c op (ConnectionReply.toStatement op.name),
        run_invokeOp hx, hrun]
      exact lookup_storeStatement _ handle id
  | invoke op' handle =>
      cases hop
      rw [granted?, hreply, hnames, onConnection, perform, run_invokeOp hx,
        hrun]
      simp only [bareConnectionReply]
      rw [if_pos trivial]
      exact lookup_storeStatement _ handle id
  | _ => cases hnamed

/-- What has been prepared after a request. -/
theorem prepared_asked {q : PoolId} {y : PhysicalId} {x : Connection}
    (h : s.Lone above config below)
    (htarget : s.target? pool physical name = some (q, y, c, x))
    (hop : cstep.asked? = some op) :
    (s.step (.onConnection pool physical name cstep)).2.state.native.prepared
      = ((Act.askLinks c (above ++ .cache config :: below) op).run
          s.quiet.state).2.native.prepared := by
  rw [← state_asked h htarget hop]
  exact State.prepared_release _ _

/-- What has just been lent stands on what was lent. -/
theorem Follows.stands_of_granted {step : Step} {k : LinkId}
    (hf : (s.step step).2.Follows k max (l.lend (s.granted? step) e))
    (hg : s.granted? step = some id) :
    (s.step step).2.state.Stands id e.statement := by
  obtain ⟨hl, -⟩ := (hf.told (held_of_granted hg)).lent
    (by rw [Ledger.get?_lend, if_pos hg])
  exact hl.stands

/-- Every request is answered as the ledger says. -/
theorem Wants.answered {below : List Link}
    (hw : s.Wants config pool physical name cstep c op kind sql)
    (h : s.Lone above config below)
    (hf : s.Follows ⟨0, below.length⟩ max l) :
    s.Answered (.onConnection pool physical name cstep) c kind sql
      cstep.handle?.isSome (l.find? sql kind) := by
  obtain ⟨q, y, x, htarget⟩ := hw.target
  have hlinks := (h.only (lookup_of_target? htarget).2).2
  have hprepared := prepared_asked h htarget hw.asked
  cases hfound : l.find? sql kind with
  | some e =>
      have hafter := hf.hit h hw hfound
      obtain ⟨b, t, hrun, -, hnative, -, -⟩ := hw.exists_taken h hf hfound
      rw [hrun, hnative] at hprepared
      refine .listed hprepared fun hnamed => ?_
      have hg := granted?_of_ask htarget hw.asked hnamed
        (by rw [hlinks]; exact hrun)
      exact ⟨b, hg, hafter.stands_of_granted hg⟩
  | none =>
      have hafter := hf.missed h hw hfound
      obtain ⟨n, hn, hs⟩ := hw.exists_supplies h hf hfound
      rw [op.making_eq_prepare hw.creates hw.sql] at hs
      have hmakes := Native.makes_prepare n kind sql s.state.native
      rcases hrun : (Act.askLinks c (above ++ .cache config :: below)
        op).run s.quiet.state with ⟨r, t⟩
      rcases hmade : (Native.prepare n kind sql).run s.state.native
        with ⟨made, st⟩
      rw [hrun, hmade] at hs
      rw [hrun] at hprepared
      rw [hmade] at hmakes
      cases hs with
      | refused hout _ _ hnative =>
          rw [hnative] at hprepared
          refine .refused hn hmade hprepared ?_
          refine Option.eq_none_iff_forall_ne_some.2 fun id hg => ?_
          obtain ⟨-, t', -, -, hask, -⟩ :=
            exists_asked h htarget hw.asked hg
          rw [hrun] at hask
          cases hask
          cases hout
      | @given m _ b _ _ _ _ hnative _ _ _ =>
          rw [hnative] at hprepared
          refine .prepared hn hmade hprepared fun hnamed => ?_
          obtain ⟨rfl, -⟩ := hmakes
          have hg := granted?_of_ask htarget hw.asked hnamed
            (by rw [hlinks]; exact hrun)
          exact ⟨b, hg, hafter.stands_of_granted hg⟩

-- ====================================================== what can be seen

/-- A step by which a statement of the sort that the cache keeps is wanted
of an open connection asks the connection for it. -/
theorem exists_wants {q : PoolId} {y : PhysicalId} {x : Connection}
    (htarget : s.target? pool physical name = some (q, y, c, x))
    (hwanted : cstep.wanted? config = some (kind, sql))
    (hopen : s.state.isClosedConnection c = false) :
    ∃ op, s.Wants config pool physical name cstep c op kind sql := by
  cases hop : cstep.asked? with
  | none =>
      rw [ConnectionStep.wanted?, hop] at hwanted
      cases hwanted
  | some op =>
      rw [wanted?_of_asked hop, Option.bind_eq_some_iff] at hwanted
      obtain ⟨kind', hk, hwanted⟩ := hwanted
      rw [Option.bind_eq_some_iff] at hwanted
      obtain ⟨sql', hsql, hwanted⟩ := hwanted
      split at hwanted
      · next hkept =>
        cases hwanted
        exact ⟨op, ⟨q, y, x, htarget⟩, hop, hk, hsql, hkept, hopen⟩
      · cases hwanted

namespace Follows

variable {k : LinkId}

/-- The cache shows what is listed. -/
theorem view (hf : s.Follows k max l) (h : s.Sound) :
    s.state.cacheView k = (l.listed.length, l.texts)
      ∧ l.listed.length ≤ max ∧ l.texts.Nodup := by
  obtain ⟨store, hstore, rfl, hshows⟩ := hf.reads.shelf
  have hshelved := h.scene.stocked.shelved (Keyed.mem_of_get? hstore)
  have htexts : store.texts = l.texts := texts_of_shows hshows
  have hsize : store.size = l.listed.length := hshows.length_eq
  refine ⟨?_, hsize ▸ hshelved.fits, htexts ▸ hshelved.distinct⟩
  rw [State.cacheView, hstore]
  show (store.size, store.texts) = _
  rw [hsize, htexts]

/-- A listed statement is on the shelf. -/
theorem exists_parked (hf : s.Follows k max l) (he : e ∈ l.listed) :
    ∃ a ∈ s.state.parked, s.state.Stands a e.statement := by
  obtain ⟨store, hstore, -, hshows⟩ := hf.reads.shelf
  have hflip : List.Forall₂ (flip s.state.Shows) l.listed store.entries :=
    List.Forall₂.flip hshows
  obtain ⟨p, hp, hshow⟩ := exists_of_forall₂ hflip he
  exact ⟨p.2, mem_parked_of_shelf hstore hp, hshow.stands⟩

/-- The open statements are those listed and those that callers hold. -/
theorem hasOpen_iff {below : List Link}
    (hf : s.Follows ⟨0, below.length⟩ max l)
    (h : s.Lone above config below) (n : Native.StatementId) :
    s.state.native.HasOpen n ↔ (∃ e ∈ l.listed, e.statement = n)
      ∨ ∃ id ∈ s.held, s.state.Stands id n := by
  constructor
  · intro hopen
    obtain ⟨r, hr, hn⟩ := h.sound.exists_owner hopen
    rcases mem_owners.1 hr with hheld | hparked
    · exact .inr ⟨r, hheld, hn⟩
    · obtain ⟨k, store, text, hk, hin⟩ := State.mem_onShelves.1 hparked
      have hk : s.state.caches.get? k = some store :=
        Keyed.get?_of_mem h.sound.scene.stocked.distinct hk
      obtain ⟨store', hstore, -, hshows⟩ := hf.reads.shelf
      rw [← h.sole hk, hk] at hstore
      cases hstore
      obtain ⟨e, he, hshow⟩ := exists_of_forall₂ hshows hin
      exact .inl ⟨e, he, hshow.stands.unique hn⟩
  · rintro (⟨e, he, rfl⟩ | ⟨id, -, hn⟩)
    · obtain ⟨a, -, hn⟩ := hf.exists_parked he
      exact h.sound.hasOpen hn
    · exact h.sound.hasOpen hn

/-- Nobody holds what is listed. -/
theorem not_stands_of_listed (hf : s.Follows k max l) (h : s.Sound)
    (he : e ∈ l.listed) (hid : id ∈ s.held) :
    ¬ s.state.Stands id e.statement := by
  intro hn
  obtain ⟨a, ha, han⟩ := hf.exists_parked he
  have hsame := h.owner_unique (mem_owners.2 (.inl hid))
    (mem_owners.2 (.inr ha)) hn han
  subst hsame
  exact h.scene.owned.not_parked_of_held hid ha

end Follows

-- =============================================================== the law

/-- A cache follows its ledger.

Take a chain with one cache that is turned on, the other links of which
only wrap what passes, and any run of ordinary steps that sets up and drops
no connection. The cache then shows what its ledger lists, the statement
that was put back last in front: never more than there is room for, and no
SQL twice. The statements that are open on the driver's side are those
that are listed, which are of the SQL and the kind that they are listed
for, and those that callers hold, and none is both; so whatever falls off
the list, or is not put back when its handle is closed, is closed. A
handle stands on what was lent with it. And when an open connection is
asked for a statement of a kind that the cache keeps, the listed statement
of that SQL and that kind is handed out, without the driver; if there is
none, also if the SQL is listed in another kind, the driver is asked for
one. -/
theorem cache_follows_ledger {above below : List Link} {config : CacheConfig}
    (habove : ∀ link ∈ above, link.isWrapper = true)
    (hbelow : ∀ link ∈ below, link.isWrapper = true)
    (hon : config.isEnabled = true) {guarded checkedOut : Bool}
    {steps : List Step} (hord : ∀ step ∈ steps, step.isOrdinary = true)
    (hkeeps : ∀ step ∈ steps, step.keepsConnections = true) :
    let first := start (above ++ .cache config :: below) guarded checkedOut
    let s := first.run steps
    let l := first.ledger config {} steps
    s.state.cacheView ⟨0, below.length⟩ = (l.listed.length, l.texts)
      ∧ l.listed.length ≤ config.max ∧ l.texts.Nodup
      ∧ (∀ n, s.state.native.HasOpen n ↔ (∃ e ∈ l.listed, e.statement = n)
        ∨ ∃ id ∈ s.held, s.state.Stands id n)
      ∧ (∀ e ∈ l.listed, e.MadeIn s.state.native
        ∧ ∀ id ∈ s.held, ¬ s.state.Stands id e.statement)
      ∧ (∀ id e, id ∈ s.held → l.lent.get? id = some e →
        s.state.Stands id e.statement ∧ e.MadeIn s.state.native)
      ∧ ∀ pool physical name cstep q y c x kind sql,
        s.target? pool physical name = some (q, y, c, x) →
        cstep.wanted? config = some (kind, sql) →
        s.state.isClosedConnection c = false →
        s.Answered (.onConnection pool physical name cstep) c kind sql
          cstep.handle?.isSome (l.find? sql kind) := by
  intro first s l
  have hlone : first.Lone above config below :=
    lone_start habove hbelow hon guarded checkedOut
  have hmax : 0 < config.max := by
    cases hk : config.kinds with
    | nil =>
        rw [CacheConfig.isEnabled, hk] at hon
        cases hon
    | cons kind _ =>
        exact (isEnabled_of_kinds (List.contains_iff_mem.2
          (hk ▸ List.mem_cons_self : kind ∈ config.kinds))).2
  have h : s.Lone above config below := hlone.run hord hkeeps
  have hf : s.Follows ⟨0, below.length⟩ config.max l :=
    (follows_start hon guarded checkedOut).run hlone hmax hord hkeeps
  obtain ⟨hview, hfits, hnodup⟩ := hf.view h.sound
  refine ⟨hview, hfits, hnodup, hf.hasOpen_iff h,
    fun e he => ⟨hf.made he, fun id hid =>
      hf.not_stands_of_listed h.sound he hid⟩,
    fun id e hid he => ?_,
    fun pool physical name cstep q y c x kind sql htarget hwanted hopen => ?_⟩
  · obtain ⟨hl, hm⟩ := (hf.told hid).lent he
    exact ⟨hl.stands, hm⟩
  · obtain ⟨op, hw⟩ := exists_wants htarget hwanted hopen
    exact hw.answered h hf

/-- Two handles are closed, one after the other: their statements are
listed, the later one in front, and who asks for the earlier one again
gets it from the list. -/
theorem closed_first_is_listed_last :
    let config : CacheConfig := { prepared := true, callable := false, max := 2 }
    let steps := [
      Step.onConnection "p0" "x0" "c0" (.create (.prepareStatement "p") "a"),
      .onConnection "p0" "x0" "c0" (.create (.prepareStatement "q") "b"),
      .onStatement "a" (.call .close), .onStatement "b" (.call .close)]
    let s := (start ([.decorator] ++ .cache config :: [.counter]) false
      true).run steps
    let ask := ConnectionStep.create (.prepareStatement "p") "d"
    (∀ step ∈ steps, step.isOrdinary = true)
      ∧ (∀ step ∈ steps, step.keepsConnections = true)
      ∧ s.state.cacheView ⟨0, 1⟩ = (2, ["q", "p"])
      ∧ s.Answered (.onConnection "p0" "x0" "c0" ask) 0 .prepared "p" true
          (some ⟨"p", .prepared, 0⟩) := by
  intro config steps s ask
  have hord : ∀ step ∈ steps, step.isOrdinary = true := by decide
  have hkeeps : ∀ step ∈ steps, step.keepsConnections = true := by decide
  obtain ⟨hview, -, -, -, -, -, hanswered⟩ :=
    @cache_follows_ledger [.decorator] [.counter] config (by decide)
      (by decide) (by decide) false true steps hord hkeeps
  have hledger : ((start ([.decorator] ++ .cache config :: [.counter]) false
      true).ledger config {} steps).listed
      = [⟨"q", .prepared, 1⟩, ⟨"p", .prepared, 0⟩] := by decide +kernel
  have htarget : s.target? "p0" "x0" "c0" = some (0, 0, 0,
      ⟨[.decorator, .cache config, .counter], ⟨some ⟨some 0, 0⟩, false⟩⟩) := by
    decide +kernel
  have hopen : s.state.isClosedConnection 0 = false := by decide +kernel
  have hasked := hanswered "p0" "x0" "c0" ask 0 0 0 _ .prepared "p" htarget
    rfl hopen
  rw [Ledger.find?, hledger] at hasked
  rw [Ledger.texts, hledger] at hview
  exact ⟨hord, hkeeps, hview, hasked⟩

end Session

end PooledChain
