/-
What the next holder of a statement is told.

A statement that a cache hands out replies like one that is prepared from
the same SQL at that moment and carries the parameters and the batch that
earlier holders left (`hit_replies_like_prepared`). Caches clear neither:
a holder who wants to start afresh has to do so himself, and where
nothing was left he need not.

Two things come together. What a caller gets through faithful links is
open, and of the kind and the SQL that were asked for (`Grants.opened`);
and each operation on an open handle is answered by the driver's
statement under it (`step_call`), whose answers depend on little
(`Native.Store.Mirrors`).
-/
import PooledChain.Proofs.Heap.Creation
import PooledChain.Proofs.Heap.Use

namespace PooledChain

open Scene (Sound)

/-- What a caller who asks for an operation is told of the driver's
answer. Rows lead back to the handle that was asked. -/
def StatementOp.told (op : StatementOp)
    (r : Except DriverError Native.Answer) : Reply :=
  match r with
  | .ok a => Session.calledReply 0 op (Act.stamp 0 (.ofNative a))
  | .error e => .failed (.driver e.unwrapped)

/-- Whether an operation uses a statement, neither closing it nor asking
whether it is closed. -/
def StatementOp.isUse : StatementOp → Bool
  | close => false
  | isClosed => false
  | _ => true

namespace Session

variable {s t : Session} {step : Step} {id : LayerId}
  {n : Native.StatementId} {name handle : String}

/-- The replies to the operations that a caller asks a handle for, one
after the other. -/
def replies (s : Session) (name : String) : List StatementOp → List Reply
  | [] => []
  | op :: rest =>
    (s.step (.onStatement name (.call op))).1
      :: (s.step (.onStatement name (.call op))).2.replies name rest

-- ======================================================= one operation

/-- A handle that callers use, and the statement under it. -/
structure Uses (s : Session) (name : String) (id : LayerId)
    (n : Native.StatementId) : Prop where
  sound : s.Sound
  loyal : s.Loyal
  named : s.statements.lookup name = some id
  stands : s.state.Stands id n
  facade : ∃ f, s.state.core id = .facade f

/-- Which handle the rows lead back to is not part of the reply's text. -/
theorem calledReply_stamp (id : LayerId) (op : StatementOp)
    (r : StatementReply) :
    calledReply id op (Act.stamp id r) = calledReply 0 op (Act.stamp 0 r) := by
  have hown : ∀ id : LayerId, ownRows id (some id) = some true := fun id => by
    rw [ownRows, Option.map_some, beq_self_eq_true]
  cases op with
  | executeQuery sql =>
      cases r with
      | rows rows d =>
          show Reply.resultSet (ownRows id (some id)) rows
            = .resultSet (ownRows 0 (some 0)) rows
          rw [hown, hown]
      | _ => rfl
  | _ => cases r <;> rfl

/-- An operation on an open handle is one on the statement under it; the
caller is told the answer, and can go on. -/
theorem Uses.step_call (h : s.Uses name id n) {op : StatementOp}
    (hop : op.isUse = true) :
    (s.step (.onStatement name (.call op))).1
        = op.told ((Native.perform n op).run s.state.native).1
      ∧ (s.step (.onStatement name (.call op))).2.state.native
        = ((Native.perform n op).run s.state.native).2
      ∧ (s.step (.onStatement name (.call op))).2.Uses name id n := by
  have hc : op ≠ .close := fun he => by
    rw [he] at hop
    cases hop
  have hi : op ≠ .isClosed := fun he => by
    rw [he] at hop
    cases hop
  have hquiet := sound_quiet h.sound.scene
  have hn : s.quiet.state.Stands id n := h.stands.congr fun _ _ => rfl
  obtain ⟨hr, hnative⟩ := Act.run_dispatch_open hc hi hquiet.formed
    (s := s.quiet.state) (fun hf => h.loyal.state.unwatched hf) hn
  obtain ⟨hmarks, -⟩ :=
    Act.marking_within (g := s.guarded) hc (s.quiet.state.core id).level id
      s.quiet.state
  have hmarks : Marks s.guarded _ s.quiet.state
    ((Act.dispatch id op).run s.quiet.state).2 := hmarks
  obtain ⟨f, hf⟩ := h.facade
  have hact : s.quiet.act (.onStatement name (.call op))
      = s.quiet.answer (Act.dispatch id op) (calledReply id op) := by
    have hnamed : s.quiet.statements.lookup name = some id := h.named
    rw [act, hnamed]
    rfl
  have hstep : s.step (.onStatement name (.call op))
      = (op.told ((Native.perform n op).run s.state.native).1,
          { s.quiet with
            state := ((Act.dispatch id op).run s.quiet.state).2 }) := by
    rw [step_of_dispatch h.sound hc (held_of_lookup h.named) hact, hact,
      answer, perform]
    refine Prod.ext ?_ rfl
    have hrise : ∀ r, s.quiet.state.rise id r = Act.stamp id r := fun r => by
      rw [State.rise, show s.quiet.state.core id = .facade f from hf]
    have hsame : s.quiet.state.native = s.state.native := rfl
    rcases hrun : (Act.dispatch id op).run s.quiet.state with ⟨r, t⟩
    rw [hrun] at hr
    simp only at hr
    subst hr
    rw [hsame]
    rcases ((Native.perform n op).run s.state.native).1 with e | a
    · rfl
    · show calledReply id op (s.quiet.state.rise id (.ofNative a)) = _
      rw [hrise, calledReply_stamp]
      rfl
  have hord : (Step.onStatement name (.call op)).isOrdinary = true := rfl
  have hsound := h.sound.step hord
  have hloyal := h.loyal.step h.sound hord rfl
  rw [hstep] at hsound hloyal ⊢
  exact ⟨rfl, hnative, hsound, hloyal, h.named, hmarks.stands.2 hn,
    hmarks.facade hf⟩

/-- The replies to a sequence of operations. -/
theorem Uses.replies_eq (h : s.Uses name id n) {ops : List StatementOp}
    (hops : ∀ op ∈ ops, op.isUse = true) :
    s.replies name ops = List.zipWith StatementOp.told ops
      (Native.answers n ops s.state.native) := by
  induction ops generalizing s with
  | nil => rfl
  | cons op rest ih =>
      obtain ⟨hr, hnative, hnext⟩ := h.step_call (hops op List.mem_cons_self)
      have hrest := ih hnext fun next hin =>
        hops next (List.mem_cons_of_mem _ hin)
      rw [replies, Native.answers, List.zipWith_cons_cons, hr, hrest, hnative]

-- ====================================================== what is handed out

/-- What a caller gets through faithful links is open, and is what was
asked for; if the driver has not made a statement for it, it is a facade
over one that was there. -/
theorem Grants.opened {op : ConnectionOp}
    (hg : s.Grants step name op handle) (h : s.Sound) (hl : s.Loyal)
    (hid : (s.step step).2.statements.lookup handle = some id) :
    ∃ n l, (s.step step).2.state.Stands id n
      ∧ (s.step step).2.state.layer? id = some l
      ∧ l.sql = op.sql? ∧ op.creates? = some l.kind
      ∧ (n < s.state.native.statements.length →
        ∃ f, (s.step step).2.state.core id = .facade f) := by
  obtain ⟨c, x, a, t, -, hc, hask, ha, hkept⟩ := hg.exists_settled h
  obtain rfl : a = id := Option.some.inj (ha.symm.trans hid)
  have hquiet := sound_quiet h.scene
  have hasks : Act.AsksBelow (.faithfully s.guarded) _
      (Act.askLinks c x.links) :=
    Act.asked_askLinks c fun _ link hlink => hl.links hc link hlink
  have hasked := hasks s.quiet.state s.held [] op hquiet
    (fun _ _ => trivial) fun _ => trivial
  rw [hask] at hasked
  obtain ⟨n, hn, hfacade⟩ := hasked.opened rfl
  obtain ⟨l, hlayer, hsql, hkind⟩ := hasked.wanted trivial rfl
  have hcore : ∀ y, t.Over a y →
      (s.step step).2.state.core y = t.core y := fun y hy => by
    rw [State.core, hkept y hy, State.core]
  refine ⟨n, l, hn.congr hcore, (hkept a .refl).trans hlayer, hsql, hkind,
    fun hlt => ?_⟩
  obtain ⟨f, hf⟩ := hfacade hlt
  exact ⟨f, (hcore a .refl).trans hf⟩

/-- What a cache hands out replies like what is prepared now and carries
what was left on it.

In every session that ordinary steps reach with links that pass
everything on, let a caller be given a statement for a SQL text that the
driver has made before. It is made from that text and of that kind, and
is open. Whatever the caller asks it for next, each reply is the one
that a statement would give that the driver prepares from the text at
this moment and that is bound to the same parameters and holds the same
commands for its next batch. So if none were left, it is the reply of the
statement that is prepared. -/
theorem hit_replies_like_prepared {links : List Link}
    (hlinks : ∀ link ∈ links, link.isFaithful = true)
    {guarded checkedOut : Bool} {steps : List Step}
    (hord : ∀ step ∈ steps, step.isOrdinary = true)
    (hf : ∀ step ∈ steps, step.isFaithful = true)
    {step : Step} {name handle sql : String} {op : ConnectionOp}
    {kind : StatementKind} {id : LayerId} {n : Native.StatementId}
    (hrun : s = (start links guarded checkedOut).run steps)
    (hstep : t = (s.step step).2) (hg : s.Grants step name op handle)
    (hkind : op.creates? = some kind) (hsql : op.sql? = some sql)
    (hid : t.statements.lookup handle = some id) (hn : t.state.Stands id n)
    (hlt : n < s.state.native.statements.length) :
    ∃ st, t.state.native.statement? n = some st ∧ st.sql = some sql
      ∧ st.kind = kind ∧ st.closed = false
      ∧ ∀ ops, (∀ op ∈ ops, op.isUse = true) → ∀ c m u,
        (Native.prepare c kind sql).run t.state.native = (.ok m, u) →
        t.replies handle ops = List.zipWith StatementOp.told ops
            (Native.answers m ops (u.leave m st.parameters st.batch))
          ∧ (st.parameters = [] → st.batch = [] →
            t.replies handle ops = List.zipWith StatementOp.told ops
              (Native.answers m ops u)) := by
  have hs : s.Sound := by
    rw [hrun]
    exact (sound_start links guarded checkedOut).run hord
  have hl : s.Loyal := by
    rw [hrun]
    exact loyal_run hlinks hord hf
  have hask : step.isOrdinary = true := by cases hg <;> rfl
  have hfaithful : step.isFaithful = true := by cases hg <;> rfl
  have ht : t.Sound := by
    rw [hstep]
    exact hs.step hask
  have htl : t.Loyal := by
    rw [hstep]
    exact hl.step hs hask hfaithful
  have hopened := @Grants.opened s step id name handle op hg hs hl
  rw [← hstep] at hopened
  obtain ⟨n', l, hn', hlayer, hlsql, hlkind, hfacade⟩ := hopened hid
  obtain rfl : n' = n := hn'.unique hn
  -- the statement under the handle
  obtain ⟨x, -, hx⟩ := hn.exists_native
  obtain ⟨st, hst, hopen⟩ := ht.scene.mem_handles hx
  have horigin : (t.state.native.statements.map Native.Statement.origin)[n']?
      = some st.origin := by
    rw [List.getElem?_map, show t.state.native.statements[n']? = some st
      from hst]
    rfl
  have hmade := htl.state.made hlayer hn horigin
  have hstsql : st.sql = some sql :=
    (congrArg Prod.snd hmade).trans (hlsql.trans hsql)
  have hstkind : st.kind = kind :=
    (congrArg Prod.fst hmade).trans
      (Option.some.inj (hlkind.symm.trans hkind))
  have huses : t.Uses handle id n' := ⟨ht, htl, hid, hn, hfacade hlt⟩
  refine ⟨st, hst, hstsql, hstkind, hopen, fun ops hops c m u hp => ?_⟩
  have hreplies := huses.replies_eq hops
  have hmirrors :=
    Native.mirrors_prepare htl.state.hosted hst hstsql hopen hp
  rw [← hmirrors.answers] at hreplies
  refine ⟨hreplies, fun hparameters hbatch => ?_⟩
  rw [hparameters, hbatch, Native.leave_nothing hp] at hreplies
  exact hreplies

/-- A command that was added to a batch and never run is run by the next
holder of the statement, as if he had added it himself. -/
theorem left_command_is_run :
    let links := [Link.cache .standard]
    let steps := [
      Step.onConnection "p0" "x0" "c0"
        (.create (.prepareStatement "q") "a"),
      .onStatement "a" (.call (.addBatch (some "insert 1"))),
      .onStatement "a" (.call .close)]
    let s := (start links false true).run steps
    let ask := Step.onConnection "p0" "x0" "c0"
      (.create (.prepareStatement "q") "b")
    let t := (s.step ask).2
    (∀ link ∈ links, link.isFaithful = true)
      ∧ (∀ step ∈ steps, step.isOrdinary = true)
      ∧ (∀ step ∈ steps, step.isFaithful = true)
      ∧ s.Grants ask "c0" (.prepareStatement "q") "b"
      ∧ t.statements.lookup "b" = some 2 ∧ t.state.Stands 2 0
      ∧ ∃ u, (Native.prepare 1 .prepared "q").run t.state.native = (.ok 1, u)
        ∧ t.replies "b" [.executeBatch, .executeBatch]
          = List.zipWith StatementOp.told [.executeBatch, .executeBatch]
            (Native.answers 1 [.executeBatch, .executeBatch]
              (u.leave 1 [] ["insert 1"])) := by
  intro links steps s ask t
  have hlinks : ∀ link ∈ links, link.isFaithful = true := by decide
  have hord : ∀ step ∈ steps, step.isOrdinary = true := by decide
  have hf : ∀ step ∈ steps, step.isFaithful = true := by decide
  have hg : s.Grants ask "c0" (.prepareStatement "q") "b" :=
    .create (by decide +kernel)
  have hid : t.statements.lookup "b" = some 2 := by decide +kernel
  have hholds : (t.state.core 2).delegate? = some 0 := by decide +kernel
  have hn : t.state.Stands 2 0 :=
    .facade hholds (.native (by decide +kernel))
  have hlt : 0 < s.state.native.statements.length := by decide +kernel
  obtain ⟨st, hst, -, -, -, hreplies⟩ :=
    @hit_replies_like_prepared s t links hlinks false true steps hord hf ask
      "c0" "b" "q" _ _ 2 0 rfl rfl hg rfl rfl hid hn hlt
  have hleft : t.state.native.statement? 0 = some
      { connection := 1, kind := .prepared, sql := some "q"
        batch := ["insert 1"] } := by decide +kernel
  obtain rfl := Option.some.inj (hst.symm.trans hleft)
  have hfresh : ((Native.prepare 1 .prepared "q").run t.state.native).1
      = .ok 1 := by decide +kernel
  obtain ⟨u, hprepared⟩ : ∃ u,
      (Native.prepare 1 .prepared "q").run t.state.native = (.ok 1, u) := by
    generalize (Native.prepare 1 .prepared "q").run t.state.native = r
      at hfresh
    exact ⟨r.2, Prod.ext hfresh rfl⟩
  obtain ⟨hsame, -⟩ := hreplies [.executeBatch, .executeBatch] (by decide)
    1 1 u hprepared
  exact ⟨hlinks, hord, hf, hg, hid, hn, u, hprepared, hsame⟩

/-- A cache does not hide who held a statement before: the parameter
that the earlier holder bound is in the rows of the next, and would not
be in those of a statement prepared at that moment. -/
theorem left_parameter_shows :
    let s := (start [.cache .standard] false true).run [
      .onConnection "p0" "x0" "c0"
        (.create (.prepareStatement "select 1") "a"),
      .onStatement "a" (.call (.setParameter 1 (.int 7))),
      .onStatement "a" (.call .close)]
    let ask := Step.onConnection "p0" "x0" "c0"
      (.create (.prepareStatement "select 1") "b")
    let t := (s.step ask).2
    let fresh := (Native.prepare 1 .prepared "select 1").run t.state.native
    s.Grants ask "c0" (.prepareStatement "select 1") "b"
      ∧ t.state.native.driver.prepares = 1 ∧ fresh.1 = .ok 1
      ∧ t.replies "b" [.executeQuery none]
        = [.resultSet (some true) ⟨["value"], [[.int 1], [.int 7]]⟩]
      ∧ List.zipWith StatementOp.told [.executeQuery none]
          (Native.answers 1 [.executeQuery none] fresh.2)
        = [.resultSet (some true) ⟨["value"], [[.int 1]]⟩] := by
  intro s ask t fresh
  exact ⟨.create (by decide +kernel), by decide +kernel, by decide +kernel,
    by decide +kernel, by decide +kernel⟩

end Session

end PooledChain
