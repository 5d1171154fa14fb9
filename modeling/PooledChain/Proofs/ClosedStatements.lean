/-
What becomes of a statement that is closed.

A handle is closed when it stands on nothing, whoever closed it or took
apart what is under it. It stays so for ever, for a layer never gets
back what it has lost; callers who use it are refused, and nothing else
notices, be it closed once more or used
(`closed_statement_is_dead`). A handle that is open stands on exactly
one statement of the driver, and each use of it is one call on that
statement.

The next holder of the same statement of the driver has a handle of his
own, which the old one does not lead to.
-/
import PooledChain.Proofs.Heap.Dead
import PooledChain.Proofs.Refusal
import PooledChain.Proofs.Reuse
import PooledChain.Proofs.Replies

namespace PooledChain

/-- A reply of a statement as the caller reads it who asked for it. -/
def StatementStep.reply (use : StatementStep) (id : LayerId) :
    StatementReply → Reply :=
  match use with
  | call op => Session.calledReply id op
  | _ => Session.bareReply id

/-- Who uses a statement neither closes it nor asks whether it is
closed. -/
theorem StatementOp.ne_of_isUse {op : StatementOp} (h : op.isUse = true) :
    op ≠ .close ∧ op ≠ .isClosed := by
  constructor <;> (intro he; rw [he] at h; cases h)

namespace Session

variable {s t : Session} {id : LayerId} {name : String}
  {use : StatementStep} {op : StatementOp} {n : Native.StatementId}

/-- Whether nothing changed on the driver's side, on the shelves, and
under any handle. -/
structure Spared (s t : Session) : Prop where
  native : t.state.native = s.state.native
  caches : t.state.caches = s.state.caches
  isClosed : ∀ other, t.state.isClosed other = s.state.isClosed other
  stands : ∀ other n, t.state.Stands other n ↔ s.state.Stands other n

-- ====================================================== asking a handle

/-- A step that asks a statement for an operation dispatches it to the layer
of that name. -/
theorem act_asked (huse : use.asked? = some op)
    (hid : s.statements.lookup name = some id) :
    s.act (.onStatement name use)
      = s.answer (Act.dispatch id op) (use.reply id) := by
  rw [act_onStatement hid]
  cases use with
  | call _ | dispatch _ =>
      cases huse
      rfl
  | _ => cases huse

/-- What a dispatch leaves is cleared up after. -/
theorem step_asked (huse : use.asked? = some op)
    (hid : s.statements.lookup name = some id) {r : StatementReply}
    {t : State} (hrun : (Act.dispatch id op).run s.quiet.state = (.ok r, t)) :
    s.step (.onStatement name use)
      = (use.reply id r, { s.quiet with state := t.release s.held }) := by
  have hact : s.quiet.act (.onStatement name use)
      = (use.reply id r, { s.quiet with state := t }) := by
    rw [act_asked (s := s.quiet) huse hid, answer, perform, hrun]
  show ((s.quiet.act (.onStatement name use)).1,
    (s.quiet.act (.onStatement name use)).2.settle) = _
  rw [hact]
  rfl

/-- A layer that has a name is there. -/
theorem held_not_released (h : s.Sound)
    (hid : s.statements.lookup name = some id) :
    s.quiet.state.core id ≠ .released :=
  (sound_quiet h.scene).owned.living (.inl (held_of_lookup hid))

/-- Emptying the journal is not noticed. -/
theorem unnoticed_quiet (s : Session) : s.state.Unnoticed s.quiet.state :=
  .of_alike ⟨rfl, rfl, rfl, rfl, fun h => h⟩

/-- A handle says whether it is closed. -/
theorem step_isClosed_asked (h : s.Sound)
    (huse : use.asked? = some .isClosed)
    (hid : s.statements.lookup name = some id) :
    s.step (.onStatement name use)
      = (use.reply id (.bool (s.state.isClosed id)), s.quiet) := by
  refine step_of_act h ?_
  have hrun := Act.run_dispatch_isClosed (held_not_released h hid)
  have hsame := (unnoticed_quiet s).isClosed_eq h.scene.formed
    (sound_quiet h.scene).formed id
  rw [act_asked huse (s := s.quiet) hid, answer, perform, hrun, hsame]

/-- A closed handle refuses to be used, and nothing changes. -/
theorem step_use_dead (h : s.Sound) (hl : s.Loyal)
    (huse : use.asked? = some op) (hop : op.isUse = true)
    (hid : s.statements.lookup name = some id) (hdead : s.state.Dead id) :
    s.step (.onStatement name use)
      = (.failed (.closed .statement), s.quiet) := by
  obtain ⟨hc, hi⟩ := StatementOp.ne_of_isUse hop
  refine step_of_act h ?_
  have hrun : (Act.dispatch id op).run s.quiet.state
      = (.error (.closed .statement), s.quiet.state) :=
    Act.run_within_dead hc hi (sound_quiet h.scene).formed
      (fun hf => hl.state.unwatched hf)
      (fun n hn => hdead n (hn.congr fun _ _ => rfl)) (Nat.le_refl _)
  rw [act_asked huse (s := s.quiet) hid, answer, perform, hrun]

/-- A closed handle can be closed once more, and nothing else
notices. -/
theorem step_close_dead (h : s.Sound) (huse : use.asked? = some .close)
    (hid : s.statements.lookup name = some id) (hdead : s.state.Dead id) :
    ∃ t, s.step (.onStatement name use) = (use.reply id .unit, t)
      ∧ s.Spared t := by
  have hquiet := sound_quiet h.scene
  obtain ⟨t, hrun, ht⟩ := Act.exists_close_dead hquiet.whole
    (held_not_released h hid)
    (fun n hn => hdead n (hn.congr fun _ _ => rfl)) (Nat.le_refl _)
  have hdispatch : (Act.dispatch id .close).run s.quiet.state
      = (.ok .unit, t) := hrun
  have hsound : Scene.Sound ⟨t, s.held, none, []⟩ := by
    have hm : Moves (.free s.guarded) _
        ⟨((Act.dispatch id .close).run s.quiet.state).2, s.held, none, []⟩ :=
      Act.moves_dispatch hquiet (held_of_lookup hid) (fun _ => trivial)
        fun _ _ _ => trivial
    rw [hdispatch] at hm
    exact hm.sound hquiet
  have hrelease : s.state.Unnoticed (t.release s.held) :=
    ((unnoticed_quiet s).trans ht).release h.tidy h.scene.formed hsound
  have hformed : (t.release s.held).Formed := by
    have hm : Moves (.free false) _ ⟨t.release s.held, s.held, none, []⟩ :=
      (State.moves_release hsound).1
    exact (hm.sound hsound).formed
  exact ⟨_, step_asked huse hid hdispatch, hrelease.native, hrelease.caches,
    hrelease.isClosed_eq h.scene.formed hformed,
    fun _ _ => hrelease.stands_iff h.scene.formed⟩

/-- A use of an open handle is one call on the statement under it. -/
theorem native_step_use (h : s.Sound) (hl : s.Loyal)
    (huse : use.asked? = some op) (hop : op.isUse = true)
    (hid : s.statements.lookup name = some id) (hn : s.state.Stands id n) :
    (s.step (.onStatement name use)).2.state.native
      = ((Native.perform n op).run s.state.native).2 := by
  obtain ⟨hc, hi⟩ := StatementOp.ne_of_isUse hop
  obtain ⟨-, hnative⟩ := Act.run_dispatch_open hc hi
    (sound_quiet h.scene).formed (fun hf => hl.state.unwatched hf)
    (s := s.quiet.state) (hn.congr fun _ _ => rfl)
  rw [step_of_dispatch h hc (held_of_lookup hid)
    (act_asked huse (s := s.quiet) hid)]
  exact hnative

/-- What is closed stays closed. -/
theorem isClosed_run (h : s.Sound) {later : List Step}
    (hord : ∀ step ∈ later, step.isOrdinary = true)
    (hid : id < s.state.layers.length) (hclosed : s.state.isClosed id = true) :
    (s.run later).state.isClosed id = true := by
  have hdead := (State.isClosed_eq_true_iff h.scene.formed).1 hclosed
  have hm := moves_run h hord
  refine (State.isClosed_eq_true_iff (h.run hord).scene.formed).2
    fun n hn => hdead n ?_
  exact hm.later.stands h.scene.formed.older hid hn

/-- A closed statement is dead for ever.

In every session that ordinary steps reach with links that pass
everything on, take a handle that a caller has. It says whether it is
closed. Once it is, by whomever, it is closed in every session that
follows. Using it is refused with the error for a closed statement, and
the session is as it was before, all of its state included; only the
notes of the last step are gone. Closing it once more succeeds; nothing
on the driver's side and on no shelf changes by it, and every handle is
over what it was over, so it is as open or closed as it was.

While it is not closed, it stands on exactly one statement of the
driver, an open one, and each use of it is one call on that statement and
nothing else for the driver. -/
theorem closed_statement_is_dead {links : List Link}
    (hlinks : ∀ link ∈ links, link.isFaithful = true)
    {guarded checkedOut : Bool} {steps : List Step}
    (hord : ∀ step ∈ steps, step.isOrdinary = true)
    (hf : ∀ step ∈ steps, step.isFaithful = true)
    {name : String} {id : LayerId} :
    let s := (start links guarded checkedOut).run steps
    s.statements.lookup name = some id →
    (∀ use, use.asked? = some .isClosed →
        s.step (.onStatement name use)
          = (use.reply id (.bool (s.state.isClosed id)), s.quiet))
      ∧ (s.state.isClosed id = true →
        (∀ later, (∀ step ∈ later, step.isOrdinary = true) →
            (s.run later).state.isClosed id = true)
          ∧ (∀ use op, use.asked? = some op → op.isUse = true →
            s.step (.onStatement name use)
              = (.failed (.closed .statement), s.quiet))
          ∧ ∀ use, use.asked? = some .close →
            ∃ t, s.step (.onStatement name use) = (use.reply id .unit, t)
              ∧ s.Spared t)
      ∧ (s.state.isClosed id = false →
        ∃ n, (∀ m, s.state.Stands id m ↔ m = n)
          ∧ s.state.native.HasOpen n
          ∧ ∀ use op, use.asked? = some op → op.isUse = true →
            (s.step (.onStatement name use)).2.state.native
              = ((Native.perform n op).run s.state.native).2) := by
  intro s hid
  have hs : s.Sound := (sound_start links guarded checkedOut).run hord
  have hl : s.Loyal := loyal_run hlinks hord hf
  have hformed := hs.scene.formed
  refine ⟨fun use huse => step_isClosed_asked hs huse hid,
    fun hclosed => ?_, fun hopen => ?_⟩
  · have hdead := (State.isClosed_eq_true_iff hformed).1 hclosed
    have hlt : id < s.state.layers.length :=
      State.lt_of_core (held_not_released hs hid)
    exact ⟨fun later hlater => isClosed_run hs hlater hlt hclosed,
      fun use op huse hop => step_use_dead hs hl huse hop hid hdead,
      fun use huse => step_close_dead hs huse hid hdead⟩
  · obtain ⟨n, hn⟩ :=
      (State.isClosed_eq_false_iff hformed.leveled hformed.hollow).1 hopen
    obtain ⟨x, -, hx⟩ := hn.exists_native
    refine ⟨n, fun m => ⟨fun hm => hm.unique hn, fun he => he ▸ hn⟩,
      hs.scene.mem_handles hx, fun use op huse hop => ?_⟩
    exact native_step_use hs hl huse hop hid hn

/-- A tracker closes a facade under a handle when the connection is
closed, and the cache below hands the statement out once more. The old
handle cannot bind a parameter of it, nor close it. -/
theorem handle_over_closed_facade_is_dead :
    let links := [Link.decorator, .leakTracker, .cache .standard]
    let steps := [
      Step.onConnection "p0" "x0" "c0" (.create (.prepareStatement "q") "a"),
      .onConnection "p0" "x0" "c0" (.call .close),
      .onConnection "p0" "x0" "c0" .checkOut,
      .onConnection "p0" "x0" "c0" (.create (.prepareStatement "q") "b")]
    let s := (start links false true).run steps
    (∀ link ∈ links, link.isFaithful = true)
      ∧ (∀ step ∈ steps, step.isOrdinary = true)
      ∧ (∀ step ∈ steps, step.isFaithful = true)
      ∧ s.statements.lookup "a" = some 3 ∧ s.statements.lookup "b" = some 6
      ∧ s.state.isClosed 3 = true ∧ s.state.isClosed 6 = false
      ∧ s.state.native.driver.prepares = 1
      ∧ s.step (.onStatement "a" (.call (.setParameter 1 (.int 7))))
        = (.failed (.closed .statement), s.quiet)
      ∧ ∃ t, s.step (.onStatement "a" (.call .close)) = (.unit, t)
        ∧ s.Spared t := by
  intro links steps s
  have hlinks : ∀ link ∈ links, link.isFaithful = true := by decide
  have hord : ∀ step ∈ steps, step.isOrdinary = true := by decide
  have hf : ∀ step ∈ steps, step.isFaithful = true := by decide
  have ha : s.statements.lookup "a" = some 3 := by decide +kernel
  have hclosed : s.state.isClosed 3 = true := by decide +kernel
  obtain ⟨-, hdead, -⟩ := closed_statement_is_dead hlinks hord hf ha
  obtain ⟨-, hrefused, hclose⟩ := hdead hclosed
  exact ⟨hlinks, hord, hf, ha, by decide +kernel, hclosed,
    by decide +kernel, by decide +kernel, hrefused _ _ rfl rfl,
    hclose (.call .close) rfl⟩

end Session

end PooledChain
