/-
What is left after a physical connection is gone.

When a connection hears that it lost its physical connection, its caches
are emptied for good (`Session.discard_ends_cached_statements`). What was
parked in them is closed, by the law of owners: had one of those
statements stayed open, it would be under a handle or on a shelf, but no
handle had it before, and no shelf of that connection is left with
anything (`not_hasOpen_of_loses`). What callers still hold may be closed
later, but it is of an earlier generation than any shelf and is not
parked; that is `Session.filed_run`, for the statements that are newer
than the loss.

The same law, for the statements made on one physical connection, settles
what a pool may count on that changes the physical connection of a
connection only after it told it of the loss (`Session.hearsFirst`): what
the connection gives to callers was made on what it is attached to. What
is carried from step to step is `Session.Settled`.
-/
import PooledChain.Proofs.Heap.Drained
import PooledChain.Proofs.Heap.Making
import PooledChain.Proofs.Ownership
import PooledChain.Proofs.Returns

namespace PooledChain

variable {c i : ConnectionId} {n : Native.StatementId} {a : LayerId}

/-- Whether the statement `n` was made on the physical connection `x`. -/
def State.RunsOn (s : State) (x : PhysicalId) (n : Native.StatementId) :
    Prop :=
  ∃ q st, s.physical? x = some q ∧ s.native.statement? n = some st
    ∧ st.connection = q.native

/-- What a statement is of is settled when it is made. -/
theorem Moves.exists_statement {p : Terms} {c c' : Scene} (hm : Moves p c c')
    (h : c.Sound) {st : Native.Statement}
    (hn : c.state.native.statement? n = some st) :
    ∃ st', c'.state.native.statement? n = some st' ∧ st'.origin = st.origin := by
  obtain ⟨new, horigins, -⟩ := hm.origins h
  have hget : (c.state.native.statements.map Native.Statement.origin)[n]?
      = some st.origin := by
    rw [List.getElem?_map]
    exact congrArg (Option.map Native.Statement.origin) hn
  have hlt := (List.getElem?_eq_some_iff.1 hget).1
  have hsame : (c.state.native.statements.map Native.Statement.origin ++ new)[n]?
      = _ := List.getElem?_append_left hlt
  rw [← hsame, ← horigins, List.getElem?_map] at hget
  exact Option.map_eq_some_iff.1 hget

/-- What is parked is kept for some connection. -/
theorem State.exists_keeps {s : State} (ha : a ∈ s.parked) :
    ∃ i, s.Keeps i a := by
  obtain ⟨k, store, sql, hk, he⟩ := State.mem_onShelves.1 ha
  exact ⟨k.connection, k, store, sql, hk, he, rfl⟩

/-- What is on a shelf is a facade of a cache of that connection. -/
theorem State.Stocked.exists_cachedBy {s : State} (h : s.Stocked)
    (ha : s.Keeps i a) : ∃ k store, k.connection = i
      ∧ s.caches.get? k = some store
      ∧ CachedBy k store.generation (s.core a) := by
  obtain ⟨k, store, sql, hk, he, rfl⟩ := ha
  exact ⟨k, store, rfl, Keyed.get?_of_mem h.distinct hk, h.cachedBy hk he⟩

namespace Session

variable {s : Session} {step : Step}

-- ============================================== when it hears of the loss

/-- Nothing is left on the shelves of a connection. -/
theorem not_keeps_of_loses (h : s.Sound) (hi : s.state.Installed)
    {Q : ConnectionId → Native.StatementId → Prop} (hf : s.state.Filed Q)
    (hloses : s.loses c step = true) : ¬ (s.step step).2.state.Keeps c a := by
  rintro ⟨k, store, sql, hk, he, hkc⟩
  have hstocked := (h.step (isOrdinary_of_loses hloses)).scene.stocked
  have hempty := (outdated_of_loses h hf hi hloses hkc).entries_eq_nil
    hstocked (Keyed.get?_of_mem hstocked.distinct hk)
  rw [hempty] at he
  cases he

/-- What was on them is not open any more. -/
theorem not_hasOpen_of_loses (h : s.Sound) (hi : s.state.Installed)
    {Q : ConnectionId → Native.StatementId → Prop} (hf : s.state.Filed Q)
    (hh : s.state.Homed) (hloses : s.loses c step = true)
    (ha : s.state.Keeps c a) (hn : s.state.Stands a n) :
    ¬ (s.step step).2.state.native.HasOpen n := by
  intro hopen
  have hord := isOrdinary_of_loses hloses
  obtain ⟨hm, -⟩ := moves_step hord h.scene (suits_free s step _)
  have hsound := h.step hord
  have hparked : a ∈ s.owners := mem_owners.2 (.inr ha.mem_parked)
  obtain ⟨b, hb, hbn⟩ := hsound.exists_owner hopen
  rcases mem_owners.1 hb with hheld | hshelf
  · -- a handle that a caller holds: the caller held it before
    have hheld : b ∈ s.held := by
      rw [held, ← held_of_loses hloses]
      exact hheld
    have hlt := State.lt_of_core (h.scene.owned.living (.inl hheld))
    have hbefore : s.state.Stands b n :=
      hm.later.stands h.scene.formed.older hlt hbn
    obtain rfl := h.owner_unique (mem_owners.2 (.inl hheld)) hparked hbefore hn
    exact h.scene.owned.apart hheld
      (Scene.mem_owned.2 (.inr (.inl ha.mem_parked)))
  · -- a facade on a shelf: one of the same connection
    obtain ⟨i, hkeeps⟩ := State.exists_keeps hshelf
    obtain ⟨k, store, rfl, -, hcached⟩ :=
      hsound.scene.stocked.exists_cachedBy hkeeps
    obtain ⟨k', store', rfl, -, hcached'⟩ :=
      h.scene.stocked.exists_cachedBy ha
    have hnow := (homed_step h hord hh).facade hcached hbn
    have hbefore : s.state.MadeFor k.connection n :=
      hm.madeFor_before h.scene (h.hasOpen hn).lt hnow
    have hsame := h.scene.madeFor_unique hbefore (hh.facade hcached' hn)
    rw [hsame] at hkeeps
    exact not_keeps_of_loses h hi hf hloses hkeeps

/-- A statement that was kept for a connection is closed when the connection
hears of a loss. -/
theorem exists_closed_of_loses (h : s.Sound) (hi : s.state.Installed)
    {Q : ConnectionId → Native.StatementId → Prop} (hf : s.state.Filed Q)
    (hh : s.state.Homed) (hloses : s.loses c step = true)
    (ha : s.state.Keeps c a) (hn : s.state.Stands a n) :
    ∃ st, (s.step step).2.state.native.statement? n = some st
      ∧ st.closed = true := by
  obtain ⟨hm, -⟩ := moves_step (isOrdinary_of_loses hloses) h.scene
    (suits_free s step _)
  obtain ⟨old, hold, -⟩ := h.hasOpen hn
  obtain ⟨st, hst, -⟩ := hm.exists_statement h.scene hold
  have hnot := not_hasOpen_of_loses h hi hf hh hloses ha hn
  exact ⟨st, hst, Bool.of_not_eq_false fun hopen => hnot ⟨st, hst, hopen⟩⟩

-- =================================================== ever after

/-- Of the caches of a connection that lost its physical connection, no
facade that is not out of date stands on a statement of before. -/
theorem filed_after_loss (h : s.Sound) (hi : s.state.Installed)
    {Q : ConnectionId → Native.StatementId → Prop} (hf : s.state.Filed Q)
    (hloses : s.loses c step = true) {later : List Step}
    (hord : ∀ step ∈ later, step.isOrdinary = true) :
    ((s.step step).2.run later).state.Filed fun i n => i = c →
      (s.step step).2.state.native.statements.length ≤ n :=
  filed_run (h.step (isOrdinary_of_loses hloses)) hord
    (filed_of_loses h hf hi hloses fun hne he => absurd he hne)
    fun hn _ => hn

/-- Whether a connection has a statement for callers: one of its caches
has it, or the connection gives it to a caller that asks. -/
def Offers (s : Session) (i : ConnectionId) (n : Native.StatementId) :
    Prop :=
  (∃ a, s.state.Keeps i a ∧ s.state.Stands a n)
    ∨ ∃ step name op handle a, s.Grants step name op handle
      ∧ s.connections.lookup name = some i
      ∧ (s.step step).2.statements.lookup handle = some a
      ∧ (s.step step).2.state.Stands a n

/-- What is offered was made for the connection that offers it, and is
what it may have. -/
theorem Offers.exists_madeFor {t u : Session} (ho : u.Offers i n)
    (h : t.Sound) {later : List Step}
    (hord : ∀ step ∈ later, step.isOrdinary = true) (hu : u = t.run later)
    {Q : ConnectionId → Native.StatementId → Prop} (hf : u.state.Filed Q)
    (hh : u.state.Homed)
    (hQ : ∀ {i n}, t.state.native.statements.length ≤ n → Q i n) :
    Q i n ∧ ∃ p v, Moves p t.scene v ∧ v.state.MadeFor i n := by
  subst hu
  have hsound := h.run hord
  have hm := moves_run h hord
  rcases ho with ⟨a, ha, hn⟩ | ⟨step, name, op, handle, a, hg, hname, ha, hn⟩
  · obtain ⟨k, store, rfl, hk, hcached⟩ :=
      hsound.scene.stocked.exists_cachedBy ha
    exact ⟨hf.present hcached hk rfl hn, _, _, hm, hh.facade hcached hn⟩
  · obtain ⟨j, b, m, hname', hb, hm', hmade, hQm⟩ := hg.exists_filed hsound hh
      hf fun _ hn => hQ (Nat.le_trans (hm.statements_le h.scene) hn)
    obtain rfl : j = i := Option.some.inj (hname'.symm.trans hname)
    obtain rfl : b = a := Option.some.inj (hb.symm.trans ha)
    obtain rfl := hn.unique hm'
    have hall : ∀ st ∈ later ++ [step], st.isOrdinary = true :=
      List.forall_mem_append.2
        ⟨hord, List.forall_mem_singleton.2 hg.isOrdinary⟩
    have hrun := moves_run h hall
    rw [run_append] at hrun
    exact ⟨hQm, _, _, hrun, hmade⟩

/-- A connection that lost its physical connection never again offers a
statement of before, and neither does another one offer what was made for
it. -/
theorem not_offers_after_loss (h : s.Sound) (hi : s.state.Installed)
    {Q : ConnectionId → Native.StatementId → Prop} (hf : s.state.Filed Q)
    (hh : s.state.Homed) (hloses : s.loses c step = true)
    {later : List Step} (hord : ∀ step ∈ later, step.isOrdinary = true)
    (hlt : n < (s.step step).2.state.native.statements.length)
    (hn : i = c ∨ (s.step step).2.state.MadeFor c n) :
    ¬ ((s.step step).2.run later).Offers i n := by
  intro ho
  have hstep := isOrdinary_of_loses hloses
  have ht := h.step hstep
  obtain ⟨hnewer, p, v, hm, hmade⟩ := ho.exists_madeFor ht hord rfl
    (filed_after_loss h hi hf hloses hord)
    (homed_run ht hord (homed_step h hstep hh)) fun hn _ => hn
  have hic : i = c := by
    rcases hn with he | hn
    · exact he
    · exact ht.scene.madeFor_unique (hm.madeFor_before ht.scene hlt hmade) hn
  exact absurd hlt (Nat.not_lt_of_le (hnewer hic))

-- ======================================= on what statements were made

/-- A statement stays with the physical connection that it was made on. -/
theorem runsOn_step (h : s.Sound) (hord : step.isOrdinary = true)
    {x : PhysicalId} (hn : s.state.RunsOn x n) :
    (s.step step).2.state.RunsOn x n := by
  obtain ⟨q, st, hq, hst, hconn⟩ := hn
  obtain ⟨q', hq', hnative⟩ := lasting_step s step x q hq
  obtain ⟨hm, -⟩ := moves_step hord h.scene (suits_free s step _)
  obtain ⟨st', hst', horigin⟩ := hm.exists_statement h.scene hst
  refine ⟨q', st', hq', hst', ?_⟩
  have hconn' : st'.connection = st.connection := congrArg Prod.fst horigin
  rw [hconn', hconn, hnative]

/-- What is made in a step that asks a connection for a statement is made
on the physical connection that it is attached to. -/
theorem exists_runsOn_of_creates (h : s.Sound) (hc : s.Creates step c)
    (hnew : s.state.native.statements.length ≤ n)
    (hopen : (s.step step).2.state.native.HasOpen n) :
    ∃ y, s.state.attached? c = some y ∧ (s.step step).2.state.RunsOn y n := by
  obtain ⟨st, hst, -⟩ := hopen
  have hdriver := (madeOn_step h hc).2.connection hst hnew
  obtain ⟨q, hq, hnative⟩ := Option.map_eq_some_iff.1 hdriver.symm
  obtain ⟨y, hy, hq⟩ := Option.bind_eq_some_iff.1 hq
  obtain ⟨q', hq', hnative'⟩ := lasting_step s step y q hq
  exact ⟨y, hy, q', st, hq', hst, (hnative'.trans hnative).symm⟩

end Session

/-- Whether a connection that was attached to `last`, if to anything, is
now attached to nothing else. -/
def State.keepsTo (s : State) (c : ConnectionId)
    (last : Option PhysicalId) : Bool :=
  match last, s.attached? c with
  | some x, some y => x == y
  | _, _ => true

namespace Session

variable {s : Session} {step : Step} {last : Option PhysicalId}

/-- What still counts after a step of what a connection was attached to
before: nothing, if it heard of a loss. -/
def stillAttached (s : Session) (c : ConnectionId)
    (last : Option PhysicalId) (step : Step) : Option PhysicalId :=
  if s.loses c step then none else last

/-- Whether a connection hears of the loss of a physical connection before
it is attached to another one; `last` is what it was attached to since it
last heard of a loss. -/
def hearsFirst (c : ConnectionId) :
    Option PhysicalId → Session → List Step → Bool
  | _, _, [] => true
  | last, s, step :: rest =>
    let t := (s.step step).2
    let last := s.stillAttached c last step
    t.state.keepsTo c last
      && hearsFirst c ((t.state.attached? c).or last) t rest

/-- Whether the caches of a connection have statements of the physical
connection only that it was attached to last. -/
structure Settled (c : ConnectionId) (last : Option PhysicalId)
    (s : Session) : Prop where
  attached : ∀ {x}, s.state.attached? c = some x → last = some x
  filed : s.state.Filed fun i n => i = c →
    ∃ x, last = some x ∧ s.state.RunsOn x n

/-- What the connection has, or gets in a step. -/
theorem Settled.filed_with (hs : Settled c last s) (h : s.Sound)
    (step : Step) : s.state.Filed fun i n => i = c →
      (s.Creates step c ∧ s.state.native.statements.length ≤ n)
        ∨ ∃ x, last = some x ∧ s.state.RunsOn x n :=
  hs.filed.mono (fun _ hQ hc => .inr (hQ hc)) h.scene.backed

/-- All of it was made on what the connection is attached to. -/
theorem Settled.exists_runsOn (hs : Settled c last s) (h : s.Sound)
    (hord : step.isOrdinary = true)
    (hn : (s.Creates step c ∧ s.state.native.statements.length ≤ n)
      ∨ ∃ x, last = some x ∧ s.state.RunsOn x n)
    (hopen : (s.step step).2.state.native.HasOpen n) :
    ∃ x, last = some x ∧ (s.step step).2.state.RunsOn x n := by
  rcases hn with ⟨hcreates, hnew⟩ | ⟨x, hx, hn⟩
  · obtain ⟨y, hy, hn⟩ := exists_runsOn_of_creates h hcreates hnew hopen
    exact ⟨y, hs.attached hy, hn⟩
  · exact ⟨x, hx, runsOn_step h hord hn⟩

/-- A step keeps the caches settled if the connection hears of a loss before
it is attached elsewhere. -/
theorem settled_step (hs : Settled c last s) (h : s.Sound)
    (hi : s.state.Installed) (hord : step.isOrdinary = true)
    (hkeeps : (s.step step).2.state.keepsTo c
      (s.stillAttached c last step) = true) :
    Settled c (((s.step step).2.state.attached? c).or
      (s.stillAttached c last step)) (s.step step).2 := by
  refine ⟨fun hx => by rw [hx]; rfl, ?_⟩
  by_cases hloses : s.loses c step = true
  · exact filed_of_loses h hs.filed hi hloses fun hne he => absurd he hne
  · rw [stillAttached, if_neg hloses] at hkeeps ⊢
    have hfiled := filed_step h hord (hs.filed_with h step)
      fun hcreates hn hc => .inl ⟨hc ▸ hcreates, hn⟩
    refine hfiled.mono (fun {i n} hopen hQ hc => ?_)
      (h.step hord).scene.backed
    obtain ⟨x, rfl, hn⟩ := hs.exists_runsOn h hord (hQ hc) hopen
    refine ⟨x, ?_, hn⟩
    cases hy : (s.step step).2.state.attached? c with
    | none => rfl
    | some y =>
        simp only [State.keepsTo, hy] at hkeeps
        rw [beq_iff_eq.1 hkeeps]
        rfl

/-- A whole run keeps a session settled. -/
theorem settled_run (hs : Settled c last s) (h : s.Sound)
    (hi : s.state.Installed) {steps : List Step}
    (hord : ∀ step ∈ steps, step.isOrdinary = true)
    (hhears : hearsFirst c last s steps = true) :
    ∃ last, Settled c last (s.run steps) := by
  induction steps generalizing s last with
  | nil => exact ⟨last, hs⟩
  | cons step steps ih =>
      have hstep := hord step List.mem_cons_self
      rw [hearsFirst, Bool.and_eq_true] at hhears
      exact ih (settled_step hs h hi hstep hhears.1) (h.step hstep)
        (installed_step hi h.scene hstep)
        (fun st hst => hord st (List.mem_cons_of_mem _ hst)) hhears.2

/-- At the start the caches are empty. -/
theorem settled_start (links : List Link) (guarded checkedOut : Bool) :
    let s := start links guarded checkedOut
    Settled c (s.state.attached? c) s :=
  ⟨fun h => h, filed_start ..⟩

-- ============================================== what callers are given

variable {op : ConnectionOp} {name handle : String}

/-- What callers are given was made on what the connection is attached
to. -/
theorem Grants.exists_runsOn (hg : s.Grants step name op handle)
    (h : s.Sound) (hh : s.state.Homed) (hs : Settled c last s)
    (hname : s.connections.lookup name = some c) :
    ∃ a n, (s.step step).2.statements.lookup handle = some a
      ∧ (s.step step).2.state.Stands a n
      ∧ ∀ y, (s.step step).2.state.attached? c = some y →
        (s.step step).2.state.RunsOn y n := by
  obtain ⟨i, a, n, t, hname', -, hcreates, -⟩ := hg.exists_rising h
  obtain rfl : i = c := Option.some.inj (hname'.symm.trans hname)
  obtain ⟨j, a, n, hname', ha, hn, -, hQ⟩ := hg.exists_filed h hh
    (hs.filed_with h step) fun hcreates hn hc => .inl ⟨hc ▸ hcreates, hn⟩
  obtain rfl : j = i := Option.some.inj (hname'.symm.trans hname)
  have hord := hg.isOrdinary
  obtain ⟨x, rfl, hx⟩ :=
    hs.exists_runsOn h hord (hQ rfl) ((h.step hord).hasOpen hn)
  refine ⟨a, n, ha, hn, fun y hy => ?_⟩
  rw [(madeOn_step h hcreates).1] at hy
  obtain rfl := Option.some.inj (hs.attached hy)
  exact hx

/-- They are given nothing while nothing is attached, if the question
whether the connection is closed gets to the terminal. -/
theorem Grants.exists_attached (hg : s.Grants step name op handle)
    (h : s.Sound) (hname : s.connections.lookup name = some c)
    (hpass : ∀ x, s.state.connection? c = some x →
      ∀ link ∈ x.links, link.passes .isClosed = true) :
    ∃ y, (s.step step).2.state.attached? c = some y := by
  obtain ⟨i, a, n, t, hname', -, hcreates, -⟩ := hg.exists_rising h
  obtain rfl : i = c := Option.some.inj (hname'.symm.trans hname)
  obtain ⟨j, x, a, t, hname', hx, hask, -⟩ := hg.exists_settled h
  obtain rfl : j = i := Option.some.inj (hname'.symm.trans hname)
  rw [(madeOn_step h hcreates).1]
  have hkind : op.creates?.isSome = true := by
    cases hg <;> exact hcreates.1
  have hopen : s.quiet.state.isClosedConnection j ≠ true := by
    intro hclosed
    have hnone := Act.barren_askLinks j (hpass x hx) s.quiet.state op hkind
      hclosed
    rw [hask] at hnone
    cases hnone
  cases ha : x.terminal.attachment with
  | none =>
      refine absurd ?_ hopen
      show ((s.state.connection? j).map fun connection =>
        s.quiet.state.isClosedTerminal connection.terminal).getD true = true
      rw [hx]
      show (x.terminal.closed || _) = true
      rw [ha]
      exact Bool.or_true _
  | some b =>
      refine ⟨b.physical, ?_⟩
      rw [State.attached?, State.terminalOf, hx]
      show (x.terminal.attachment.map (·.physical)) = _
      rw [ha]
      rfl

-- ================================================================ the law

/-- When a connection hears that it lost its physical connection, that is
the end of what its caches held, and nothing of it comes back.

In every session that ordinary steps reach, and for a step that tells a
connection of a loss: its caches are empty afterwards; the statements that
were parked in them are closed, each by one call if no rules can refuse
it; and whatever is done from then on, no statement that was made before
is ever on a shelf of that connection again, or given to a caller by it,
nor does another connection have one that was made for this one.

So if a connection always hears of the loss before it is attached to
another physical connection, then each statement that it gives to a
caller was made on the physical connection that it is attached to; and it
is attached to one, unless a link answers the question whether it is
closed. -/
theorem discard_ends_cached_statements {links : List Link}
    {guarded checkedOut : Bool} {steps : List Step}
    (hord : ∀ step ∈ steps, step.isOrdinary = true) {c : ConnectionId} :
    let first := start links guarded checkedOut
    let s := first.run steps
    (∀ step, s.loses c step = true →
      let t := (s.step step).2
      (∀ k store, k.connection = c → t.state.caches.get? k = some store →
          store.entries = [])
        ∧ (∀ a n, s.state.Keeps c a → s.state.Stands a n →
          ∃ st, t.state.native.statement? n = some st ∧ st.closed = true
            ∧ (guarded = false → st.closeCalls = 1))
        ∧ ∀ later : List Step, (∀ step ∈ later, step.isOrdinary = true) →
          ∀ n < t.state.native.statements.length, ∀ i,
            i = c ∨ t.state.MadeFor c n → ¬ (t.run later).Offers i n)
      ∧ (hearsFirst c (first.state.attached? c) first steps = true →
        ∀ step name op handle, s.Grants step name op handle →
          s.connections.lookup name = some c →
          let t := (s.step step).2
          (∃ a n, t.statements.lookup handle = some a ∧ t.state.Stands a n
            ∧ ∀ y, t.state.attached? c = some y → t.state.RunsOn y n)
            ∧ ((∀ x, s.state.connection? c = some x → ∀ link ∈ x.links,
                link.passes .isClosed = true) →
              ∃ y, t.state.attached? c = some y)) := by
  intro first s
  have hfirst : first.Sound := sound_start links guarded checkedOut
  have h : s.Sound := hfirst.run hord
  have hinstalled : s.state.Installed := installed_run hord
  have hhomed : s.state.Homed :=
    homed_run hfirst hord (homed_start links guarded checkedOut)
  have hfiled : s.state.Filed fun _ _ => True :=
    filed_run hfirst hord (filed_start links guarded checkedOut)
      fun _ => trivial
  refine ⟨fun step hloses => ?_, fun hhears step name op handle hg hname => ?_⟩
  · have hstep := isOrdinary_of_loses hloses
    have ht := h.step hstep
    refine ⟨fun k store hk hstore => ?_, fun a n ha hn => ?_,
      fun later hlater n hlt i hi => ?_⟩
    · exact (outdated_of_loses h hfiled hinstalled hloses hk).entries_eq_nil
        ht.scene.stocked hstore
    · obtain ⟨st, hst, hclosed⟩ :=
        exists_closed_of_loses h hinstalled hfiled hhomed hloses ha hn
      refine ⟨st, hst, hclosed, fun hg => ?_⟩
      subst hg
      have hbalanced : (s.step step).2.state.Balanced := by
        have hall : ∀ st ∈ steps ++ [step], st.isOrdinary = true :=
          List.forall_mem_append.2 ⟨hord, List.forall_mem_singleton.2 hstep⟩
        have hrun := @balanced_run links checkedOut _ hall
        rw [run_append] at hrun
        exact hrun
      have honce : st.closeCalls = if st.closed then 1 else 0 :=
        hbalanced.once st (List.mem_of_getElem? hst)
      rw [honce, hclosed]
      rfl
    · exact not_offers_after_loss h hinstalled hfiled hhomed hloses hlater hlt
        hi
  · have hinstalled : (first.run []).state.Installed :=
      installed_run fun _ h => by cases h
    obtain ⟨last, hset⟩ := settled_run
      (settled_start links guarded checkedOut) hfirst hinstalled hord hhears
    exact ⟨hg.exists_runsOn h hhomed hset hname, hg.exists_attached h hname⟩

/-- Of two statements that a chain with two caches has made, one is parked
and one is still in use when the physical connection is discarded. The
first is closed, though the outer cache closes it into the inner one; the
second is closed later and offered to nobody. What is prepared for the
SQL of the first, after another checkout, was made on the new physical
connection. -/
theorem discarded_statements_stay_away :
    let before := [Step.newPhysical "x1",
      .onConnection "p0" "x0" "c0" (.create (.prepareStatement "q") "a"),
      .onConnection "p0" "x0" "c0" (.create (.prepareStatement "r") "b"),
      .onStatement "b" (.call .close)]
    let lost := Step.onConnection "p0" "x0" "c0" .discard
    let later := [Step.onStatement "a" (.call .close),
      .onConnection "p0" "x1" "c0" .checkOut]
    let ask := Step.onConnection "p0" "x1" "c0"
      (.create (.prepareStatement "r") "d")
    let first := start [.cache .standard, .cache .standard] false true
    let s := first.run before
    let t := (s.step lost).2
    let u := first.run (before ++ lost :: later)
    s.loses 0 lost = true ∧ s.state.Keeps 0 6 ∧ s.state.Stands 6 1
      ∧ (∃ st, t.state.native.statement? 1 = some st ∧ st.closed = true
        ∧ st.closeCalls = 1)
      ∧ ¬ (t.run later).Offers 0 0 ∧ ¬ (t.run later).Offers 0 1
      ∧ u.Grants ask "c0" (.prepareStatement "r") "d"
      ∧ ∃ a n, (u.step ask).2.statements.lookup "d" = some a
        ∧ (u.step ask).2.state.Stands a n
        ∧ (u.step ask).2.state.RunsOn 1 n := by
  intro before lost later ask first s t u
  have hbefore : ∀ step ∈ before, step.isOrdinary = true := by decide
  have hlater : ∀ step ∈ later, step.isOrdinary = true := by decide
  have hloses : s.loses 0 lost = true := by decide +kernel
  have hkeeps : s.state.Keeps 0 6 :=
    ⟨⟨0, 1⟩, ⟨50, 0, [("r", 6)]⟩, "r", by decide +kernel, by decide, rfl⟩
  have hstands : s.state.Stands 6 1 := by
    have h6 : (s.state.core 6).delegate? = some 4 := by decide +kernel
    have h4 : (s.state.core 4).delegate? = some 3 := by decide +kernel
    exact .facade h6 (.facade h4 (.native (by decide +kernel)))
  obtain ⟨hlost, -⟩ := @discard_ends_cached_statements
    [.cache .standard, .cache .standard] false true before hbefore 0
  obtain ⟨-, hclosed, hnever⟩ := hlost lost hloses
  obtain ⟨st, hst, hshut, hcalls⟩ := hclosed 6 1 hkeeps hstands
  have hlen : 1 < t.state.native.statements.length := by decide +kernel
  have hnone := hnever later hlater
  have hall : ∀ step ∈ before ++ lost :: later, step.isOrdinary = true := by
    decide
  obtain ⟨-, hloyal⟩ := @discard_ends_cached_statements
    [.cache .standard, .cache .standard] false true (before ++ lost :: later)
    hall 0
  have hhears : hearsFirst 0 (first.state.attached? 0) first
      (before ++ lost :: later) = true := by decide +kernel
  have hg : u.Grants ask "c0" (.prepareStatement "r") "d" :=
    .create (by decide +kernel)
  have hattached : (u.step ask).2.state.attached? 0 = some 1 := by
    decide +kernel
  obtain ⟨⟨a, n, ha, hn, hon⟩, -⟩ :=
    hloyal hhears ask "c0" _ "d" hg (by decide +kernel)
  with_reducible exact ⟨hloses, hkeeps, hstands, ⟨st, hst, hshut, hcalls rfl⟩,
    hnone 0 (Nat.lt_of_succ_lt hlen) 0 (.inl rfl), hnone 1 hlen 0 (.inl rfl),
    hg, a, n, ha, hn, hon 1 hattached⟩

end Session

end PooledChain
