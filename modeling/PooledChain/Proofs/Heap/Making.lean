/-
Whose statements a chain hands out.

The driver makes a statement only at the end of a chain, on the physical
connection that the terminal is attached to (`State.driver?`). Whatever
else is done on the way makes none: links look into their caches, throw
away what they find closed, and put their facades around what comes up.
Nothing of it reattaches the terminal. So all that is made in a step that
asks a connection for a statement is made on what the connection is
attached to (`Session.madeOn_step`).

A cache may answer without asking the terminal for a statement, but it
asks whether the connection is closed. If nothing answers that in the
terminal's place, no statement comes up from a closed connection, new or
used before (`barren_askLinks`).
-/
import PooledChain.Proofs.Heap.Asking
import PooledChain.Proofs.Heap.Loans

namespace PooledChain

open Scene (Sound)

variable {s t u : State} {c : ConnectionId} {d : Option Native.ConnectionId}
  {held loose : List LayerId}

namespace State

/-- The physical connection that a connection is attached to. -/
def attached? (s : State) (c : ConnectionId) : Option PhysicalId :=
  (s.terminalOf c).attachment.map (·.physical)

/-- The driver's connection behind it. -/
def driver? (s : State) (c : ConnectionId) : Option Native.ConnectionId :=
  ((s.attached? c).bind s.physical?).map (·.native)

/-- States with the same ends attach every connection to the same physical
connection. -/
theorem SameEnds.attached? (h : s.SameEnds t) (c : ConnectionId) :
    t.attached? c = s.attached? c := by
  rw [State.attached?, State.attached?, h.terminalOf]

/-- States with the same ends have the same connection of the driver behind
every connection. -/
theorem SameEnds.driver? (h : s.SameEnds t) (c : ConnectionId) :
    t.driver? c = s.driver? c := by
  have hphysical : t.physical? = s.physical? := by
    funext x
    rw [State.physical?, State.physical?, h.physicals]
  rw [State.driver?, State.driver?, h.attached?, hphysical]

/-- A connection that is not closed has a physical connection. -/
theorem driver?_of_attached {a : Attachment}
    (ha : (s.terminalOf c).attachment = some a)
    (hopen : s.isClosedConnection c = false) :
    ∃ q, s.physical? a.physical = some q ∧ s.driver? c = some q.native := by
  cases hx : s.connection? c with
  | none =>
      rw [isClosedConnection, hx] at hopen
      cases hopen
  | some x =>
      rw [terminalOf, hx] at ha
      have ha : x.terminal.attachment = some a := ha
      rw [isClosedConnection, hx] at hopen
      have hopen : s.isClosedTerminal x.terminal = false := hopen
      rw [isClosedTerminal, ha, Bool.or_eq_false_iff] at hopen
      cases hq : s.physical? a.physical with
      | none =>
          have hgone : s.isDiscarded a.physical = false := hopen.2
          rw [isDiscarded, hq] at hgone
          cases hgone
      | some q =>
          refine ⟨q, rfl, ?_⟩
          rw [driver?, attached?, terminalOf, hx]
          show ((x.terminal.attachment.map (·.physical)).bind _).map _ = _
          rw [ha, Option.map_some, Option.bind_some, hq, Option.map_some]

/-- Whether all that the driver made on the way from `s` to `t` it made on
its connection `d`. -/
structure MadeOn (d : Option Native.ConnectionId) (s t : State) : Prop where
  origins : ∃ new, t.native.statements.map Native.Statement.origin
      = s.native.statements.map Native.Statement.origin ++ new
    ∧ ∀ o ∈ new, some o.1 = d

namespace MadeOn

/-- Nothing was made. -/
theorem of_origins (h : t.native.statements.map Native.Statement.origin
    = s.native.statements.map Native.Statement.origin) : MadeOn d s t :=
  ⟨[], by rw [h, List.append_nil], fun o ho => by cases ho⟩

/-- Where the driver is as it was, nothing was made at all. -/
theorem of_native (h : t.native = s.native) : MadeOn d s t :=
  of_origins (by rw [h])

theorem trans (h₁ : MadeOn d s t) (h₂ : MadeOn d t u) : MadeOn d s u := by
  obtain ⟨new, hnew, hon⟩ := h₁.origins
  obtain ⟨more, hmore, hon'⟩ := h₂.origins
  refine ⟨new ++ more, by rw [hmore, hnew, List.append_assoc], fun o ho => ?_⟩
  rcases List.mem_append.1 ho with ho | ho
  · exact hon o ho
  · exact hon' o ho

/-- Where nothing is asked for, nothing is made. -/
theorem of_moves {p : Terms} {a b : Scene} (hm : Moves p a b) (h : a.Sound)
    (hcreates : ∀ i, ¬ p.creates i) : MadeOn d a.state b.state := by
  obtain ⟨new, hnew, hnone⟩ := hm.origins h
  rw [hnone hcreates, List.append_nil] at hnew
  exact of_origins hnew

/-- What is new is of that connection. -/
theorem connection (h : MadeOn d s t) {n : Native.StatementId}
    {st : Native.Statement} (hn : t.native.statement? n = some st)
    (hnew : s.native.statements.length ≤ n) : some st.connection = d := by
  obtain ⟨new, horigins, hon⟩ := h.origins
  refine hon st.origin (List.mem_of_getElem?
    (i := n - s.native.statements.length) ?_)
  have hget : (t.native.statements.map Native.Statement.origin)[n]?
      = some st.origin := by
    rw [List.getElem?_map]
    exact congrArg (Option.map Native.Statement.origin) hn
  rw [horigins, List.getElem?_append_right (by rwa [List.length_map]),
    List.length_map] at hget
  exact hget

end MadeOn
end State

open State (MadeOn)

/-- Terms under which no statement is asked for. -/
def Terms.unasked : Terms :=
  { Terms.free false with creates := fun _ => False }

namespace Act

variable {op : ConnectionOp} {next : Next} {self : LinkId}

-- ======================================================= the terminal

/-- A call of the driver that makes statements on one of its connections
does so on the state as a whole. -/
theorem madeOn_native {α : Type} {x : Native.Act α}
    {n : Native.ConnectionId} (hx : x.MakesOn n) (s : State) :
    MadeOn (some n) s { s with native := (x.run s.native).2 } := by
  obtain ⟨new, hnew, hon⟩ := hx s.native
  exact ⟨new, hnew, fun o ho => congrArg some (hon o ho)⟩

/-- What follows a call of the driver makes nothing. -/
theorem madeOn_native_bind {α β : Type} {x : Native.Act α}
    {n : Native.ConnectionId} (hx : x.MakesOn n) {f : α → Act β}
    (hf : ∀ a t, ((f a).run t).2.native = t.native) (s : State) :
    MadeOn (some n) s ((native x >>= f).run s).2 := by
  have hmade := madeOn_native hx s
  rw [run_bind, run_native]
  rcases hr : x.run s.native with ⟨e | a, st⟩
  · rw [hr] at hmade
    exact hmade
  · rw [hr] at hmade
    exact hmade.trans (.of_native (hf a _))

/-- Handing over a new statement makes it where the driver's call does, and
nothing else. -/
theorem madeOn_handleOver {make : Native.Act Native.StatementId}
    {n : Native.ConnectionId} (hmake : make.MakesOn n) (c : ConnectionId)
    (kind : StatementKind) (sql : Option String) (s : State) :
    MadeOn (some n) s ((handleOver c kind sql make).run s).2 :=
  madeOn_native_bind hmake (fun _ _ => rfl) s

/-- Whatever a physical connection is asked, statements come up on its own
connection of the driver only. -/
theorem madeOn_askPhysical {x : PhysicalId} {q : Physical}
    (hq : s.physical? x = some q) (c : ConnectionId) (op : ConnectionOp) :
    MadeOn (some q.native) s ((askPhysical c x op).run s).2 := by
  unfold askPhysical
  rw [run_bind, run_get]
  simp only [hq, Option.map_some, Option.getD_some]
  have hsteady : ∀ {α : Type} {x : Native.Act α} (f : α → ConnectionReply),
      x.IsSteady → MadeOn (some q.native) s
        ((do return f (← native x) : Act ConnectionReply).run s).2 :=
    fun f hx => madeOn_native_bind (hx.makesOn _) (fun _ _ => rfl) s
  cases op with
  | createStatement =>
      exact madeOn_handleOver (Native.makesOn_createStatement _) ..
  | prepareStatement | prepareCall =>
      exact madeOn_handleOver (Native.makesOn_prepare _ _ _) ..
  | isValid => exact hsteady .bool (Native.isSteady_isValid _)
  | commit => exact hsteady (fun _ => .unit) (Native.isSteady_commit _)
  | rollback => exact hsteady (fun _ => .unit) (Native.isSteady_rollback _)
  | setAutoCommit b =>
      exact hsteady (fun _ => .unit) (Native.isSteady_setAutoCommit _ _)
  | autoCommit => exact hsteady .bool (Native.isSteady_autoCommit _)
  | nativeSql sql => exact hsteady .text (Native.isSteady_nativeSql _ _)
  | unwrap target =>
      refine .of_native ?_
      cases target with
      | pooled => rfl
      | native name =>
          simp only [wraps, run_bind, run_get, run_pure]
          split <;> rfl
  | isWrapperFor target =>
      refine .of_native ?_
      cases target <;> rfl
  | close | isClosed => exact .of_native rfl

/-- The end of a chain makes statements on what it is attached to. -/
theorem madeOn_askTerminal (c : ConnectionId) (hop : op ≠ .close)
    (s : State) : MadeOn (s.driver? c) s ((askTerminal c op).run s).2 := by
  by_cases hi : op = .isClosed
  · subst hi
    exact .of_native rfl
  rw [run_askTerminal hop hi]
  split
  · exact .of_native rfl
  · next hopen =>
    split
    · next a ha =>
      obtain ⟨q, hq, hd⟩ :=
        State.driver?_of_attached ha (Bool.eq_false_iff.2 hopen)
      rw [hd]
      exact madeOn_askPhysical hq c op
    · exact .of_native rfl

-- ========================================================== the links

/-- Putting a facade around a statement leaves the driver as it is. -/
theorem native_decorate (link : Link) (self : LinkId)
    (kind : StatementKind) (sql : Option String) (x : LayerId) (s : State) :
    ((decorate link self kind sql x).run s).2.native = s.native := by
  obtain ⟨b, t, hdec, hrun⟩ := run_decorate link self kind sql x s
  have hnative : t.native = s.native := by
    cases hdec with
    | nothing h | plain h => exact h.native
    | cached | tracked => rfl
  rw [hrun]
  cases b <;> exact hnative

/-- Whether the links below the one at hand make statements on what the
connection `c` is attached to, and nowhere else. -/
def MakesBelow (c : ConnectionId) (next : Next) : Prop :=
  ∀ (s : State) (held loose : List LayerId) (op : ConnectionOp),
    Sound ⟨s, held, none, loose⟩ → op ≠ .close →
      MadeOn (s.driver? c) s ((next op).run s).2

/-- A link that decorates makes nothing of its own accord. -/
theorem makesBelow_intercept (link : Link) (h : MakesBelow c next) :
    MakesBelow c (intercept link self next) := by
  intro s held loose op hs hop
  have hnext := h s held loose op hs hop
  rcases intercept_cases link self next hop with ⟨kind, hk, hlink⟩ | hsame
  · rcases run_intercept hk hlink self next s
      with ⟨-, e, hrun⟩ | ⟨d, id, u, t, hbelow, hdec, hrun⟩
    · rw [hrun]
      exact hnext
    · have hnative := native_decorate link self kind op.sql? d u
      rw [hdec] at hnative
      rw [hbelow] at hnext
      rw [hrun]
      exact hnext.trans (.of_native hnative)
  · rw [hsame]
    exact hnext

/-- What a cache throws away or hands out was made before. -/
theorem makesBelow_reuse {p : Terms} (hnext : AsksBelow p self next)
    (h : MakesBelow c next) (kind : StatementKind) (sql : String)
    (hs : Sound ⟨s, held, none, loose⟩) :
    MadeOn (s.driver? c) s ((reuse? self next kind sql).run s).2 := by
  have hasked := h s held loose .isClosed hs fun he => by cases he
  have hsound := (moves_isClosed hnext hs).sound hs
  have hruns := run_reuse? self next kind sql s
  generalize (reuse? self next kind sql).run s = r at hruns ⊢
  cases hruns with
  | off _ => exact .of_native rfl
  | refused hr _ | missing hr _ =>
      rw [hr] at hasked
      exact hasked
  | found hr _ _ _ _ =>
      rw [hr] at hasked
      exact hasked.trans (.of_native rfl)
  | stale hr hk hf _ _ =>
      rw [hr] at hasked hsound
      exact hasked.trans
        (.of_moves (moves_evict (p := .unasked) hsound hk hf) hsound
          fun _ h => h)

/-- A cache makes statements where the links below it make them, since all
it adds are facades. -/
theorem makesBelow_throughCache {p : Terms} (config : CacheConfig)
    (hnext : AsksBelow p self next) (hcreates : p.creates self.connection)
    (hinside : Changes .inside (next .isClosed))
    (h : MakesBelow c next) :
    MakesBelow c (throughCache config self next) := by
  intro s held loose op hs hop
  have hpass : ∀ {t : State}, Sound ⟨t, held, none, loose⟩ →
      MadeOn (t.driver? c) t
        ((intercept (.cache config) self next op).run t).2 := fun ht =>
    makesBelow_intercept (.cache config) h _ held loose op ht hop
  unfold throughCache
  split
  · next kind sql _ _ =>
    split
    · have hfirst := makesBelow_reuse hnext h kind sql hs
      have hm := (moves_reuse hnext hcreates kind sql hs).1
      have hreuse : Changes .inside (reuse? self next kind sql) :=
        changes_reuse? kind sql hinside
      have hsame := sameEnds hreuse s
      rw [run_bind]
      rcases hr : (reuse? self next kind sql).run s with ⟨e | found, t⟩
      · rw [hr] at hfirst
        exact hfirst
      · rw [hr] at hfirst hm hsame
        cases found with
        | some id => exact hfirst
        | none =>
            have hrest := hpass (hm.sound hs)
            rw [hsame.driver?] at hrest
            exact hfirst.trans hrest
    · exact hpass hs
  · exact hpass hs

/-- Whatever is asked of a chain but to close, statements are made on what
the terminal is attached to. -/
theorem makesBelow_askLinks (c : ConnectionId) (links : List Link) :
    MakesBelow c (askLinks c links) := by
  induction links with
  | nil => exact fun s held loose op _ hop => madeOn_askTerminal c hop s
  | cons link rest ih =>
      have hnext : AsksBelow (.free false) ⟨c, rest.length⟩ (askLinks c rest) :=
        asked_askLinks c fun hp => hp.elim
      intro s held loose op hs hop
      cases link with
      | bare => exact ih s held loose op hs hop
      | probe label =>
          have hnote : s.SameEnds (s.note label (.operation op.name op.sql?)) :=
            ⟨rfl, rfl, rfl⟩
          have hm : Moves (.free false) ⟨s, held, none, loose⟩
              ⟨s.note label (.operation op.name op.sql?), held, none, loose⟩ :=
            .aside (.of_alike ⟨rfl, rfl, rfl, rfl, fun h => h⟩)
          have hfirst : MadeOn (s.driver? c) s
              (s.note label (.operation op.name op.sql?)) := .of_native rfl
          have hrest := ih _ held loose op (hm.sound hs) hop
          rw [hnote.driver?] at hrest
          exact hfirst.trans hrest
      | prepending text =>
          exact ih s held loose _ hs (prepend_ne_close hop)
      | answering answers =>
          show MadeOn _ s ((askLink (.answering answers) _ _ op).run s).2
          unfold askLink
          simp only
          cases answers.lookup op.name with
          | none => exact ih s held loose op hs hop
          | some answer =>
              cases answer with
              | terminal => exact madeOn_askTerminal c hop s
              | bool | unit | text | fail => exact .of_native rfl
      | cache config =>
          exact makesBelow_throughCache config hnext trivial
            (changes_askLinks_inside c rest fun he => by cases he) ih s held
            loose op hs hop
      | decorator | leakTracker | recorder | counter | watcher =>
          exact makesBelow_intercept _ ih s held loose op hs hop

-- ================================================== while it is closed

/-- Whether no statement comes up while the connection `c` is closed. -/
def Barren (c : ConnectionId) (next : Next) : Prop :=
  ∀ (s : State) (op : ConnectionOp), op.creates?.isSome = true →
    s.isClosedConnection c = true → outOf ((next op).run s).1 = none

/-- No statement comes up from the terminal while the connection is
closed. -/
theorem barren_askTerminal (c : ConnectionId) : Barren c (askTerminal c) := by
  intro s op hk hclosed
  rw [run_askTerminal (by rintro rfl; cases hk) (by rintro rfl; cases hk),
    if_pos hclosed]
  rfl

/-- Nothing comes up that could be decorated. -/
theorem barren_intercept (link : Link) (h : Barren c next) :
    Barren c (intercept link self next) := by
  intro s op hkind hclosed
  have hnext := h s op hkind hclosed
  have hop : op ≠ .close := by
    rintro rfl
    cases hkind
  rcases intercept_cases link self next hop with ⟨kind, hk, hlink⟩ | hsame
  · rcases run_intercept hk hlink self next s
      with ⟨-, e, hrun⟩ | ⟨d, id, u, t, hbelow, -, -⟩
    · rw [hrun]
      rfl
    · rw [hbelow] at hnext
      cases hnext
  · rw [hsame]
    exact hnext

/-- A cache that hears that the connection is closed hands nothing out. -/
theorem barren_throughCache (config : CacheConfig)
    (hinside : Changes .inside (next .isClosed))
    (hasked : ∀ s : State, ((next .isClosed).run s).1
      = .ok (.bool (s.isClosedConnection c))) (h : Barren c next) :
    Barren c (throughCache config self next) := by
  intro s op hkind hclosed
  have hpass : ∀ {t : State}, s.SameEnds t →
      outOf ((intercept (.cache config) self next op).run t).1 = none :=
    fun ht => barren_intercept _ h _ op hkind
      ((ht.isClosedConnection c).trans hclosed)
  -- the links below do not say that it is open
  have hnot : ∀ {t}, (next .isClosed).run s ≠ (.ok (.bool false), t) := by
    intro t hr
    have hsays := hasked s
    rw [hr, hclosed] at hsays
    cases hsays
  unfold throughCache
  split
  · next kind sql _ _ =>
    split
    · have hruns := run_reuse? self next kind sql s
      have hreuse : Changes .inside (reuse? self next kind sql) :=
        changes_reuse? kind sql hinside
      have hsame := sameEnds hreuse s
      rw [run_bind]
      rcases hr : (reuse? self next kind sql).run s with ⟨e | found, t⟩
      · rfl
      · rw [hr] at hruns hsame
        cases found with
        | none => exact hpass hsame
        | some id =>
            cases hruns with
            | found hasked _ _ _ _ => exact absurd hasked hnot
    · exact hpass (.refl s)
  · exact hpass (.refl s)

/-- No statement comes up from a closed connection, if the question
whether it is closed gets to the terminal. -/
theorem barren_askLinks (c : ConnectionId) {links : List Link}
    (hpass : ∀ link ∈ links, link.passes .isClosed = true) :
    Barren c (askLinks c links) := by
  induction links with
  | nil => exact barren_askTerminal c
  | cons link rest ih =>
      have hbelow := fun l hl => hpass l (List.mem_cons_of_mem _ hl)
      have hrest := ih hbelow
      intro s op hkind hclosed
      cases link with
      | bare => exact hrest s op hkind hclosed
      | probe label => exact hrest _ op hkind hclosed
      | prepending text =>
          exact hrest s _ (by rw [creates?_prepend]; exact hkind) hclosed
      | answering answers =>
          show outOf ((askLink (.answering answers) _ _ op).run s).1 = none
          unfold askLink
          simp only
          cases answers.lookup op.name with
          | none => exact hrest s op hkind hclosed
          | some answer =>
              cases answer with
              | terminal => exact barren_askTerminal c s op hkind hclosed
              | bool | unit | text | fail => rfl
      | cache config =>
          exact barren_throughCache config
            (changes_askLinks_inside c rest fun he => by cases he)
            (run_askLinks_isClosed c hbelow) hrest s op hkind hclosed
      | decorator | leakTracker | recorder | counter | watcher =>
          exact barren_intercept _ hrest s op hkind hclosed

end Act

-- ============================================================= sessions

namespace Session

variable {s : Session} {step : Step}

/-- What a step that asks a connection for a statement does to the ends of
the chains, and what the driver makes in it. -/
theorem madeOn_act (h : s.scene.Sound) (hc : s.Creates step c) :
    s.state.SameEnds (s.act step).2.state
      ∧ MadeOn (s.state.driver? c) s.state (s.act step).2.state := by
  cases step with
  | onConnection pool physical name cstep =>
      obtain ⟨hasked, hname, -⟩ := hc
      cases htarget : s.target? pool physical name with
      | none =>
          obtain ⟨what, hact⟩ := act_of_target?_none htarget cstep
          rw [hact]
          exact ⟨.refl _, .of_native rfl⟩
      | some found =>
          obtain ⟨q, y, i, x⟩ := found
          obtain ⟨hname', hx⟩ := lookup_of_target? htarget
          obtain rfl : i = c := Option.some.inj (hname'.symm.trans hname)
          cases hop : cstep.asked? with
          | none =>
              rw [hop] at hasked
              cases hasked
          | some op =>
              rw [hop] at hasked
              have hne : op ≠ .close := by
                rintro rfl
                cases hasked
              have hasks : Asks i op s (s.onConnection q y i x cstep) :=
                asks_onConnection hop
              have hmade := Act.makesBelow_askLinks i x.links s.state s.held []
                op h hne
              rw [act_of_target? htarget, hasks.state, run_invokeOp hx]
              exact ⟨Act.sameEnds (Act.changes_askLinks_inside i x.links hne)
                s.state, hmade⟩
  | _ => exact hc.elim

/-- What is made in a step that asks a connection for a statement is made
on what the connection is attached to, before and after. -/
theorem madeOn_step (h : s.Sound) (hc : s.Creates step c) :
    (s.step step).2.state.attached? c = s.state.attached? c
      ∧ MadeOn (s.state.driver? c) s.state (s.step step).2.state := by
  have hquiet : s.state.SameEnds s.quiet.state := ⟨rfl, rfl, rfl⟩
  have hord : step.isOrdinary = true := by
    cases step with
    | onConnection => rfl
    | _ => exact hc.elim
  have hcreates : s.quiet.Creates step c := by
    cases step with
    | onConnection => exact hc
    | _ => exact hc.elim
  obtain ⟨hends, hmade⟩ := madeOn_act (sound_quiet h.scene) hcreates
  have hact : (s.quiet.act step).2.scene.Sound :=
    (moves_act hord (sound_quiet h.scene) (suits_free s.quiet step _)).sound
      (sound_quiet h.scene)
  obtain ⟨hrelease, -⟩ := State.moves_release (p := .unasked) hact
  refine ⟨?_, ?_⟩
  · have hsettle : (s.quiet.act step).2.state.SameEnds
        (s.step step).2.state :=
      ⟨State.connections_release _ _, State.physicals_release _ _,
        State.returns_release _ _⟩
    rw [(hends.trans hsettle).attached?]
    exact hquiet.attached? c
  · rw [hquiet.driver?] at hmade
    have hfirst : MadeOn (s.state.driver? c) s.state s.quiet.state :=
      .of_native rfl
    exact (hfirst.trans hmade).trans (.of_moves hrelease hact fun _ h => h)

end Session

end PooledChain
