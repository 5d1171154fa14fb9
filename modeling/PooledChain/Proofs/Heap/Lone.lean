/-
Sessions with one connection, and one cache in its chain.

Where the links around the cache only wrap what passes, and connections
are neither set up nor dropped, the cache is the only one of the session
for as long as it lasts (`Session.Lone.run`). What a ledger says of its
handles is then kept by every step that is not about them: a handle
whose statement goes back to the shelf stays so while it stands
(`Session.Lone.lends`), and one from which nothing is taken stays so for
good (`Session.Lone.spent`).

Most steps are about none: they leave the layers and the shelf alone but
for marks (`Session.marksOnly_act`). The steps that do more are those
that ask for a statement, close one, or tell of a loss.
-/
import PooledChain.Proofs.Discards
import PooledChain.Proofs.Heap.Listing

namespace PooledChain

open Scene (Sound)
open State (Reads Upholds Lends Spent)

-- ============================================================== handles

namespace State

variable {p : Terms} {c c' : Scene} {id : LayerId}

/-- What no shelf takes back, no shelf takes back later. -/
theorem Spent.moves (h : c.state.Spent id) (hs : c.Sound)
    (hm : Moves p c c') (hstocks : ∀ i, ¬ p.stocks i)
    (hid : id < c.state.layers.length) : c'.state.Spent id := by
  refine ⟨fun {a f k g store} hover hf hb hk => ?_⟩
  have hold : c.state.Over id a := hm.later.over hs.formed.older hid hover
  have hlt : a < c.state.layers.length :=
    Nat.lt_of_le_of_lt (hold.le hs.formed.older) hid
  have hlater := hm.later.core hlt
  obtain ⟨before, hbefore, hle⟩ := hm.shelf_before hk (hstocks _)
  rw [hf] at hlater
  cases hcore : c.state.core a with
  | released | native =>
      rw [hcore] at hlater
      cases hlater
  | facade f₀ =>
      rw [hcore] at hlater
      cases hlater with
      | facade _ _ hbehaviour =>
          rcases hbehaviour with hsame | ⟨k', g', b, -, hbroken⟩
          · exact Nat.lt_of_lt_of_le
              (h.earlier hold hcore (hsame ▸ hb) hbefore) hle
          · rw [hb] at hbroken
            cases hbroken

/-- What is wrapped around a native handle, and by no cache, nothing is
taken from. -/
theorem Spent.of_wraps {s : State} {h d : LayerId}
    {n : Option Native.StatementId} (hw : s.Wraps h d)
    (hd : s.core d = .native n) : s.Spent h := by
  refine ⟨fun {a f k g store} hover hf hb _ => ?_⟩
  induction hw with
  | none =>
      rcases Relation.ReflTransGen.cases_head hover with rfl | ⟨e, he, -⟩
      · rw [hd] at hf
        cases hf
      · rw [Holds, hd] at he
        cases he
  | @one h f' e d hh hplain he _ ih =>
      rcases Relation.ReflTransGen.cases_head hover with rfl | ⟨e', he', hrest⟩
      · rw [hh] at hf
        cases hf
        exact absurd hb (hplain _ _ _)
      · rw [Holds, hh] at he'
        have hsame : e = e' := Option.some.inj (he.symm.trans he')
        subst hsame
        exact ih hd hrest

end State

namespace Session

variable {s : Session} {above below : List Link}
  {config : CacheConfig} {id : LayerId} {n : Native.StatementId}

-- ============================================================ one cache

/-- A session with one connection, whose chain has one cache that is
turned on, and else only links that wrap. -/
structure Lone (above : List Link) (config : CacheConfig)
    (below : List Link) (s : Session) : Prop where
  upper : ∀ link ∈ above, link.isWrapper = true
  lower : ∀ link ∈ below, link.isWrapper = true
  enabled : config.isEnabled = true
  sound : s.Sound
  loyal : s.Loyal
  installed : s.state.Installed
  filed : s.state.Filed fun _ _ => True
  only : ∀ {c x}, s.state.connection? c = some x →
    c = 0 ∧ x.links = above ++ .cache config :: below
  sole : ∀ {k store}, s.state.caches.get? k = some store →
    k = ⟨0, below.length⟩

/-- A step that leaves it at the connections that there are is a sequence
of moves that set up nothing and drop nothing. -/
theorem moves_setting {step : Step} (h : s.Sound) (hord : step.isOrdinary = true)
    (hkeeps : step.keepsConnections = true) :
    Moves (setting s.guarded) s.scene (s.step step).2.scene := by
  have hnew : ∀ name spec, step ≠ .newConnection name spec := by
    intro name spec he
    subst he
    cases hkeeps
  have hdrops : ∀ i, ¬ s.Drops step i := by
    intro i hd
    cases step <;> first | exact hd.elim | cases hkeeps
  exact (moves_step hord h.scene (suits_setting hdrops hnew)).1

/-- A step that sets up no chain sets up no unfaithful one. -/
theorem isFaithful_of_keepsConnections {step : Step}
    (hkeeps : step.keepsConnections = true) : step.isFaithful = true := by
  cases step <;> first | rfl | cases hkeeps

namespace Lone

/-- The one connection stays the only one while none is made. -/
theorem step {step : Step} (h : s.Lone above config below)
    (hord : step.isOrdinary = true) (hkeeps : step.keepsConnections = true) :
    (s.step step).2.Lone above config below := by
  have hm := moves_setting h.sound hord hkeeps
  refine ⟨h.upper, h.lower, h.enabled, h.sound.step hord,
    h.loyal.step h.sound hord (isFaithful_of_keepsConnections hkeeps),
    installed_step h.installed h.sound.scene hord,
    filed_step h.sound hord h.filed fun _ _ => trivial,
    fun {c x} hx => ?_, fun {k store} hk => ?_⟩
  · obtain ⟨y, hy, hlinks⟩ := hm.links (.inl fun _ hc => hc) hx
    obtain ⟨hc, hy⟩ := h.only hy
    exact ⟨hc, hlinks.symm.trans hy⟩
  · obtain ⟨old, hold, -⟩ := hm.shelf_before hk fun hs => hs
    exact h.sole hold

/-- The quiet before a step changes nothing that counts. -/
theorem quiet (h : s.Lone above config below) :
    s.quiet.Lone above config below where
  upper := h.upper
  lower := h.lower
  enabled := h.enabled
  sound := ⟨sound_quiet h.sound.scene, h.sound.tidy⟩
  loyal := ⟨h.loyal.links, ⟨h.loyal.state.hosted, h.loyal.state.unwatched,
    fun hl hn => h.loyal.state.made hl (hn.congr fun _ _ => rfl)⟩⟩
  installed := h.installed.congr rfl rfl
  filed := ⟨h.filed.known, h.filed.within, fun _ _ _ _ => trivial⟩
  only := h.only
  sole := h.sole

/-- What makes no statement passes all links as it is. -/
theorem transparent (h : s.Lone above config below) {c : ConnectionId}
    {x : Connection} (hx : s.state.connection? c = some x) :
    ∀ link ∈ x.links, link.isTransparent = true := by
  intro link hlink
  rw [(h.only hx).2] at hlink
  rw [Link.isTransparent]
  rcases List.mem_append.1 hlink with hin | hin
  · rw [h.upper link hin, Bool.true_or]
  · rcases List.mem_cons.1 hin with rfl | hin
    · rfl
    · rw [h.lower link hin, Bool.true_or]

/-- A handle that callers hold is not a layer to come. -/
theorem lt_of_held (h : s.Lone above config below) (hid : id ∈ s.held) :
    id < s.state.layers.length :=
  State.lt_of_core (h.sound.scene.owned.living (.inl hid))

/-- A handle from which nothing is taken stays so. -/
theorem spent {step : Step} (h : s.Lone above config below)
    (hord : step.isOrdinary = true) (hkeeps : step.keepsConnections = true)
    (hid : id ∈ s.held) (hs : s.state.Spent id) :
    (s.step step).2.state.Spent id :=
  State.Spent.moves hs h.sound.scene (moves_setting h.sound hord hkeeps)
    (fun _ hs => hs) (h.lt_of_held hid)

/-- A handle whose statement goes back to the shelf stays so, in a step
that leaves it open, does not ruin it and tells of no loss. -/
theorem lends {step : Step} {k : LinkId} {e : Entry}
    (h : s.Lone above config below) (hord : step.isOrdinary = true)
    (hkeeps : step.keepsConnections = true) (hid : id ∈ s.held)
    (hl : s.state.Lends k id e) (hd : ¬ s.Discards step k.connection)
    (hr : ¬ s.Ruins step id)
    (hn : (s.step step).2.state.Stands id e.statement) :
    (s.step step).2.state.Lends k id e := by
  have hdrops : ¬ s.Drops step k.connection := by
    intro hd
    cases step <;> first | exact hd.elim | cases hkeeps
  exact ⟨ready_step h.sound (h.lt_of_held hid)
    (h.sound.scene.owned.apart hid) hl.ready hord hd hdrops hr hn, hn⟩

end Lone

-- ============================================================== starting

/-- A chain with one cache has no other. -/
theorem eq_of_split {config' : CacheConfig} {above' below' : List Link}
    (habove : ∀ link ∈ above, link.isWrapper = true)
    (hbelow : ∀ link ∈ below, link.isWrapper = true)
    (hlinks' : above ++ .cache config :: below
      = above' ++ .cache config' :: below') : below' = below := by
  induction above generalizing above' with
  | nil =>
      cases above' with
      | nil => cases hlinks'; rfl
      | cons link rest =>
          cases hlinks'
          have hcache := hbelow (.cache config')
            (List.mem_append_right _ List.mem_cons_self)
          cases hcache
  | cons link above ih =>
      cases above' with
      | nil =>
          cases hlinks'
          have hcache := habove (.cache config') List.mem_cons_self
          cases hcache
      | cons link' above' =>
          have hrest := (List.cons.inj hlinks').2
          exact ih (fun l hl => habove l (List.mem_cons_of_mem _ hl)) hrest

/-- Checking a connection out changes nothing about layers and
shelves. -/
theorem aside_start (links : List Link) (guarded checkedOut : Bool) :
    Aside guarded (unattached links guarded).state
      (start links guarded checkedOut).state := by
  cases checkedOut with
  | false => exact .refl _
  | true =>
      show Aside guarded _ ((unattached links guarded).answer
        (Act.checkOut 0 0 0) fun _ => .unit).2.state
      rw [state_answer]
      exact Act.aside_checkOut guarded 0 0 0 _

/-- A session starts with one connection. -/
theorem lone_start (habove : ∀ link ∈ above, link.isWrapper = true)
    (hbelow : ∀ link ∈ below, link.isWrapper = true)
    (hon : config.isEnabled = true) (guarded checkedOut : Bool) :
    (start (above ++ .cache config :: below) guarded checkedOut).Lone above
      config below := by
  have haside := aside_start (above ++ .cache config :: below) guarded
    checkedOut
  have hfaithful : ∀ link ∈ above ++ .cache config :: below,
      link.isFaithful = true := by
    intro link hlink
    rcases List.mem_append.1 hlink with hin | hin
    · exact Link.isFaithful_of_isWrapper (habove link hin)
    · rcases List.mem_cons.1 hin with rfl | hin
      · rfl
      · exact Link.isFaithful_of_isWrapper (hbelow link hin)
  refine ⟨habove, hbelow, hon, sound_start .., loyal_start hfaithful ..,
    @installed_run _ _ _ [] fun _ hin => (by cases hin),
    filed_start .., fun {c x} hx => ?_, fun {k store} hk => ?_⟩
  · obtain ⟨y, hy, hlinks⟩ := haside.links hx
    have hconn : (unattached (above ++ .cache config :: below)
        guarded).state.connections
        = [some ⟨above ++ .cache config :: below, {}⟩] :=
      State.connections_installLinks ..
    rw [State.connection?, hconn] at hy
    cases c with
    | zero =>
        cases hy
        exact ⟨rfl, hlinks.symm⟩
    | succ c => cases hy
  · rw [haside.caches] at hk
    rcases State.get?_installLinks_eq_some hk with
      hold | ⟨hc, above', config', below', hlinks, hplace⟩
    · cases hold
    · rw [eq_of_split habove hbelow hlinks] at hplace
      obtain ⟨c, place⟩ := k
      cases hc
      cases hplace
      rfl

/-- A lone cache stays the only one in a run that makes no connection. -/
theorem Lone.run {steps : List Step} (h : s.Lone above config below)
    (hord : ∀ step ∈ steps, step.isOrdinary = true)
    (hkeeps : ∀ step ∈ steps, step.keepsConnections = true) :
    (s.run steps).Lone above config below := by
  induction steps generalizing s with
  | nil => exact h
  | cons step rest ih =>
      rw [run_cons]
      exact ih (h.step (hord step List.mem_cons_self)
          (hkeeps step List.mem_cons_self))
        (fun next hin => hord next (List.mem_cons_of_mem _ hin))
        fun next hin => hkeeps next (List.mem_cons_of_mem _ hin)

-- ====================================================== who gets a handle

variable {pool physical name : String} {q : PoolId} {y : PhysicalId}
  {c : ConnectionId} {x : Connection}

/-- An act gives no names. -/
theorem statements_answer {α : Type} (act : Act α) (reply : α → Reply) :
    (s.answer act reply).2.statements = s.statements := by
  rw [answer, perform]
  rcases act.run s.state with ⟨_ | _, t⟩ <;> rfl

/-- An ordinary step on a statement gives no names. -/
theorem statements_onStatement {use : StatementStep}
    (hord : use.isOrdinary = true) :
    (s.onStatement id use).2.statements = s.statements := by
  cases use with
  | call op => exact statements_answer _ _
  | dispatch op => exact statements_answer _ _
  | info => rw [onStatement]; split <;> rfl
  | wrap | retire | forward => cases hord

theorem statements_onPool (pool : PoolId) (y : PhysicalId) (step : PoolStep) :
    (s.onPool pool y step).2.statements = s.statements := by
  cases step with
  | close names => exact statements_answer _ _
  | discard => exact statements_answer _ _
  | info => rw [onPool]; split <;> rfl

theorem statements_dropConnection (s : Session) (name : String) :
    (s.dropConnection name).statements = s.statements := by
  rw [dropConnection]
  split <;> rfl

theorem statements_callConnection (c : ConnectionId) (op : ConnectionOp) :
    (s.callConnection c op).2.statements = s.statements := by
  cases op with
  | unwrap target =>
      rw [callConnection, perform]
      rcases (Act.physicalOf c (.unwrap target)).run s.state
        with ⟨_ | _, t⟩ <;> rfl
  | _ => exact statements_answer _ _

/-- Callers get nothing in a step that names no handle. -/
theorem statements_onConnection {cstep : ConnectionStep}
    (hcreate : ∀ op handle, cstep ≠ .create op handle)
    (hinvoke : ∀ op handle, cstep ≠ .invoke op handle) :
    (s.onConnection q y c x cstep).2.statements = s.statements := by
  cases cstep with
  | checkOut | checkIn | disconnect | discard | poolStarted | poolClosed
  | nativeNumber => exact statements_answer _ _
  | attachLink choice withPool withPhysical =>
      cases choice with
      | none => rfl
      | some choice =>
          rw [onConnection, attachLink.eq_def]
          split
          · exact statements_answer _ _
          · exact statements_answer _ _
          · rfl
  | call op => exact statements_callConnection c op
  | create op handle => exact absurd rfl (hcreate op handle)
  | invoke op handle => exact absurd rfl (hinvoke op handle)
  | reshape op shape =>
      rw [onConnection, perform]
      rcases (Act.invokeOp c op).run s.state with ⟨e | r, t⟩
      · rfl
      · simp only
        split <;> rfl
  | forceClose sql =>
      rw [onConnection]
      split
      · rfl
      · exact statements_answer _ _
  | describe => rfl

/-- A name that was just given leads to what was stored. -/
theorem lookup_storeStatement (s : Session) (handle : String)
    (id : LayerId) :
    (s.storeStatement handle id).statements.lookup handle = some id := by
  show ((handle, id) :: _).lookup handle = some id
  rw [List.lookup_cons, beq_self_eq_true]

/-- Callers get what is stored under a name. -/
theorem mem_held_storeStatement {handle : String} {r : LayerId}
    (hr : r ∈ (s.storeStatement handle id).held) : r ∈ s.held
      ∨ (s.storeStatement handle id).statements.lookup handle = some r := by
  rcases List.mem_cons.1 (rename_subset s.statements handle id hr) with rfl | hr
  · exact .inr (lookup_storeStatement s handle r)
  · exact .inl hr

/-- Callers hold what they held, and what a connection gives them. -/
theorem mem_held_onConnection {cstep : ConnectionStep} {r : LayerId}
    (htarget : s.quiet.target? pool physical name = some (q, y, c, x))
    (hr : r ∈ (s.quiet.onConnection q y c x cstep).2.held) :
    r ∈ s.held
      ∨ s.granted? (.onConnection pool physical name cstep) = some r := by
  have hact := act_of_target? htarget cstep
  have hstep : (s.step (.onConnection pool physical name cstep)).1
        = (s.quiet.onConnection q y c x cstep).1
      ∧ (s.step (.onConnection pool physical name cstep)).2.statements
        = (s.quiet.onConnection q y c x cstep).2.statements := by
    rw [← hact]
    exact ⟨rfl, rfl⟩
  cases cstep with
  | create op handle =>
      rw [granted?, hstep.1, hstep.2]
      rw [onConnection, perform] at hr ⊢
      rcases hrun : (Act.statementOf c op).run s.quiet.state
        with ⟨e | id, t⟩ <;> rw [hrun] at hr
      · exact .inl hr
      · rw [if_pos rfl]
        exact mem_held_storeStatement hr
  | invoke op handle =>
      rw [granted?, hstep.1, hstep.2]
      rw [onConnection, perform] at hr ⊢
      rcases hrun : (Act.invokeOp c op).run s.quiet.state
        with ⟨e | reply, t⟩ <;> rw [hrun] at hr
      · exact .inl hr
      · cases reply with
        | statement id =>
            simp only [bareConnectionReply] at hr ⊢
            rw [if_pos trivial]
            exact mem_held_storeStatement hr
        | _ => exact .inl hr
  | _ =>
      left
      rw [held, statements_onConnection (fun _ _ he => by cases he)
        fun _ _ he => by cases he] at hr
      exact hr

/-- Callers hold what they held, and what they are given. -/
theorem mem_held_step {step : Step} (hord : step.isOrdinary = true)
    {r : LayerId} (hr : r ∈ (s.step step).2.held) :
    r ∈ s.held ∨ s.granted? step = some r := by
  have hsame : (s.quiet.act step).2.statements = s.statements →
      r ∈ s.held := by
    intro he
    have hr : r ∈ (s.quiet.act step).2.statements.map (·.2) := hr
    rwa [he] at hr
  have hr : r ∈ (s.quiet.act step).2.held := hr
  cases step with
  | newConnection name spec =>
      refine .inl (hsame ?_)
      rw [act]
      split
      · rfl
      · exact statements_dropConnection _ name
  | dropConnection name =>
      exact .inl (hsame (statements_dropConnection _ name))
  | dropStatement name =>
      exact .inl ((List.filter_sublist.map _).subset hr)
  | sameStatement a b =>
      refine .inl (hsame ?_)
      rw [act]
      split <;> rfl
  | nameStatement statement name =>
      rw [act] at hr
      left
      cases hid : s.quiet.statements.lookup statement with
      | none =>
          rw [hid] at hr
          exact hr
      | some id =>
          rw [hid] at hr
          rcases List.mem_cons.1 (rename_subset _ _ _ hr) with rfl | hr
          · exact held_of_lookup (s := s.quiet) hid
          · exact hr
  | onStatement name use =>
      refine .inl (hsame ?_)
      rw [act]
      split
      · exact statements_onStatement hord
      · rfl
  | onPool pool physical pstep =>
      refine .inl (hsame ?_)
      rw [act]
      split
      · rfl
      · rfl
      · exact statements_onPool _ _ pstep
  | onConnection pool physical name cstep =>
      cases htarget : s.quiet.target? pool physical name with
      | none =>
          obtain ⟨what, hact⟩ := act_of_target?_none htarget cstep
          refine .inl (hsame ?_)
          rw [hact]
          rfl
      | some target =>
          rw [act_of_target? htarget] at hr
          exact mem_held_onConnection htarget hr
  | _ => exact .inl hr

/-- A caller who gets a handle has asked a connection for a statement. -/
theorem exists_grants {step : Step} {r : LayerId}
    (h : s.granted? step = some r) :
    ∃ pool physical name cstep op handle,
      step = .onConnection pool physical name cstep
        ∧ cstep.asked? = some op ∧ s.Grants step name op handle
        ∧ (s.step step).2.statements.lookup handle = some r := by
  cases step with
  | onConnection pool physical name cstep =>
      cases cstep with
      | create op handle =>
          rw [granted?] at h
          split at h
          · next hunit =>
            exact ⟨_, _, _, _, op, handle, rfl, rfl, .create hunit, h⟩
          · cases h
      | invoke op handle =>
          rw [granted?] at h
          split at h
          · next hbare =>
            exact ⟨_, _, _, _, op, handle, rfl, rfl, .invoke hbare, h⟩
          · cases h
      | _ => cases h
  | _ => cases h

/-- A handle that was handed out has a name. -/
theorem held_of_granted {step : Step} {r : LayerId}
    (h : s.granted? step = some r) : r ∈ (s.step step).2.held := by
  obtain ⟨-, -, -, -, -, handle, -, -, -, hlook⟩ := exists_grants h
  exact held_of_lookup hlook

-- ===================================================== after a step

/-- The scene of a session is sound even before clearing up. -/
theorem sound_act {step : Step} (h : s.Sound)
    (hord : step.isOrdinary = true) : (s.quiet.act step).2.scene.Sound :=
  (moves_quiet_act h.scene hord).sound (sound_quiet h.scene)

/-- What a caller holds stands after a step on what it stood on after the
act. -/
theorem stands_settle {t : Session} (h : t.scene.Sound) (hid : id ∈ t.held)
    (hn : t.state.Stands id n) : t.settle.state.Stands id n :=
  hn.release (Scene.Sound.formed h) (.inl hid)

/-- Clearing up gives nothing back to a shelf. -/
theorem spent_step {step : Step} (h : s.Sound)
    (hord : step.isOrdinary = true) (hid : id ∈ (s.step step).2.held)
    (hs : (s.quiet.act step).2.state.Spent id) :
    (s.step step).2.state.Spent id := by
  have hsound := sound_act h hord
  obtain ⟨hm, -⟩ := State.moves_release (p := setting false) hsound
  exact State.Spent.moves hs hsound hm (fun _ hs => hs)
    (State.lt_of_core (hsound.owned.living (.inl hid)))

/-- What an act upholds is upheld by the step. -/
theorem stands_step {step : Step} {kept : List LayerId} (h : s.Sound)
    (hord : step.isOrdinary = true)
    (hu : s.state.Upholds kept (s.quiet.act step).2.state)
    (hid : id ∈ kept) (hafter : id ∈ (s.step step).2.held)
    (hn : s.state.Stands id n) : (s.step step).2.state.Stands id n :=
  stands_settle (sound_act h hord) hafter (hu.stands hid hn)

/-- Clearing up leaves the shelves as they are. -/
theorem reads_step {step : Step} {k : LinkId} {max : Nat}
    {listed : List Entry} (h : s.Sound) (hord : step.isOrdinary = true)
    (hr : (s.quiet.act step).2.state.Reads k max listed) :
    (s.step step).2.state.Reads k max listed :=
  State.Reads.release hr (sound_act h hord)

/-- What the driver made stays what it was made from. -/
theorem madeIn_step {step : Step} {e : Entry} (h : s.Sound)
    (hord : step.isOrdinary = true) (he : e.MadeIn s.state.native) :
    e.MadeIn (s.step step).2.state.native := by
  obtain ⟨st, hst, hkind, hsql⟩ := he
  obtain ⟨hm, -⟩ := moves_step hord h.scene (suits_free s step _)
  obtain ⟨st', hst', horigin⟩ := hm.exists_statement h.scene hst
  obtain ⟨-, hpair⟩ := Prod.mk.injEq .. ▸ horigin
  obtain ⟨hkind', hsql'⟩ := Prod.mk.injEq .. ▸ hpair
  exact ⟨st', hst', hkind'.trans hkind, hsql'.trans hsql⟩

/-- What stands on a statement of the driver is of its SQL and its
kind. -/
theorem Loyal.exists_layer {a : LayerId} {e : Entry} (hl : s.Loyal)
    (hn : s.state.Stands a e.statement) (he : e.MadeIn s.state.native) :
    ∃ l, s.state.layer? a = some l ∧ l.kind = e.kind
      ∧ l.sql = some e.sql := by
  obtain ⟨st, hst, hkind, hsql⟩ := he
  have hlt : a < s.state.layers.length := State.lt_of_core hn.not_released
  have hlayer : s.state.layer? a = some _ := List.getElem?_eq_getElem hlt
  have horigin : (s.state.native.statements.map
      Native.Statement.origin)[e.statement]? = some st.origin := by
    rw [List.getElem?_map]
    exact congrArg (Option.map Native.Statement.origin) hst
  have hmade := hl.state.made hlayer hn horigin
  exact ⟨_, hlayer, (congrArg Prod.fst hmade).symm.trans hkind,
    (congrArg Prod.snd hmade).symm.trans hsql⟩

end Session

-- ============================================================ calm steps

/-- Whether a step closes no statement. -/
def StatementStep.isCalm (use : StatementStep) : Bool :=
  use.asked? != some .close

/-- Whether a step asks for no statement, and tells of no loss. -/
def ConnectionStep.isCalm : ConnectionStep → Bool
  | disconnect _ _ => false
  | discard => false
  | forceClose _ => false
  | step => (step.asked?.bind (·.creates?)).isNone

/-- What a calm step asks for creates nothing. -/
theorem ConnectionStep.creates?_of_isCalm {step : ConnectionStep}
    {op : ConnectionOp} (hcalm : step.isCalm = true)
    (hop : step.asked? = some op) : op.creates? = none := by
  cases step <;> cases hop <;>
    first | rfl | exact Option.isNone_iff_eq_none.1 hcalm

/-- Whether a step neither asks for a statement nor closes one, and tells
of no loss. -/
def Step.isCalm : Step → Bool
  | onStatement _ use => use.isCalm
  | onConnection _ _ _ step => step.isCalm
  | step => step.keepsConnections

namespace Session

variable {s : Session} {above below : List Link} {config : CacheConfig}
  {id : LayerId} {pool physical name : String} {q : PoolId} {y : PhysicalId}
  {c : ConnectionId} {x : Connection}

/-- Whether an act leaves layers and shelves alone but for marks. -/
def MarksOnly (s : Session) (r : Reply × Session) : Prop :=
  ∃ hit, Marks s.guarded hit s.state r.2.state

/-- What passes the scene by leaves not even marks. -/
theorem MarksOnly.of_aside {r : Reply × Session}
    (h : Aside s.guarded s.state r.2.state) : MarksOnly s r :=
  ⟨fun _ => False, .aside h⟩

theorem MarksOnly.of_same {r : Reply × Session} (h : r.2.state = s.state) :
    MarksOnly s r :=
  .of_aside (by rw [h]; exact .refl _)

theorem MarksOnly.answer {α : Type} {act : Act α} {reply : α → Reply}
    (h : Aside s.guarded s.state (act.run s.state).2) :
    MarksOnly s (s.answer act reply) :=
  .of_aside (by rw [state_answer]; exact h)

/-- Using a statement at most breaks facades of caches. -/
theorem marksOnly_onStatement {use : StatementStep}
    (hord : use.isOrdinary = true) (hcalm : use.isCalm = true) :
    MarksOnly s (s.onStatement id use) := by
  have hdispatch : ∀ {op : StatementOp} {reply}, use.asked? = some op →
      MarksOnly s (s.answer (Act.dispatch id op) reply) := by
    intro op reply hop
    have hclose : op ≠ .close := by
      intro he
      rw [StatementStep.isCalm, hop, he] at hcalm
      cases hcalm
    have hmarks := (Act.marking_within (g := s.guarded) hclose
      (s.state.core id).level id s.state).marks
    rw [MarksOnly, state_answer]
    exact ⟨_, hmarks⟩
  cases use with
  | call op => exact hdispatch rfl
  | dispatch op => exact hdispatch rfl
  | info => rw [onStatement]; split <;> exact .of_same rfl
  | wrap | retire | forward => cases hord

/-- A step on a pool leaves layers and shelves alone. -/
theorem marksOnly_onPool (pool : PoolId) (y : PhysicalId) (step : PoolStep) :
    MarksOnly s (s.onPool pool y step) := by
  cases step with
  | close names => exact .answer (Act.aside_closePool _ pool _ s.state)
  | discard => exact .answer (Act.aside_discardPhysical _ y s.state)
  | info =>
      rw [onPool]
      split
      · exact .of_same rfl
      · next p _ =>
        exact .of_aside (.of_native (Native.isSteady_isValid p.native _ _))

theorem marksOnly_attachLink (c : ConnectionId) (links : List Link)
    (choice : LinkChoice) (pool : Option PoolId) (y : Option PhysicalId) :
    MarksOnly s (s.attachLink c links choice pool y) := by
  unfold attachLink
  split
  · exact .answer (Act.aside_hearTerminal _ c (.attach pool y) s.state)
  · exact .answer (Act.aside_hear _ _ _ rfl s.state)
  · exact .of_same rfl

/-- What makes no statement goes through the chain to the terminal. -/
theorem marksOnly_onConnection {cstep : ConnectionStep}
    (htarget : s.target? pool physical name = some (q, y, c, x))
    (hlinks : ∀ link ∈ x.links, link.isTransparent = true)
    (hcalm : cstep.isCalm = true) :
    MarksOnly s (s.onConnection q y c x cstep) := by
  have hx := (lookup_of_target? htarget).2
  have hasks : ∀ {op}, cstep.asked? = some op →
      MarksOnly s (s.onConnection q y c x cstep) := by
    intro op hop
    have hk := ConnectionStep.creates?_of_isCalm hcalm hop
    refine .of_aside ?_
    have ha : Asks c op s (s.onConnection q y c x cstep) :=
      asks_onConnection hop
    rw [ha.state, run_invokeOp hx, Act.run_askLinks_passed c hlinks hk]
    exact Act.aside_askTerminal _ c hk s.state
  cases cstep with
  | checkOut => exact .answer (Act.aside_checkOut _ c q y s.state)
  | checkIn => exact .answer (Act.aside_tell _ c rfl s.state)
  | poolStarted => exact .answer (Act.aside_tell _ c rfl s.state)
  | poolClosed => exact .answer (Act.aside_tell _ c rfl s.state)
  | attachLink choice withPool withPhysical =>
      cases choice with
      | none => exact .of_same rfl
      | some choice => exact marksOnly_attachLink c _ choice _ _
  | call op => exact hasks rfl
  | create op handle => exact hasks rfl
  | nativeNumber => exact hasks rfl
  | invoke op handle => exact hasks rfl
  | reshape op shape => exact hasks rfl
  | describe => exact .of_same rfl
  | disconnect | discard | forceClose => cases hcalm

/-- A calm step leaves layers and shelves alone but for marks. -/
theorem marksOnly_act {step : Step}
    (hlinks : ∀ {c x}, s.state.connection? c = some x →
      ∀ link ∈ x.links, link.isTransparent = true)
    (hord : step.isOrdinary = true) (hcalm : step.isCalm = true) :
    MarksOnly s (s.act step) := by
  cases step with
  | instruct i =>
      exact .of_aside (.of_native (Native.Store.steady_obey _ _ i))
  | addRule rule =>
      exact .of_aside (.of_native (Native.Store.steady_addRule _ _ rule))
  | clearRules =>
      exact .of_aside (.of_native (Native.Store.steady_clearRules _ _))
  | newPool name =>
      exact .of_aside (.of_alike ⟨rfl, rfl, rfl, rfl, fun h => h⟩)
  | newPhysical name =>
      refine .of_aside ⟨rfl, rfl, ?_, rfl, fun {_ y} hy => ⟨y, hy, rfl⟩, .inl⟩
      exact Native.Store.steady_connect _ _
  | newConnection | dropConnection => cases hcalm
  | sameStatement a b => rw [act]; split <;> exact .of_same rfl
  | nameStatement statement name =>
      rw [act]
      split <;> exact .of_same rfl
  | onStatement name use =>
      rw [act]
      split
      · exact marksOnly_onStatement hord hcalm
      · exact .of_same rfl
  | onPool pool physical pstep =>
      rw [act]
      split
      · exact .of_same rfl
      · exact .of_same rfl
      · exact marksOnly_onPool _ _ pstep
  | onConnection pool physical name cstep =>
      cases htarget : s.target? pool physical name with
      | none =>
          obtain ⟨what, hact⟩ := act_of_target?_none htarget cstep
          rw [hact]
          exact .of_same rfl
      | some target =>
          obtain ⟨q, y, c, x⟩ := target
          rw [act_of_target? htarget]
          exact marksOnly_onConnection htarget
            (hlinks (lookup_of_target? htarget).2) hcalm
  | preparedSql | dropStatement | tablePools => exact .of_same rfl

end Session

end PooledChain
