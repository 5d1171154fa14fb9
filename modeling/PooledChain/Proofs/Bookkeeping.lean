/-
The ledger of a session is kept.

In a session with one connection, whose chain has one cache and else only
links that wrap, the shelf of the cache holds at any time what the ledger
lists, and each handle stands on what the ledger lent with it
(`Session.Follows`). Every step keeps this up (`Session.Follows.step`),
whatever it means to the ledger; so it holds after a whole run, with any
number of handles open at once.
-/
import PooledChain.Proofs.Heap.Lone
import PooledChain.Proofs.Refusal
import PooledChain.Proofs.Replies

namespace PooledChain

open Scene (Sound)
open State (Reads Upholds Lends Spent)

/-- A link that is passed as it is is one of the library's own kinds. -/
theorem Link.isOwn_of_isTransparent {link : Link}
    (h : link.isTransparent = true) : link.isOwn = true := by
  cases link <;> first | rfl | cases h

/-- Links that wrap let a request pass as it is. -/
theorem reaching_wrappers {above : List Link} (op : ConnectionOp)
    (h : ∀ link ∈ above, link.isWrapper = true) : reaching above op = op
      ∧ ∀ link ∈ above, link.defers op = true := by
  constructor
  · induction above with
    | nil => rfl
    | cons link rest ih =>
        have hlink := h link List.mem_cons_self
        have hrest := ih fun l hl => h l (List.mem_cons_of_mem _ hl)
        cases link with
        | decorator | recorder | counter => exact hrest
        | _ => cases hlink
  · intro link hl
    have hlink := h link hl
    cases link with
    | decorator | recorder | counter => rfl
    | _ => cases hlink

namespace Session

variable {s : Session} {above below : List Link} {config : CacheConfig}
  {id : LayerId} {k : LinkId} {l l' : Ledger} {e : Entry}
  {n : Native.StatementId} {sql : String} {kind : StatementKind}

-- ========================================================= the invariant

/-- Whether a handle is what the ledger says of it: it stands on what was
lent with it, to be put back; if nothing was, nothing is taken from it. -/
structure Told (s : Session) (k : LinkId) (l : Ledger) (id : LayerId) :
    Prop where
  lent : ∀ {e}, l.lent.get? id = some e →
    s.state.Lends k id e ∧ e.MadeIn s.state.native
  other : ∀ {n}, l.lent.get? id = none → s.state.Stands id n →
    s.state.Spent id

/-- Whether the session is as the ledger says. -/
structure Follows (s : Session) (k : LinkId) (max : Nat) (l : Ledger) :
    Prop where
  reads : s.state.Reads k max l.listed
  made : ∀ {e}, e ∈ l.listed → e.MadeIn s.state.native
  known : ∀ {id e}, l.lent.get? id = some e → id < s.state.layers.length
  told : ∀ {id}, id ∈ s.held → s.Told k l id

/-- The quiet before a step changes nothing that counts. -/
theorem Follows.quiet {max : Nat} (h : s.Follows k max l) :
    s.quiet.Follows k max l := by
  have hstands : ∀ {a n}, s.state.Stands a n → s.quiet.state.Stands a n :=
    fun hn => hn.congr fun _ _ => rfl
  refine ⟨h.reads.congr rfl fun _ hn => hstands hn, h.made, h.known,
    fun {id} hid => ⟨fun {e} he => ?_, fun {n} he hn => ?_⟩⟩
  · obtain ⟨hl, hm⟩ := (h.told hid).lent he
    exact ⟨⟨hl.ready.congr rfl fun _ _ => rfl, hstands hl.stands⟩, hm⟩
  · have hspent := (h.told hid).other he (hn.congr fun _ _ => rfl)
    refine ⟨fun {a f k g store} hover hf hb hk => ?_⟩
    exact hspent.earlier (hover.congr fun _ _ => rfl) hf hb hk

/-- A handle of which the ledger goes on saying what it said. -/
theorem Told.step {step : Step} (ht : s.Told k l id)
    (h : s.Lone above config below) (hord : step.isOrdinary = true)
    (hkeeps : step.keepsConnections = true) (hid : id ∈ s.held)
    (hsame : l'.lent.get? id = l.lent.get? id)
    (hd : ¬ s.Discards step k.connection) (hr : ¬ s.Ruins step id)
    (hup : ∀ n, s.state.Stands id n → (s.step step).2.state.Stands id n) :
    (s.step step).2.Told k l' id := by
  refine ⟨fun {e} he => ?_, fun {n} he hn => ?_⟩
  · rw [hsame] at he
    obtain ⟨hl, hm⟩ := ht.lent he
    exact ⟨h.lends hord hkeeps hid hl hd hr (hup _ hl.stands),
      madeIn_step h.sound hord hm⟩
  · rw [hsame] at he
    have hold : s.state.Stands id n :=
      (moves_setting h.sound hord hkeeps).later.stands
        h.sound.scene.formed.older (h.lt_of_held hid) hn
    exact h.spent hord hkeeps hid (ht.other he hold)

/-- A session is as its ledger says after a step if the shelf is after the
act, and each handle of a caller is. -/
theorem Follows.of_act {step : Step} {max : Nat}
    (hf : s.Follows k max l) (h : s.Sound) (hord : step.isOrdinary = true)
    (hreads : (s.quiet.act step).2.state.Reads k max l'.listed)
    (hmade : ∀ {e}, e ∈ l'.listed → e.MadeIn s.state.native)
    (hknown : ∀ {id e}, l'.lent.get? id = some e →
      l.lent.get? id = some e ∨ s.granted? step = some id)
    (hold : ∀ {id}, id ∈ s.held → id ∈ (s.step step).2.held →
      (s.step step).2.Told k l' id)
    (hnew : ∀ {id}, s.granted? step = some id →
      (s.step step).2.Told k l' id) :
    (s.step step).2.Follows k max l' := by
  have hm := (moves_step hord h.scene (suits_free s step _)).1
  refine ⟨reads_step h hord hreads, fun he => madeIn_step h hord (hmade he),
    fun {id e} he => ?_, fun {id} hid => ?_⟩
  · rcases hknown he with he | hg
    · exact Nat.lt_of_lt_of_le (hf.known he) hm.length_le
    · exact State.lt_of_core ((h.step hord).scene.owned.living
        (.inl (held_of_granted hg)))
  · rcases mem_held_step hord hid with hin | hg
    · exact hold hin hid
    · exact hnew hg

-- ========================================================== calm steps

/-- A calm step leaves it at the connections that there are. -/
theorem keepsConnections_of_isCalm {step : Step}
    (hcalm : step.isCalm = true) : step.keepsConnections = true := by
  cases step <;> first | rfl | exact hcalm

/-- A calm step discards no physical connection. -/
theorem not_discards_of_isCalm {step : Step} (hcalm : step.isCalm = true)
    (c : ConnectionId) : ¬ s.Discards step c := by
  intro hd
  cases step with
  | onConnection pool physical name cstep =>
      cases cstep <;> first | exact hd | cases hcalm
  | _ => exact hd

/-- Nobody gets a handle in a calm step. -/
theorem granted?_of_isCalm {step : Step} (h : s.Lone above config below)
    (hcalm : step.isCalm = true) : s.granted? step = none := by
  refine Option.eq_none_iff_forall_ne_some.2 fun id hg => ?_
  obtain ⟨pool, physical, name, cstep, op, handle, rfl, hop, hgrants, hid⟩ :=
    exists_grants hg
  obtain ⟨-, layer, -, -, -, hkind, -⟩ := hgrants.opened h.sound h.loyal hid
  rw [ConnectionStep.creates?_of_isCalm hcalm hop] at hkind
  cases hkind

/-- Nothing is taken from what stands on a statement that is
condemned. -/
theorem spent_of_condemned {c : Scene} {other : LayerId}
    (hc : c.Condemned n other) (hn : c.state.Stands id n) :
    c.state.Spent id :=
  ⟨fun hover hf hb _ => absurd (hn.of_over hover) (hc.not_stands hf hb)⟩

/-- In a calm step the ledger forgets what the handles that it ruins were
lent, and nothing else. -/
theorem Follows.calm {step : Step} {max : Nat} (hf : s.Follows k max l)
    (h : s.Lone above config below) (hord : step.isOrdinary = true)
    (hcalm : step.isCalm = true) (hlisted : l'.listed = l.listed)
    (hkept : ∀ id, ¬ s.Ruins step id →
      l'.lent.get? id = l.lent.get? id)
    (hruined : ∀ id, s.Ruins step id → l'.lent.get? id = none) :
    (s.step step).2.Follows k max l' := by
  have hquiet := h.quiet
  obtain ⟨hit, hm⟩ := marksOnly_act (s := s.quiet)
    (fun hx => hquiet.transparent hx) hord hcalm
  obtain ⟨hreads, hup⟩ : (s.quiet.act step).2.state.Reads k max l.listed
      ∧ s.quiet.state.Upholds s.held (s.quiet.act step).2.state :=
    Act.reads_marks hm hf.quiet.reads
  have hstands : s.state.Upholds s.held (s.quiet.act step).2.state :=
    ⟨fun hr hn => hup.stands hr (hn.congr fun _ _ => rfl)⟩
  refine hf.of_act h.sound hord (by rw [hlisted]; exact hreads)
    (fun he => hf.made (hlisted ▸ he)) (fun {id e} he => .inl ?_)
    (fun {id} hid hafter => ?_) fun {id} hg => ?_
  · by_cases hr : s.Ruins step id
    · rw [hruined id hr] at he
      cases he
    · rw [← hkept id hr]
      exact he
  · by_cases hr : s.Ruins step id
    · refine ⟨fun {e} he => ?_, fun {n} _ hn => ?_⟩
      · rw [hruined id hr] at he
        cases he
      · have hm := moves_setting h.sound hord (keepsConnections_of_isCalm hcalm)
        have hold : s.state.Stands id n := hm.later.stands
          h.sound.scene.formed.older (h.lt_of_held hid) hn
        exact spent_of_condemned (condemned_step h.sound hr hold) hn
    · exact (hf.told hid).step h hord (keepsConnections_of_isCalm hcalm) hid
        (hkept id hr) (not_discards_of_isCalm hcalm _) hr
        fun n hn => stands_step h.sound hord hstands hid hafter hn
  · rw [granted?_of_isCalm h hcalm] at hg
    cases hg

-- ============================================== asking for a statement

variable {pool physical name : String} {q : PoolId} {y : PhysicalId}
  {c : ConnectionId} {x : Connection} {cstep : ConnectionStep}
  {op : ConnectionOp} {max : Nat}

/-- What is asked of the connection is asked of its chain. -/
theorem state_asked (h : s.Lone above config below)
    (htarget : s.target? pool physical name = some (q, y, c, x))
    (hop : cstep.asked? = some op) :
    (s.quiet.act (.onConnection pool physical name cstep)).2.state
      = ((Act.askLinks c (above ++ .cache config :: below) op).run
          s.quiet.state).2 := by
  have htarget : s.quiet.target? pool physical name = some (q, y, c, x) :=
    htarget
  have hx := (lookup_of_target? htarget).2
  have ha : Asks c op s.quiet (s.quiet.onConnection q y c x cstep) :=
    asks_onConnection hop
  rw [act_of_target? htarget, ha.state, run_invokeOp hx,
    (h.quiet.only hx).2]

/-- What a caller gets is what came up the chain. -/
theorem exists_asked (h : s.Lone above config below)
    (htarget : s.target? pool physical name = some (q, y, c, x))
    (hop : cstep.asked? = some op)
    (hg : s.granted? (.onConnection pool physical name cstep) = some id) :
    ∃ handle t, s.Grants (.onConnection pool physical name cstep) name op
        handle
      ∧ (s.step (.onConnection pool physical name
          cstep)).2.statements.lookup handle = some id
      ∧ (Act.askLinks c (above ++ .cache config :: below) op).run
          s.quiet.state = (.ok (.statement id), t)
      ∧ ∀ y, t.Over id y → (s.step (.onConnection pool physical name
          cstep)).2.state.layer? y = t.layer? y := by
  obtain ⟨hname, hx⟩ := lookup_of_target? htarget
  obtain ⟨_, _, _, _, op', handle, heq, hop', hgrants, hlook⟩ :=
    exists_grants hg
  cases heq
  obtain rfl : op = op' := Option.some.inj (hop.symm.trans hop')
  obtain ⟨c', x', a, t, hname', hx', hask, ha, hkept⟩ :=
    hgrants.exists_settled h.sound
  obtain rfl : c = c' := Option.some.inj (hname.symm.trans hname')
  obtain rfl : x = x' := Option.some.inj (hx.symm.trans hx')
  obtain rfl : a = id := Option.some.inj (ha.symm.trans hlook)
  rw [(h.only hx).2] at hask
  exact ⟨handle, t, hgrants, hlook, hask, hkept⟩

/-- A request adds layers, and changes the ledger for the handle that is
given. -/
theorem Follows.asked (hf : s.Follows k max l)
    (h : s.Lone above config below)
    (htarget : s.target? pool physical name = some (q, y, c, x))
    (hop : cstep.asked? = some op)
    (hgrown : s.quiet.state.Grown ((Act.askLinks c
      (above ++ .cache config :: below) op).run s.quiet.state).2)
    (hreads : ((Act.askLinks c (above ++ .cache config :: below) op).run
      s.quiet.state).2.Reads k max l'.listed)
    (hlisted : ∀ {e}, e ∈ l'.listed → e ∈ l.listed)
    (hlent : ∀ {id},
      s.granted? (.onConnection pool physical name cstep) ≠ some id →
      l'.lent.get? id = l.lent.get? id)
    (hnew : ∀ {id},
      s.granted? (.onConnection pool physical name cstep) = some id →
      (s.step (.onConnection pool physical name cstep)).2.Told k l' id) :
    (s.step (.onConnection pool physical name cstep)).2.Follows k max l' := by
  have hstate := state_asked h htarget hop
  have hup : s.state.Upholds s.held (s.quiet.act
      (.onConnection pool physical name cstep)).2.state := by
    rw [hstate]
    exact ⟨fun _ hn => hgrown.stands (hn.congr fun _ _ => rfl)⟩
  have hd : ¬ s.Discards (.onConnection pool physical name cstep)
      k.connection := by
    cases cstep <;> first | exact fun hd => hd | cases hop
  refine hf.of_act h.sound rfl (by rw [hstate]; exact hreads)
    (fun he => hf.made (hlisted he)) (fun {id e} he => ?_)
    (fun {id} hid hafter => ?_) hnew
  · by_cases hg : s.granted? (.onConnection pool physical name cstep) = some id
    · exact .inr hg
    · rw [hlent hg] at he
      exact .inl he
  · by_cases hg : s.granted? (.onConnection pool physical name cstep) = some id
    · exact hnew hg
    · exact (hf.told hid).step h rfl rfl hid (hlent hg) hd (fun hr => hr)
        fun n hn => stands_step h.sound rfl hup hid hafter hn

/-- What stands on the statement that the driver makes next is new. -/
theorem le_of_stands_next {step : Step} (h : s.Sound)
    (hord : step.isOrdinary = true)
    (hn : (s.step step).2.state.Stands id
      s.state.native.statements.length) : s.state.layers.length ≤ id := by
  by_contra hlt
  have hm := (moves_step hord h.scene (suits_free s step _)).1
  have hold := hm.later.stands h.scene.formed.older (Nat.lt_of_not_le hlt) hn
  exact Nat.lt_irrefl _ (h.hasOpen hold).lt

/-- A closed connection gives nothing. -/
theorem Follows.refused (hf : s.Follows k max l)
    (h : s.Lone above config below)
    (htarget : s.target? pool physical name = some (q, y, c, x))
    (hop : cstep.asked? = some op) (hk : op.creates? = some kind)
    (hclosed : s.state.isClosedConnection c = true) :
    (s.step (.onConnection pool physical name cstep)).2.Follows k max l := by
  have hown : ∀ link ∈ above ++ .cache config :: below,
      link.isOwn = true := by
    rw [← (h.only (lookup_of_target? htarget).2).2]
    exact fun link hl => Link.isOwn_of_isTransparent
      (h.transparent (lookup_of_target? htarget).2 link hl)
  have hclosed : s.quiet.state.isClosedConnection c = true := hclosed
  have hrefuses := Act.refuses_askLinks hown hclosed
  have hc : op ≠ .close := fun he => by subst he; cases hk
  have hi : op ≠ .isClosed := fun he => by subst he; cases hk
  have hrun := hrefuses.refused hc hi
  refine hf.asked h htarget hop (by rw [hrun]; exact .of_layers rfl)
    (by rw [hrun]; exact hf.quiet.reads) (fun he => he) (fun _ => rfl)
    fun hg => ?_
  obtain ⟨-, t, -, -, hask, -⟩ := exists_asked h htarget hop hg
  rw [hrun] at hask
  cases hask

/-- What the cache does not keep is nothing to the ledger. -/
theorem Follows.uncached (hf : s.Follows k max l)
    (h : s.Lone above config below)
    (htarget : s.target? pool physical name = some (q, y, c, x))
    (hop : cstep.asked? = some op) (hk : op.creates? = some kind)
    (hdec : config.kinds.contains kind = false)
    (hopen : s.state.isClosedConnection c = false) :
    (s.step (.onConnection pool physical name cstep)).2.Follows k max l := by
  have hopen : s.quiet.state.isClosedConnection c = false := hopen
  obtain ⟨n, -, hs⟩ := Act.supplies_uncached hk h.upper h.lower hdec hopen
  obtain ⟨hgrown, hcaches⟩ := hs.grown
  refine hf.asked h htarget hop hgrown (hf.quiet.reads.grown hgrown hcaches)
    (fun he => he) (fun _ => rfl) fun {id} hg => ?_
  obtain ⟨handle, t, -, hlook, hask, hkept⟩ := exists_asked h htarget hop hg
  rw [hask] at hs
  obtain ⟨d, hover, hcore, hwraps⟩ :=
    hs.exists_native (op.makes_making hk n) rfl
  have hn : (s.step (.onConnection pool physical name cstep)).2.state.Stands
      id s.state.native.statements.length :=
    (State.Stands.over (.native hcore) hover).congr fun z hz =>
      State.core_congr_layer (hkept z hz)
  refine ⟨fun {e} he => ?_, fun {m} _ _ => ?_⟩
  · exact absurd (hf.known he)
      (Nat.not_lt_of_le (le_of_stands_next h.sound rfl hn))
  · have hstate := state_asked h htarget hop
    rw [hask] at hstate
    refine spent_step h.sound rfl (held_of_lookup hlook) ?_
    rw [hstate]
    exact Spent.of_wraps (hwraps trivial) hcore

/-- A step that asks an open connection for a statement of the sort that
the cache keeps. -/
structure Wants (s : Session) (config : CacheConfig)
    (pool physical name : String) (cstep : ConnectionStep) (c : ConnectionId)
    (op : ConnectionOp) (kind : StatementKind) (sql : String) : Prop where
  target : ∃ q y x, s.target? pool physical name = some (q, y, c, x)
  asked : cstep.asked? = some op
  creates : op.creates? = some kind
  sql : op.sql? = some sql
  kept : config.kinds.contains kind = true
  opened : s.state.isClosedConnection c = false

namespace Wants

variable {below : List Link}

/-- What the cache keeps is ready to go back to it. -/
theorem prepares (hw : s.Wants config pool physical name cstep c op kind sql)
    (h : s.Lone above config below)
    (hg : s.granted? (.onConnection pool physical name cstep) = some id) :
    s.Prepares (.onConnection pool physical name cstep)
      ⟨c, below.length⟩ sql id := by
  obtain ⟨q, y, x, htarget⟩ := hw.target
  obtain ⟨hname, hx⟩ := lookup_of_target? htarget
  obtain ⟨handle, -, hgrants, hlook, -, -⟩ :=
    exists_asked h htarget hw.asked hg
  obtain ⟨hreach, hdefers⟩ := reaching_wrappers op h.upper
  exact .through hgrants hlook hname hx (h.only hx).2 hdefers hw.creates
    hw.kept (by rw [hreach]; exact hw.sql) rfl

/-- What a caller gets is of the SQL and the kind that were asked for. -/
theorem madeIn (hw : s.Wants config pool physical name cstep c op kind sql)
    (h : s.Lone above config below)
    (hg : s.granted? (.onConnection pool physical name cstep) = some id)
    (hn : (s.step (.onConnection pool physical name cstep)).2.state.Stands
      id n) : Entry.MadeIn ⟨sql, kind, n⟩
      (s.step (.onConnection pool physical name cstep)).2.state.native := by
  obtain ⟨q, y, x, htarget⟩ := hw.target
  obtain ⟨handle, -, hgrants, hlook, -, -⟩ :=
    exists_asked h htarget hw.asked hg
  obtain ⟨-, layer, -, hlayer, hsame, hkind, -⟩ :=
    hgrants.opened h.sound h.loyal hlook
  have hloyal := h.loyal.step h.sound hgrants.isOrdinary rfl
  obtain ⟨st, hst, -⟩ := (h.sound.step hgrants.isOrdinary).hasOpen hn
  have horigin := congrArg (Option.map Native.Statement.origin) hst
  rw [Native.Store.statement?, ← List.getElem?_map] at horigin
  have hmade := hloyal.state.made hlayer hn horigin
  refine ⟨st, hst, (congrArg Prod.fst hmade).trans ?_,
    (congrArg Prod.snd hmade).trans (hsame.trans hw.sql)⟩
  exact Option.some.inj (hkind.symm.trans hw.creates)

/-- What was lent with the handle that a caller gets. -/
theorem told (hw : s.Wants config pool physical name cstep c op kind sql)
    (h : s.Lone above config below)
    (hg : s.granted? (.onConnection pool physical name cstep) = some id)
    (hn : (s.step (.onConnection pool physical name cstep)).2.state.Stands
      id n) (hlent : l'.lent.get? id = some ⟨sql, kind, n⟩) :
    (s.step (.onConnection pool physical name cstep)).2.Told
      ⟨0, below.length⟩ l' id := by
  obtain ⟨q, y, x, htarget⟩ := hw.target
  obtain ⟨rfl, -⟩ := h.only (lookup_of_target? htarget).2
  refine ⟨fun {e'} he => ?_, fun he => ?_⟩
  · rw [hlent] at he
    cases he
    exact ⟨⟨(hw.prepares h hg).ready h.sound h.installed, hn⟩,
      hw.madeIn h hg hn⟩
  · rw [hlent] at he
    cases he

/-- If nothing is listed for it, the driver is asked. -/
theorem exists_supplies
    (hw : s.Wants config pool physical name cstep c op kind sql)
    (h : s.Lone above config below)
    (hf : s.Follows ⟨0, below.length⟩ max l)
    (hmiss : l.find? sql kind = none) :
    ∃ n, s.state.driver? c = some n
      ∧ Supplies False s.quiet.state ((op.making n).run s.state.native)
        ((Act.askLinks c (above ++ .cache config :: below) op).run
          s.quiet.state) := by
  obtain ⟨q, y, x, htarget⟩ := hw.target
  obtain ⟨rfl, -⟩ := h.only (lookup_of_target? htarget).2
  obtain ⟨store, hstore, -, hshows⟩ := hf.quiet.reads.shelf
  have hopen : s.quiet.state.isClosedConnection 0 = false := hw.opened
  refine Act.supplies_miss hw.creates hw.sql hw.kept h.upper h.lower hopen
    hstore fun a ha hkind => ?_
  -- what is parked for the text is listed in another kind
  rcases find?_of_shows sql hshows with ⟨a', e, ha', he, hshow⟩ | ⟨hnone, -⟩
  · obtain rfl : a = a' := Option.some.inj (ha.symm.trans ha')
    obtain ⟨layer, hlayer, hsame, -⟩ := h.quiet.loyal.exists_layer
      hshow.stands (hf.made (List.mem_of_find?_eq_some he))
    rw [hlayer] at hkind
    have hfound : l.find? sql kind = some e := Ledger.find?_eq_some.2
      ⟨he, hsame.symm.trans (Option.some.inj hkind)⟩
    rw [hmiss] at hfound
    cases hfound
  · rw [hnone] at ha
    cases ha

/-- If it is listed, it is taken off the shelf. -/
theorem exists_taken
    (hw : s.Wants config pool physical name cstep c op kind sql)
    (h : s.Lone above config below)
    (hf : s.Follows ⟨0, below.length⟩ max l)
    (hfound : l.find? sql kind = some e) :
    ∃ b t, (Act.askLinks c (above ++ .cache config :: below) op).run
        s.quiet.state = (.ok (.statement b), t)
      ∧ s.quiet.state.Grown t ∧ t.native = s.state.native
      ∧ t.Reads ⟨0, below.length⟩ max (l.remove sql).listed
      ∧ t.Stands b e.statement := by
  obtain ⟨q, y, x, htarget⟩ := hw.target
  obtain ⟨rfl, -⟩ := h.only (lookup_of_target? htarget).2
  obtain ⟨store, hstore, -, hshows⟩ := hf.quiet.reads.shelf
  have hopen : s.quiet.state.isClosedConnection 0 = false := hw.opened
  obtain ⟨hfirst, hkind⟩ := Ledger.find?_eq_some.1 hfound
  rcases find?_of_shows sql hshows with ⟨a, e', ha, he, hshow⟩ | ⟨-, hnone⟩
  · obtain rfl : e = e' := Option.some.inj (hfirst.symm.trans he)
    obtain ⟨layer, hlayer, hsame, -⟩ := h.quiet.loyal.exists_layer
      hshow.stands (hf.made (List.mem_of_find?_eq_some hfirst))
    have hformed := h.quiet.sound.scene.formed
    have haopen : s.quiet.state.isClosed a = false :=
      (State.isClosed_eq_false_iff hformed.leveled hformed.hollow).2
        ⟨_, hshow.stands⟩
    obtain ⟨b, t, hrun, hgrown, hnative, hcaches, hover⟩ :=
      Act.supplies_hit hw.creates hw.sql hw.kept h.upper h.lower hopen hstore
        ha (by rw [hlayer, Option.map_some, hsame, hkind]) haopen
    exact ⟨b, t, hrun, hgrown, hnative,
      hf.quiet.reads.taken hstore hgrown hcaches,
      .over (hgrown.stands hshow.stands) hover⟩
  · rw [hfirst] at hnone
    cases hnone

end Wants

/-- A statement that is not listed is made by the driver, and lent. -/
theorem Follows.missed {below : List Link}
    (hf : s.Follows ⟨0, below.length⟩ max l)
    (h : s.Lone above config below)
    (hw : s.Wants config pool physical name cstep c op kind sql)
    (hmiss : l.find? sql kind = none) :
    (s.step (.onConnection pool physical name cstep)).2.Follows
      ⟨0, below.length⟩ max
      (l.lend (s.granted? (.onConnection pool physical name cstep))
        ⟨sql, kind, s.state.native.statements.length⟩) := by
  obtain ⟨q, y, x, htarget⟩ := hw.target
  obtain ⟨n, -, hs⟩ := hw.exists_supplies h hf hmiss
  obtain ⟨hgrown, hcaches⟩ := hs.grown
  refine hf.asked h htarget hw.asked hgrown ?_ (fun he => ?_) (fun hg => ?_)
    fun {id} hg => ?_
  · rw [Ledger.listed_lend]
    exact hf.quiet.reads.grown hgrown hcaches
  · rw [Ledger.listed_lend] at he
    exact he
  · rw [Ledger.get?_lend, if_neg hg]
  · obtain ⟨handle, t, -, hlook, hask, hkept⟩ :=
      exists_asked h htarget hw.asked hg
    rw [hask] at hs
    obtain ⟨d, hover, hcore, -⟩ :=
      hs.exists_native (op.makes_making hw.creates n) rfl
    have hn : (s.step (.onConnection pool physical name cstep)).2.state.Stands
        id s.state.native.statements.length :=
      (State.Stands.over (.native hcore) hover).congr fun z hz =>
        State.core_congr_layer (hkept z hz)
    exact hw.told h hg hn (by rw [Ledger.get?_lend, if_pos hg])

/-- A statement that is listed is taken from the list, and lent. -/
theorem Follows.hit {below : List Link}
    (hf : s.Follows ⟨0, below.length⟩ max l)
    (h : s.Lone above config below)
    (hw : s.Wants config pool physical name cstep c op kind sql)
    (hfound : l.find? sql kind = some e) :
    (s.step (.onConnection pool physical name cstep)).2.Follows
      ⟨0, below.length⟩ max ((l.remove sql).lend
        (s.granted? (.onConnection pool physical name cstep)) e) := by
  obtain ⟨q, y, x, htarget⟩ := hw.target
  obtain ⟨b, t, hrun, hgrown, -, hreads, hstands⟩ :=
    hw.exists_taken h hf hfound
  obtain ⟨hfirst, hkind⟩ := Ledger.find?_eq_some.1 hfound
  have hsql := List.find?_some (p := fun e : Entry => e.sql == sql) hfirst
  have hentry : e = ⟨sql, kind, e.statement⟩ := by
    rw [← hkind, ← beq_iff_eq.1 hsql]
  refine hf.asked h htarget hw.asked (by rw [hrun]; exact hgrown) ?_
    (fun he => ?_) (fun hg => ?_) fun {id} hg => ?_
  · rw [hrun, Ledger.listed_lend]
    exact hreads
  · rw [Ledger.listed_lend] at he
    exact (List.mem_filter.1 he).1
  · rw [Ledger.get?_lend, if_neg hg]
    rfl
  · obtain ⟨handle, t', -, hlook, hask, hkept⟩ :=
      exists_asked h htarget hw.asked hg
    rw [hrun] at hask
    cases hask
    have hn : (s.step (.onConnection pool physical name
        cstep)).2.state.Stands b e.statement :=
      hstands.congr fun z hz => State.core_congr_layer (hkept z hz)
    exact hw.told h hg hn
      (by rw [Ledger.get?_lend, if_pos hg, ← hentry])

-- =============================================================== closing

variable {use : StatementStep}

/-- Asking a statement for an operation is an ordinary step. -/
theorem isOrdinary_of_asked {sop : StatementOp}
    (huse : use.asked? = some sop) (name : String) :
    (Step.onStatement name use).isOrdinary = true := by
  cases use <;> first | rfl | cases huse

/-- A handle is ruined by its own failures only. -/
theorem eq_of_ruins {other : LayerId}
    (hid : s.statements.lookup name = some id)
    (hr : s.Ruins (.onStatement name use) other) : other = id :=
  Option.some.inj (hr.2.1.symm.trans hid)

/-- What becomes of the shelf when a handle is closed becomes of the list;
the handle is dead. -/
theorem Follows.closing (hf : s.Follows k max l)
    (h : s.Lone above config below) (huse : use.asked? = some .close)
    (hid : s.statements.lookup name = some id)
    (hreads : ((Act.dispatch id .close).run s.quiet.state).2.Reads k max
      l'.listed)
    (hup : s.quiet.state.Upholds (s.held.filter (· != id))
      ((Act.dispatch id .close).run s.quiet.state).2)
    (hmade : ∀ {e}, e ∈ l'.listed → e.MadeIn s.state.native)
    (hgone : l'.lent.get? id = none)
    (hkept : ∀ {other}, other ≠ id →
      l'.lent.get? other = l.lent.get? other) :
    (s.step (.onStatement name use)).2.Follows k max l' := by
  have hord := isOrdinary_of_asked huse name
  have hheld : id ∈ s.held := held_of_lookup hid
  obtain ⟨reply, hanswer, -⟩ := exists_answer_close huse s.quiet id
  have hstate : (s.quiet.act (.onStatement name use)).2.state
      = ((Act.dispatch id .close).run s.quiet.state).2 := by
    rw [act_onStatement (s := s.quiet) hid, hanswer, state_answer]
  have hstands : s.state.Upholds (s.held.filter (· != id))
      (s.quiet.act (.onStatement name use)).2.state := by
    rw [hstate]
    exact ⟨fun hr hn => hup.stands hr (hn.congr fun _ _ => rfl)⟩
  refine hf.of_act h.sound hord (by rw [hstate]; exact hreads) hmade
    (fun {other e} he => .inl ?_) (fun {other} hin hafter => ?_)
    fun hg => by cases hg
  · by_cases hsame : other = id
    · rw [hsame, hgone] at he
      cases he
    · rw [← hkept hsame]
      exact he
  · by_cases hsame : other = id
    · subst hsame
      have hsound := sound_act h.sound hord
      have hdead : ∀ n, ¬ (s.step (.onStatement name use)).2.state.Stands
          other n := by
        intro n hn
        obtain ⟨hm, -⟩ := State.moves_release (p := .free false) hsound
        have hlt := State.lt_of_core (hsound.owned.living (.inl hafter))
        have hn := hm.later.stands hsound.formed.older hlt hn
        have hn : ((Act.dispatch other .close).run s.quiet.state).2.Stands
            other n := hstate ▸ hn
        exact Act.dead_close (sound_quiet h.sound.scene)
          (h.sound.scene.owned.not_parked_of_held hheld) n hn
      refine ⟨fun {e} he => ?_, fun {n} _ hn => absurd hn (hdead n)⟩
      rw [hgone] at he
      cases he
    · exact (hf.told hin).step h hord rfl hin (hkept hsame) (fun hd => hd)
        (fun hr => hsame (eq_of_ruins hid hr)) fun n hn =>
        stands_step h.sound hord hstands
          (List.mem_filter.2 ⟨hin, bne_iff_ne.2 hsame⟩) hafter hn

/-- What was lent with a handle is put back when the handle is closed. -/
theorem Follows.closed {below : List Link}
    (hf : s.Follows ⟨0, below.length⟩ max l)
    (h : s.Lone above config below) (hmax : 0 < max)
    (huse : use.asked? = some .close)
    (hid : s.statements.lookup name = some id) :
    (s.step (.onStatement name use)).2.Follows ⟨0, below.length⟩ max
      (l.book max (.closed id)) := by
  have hquiet := hf.quiet
  have hsound := sound_quiet h.sound.scene
  have hheld : id ∈ s.quiet.held := held_of_lookup hid
  have herased : ∀ {other}, other ≠ id →
      (l.lent.erase id).get? other = l.lent.get? other := fun hne => by
    rw [Keyed.get?_erase, if_neg hne]
  have hgone : (l.lent.erase id).get? id = none := by
    rw [Keyed.get?_erase, if_pos rfl]
  rw [Ledger.book]
  cases hlent : l.lent.get? id with
  | some e =>
      obtain ⟨hl, hmade⟩ := (hquiet.told hheld).lent hlent
      simp only
      rw [Ledger.putBack]
      split
      · next hin =>
        obtain ⟨hreads, hup⟩ := Act.reads_close_listed hsound hheld
          h.quiet.sole hquiet.reads hl hin
        exact hf.closing h huse hid hreads hup hf.made hgone herased
      · next hin =>
        obtain ⟨hreads, hup⟩ := Act.reads_close_parks hsound hheld
          h.quiet.sole hmax hquiet.reads hl hin
        refine hf.closing h huse hid hreads hup (fun {e'} he => ?_) hgone
          herased
        rcases List.mem_cons.1 (List.mem_of_mem_take he) with rfl | he
        · exact hmade
        · exact hf.made he
  | none =>
      by_cases hopen : ∃ n, s.quiet.state.Stands id n
      · obtain ⟨n, hn⟩ := hopen
        obtain ⟨hreads, hup⟩ := Act.reads_close_spent hsound hheld
          hquiet.reads ((hquiet.told hheld).other hlent hn)
        exact hf.closing h huse hid hreads hup hf.made hlent fun _ => rfl
      · obtain ⟨hreads, hup⟩ := Act.reads_close_dead hsound hheld
          hquiet.reads fun n hn => hopen ⟨n, hn⟩
        exact hf.closing h huse hid hreads
          ⟨fun hr hn => hup.stands (List.mem_filter.1 hr).1 hn⟩ hf.made hlent
          fun _ => rfl

-- ===================================================== taken off the shelf

/-- The one cache of the chain is the first. -/
theorem firstLink?_isCache (h : ∀ link ∈ above, link.isWrapper = true) :
    firstLink? Link.isCache (above ++ .cache config :: below)
      = some (.cache config, below.length) := by
  induction above with
  | nil => rfl
  | cons link rest ih =>
      have hlink := h link List.mem_cons_self
      have hrest := ih fun l hl => h l (List.mem_cons_of_mem _ hl)
      cases link with
      | decorator | recorder | counter => exact hrest
      | _ => cases hlink

/-- What is closed by force leaves the list. -/
theorem Follows.removed {below : List Link}
    (hf : s.Follows ⟨0, below.length⟩ max l)
    (h : s.Lone above config below)
    (htarget : s.target? pool physical name = some (q, y, c, x))
    (sql : String) :
    (s.step (.onConnection pool physical name (.forceClose sql))).2.Follows
      ⟨0, below.length⟩ max (l.remove sql) := by
  have htarget : s.quiet.target? pool physical name = some (q, y, c, x) :=
    htarget
  obtain ⟨rfl, hlinks⟩ := h.quiet.only (lookup_of_target? htarget).2
  obtain ⟨hreads, hup⟩ := Act.reads_forceClose
    (sound_quiet h.sound.scene) h.quiet.sole hf.quiet.reads sql
  have hstate : (s.quiet.act (.onConnection pool physical name
        (.forceClose sql))).2.state
      = ((Act.forceClose ⟨0, below.length⟩ sql).run s.quiet.state).2 := by
    rw [act_of_target? htarget, onConnection, hlinks,
      firstLink?_isCache h.upper]
    exact state_answer _ _ _
  have hstands : s.state.Upholds s.held (s.quiet.act (.onConnection pool
      physical name (.forceClose sql))).2.state := by
    rw [hstate]
    exact ⟨fun hr hn => hup.stands hr (hn.congr fun _ _ => rfl)⟩
  exact hf.of_act h.sound rfl (by rw [hstate]; exact hreads)
    (fun he => hf.made (List.mem_filter.1 he).1) (fun he => .inl he)
    (fun hid hafter => (hf.told hid).step h rfl rfl hid rfl (fun hd => hd)
      (fun hr => hr) fun n hn =>
        stands_step h.sound rfl hstands hid hafter hn)
    fun hg => by cases hg

/-- When the physical connection is gone, nothing is listed, and nothing
that is out goes back. -/
theorem Follows.voided {step : Step} {below : List Link}
    (hf : s.Follows ⟨0, below.length⟩ max l)
    (h : s.Lone above config below) (hkeeps : step.keepsConnections = true)
    (hloses : s.loses 0 step = true) :
    (s.step step).2.Follows ⟨0, below.length⟩ max {} := by
  have hord := isOrdinary_of_loses hloses
  have ho := outdated_of_loses h.sound h.filed h.installed hloses
    (k := ⟨0, below.length⟩) rfl
  have hafter := h.step hord hkeeps
  refine ⟨?_, fun he => (by cases he), fun he => (by cases he),
    fun _ => ⟨fun he => (by cases he), fun _ _ => ?_⟩⟩
  · obtain ⟨store, hstore, hcap, -⟩ := hf.reads.shelf
    obtain ⟨new, hnew, hcap'⟩ :=
      (moves_setting h.sound hord hkeeps).stays hstore fun hd => hd
    refine ⟨new, hnew, hcap'.trans hcap, ?_⟩
    rw [ho.entries_eq_nil hafter.sound.scene.stocked hnew]
    exact .nil
  · refine ⟨fun {a f k g store} _ hcore hb hk => ?_⟩
    obtain rfl := hafter.sole hk
    exact ho.earlier ⟨f, _, hcore, hb⟩ hk

-- ============================================================ all steps

/-- A step that finds nothing changes nothing. -/
theorem Follows.idle {step : Step} (hf : s.Follows k max l) (h : s.Sound)
    {reply : Reply} (hact : s.quiet.act step = (reply, s.quiet)) :
    (s.step step).2.Follows k max l := by
  rw [step_of_act h hact]
  exact hf.quiet

/-- What a step on a connection means, if it neither tells of a loss nor
closes anything by force. -/
theorem booking_onConnection
    (htarget : s.target? pool physical name = some (q, y, c, x))
    (hloss : cstep.isLoss = false)
    (hforce : ∀ sql, cstep ≠ .forceClose sql) :
    s.booking config (.onConnection pool physical name cstep)
      = match cstep.wanted? config with
        | some (kind, sql) =>
          if s.state.isClosedConnection c then .nothing
          else .asked sql kind
            (s.granted? (.onConnection pool physical name cstep))
            s.state.native.statements.length
        | none => .nothing := by
  rw [booking.eq_def]
  simp only [htarget]
  cases cstep with
  | disconnect | discard => cases hloss
  | forceClose sql => exact absurd rfl (hforce sql)
  | _ => rfl

/-- What is wanted of the cache. -/
theorem wanted?_of_asked (hop : cstep.asked? = some op) :
    cstep.wanted? config = op.creates?.bind fun kind =>
      op.sql?.bind fun sql =>
        if config.kinds.contains kind then some (kind, sql) else none := by
  rw [ConnectionStep.wanted?, hop]
  rfl

/-- Only prepared and callable statements are for a cache, and they have a
SQL. -/
theorem exists_sql_of_contains (hk : op.creates? = some kind)
    (hdec : config.kinds.contains kind = true) :
    ∃ sql, op.sql? = some sql := by
  cases op <;> cases hk
  · rw [List.contains_iff_mem, CacheConfig.kinds] at hdec
    split at hdec
    · cases hdec
    · rcases List.mem_append.1 hdec with hin | hin <;> split at hin <;>
        simp at hin
  · exact ⟨_, rfl⟩
  · exact ⟨_, rfl⟩

/-- A request for a statement is booked as it is answered. -/
theorem Follows.created {below : List Link}
    (hf : s.Follows ⟨0, below.length⟩ config.max l)
    (h : s.Lone above config below)
    (htarget : s.target? pool physical name = some (q, y, c, x))
    (hop : cstep.asked? = some op) (hk : op.creates? = some kind) :
    (s.step (.onConnection pool physical name cstep)).2.Follows
      ⟨0, below.length⟩ config.max (l.book config.max
        (s.booking config (.onConnection pool physical name cstep))) := by
  rw [booking_onConnection htarget
    (by cases cstep <;> first | rfl | cases hop)
    (fun sql he => by subst he; cases hop), wanted?_of_asked hop, hk,
    Option.bind_some]
  cases hdec : config.kinds.contains kind with
  | false =>
      have hnone : (op.sql?.bind fun sql =>
          if false = true then some (kind, sql) else none) = none := by
        cases op.sql? <;> rfl
      rw [hnone]
      cases hclosed : s.state.isClosedConnection c with
      | true => exact hf.refused h htarget hop hk hclosed
      | false => exact hf.uncached h htarget hop hk hdec hclosed
  | true =>
      obtain ⟨sql, hsql⟩ := exists_sql_of_contains hk hdec
      rw [hsql, Option.bind_some, if_pos rfl]
      cases hclosed : s.state.isClosedConnection c with
      | true => exact hf.refused h htarget hop hk hclosed
      | false =>
          simp only [Bool.false_eq_true, if_false]
          rw [Ledger.book]
          have hw : s.Wants config pool physical name cstep c op kind sql :=
            ⟨⟨q, y, x, htarget⟩, hop, hk, hsql, hdec, hclosed⟩
          cases hfound : l.find? sql kind with
          | some e => exact hf.hit h hw hfound
          | none => exact hf.missed h hw hfound

/-- The cache follows its ledger in a step on the connection: a statement
that is handed out is taken from both, and what empties the cache empties
the ledger. -/
theorem Follows.step_onConnection {below : List Link}
    (hf : s.Follows ⟨0, below.length⟩ config.max l)
    (h : s.Lone above config below) (pool physical name : String)
    (cstep : ConnectionStep) :
    (s.step (.onConnection pool physical name cstep)).2.Follows
      ⟨0, below.length⟩ config.max (l.book config.max
        (s.booking config (.onConnection pool physical name cstep))) := by
  cases htarget : s.target? pool physical name with
  | none =>
      obtain ⟨what, hact⟩ :=
        act_of_target?_none (s := s.quiet) htarget cstep
      rw [booking.eq_def]
      simp only [htarget]
      exact hf.idle h.sound hact
  | some target =>
      obtain ⟨q, y, c, x⟩ := target
      have hc := (h.only (lookup_of_target? htarget).2).1
      -- what is neither a loss, nor closed by force, nor a request
      have hcalm : cstep.isCalm = true → cstep.wanted? config = none →
          cstep.isLoss = false → (∀ sql, cstep ≠ .forceClose sql) →
          (s.step (.onConnection pool physical name cstep)).2.Follows
            ⟨0, below.length⟩ config.max (l.book config.max
              (s.booking config
                (.onConnection pool physical name cstep))) := by
        intro hcalm hwanted hloss hforce
        rw [booking_onConnection htarget hloss hforce, hwanted]
        exact hf.calm h rfl hcalm rfl (fun _ _ => rfl) fun _ hr => hr.elim
      have hasked : ∀ {op}, cstep.asked? = some op →
          cstep.isCalm = (cstep.asked?.bind (·.creates?)).isNone →
          cstep.isLoss = false → (∀ sql, cstep ≠ .forceClose sql) →
          (s.step (.onConnection pool physical name cstep)).2.Follows
            ⟨0, below.length⟩ config.max (l.book config.max
              (s.booking config
                (.onConnection pool physical name cstep))) := by
        intro op hop hsame hloss hforce
        cases hk : op.creates? with
        | some kind => exact hf.created h htarget hop hk
        | none =>
            refine hcalm ?_ (by rw [wanted?_of_asked hop, hk]; rfl) hloss hforce
            rw [hsame, hop, Option.bind_some, hk]
            rfl
      have hloses : cstep.isLoss = true →
          s.loses 0 (.onConnection pool physical name cstep) = true := by
        intro hloss
        rw [loses, htarget]
        simp only
        rw [hc, hloss]
        rfl
      cases cstep with
      | disconnect withPool finalizing =>
          rw [booking.eq_def]
          simp only [htarget]
          exact hf.voided h rfl (hloses rfl)
      | discard =>
          rw [booking.eq_def]
          simp only [htarget]
          exact hf.voided h rfl (hloses rfl)
      | forceClose sql =>
          rw [booking.eq_def]
          simp only [htarget]
          exact hf.removed h htarget sql
      | call op | create op handle | invoke op handle | reshape op shape =>
          exact hasked rfl rfl rfl fun _ he => by cases he
      | _ => exact hcalm rfl rfl rfl fun _ he => by cases he

/-- The cache follows its ledger in a step on a statement: one that is
closed is entered in both. -/
theorem Follows.step_onStatement {below : List Link}
    (hf : s.Follows ⟨0, below.length⟩ config.max l)
    (h : s.Lone above config below) (hmax : 0 < config.max)
    (hord : use.isOrdinary = true) (name : String) :
    (s.step (.onStatement name use)).2.Follows ⟨0, below.length⟩ config.max
      (l.book config.max (s.booking config (.onStatement name use))) := by
  rw [booking.eq_def]
  simp only
  cases huse : use.asked? with
  | none =>
      have hcalm : (Step.onStatement name use).isCalm = true := by
        show (use.asked? != some .close) = true
        rw [huse]
        rfl
      refine hf.calm h hord hcalm rfl (fun _ _ => rfl) fun _ hr => ?_
      have hasked := hr.1
      rw [huse] at hasked
      cases hasked
  | some sop =>
      cases hid : s.statements.lookup name with
      | none =>
          have hact : s.quiet.act (.onStatement name use)
              = (.missing name, s.quiet) := by
            rw [act, show s.quiet.statements.lookup name = none from hid]
          have hsame := hf.idle h.sound hact
          cases sop <;> exact hsame
      | some id =>
          by_cases hclose : sop = .close
          · subst hclose
            exact hf.closed h hmax huse hid
          · have hcalm : (Step.onStatement name use).isCalm = true := by
              show (use.asked? != some .close) = true
              rw [huse]
              exact bne_iff_ne.2 fun he => hclose (Option.some.inj he)
            have hused : (s.step (.onStatement name use)).2.Follows
                ⟨0, below.length⟩ config.max (l.book config.max
                  (if (s.step (.onStatement name use)).1.isPermanentFailure
                    then .spoiled id else .nothing)) := by
              split
              · next hperm =>
                have hruins : s.Ruins (.onStatement name use) id :=
                  ⟨by rw [huse]; rfl, hid, hperm⟩
                refine hf.calm h hord hcalm rfl (fun other hr => ?_)
                  fun other hr => ?_
                · show (l.lent.erase id).get? other = _
                  rw [Keyed.get?_erase, if_neg fun he : other = id =>
                    hr (he.symm ▸ hruins)]
                · show (l.lent.erase id).get? other = _
                  rw [Keyed.get?_erase, if_pos (eq_of_ruins hid hr)]
              · next hperm =>
                exact hf.calm h hord hcalm rfl (fun _ _ => rfl)
                  fun _ hr => absurd hr.2.2 hperm
            cases sop <;> first | exact absurd rfl hclose | exact hused

/-- A session is as its ledger says after every step. -/
theorem Follows.step {step : Step} {below : List Link}
    (hf : s.Follows ⟨0, below.length⟩ config.max l)
    (h : s.Lone above config below) (hmax : 0 < config.max)
    (hord : step.isOrdinary = true) (hkeeps : step.keepsConnections = true) :
    (s.step step).2.Follows ⟨0, below.length⟩ config.max
      (l.book config.max (s.booking config step)) := by
  cases step with
  | onStatement name use => exact hf.step_onStatement h hmax hord name
  | onConnection pool physical name cstep =>
      exact hf.step_onConnection h pool physical name cstep
  | newConnection | dropConnection => cases hkeeps
  | _ =>
      exact hf.calm h hord rfl rfl (fun _ _ => rfl) fun _ hr => hr.elim

-- ============================================================ whole runs

/-- At first nothing is listed, and the shelf is empty. -/
theorem follows_start (hon : config.isEnabled = true)
    (guarded checkedOut : Bool) :
    (start (above ++ .cache config :: below) guarded checkedOut).Follows
      ⟨0, below.length⟩ config.max {} := by
  have haside := aside_start (above ++ .cache config :: below) guarded
    checkedOut
  refine ⟨⟨.empty config.max, ?_, rfl, .nil⟩, fun he => (by cases he),
    fun he => (by cases he), fun hid => ?_⟩
  · rw [haside.caches]
    exact State.shelf_installLinks hon _
  · have hnone : (start (above ++ .cache config :: below) guarded
        checkedOut).held = [] := by
      cases checkedOut with
      | false => rfl
      | true => exact congrArg (List.map (·.2)) (statements_answer _ _)
    rw [hnone] at hid
    cases hid

/-- A session is as its ledger says after a whole run. -/
theorem Follows.run {steps : List Step} {below : List Link}
    (hf : s.Follows ⟨0, below.length⟩ config.max l)
    (h : s.Lone above config below) (hmax : 0 < config.max)
    (hord : ∀ step ∈ steps, step.isOrdinary = true)
    (hkeeps : ∀ step ∈ steps, step.keepsConnections = true) :
    (s.run steps).Follows ⟨0, below.length⟩ config.max
      (s.ledger config l steps) := by
  induction steps generalizing s l with
  | nil => exact hf
  | cons step rest ih =>
      have hstep := hord step List.mem_cons_self
      have hkeep := hkeeps step List.mem_cons_self
      rw [run_cons, ledger]
      exact ih (hf.step h hmax hstep hkeep) (h.step hstep hkeep)
        (fun next hin => hord next (List.mem_cons_of_mem _ hin))
        fun next hin => hkeeps next (List.mem_cons_of_mem _ hin)

end Session

end PooledChain
