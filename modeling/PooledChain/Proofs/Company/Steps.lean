/-
The steps of a caller in company, and alone.

Whatever a caller does with its statements, with its physical connection
and with its connection ends alike (`Session.Hosts.onStatement`,
`onPool`, `onConnection`): what it asks for keeps in step, and what comes
of the answers is the same, for names stand for the same and layers of a
pair are described alike. So every step of the caller ends alike
(`Session.Hosts.act`). A step that tells the driver what to do ends alike
for every caller (`Session.Hosts.script`).
-/
import PooledChain.Proofs.Company.Seats

namespace PooledChain

open Pairing (Equal OnLayers)
open Act (OnReplies OnAnswers)

namespace Session

variable {k : Seat} {p : Party} {w : Pairing} {s t : Session}
  {a b : LayerId}

-- ======================================================== one statement

/-- Rows point at the statement that was asked in both sessions or in
neither. -/
theorem Hosts.ownRows_eq (h : s.Hosts k p w t) (hab : (a, b) ∈ w.layers)
    {x y : Option LayerId} (hxy : Option.Rel w.OnLayers x y) :
    ownRows a x = ownRows b y := by
  rcases rel_cases hxy with ⟨rfl, rfl⟩ | ⟨d, e, rfl, rfl, hde⟩
  · rfl
  · refine congrArg some (Bool.eq_iff_iff.2 ?_)
    rw [beq_iff_eq, beq_iff_eq]
    exact h.state.eq_iff hde hab

/-- Replies that belong together are shown alike. -/
theorem Hosts.bareReply_eq (h : s.Hosts k p w t) (hab : (a, b) ∈ w.layers)
    {r r' : StatementReply} (hr : OnReplies w r r') :
    bareReply a r = bareReply b r' := by
  cases hr with
  | rows rows hxy =>
      rw [bareReply, bareReply, h.ownRows_eq hab hxy]
  | unit | bool | count | counts => rfl

/-- They are taken alike by who called. -/
theorem Hosts.calledReply_eq (h : s.Hosts k p w t) (hab : (a, b) ∈ w.layers)
    (op : StatementOp) {r r' : StatementReply} (hr : OnReplies w r r') :
    calledReply a op r = calledReply b op r' := by
  cases hr with
  | rows rows hxy =>
      cases op with
      | executeQuery =>
          rw [calledReply, calledReply, h.ownRows_eq hab hxy]
      | _ => rfl
  | unit | bool | count | counts => cases op <;> rfl

/-- The layers of a pair are described alike. -/
theorem Hosts.statementInfo_eq (h : s.Hosts k p w t)
    (hab : (a, b) ∈ w.layers) {l l' : Layer} (hl : l.Matches p w l') :
    s.statementInfo a l = t.statementInfo b l' := by
  have hname : l'.connection.bind (nameOf s.connections)
      = l'.connection.bind (nameOf t.connections) := by
    cases hc : l'.connection with
    | none => rfl
    | some c =>
        rw [hl.own c hc]
        exact h.nameOf_connection
  unfold statementInfo State.statementText
  rw [h.state.isClosed hab, hl.sql, hl.kind, hl.connection, hname]

/-- A step on a statement of the caller's has the same reply in company and
alone. -/
theorem Hosts.onStatement (h : s.Hosts k p w t) (hab : (a, b) ∈ w.layers)
    {step : StatementStep} (hord : step.isOrdinary = true) :
    ∃ w', Ends k p w w' s (s.onStatement a step) (t.onStatement b step) := by
  cases step with
  | call op =>
      exact h.answer (Act.inStep_dispatch hab op) fun hw hr _ _ h =>
        h.calledReply_eq (hw.layers hab) op hr
  | dispatch op =>
      exact h.answer (Act.inStep_dispatch hab op) fun hw hr _ _ h =>
        h.bareReply_eq (hw.layers hab) hr
  | info =>
      obtain ⟨l, l', hl, hl', hmatch⟩ := h.state.layer hab
      rw [Session.onStatement, Session.onStatement, hl, hl']
      exact h.ends (congrArg _ (h.statementInfo_eq hab hmatch))
  | wrap | retire | forward => cases hord

-- ============================================== the physical connection

theorem Hosts.physicalInfo (h : s.Hosts k p w t) {x : Physical}
    (hn : x.native = p.native) :
    ∃ w', Ends k p w w' s
      (.physicalInfo (s.physicalInfo x).1, (s.physicalInfo x).2)
      (.physicalInfo (t.physicalInfo x).1, (t.physicalInfo x).2) := by
  obtain ⟨ps, hminds, hhosts, hanswers⟩ :=
    Native.inStep_isValid s.state.native t.state.native h.state.native
  unfold Session.physicalInfo
  rw [hn]
  rcases hr : (Native.isValid p.native).run s.state.native with ⟨r, st⟩
  rcases hr' : (Native.isValid p.native).run t.state.native with ⟨r', st'⟩
  rw [hr] at hminds hhosts hanswers
  rw [hr'] at hhosts hanswers
  refine ⟨{ w with statements := ps }, .of_state (.call hminds),
    h.of_state (h.state.call hminds.le hhosts) fun _ h => h, ?_⟩
  obtain rfl : r = r' := hanswers.eq
  simp only [hhosts.connection]

theorem Hosts.onPool (h : s.Hosts k p w t) (pool : PoolId) {step : PoolStep}
    (hstep : step.isLocal = true) :
    ∃ w', Ends k p w w' s (s.onPool pool p.physical step)
      (t.onPool pool p.physical step) := by
  cases step with
  | close => cases hstep
  | discard => exact h.answer_equal Act.inStep_discardPhysical _
  | info =>
      obtain ⟨x, hx, hn⟩ := h.state.behind
      rw [Session.onPool, Session.onPool, h.state.physical, hx]
      exact h.physicalInfo hn

-- ======================================================= the connection

variable {pool : PoolId} {x : PhysicalId}

/-- Replies that belong together have the same shape. -/
theorem Hosts.reshape_eq (h : s.Hosts k p w t) {r r' : ConnectionReply}
    (hr : OnAnswers p w r r') (shape : Shape) :
    s.reshape r shape = t.reshape r' shape := by
  cases hr with
  | statement hab =>
      cases shape with
      | statement =>
          obtain ⟨l, l', hl, hl', hmatch⟩ := h.state.layer hab
          unfold reshape
          simp only [ConnectionReply.toStatement, Except.map, hl, hl',
            hmatch.kind]
      | bool | text | physical => rfl
  | physical =>
      cases shape with
      | physical =>
          unfold reshape
          rw [h.physicals]
      | statement | bool | text => rfl
  | unit | bool | text => cases shape <;> rfl

/-- An operation on his connection is answered alike. -/
theorem Hosts.callConnection (h : s.Hosts k p w t) (op : ConnectionOp) :
    ∃ w', Ends k p w w' s (s.callConnection p.connection op)
      (t.callConnection p.connection op) := by
  cases op with
  | isClosed | isValid | autoCommit | isWrapperFor =>
      exact h.answer_equal (Act.inStep_boolOf _) _
  | nativeSql => exact h.answer_equal (Act.inStep_textOf _) _
  | unwrap target =>
      unfold Session.callConnection
      refine h.perform (Act.inStep_physicalOf _) fun _ hxy h => ?_
      obtain ⟨rfl, rfl⟩ := hxy
      exact h.ends (by rw [h.physicals])
  | _ => exact h.answer_equal (Act.inStep_runOp _) _

/-- A bare reply, with a name for the statement in it. -/
theorem Hosts.bareConnectionReply (h : s.Hosts k p w t) {name : String}
    (hname : k.owns name = true) {r r' : ConnectionReply}
    (hr : OnAnswers p w r r') :
    ∃ w', Ends k p w w' s (s.bareConnectionReply name r)
      (t.bareConnectionReply name r') := by
  cases hr with
  | statement hab => exact h.storeStatement hname hab rfl
  | physical =>
      refine h.ends ?_
      rw [h.physicals]
  | unit | bool | text => exact h.ends rfl

/-- One link alone is attached in both sessions. -/
theorem Hosts.attachLink (h : s.Hosts k p w t) (links : List Link)
    (choice : LinkChoice) (pool : Option PoolId) {x : Option PhysicalId}
    (hx : ∀ y ∈ x, y = p.physical) :
    ∃ w', Ends k p w w' s (s.attachLink p.connection links choice pool x)
      (t.attachLink p.connection links choice pool x) := by
  rw [Session.attachLink.eq_def, Session.attachLink.eq_def]
  split
  · exact h.answer_equal (Act.inStep_attach pool hx) _
  · exact h.answer_equal
      (Act.inStep_hear rfl
        (show Event.suits p (.attach pool x) from hx)) _
  · exact h.ends rfl

/-- His connection is described alike. -/
theorem connectionText_eq (h : s.Hosts k p w t) {c : Connection}
    (hc : t.state.connection? p.connection = some c) :
    s.state.connectionText c = t.state.connectionText c := by
  unfold State.connectionText
  rw [h.state.isClosedTerminal hc]

/-- A step on his connection has the same reply in company and alone. -/
theorem Hosts.onConnection (h : s.Hosts k p w t) (pool : PoolId)
    {c : Connection} (hc : t.state.connection? p.connection = some c)
    {step : ConnectionStep} (hstep : step.suits k = true) :
    ∃ w', Ends k p w w' s
      (s.onConnection pool p.physical p.connection c step)
      (t.onConnection pool p.physical p.connection c step) := by
  cases step with
  | checkOut => exact h.answer_equal (Act.inStep_checkOut pool) _
  | checkIn => exact h.answer_equal Act.inStep_checkIn _
  | disconnect =>
      exact h.answer_equal (Act.inStep_tell
        (show Event.suits p (.disconnect _ _ _) from trivial)) _
  | discard => exact h.answer_equal (Act.inStep_discardConnection pool) _
  | poolStarted =>
      exact h.answer_equal (Act.inStep_tell
        (show Event.suits p (.poolStarted pool) from trivial)) _
  | poolClosed => cases hstep
  | attachLink choice withPool withPhysical =>
      cases choice with
      | none => exact h.ends rfl
      | some choice =>
          refine h.attachLink c.links choice _ fun y hy => ?_
          unfold onlyIf at hy
          split at hy
          · exact (Option.some.inj hy).symm
          · cases hy
  | call op => exact h.callConnection op
  | create op name =>
      exact h.perform (Act.inStep_statementOf op) fun _ hab h =>
        h.storeStatement hstep hab rfl
  | nativeNumber => exact h.answer_equal Act.inStep_nativeNumber _
  | invoke op name =>
      exact h.perform (Act.inStep_invokeOp op) fun _ hr h =>
        h.bareConnectionReply hstep hr
  | reshape op shape =>
      unfold Session.onConnection
      refine h.perform (Act.inStep_invokeOp op) fun _ hr h => ?_
      rw [h.reshape_eq hr shape]
      split
      · exact h.ends rfl
      · exact h.ends rfl
  | forceClose sql =>
      rw [Session.onConnection, Session.onConnection]
      cases firstLink? Link.isCache c.links with
      | none => exact h.ends rfl
      | some found =>
          exact h.answer_equal (Act.inStep_forceClose rfl sql) _
  | describe => exact h.ends (by rw [connectionText_eq h hc])

-- ============================================================ all steps

/-- The caller's connection is dropped. -/
theorem Hosts.dropConnection (h : s.Hosts k p w t) {r r' : Reply}
    (hr : r = r') :
    ∃ w', Ends k p w w' s (r, s.dropConnection k.connection)
      (r', t.dropConnection k.connection) := by
  unfold Session.dropConnection
  rw [h.connection]
  cases hc : t.connections.lookup k.connection with
  | none => exact h.ends hr
  | some c =>
      obtain rfl := h.of_lookup hc
      refine ⟨w, ⟨.dropConnection p w s.state, rfl, ?_,
        fun _ hin => List.mem_of_mem_filter hin, rfl, rfl⟩, ?_, hr⟩
      · show (List.filter _ (List.filter _ _)) = _
        rw [List.filter_filter]
        simp only [Bool.and_self]
      · have hnone : ∀ l : List (String × ConnectionId),
            (l.filter fun e => e.1 != k.connection).lookup k.connection
              = none := by
          intro l
          refine List.lookup_eq_none_iff.2 fun e he => ?_
          have hne : (e.1 != k.connection) = true :=
            (List.mem_filter.1 he).2
          exact bne_iff_ne.2 (bne_iff_ne.1 hne).symm
        exact
        { h with
          state := h.state.dropConnection
          connection := (hnone _).trans (hnone _).symm
          called := fun hin => h.called
            (hin.imp List.mem_of_mem_filter List.mem_of_mem_filter) }

/-- He may forget the names of his statements. -/
theorem Hosts.dropStatement (h : s.Hosts k p w t) {name : String}
    (hname : k.owns name = true) {r r' : Reply} (hr : r = r') :
    ∃ w', Ends k p w w' s
      (r, { s with statements := s.statements.filter (·.1 != name) })
      (r', { t with statements := t.statements.filter (·.1 != name) }) :=
  ⟨w, ⟨.refl p w s.state, filter_others _ hname, rfl, fun _ h => h, rfl, rfl⟩,
    { h with statements := forall₂_filter_own h.statements name }, hr⟩

/-- A step of the caller, up to the clearing up before and after it. -/
theorem Hosts.act (h : s.Hosts k p w t) {step : Step}
    (hstep : step.isOf k = true) :
    ∃ w', Ends k p w w' s (s.act step) (t.act step) := by
  cases step with
  | dropConnection name =>
      obtain rfl := beq_iff_eq.1 hstep
      exact h.dropConnection (by rw [h.connection])
  | dropStatement name =>
      refine h.dropStatement hstep ?_
      rcases rel_cases (h.lookup_statement hstep) with
        ⟨hs, ht⟩ | ⟨a, b, hs, ht, -⟩ <;> rw [hs, ht]
      rfl
  | sameStatement n m =>
      obtain ⟨hn, hm⟩ := Bool.and_eq_true_iff.1 hstep
      rw [Session.act, Session.act]
      rcases rel_cases (h.lookup_statement hn) with
        ⟨hs, ht⟩ | ⟨a, b, hs, ht, hab⟩ <;> rw [hs, ht]
      · exact h.ends rfl
      rcases rel_cases (h.lookup_statement hm) with
        ⟨hs, ht⟩ | ⟨d, e, hs, ht, hde⟩ <;> rw [hs, ht]
      · exact h.ends rfl
      · refine h.ends (congrArg Reply.bool (Bool.eq_iff_iff.2 ?_))
        rw [beq_iff_eq, beq_iff_eq]
        exact h.state.eq_iff hab hde
  | nameStatement n m =>
      obtain ⟨hn, hm⟩ := Bool.and_eq_true_iff.1 hstep
      rw [Session.act, Session.act]
      rcases rel_cases (h.lookup_statement hn) with
        ⟨hs, ht⟩ | ⟨a, b, hs, ht, hab⟩ <;> rw [hs, ht]
      · exact h.ends rfl
      · exact h.storeStatement hm hab rfl
  | onStatement name step =>
      obtain ⟨hn, hord⟩ := Bool.and_eq_true_iff.1 hstep
      rw [Session.act, Session.act]
      rcases rel_cases (h.lookup_statement hn) with
        ⟨hs, ht⟩ | ⟨a, b, hs, ht, hab⟩ <;> rw [hs, ht]
      · exact h.ends rfl
      · exact h.onStatement hab hord
  | onPool pool physical step =>
      obtain ⟨hx, hlocal⟩ := Bool.and_eq_true_iff.1 hstep
      obtain rfl := beq_iff_eq.1 hx
      rw [Session.act, Session.act, h.pools, h.physicals, h.physical]
      cases t.pools.lookup pool with
      | none => exact h.ends rfl
      | some q => exact h.onPool q hlocal
  | onConnection pool physical name step =>
      obtain ⟨hnames, hsuits⟩ := Bool.and_eq_true_iff.1 hstep
      obtain ⟨hname, hx⟩ := Bool.and_eq_true_iff.1 hnames
      obtain rfl := beq_iff_eq.1 hname
      obtain rfl := beq_iff_eq.1 hx
      rw [Session.act, Session.act, h.pools, h.physicals, h.physical,
        h.connection]
      cases t.pools.lookup pool with
      | none => exact h.ends rfl
      | some q =>
          cases hc : t.connections.lookup k.connection with
          | none => exact h.ends rfl
          | some c =>
              obtain rfl := h.of_lookup hc
              simp only
              rw [h.state.connection]
              cases hd : t.state.connection? p.connection with
              | none => exact h.ends rfl
              | some d => exact h.onConnection q hd hsuits
  | _ => cases hstep

/-- What the driver is told, it is told in every session. -/
theorem Hosts.script (h : s.Hosts k p w t) {step : Step}
    (hstep : step.isScript = true) :
    (s.act step).2.Hosts k p w (t.act step).2 := by
  have hcall : ∀ {x y : Native.Store}, x.Hosts p.native w.statements y →
      { s with state := { s.state with native := x } }.Hosts k p w
        { t with state := { t.state with native := y } } := fun hxy =>
    h.of_state (h.state.call (fun _ h => h) hxy) fun _ h => h
  cases step with
  | instruct i => exact hcall (h.state.native.obey i)
  | addRule rule => exact hcall (h.state.native.addRule rule)
  | clearRules => exact hcall h.state.native.clearRules
  | _ => cases hstep

/-- What is told to the driver touches no layer. -/
theorem layers_script (s : Session) {step : Step}
    (hstep : step.isScript = true) :
    (s.act step).2.state.layers = s.state.layers := by
  cases step with
  | instruct | addRule | clearRules => rfl
  | _ => cases hstep

end Session

end PooledChain
