/-
Links that observe cannot be seen.

A chain of links that only wrap answers as the end of the chain alone
does, whatever is done with it and with the statements that it makes:
two sessions on the same steps, one with such links and one without any,
give the same replies and leave the same on the driver's side. What a
result set says of its statement is apart, and steps that ask after the
links themselves are not taken (`Step.isShared`).

A chain that holds caches and leak trackers besides does not go unseen
when it makes statements or is closed; in between, an operation passes
its links and leaves what they remember as it is.
-/
import PooledChain.Proofs.Heap.Parallel

namespace PooledChain

-- ======================================================== what is shared

/-- Whether a chain that is given so is made of links that only wrap. -/
def ChainSpec.isWrapping (spec : ChainSpec) : Bool :=
  match spec.links with
  | .ok links => links.all (·.isWrapper)
  | .error _ => true

/-- Whether a step does not ask after the links of a chain that only
wrap: their names, and the recorder among them. -/
def ConnectionStep.isShared : ConnectionStep → Bool
  | attachLink (some .recorder) _ _ => false
  | describe => false
  | _ => true

/-- Whether a step does not ask after the links or after what they
record, and sets up no chains that do more than wrap. -/
def Step.isShared : Step → Bool
  | newConnection _ spec => spec.isWrapping
  | tablePools => false
  | onConnection _ _ _ step => step.isShared
  | _ => true

namespace Session

open Act (Agree Agrees)

variable {α : Type} {s t : Session} {roll : Roll} {name : String}
  {a b : LayerId} {c : ConnectionId}

-- ==================================================== without statements

/-- What ends alike in both sessions and makes no statement, and what
comes of its answer. -/
theorem concur_agrees (h : Parallel roll s t) (hk : s.Kept) {x y : Act α}
    (hxy : Agrees s.state t.state (x.run s.state) (y.run t.state))
    {reply : α → Session → Reply × Session}
    (hreply : ∀ a, (x.run s.state).1 = .ok a → ∀ {u v}, Parallel roll u v →
      u.Kept → Concur (reply a u) (reply a v)) :
    Concur (s.perform x reply) (t.perform y reply) := by
  have habide := hxy.abide h.twins
  have hafter := h.abide habide
  have hkept := Parallel.kept habide hk
  rw [perform, perform]
  rcases hr : x.run s.state with ⟨e | a, u⟩ <;>
    rcases hr' : y.run t.state with ⟨e' | a', v⟩ <;>
    rw [hr, hr'] at hxy hafter <;> rw [hr] at hkept hreply
  · cases hxy.answer
    exact .of_kept rfl hafter hkept
  · cases hxy.answer
  · cases hxy.answer
  · cases hxy.answer
    exact hreply a rfl hafter hkept

/-- An act that is the same to both sessions ends alike in them if what is
made of its answer does. -/
theorem concur_perform (h : Parallel roll s t) (hk : s.Kept) {x : Act α}
    (hx : Agree x) {reply : α → Session → Reply × Session}
    (hreply : ∀ a {u v}, Parallel roll u v → u.Kept →
      Concur (reply a u) (reply a v)) :
    Concur (s.perform x reply) (t.perform x reply) :=
  concur_agrees h hk (hx s.state t.state h.twins.toVeiled)
    fun a _ {_ _} => hreply a

/-- An act that is the same to both sessions and merely answered ends alike
in them. -/
theorem concur_answer (h : Parallel roll s t) (hk : s.Kept) {x : Act α}
    (hx : Agree x) (reply : α → Reply) :
    Concur (s.answer x reply) (t.answer x reply) :=
  concur_perform h hk hx fun _ {_ _} h hk => .of_kept rfl h hk

-- ======================================================== one statement

/-- What comes of the driver's answer is the same whichever handle it
comes up to, but for the stamp on rows. -/
def Unstamped (reply : LayerId → StatementReply → Reply) : Prop :=
  ∀ (u : State) (e : LayerId) (x : Native.Answer),
    (reply e (u.rise e (.ofNative x))).unowned
      = (reply 0 (.ofNative x)).unowned

/-- What a caller gets of an operation is the same whichever handle it comes
up to. -/
theorem unstamped_calledReply (op : StatementOp) :
    Unstamped (calledReply · op) := by
  intro u e x
  rw [State.rise]
  split
  · cases x <;> cases op <;> rfl
  · cases x <;> cases op <;> rfl

theorem unstamped_bareReply : Unstamped bareReply := by
  intro u e x
  rw [State.rise]
  split
  · cases x <;> rfl
  · cases x <;> rfl

/-- An operation on handles of one name ends alike in both sessions. -/
theorem concur_dispatch (h : Parallel roll s t) (hk : s.Kept)
    (he : (name, a, b) ∈ roll) (op : StatementOp)
    {reply : LayerId → StatementReply → Reply} (hreply : Unstamped reply) :
    Concur (s.answer (Act.dispatch a op) (reply a))
      (t.answer (Act.dispatch b op) (reply b)) := by
  have hdispatch := Act.dispatches h.twins (h.meets he) op
  have hafter := h.abide hdispatch.toAbide
  have hkept := Parallel.kept hdispatch.toAbide hk
  obtain ⟨q, hq, hq'⟩ := hdispatch.answer
  rw [answer, answer, perform, perform]
  rcases hr : (Act.dispatch a op).run s.state with ⟨r, u⟩
  rcases hr' : (Act.dispatch b op).run t.state with ⟨r', v⟩
  rw [hr, hr'] at hafter
  rw [hr] at hkept hq
  rw [hr'] at hq'
  cases hq
  cases hq'
  cases q with
  | error e => exact .of_kept rfl hafter hkept
  | ok x =>
      exact .of_kept ((hreply t.state b x).trans (hreply s.state a x).symm)
        hafter hkept

/-- A statement is described alike. -/
theorem statementInfo_eq (h : Parallel roll s t) (he : (name, a, b) ∈ roll)
    {l l' : Layer} (hl : s.state.layer? a = some l)
    (hl' : t.state.layer? b = some l') :
    t.statementInfo b l' = s.statementInfo a l := by
  have hmeets := h.meets he
  have hclosed := hmeets.isClosed h.twins.thin.whole.formed
    h.twins.thin'.whole.formed
  obtain ⟨hsql, hkind, hconnection⟩ := hmeets.faces hl hl'
  unfold statementInfo State.statementText
  rw [hclosed, hsql, hkind, hconnection, h.names.connections]

/-- Nobody has put up a facade that watches. -/
theorem watched?_eq_none (h : s.state.Thin) (asked : LayerId)
    (number : Option Nat) : s.watched? asked number = none := by
  unfold watched?
  simp only [h.watched]
  cases number <;> rfl

/-- The connection of a handle is there in both sessions or in neither. -/
theorem livingConnection_eq (h : Parallel roll s t) {l l' : Layer}
    (hc : l'.connection = l.connection) :
    t.livingConnection l' = s.livingConnection l := by
  have hliving : ∀ c, (t.state.connection? c).isSome
      = (s.state.connection? c).isSome := by
    intro c
    rcases h.twins.connection? c with ⟨hs, ht⟩ | ⟨x, y, hs, ht, -⟩
    · rw [hs, ht]
    · rw [hs, ht]
      rfl
  unfold livingConnection
  simp only [hc, hliving]

/-- Putting a handle around a statement ends alike in both. -/
theorem concur_wrap (h : Parallel roll s t) (hk : s.Kept)
    (he : (name, a, b) ∈ roll) {l l' : Layer}
    (hl : s.state.layer? a = some l) (hl' : t.state.layer? b = some l')
    (handle : String) (orphan : Bool) :
    Concur (.unit, s.wrap a l handle orphan)
      (.unit, t.wrap b l' handle orphan) := by
  obtain ⟨hsql, hkind, hconnection⟩ := (h.meets he).faces hl hl'
  have hliving := livingConnection_eq h hconnection
  unfold wrap
  rw [hliving, ← State.core_eq_of_layer? hl, ← State.core_eq_of_layer? hl']
  have hwrapped : Layer.face { l' with
        connection := if orphan then none else s.livingConnection l
        core := .facade ⟨(t.state.core b).level + 1, some b, false, .plain⟩ }
      = Layer.face { l with
        connection := if orphan then none else s.livingConnection l
        core := .facade ⟨(s.state.core a).level + 1, some a, false, .plain⟩ } := by
    rw [Layer.face, Layer.face, hsql, hkind]
  obtain ⟨habide, hmeets⟩ :=
    State.Twins.addFacade h.twins (h.meets he) hwrapped rfl rfl rfl rfl
  exact (h.abide habide).concur_store hmeets
    (h.new (Nat.le_refl _) (Nat.le_refl _))
    (fun hn => absurd hn (Parallel.kept habide hk _)) _ handle

/-- Every step on a statement ends alike in both. -/
theorem concur_onStatement (h : Parallel roll s t) (hk : s.Kept)
    (he : (name, a, b) ∈ roll) (step : StatementStep) :
    Concur (s.onStatement a step) (t.onStatement b step) := by
  obtain ⟨l, hl, -⟩ := State.exists_layer (h.meets he).left
  obtain ⟨l', hl', -⟩ := State.exists_layer (h.meets he).right
  cases step with
  | call op => exact concur_dispatch h hk he op (unstamped_calledReply op)
  | dispatch op => exact concur_dispatch h hk he op unstamped_bareReply
  | info =>
      simp only [onStatement, hl, hl']
      refine .of_kept ?_ h hk
      rw [statementInfo_eq h he hl hl']
  | wrap handle orphan =>
      simp only [onStatement, hl, hl']
      exact concur_wrap h hk he hl hl' handle orphan
  | retire number handle =>
      simp only [onStatement, watched?_eq_none h.twins.thin,
        watched?_eq_none h.twins.thin']
      exact .of_kept rfl h hk
  | forward number op =>
      simp only [onStatement, watched?_eq_none h.twins.thin,
        watched?_eq_none h.twins.thin']
      exact .of_kept rfl h hk

-- =============================================================== a pool

/-- Every step on a pool ends alike in both. -/
theorem concur_onPool (h : Parallel roll s t) (hk : s.Kept) (pool : PoolId)
    (x : PhysicalId) (step : PoolStep) :
    Concur (s.onPool pool x step) (t.onPool pool x step) := by
  cases step with
  | close names =>
      rw [onPool, onPool, h.names.connections]
      exact concur_answer h hk (Act.agree_closePool pool _) _
  | discard => exact concur_answer h hk (Act.agree_discardPhysical x) _
  | info =>
      rw [onPool, onPool, h.twins.physical?]
      cases s.state.physical? x with
      | none => exact .of_kept rfl h hk
      | some p =>
          have hagrees := Agree.native (Native.isSteady_isValid p.native)
            s.state t.state h.twins.toVeiled
          have habide := hagrees.abide h.twins
          refine .of_kept ?_ (h.abide habide) (Parallel.kept habide hk)
          show Reply.physicalInfo (t.physicalInfo p).1
            = .physicalInfo (s.physicalInfo p).1
          unfold physicalInfo
          rw [h.twins.native]
          rcases (Native.isValid p.native).run s.state.native with ⟨r, st⟩
          rfl

-- ========================================================= a connection

/-- A connection is asked for something. It answers without a statement,
or hands out one on either side. -/
theorem concur_ask (h : Parallel roll s t) (hk : s.Kept) (c : ConnectionId)
    (op : ConnectionOp) {reply : ConnectionReply → Session → Reply × Session}
    (hplain : ∀ r {u v}, (∀ id, r ≠ .statement id) → Parallel roll u v →
      u.Kept → Concur (reply r u) (reply r v))
    (hhanded : ∀ {a b n u v}, Handed roll u v a b n →
      Concur (reply (.statement a) u) (reply (.statement b) v)) :
    Concur (s.perform (Act.invokeOp c op) reply)
      (t.perform (Act.invokeOp c op) reply) := by
  have hfetches := Act.fetches_invokeOp h.twins c op
  cases hfetches with
  | same hagrees hout =>
      refine concur_agrees h hk hagrees fun r hr {u v} => hplain r fun id => ?_
      rintro rfl
      rw [hr] at hout
      cases hout
  | raised hr hr' huv hu hv =>
      rw [perform, perform, hr, hr']
      exact hhanded (h.handed hk huv hu hv)

/-- The answer of a connection is read before anything comes of it. -/
theorem perform_read (s : Session) (c : ConnectionId) (op : ConnectionOp)
    (read : ConnectionReply → Except Error α)
    (reply : α → Session → Reply × Session) :
    s.perform (do read (← Act.invokeOp c op) : Act α) reply
      = s.perform (Act.invokeOp c op) fun r s =>
          match read r with
          | .ok a => reply a s
          | .error e => (.failed e, s) := by
  rw [perform, perform, Act.run_read]
  rcases (Act.invokeOp c op).run s.state with ⟨e | r, u⟩
  · rfl
  · simp only [Except.bind]
    cases read r <;> rfl

/-- Asking a connection for a statement ends alike in both. -/
theorem concur_create (h : Parallel roll s t) (hk : s.Kept)
    (c : ConnectionId) (op : ConnectionOp) (name : String) :
    Concur
      (s.perform (Act.statementOf c op) fun id s =>
        (.unit, s.storeStatement name id))
      (t.perform (Act.statementOf c op) fun id s =>
        (.unit, s.storeStatement name id)) := by
  rw [Act.statementOf, perform_read, perform_read]
  refine concur_ask h hk c op (fun r {u v} hr h hk => ?_)
    fun hh => hh.concur_store .unit name
  cases r with
  | statement id => exact absurd rfl (hr id)
  | _ => exact .of_kept rfl h hk

/-- Any operation on a connection ends alike in both, as it comes. -/
theorem concur_invoke (h : Parallel roll s t) (hk : s.Kept)
    (c : ConnectionId) (op : ConnectionOp) (name : String) :
    Concur
      (s.perform (Act.invokeOp c op) fun r s => s.bareConnectionReply name r)
      (t.perform (Act.invokeOp c op) fun r s =>
        s.bareConnectionReply name r) := by
  refine concur_ask h hk c op (fun r {u v} hr h hk => ?_)
    fun hh => hh.concur_store (.bareStatement name) name
  cases r with
  | statement id => exact absurd rfl (hr id)
  | physical x =>
      refine .of_kept ?_ h hk
      show Reply.unowned (.barePhysical _) = .unowned (.barePhysical _)
      rw [h.names.physicals]
  | _ => exact .of_kept rfl h hk

/-- Handles that meet are taken for the same. -/
theorem reshape_statement {u v : Session} {n : Native.StatementId}
    (h : Handed roll u v a b n) (shape : Shape) :
    v.reshape (.statement b) shape = u.reshape (.statement a) shape := by
  cases shape with
  | statement =>
      obtain ⟨l, hl, -⟩ := State.exists_layer h.hands.left
      obtain ⟨l', hl', -⟩ := State.exists_layer h.hands.right
      obtain ⟨-, hkind, -⟩ := h.hands.faces hl hl'
      simp only [reshape, ConnectionReply.toStatement, Except.map, hl, hl',
        hkind]
  | bool | text | physical => rfl

/-- Any operation ends alike in both when its reply is taken for another
shape. -/
theorem concur_reshape (h : Parallel roll s t) (hk : s.Kept)
    (c : ConnectionId) (op : ConnectionOp) (shape : Shape) :
    Concur
      (s.perform (Act.invokeOp c op) fun r s =>
        match s.reshape r shape with
        | .ok reply => (reply, s)
        | .error e => (.failed e, s))
      (t.perform (Act.invokeOp c op) fun r s =>
        match s.reshape r shape with
        | .ok reply => (reply, s)
        | .error e => (.failed e, s)) := by
  refine concur_ask h hk c op (fun r {u v} hr h hk => ?_) fun {_ _ _ u v} hh => ?_
  · have hsame : v.reshape r shape = u.reshape r shape := by
      cases shape with
      | statement =>
          cases r with
          | statement id => exact absurd rfl (hr id)
          | _ => rfl
      | physical =>
          unfold reshape
          rw [h.names.physicals]
      | bool | text => rfl
    rw [hsame]
    cases u.reshape r shape with
    | error e => exact .of_kept rfl h hk
    | ok reply => exact .of_kept rfl h hk
  · rw [reshape_statement hh]
    cases u.reshape (.statement _) shape with
    | error e => exact hh.concur _
    | ok reply => exact hh.concur _

/-- An operation whose answer is not looked at. -/
theorem answer_runOp (s : Session) (c : ConnectionId) (op : ConnectionOp)
    (reply : Unit → Reply) :
    s.answer (Act.runOp c op) reply
      = s.perform (Act.invokeOp c op) fun _ s => (reply (), s) := by
  rw [answer, perform, perform, Act.runOp, Act.run_bind]
  rcases (Act.invokeOp c op).run s.state with ⟨e | r, u⟩ <;> rfl

/-- Running an operation for nothing ends alike in both. -/
theorem concur_runOp (h : Parallel roll s t) (hk : s.Kept)
    (c : ConnectionId) (op : ConnectionOp) :
    Concur (s.answer (Act.runOp c op) fun _ => .unit)
      (t.answer (Act.runOp c op) fun _ => .unit) := by
  rw [answer_runOp, answer_runOp]
  exact concur_ask h hk c op (fun r {u v} _ h hk => .of_kept rfl h hk)
    fun hh => hh.concur .unit

/-- Calling a connection ends alike in both. -/
theorem concur_callConnection (h : Parallel roll s t) (hk : s.Kept)
    (c : ConnectionId) (op : ConnectionOp) :
    Concur (s.callConnection c op) (t.callConnection c op) := by
  cases op with
  | isClosed | isValid | autoCommit | isWrapperFor =>
      exact concur_answer h hk (Act.agree_boolOf c rfl) _
  | nativeSql => exact concur_answer h hk (Act.agree_textOf c rfl) _
  | unwrap target =>
      have hagree : Agree (Act.physicalOf c (.unwrap target)) :=
        Act.agree_physicalOf c rfl
      unfold callConnection
      refine concur_perform h hk hagree fun x {u v} h hk => ?_
      rw [h.names.physicals]
      exact .of_kept rfl h hk
  | _ => exact concur_runOp h hk c _

/-- A link that is not among those that only wrap is not found. -/
theorem firstLink?_eq_none {p : Link → Bool} {links : List Link}
    (h : ∀ link ∈ links, p link = false) : firstLink? p links = none := by
  induction links with
  | nil => rfl
  | cons link rest ih =>
      rw [firstLink?, h link List.mem_cons_self]
      exact ih fun l hl => h l (List.mem_cons_of_mem _ hl)

/-- A link that is not there is told nothing. -/
theorem attachLink_eq_missing {links : List Link} {choice : LinkChoice}
    (hn : choose links choice = none) (hne : choice ≠ .terminal)
    (pool : Option PoolId) (x : Option PhysicalId) :
    s.attachLink c links choice pool x = (.missing "link", s) := by
  rw [attachLink.eq_def, hn]
  cases choice with
  | terminal => exact absurd rfl hne
  | recorder | leakTracker | cache => rfl

/-- Every step on a connection that does not ask after links ends alike in
both. -/
theorem concur_onConnection (h : Parallel roll s t) (hk : s.Kept)
    (pool : PoolId) (x : PhysicalId) {k k' : Connection}
    (hc : s.state.connection? c = some k)
    (hc' : t.state.connection? c = some k') {step : ConnectionStep}
    (hshared : step.isShared = true) :
    Concur (s.onConnection pool x c k step)
      (t.onConnection pool x c k' step) := by
  have hnone : ∀ {u : State} {k p}, u.Wrapped → u.connection? c = some k →
      (∀ link : Link, link.isWrapper = true → p link = false) →
      firstLink? p k.links = none := fun hu hc hp =>
    firstLink?_eq_none fun link hl => hp link (hu.wraps hc link hl)
  have hcache : ∀ link : Link, link.isWrapper = true →
      link.isCache = false := fun link hl => by
    cases link <;> first | rfl | cases hl
  have hleaks : ∀ link : Link, link.isWrapper = true →
      link.isLeakTracker = false := fun link hl => by
    cases link <;> first | rfl | cases hl
  cases step with
  | checkOut => exact concur_answer h hk (Act.agree_checkOut c pool x) _
  | checkIn => exact concur_answer h hk (Act.agree_tell c .checkIn) _
  | disconnect | poolStarted | poolClosed =>
      exact concur_answer h hk (Act.agree_tell c _) _
  | discard => exact concur_answer h hk (Act.agree_discardConnection c pool x) _
  | attachLink choice withPool withPhysical =>
      rcases choice with _ | choice
      · exact .of_kept rfl h hk
      rw [onConnection, onConnection]
      cases choice with
      | terminal => exact concur_answer h hk (Act.agree_modifyTerminal c _) _
      | recorder => cases hshared
      | leakTracker =>
          have hn : choose k.links .leakTracker = none :=
            hnone h.twins.left hc hleaks
          have hn' : choose k'.links .leakTracker = none :=
            hnone h.twins.right hc' hleaks
          rw [attachLink_eq_missing hn (by decide),
            attachLink_eq_missing hn' (by decide)]
          exact .of_kept rfl h hk
      | cache =>
          have hn : choose k.links .cache = none :=
            hnone h.twins.left hc hcache
          have hn' : choose k'.links .cache = none :=
            hnone h.twins.right hc' hcache
          rw [attachLink_eq_missing hn (by decide),
            attachLink_eq_missing hn' (by decide)]
          exact .of_kept rfl h hk
  | call op => exact concur_callConnection h hk c op
  | create op name => exact concur_create h hk c op name
  | nativeNumber => exact concur_answer h hk (Act.agree_nativeNumber c) _
  | invoke op name => exact concur_invoke h hk c op name
  | reshape op shape => exact concur_reshape h hk c op shape
  | forceClose sql =>
      rw [onConnection, onConnection, hnone h.twins.left hc hcache,
        hnone h.twins.right hc' hcache]
      exact .of_kept rfl h hk
  | describe => cases hshared

-- ========================================================= setting up

/-- What changes neither statements nor their names. -/
theorem Parallel.agrees {s' t' : Session} (h : Parallel roll s t)
    (hk : s.Kept) {r r' : Except Error α}
    (ha : Agrees s.state t.state (r, s'.state) (r', t'.state))
    (hn : s'.SameNames t') (hl : s'.statements = s.statements)
    (hr : t'.statements = t.statements) : Parallel roll s' t' ∧ s'.Kept :=
  h.renamed hk (ha.abide h.twins) hn hl hr

/-- The driver is told something. -/
theorem concur_driver (h : Parallel roll s t) (hk : s.Kept) {g : Bool}
    {st : Native.Store} (hst : Native.Store.Steady g s.state.native st)
    (r : Reply) :
    Concur (r, { s with state := { s.state with native := st } })
      (r, { t with state := { t.state with native := st } }) := by
  have hagrees : Agrees s.state t.state
      ((.ok (), { s.state with native := st }) : Except Error Unit × State)
      (.ok (), { t.state with native := st }) :=
    ⟨rfl, h.twins.call st, .call hst, .call (by rw [h.twins.native]; exact hst)⟩
  have habide := hagrees.abide h.twins
  exact .of_kept rfl (h.abide habide) (Parallel.kept habide hk)

/-- Sessions stay parallel when each makes a pool. -/
theorem parallel_newPool (h : Parallel roll s t) (hk : s.Kept)
    (name : String) :
    Parallel roll (s.newPool name) (t.newPool name)
      ∧ (s.newPool name).Kept := by
  have hagrees := Act.agrees_newPool h.twins.toVeiled
  refine h.agrees hk hagrees ⟨h.names.guarded, h.names.connections, ?_,
    h.names.physicals⟩ rfl rfl
  show rename t.pools name t.state.newPool.1
    = rename s.pools name s.state.newPool.1
  rw [Except.ok.inj hagrees.answer, h.names.pools]

/-- Sessions stay parallel when each makes a physical connection. -/
theorem parallel_newPhysical (h : Parallel roll s t) (hk : s.Kept)
    (name : String) :
    Parallel roll (s.newPhysical name) (t.newPhysical name)
      ∧ (s.newPhysical name).Kept := by
  have hagrees := Act.agrees_newPhysical h.twins.toVeiled s.guarded
  unfold newPhysical
  rw [h.names.guarded]
  refine h.agrees hk hagrees ⟨rfl, h.names.connections, h.names.pools, ?_⟩
    rfl rfl
  show rename t.physicals name (t.state.newPhysical s.guarded).1
    = rename s.physicals name (s.state.newPhysical s.guarded).1
  rw [Except.ok.inj hagrees.answer, h.names.physicals]

/-- Sessions stay parallel when each drops a connection. -/
theorem parallel_dropConnection (h : Parallel roll s t) (hk : s.Kept)
    (name : String) :
    Parallel roll (s.dropConnection name) (t.dropConnection name)
      ∧ (s.dropConnection name).Kept := by
  unfold dropConnection
  rw [h.names.connections]
  cases s.connections.lookup name with
  | none => exact ⟨h, hk⟩
  | some c =>
      have hagrees := Act.agrees_dropConnection h.twins.toVeiled
        h.twins.thin.caches h.twins.thin'.caches c
      exact h.agrees hk hagrees ⟨h.names.guarded, rfl, h.names.pools,
        h.names.physicals⟩ rfl rfl

/-- Connections are made, whose links only wrap. -/
theorem parallel_newConnection (h : Parallel roll s t) (hk : s.Kept)
    {links links' : List Link}
    (hlinks : ∀ link ∈ links, link.isWrapper = true)
    (hlinks' : ∀ link ∈ links', link.isWrapper = true) (name : String) :
    Parallel roll (s.newConnection name links) (t.newConnection name links')
      ∧ (s.newConnection name links).Kept := by
  have hagrees := Act.agrees_newConnection h.twins.toVeiled hlinks hlinks'
  have habide := hagrees.abide h.twins
  obtain ⟨hdropped, hkept⟩ := parallel_dropConnection (h.abide habide)
    (Parallel.kept habide hk) name
  refine ⟨{ hdropped with
    names := ⟨hdropped.names.guarded, ?_, hdropped.names.pools,
      hdropped.names.physicals⟩ }, hkept⟩
  show (name, (t.state.newConnection links').1) :: _
    = (name, (s.state.newConnection links).1) :: _
  rw [Except.ok.inj hagrees.answer]
  exact congrArg _ hdropped.names.connections

-- ============================================================ one step

/-- Whether two names are of one statement is answered alike in both. -/
theorem concur_sameStatement (h : Parallel roll s t) (hk : s.Kept)
    (name name' : String) :
    Concur (s.act (.sameStatement name name'))
      (t.act (.sameStatement name name')) := by
  rw [act, act]
  rcases h.lookup name with ⟨hs, ht⟩ | ⟨a, b, he, hs, ht⟩
  · rw [hs, ht]
    exact .of_kept rfl h hk
  · rcases h.lookup name' with ⟨hs', ht'⟩ | ⟨a', b', he', hs', ht'⟩
    · rw [hs, ht, hs', ht']
      exact .of_kept rfl h hk
    · rw [hs, ht, hs', ht']
      have hsame : (b == b') = (a == a') := by
        rw [Bool.eq_iff_iff, beq_iff_eq, beq_iff_eq]
        exact (h.single he he').symm
      simp only [hsame]
      exact .of_kept rfl h hk

/-- Giving a statement another name ends alike in both. -/
theorem concur_nameStatement (h : Parallel roll s t) (hk : s.Kept)
    (statement name : String) :
    Concur (s.act (.nameStatement statement name))
      (t.act (.nameStatement statement name)) := by
  rw [act, act]
  rcases h.lookup statement with ⟨hs, ht⟩ | ⟨a, b, he, hs, ht⟩
  · rw [hs, ht]
    exact .of_kept rfl h hk
  · rw [hs, ht]
    exact h.concur_store (h.meets he) (fun he' => h.single he' he)
      (fun hl => absurd hl (hk _)) .unit name

/-- Taking the name of a statement back ends alike in both. -/
theorem concur_dropStatement (h : Parallel roll s t) (hk : s.Kept)
    (name : String) :
    Concur (s.act (.dropStatement name)) (t.act (.dropStatement name)) := by
  have hsome : (t.statements.lookup name).isSome
      = (s.statements.lookup name).isSome := by
    rcases h.lookup name with ⟨hs, ht⟩ | ⟨a, b, he, hs, ht⟩
    · rw [hs, ht]
    · rw [hs, ht]
      rfl
  rw [act, act, hsome]
  exact h.concur_forget hk _ name

/-- A step without the clearing up before and after it. -/
theorem concur_act (h : Parallel roll s t) (hk : s.Kept) {step : Step}
    (hshared : step.isShared = true) : Concur (s.act step) (t.act step) := by
  have hof : ∀ {u v : Session} (r : Reply), Parallel roll u v ∧ u.Kept →
      Concur (r, u) (r, v) := fun r hp => .of_kept rfl hp.1 hp.2
  cases step with
  | instruct i =>
      rw [act, act, h.twins.native]
      exact concur_driver h hk (Native.Store.steady_obey true _ i) .unit
  | addRule rule =>
      rw [act, act, h.twins.native]
      exact concur_driver h hk (Native.Store.steady_addRule true _ rule) .unit
  | clearRules =>
      rw [act, act, h.twins.native]
      exact concur_driver h hk (Native.Store.steady_clearRules true _) .unit
  | preparedSql =>
      rw [act, act, h.twins.native]
      exact .of_kept rfl h hk
  | newPool name => exact hof .unit (parallel_newPool h hk name)
  | newPhysical name => exact hof .unit (parallel_newPhysical h hk name)
  | newConnection name spec =>
      rw [Step.isShared, ChainSpec.isWrapping] at hshared
      rw [act, act]
      cases hspec : spec.links with
      | error e => exact .of_kept rfl h hk
      | ok links =>
          rw [hspec] at hshared
          have hlinks := List.all_eq_true.1 hshared
          exact hof _ (parallel_newConnection h hk hlinks hlinks name)
  | dropConnection name =>
      rw [act, act, h.names.connections]
      exact hof _ (parallel_dropConnection h hk name)
  | dropStatement name => exact concur_dropStatement h hk name
  | sameStatement name name' => exact concur_sameStatement h hk name name'
  | nameStatement statement name =>
      exact concur_nameStatement h hk statement name
  | tablePools => cases hshared
  | onStatement name use =>
      rw [act, act]
      rcases h.lookup name with ⟨hs, ht⟩ | ⟨a, b, he, hs, ht⟩
      · rw [hs, ht]
        exact .of_kept rfl h hk
      · rw [hs, ht]
        exact concur_onStatement h hk he use
  | onPool pool physical use =>
      rw [act, act, h.names.pools, h.names.physicals]
      cases s.pools.lookup pool with
      | none => exact .of_kept rfl h hk
      | some q =>
          cases s.physicals.lookup physical with
          | none => exact .of_kept rfl h hk
          | some x => exact concur_onPool h hk q x use
  | onConnection pool physical name use =>
      rw [act, act, h.names.pools, h.names.physicals, h.names.connections]
      cases s.pools.lookup pool with
      | none => exact .of_kept rfl h hk
      | some q =>
          cases s.physicals.lookup physical with
          | none => exact .of_kept rfl h hk
          | some x =>
              simp only
              cases s.connections.lookup name with
              | none => exact .of_kept rfl h hk
              | some c =>
                  simp only
                  rcases h.twins.connection? c with
                    ⟨hs, ht⟩ | ⟨k, k', hs, ht, -⟩
                  · rw [hs, ht]
                    exact .of_kept rfl h hk
                  · rw [hs, ht]
                    exact concur_onConnection h hk q x hs ht hshared

/-- Sessions stay parallel when each starts with an empty journal. -/
theorem parallel_quiet (h : Parallel roll s t) (hk : s.Kept) :
    Parallel roll s.quiet t.quiet ∧ s.quiet.Kept := by
  have hunseen : ∀ u : State, u.Unseen { u with journal := [], warnings := [] } :=
    fun _ => ⟨⟨⟨rfl, rfl, rfl, rfl, rfl, rfl⟩, rfl⟩, rfl⟩
  have hagrees : Agrees s.state t.state
      ((.ok (), s.quiet.state) : Except Error Unit × State)
      (.ok (), t.quiet.state) :=
    ⟨rfl, h.twins.unseen (hunseen _) (hunseen _), (hunseen _).spares,
      (hunseen _).spares⟩
  exact h.agrees hk hagrees ⟨h.names.guarded, h.names.connections,
    h.names.pools, h.names.physicals⟩ rfl rfl

/-- Whether two sessions run alongside each other, between steps. -/
structure Alongside (s t : Session) : Prop where
  parallel : ∃ roll, Parallel roll s t
  kept : s.Kept

/-- A step is answered alike, and the sessions stay alongside. -/
theorem alongside_step (h : s.Alongside t) {step : Step}
    (hshared : step.isShared = true) :
    (t.step step).1.unowned = (s.step step).1.unowned
      ∧ (s.step step).2.Alongside (t.step step).2 := by
  obtain ⟨⟨roll, hp⟩, hk⟩ := h
  obtain ⟨hquiet, hkquiet⟩ := parallel_quiet hp hk
  have hconcur := concur_act hquiet hkquiet hshared
  obtain ⟨roll', hafter⟩ := hconcur.after
  obtain ⟨hsettled, hkept⟩ := hafter.settle hconcur.lost
  exact ⟨hconcur.reply, ⟨roll', hsettled⟩, hkept⟩

-- ============================================================ whole runs

/-- Sessions that run alongside each other do so for a whole run. -/
theorem alongside_run (h : s.Alongside t) {steps : List Step}
    (hshared : ∀ step ∈ steps, step.isShared = true) :
    (s.run steps).Alongside (t.run steps) := by
  induction steps generalizing s t with
  | nil => exact h
  | cons step steps ih =>
      rw [run_cons, run_cons]
      exact ih (alongside_step h (hshared step List.mem_cons_self)).2
        fun st hst => hshared st (List.mem_cons_of_mem _ hst)

/-- There is nothing to tell two sessions apart by at first. -/
theorem parallel_nothing (guarded : Bool) :
    Parallel [] ⟨{}, guarded, [], [], [], []⟩ ⟨{}, guarded, [], [], [], []⟩ := by
  have hwrapped : State.Wrapped {} := ⟨fun hc => by cases hc⟩
  have hopen : ∀ n, ¬ ({} : State).native.HasOpen n := fun n hn =>
    absurd hn.lt (Nat.not_lt_zero n)
  have hthin : State.Thin {} :=
    { whole := ⟨sound_nothing.formed, fun hd => by cases hd⟩
      light := ⟨fun hf => by cases hf⟩
      caches := rfl
      watched := rfl
      once := fun hx => by cases hx
      opened := fun n => ⟨fun hn => absurd hn (hopen n), nofun⟩ }
  exact ⟨.refl _, rfl, rfl, .nil,
    ⟨⟨rfl, rfl, rfl, rfl, rfl, hwrapped, hwrapped⟩, hthin, hthin⟩, nofun, nofun⟩

/-- A session whose links only wrap starts alongside one without links. -/
theorem alongside_start {links : List Link}
    (hlinks : ∀ link ∈ links, link.isWrapper = true)
    (guarded checkedOut : Bool) :
    (start links guarded checkedOut).Alongside (start [] guarded checkedOut) := by
  have hkept : Kept ⟨{}, guarded, [], [], [], []⟩ := fun n hn =>
    absurd hn.1.lt (Nat.not_lt_zero n)
  obtain ⟨hp₁, hk₁⟩ := parallel_newPool (parallel_nothing guarded) hkept "p0"
  obtain ⟨hp₂, hk₂⟩ := parallel_newPhysical hp₁ hk₁ "x0"
  have hnone : ∀ link ∈ ([] : List Link), link.isWrapper = true := nofun
  obtain ⟨hp₃, hk₃⟩ := parallel_newConnection hp₂ hk₂ hlinks hnone "c0"
  cases checkedOut with
  | false => exact ⟨⟨_, hp₃⟩, hk₃⟩
  | true =>
      have hagrees := Act.agree_checkOut 0 0 0 _ _ hp₃.twins.toVeiled
      have habide := hagrees.abide hp₃.twins
      have hstate : ∀ u : Session, (u.answer (Act.checkOut 0 0 0)
          fun _ => .unit).2
            = { u with state := ((Act.checkOut 0 0 0).run u.state).2 } := by
        intro u
        rw [answer, perform]
        rcases (Act.checkOut 0 0 0).run u.state with ⟨_ | _, t⟩ <;> rfl
      show Alongside (answer _ _ _).2 (answer _ _ _).2
      rw [hstate, hstate]
      exact ⟨⟨_, hp₃.abide habide⟩, Parallel.kept habide hk₃⟩

-- ======================================================== what is unseen

/-- Links that observe cannot be seen. A chain of them answers every step
as its end alone does on the same steps, but for the statement that a
result set points at, and leaves the same on the driver's side. In a
chain with caches and leak trackers besides, an operation that neither
closes nor makes a statement gets the answer that the end alone would
give, with the same effect on the driver's side, and nothing else
changes. -/
theorem observing_links_are_unseen :
    (∀ (links : List Link) (guarded checkedOut : Bool) (steps : List Step)
        (step : Step),
      (∀ link ∈ links, link.isWrapper = true) →
      (∀ st ∈ steps, st.isShared = true) → step.isShared = true →
      let s := (start links guarded checkedOut).run steps
      let t := (start [] guarded checkedOut).run steps
      (s.step step).1.unowned = (t.step step).1.unowned
        ∧ (s.step step).2.state.native = (t.step step).2.state.native)
    ∧ ∀ (s t : State) (c d : ConnectionId) (x y : Connection)
        (op : ConnectionOp),
      s.connection? c = some x → t.connection? d = some y →
      (∀ link ∈ x.links,
        (link.isWrapper || link.isCache || link.isLeakTracker) = true) →
      y.links = [] → y.terminal = x.terminal →
      t.native = s.native → t.physicals = s.physicals →
      op.creates? = none → op ≠ .close →
      let r := (Act.invokeOp c op).run s
      let r' := (Act.invokeOp d op).run t
      r.1 = r'.1 ∧ r.2 = { s with native := r'.2.native } := by
  constructor
  · intro links guarded checkedOut steps step hlinks hsteps hstep s t
    have hrun := alongside_run (alongside_start hlinks guarded checkedOut)
      hsteps
    obtain ⟨hreply, ⟨_, hafter⟩, -⟩ := alongside_step hrun hstep
    exact ⟨hreply.symm, hafter.twins.native.symm⟩
  · intro s t c d x y op hx hy hlinks hnone hterminal hnative hphysicals hk hc
      r r'
    have habreast : s.Abreast t c d :=
      ⟨hnative, hphysicals, by rw [hx, hy]; exact congrArg some hterminal⟩
    have hthrough : r = (Act.askTerminal c op).run s := by
      refine (run_invokeOp hx op).trans
        (Act.run_askLinks_through c (fun link hl => ?_) hk s)
      rcases Bool.or_eq_true_iff.1 (hlinks link hl) with hin | hin
      · exact .inl hin
      · exact .inr ⟨hin, hc⟩
    have halone : r' = (Act.askTerminal d op).run t := by
      refine (run_invokeOp hy op).trans ?_
      rw [hnone]
      rfl
    have hechoes := Act.echoes_askTerminal habreast hk hc
    rw [← hthrough, ← halone] at hechoes
    exact ⟨hechoes.answer.symm, hechoes.left⟩

/-- Through three links that observe, a query on a statement gets the rows
that it gets without them; only the statement the rows point at is
another. Past a recorder, a cache and a leak tracker that lists the
statement, the driver is asked to commit as it is without them. -/
theorem rows_are_the_same_through_links :
    let links := [Link.decorator, .recorder .standard, .counter]
    let steps := [
      Step.onConnection "p0" "x0" "c0" (.create (.prepareStatement "q") "a"),
      .onStatement "a" (.wrap "b" false),
      .onStatement "b" (.call (.execute none))]
    let step := Step.onStatement "a" (.call (.executeQuery none))
    let s := (start links false true).run steps
    let t := (start [] false true).run steps
    let u := (start [.recorder .standard, .cache .standard, .leakTracker] false
      true).run steps
    let r := (Act.invokeOp 0 .commit).run u.state
    let r' := (Act.invokeOp 0 .commit).run t.state
    (s.step step).1 = .resultSet (some true) ⟨["value"], [[.int 1]]⟩
      ∧ (t.step step).1 = .resultSet none ⟨["value"], [[.int 1]]⟩
      ∧ (s.step step).1.unowned = (t.step step).1.unowned
      ∧ (s.step step).2.state.native = (t.step step).2.state.native
      ∧ u.state.trackedCount ⟨0, 0⟩ = 1
      ∧ r.1 = r'.1 ∧ r.2 = { u.state with native := r'.2.native } := by
  intro links steps step s t u r r'
  have hshared : ∀ st ∈ steps, st.isShared = true := by decide
  obtain ⟨hreply, hnative⟩ := observing_links_are_unseen.1 links false true
    steps step (by decide) hshared rfl
  obtain ⟨hanswer, hstate⟩ := observing_links_are_unseen.2 u.state t.state 0 0
    ⟨[.recorder .standard, .cache .standard, .leakTracker],
      ⟨some ⟨some 0, 0⟩, false⟩⟩ ⟨[], ⟨some ⟨some 0, 0⟩, false⟩⟩ .commit
    (by decide +kernel) (by decide +kernel) (by decide) rfl rfl
    (by decide +kernel) (by decide +kernel) rfl nofun
  dsimp only [s, t, u, r, r'] at hreply hnative hanswer hstate ⊢
  exact ⟨by decide +kernel, by decide +kernel, hreply, hnative,
    by decide +kernel, hanswer, hstate⟩

end Session

end PooledChain
