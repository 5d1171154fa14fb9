/-
Using statements in company, and alone.

An operation on the layers of a pair keeps in step: it goes down through
facades that are pairs to a handle whose statements are a pair, and on
the way back it finds the same shelves (`CacheStore.Matches`). A facade
that is parked for a delegate is a new pair. By induction on the depth of
the stack this holds of every statement (`inStep_within`).

An execution need not be recorded in the same table, and the clock need
not show the same time.
-/
import PooledChain.Proofs.Company.Hosting
import Mathlib.Data.List.Forall2

namespace PooledChain

open Pairing (Equal)

variable {p : Party} {w w' : Pairing} {a b d d' : LayerId} {s t : State}

-- ================================================================ shelves

/-- What was found in step was found under the same key. -/
theorem forall₂_lookup {l l' : List (String × LayerId)}
    (h : List.Forall₂ w.OnEntries l l') (sql : String) :
    Option.Rel w.OnLayers (l.lookup sql) (l'.lookup sql) := by
  induction h with
  | nil => exact .none
  | cons he _ ih =>
      rw [List.lookup_cons, List.lookup_cons, he.1]
      split
      · exact .some he.2
      · exact ih

/-- Entries taken out by their keys are taken out of both lists. -/
theorem forall₂_filter {κ : Type} {l l' : List (κ × LayerId)}
    (h : List.Forall₂ w.OnEntries l l') (f : κ → Bool) :
    List.Forall₂ w.OnEntries (l.filter fun e => f e.1)
      (l'.filter fun e => f e.1) :=
  List.rel_filter (fun _ _ he => by simp only [he.1]) h

namespace CacheStore.Matches

variable {st st' : CacheStore}

/-- Shelves that match hold a pair for a text, or nothing in either of
them. -/
theorem find? (h : st.Matches w st') (sql : String) :
    Option.Rel w.OnLayers (st.find? sql) (st'.find? sql) :=
  forall₂_lookup h.entries sql

/-- They match after a text was taken out of both. -/
theorem remove (h : st.Matches w st') (sql : String) :
    (st.remove sql).Matches w (st'.remove sql) :=
  ⟨h.capacity, h.generation, forall₂_filter h.entries (· != sql)⟩

/-- Both accept a statement or neither does. -/
theorem accepts (h : st.Matches w st') (sql : String) (generation : Nat) :
    st.accepts sql generation = st'.accepts sql generation := by
  rw [CacheStore.accepts, CacheStore.accepts, h.generation]
  rcases rel_cases (h.find? sql) with ⟨hs, ht⟩ | ⟨_, _, hs, ht, -⟩ <;>
    simp only [hs, ht, Option.isNone_none, Option.isNone_some]

/-- A pair is parked, and what has to go is a pair. -/
theorem park (h : st.Matches w st') (sql : String)
    (hab : (a, b) ∈ w.layers) :
    (st.park sql a).1.Matches w (st'.park sql b).1
      ∧ Option.Rel w.OnLayers (st.park sql a).2 (st'.park sql b).2 := by
  have hall : List.Forall₂ w.OnEntries ((sql, a) :: st.entries)
      ((sql, b) :: st'.entries) := .cons ⟨rfl, hab⟩ h.entries
  have hlength := hall.length_eq
  unfold CacheStore.park
  simp only
  rw [h.capacity, hlength]
  split
  · refine ⟨⟨rfl, h.generation, ?_⟩, ?_⟩
    · show List.Forall₂ _ (List.dropLast _) (List.dropLast _)
      rw [List.dropLast_eq_take, List.dropLast_eq_take, hlength]
      exact List.forall₂_take _ hall
    · simp only
      rw [← List.head?_reverse, ← List.head?_reverse]
      have hreverse := List.rel_reverse hall
      generalize List.reverse _ = x at hreverse ⊢
      generalize List.reverse _ = y at hreverse ⊢
      cases hreverse with
      | nil => exact .none
      | cons he _ => exact .some he.2
  · exact ⟨⟨rfl, h.generation, hall⟩, .none⟩

/-- What is thrown away of an emptied cache, in order. -/
theorem drain (h : st.Matches w st') :
    st.drain.1.Matches w st'.drain.1
      ∧ List.Forall₂ w.OnLayers st.drain.2 st'.drain.2 :=
  ⟨⟨h.capacity, congrArg (· + 1) h.generation, .nil⟩,
    List.forall₂_map_left_iff.2 (List.forall₂_map_right_iff.2
      ((List.rel_reverse h.entries).imp fun _ _ he => he.2))⟩

/-- They hold the same texts. -/
theorem texts (h : st.Matches w st') : st.texts = st'.texts := by
  have hkeys : ∀ {l l' : List (String × LayerId)},
      List.Forall₂ w.OnEntries l l' → l.map (·.1) = l'.map (·.1) := by
    intro l l' hl
    induction hl with
    | nil => rfl
    | cons he _ ih => rw [List.map_cons, List.map_cons, he.1, ih]
  exact hkeys h.entries

theorem size (h : st.Matches w st') : st.size = st'.size :=
  h.entries.length_eq

end CacheStore.Matches

variable {α : Type}

/-- A value under a key of the party's is written on both sides. -/
theorem rel_set {T T' : Keyed LinkId α} {R : α → α → Prop} {k i : LinkId}
    {x y : α} (hT : Option.Rel R (T.get? i) (T'.get? i)) (hxy : R x y) :
    Option.Rel R ((T.set k x).get? i) ((T'.set k y).get? i) := by
  rw [Keyed.get?_set, Keyed.get?_set]
  split
  · exact .some hxy
  · exact hT

/-- A change that keeps two values related may be made under a key of both
tables. -/
theorem rel_modify {T T' : Keyed LinkId α} {R : α → α → Prop} {k i : LinkId}
    {f : α → α} (hT : Option.Rel R (T.get? i) (T'.get? i))
    (hf : ∀ {x y}, R x y → R (f x) (f y)) :
    Option.Rel R ((T.modify k f).get? i) ((T'.modify k f).get? i) := by
  rw [Keyed.get?_modify, Keyed.get?_modify]
  split
  · next he =>
    subst he
    rcases rel_cases hT with ⟨hs, ht⟩ | ⟨x, y, hs, ht, hxy⟩ <;> rw [hs, ht]
    · exact .none
    · exact .some (hf hxy)
  · exact hT

/-- What is written under a key of the party's leaves the other keys. -/
theorem get?_set_of_connection {T : Keyed LinkId α} {k i : LinkId}
    (hk : k.connection = p.connection) (hi : i.connection ≠ p.connection)
    (x : α) : (T.set k x).get? i = T.get? i := by
  rw [Keyed.get?_set, if_neg]
  rintro rfl
  exact hi hk

/-- A change under a key of the party leaves those of other connections. -/
theorem get?_modify_of_connection {T : Keyed LinkId α} {k i : LinkId}
    (hk : k.connection = p.connection) (hi : i.connection ≠ p.connection)
    (f : α → α) : (T.modify k f).get? i = T.get? i := by
  rw [Keyed.get?_modify, if_neg]
  rintro rfl
  exact hi hk

/-- The shelf of a cache of the party's is changed. -/
theorem State.Hosts.shelve (h : s.Hosts p w t) {k : LinkId}
    (hk : k.connection = p.connection) {st st' : CacheStore}
    (hst : st.Matches w st') :
    s.Minds p w w { s with caches := s.caches.set k st }
      ∧ { s with caches := s.caches.set k st }.Hosts p w
        { t with caches := t.caches.set k st' } :=
  ⟨.setCaches p w fun hi => get?_set_of_connection hk hi _,
    h.setCaches fun hi => rel_set (h.cache hi) hst⟩

/-- Facades are shut and their delegates taken away. -/
theorem Facade.Matches.shut {f f' : Facade} (h : f.Matches p w f') :
    f.shut.Matches p w f'.shut :=
  ⟨h.level, .none, rfl, h.behaviour⟩

namespace Act

-- ================================================================ replies

/-- Answers that are the same, but that rows point at either statement of
a pair. -/
inductive OnReplies (w : Pairing) : StatementReply → StatementReply → Prop
  | rows (rows) {x y} : Option.Rel w.OnLayers x y →
      OnReplies w (.rows rows x) (.rows rows y)
  | unit : OnReplies w .unit .unit
  | bool (value) : OnReplies w (.bool value) (.bool value)
  | count (n) : OnReplies w (.count n) (.count n)
  | counts (ns) : OnReplies w (.counts ns) (.counts ns)

theorem OnReplies.mono {r r' : StatementReply} (h : OnReplies w r r')
    (hw : w.Le w') : OnReplies w' r r' := by
  cases h with
  | rows _ hxy => exact .rows _ (rel_imp hxy fun hab => hw.layers hab)
  | unit => exact .unit
  | bool value => exact .bool value
  | count n => exact .count n
  | counts ns => exact .counts ns

/-- What the driver answers alike belongs together. -/
theorem onReplies_ofNative (w : Pairing) (x : Native.Answer) :
    OnReplies w (.ofNative x) (.ofNative x) := by
  cases x with
  | unit => exact .unit
  | bool value => exact .bool value
  | rows rows => exact .rows rows .none
  | count n => exact .count n
  | counts ns => exact .counts ns

/-- Rows that are stamped by the layers of a pair belong together. -/
theorem OnReplies.stamp {r r' : StatementReply} (h : OnReplies w r r')
    (hab : (a, b) ∈ w.layers) :
    OnReplies w (Act.stamp a r) (Act.stamp b r') := by
  cases h with
  | rows rows _ => exact .rows rows (.some hab)
  | unit => exact .unit
  | bool value => exact .bool value
  | count n => exact .count n
  | counts ns => exact .counts ns

-- ==================================================== recording and noting

/-- Something is recorded or noted. -/
theorem inStep_record {f g : State → State}
    (hf : ∀ s, f s = { s with
      statistics := (f s).statistics
      watched := (f s).watched
      journal := (f s).journal
      warnings := (f s).warnings })
    (hg : ∀ t, g t = { t with
      statistics := (g t).statistics
      watched := (g t).watched
      journal := (g t).journal
      warnings := (g t).warnings }) :
    InStep p Equal w (modify f : Act PUnit) (modify g : Act PUnit) :=
  .modify fun s t h => by
    rw [hf s, hg t]
    exact ⟨.record p w s _ _ _ _, h.record _ _ _ _ _ _ _ _⟩

/-- An execution is recorded, each in its table. -/
theorem inStep_recordExecution (table table' : Statistics.TableId)
    (config : RecorderConfig) (sql : String) (elapsed elapsed' started
      started' : Nat) :
    InStep p Equal w (recordExecution table config sql elapsed started)
      (recordExecution table' config sql elapsed' started') := by
  -- whether it took long enough need not be the same for either
  intro s t h
  refine ⟨w, ?_⟩
  have hsilent : ∀ (table : Statistics.TableId) (elapsed started : Nat)
      (u : State), ∃ r v, (recordExecution table config sql elapsed
        started).run u = (.ok (), { u with statistics := r, warnings := v }) := by
    intro table elapsed started u
    unfold recordExecution
    cases config.records elapsed with
    | false => exact ⟨u.statistics, u.warnings, rfl⟩
    | true =>
        rw [if_pos rfl, run_bind, run_modify]
        simp only
        cases config.logSlow && decide (0 ≤ config.threshold) with
        | false => exact ⟨_, u.warnings, rfl⟩
        | true => exact ⟨_, _, rfl⟩
  obtain ⟨r, v, hrun⟩ := hsilent table elapsed started s
  obtain ⟨r', v', hrun'⟩ := hsilent table' elapsed' started' t
  rw [hrun, hrun']
  exact ⟨.record p w s r _ _ v, h.record r r' _ _ _ _ v v', .ok rfl⟩

-- ============================================================= one layer

/-- Whether the layers below keep in step. -/
def BelowInStep (p : Party) (below : Below) : Prop :=
  ∀ {w a b} (op : StatementOp), (a, b) ∈ w.layers →
    InStep p OnReplies w (below a op) (below b op)

variable {below : Below} {op : StatementOp}

/-- Facades of a pair let go of a pair, or both have nothing. -/
theorem inStep_retire (hab : (a, b) ∈ w.layers) :
    InStep p (fun w => Option.Rel w.OnLayers) w (retire a) (retire b) := by
  intro s t h
  rcases rel_cases (h.facade? hab) with ⟨hs, ht⟩ | ⟨f, f', hs, ht, hf⟩
  · rw [run_retire_of_not_facade hs, run_retire_of_not_facade ht]
    exact ⟨w, .refl p w s, h, .ok .none⟩
  · rw [run_retire (State.facade?_eq_some.1 hs),
      run_retire (State.facade?_eq_some.1 ht)]
    exact ⟨w, .setCore p s hab _, h.setCore hab (.facade hf.shut),
      .ok hf.delegate⟩

/-- Facades of a pair pass an operation on to a pair. -/
theorem inStep_forward (hbelow : BelowInStep p below)
    (hab : (a, b) ∈ w.layers) :
    InStep p OnReplies w (forward below a op) (forward below b op) := by
  intro s t h
  rw [run_forward, run_forward]
  rcases rel_cases (h.core hab).delegate? with ⟨hs, ht⟩ | ⟨d, d', hs, ht, hd⟩
  · rw [hs, ht]
    exact ⟨w, .refl p w s, h, .error _⟩
  · rw [hs, ht]
    exact hbelow op hd s t h

/-- The layers of a pair are closed in step. -/
theorem inStep_closeBelow (hbelow : BelowInStep p below)
    (hab : (a, b) ∈ w.layers) :
    InStep p Equal w (closeBelow below a) (closeBelow below b) :=
  .bind (hbelow .close hab) fun _ _ => .pure rfl

/-- A statement that is not kept is closed in both runs, failing in both or
in neither. -/
theorem inStep_discard (hbelow : BelowInStep p below)
    (hab : (a, b) ∈ w.layers) :
    InStep p Equal w (discard below a) (discard below b) := by
  refine .get_bind fun s t h => ?_
  refine InStep.bind (inStep_retire hab) (fun _ hd => ?_) s t h
  cases hd with
  | none => exact .pure rfl
  | some hd =>
      refine .bind (.attempt (inStep_closeBelow hbelow hd)) fun _ hr => ?_
      cases hr with
      | ok _ => exact .pure rfl
      | error e => exact inStep_record (fun _ => rfl) fun _ => rfl

/-- A delegate is parked under a facade that is a new pair. -/
theorem inStep_park (hbelow : BelowInStep p below) {l l' : Layer}
    (hl : l.Matches p w l') (level : Nat) {cache : LinkId}
    (hk : cache.connection = p.connection) (generation : Nat)
    (hd : (d, d') ∈ w.layers) :
    InStep p Equal w (park below l level cache generation d)
      (park below l' level cache generation d') := by
  have hclose := inStep_closeBelow hbelow hd
  obtain ⟨sql, kind, connection, core⟩ := l
  obtain ⟨sql', kind', connection', core'⟩ := l'
  obtain ⟨rfl, rfl, rfl, hown, -⟩ := hl
  refine .get_bind fun s t h => ?_
  rcases rel_cases (h.cache hk) with ⟨hs, ht⟩ | ⟨st, st', hs, ht, hst⟩ <;>
    rw [hs, ht]
  · exact hclose s t h
  cases sql with
  | none => exact hclose s t h
  | some sql =>
      simp only
      rw [hst.accepts]
      split
      · have htwin : Layer.Matches p w
            ⟨some sql, kind, connection,
              .facade ⟨level, some d, false, .cached cache generation false⟩⟩
            ⟨some sql, kind, connection,
              .facade ⟨level, some d', false, .cached cache generation false⟩⟩ :=
          ⟨rfl, rfl, rfl, hown, .facade ⟨rfl, .some hd, rfl, .cached hk⟩⟩
        obtain ⟨hpark, hgone⟩ := (hst.mono (w.le_join s.layers.length
          t.layers.length)).park sql List.mem_cons_self
        obtain ⟨hminds, hhosts⟩ := (h.addLayer htwin).shelve hk hpark
        refine InStep.set_bind ((State.Minds.addLayer p w s _ _).trans hminds)
          hhosts ?_
        simp only [State.addLayer]
        rcases rel_cases hgone with ⟨hs, ht⟩ | ⟨e, e', hs, ht, he⟩ <;>
          rw [hs, ht]
        · exact .pure rfl
        · exact inStep_discard hbelow he
      · exact hclose s t h

/-- Timing an execution does not change what is answered. -/
theorem inStep_timed (hbelow : BelowInStep p below)
    (hab : (a, b) ∈ w.layers) (own : Option String)
    (table table' : Statistics.TableId) (config : RecorderConfig) :
    InStep p OnReplies w (timed below a own table config op)
      (timed below b own table' config op) := by
  unfold timed
  split
  · refine .get_bind fun s t h => ?_
    refine InStep.bind (inStep_forward hbelow hab) (fun _ hr => ?_) s t h
    refine .get_bind fun s t h => ?_
    cases recordKey? own op with
    | none => exact InStep.pure hr s t h
    | some sql =>
        exact InStep.bind (inStep_recordExecution _ _ _ _ _ _ _ _)
          (fun hw _ => .pure (hr.mono hw)) s t h
  · exact inStep_forward hbelow hab

/-- Whatever a facade does besides, it answers alike. -/
theorem inStep_invoke (hbelow : BelowInStep p below)
    (hab : (a, b) ∈ w.layers) (own : Option String) {x y : Behaviour}
    (hxy : x.Matches p y) :
    InStep p OnReplies w (invoke below a own x op) (invoke below b own y op) := by
  cases hxy with
  | recording => exact inStep_timed hbelow hab own _ _ _
  | watched =>
      refine .bind (inStep_record (fun _ => rfl) fun _ => rfl) fun hw _ => ?_
      split
      · exact .pure .unit
      · exact inStep_forward hbelow (hw.layers hab)
  | plain | cached | tracked | counting => exact inStep_forward hbelow hab

/-- What a facade does with its delegate once it is closed. -/
theorem inStep_closeDelegate (hbelow : BelowInStep p below) (a b : LayerId)
    {l l' : Layer} (hl : l.Matches p w l') {f f' : Facade}
    (hf : f.Matches p w f') (hd : (d, d') ∈ w.layers) :
    InStep p Equal w (closeDelegate below a l f d)
      (closeDelegate below b l' f' d') := by
  have hclose := fun {w'} (hw : w.Le w') =>
    inStep_closeBelow hbelow (hw.layers hd)
  obtain ⟨level, e, c, x⟩ := f
  obtain ⟨level', e', c', y⟩ := f'
  obtain ⟨rfl, -, -, hxy⟩ := hf
  unfold closeDelegate
  cases hxy with
  | plain | recording => exact hclose (.refl w)
  | cached hk =>
      simp only
      split
      · exact hclose (.refl w)
      · refine .get_bind fun s t h => ?_
        rw [h.isClosed hd]
        split
        · exact InStep.pure rfl s t h
        · exact inStep_park hbelow hl level hk _ hd s t h
  | @tracked k entry hk =>
      refine .bind (.modify fun s t h => ?_) fun hw _ => hclose hw
      exact ⟨.setTrackers p w fun hi => get?_modify_of_connection hk hi _,
        h.setTrackers fun hi => rel_modify (h.tracker hi) fun htr =>
          ⟨forall₂_filter htr.entries (· != entry), htr.next⟩⟩
  | counting hk =>
      refine .bind (.modify fun s t h => ?_) fun hw _ => hclose hw
      refine ⟨.setCounters p w fun hi => get?_modify_of_connection hk hi _,
        h.setCounters fun hi => ?_⟩
      rw [Keyed.get?_modify, Keyed.get?_modify, h.counter hi, h.counter hk]
  | watched =>
      refine .get_bind fun s t h => ?_
      exact InStep.bind (inStep_record (fun _ => rfl) fun _ => rfl)
        (fun hw _ => hclose hw) s t h

/-- A failure on its way up. -/
theorem inStep_report (hab : (a, b) ∈ w.layers) (own : Option String)
    (e : Error) :
    InStep p Equal w (report a own e) (report b own e) := by
  refine .get_bind fun s t h => ?_
  rcases rel_cases (h.facade? hab) with ⟨hs, ht⟩ | ⟨f, f', hs, ht, hf⟩ <;>
    rw [hs, ht]
  · exact ⟨w, .refl p w s, h, .ok rfl⟩
  obtain ⟨level, x, closed, behaviour⟩ := f
  obtain ⟨level', y, closed', behaviour'⟩ := f'
  obtain ⟨hlevel, hxy, hclosed, hbehaviour⟩ := hf
  cases hbehaviour with
  | cached hk =>
      simp only
      split
      · exact ⟨w, .setCore p s hab _,
          h.setCore hab (.facade ⟨hlevel, hxy, hclosed, .cached hk⟩), .ok rfl⟩
      · exact ⟨w, .refl p w s, h, .ok rfl⟩
  | watched =>
      exact inStep_record (fun _ => rfl) (fun _ => rfl) s t h
  | _ => exact ⟨w, .refl p w s, h, .ok rfl⟩

/-- The driver's statements of a pair answer alike. -/
theorem inStep_askNative (hab : (a, b) ∈ w.layers)
    {x y : Option Native.StatementId}
    (hxy : (Core.native x).Matches p w (.native y)) :
    InStep p OnReplies w (askNative a x op) (askNative b y op) := by
  cases hxy with
  | letGo =>
      cases op with
      | isClosed => exact .pure (.bool true)
      | close => exact .pure .unit
      | _ => exact .throw _
  | opened hn =>
      cases op with
      | isClosed => exact .pure (.bool false)
      | close =>
          refine .bind (.modify fun s t h =>
            ⟨.setCore p s hab _, h.setCore hab .letGo⟩) fun hw _ => ?_
          exact .bind (.native (Native.inStep_dispose (hw.statements hn)))
            fun _ _ => .pure .unit
      | _ =>
          refine .bind (.native (Native.inStep_perform hn _)) fun _ hr => ?_
          cases hr
          exact .pure (onReplies_ofNative _ _)

/-- Closing the facades of a pair closes or parks their delegates in both
runs. -/
theorem inStep_closeFacade (hbelow : BelowInStep p below)
    (hab : (a, b) ∈ w.layers) {l l' : Layer} (hl : l.Matches p w l')
    {f f' : Facade} (hf : f.Matches p w f') :
    InStep p OnReplies w (closeFacade below a l f)
      (closeFacade below b l' f') := by
  unfold closeFacade
  rw [hf.closed]
  split
  · exact .pure .unit
  · refine .bind (.modify fun s t h =>
      ⟨.setCore p s hab _, h.setCore hab (.facade hf.shut)⟩) fun hw _ => ?_
    rcases rel_cases hf.delegate with ⟨hs, ht⟩ | ⟨d, d', hs, ht, hd⟩ <;>
      rw [hs, ht]
    · exact .pure .unit
    · exact .bind (inStep_closeDelegate hbelow a b (hl.mono hw) (hf.mono hw)
        (hw.layers hd)) fun _ _ => .pure .unit

/-- Using the facades of a pair is refused in both runs, or asks their
delegates. -/
theorem inStep_useFacade (hbelow : BelowInStep p below)
    (hab : (a, b) ∈ w.layers) {l l' : Layer} (hl : l.Matches p w l')
    {f f' : Facade} (hf : f.Matches p w f') :
    InStep p OnReplies w (useFacade below a l f op)
      (useFacade below b l' f' op) := by
  unfold useFacade
  rw [hf.closed, hl.sql]
  split
  · exact .throw _
  · refine .bind (.attempt (inStep_invoke hbelow hab _ hf.behaviour))
      fun hw hr => ?_
    cases hr with
    | ok hr => exact .pure (hr.stamp (hw.layers hab))
    | error e =>
        exact .bind (inStep_report (hw.layers hab) _ e) fun _ _ => .throw e

theorem inStep_askFacade (hbelow : BelowInStep p below)
    (hab : (a, b) ∈ w.layers) {l l' : Layer} (hl : l.Matches p w l')
    {f f' : Facade} (hf : f.Matches p w f') :
    InStep p OnReplies w (askFacade below a l f op)
      (askFacade below b l' f' op) := by
  cases op with
  | close => exact inStep_closeFacade hbelow hab hl hf
  | isClosed =>
      refine .get_bind fun s t h => ?_
      rw [h.isClosed hab]
      exact ⟨w, .refl p w s, h, .ok (.bool _)⟩
  | _ => exact inStep_useFacade hbelow hab hl hf

/-- By the level of a layer, asking it keeps in step. -/
theorem inStep_ask (hbelow : BelowInStep p below) :
    BelowInStep p (ask below) := by
  intro w a b op hab s t h
  obtain ⟨l, l', hs, ht, hl⟩ := h.layer hab
  rw [run_ask, run_ask, hs, ht]
  simp only
  have hcore := hl.core
  generalize l.core = c at hcore
  generalize l'.core = c' at hcore
  cases hcore with
  | opened hn => exact inStep_askNative hab (.opened hn) s t h
  | letGo => exact inStep_askNative hab .letGo s t h
  | facade hf => exact inStep_askFacade hbelow hab hl hf s t h
  | released => exact ⟨w, .refl p w s, h, .error _⟩

-- ====================================================== the whole stack

/-- Whatever is done with a statement keeps in step. -/
theorem inStep_within (depth : Nat) : BelowInStep p (within depth) := by
  induction depth with
  | zero => exact inStep_ask fun _ _ => .throw _
  | succ depth ih => exact inStep_ask ih

/-- An operation on a pair of handles is answered alike. -/
theorem inStep_dispatch (hab : (a, b) ∈ w.layers) (op : StatementOp) :
    InStep p OnReplies w (dispatch a op) (dispatch b op) := by
  refine .get_bind fun s t h => ?_
  rw [h.level hab]
  exact inStep_within _ op hab s t h

theorem inStep_closeStatement (hab : (a, b) ∈ w.layers) :
    InStep p Equal w (closeStatement a) (closeStatement b) :=
  .bind (inStep_dispatch hab .close) fun _ _ => .pure rfl

/-- What leaves the shelves as a pair is closed in both runs. -/
theorem inStep_discardParked (hab : (a, b) ∈ w.layers) :
    InStep p Equal w (discardParked a) (discardParked b) := by
  refine .get_bind fun s t h => ?_
  rw [h.level hab]
  exact inStep_discard (inStep_within _) hab s t h

end Act

end PooledChain
