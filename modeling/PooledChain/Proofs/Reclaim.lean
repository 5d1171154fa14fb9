/-
What a leak tracker below the caches closes.

A tracker that has no cache below it puts its facade around every
statement that the driver makes for its connection. A statement that a
cache has parked keeps that facade, and lies over it again when the cache
hands it out. But the tracker forgets what it lists in each turn of the
loan, and it lists a statement only when that is made. So what goes with
the connection when it is closed is what was made for it since it was
checked out, under whatever handles (`made_since_is_closed`). A statement
that was parked in an earlier checkout and is handed out again is on no
list, and stays open (`parked_before_is_left_open`).

Until the next turn of the loan all that was made since the last one is
sheltered (`Session.Sheltering`). That is kept by each step that is no
turn, begins anew in each turn, and says nothing while nothing is on loan.
-/
import PooledChain.Proofs.Heap.Shelter
import PooledChain.Proofs.Leaks

namespace PooledChain

namespace Session

variable {s t : Session} {step : Step} {steps : List Step}
  {c : ConnectionId} {r : LayerId} {above below : List Link}
  {x y : Connection} {mark base : Nat} {n : Native.StatementId}

/-- How many statements the driver had made by the last turn of the loan of
a connection of the sort `anew`; before the run that is `base`. -/
def madeBefore (c : ConnectionId) (anew : Turn → Bool) :
    Session → Nat → List Step → Nat
  | _, base, [] => base
  | s, base, step :: rest =>
    madeBefore c anew (s.step step).2
      (if (s.turn? c step).any anew
        then (s.step step).2.state.native.statements.length
        else base) rest

-- ================================================== what a handle is of

/-- Whether a layer stood on a statement at some time in a run. -/
def Stood (s : Session) (steps : List Step) (r : LayerId)
    (n : Native.StatementId) : Prop :=
  ∃ before after, steps = before ++ after ∧ (s.run before).state.Stands r n

/-- What is over a statement after a run stood on it. -/
theorem stood_of_under (h : s.Sound)
    (hord : ∀ step ∈ steps, step.isOrdinary = true)
    (hn : (s.run steps).state.statementUnder? r = some n) :
    s.Stood steps r n :=
  ⟨steps, [], (List.append_nil _).symm, (State.statementUnder?_eq_some
    (h.run hord).scene.formed.leveled).1 hn⟩

/-- What stands on a statement in a run stood on it from the beginning of
the run, if it was there. -/
theorem stands_before (h : s.Sound)
    (hord : ∀ step ∈ steps, step.isOrdinary = true)
    (hlt : r < s.state.layers.length) (hn : (s.run steps).state.Stands r n) :
    s.state.Stands r n :=
  (moves_run h hord).later.stands h.scene.formed.older hlt hn

/-- A layer stands on one statement, as long as it does. -/
theorem stood_iff (h : s.Sound)
    (hord : ∀ step ∈ steps, step.isOrdinary = true)
    (hn : s.Stood steps r n) {m : Native.StatementId} :
    s.Stood steps r m ↔ m = n := by
  -- of two times at which it stands on something one is the earlier one
  have hone : ∀ {a b b' a' : List Step} {m n : Native.StatementId},
      steps = a ++ b' → a = b ++ a' → (s.run a).state.Stands r m →
      (s.run b).state.Stands r n → m = n := by
    rintro a b b' a' m n rfl rfl hm hn
    have hearly : (s.run b).Sound := h.run fun st hst =>
      hord st (List.mem_append_left _ (List.mem_append_left _ hst))
    rw [run_append] at hm
    exact (stands_before hearly (fun st hst => hord st
      (List.mem_append_left _ (List.mem_append_right _ hst)))
      (State.lt_of_core hn.not_released) hm).unique hn
  constructor
  · rintro ⟨a, a', ha, hm⟩
    obtain ⟨b, b', hb, hn⟩ := hn
    rcases List.append_eq_append_iff.1 (ha.symm.trans hb)
      with ⟨l, hl, -⟩ | ⟨l, hl, -⟩
    · exact (hone hb hl hn hm).symm
    · exact hone ha hl hm hn
  · rintro rfl
    exact hn

/-- What a connection hands out is held, and stands on a statement that was
made for the connection. -/
theorem stands_of_handed (h : s.Orderly)
    (hr : s.handedBy? c step = some r) :
    ∃ n, (s.step step).2.state.Stands r n
      ∧ (s.step step).2.state.MadeFor c n := by
  rw [handedBy?] at hr
  split at hr
  · next hon =>
    obtain ⟨pool, physical, name, cstep, op, handle, rfl, -, hg, hlookup⟩ :=
      exists_grants hr
    obtain ⟨c', a, n, hname, ha, hn, hmade, -⟩ :=
      hg.exists_filed h.sound h.homed h.filed fun _ _ => trivial
    obtain rfl : c = c' :=
      Option.some.inj ((lookup_of_isOn hon).symm.trans hname)
    obtain rfl : a = r := Option.some.inj (ha.symm.trans hlookup)
    exact ⟨n, hn, hmade⟩
  · cases hr

/-- What was handed out in a run stood on a statement that was made for the
connection. -/
theorem stood_of_handed {anew : Turn → Bool} {l : List LayerId}
    (h : s.Orderly) (hord : ∀ step ∈ steps, step.isOrdinary = true)
    (htells : ∀ step ∈ steps, step.tellsAll = true)
    (hr : r ∈ handed c anew s l steps) :
    r ∈ l ∨ ∃ before after n, steps = before ++ after
      ∧ (s.run before).state.Stands r n
      ∧ (s.run before).state.MadeFor c n := by
  induction steps generalizing s l with
  | nil => exact .inl hr
  | cons step rest ih =>
      have hnext := orderly_step h (hord step List.mem_cons_self)
        (htells step List.mem_cons_self)
      rcases ih hnext (fun st hst => hord st (List.mem_cons_of_mem _ hst))
          (fun st hst => htells st (List.mem_cons_of_mem _ hst)) hr
        with hr | ⟨before, after, n, rfl, hn, hmade⟩
      · split at hr
        · cases hr
        · refine (List.mem_append.1 hr).imp_right fun hr => ?_
          obtain ⟨n, hn, hmade⟩ := stands_of_handed h (Option.mem_toList.1 hr)
          exact ⟨[step], rest, n, rfl, hn, hmade⟩
      · exact .inr ⟨step :: before, after, n, rfl, hn, hmade⟩

-- ============================================================ sheltering

/-- Whether the trackers of a connection began their lists at the layer
`mark`, and, while something is on loan to the connection, its tracker
above `below` has its facade under all that was made for it since there
were `base` statements. -/
structure ShelteredFrom (s : Session) (c : ConnectionId)
    (above below : List Link) (base mark : Nat) : Prop where
  rosters : s.state.Rosters c (above ++ .leakTracker :: below) mark
  sheltered : s.state.loan? c ≠ none → ∀ {n}, base ≤ n →
    s.state.MadeFor c n → s.scene.Sheltered ⟨c, below.length⟩ mark n

/-- Where all lists are empty, nothing was made yet or nothing is on
loan. -/
theorem shelteredFrom_of_blanks
    (hb : s.state.Blanks c (above ++ .leakTracker :: below))
    (hno : s.state.loan? c ≠ none → ∀ {n}, base ≤ n →
      ¬ s.state.MadeFor c n) :
    s.ShelteredFrom c above below base s.state.layers.length :=
  ⟨hb.rosters, fun hloan _ hle hmade => absurd hmade (hno hloan hle)⟩

/-- What holds in a run: nothing is made for a connection before it is made
itself, and then its trackers shelter what is made. -/
structure Sheltering (s : Session) (c : ConnectionId)
    (above below : List Link) (base : Nat) : Prop where
  orderly : s.Orderly
  unmade : s.state.connections.length ≤ c → ∀ {n}, ¬ s.state.MadeFor c n
  sheltered : ∀ {x}, s.state.connection? c = some x →
    x.links = above ++ .leakTracker :: below →
    ∃ mark, s.ShelteredFrom c above below base mark

/-- For a connection that was not made before a step, nothing is made in
the step. -/
theorem not_madeFor_step (h : s.Orderly) (hord : step.isOrdinary = true)
    (hge : s.state.connections.length ≤ c)
    (hno : ∀ {n}, ¬ s.state.MadeFor c n) :
    ¬ (s.step step).2.state.MadeFor c n := by
  intro hmade
  have hm := (moves_step hord h.sound.scene (suits_serving s step _)).1
  rcases Nat.lt_or_ge n s.state.native.statements.length with hlt | hnew
  · exact hno (hm.madeFor_before h.sound.scene hlt hmade)
  · exact absurd (lt_of_creates (hm.creates_of_madeFor h.sound.scene hnew
      hmade)) (Nat.not_lt.2 hge)

/-- A step that is no turn for the connection. -/
theorem ShelteredFrom.next (hs : s.ShelteredFrom c above below base mark)
    (h : s.Orderly) (hord : step.isOrdinary = true)
    (htells : step.tellsAll = true) (hx : s.state.connection? c = some x)
    (hlinks : x.links = above ++ .leakTracker :: below)
    (hasks : ∀ link ∈ x.links, link.isAnswering = false)
    (hbelow : ∀ link ∈ below, link.isCache = false)
    (hy : (s.step step).2.state.connection? c = some y)
    (hloan : (s.step step).2.state.loan? c = s.state.loan? c)
    (hturn : s.turn? c step = none) :
    (s.step step).2.ShelteredFrom c above below base mark := by
  have hlt : c < s.state.connections.length := by
    by_contra hno
    rw [State.connection?, List.getElem?_eq_none (Nat.not_lt.1 hno)] at hx
    cases hx
  obtain ⟨tr, hroster⟩ := hs.rosters.roster rfl
  refine ⟨rosters_step hord htells hlt hy hs.rosters hturn,
    fun hlent n hle hmade => ?_⟩
  rw [hloan] at hlent
  exact sheltered_step h hord hx hlinks hbelow hasks hroster.toNumbered
    hroster.known (hs.sheltered hlent hle) hmade

/-- An ordinary step leaves a connection's trackers sheltering what is made
for it. -/
theorem Sheltering.next (hs : s.Sheltering c above below base)
    (hord : step.isOrdinary = true) (htells : step.tellsAll = true)
    (hasks : ∀ link ∈ above ++ .leakTracker :: below,
      link.isAnswering = false)
    (hbelow : ∀ link ∈ below, link.isCache = false) :
    (s.step step).2.Sheltering c above below
      (if (s.turn? c step).any Turn.isLent
        then (s.step step).2.state.native.statements.length else base) := by
  have hafter := orderly_step hs.orderly hord htells
  have hanew : ∀ {y}, (s.step step).2.state.connection? c = some y →
      y.links = above ++ .leakTracker :: below →
      s.turn? c step ≠ none ∨ s.state.connections.length ≤ c →
      (s.step step).2.state.Blanks c (above ++ .leakTracker :: below) := by
    intro y hy hlinks hanew
    rw [← hlinks] at hasks ⊢
    exact blanks_anew hs.orderly hord htells hasks
      (fun hx hsame => (hs.sheltered hx (hsame.trans hlinks)).imp
        fun _ hfrom => hlinks ▸ hfrom.rosters) hanew hy
  rcases Nat.lt_or_ge c s.state.connections.length with hlt | hge
  · refine ⟨hafter, fun hge => absurd hlt (Nat.not_lt.2 (Nat.le_trans
      (connections_le_step hs.orderly.sound hord) hge)),
      fun {y} hy hlinks => ?_⟩
    obtain ⟨x, hx, hsame⟩ := chain_before hs.orderly.sound hord hlt hy
    have hxlinks := hsame.trans hlinks
    have hxasks : ∀ link ∈ x.links, link.isAnswering = false := by
      rw [hxlinks]
      exact hasks
    have htook := (took_step (passable_of_connection? hx fun link hin =>
      ⟨Link.passes_of_not_answering (hxasks link hin) _,
        Link.passes_of_not_answering (hxasks link hin) _⟩) step).loan
    cases hturn : s.turn? c step with
    | none =>
        rw [hturn] at htook
        obtain ⟨mark, hfrom⟩ := hs.sheltered hx hxlinks
        exact ⟨mark, hfrom.next hs.orderly hord htells hx hxlinks hxasks
          hbelow hy htook hturn⟩
    | some turn =>
        refine ⟨_, shelteredFrom_of_blanks (hanew hy hlinks (.inl (by
          rw [hturn]
          exact Option.some_ne_none turn))) fun hloan n hle hmade => ?_⟩
        rw [hturn] at htook
        cases turn with
        | lent =>
            exact absurd hle (Nat.not_le_of_lt
              (hafter.sound.scene.hasOpen_of_madeFor hmade).lt)
        | closed => exact hloan htook
        | ended => exact hloan htook
  · have hno : ∀ {n}, ¬ (s.step step).2.state.MadeFor c n :=
      not_madeFor_step hs.orderly hord hge (hs.unmade hge)
    exact ⟨hafter, fun _ _ => hno, fun hy hlinks => ⟨_,
      shelteredFrom_of_blanks (hanew hy hlinks (.inr hge)) fun _ _ _ => hno⟩⟩

/-- Through every ordinary run the trackers shelter what is made. -/
theorem Sheltering.run (hs : s.Sheltering c above below base)
    (hord : ∀ step ∈ steps, step.isOrdinary = true)
    (htells : ∀ step ∈ steps, step.tellsAll = true)
    (hasks : ∀ link ∈ above ++ .leakTracker :: below,
      link.isAnswering = false)
    (hbelow : ∀ link ∈ below, link.isCache = false) :
    (s.run steps).Sheltering c above below
      (madeBefore c Turn.isLent s base steps) := by
  induction steps generalizing s base with
  | nil => exact hs
  | cons step rest ih =>
      rw [run_cons, madeBefore]
      exact ih (hs.next (hord _ List.mem_cons_self)
          (htells _ List.mem_cons_self) hasks hbelow)
        (fun st hst => hord _ (List.mem_cons_of_mem _ hst))
        fun st hst => htells _ (List.mem_cons_of_mem _ hst)

/-- At the start nothing was made. -/
theorem sheltering_start (links : List Link) (guarded checkedOut : Bool) :
    (start links guarded checkedOut).Sheltering c above below 0 := by
  have horderly := orderly_start links guarded checkedOut
  have hlayers : (start links guarded checkedOut).state.layers = [] :=
    (moves_start (p := .free guarded) rfl trivial trivial checkedOut).2
  have hno : ∀ {n}, ¬ (start links guarded checkedOut).state.MadeFor c n := by
    rintro n ⟨b, l, hb, -⟩
    rw [State.layer?, hlayers] at hb
    cases hb
  refine ⟨horderly, fun _ _ => hno, fun hx hlinks => ?_⟩
  obtain ⟨mark, hwatched⟩ :=
    (watching_start links guarded checkedOut).watched hx hlinks
  exact ⟨mark, hwatched.rosters, fun _ _ _ hmade => absurd hmade hno⟩

-- ============================================================== closing

/-- An open statement was made for some connection. -/
theorem exists_madeFor (h : s.Orderly) (hopen : s.state.native.HasOpen n) :
    ∃ i, s.state.MadeFor i n := by
  obtain ⟨id, -, hn⟩ := h.sound.exists_owner hopen
  obtain ⟨l, hl, -⟩ := State.exists_layer hn.not_released
  obtain ⟨i, -, hmade⟩ := h.kindred.bears hl hn
  exact ⟨i, hmade⟩

/-- When a connection is closed, all that is sheltered is closed. -/
theorem ShelteredFrom.not_hasOpen
    (hs : s.ShelteredFrom c above below base mark) (h : s.Sound)
    (hloan : s.state.loan? c ≠ none)
    (hclosed : s.Closed c (above ++ .leakTracker :: below) mark t)
    {p : Terms} (hm : Moves p s.scene t.scene) {q : Reach}
    (hchanges : s.state.Changes q t.state)
    (hlists : ¬ q.lists ⟨c, below.length⟩) (ht : t.Sound)
    (hle : base ≤ n) (hmade : s.state.MadeFor c n) :
    ¬ t.state.native.HasOpen n := by
  intro hopen
  obtain ⟨id, hid, hn⟩ := ht.exists_owner hopen
  -- what is left over the statement would lie over a facade of the tracker
  obtain ⟨f, m, hmark, hover, htracked⟩ :=
    (hm.sheltered h.scene (hs.sheltered hloan hle hmade)).exists_tracked
      ht.scene (mem_owners.1 hid) hn
  exact hclosed.shed.dead rfl (hchanges.tracked_before hlists htracked) hmark
    n (hn.of_over hover)

/-- A leak tracker that has no cache below it closes what was prepared
since the connection was checked out.

Take a connection, in any session, with a leak tracker below all caches of
its chain, and close the connection while something is on loan to it. Each
handle that it handed out since it was last checked out stood on one
statement, whether that was prepared for the handle or taken from a cache.
If the driver made the statement since then, the handle says that it is
closed, and so is the statement. -/
theorem made_since_is_closed {links : List Link} {guarded checkedOut : Bool}
    {steps : List Step} (hord : ∀ step ∈ steps, step.isOrdinary = true)
    (htells : ∀ step ∈ steps, step.tellsAll = true) {c : ConnectionId}
    {x : Connection} {above below : List Link}
    (hlinks : x.links = above ++ .leakTracker :: below)
    (hbelow : ∀ link ∈ below, link.isCache = false)
    (hasks : ∀ link ∈ x.links, link.isAnswering = false)
    {pool physical name : String} {q : PoolId} {z : PhysicalId}
    {cstep : ConnectionStep}
    (htarget : ((start links guarded checkedOut).run steps).target? pool
      physical name = some (q, z, c, x))
    (hclose : cstep.asked? = some .close)
    (hloan : ((start links guarded checkedOut).run steps).state.loan? c
      ≠ none) :
    let first := start links guarded checkedOut
    let t := ((first.run steps).step
      (.onConnection pool physical name cstep)).2
    ∀ r ∈ handed c Turn.isLent first [] steps,
      ∃ n, (∀ m, first.Stood steps r m ↔ m = n)
        ∧ (madeBefore c Turn.isLent first 0 steps ≤ n →
          t.state.isClosed r = true ∧ ¬ t.state.native.HasOpen n) := by
  intro first t r hr
  let s := first.run steps
  have hfirst : first.Orderly := orderly_start links guarded checkedOut
  have hs : s.Sheltering c above below
      (madeBefore c Turn.isLent first 0 steps) :=
    (sheltering_start links guarded checkedOut).run hord htells
      (hlinks ▸ hasks) hbelow
  have hx : s.state.connection? c = some x := (lookup_of_target? htarget).2
  obtain ⟨mark, hfrom⟩ := hs.sheltered hx hlinks
  obtain ⟨before, after, n, hsteps, hn, hmade⟩ :=
    (stood_of_handed hfirst hord htells hr).resolve_left fun hno => by
      cases hno
  have hstood : first.Stood steps r n := ⟨before, after, hsteps, hn⟩
  refine ⟨n, fun m => stood_iff hfirst.sound hord hstood, fun hle => ?_⟩
  have hm : Moves _ s.scene t.scene := (moves_step rfl
    hs.orderly.sound.scene (suits_free s
      (.onConnection pool physical name cstep) _)).1
  have htells' : (Step.onConnection pool physical name cstep).tellsAll
      = true := by
    cases cstep with
    | attachLink => cases hclose
    | _ => rfl
  have ht : t.Orderly := orderly_step hs.orderly rfl htells'
  have hnothing : ¬ s.Creates (.onConnection pool physical name cstep) c := by
    rintro ⟨hop, -⟩
    rw [hclose] at hop
    cases hop
  subst hsteps
  let v := first.run before
  have hrun : s = v.run after := run_append first before after
  have hafter : ∀ st ∈ after, st.isOrdinary = true := fun st hst =>
    hord st (List.mem_append_right _ hst)
  have hv : v.Sound := hfirst.sound.run fun st hst =>
    hord st (List.mem_append_left _ hst)
  have hmoves : Moves _ v.scene s.scene := hrun ▸ moves_run hv hafter
  have hnlt := (hv.scene.hasOpen_of_madeFor hmade).lt
  have hgone : ¬ t.state.native.HasOpen n := by
    intro hopen
    obtain ⟨i, hi⟩ := exists_madeFor ht hopen
    have his := hm.madeFor_before hs.orderly.sound.scene
      (Nat.lt_of_lt_of_le hnlt (hmoves.statements_le hv.scene)) hi
    obtain rfl : i = c := hv.scene.madeFor_unique
      (hmoves.madeFor_before hv.scene hnlt his) hmade
    exact hfrom.not_hasOpen hs.orderly.sound hloan
      (hlinks ▸ closed_step hs.orderly.sound htarget hasks hclose
        (hlinks ▸ hfrom.rosters)) hm (changes_step rfl htells' rfl) hnothing
      ht.sound hle his hopen
  refine ⟨(State.isClosed_eq_true_iff ht.sound.scene.formed).2
    fun m hm' => hgone ?_, hgone⟩
  have hrlt : r < v.state.layers.length := State.lt_of_core hn.not_released
  have hback := (hmoves.later.trans hm.later).stands hv.scene.formed.older
    hrlt hm'
  obtain rfl := hback.unique hn
  exact ht.sound.hasOpen hm'

/-- A statement is left over from an earlier checkout, and one is parked and
handed out again in this one. Closing the connection closes the handle of
the second one, and the statement with it. -/
theorem hit_is_closed_with_its_connection :
    let links := [Link.recorder .standard, .cache .standard, .leakTracker]
    let steps := [
      Step.onConnection "p0" "x0" "c0" (.create (.prepareStatement "q") "a"),
      .onConnection "p0" "x0" "c0" .checkIn,
      .onConnection "p0" "x0" "c0" .checkOut,
      .onConnection "p0" "x0" "c0" (.create (.prepareStatement "r") "b"),
      .onStatement "b" (.call .close),
      .onConnection "p0" "x0" "c0" (.create (.prepareStatement "r") "d")]
    let first := start links false true
    let s := first.run steps
    let t := (s.step (.onConnection "p0" "x0" "c0" (.call .close))).2
    s.state.native.driver.prepares = 2
      ∧ s.statements.lookup "d" = some 9
      ∧ first.Stood steps 9 1 ∧ s.state.isClosed 9 = false
      ∧ t.state.isClosed 9 = true ∧ ¬ t.state.native.HasOpen 1 := by
  intro links steps first s t
  have hord : ∀ step ∈ steps, step.isOrdinary = true := by decide
  have htells : ∀ step ∈ steps, step.tellsAll = true := by decide
  have htarget : s.target? "p0" "x0" "c0"
      = some (0, 0, 0, ⟨links, ⟨some ⟨some 0, 0⟩, false⟩⟩) := by
    decide +kernel
  have hloan : s.state.loan? 0 ≠ none := by decide +kernel
  have hlent : handed 0 Turn.isLent first [] steps = [7, 9] := by
    decide +kernel
  have hbase : madeBefore 0 Turn.isLent first 0 steps = 1 := by
    decide +kernel
  have hunder : (first.run steps).state.statementUnder? 9 = some 1 := by
    decide +kernel
  have hstood : first.Stood steps 9 1 :=
    stood_of_under (orderly_start links false true).sound hord hunder
  have hin : 9 ∈ handed 0 Turn.isLent first [] steps := by
    rw [hlent]
    decide
  obtain ⟨n, hone, hclosed⟩ := @made_since_is_closed links false true steps
    hord htells 0 ⟨links, ⟨some ⟨some 0, 0⟩, false⟩⟩
    [.recorder .standard, .cache .standard] [] rfl (by decide) (by decide)
    "p0" "x0" "c0" 0 0 (.call .close) htarget rfl hloan 9 hin
  have hn : 1 = n := (hone 1).1 hstood
  obtain ⟨hhandle, hstatement⟩ := hclosed (hbase.trans hn ▸ Nat.le_refl _)
  rw [← hn] at hstatement
  dsimp only [t, s, first] at hstood ⊢
  exact ⟨by decide +kernel, by decide +kernel, hstood, by decide +kernel,
    hhandle, hstatement⟩

/-- A statement that is parked in one checkout and handed out again in the
next one is still open when the connection was closed. -/
theorem parked_before_is_left_open :
    let links := [Link.cache .standard, .leakTracker]
    let steps := [
      Step.onConnection "p0" "x0" "c0" (.create (.prepareStatement "q") "a"),
      .onStatement "a" (.call .close),
      .onConnection "p0" "x0" "c0" .checkIn,
      .onConnection "p0" "x0" "c0" .checkOut,
      .onConnection "p0" "x0" "c0" (.create (.prepareStatement "q") "b")]
    let first := start links false true
    let s := first.run steps
    let close := Step.onConnection "p0" "x0" "c0" (.call .close)
    s.state.loan? 0 ≠ none
      ∧ handed 0 Turn.isLent first [] steps = [3]
      ∧ s.statements.lookup "b" = some 3
      ∧ (s.step close).1 = .unit
      ∧ (s.step close).2.state.isClosed 3 = false
      ∧ (s.step close).2.state.statementUnder? 3 = some 0
      ∧ (s.step close).2.state.native.HasOpen 0 := by
  intro links steps first s close
  refine ⟨by decide +kernel, by decide +kernel, by decide +kernel,
    by decide +kernel, by decide +kernel, by decide +kernel, ?_⟩
  exact ⟨⟨1, .prepared, some "q", [], [], false, 0⟩, by decide +kernel, rfl⟩

end Session

end PooledChain
