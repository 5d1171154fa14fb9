/-
Statements that a tracker can still reach.

A leak tracker that has no cache below it puts its facade around every
statement that comes up. Whatever is done with the statement above it,
the facade stays: a cache parks it and hands it out again under facades
of its own. So of the layers that stand on such a statement each lies
over a facade of the tracker, or else it lies under it, where nobody can
park it and no caller gets it (`Scene.Sheltered`). Every move keeps it so
(`Moves.sheltered`), and closing the facade closes the statement.

That the facade is there at all is shown for the call in which the
statement is made, by induction on the links above the tracker
(`Act.shelters_askLinks`), and with it for the step
(`Session.sheltered_step`).
-/
import PooledChain.Proofs.Heap.Condemned
import PooledChain.Proofs.Heap.Filed
import PooledChain.Proofs.Heap.Supply
import PooledChain.Proofs.Heap.Watch

namespace PooledChain

open Scene (Sound)
open State (TrackedBy)

variable {p : Terms} {c c' : Scene} {s t u : State} {k : LinkId}
  {mark base : Nat} {n : Native.StatementId} {a : LayerId}

/-- Whether no facade of a cache is under a layer, and neither a caller
has it nor is it on its way to one. -/
structure Scene.Bare (c : Scene) (a : LayerId) : Prop where
  plain : ∀ {x k g}, c.state.Over a x → ¬ CachedBy k g (c.state.core x)
  held : a ∉ c.held
  out : c.out ≠ some a

/-- Whether everything that stands on a statement lies over a facade of
the tracker `k` that is not older than `mark`, or is bare. -/
structure Scene.Sheltered (c : Scene) (k : LinkId) (mark : Nat)
    (n : Native.StatementId) : Prop where
  known : n < c.state.native.statements.length
  shelter : ∀ {a}, c.state.Stands a n →
    (∃ f m, mark ≤ f ∧ c.state.Over a f ∧ TrackedBy k m (c.state.core f))
      ∨ c.Bare a

-- ================================================== kept by the moves

/-- What callers hold or a cache has parked is not bare. -/
theorem Scene.Sheltered.exists_tracked (hs : c.Sheltered k mark n)
    (h : c.Sound) (ha : a ∈ c.held ∨ a ∈ c.state.parked)
    (hn : c.state.Stands a n) :
    ∃ f m, mark ≤ f ∧ c.state.Over a f ∧ TrackedBy k m (c.state.core f) := by
  refine (hs.shelter hn).resolve_right fun hbare => ?_
  rcases ha with ha | ha
  · exact hbare.held ha
  · obtain ⟨k', store, d, -, hcore⟩ := h.stocked.core_parked ha
    exact hbare.plain .refl ⟨_, _, hcore, rfl⟩

/-- What is bare stays bare. -/
theorem Move.bare (hm : Move p c c') (h : c.Sound) (hb : c.Bare a)
    (hlt : a < c.state.layers.length) : c'.Bare a := by
  have holder : ∀ {x d}, c.state.Holds x d → d < x := h.formed.older
  refine ⟨fun {x k g} hx hcached => ?_, fun hheld => ?_, fun hout => ?_⟩
  · have hbefore := hm.later.over holder hlt hx
    have hcore := hm.later.core (Nat.lt_of_le_of_lt (hbefore.le holder) hlt)
    exact hb.plain hbefore (hcore.cachedBy hcached)
  · cases hm with
    | give =>
        rcases List.mem_cons.1 hheld with rfl | hheld
        · exact hb.out rfl
        · exact hb.held hheld
    | letDown hsub => exact hb.held (hsub hheld)
    | _ => exact hb.held hheld
  · cases hm with
    | make =>
        cases hout
        exact Nat.lt_irrefl _ hlt
    | decorate =>
        cases hout
        exact Nat.lt_irrefl _ hlt
    | shift _ _ hfrom =>
        rcases hfrom hout with hout | ⟨i, hkeeps, -⟩
        · exact hb.out hout
        · obtain ⟨k', store, d, -, hcore⟩ :=
            h.stocked.core_parked hkeeps.mem_parked
          exact hb.plain .refl ⟨_, _, hcore, rfl⟩
    | give => cases hout
    | _ => exact hb.out hout

/-- What is sheltered stays sheltered: a facade that a cache puts in the
place of another one lies over what the other one lay over. -/
theorem Move.sheltered (hm : Move p c c') (h : c.Sound)
    (hs : c.Sheltered k mark n) : c'.Sheltered k mark n := by
  have holder : ∀ {x d}, c.state.Holds x d → d < x := h.formed.older
  -- what was over a facade of the tracker is so while it stands
  have hkept : ∀ {x f m}, x < c.state.layers.length → c'.state.Stands x n →
      c.state.Over x f → TrackedBy k m (c.state.core f) →
      c'.state.Over x f ∧ TrackedBy k m (c'.state.core f) := by
    intro x f m hx hn hover ht
    have hover' := hm.later.over_of_stands holder hx hover hn
    have hflt := State.lt_of_core
      ((hm.later.stands holder hx hn).of_over hover).not_released
    exact ⟨hover', ((hm.later.core hflt).tracked ht).resolve_left
      (hn.of_over hover').not_released⟩
  refine ⟨Nat.lt_of_lt_of_le hs.known ((Moves.single hm).statements_le h),
    fun {a} hn => ?_⟩
  rcases Nat.lt_or_ge a c.state.layers.length with hlt | hge
  · rcases hs.shelter (hm.later.stands holder hlt hn)
      with ⟨f, m, hle, hover, ht⟩ | hbare
    · exact .inl ⟨f, m, hle, hkept hlt hn hover ht⟩
    · exact .inr (hm.bare h hbare hlt)
  · obtain ⟨l, hl, hcore⟩ := State.exists_layer hn.not_released
    -- the delegate of a new layer stood on the statement before
    have hdelegate : ∀ {d}, l.core.delegate? = some d →
        c'.state.Holds a d ∧ c.state.Stands d n
          ∧ d < c.state.layers.length ∧ c'.state.Stands d n := by
      intro d hd
      have hholds : c'.state.Holds a d := by
        rw [State.Holds, ← hcore]
        exact hd
      have hd' := hn.of_holds hholds
      have hbefore := hm.stands_before h (hm.holds_new hge hholds) hd'
      exact ⟨hholds, hbefore, State.lt_of_core hbefore.not_released, hd'⟩
    cases hm.adds hge hl with
    | handle hnative _ _ _ =>
        have he := hn.unique (.native (hcore.symm.trans hnative))
        exact absurd (he ▸ hs.known) (Nat.lt_irrefl _)
    | @facade f d hf hd hout _ _ _ _ =>
        obtain ⟨hholds, hdn, hdlt, hdn'⟩ := hdelegate (by rw [hf]; exact hd)
        rcases hs.shelter hdn with ⟨f', m, hle, hover, ht⟩ | hbare
        · obtain ⟨hover', ht'⟩ := hkept hdlt hdn' hover ht
          exact .inl ⟨f', m, hle, .head hholds hover', ht'⟩
        · exact absurd hout hbare.out
    | @twin b l' f d k' g hb hf hb' hd hl' =>
        obtain ⟨hholds, hdn, hdlt, hdn'⟩ := hdelegate (by rw [hl']; rfl)
        have hcoreb : c.state.core b = .facade f :=
          (State.core_eq_of_layer? hb).trans hf
        have hbd : c.state.Holds b d := .of_facade hcoreb hd
        rcases hs.shelter (.facade hbd hdn)
          with ⟨f', m, hle, hover, ht⟩ | hbare
        · rcases hover.cases_head with rfl | ⟨e, hbe, hover⟩
          · obtain ⟨f₁, hf₁, hb₁⟩ := ht
            obtain rfl := Core.facade.inj (hf₁.symm.trans hcoreb)
            cases hb₁.symm.trans hb'
          · obtain rfl := hbd.unique hbe
            obtain ⟨hover', ht'⟩ := hkept hdlt hdn' hover ht
            exact .inl ⟨f', m, hle, .head hholds hover', ht'⟩
        · exact absurd ⟨f, _, hcoreb, hb'⟩ (hbare.plain .refl)

/-- What is sheltered stays sheltered, whatever moves there are. -/
theorem Moves.sheltered (hm : Moves p c c') (h : c.Sound)
    (hs : c.Sheltered k mark n) : c'.Sheltered k mark n :=
  hm.invariant h hs fun hsound hmove hs => hmove.sheltered hsound hs

-- ============================================================ what is new

/-- Where nothing is asked for, nothing is made. -/
theorem Moves.statements_eq (hm : Moves p c c') (h : c.Sound)
    (hcreates : ∀ i, ¬ p.creates i) :
    c'.state.native.statements.length
      = c.state.native.statements.length := by
  obtain ⟨new, hnew, hnone⟩ := hm.origins h
  have hlen := congrArg List.length hnew
  rwa [hnone hcreates, List.append_nil, List.length_map, List.length_map]
    at hlen

/-- Whether all that the driver has made since there were `base` statements
is sheltered. -/
structure Scene.SheltersNew (c : Scene) (k : LinkId) (mark base : Nat) :
    Prop where
  sheltered : ∀ {n}, base ≤ n → n < c.state.native.statements.length →
    c.Sheltered k mark n

namespace Scene.SheltersNew

/-- Nothing was made. -/
theorem of_length_eq (h : c.state.native.statements.length = base) :
    c.SheltersNew k mark base :=
  ⟨fun hle hlt => absurd (h ▸ hlt) (Nat.not_lt.2 hle)⟩

/-- Nothing more is made. -/
theorem moves (hs : c.SheltersNew k mark base) (hm : Moves p c c')
    (h : c.Sound) (hlen : c'.state.native.statements.length
      = c.state.native.statements.length) : c'.SheltersNew k mark base :=
  ⟨fun hle hlt => hm.sheltered h (hs.sheltered hle (hlen ▸ hlt))⟩

end Scene.SheltersNew

/-- Under a native handle that was wrapped by no cache there is no facade
of a cache. -/
theorem State.Wraps.not_cachedBy {h d x : LayerId} {g : Nat}
    (hw : s.Wraps h d) {handle : Option Native.StatementId}
    (hd : s.core d = .native handle) (hx : s.Over h x) :
    ¬ CachedBy k g (s.core x) := by
  rintro ⟨f', b', hf', hb'⟩
  induction hw with
  | none =>
      rcases hx.cases_head with rfl | ⟨e, he, -⟩
      · cases hd.symm.trans hf'
      · exact he.not_native hd
  | @one h f e d hf hplain hdel _ ih =>
      rcases hx.cases_head with rfl | ⟨e', he', hx⟩
      · obtain rfl := Core.facade.inj (hf.symm.trans hf')
        exact hplain _ _ _ hb'
      · have hholds : s.Holds h e := .of_facade hf hdel
        obtain rfl := hholds.unique he'
        exact ih hd hx

namespace Act

variable {held loose : List LayerId} {i : ConnectionId} {self : LinkId}
  {next : Next} {op : ConnectionOp} {kind : StatementKind}
  {above below : List Link}

/-- Links that only wrap hand up what the driver makes, or nothing is
made. -/
theorem made_askLinks (hk : op.creates? = some kind)
    (hbelow : ∀ link ∈ below, link.isCache = false)
    (hasks : ∀ link ∈ below, link.isAnswering = false)
    {r : Except Error ConnectionReply}
    (hr : (askLinks i below op).run s = (r, u)) :
    u.native.statements.length = s.native.statements.length
      ∨ ∃ h d, r = .ok (.statement h) ∧ u.Wraps h d
        ∧ u.core d = .native (some s.native.statements.length)
        ∧ u.native.statements.length
          = s.native.statements.length + 1 := by
  obtain ⟨s', halike, -, hd⟩ := dresses_askLinks i [] hk (fun link hin =>
    Link.defers_of_not_answering (hasks link hin) (hbelow link hin) op) s
  have hk' : (reaching below op).creates? = some kind := by
    rw [creates?_reaching]
    exact hk
  rw [List.append_nil, hr] at hd
  cases hclosed : s'.isClosedConnection i with
  | true =>
      have hrun : (askLinks i [] (reaching below op)).run s'
          = (.error (.closed .connection), s') := by
        rw [show askLinks i [] = askTerminal i from rfl,
          run_askTerminal (by intro he; rw [he] at hk'; cases hk')
            (by intro he; rw [he] at hk'; cases hk'), if_pos hclosed]
      rw [hrun] at hd
      cases hd with
      | other _ _ ha =>
          exact .inl (by rw [ha.native, halike.native])
  | false =>
      obtain ⟨m, -, hsupplies⟩ := supplies_askTerminal hk' hclosed
      have hmakes := ConnectionOp.makes_making hk' m s'.native
      have hs := hsupplies.dress hd
      generalize ((reaching below op).making m).run s'.native = made
        at hs hmakes
      cases hs with
      | refused _ _ _ hnative =>
          refine .inl ?_
          rw [hnative, ← halike.native]
          exact (hmakes false).length
      | @given n st h d _ _ _ hnative _ hd hwraps =>
          obtain ⟨rfl, hmade⟩ := hmakes
          rw [← halike.native]
          refine .inr ⟨h, d, rfl, hwraps trivial, hd, ?_⟩
          rw [hnative]
          exact hmade.length

/-- Whether all that is made for an answer is sheltered by the time it
comes. -/
def Shelters (k : LinkId) (next : Next) : Prop :=
  ∀ (s : State) (held loose : List LayerId) (op : ConnectionOp)
    (mark : Nat), Sound ⟨s, held, none, loose⟩ → op ≠ .close →
    (∃ tr, s.Numbered k tr) → mark ≤ s.layers.length →
    Scene.SheltersNew ⟨((next op).run s).2, held,
      outOf ((next op).run s).1, loose⟩ k mark s.native.statements.length

/-- What creates no statement has the driver make none. -/
theorem statements_askLinks {links : List Link}
    (h : Sound ⟨s, held, none, loose⟩) (hop : op ≠ .close)
    (hk : op.creates? = none) :
    ((askLinks i links op).run s).2.native.statements.length
      = s.native.statements.length :=
  (asked_askLinks (p := .unasked) i (fun hp => hp.elim) s held loose op h
    (fun he => absurd he hop) fun he => by rw [hk] at he; cases he).moves
    |>.statements_eq h fun _ hno => hno

/-- The facade of a tracker shelters the statement that it was put around,
if no cache has had a part in that. -/
theorem sheltered_enlist {tr : Tracker} {e d : LayerId} {kind : StatementKind}
    {sql : Option String}
    (h : Sound ⟨u.enlist k tr (facadeOf k kind sql e (.tracked k tr.next)),
      held, some u.layers.length, loose⟩)
    (hwraps : u.Wraps e d) (hd : u.core d = .native (some n))
    (hn : n < u.native.statements.length) (hle : mark ≤ u.layers.length) :
    Scene.Sheltered ⟨u.enlist k tr (facadeOf k kind sql e
      (.tracked k tr.next)), held, some u.layers.length, loose⟩ k mark n := by
  let l := facadeOf k kind sql e (.tracked k tr.next)
  let t := u.enlist k tr l
  have hcore : ∀ {x}, x < u.layers.length → t.core x = u.core x := by
    intro x hx
    show (u.addLayer l).2.core x = _
    rw [State.core_addLayer_of_lt hx]
  have hnew : t.core u.layers.length = l.core := by
    show (u.addLayer l).2.core _ = _
    rw [State.core_addLayer_new]
  have hholds : t.Holds u.layers.length e := by
    rw [State.Holds, hnew]
    rfl
  have holder : ∀ {x y}, t.Holds x y → y < x := h.formed.older
  have hunder : ∀ {x}, t.Over e x → x < u.layers.length := fun hx =>
    Nat.lt_of_le_of_lt (hx.le holder) (holder hholds)
  -- the facade is on top of all that stands on the statement
  have hover : ∀ {x}, u.Over e x → t.Over e x := fun hx =>
    State.Over.of_congr hx fun y hy => (hcore (hunder hy)).symm
  have hstands : t.Stands u.layers.length n := by
    have hed := hover hwraps.over
    exact .facade hholds ((State.Stands.native
      ((hcore (hunder hed)).trans hd)).over hed)
  have htop : Scene.Top ⟨t, held, some u.layers.length, loose⟩
      u.layers.length := .inr (.inr (.inl rfl))
  refine ⟨hn, fun {a} ha => ?_⟩
  rcases (h.over_of_stands htop hstands ha).cases_head
    with rfl | ⟨e', he', hea⟩
  · exact .inl ⟨_, tr.next, hle, .refl, _, hnew, rfl⟩
  · obtain rfl := hholds.unique he'
    refine .inr ⟨fun {x k' g} hx => ?_, fun hheld => ?_, fun hout => ?_⟩
    · have hex := hea.trans hx
      show ¬ CachedBy _ _ (t.core x)
      rw [hcore (hunder hex)]
      exact hwraps.not_cachedBy hd
        (State.Over.congr hex fun y hy => (hcore (hunder hy)).symm)
    · have he := h.owned.eq_of_over (.inl hheld) (.head hholds hea)
      exact absurd (hunder hea) (by rw [← he]; exact Nat.lt_irrefl _)
    · obtain rfl := Option.some.inj hout
      exact Nat.lt_irrefl _ (hunder hea)

/-- A tracker that has no cache below it shelters what comes up. -/
theorem shelters_tracker
    (hbelow : ∀ link ∈ below, link.isCache = false)
    (hasks : ∀ link ∈ below, link.isAnswering = false) :
    Shelters ⟨i, below.length⟩ (askLinks i (.leakTracker :: below)) := by
  intro s held loose op mark h hop ⟨tr, hn⟩ hle
  have hall : AsksBelow (.free false) ⟨i, (Link.leakTracker :: below).length⟩
      (askLinks i (.leakTracker :: below)) := asked_askLinks i False.elim
  have hsound := (hall s held loose op h (fun _ _ => trivial)
    fun _ => trivial).moves.sound h
  cases hk : op.creates? with
  | none => exact .of_length_eq (statements_askLinks h hop hk)
  | some kind =>
      have hchanges := changes_askLinks (p := ⟨True, fun _ => True,
        fun _ => True⟩) i below op
        ⟨fun _ _ => trivial, fun _ _ => trivial, fun _ => trivial⟩ s
      have hask : AsksBelow (.free false) ⟨i, below.length⟩
          (askLinks i below) := asked_askLinks i False.elim
      have hlength := (hask s held loose op h (fun _ _ => trivial)
        fun _ => trivial).moves.length_le
      have hrun : askLinks i (.leakTracker :: below) op
          = intercept .leakTracker ⟨i, below.length⟩ (askLinks i below) op :=
        rfl
      rw [hrun] at hsound ⊢
      have hlink : Link.leakTracker.decorates.contains kind = true := by
        cases kind <;> rfl
      rcases run_intercept hk hlink ⟨i, below.length⟩ (askLinks i below) s
        with ⟨hnone, e, hrun⟩ | ⟨e, a, u, t, hunder, hdec, hrun⟩
      · rw [hrun]
        refine .of_length_eq ?_
        rcases made_askLinks hk hbelow hasks rfl
          with hsame | ⟨h, d, hr, -⟩
        · exact hsame
        · have hr : ((askLinks i below op).run s).1 = .ok (.statement h) := hr
          rw [hr] at hnone
          cases hnone
      · rw [hrun] at hsound ⊢
        rw [hunder] at hchanges hlength
        obtain ⟨tr', htr'⟩ := hchanges.tends hn
        rw [run_decorate_tracker htr'.numbered.found] at hdec
        cases hdec
        rcases made_askLinks hk hbelow hasks hunder
          with hsame | ⟨h, d, hr, hwraps, hd, hlen⟩
        · exact .of_length_eq hsame
        · cases hr
          refine ⟨fun {n} hbase hlt => ?_⟩
          have hlt : n < u.native.statements.length := hlt
          obtain rfl : n = s.native.statements.length := by omega
          exact sheltered_enlist hsound hwraps hd hlt
            (Nat.le_trans hle hlength)

/-- A link that decorates makes nothing of its own accord. -/
theorem shelters_intercept (link : Link)
    (hnext : AsksBelow (.free false) self next) (h : Shelters k next) :
    Shelters k (intercept link self next) := by
  intro s held loose op mark hs hop hn hle
  have hnew := h s held loose op mark hs hop hn hle
  rcases intercept_cases link self next hop with ⟨kind, hk, hlink⟩ | hsame
  · rcases run_intercept hk hlink self next s
      with ⟨hnone, e, hrun⟩ | ⟨d, a, u, t, hbelow, hdec, hrun⟩
    · rw [hnone] at hnew
      rw [hrun]
      exact hnew
    · have hasked := hnext s held loose op hs (fun _ _ => trivial)
        fun _ => trivial
      rw [hbelow] at hnew hasked
      obtain ⟨a', t', hdec', hm, -⟩ := moves_decorate (p := .free false) held
        loose link self kind op.sql? (hasked.low rfl) trivial
        fun hp => hp.elim
      rw [hdec] at hdec'
      cases hdec'
      have hnative := native_decorate link self kind op.sql? d u
      rw [hdec] at hnative
      rw [hrun]
      exact hnew.moves hm (hasked.moves.sound hs)
        (congrArg (fun st => st.statements.length) hnative)
  · rw [hsame]
    exact hnew

/-- A look into a cache has the driver make nothing. -/
theorem statements_reuse (hnext : AsksBelow .unasked self next)
    (kind : StatementKind) (sql : String)
    (h : Sound ⟨s, held, none, loose⟩) :
    ((reuse? self next kind sql).run s).2.native.statements.length
      = s.native.statements.length := by
  have hclosed := moves_isClosed hnext h
  have hlen := hclosed.statements_eq h fun _ hno => hno
  have hruns := run_reuse? self next kind sql s
  generalize (reuse? self next kind sql).run s = r at hruns ⊢
  cases hruns with
  | off _ => rfl
  | refused hr _ | missing hr _ =>
      rw [hr] at hlen
      exact hlen
  | found hr _ _ _ _ =>
      rw [hr] at hlen
      exact hlen
  | stale hr hk hf _ _ =>
      rw [hr] at hlen hclosed
      have hsound := hclosed.sound h
      exact ((moves_evict (p := .unasked) hsound hk hf).statements_eq hsound
        fun _ hno => hno).trans hlen

/-- A cache shelters what is made for an answer when the links below it
do. -/
theorem shelters_throughCache {q : Reach} (config : CacheConfig)
    (hnext : AsksBelow (.free false) self next)
    (hquiet : AsksBelow .unasked self next)
    (hchanges : Changes q (next .isClosed)) (h : Shelters k next) :
    Shelters k (throughCache config self next) := by
  intro s held loose op mark hs hop hn hle
  have hpass : ∀ {t : State}, Sound ⟨t, held, none, loose⟩ →
      (∃ tr, t.Numbered k tr) → mark ≤ t.layers.length →
      Scene.SheltersNew ⟨((intercept (.cache config) self next op).run t).2,
        held, outOf ((intercept (.cache config) self next op).run t).1,
        loose⟩ k mark t.native.statements.length := fun ht hn hle =>
    shelters_intercept (.cache config) hnext h _ held loose op mark ht hop hn
      hle
  unfold throughCache
  split
  · next kind sql _ _ =>
    split
    · have hlen := statements_reuse hquiet kind sql hs
      have hm := (moves_reuse hnext trivial kind sql hs).1
      have hreaches : Changes q (reuse? self next kind sql) :=
        changes_reuse? kind sql hchanges
      have hreuse := hreaches s
      rw [run_bind]
      rcases hr : (reuse? self next kind sql).run s with ⟨e | found, t⟩ <;>
        rw [hr] at hlen hm hreuse
      · exact .of_length_eq hlen
      · cases found with
        | some id => exact .of_length_eq hlen
        | none =>
            obtain ⟨tr, hn⟩ := hn
            obtain ⟨tr', htr'⟩ := hreuse.tends hn
            have hrest := hpass (hm.sound hs) ⟨tr', htr'.numbered⟩
              (Nat.le_trans hle hm.length_le)
            rw [hlen] at hrest
            exact hrest
    · exact hpass hs hn hle
  · exact hpass hs hn hle

/-- Whatever is asked of a chain but to close, a tracker that has no cache
below it shelters what is made. -/
theorem shelters_askLinks
    (hbelow : ∀ link ∈ below, link.isCache = false)
    (hasks : ∀ link ∈ above ++ .leakTracker :: below,
      link.isAnswering = false) :
    Shelters ⟨i, below.length⟩
      (askLinks i (above ++ .leakTracker :: below)) := by
  induction above with
  | nil =>
      exact shelters_tracker hbelow fun link hin =>
        hasks link (List.mem_cons_of_mem _ hin)
  | cons link rest ih =>
      have ih := ih fun link hin => hasks link (List.mem_cons_of_mem _ hin)
      let links := rest ++ .leakTracker :: below
      have hnext : AsksBelow (.free false) ⟨i, links.length⟩
          (askLinks i links) := asked_askLinks i fun hp => hp.elim
      intro s held loose op mark hs hop hn hle
      cases link with
      | bare => exact ih s held loose op mark hs hop hn hle
      | probe label =>
          have hm : Moves (.free false) ⟨s, held, none, loose⟩
              ⟨s.note label (.operation op.name op.sql?), held, none, loose⟩ :=
            .aside (.of_alike ⟨rfl, rfl, rfl, rfl, fun h => h⟩)
          obtain ⟨tr, hn⟩ := hn
          exact ih (s.note label (.operation op.name op.sql?)) held loose op
            mark (hm.sound hs) hop ⟨tr, hn.of_layers hn.found rfl⟩ hle
      | prepending text =>
          exact ih s held loose _ mark hs (prepend_ne_close hop) hn hle
      | answering answers => cases hasks _ List.mem_cons_self
      | cache config =>
          exact shelters_throughCache config hnext
            (asked_askLinks i fun hp => hp.elim)
            (changes_askLinks (p := ⟨True, fun _ => True, fun _ => True⟩) i
              links .isClosed (Asks.isClosed i)) ih s held loose op mark hs
            hop hn hle
      | decorator | leakTracker | recorder | counter | watcher =>
          exact shelters_intercept _ hnext ih s held loose op mark hs hop hn
            hle

end Act

-- ============================================================ sessions

namespace Session

variable {s : Session} {step : Step} {i : ConnectionId} {x : Connection}
  {above below : List Link}

/-- What comes up the chain in a step reaches the caller, or is
dropped. -/
theorem moves_asked {pool physical name : String} {q : PoolId}
    {y : PhysicalId} {cstep : ConnectionStep} {op : ConnectionOp}
    (htarget : s.target? pool physical name = some (q, y, i, x))
    (hasked : cstep.asked? = some op)
    {r : Except Error ConnectionReply} {t : State}
    (hr : (Act.askLinks i x.links op).run s.quiet.state = (r, t))
    (hmid : Scene.Sound ⟨t, s.held, outOf r, []⟩) :
    Moves p ⟨t, s.held, outOf r, []⟩
      (s.quiet.act (.onConnection pool physical name cstep)).2.scene := by
  obtain ⟨hname, hx⟩ := lookup_of_target? htarget
  cases hgranted : s.granted? (.onConnection pool physical name cstep) with
  | some a =>
      obtain ⟨_, _, _, _, op', handle, hstep, hasked', hg, -⟩ :=
        exists_grants hgranted
      obtain ⟨rfl, rfl, rfl, rfl⟩ := Step.onConnection.inj hstep
      obtain rfl := Option.some.inj (hasked.symm.trans hasked')
      obtain ⟨i', x', a, t', hname', hx', hrun, hact, -⟩ := hg.exists_created
      obtain rfl := Option.some.inj (hname.symm.trans hname')
      obtain rfl := Option.some.inj (hx.symm.trans hx')
      cases hr.symm.trans hrun
      rw [hact]
      exact moves_storeStatement (s := s.quiet)
  | none =>
      have hstate : (s.quiet.act (.onConnection pool physical name
          cstep)).2.state = t := by
        rw [act_of_target? (s := s.quiet) htarget,
          (asks_onConnection (q := q) (y := y) (x := x) hasked).state,
          run_invokeOp (t := s.quiet.state) hx, hr]
      have hord : (Step.onConnection pool physical name cstep).isOrdinary
          = true := rfl
      have hheld : (s.quiet.act (.onConnection pool physical name
          cstep)).2.held ⊆ s.held := fun a ha =>
        (mem_held_step hord ha).resolve_right fun hno => by
            rw [hgranted] at hno
            cases hno
      rw [scene, hstate]
      exact (Act.moves_refuse hmid).trans (.single (.letDown hheld))

/-- What was made for a connection in a run stays sheltered in a step, and
what is made in the step is. -/
theorem sheltered_step (h : s.Orderly) (hord : step.isOrdinary = true)
    (hx : s.state.connection? i = some x)
    (hlinks : x.links = above ++ .leakTracker :: below)
    (hbelow : ∀ link ∈ below, link.isCache = false)
    (hasks : ∀ link ∈ x.links, link.isAnswering = false) {tr : Tracker}
    (hn : s.state.Numbered ⟨i, below.length⟩ tr)
    (hmark : mark ≤ s.state.layers.length)
    (hold : s.state.MadeFor i n →
      s.scene.Sheltered ⟨i, below.length⟩ mark n)
    (hmade : (s.step step).2.state.MadeFor i n) :
    (s.step step).2.scene.Sheltered ⟨i, below.length⟩ mark n := by
  have hm := (moves_step hord h.sound.scene (suits_serving s step _)).1
  rcases Nat.lt_or_ge n s.state.native.statements.length with hlt | hge
  · exact hm.sheltered h.sound.scene
      (hold (hm.madeFor_before h.sound.scene hlt hmade))
  · -- the step asks the connection for a statement
    have hcreates : s.Creates step i :=
      hm.creates_of_madeFor h.sound.scene hge hmade
    have hnlt : n < (s.step step).2.state.native.statements.length :=
      ((h.sound.step hord).scene.hasOpen_of_madeFor hmade).lt
    have hafter := sound_act h.sound hord
    have hrelease : Moves .unasked (s.quiet.act step).2.scene
        (s.step step).2.scene := (State.moves_release hafter).1
    have hlen := hrelease.statements_eq hafter fun _ hno => hno
    cases step with
    | onConnection pool physical name cstep =>
        obtain ⟨hop, hname, -⟩ := hcreates
        cases hasked : cstep.asked? with
        | none =>
            rw [hasked] at hop
            cases hop
        | some op =>
            cases htarget : s.target? pool physical name with
            | none =>
                obtain ⟨what, hact⟩ := act_of_target?_none
                  (s := s.quiet) htarget cstep
                rw [hact] at hlen
                exact absurd hge (Nat.not_le_of_lt (hlen ▸ hnlt))
            | some found =>
                obtain ⟨q, y, i', x'⟩ := found
                obtain ⟨hname', hx'⟩ := lookup_of_target? htarget
                obtain rfl := Option.some.inj (hname.symm.trans hname')
                obtain rfl := Option.some.inj (hx.symm.trans hx')
                have hquiet : Scene.Sound ⟨s.quiet.state, s.held, none, []⟩ :=
                  sound_quiet h.sound.scene
                have hne : op ≠ .close := by
                  rintro rfl
                  rw [hasked] at hop
                  cases hop
                have hnew := Act.shelters_askLinks hbelow (hlinks ▸ hasks)
                  s.quiet.state s.held [] op mark hquiet hne
                  ⟨tr, hn.of_layers hn.found rfl⟩ hmark
                rw [← hlinks] at hnew
                have hask : Act.AsksBelow (.free false) ⟨i, x.links.length⟩
                    (Act.askLinks i x.links) :=
                  Act.asked_askLinks i False.elim
                have hmid := (hask s.quiet.state s.held [] op hquiet
                  (fun _ _ => trivial) fun _ => trivial).moves.sound hquiet
                have hasked' := fun p => moves_asked (p := p) htarget
                  hasked rfl hmid
                have hlen' := (hasked' .unasked).statements_eq hmid
                  fun _ hno => hno
                exact ((hnew.moves (hasked' .unasked) hmid hlen').moves
                  hrelease hafter hlen).sheltered hge hnlt
    | _ => exact hcreates.elim

end Session

end PooledChain
