/-
Which links decorate a statement.

A link that decorates statements of a kind does so if it has what it
takes (`State.equips`): a tracker its list, a recorder a table to write
to, a cache its shelf and a SQL text to park the statement under. What
comes up a chain of faithful links is a facade exactly if some link of
the chain is such a one, and a native handle otherwise
(`isSome_facade?_askLinks`). It makes no difference whether the statement
is new: what a cache takes off its shelf is a facade, and the cache would
have put one around a new statement.

That is decided when the statement is asked for. Nothing that happens on
its way gives a link what it lacks or takes away what it has
(`State.SameGear`).
-/
import PooledChain.Proofs.Heap.Creation
import PooledChain.Proofs.Heap.Silence

namespace PooledChain

open Scene (Sound)

variable {s t u : State} {p : Terms} {r : Reach} {held loose : List LayerId}
  {a d : LayerId} {c : ConnectionId} {kind : StatementKind}
  {sql : Option String} {op : ConnectionOp} {next : Next} {self : LinkId}
  {link : Link}

namespace State

/-- Whether a link at the place `self` has what it takes to decorate a
statement that is made from `sql`. -/
def equips (s : State) (self : LinkId) (sql : Option String) : Link → Bool
  | .cache _ => sql.isSome && (s.caches.get? self).isSome
  | .leakTracker => (s.trackers.get? self).isSome
  | .recorder _ => (s.recorders.get? self).isSome
  | _ => true

/-- Whether some link of a chain decorates statements of that kind. -/
def decorates (s : State) (c : ConnectionId) (kind : StatementKind)
    (sql : Option String) : List Link → Bool
  | [] => false
  | link :: below =>
    link.decorates.contains kind && s.equips ⟨c, below.length⟩ sql link
      || s.decorates c kind sql below

/-- Whether the links have what they had. -/
structure SameGear (s t : State) : Prop where
  caches : ∀ k, (t.caches.get? k).isSome = (s.caches.get? k).isSome
  trackers : ∀ k, (t.trackers.get? k).isSome = (s.trackers.get? k).isSome
  recorders : t.recorders = s.recorders

/-- What links have decides whether they can decorate. -/
theorem SameGear.equips (h : s.SameGear t) (self : LinkId)
    (sql : Option String) (link : Link) :
    t.equips self sql link = s.equips self sql link := by
  cases link with
  | cache config => rw [State.equips, h.caches, ← State.equips]
  | leakTracker => exact h.trackers self
  | recorder config => rw [State.equips, h.recorders, ← State.equips]
  | _ => rfl

theorem SameGear.decorates (h : s.SameGear t) (c : ConnectionId)
    (kind : StatementKind) (sql : Option String) (links : List Link) :
    t.decorates c kind sql links = s.decorates c kind sql links := by
  induction links with
  | nil => rfl
  | cons link below ih =>
      rw [State.decorates, h.equips, ih, ← State.decorates]

end State

-- ===================================================== what stays as it was

/-- A tracker is not taken away. -/
theorem Change.isSome_trackers (h : Change r s t) (k : LinkId) :
    (t.trackers.get? k).isSome = (s.trackers.get? k).isSome := by
  have hmodify : ∀ (k' : LinkId) (f : Tracker → Tracker),
      ((s.trackers.modify k' f).get? k).isSome
        = (s.trackers.get? k).isSome := by
    intro k' f
    rw [Keyed.get?_modify]
    split
    · next he =>
      subst he
      exact Option.isSome_map ..
    · rfl
  cases h with
  | @enlist k' tr l f hk =>
      show ((s.trackers.set k' _).get? k).isSome = _
      rw [Keyed.get?_set]
      split
      · next he =>
        subst he
        rw [hk]
        rfl
      · rfl
  | unlist => exact hmodify _ _
  | clear => exact hmodify _ _
  | _ => rfl

/-- Shelves are not taken away where none is dropped, and none is put up
where no connection is. -/
theorem Moves.isSome_caches {b b' : Scene} (hm : Moves p b b')
    (hdrops : ∀ k, ¬ p.drops k) (hstocks : ∀ c, ¬ p.stocks c) (k : LinkId) :
    (b'.state.caches.get? k).isSome = (b.state.caches.get? k).isSome := by
  rw [Bool.eq_iff_iff, Option.isSome_iff_exists, Option.isSome_iff_exists]
  constructor
  · rintro ⟨new, hk⟩
    obtain ⟨old, hold, -⟩ := hm.shelf_before hk (hstocks _)
    exact ⟨old, hold⟩
  · rintro ⟨old, hk⟩
    obtain ⟨new, hnew, -⟩ := hm.stays hk (hdrops k)
    exact ⟨new, hnew⟩

namespace Act

/-- The terms under which a statement comes up a chain. -/
theorem asksBelow_setting (c : ConnectionId) (links : List Link) :
    AsksBelow (Session.setting false) ⟨c, links.length⟩ (askLinks c links) :=
  asked_askLinks c fun hf => hf.elim

/-- Whatever is asked of a chain but to close, its links have what they
had. -/
theorem sameGear_askLinks (c : ConnectionId) (links : List Link)
    (hop : op ≠ .close) (h : Sound ⟨s, held, none, loose⟩) :
    s.SameGear ((askLinks c links op).run s).2 where
  caches := by
    have hasked := asksBelow_setting c links s held loose op h
      (fun _ _ => trivial) fun _ => trivial
    exact hasked.moves.isSome_caches (fun _ hd => hd) fun _ hs => hs
  trackers k :=
    (changes_askLinks_inside c links hop s).preserves
      (I := fun t => (t.trackers.get? k).isSome
        = (s.trackers.get? k).isSome)
      (fun hc ht => (hc.isSome_trackers k).trans ht) rfl
  recorders := congrArg Books.recorders (silent_askLinks c links op s)

/-- A look at a shelf leaves the links what they had. -/
theorem sameGear_reuse? (c : ConnectionId) (links : List Link)
    (kind : StatementKind) (sql : String)
    (h : Sound ⟨s, held, none, loose⟩) : s.SameGear
      ((reuse? ⟨c, links.length⟩ (askLinks c links) kind sql).run s).2 where
  caches := by
    obtain ⟨hm, -⟩ :=
      moves_reuse (asksBelow_setting c links) trivial kind sql h
    exact hm.isSome_caches (fun _ hd => hd) fun _ hs => hs
  trackers k := by
    have hinside : Changes .inside (askLinks c links .isClosed) :=
      changes_askLinks_inside c links fun he => by cases he
    exact (changes_reuse? kind sql hinside s).preserves
      (I := fun t => (t.trackers.get? k).isSome
        = (s.trackers.get? k).isSome)
      (fun hc ht => (hc.isSome_trackers k).trans ht) rfl
  recorders := congrArg Books.recorders
    (silent_reuse? kind sql (silent_askLinks c links .isClosed) s)

-- ============================================================== one link

/-- The end of a chain hands up a native handle. -/
theorem facade?_askTerminal (h : Sound ⟨s, held, none, loose⟩)
    (hr : (askTerminal c op).run s = (.ok (.statement a), t)) :
    t.facade? a = none := by
  have hasked : Asked (.free false) 0 op s held loose
      ((askTerminal c op).run s) := asked_askTerminal c fun _ => trivial
  rw [hr] at hasked
  have hformed : t.Formed := (hasked.moves.sound h).formed
  have hlow : (t.core a).level ≤ 0 := hasked.low rfl
  obtain ⟨n, hn, -⟩ := hasked.opened rfl
  cases hn with
  | native hcore => rw [State.facade?, hcore]; rfl
  | facade hholds _ =>
      have hlt := hformed.leveled hholds
      omega

/-- A link decorates if it has what it takes. -/
theorem run_behaviour?_equips (hlink : link.decorates.contains kind = true)
    (self : LinkId) (sql : Option String) (upcoming : LayerId) (s : State) :
    ∃ b t, (behaviour? link self kind sql upcoming).run s = (.ok b, t)
      ∧ b.isSome = s.equips self sql link ∧ t.layers = s.layers := by
  unfold behaviour?
  rw [run_bind, run_get]
  cases link with
  | decorator | counter | watcher => exact ⟨_, _, rfl, rfl, rfl⟩
  | cache config =>
      simp only [State.equips]
      cases s.caches.get? self with
      | none => exact ⟨_, _, rfl, (Bool.and_false _).symm, rfl⟩
      | some store => cases sql <;> exact ⟨_, _, rfl, rfl, rfl⟩
  | leakTracker =>
      simp only [State.equips]
      cases s.trackers.get? self <;> exact ⟨_, _, rfl, rfl, rfl⟩
  | recorder config =>
      simp only [State.equips]
      cases s.recorders.get? self <;> exact ⟨_, _, rfl, rfl, rfl⟩
  | probe | bare | answering | prepending => cases hlink

/-- What a link hands up is a facade if it decorated, or if it was one
before. -/
theorem isSome_facade?_decorate (hlink : link.decorates.contains kind = true)
    (hr : (decorate link self kind sql d).run s = (.ok a, t)) :
    (t.facade? a).isSome
      = (s.equips self sql link || (s.facade? d).isSome) := by
  obtain ⟨b, u, hrun, hb, hlayers⟩ :=
    run_behaviour?_equips hlink self sql s.layers.length s
  unfold decorate at hr
  rw [run_bind, run_get] at hr
  simp only at hr
  rw [run_bind, hrun] at hr
  rw [← hb]
  cases b with
  | none =>
      cases hr
      rw [State.facade?, State.core_congr hlayers]
      rfl
  | some b =>
      cases hr
      have hnew : (u.addLayer (facadeOf self kind sql d b)).2.core
          u.layers.length = .facade ⟨self.place + 1, some d, false, b⟩ := by
        rw [State.core_addLayer_new]
        rfl
      exact congrArg Option.isSome (State.facade?_eq_some.2 hnew)

/-- What a decorating link hands up is a facade if it decorates, or if it
was one before. -/
theorem isSome_facade?_intercept {below : Bool}
    (hk : op.creates? = some kind) (hgear : s.SameGear ((next op).run s).2)
    (hnext : ∀ {d u}, (next op).run s = (.ok (.statement d), u) →
      (u.facade? d).isSome = below)
    (hr : (intercept link self next op).run s = (.ok (.statement a), t)) :
    (t.facade? a).isSome
      = (link.decorates.contains kind && s.equips self op.sql? link
        || below) := by
  by_cases hlink : link.decorates.contains kind = true
  · obtain ⟨d, u, hbelow, hdec⟩ := exists_decorated hk hlink hr
    rw [hbelow] at hgear
    rw [isSome_facade?_decorate hlink hdec, hnext hbelow, hgear.equips, hlink,
      Bool.true_and]
  · have hother := Bool.eq_false_iff.2 hlink
    rw [intercept_of_other hk hother] at hr
    rw [hnext hr, hother, Bool.false_and, Bool.false_or]

-- ============================================================ a whole chain

/-- What comes up a chain below the one at hand. -/
def HandsUp (c : ConnectionId) (links : List Link) : Prop :=
  ∀ {s t : State} {held loose : List LayerId} {op : ConnectionOp}
    {kind : StatementKind} {a : LayerId}, Sound ⟨s, held, none, loose⟩ →
    op.creates? = some kind →
    (askLinks c links op).run s = (.ok (.statement a), t) →
    (t.facade? a).isSome = s.decorates c kind op.sql? links

/-- A cache hands up a facade that it has, or what a decorating link
does. -/
theorem isSome_facade?_throughCache (config : CacheConfig) {rest : List Link}
    (hrest : HandsUp c rest) (h : Sound ⟨s, held, none, loose⟩)
    (hk : op.creates? = some kind)
    (hr : (throughCache config ⟨c, rest.length⟩ (askLinks c rest) op).run s
      = (.ok (.statement a), t)) :
    (t.facade? a).isSome
      = s.decorates c kind op.sql? (.cache config :: rest) := by
  have hop : op ≠ .close := fun he => by
    subst he
    cases hk
  have hpass : ∀ {u : State}, Sound ⟨u, held, none, loose⟩ →
      (intercept (.cache config) ⟨c, rest.length⟩ (askLinks c rest) op).run u
        = (.ok (.statement a), t) →
      (t.facade? a).isSome
        = u.decorates c kind op.sql? (.cache config :: rest) := fun hu hru =>
    isSome_facade?_intercept hk (sameGear_askLinks c rest hop hu)
      (fun hbelow => hrest hu hk hbelow) hru
  unfold throughCache at hr
  rw [hk] at hr
  cases hsql : op.sql? with
  | none =>
      rw [hsql] at hr hpass
      exact hpass h hr
  | some sql =>
      rw [hsql] at hr hpass
      simp only at hr
      split at hr
      · next hkind =>
        have hgear := sameGear_reuse? c rest kind sql h
        have hm := (moves_reuse (asksBelow_setting c rest) trivial kind sql h).1
        rw [run_bind] at hr
        rcases hreuse : (reuse? ⟨c, rest.length⟩ (askLinks c rest) kind
          sql).run s with ⟨e | found, u⟩
        · rw [hreuse] at hr
          cases hr
        · rw [hreuse] at hr hgear hm
          cases found with
          | none =>
              rw [← hgear.decorates]
              exact hpass (hm.sound h) hr
          | some b =>
              -- the shelf that it comes from was there all along
              cases hr
              have hfit := fit_reuse (asksBelow_setting c rest) h hreuse
              obtain ⟨store, l, f, hshelf, hl, -, hcore, -⟩ := hfit.facade
              have hthere : (s.caches.get? ⟨c, rest.length⟩).isSome = true := by
                rw [← hgear.caches, hshelf]
                rfl
              have hfacade : t.facade? a = some f :=
                State.facade?_eq_some.2 ((State.core_eq_of_layer? hl).trans hcore)
              have hdecorates : (Link.cache config).decorates.contains kind
                  = true := hkind
              rw [hfacade, State.decorates, hdecorates, State.equips, hthere]
              rfl
      · exact hpass h hr

/-- A statement that comes up a chain of faithful links is a facade
exactly if some link decorates. -/
theorem isSome_facade?_askLinks (c : ConnectionId) {links : List Link}
    (hlinks : ∀ link ∈ links, link.isFaithful = true) :
    HandsUp c links := by
  induction links with
  | nil =>
      intro s t held loose op kind a h hk hr
      rw [facade?_askTerminal h hr]
      rfl
  | cons link rest ih =>
      intro s t held loose op kind a h hk hr
      have hrest : HandsUp c rest :=
        ih fun l hl => hlinks l (List.mem_cons_of_mem _ hl)
      have hop : op ≠ .close := fun he => by
        subst he
        cases hk
      cases link with
      | bare => exact hrest h hk hr
      | probe label =>
          have hnoted : Sound ⟨s.note label (.operation op.name op.sql?), held,
              none, loose⟩ := by
            have haside : Aside false s
                (s.note label (.operation op.name op.sql?)) :=
              .of_alike ⟨rfl, rfl, rfl, rfl, fun h => h⟩
            exact h.aside haside
          have hsame : s.SameGear (s.note label (.operation op.name op.sql?)) :=
            ⟨fun _ => rfl, fun _ => rfl, rfl⟩
          refine (hrest hnoted hk hr).trans ?_
          rw [hsame.decorates]
          rfl
      | cache config => exact isSome_facade?_throughCache config hrest h hk hr
      | answering | prepending | watcher =>
          cases hlinks _ List.mem_cons_self
      | decorator | leakTracker | recorder | counter =>
          exact isSome_facade?_intercept hk (sameGear_askLinks c rest hop h)
            (fun hbelow => hrest h hk hbelow) hr

end Act

end PooledChain
