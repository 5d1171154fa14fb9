/-
What is set up with a connection.

A connection keeps its links as long as it is there, and a shelf stays
as long as nobody drops its cache, with the capacity it was set up with
(`Moves.stays`); its generation changes only when it is emptied
(`Moves.kept`).

So an enabled cache of a connection that is there has its shelf, with
room for as many statements as the cache is configured for, and there are
no other shelves (`Session.installed_run`). Connections are set up and dropped by steps of
their own, which are looked at directly; any other step is a sequence of
moves under terms that do neither.
-/
import PooledChain.Proofs.Heap.Runs

namespace PooledChain

open Scene (Sound)

variable {p : Terms} {c c' : Scene} {k : LinkId} {old : CacheStore}

-- ============================================================== shelves

/-- A shelf that is not emptied keeps its generation. -/
theorem Moves.kept (hm : Moves p c c')
    (hk : c.state.caches.get? k = some old) (he : ¬ p.empties k) :
    ∃ new, c'.state.caches.get? k = some new
      ∧ new.generation = old.generation := by
  induction hm with
  | refl => exact ⟨old, hk, rfl⟩
  | tail _ hm ih =>
      obtain ⟨mid, hmid, hg⟩ := ih
      cases hm with
      | aside ha =>
          refine ⟨mid, ?_, hg⟩
          rw [ha.caches]
          exact hmid
      | shift hs _ _ =>
          obtain ⟨new, hnew, hg'⟩ := hs.kept hmid he
          exact ⟨new, hnew, hg'.trans hg⟩
      | free _ _ _ =>
          refine ⟨mid, ?_, hg⟩
          rw [State.caches_releaseLayer]
          exact hmid
      | _ => exact ⟨mid, hmid, hg⟩

/-- A shelf that is not dropped is there, with room for as many
statements. -/
theorem Moves.stays (hm : Moves p c c')
    (hk : c.state.caches.get? k = some old) (hd : ¬ p.drops k) :
    ∃ new, c'.state.caches.get? k = some new
      ∧ new.capacity = old.capacity := by
  induction hm with
  | refl => exact ⟨old, hk, rfl⟩
  | tail _ hm ih =>
      obtain ⟨mid, hmid, hcap⟩ := ih
      cases hm with
      | aside ha =>
          refine ⟨mid, ?_, hcap⟩
          rw [ha.caches]
          exact hmid
      | shift hs _ _ =>
          obtain ⟨new, hnew⟩ := hs.stays hmid hd
          exact ⟨new, hnew, (hs.later hmid hnew).2.trans hcap⟩
      | free _ _ _ =>
          refine ⟨mid, ?_, hcap⟩
          rw [State.caches_releaseLayer]
          exact hmid
      | _ => exact ⟨mid, hmid, hcap⟩

/-- A shelf that is there has been there before, in the same generation or
an earlier one, unless it was set up. -/
theorem Moves.shelf_before (hm : Moves p c c') {new : CacheStore}
    (hk : c'.state.caches.get? k = some new)
    (hs : ¬ p.stocks k.connection) :
    ∃ old, c.state.caches.get? k = some old
      ∧ old.generation ≤ new.generation := by
  induction hm generalizing new with
  | refl => exact ⟨new, hk, Nat.le_refl _⟩
  | @tail b _ _ hm ih =>
      cases hm with
      | aside ha =>
          rw [ha.caches] at hk
          exact ih hk
      | @shift s _ _ _ _ _ _ hshelves _ _ =>
          cases hmid : s.caches.get? k with
          | none => exact absurd (hshelves.new hmid hk) hs
          | some mid =>
              obtain ⟨old, hold, hle⟩ := ih hmid
              exact ⟨old, hold,
                Nat.le_trans hle (hshelves.later hmid hk).1⟩
      | free _ _ _ =>
          rw [State.caches_releaseLayer] at hk
          exact ih hk
      | _ => exact ih hk

-- ========================================================== connections

/-- Moves take no connection away. -/
theorem Moves.connections_le (hm : Moves p c c') :
    c.state.connections.length ≤ c'.state.connections.length := by
  induction hm with
  | refl => exact Nat.le_refl _
  | tail _ hm ih =>
      refine Nat.le_trans ih ?_
      cases hm with
      | aside ha => exact Nat.le_of_eq ha.connections.symm
      | @connect s _ _ _ links _ =>
          show s.connections.length
            ≤ (s.connections ++ [some (⟨links, {}⟩ : Connection)]).length
          rw [List.length_append]
          exact Nat.le_add_right _ _
      | free _ _ _ =>
          exact Nat.le_of_eq (by rw [State.connections_releaseLayer])
      | _ => exact Nat.le_refl _

/-- A connection that is there has been there before, with the same links,
unless it was set up. -/
theorem Moves.links (hm : Moves p c c') {i : ConnectionId} {x : Connection}
    (hp : (∀ links, ¬ p.connects links) ∨ i < c.state.connections.length)
    (hx : c'.state.connection? i = some x) :
    ∃ y, c.state.connection? i = some y ∧ y.links = x.links := by
  induction hm generalizing x with
  | refl => exact ⟨x, hx, rfl⟩
  | @tail b _ hst hm ih =>
      cases hm with
      | aside ha =>
          obtain ⟨y, hy, hlinks⟩ := ha.links hx
          obtain ⟨z, hz, hlinks'⟩ := ih hy
          exact ⟨z, hz, hlinks'.trans hlinks⟩
      | @connect s _ _ _ links hlinks =>
          rcases hp with hp | hp
          · exact absurd hlinks (hp _)
          · have hst : Moves p c _ := hst
            have hlt : i < s.connections.length :=
              Nat.lt_of_lt_of_le hp hst.connections_le
            have hsame : ((s.connections ++ [some ⟨links, {}⟩])[i]?).join
                = some x := hx
            rw [List.getElem?_append_left hlt] at hsame
            exact ih hsame
      | free _ _ _ =>
          rw [State.connection?, State.connections_releaseLayer] at hx
          exact ih hx
      | _ => exact ih hx

namespace State

variable {s t : State} {links : List Link}

/-- Whether every enabled cache of a connection has its shelf, and no
other link has one. -/
structure Installed (s : State) : Prop where
  shelf : ∀ {c x above config below}, s.connection? c = some x →
    x.links = above ++ .cache config :: below → config.isEnabled = true →
    ∃ store, s.caches.get? ⟨c, below.length⟩ = some store
      ∧ store.capacity = config.max
  owner : ∀ {k x store}, s.connection? k.connection = some x →
    s.caches.get? k = some store →
    ∃ above config below, x.links = above ++ .cache config :: below
      ∧ below.length = k.place

namespace Installed

theorem congr (h : s.Installed) (hconn : t.connections = s.connections)
    (hcaches : t.caches = s.caches) : t.Installed where
  shelf hx hlinks hon := by
    rw [connection?, hconn] at hx
    rw [hcaches]
    exact h.shelf hx hlinks hon
  owner hx hk := by
    rw [connection?, hconn] at hx
    rw [hcaches] at hk
    exact h.owner hx hk

/-- Moves that set up nothing and drop nothing. -/
theorem moves (h : c.state.Installed) (hm : Moves p c c')
    (hp : ∀ links, ¬ p.connects links) (hs : ∀ i, ¬ p.stocks i)
    (hd : ∀ k, ¬ p.drops k) : c'.state.Installed where
  shelf {i x above config below} hx hlinks hon := by
    obtain ⟨y, hy, hsame⟩ := hm.links (.inl hp) hx
    obtain ⟨store, hk, hcap⟩ := h.shelf hy (hsame.trans hlinks) hon
    obtain ⟨new, hnew, hcap'⟩ := hm.stays hk (hd _)
    exact ⟨new, hnew, hcap'.trans hcap⟩
  owner {k x store} hx hk := by
    obtain ⟨y, hy, hsame⟩ := hm.links (.inl hp) hx
    obtain ⟨old, hold, -⟩ := hm.shelf_before hk (hs _)
    rw [← hsame]
    exact h.owner hy hold

/-- A connection that is dropped takes only its own shelves with it. -/
theorem dropConnection (h : s.Installed) (i : ConnectionId) :
    (s.dropConnection i).Installed where
  shelf {c x above config below} hx hlinks hon := by
    have hset : ((s.connections.set i none)[c]?).join = some x := hx
    rw [List.getElem?_set] at hset
    split at hset
    · split at hset <;> cases hset
    · next hne =>
      obtain ⟨store, hk, hcap⟩ := h.shelf hset hlinks hon
      refine ⟨store, ?_, hcap⟩
      show (s.caches.filter fun id => id.connection != i).get? _ = _
      rw [Keyed.get?_filter, if_pos (bne_iff_ne.2 fun he => hne he.symm)]
      exact hk
  owner {k x store} hx hk := by
    have hset : ((s.connections.set i none)[k.connection]?).join
        = some x := hx
    rw [List.getElem?_set] at hset
    split at hset
    · split at hset <;> cases hset
    · have hkept : (s.caches.filter fun id => id.connection != i).get? k
          = some store := hk
      rw [Keyed.get?_filter] at hkept
      split at hkept
      · exact h.owner hset hkept
      · cases hkept

end Installed

-- ------------------------------------------------- setting up

/-- A link sets up no shelf but its own. -/
theorem get?_installLink {id : LinkId} (hk : k ≠ id) (s : State)
    (link : Link) :
    (s.installLink id link).caches.get? k = s.caches.get? k := by
  unfold installLink
  split
  · split
    · show (s.caches.set id _).get? k = _
      rw [Keyed.get?_set, if_neg hk]
    · rfl
  · rfl
  · rfl
  · rfl

/-- Setting up links adds no connection. -/
theorem connections_installLinks (i : ConnectionId) (s : State)
    (links : List Link) :
    (installLinks i s links).connections = s.connections := by
  obtain ⟨_, _, _, h⟩ := Session.installLinks_eq i s links
  rw [h]

/-- Setting up links touches no physical connection. -/
theorem physicals_installLinks (i : ConnectionId) (s : State)
    (links : List Link) :
    (installLinks i s links).physicals = s.physicals := by
  obtain ⟨_, _, _, h⟩ := Session.installLinks_eq i s links
  rw [h]

/-- Setting up links gives nothing back. -/
theorem returns_installLinks (i : ConnectionId) (s : State)
    (links : List Link) :
    (installLinks i s links).returns = s.returns := by
  obtain ⟨_, _, _, h⟩ := Session.installLinks_eq i s links
  rw [h]

/-- Links set up no shelf but their own. -/
theorem get?_installLinks {i : ConnectionId}
    (hk : k.connection = i → links.length ≤ k.place) (s : State) :
    (installLinks i s links).caches.get? k = s.caches.get? k := by
  induction links generalizing s with
  | nil => rfl
  | cons link rest ih =>
      have hrest : k.connection = i → rest.length ≤ k.place := fun he =>
        Nat.le_of_succ_le (hk he)
      rw [installLinks, ih hrest]
      apply get?_installLink
      intro he
      subst he
      exact Nat.not_succ_le_self _ (hk rfl)

/-- Every enabled cache of a chain that is set up gets a shelf. -/
theorem shelf_installLinks {i : ConnectionId} {above below : List Link}
    {config : CacheConfig} (hon : config.isEnabled = true) (s : State) :
    (installLinks i s (above ++ .cache config :: below)).caches.get?
        ⟨i, below.length⟩ = some (.empty config.max) := by
  induction above generalizing s with
  | nil =>
      rw [List.nil_append, installLinks, get?_installLinks fun _ =>
        Nat.le_refl _]
      show (s.installLink _ (.cache config)).caches.get? _ = _
      rw [installLink, if_pos hon]
      show (s.caches.set _ _).get? _ = _
      rw [Keyed.get?_set, if_pos rfl]
  | cons link above ih =>
      rw [List.cons_append, installLinks]
      exact ih _

/-- A shelf that was not there before links were installed belongs to a
cache among them. -/
theorem get?_installLinks_eq_some {i : ConnectionId} {k : LinkId}
    {store : CacheStore}
    (hk : (installLinks i s links).caches.get? k = some store) :
    s.caches.get? k = some store ∨ k.connection = i ∧
      ∃ above config below, links = above ++ .cache config :: below
        ∧ below.length = k.place := by
  induction links generalizing s with
  | nil => exact .inl hk
  | cons link rest ih =>
      rcases ih hk with hlink | ⟨hc, above, config, below, rfl, hplace⟩
      · by_cases hself : k = ⟨i, rest.length⟩
        · cases link with
          | cache config =>
              refine .inr ⟨by rw [hself], [], config, rest, rfl, ?_⟩
              rw [hself]
          | _ => exact .inl hlink
        · rw [get?_installLink hself] at hlink
          exact .inl hlink
      · exact .inr ⟨hc, link :: above, config, below, rfl, hplace⟩

/-- A new connection comes with its shelves. -/
theorem Installed.newConnection (h : s.Installed)
    (hknown : ∀ {k store}, s.caches.get? k = some store →
      k.connection < s.connections.length) (links : List Link) :
    (s.newConnection links).2.Installed where
  owner {k x store} hx hk := by
    have hconn : (s.newConnection links).2.connections
        = s.connections ++ [some ⟨links, {}⟩] :=
      connections_installLinks ..
    rw [connection?, hconn] at hx
    rcases get?_installLinks_eq_some hk with hold | ⟨hi, hcache⟩
    · have hlt := hknown hold
      rw [List.getElem?_append_left hlt] at hx
      exact h.owner hx hold
    · rw [hi, List.getElem?_append_right (Nat.le_refl _),
        Nat.sub_self] at hx
      cases hx
      exact hcache
  shelf {c x above config below} hx hlinks hon := by
    have hconn : (s.newConnection links).2.connections
        = s.connections ++ [some ⟨links, {}⟩] :=
      connections_installLinks ..
    rw [connection?, hconn] at hx
    by_cases hc : c < s.connections.length
    · rw [List.getElem?_append_left hc] at hx
      obtain ⟨store, hk, hcap⟩ := h.shelf hx hlinks hon
      refine ⟨store, ?_, hcap⟩
      rw [State.newConnection]
      refine (get?_installLinks (fun he => ?_) _).trans hk
      exact absurd he (Nat.ne_of_lt hc)
    · rw [List.getElem?_append_right (Nat.le_of_not_lt hc)] at hx
      cases hoffset : c - s.connections.length with
      | succ m =>
          rw [hoffset] at hx
          cases hx
      | zero =>
          rw [hoffset] at hx
          cases hx
          have hlinks : links = above ++ .cache config :: below := hlinks
          have he : c = s.connections.length := Nat.le_antisymm
            (Nat.le_of_sub_eq_zero hoffset) (Nat.le_of_not_lt hc)
          refine ⟨.empty config.max, ?_, rfl⟩
          rw [State.newConnection, hlinks, he]
          exact shelf_installLinks hon _

end State

-- ============================================================= sessions

namespace Session

variable {s : Session}

/-- A name that is dropped takes the shelves of its connection with it. -/
theorem installed_dropConnection (h : s.state.Installed) (name : String) :
    (s.dropConnection name).state.Installed := by
  rw [dropConnection]
  split
  · exact h
  · exact h.dropConnection _

/-- A connection that is made under a name comes with its shelves. -/
theorem installed_newConnection (h : s.state.Installed)
    (hknown : ∀ {k store}, s.state.caches.get? k = some store →
      k.connection < s.state.connections.length) (name : String)
    (links : List Link) : (s.newConnection name links).state.Installed := by
  rw [newConnection]
  exact installed_dropConnection (s := { s with
    state := (s.state.newConnection links).2 })
    (h.newConnection hknown links) name

/-- Terms under which no connection is set up and none is dropped. -/
def setting (guarded : Bool) : Terms :=
  ⟨guarded, fun _ => True, fun _ => True, fun _ => True, fun _ => False,
    fun _ => False, fun _ => False, fun _ => True, False⟩

/-- A step that neither sets up nor drops a connection keeps to these
terms. -/
theorem suits_setting {step : Step} (hdrops : ∀ i, ¬ s.Drops step i)
    (hnew : ∀ name spec, step ≠ .newConnection name spec) :
    Suits (setting s.guarded) s step (s.step step).1 where
  guarded := rfl
  closes := fun _ => trivial
  taints := fun _ _ _ _ _ => trivial
  discards := fun _ => trivial
  drops := fun hk => absurd hk (hdrops _)
  connects := fun he _ => absurd he (hnew _ _)
  creates := fun _ => trivial
  faithful := fun hf => hf.elim

/-- A step that is neither setting up a connection nor dropping one. -/
theorem installed_of_setting {step : Step} (h : s.state.Installed)
    (hsound : s.scene.Sound) (hord : step.isOrdinary = true)
    (hdrops : ∀ i, ¬ s.Drops step i)
    (hnew : ∀ name spec, step ≠ .newConnection name spec) :
    (s.step step).2.state.Installed := by
  obtain ⟨hm, -⟩ := moves_step hord hsound (suits_setting hdrops hnew)
  exact State.Installed.moves h hm (fun _ hc => hc) (fun _ hs => hs)
    fun _ hd => hd

/-- After each step every enabled cache has its shelf. -/
theorem installed_step {step : Step} (h : s.state.Installed)
    (hsound : s.scene.Sound) (hord : step.isOrdinary = true) :
    (s.step step).2.state.Installed := by
  have hquiet : s.quiet.state.Installed := h.congr rfl rfl
  have hsettle : ∀ {t : Session}, t.state.Installed →
      t.settle.state.Installed := fun ht =>
    ht.congr (State.connections_release ..) (State.caches_release ..)
  cases step with
  | newConnection name spec =>
      refine hsettle (t := (s.quiet.act (.newConnection name spec)).2) ?_
      cases hspec : spec.links with
      | error e =>
          rw [act, hspec]
          exact hquiet
      | ok links =>
          rw [act, hspec]
          exact installed_newConnection hquiet
            (fun hk => hsound.stocked.known (Keyed.mem_of_get? hk)) name links
  | dropConnection name => exact hsettle (installed_dropConnection hquiet name)
  | onConnection pool physical name step =>
      refine installed_of_setting h hsound hord (fun k hk => ?_)
        fun _ _ he => by cases he
      cases step <;> exact hk
  | _ =>
      refine installed_of_setting h hsound hord (fun k hk => hk)
        fun _ _ he => by cases he

/-- Whatever ordinary steps are taken, an enabled cache of a connection
that is there has its shelf. -/
theorem installed_run {links : List Link} {guarded checkedOut : Bool}
    {steps : List Step} (hord : ∀ step ∈ steps, step.isOrdinary = true) :
    ((start links guarded checkedOut).run steps).state.Installed := by
  have hstart : (start links guarded checkedOut).state.Installed := by
    have hunattached : (unattached links guarded).state.Installed := by
      apply installed_newConnection
      · exact ⟨fun hx => (by cases hx), fun hx => by cases hx⟩
      · exact fun hk => by cases hk
    cases checkedOut with
    | false => exact hunattached
    | true =>
        have haside := Act.aside_checkOut guarded 0 0 0
          (unattached links guarded).state
        have hm : Moves (setting guarded) (unattached links guarded).scene
            (start links guarded true).scene := moves_answer (.aside haside)
        exact State.Installed.moves hunattached hm (fun _ hc => hc)
          (fun _ hs => hs) fun _ hd => hd
  have hsound := sound_start links guarded checkedOut
  generalize start links guarded checkedOut = s at *
  induction steps generalizing s with
  | nil => exact hstart
  | cons step steps ih =>
      have hstep := hord step List.mem_cons_self
      rw [run_cons]
      exact ih (fun step h => hord step (List.mem_cons_of_mem _ h)) _
        (installed_step hstart hsound.scene hstep) (hsound.step hstep)

end Session

end PooledChain
