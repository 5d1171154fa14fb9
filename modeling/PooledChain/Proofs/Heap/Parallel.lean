/-
Two sessions on the same steps that only their links tell apart.

What has a name in one session has it in the other. The statements under
a name need not be the same layers; the roll says which of them belong
together, and they meet (`Session.Parallel`). Whether two names stand
for one layer is the same in both.

Between steps no statement is open that no name leads to. A step may
lose one, by taking a name away or by making a statement that is given
to nobody, but never two at a time (`Session.Concur`). So clearing up
after it gives up the same statement in both sessions
(`Parallel.settle`).
-/
import PooledChain.Proofs.Heap.Names
import PooledChain.Proofs.Heap.Twins

namespace PooledChain

/-- A reply without what it says of the statement that rows point at. -/
def Reply.unowned : Reply → Reply
  | resultSet _ rows => resultSet none rows
  | r => r

/-- The names of statements, each with a layer of either session. -/
abbrev Roll := List (String × LayerId × LayerId)

namespace Session

variable {s t : Session} {roll : Roll} {name name' : String}
  {a b a' b' : LayerId} {n m : Native.StatementId}

/-- Two sessions in which the same statements are open: they call the same
things by the same names, and the two layers that one name leads to are the
same stack over the same statement. -/
structure Parallel (roll : Roll) (s t : Session) : Prop where
  /-- Connections, pools and tables have the same names. -/
  names : s.SameNames t
  /-- The statements of the left session are those of the roll. -/
  left : s.statements = roll.map fun e => (e.1, e.2.1)
  /-- So are those of the right session. -/
  right : t.statements = roll.map fun e => (e.1, e.2.2)
  /-- No name is listed twice. -/
  distinct : (roll.map (·.1)).Nodup
  /-- The states are twins. -/
  twins : s.state.Twins t.state
  /-- The layers of one name are the same stack in both states. -/
  meets : ∀ {name a b}, (name, a, b) ∈ roll → s.state.Meets t.state a b
  /-- One layer on the left goes with one on the right. -/
  single : ∀ {name a b name' a' b'}, (name, a, b) ∈ roll →
    (name', a', b') ∈ roll → (a = a' ↔ b = b')

/-- Whether a statement is open that no name leads to. -/
def Lost (s : Session) (n : Native.StatementId) : Prop :=
  s.state.Lost s.held n

/-- Whether every open statement has a name that leads to it. -/
def Kept (s : Session) : Prop := ∀ n, ¬ s.Lost n

/-- How a step ends in two sessions at once. -/
structure Concur (r r' : Reply × Session) : Prop where
  reply : r'.1.unowned = r.1.unowned
  after : ∃ roll, Parallel roll r.2 r'.2
  lost : ∀ {n m}, r.2.Lost n → r.2.Lost m → n = m

/-- No statement was lost. -/
theorem Concur.of_kept {r r' : Reply × Session}
    (hr : r'.1.unowned = r.1.unowned) (h : Parallel roll r.2 r'.2)
    (hk : r.2.Kept) : Concur r r' :=
  ⟨hr, ⟨roll, h⟩, fun hn => absurd hn (hk _)⟩

namespace Parallel

-- ============================================================== names

/-- A name stands for something in both sessions, or in none. -/
theorem lookup (h : Parallel roll s t) (name : String) :
    (s.statements.lookup name = none ∧ t.statements.lookup name = none)
      ∨ ∃ a b, (name, a, b) ∈ roll ∧ s.statements.lookup name = some a
        ∧ t.statements.lookup name = some b := by
  have hlookup : ∀ (f : LayerId × LayerId → LayerId) (l : Roll),
      (l.map fun e => (e.1, f e.2)).lookup name = (l.lookup name).map f := by
    intro f l
    induction l with
    | nil => rfl
    | cons e l ih =>
        rw [List.map_cons, List.lookup_cons, List.lookup_cons]
        split
        · rfl
        · exact ih
  rw [h.left, h.right, hlookup, hlookup Prod.snd]
  cases hr : roll.lookup name with
  | none => exact .inl ⟨rfl, rfl⟩
  | some p =>
      obtain ⟨l₁, l₂, he, -⟩ := List.lookup_eq_some_iff.1 hr
      refine .inr ⟨p.1, p.2, ?_, rfl, rfl⟩
      rw [he]
      exact List.mem_append_right _ List.mem_cons_self

/-- What callers hold on the left is what the roll lists on the left. -/
theorem mem_left (h : Parallel roll s t) :
    a ∈ s.held ↔ ∃ name b, (name, a, b) ∈ roll := by
  rw [held, h.left, List.map_map, List.mem_map]
  constructor
  · rintro ⟨⟨name, a', b⟩, he, rfl⟩
    exact ⟨name, b, he⟩
  · rintro ⟨name, b, he⟩
    exact ⟨_, he, rfl⟩

/-- What callers hold on the right is what the roll lists on the right. -/
theorem mem_right (h : Parallel roll s t) :
    b ∈ t.held ↔ ∃ name a, (name, a, b) ∈ roll := by
  rw [held, h.right, List.map_map, List.mem_map]
  constructor
  · rintro ⟨⟨name, a, b'⟩, he, rfl⟩
    exact ⟨name, a, he⟩
  · rintro ⟨name, a, he⟩
    exact ⟨_, he, rfl⟩

/-- What is lost in one session is lost in the other. -/
theorem lost_iff (h : Parallel roll s t) : t.Lost n ↔ s.Lost n := by
  have hopen : t.state.native.HasOpen n ↔ s.state.native.HasOpen n := by
    rw [h.twins.native]
  refine and_congr hopen ⟨fun hn {a} ha => ?_, fun hn {b} hb => ?_⟩
  · obtain ⟨name, b, he⟩ := h.mem_left.1 ha
    rw [← (h.meets he).stands]
    exact hn (h.mem_right.2 ⟨name, a, he⟩)
  · obtain ⟨name, a, he⟩ := h.mem_right.1 hb
    rw [(h.meets he).stands]
    exact hn (h.mem_left.2 ⟨name, b, he⟩)

/-- What is done on both sides with the statements of the roll. -/
theorem abide {s' t' : State} (h : Parallel roll s t)
    (ha : State.Abide s.state t.state s' t') :
    Parallel roll { s with state := s' } { t with state := t' } :=
  { h with
    names := ⟨h.names.guarded, h.names.connections, h.names.pools,
      h.names.physicals⟩
    twins := ha.twins
    meets := fun he => ha.meets (h.meets he) }

/-- Layers are added on both sides. -/
theorem grow {u v : State} (h : Parallel roll s t) (huv : u.Twins v)
    (hu : s.state.Grown u) (hv : t.state.Grown v) :
    Parallel roll { s with state := u } { t with state := v } :=
  { h with
    names := ⟨h.names.guarded, h.names.connections, h.names.pools,
      h.names.physicals⟩
    twins := huv
    meets := fun he => hu.meets hv h.twins (h.meets he) }

/-- New layers have no name yet. -/
theorem new (h : Parallel roll s t) (ha : s.state.layers.length ≤ a)
    (hb : t.state.layers.length ≤ b) (he : (name, a', b') ∈ roll) :
    a' = a ↔ b' = b := by
  have hlt := State.lt_of_core (h.meets he).left
  have hlt' := State.lt_of_core (h.meets he).right
  exact iff_of_false (Nat.ne_of_lt (Nat.lt_of_lt_of_le hlt ha))
    (Nat.ne_of_lt (Nat.lt_of_lt_of_le hlt' hb))

/-- Open statements are named still after a change that both sides make
alike. -/
theorem kept {s' t' : State} (ha : State.Abide s.state t.state s' t')
    (hk : s.Kept) : ({ s with state := s' } : Session).Kept :=
  ha.lost hk

/-- Names are given or taken away besides, but not those of statements. -/
theorem renamed {s' t' : Session} (h : Parallel roll s t) (hk : s.Kept)
    (ha : State.Abide s.state t.state s'.state t'.state)
    (hn : s'.SameNames t') (hl : s'.statements = s.statements)
    (hr : t'.statements = t.statements) : Parallel roll s' t' ∧ s'.Kept := by
  refine ⟨⟨hn, hl.trans h.left, hr.trans h.right, h.distinct, ha.twins,
    fun he => ha.meets (h.meets he), h.single⟩, fun n hlost => ?_⟩
  refine Parallel.kept ha hk n ?_
  rw [Lost, held, hl] at hlost
  exact hlost

-- ====================================================== taking names away

end Parallel

/-- Takes the name of a statement away. -/
def forget (s : Session) (name : String) : Session :=
  { s with statements := s.statements.filter (·.1 != name) }

namespace Parallel

/-- Two sessions stay parallel when a name is taken back in both. -/
theorem forget (h : Parallel roll s t) (name : String) :
    Parallel (roll.filter (·.1 != name)) (s.forget name) (t.forget name) where
  names := ⟨h.names.guarded, h.names.connections, h.names.pools,
    h.names.physicals⟩
  left := by
    rw [Session.forget, h.left, List.filter_map]
    rfl
  right := by
    rw [Session.forget, h.right, List.filter_map]
    rfl
  distinct := h.distinct.sublist (List.filter_sublist.map _)
  twins := h.twins
  meets he := h.meets (List.mem_of_mem_filter he)
  single he he' := h.single (List.mem_of_mem_filter he)
    (List.mem_of_mem_filter he')

/-- With a name goes what it alone led to. -/
theorem lost_forget (h : Parallel roll s t) (hn : (s.forget name).Lost n) :
    s.Lost n ∨ ∃ a b, (name, a, b) ∈ roll ∧ s.state.Stands a n := by
  by_contra hnot
  rw [not_or] at hnot
  refine hnot.1 ⟨hn.1, fun {a} ha hstands => ?_⟩
  obtain ⟨name', b, he⟩ := h.mem_left.1 ha
  by_cases heq : name' = name
  · subst heq
    exact hnot.2 ⟨a, b, he, hstands⟩
  · refine hn.2 ((h.forget name).mem_left.2 ⟨name', b, ?_⟩) hstands
    exact List.mem_filter.2 ⟨he, bne_iff_ne.2 heq⟩

/-- No name leads to two statements. -/
theorem forget_once (h : Parallel roll s t) {a' b' : LayerId}
    (he : (name, a, b) ∈ roll) (he' : (name, a', b') ∈ roll)
    (hn : s.state.Stands a n) (hm : s.state.Stands a' m) : n = m := by
  have hsame : (name, a, b) = (name, a', b') :=
    List.inj_on_of_nodup_map h.distinct he he' rfl
  cases hsame
  exact hn.unique hm

/-- A statement is dropped. -/
theorem concur_forget (h : Parallel roll s t) (hk : s.Kept) (r : Reply)
    (name : String) : Concur (r, s.forget name) (r, t.forget name) where
  reply := rfl
  after := ⟨_, h.forget name⟩
  lost hn hm := by
    obtain ⟨a, b, he, hn⟩ := (h.lost_forget hn).resolve_left (hk _)
    obtain ⟨a', b', he', hm⟩ := (h.lost_forget hm).resolve_left (hk _)
    exact h.forget_once he he' hn hm

-- ======================================================== giving names

/-- Handles that meet are given a name on either side. -/
theorem store (h : Parallel roll s t) (hab : s.state.Meets t.state a b)
    (hs : ∀ {name a' b'}, (name, a', b') ∈ roll → (a' = a ↔ b' = b))
    (name : String) :
    Parallel ((name, a, b) :: roll.filter (·.1 != name))
      (s.storeStatement name a) (t.storeStatement name b) where
  names := ⟨h.names.guarded, h.names.connections, h.names.pools,
    h.names.physicals⟩
  left := congrArg ((name, a) :: ·) (h.forget name).left
  right := congrArg ((name, b) :: ·) (h.forget name).right
  distinct := by
    refine List.nodup_cons.2 ⟨fun hmem => ?_, (h.forget name).distinct⟩
    obtain ⟨e, he, rfl⟩ := List.mem_map.1 hmem
    exact bne_iff_ne.1 (List.mem_filter.1 he).2 rfl
  twins := h.twins
  meets he := by
    rcases List.mem_cons.1 he with heq | he
    · cases heq
      exact hab
    · exact (h.forget name).meets he
  single he he' := by
    rcases List.mem_cons.1 he with heq | he <;>
      rcases List.mem_cons.1 he' with heq' | he'
    · cases heq
      cases heq'
      exact ⟨fun _ => rfl, fun _ => rfl⟩
    · cases heq
      rw [eq_comm, hs (List.mem_of_mem_filter he'), eq_comm]
    · cases heq'
      exact hs (List.mem_of_mem_filter he)
    · exact (h.forget name).single he he'

/-- A statement is given a name: what the name led to before may be lost
with it. -/
theorem concur_store (h : Parallel roll s t)
    (hab : s.state.Meets t.state a b)
    (hs : ∀ {name a' b'}, (name, a', b') ∈ roll → (a' = a ↔ b' = b))
    (hlost : ∀ {n}, s.Lost n → s.state.Stands a n) (r : Reply)
    (name : String) :
    Concur (r, s.storeStatement name a) (r, t.storeStatement name b) where
  reply := rfl
  after := ⟨_, h.store hab hs name⟩
  lost {n m} hn hm := by
    have hbefore : ∀ {n}, (s.storeStatement name a).Lost n →
        ∃ a b, (name, a, b) ∈ roll ∧ s.state.Stands a n := by
      intro n hn
      have hrest : (s.forget name).Lost n :=
        ⟨hn.1, fun ha => hn.2 (List.mem_cons_of_mem _ ha)⟩
      refine (h.lost_forget hrest).resolve_left fun hl => ?_
      exact hn.2 List.mem_cons_self (hlost hl)
    obtain ⟨a, b, he, hn⟩ := hbefore hn
    obtain ⟨a', b', he', hm⟩ := hbefore hm
    exact h.forget_once he he' hn hm

end Parallel

/-- A new handle on either side over the statement `n`, to which no name
leads yet. -/
structure Handed (roll : Roll) (s t : Session) (a b : LayerId)
    (n : Native.StatementId) : Prop extends Parallel roll s t where
  hands : s.state.Meets t.state a b
  unnamed : ∀ {name a' b'}, (name, a', b') ∈ roll → (a' = a ↔ b' = b)
  stands : s.state.Stands a n
  only : ∀ {m}, s.Lost m → m = n

/-- The handles are given to nobody. -/
theorem Handed.concur (h : Handed roll s t a b n) (r : Reply) :
    Concur (r, s) (r, t) :=
  ⟨rfl, ⟨roll, h.toParallel⟩, fun hn hm => (h.only hn).trans (h.only hm).symm⟩

/-- The handles are given a name. -/
theorem Handed.concur_store (h : Handed roll s t a b n) (r : Reply)
    (name : String) :
    Concur (r, s.storeStatement name a) (r, t.storeStatement name b) :=
  h.toParallel.concur_store h.hands h.unnamed
    (fun hl => h.only hl ▸ h.stands) r name

namespace Parallel

/-- What a connection hands out on either side. -/
theorem handed {sql : Option String} {kind : StatementKind} {k k' : Nat}
    {u v : State} {c : ConnectionId} (h : Parallel roll s t) (hk : s.Kept)
    (huv : u.Twins v) (hu : s.state.Raised c sql kind k n a u)
    (hv : t.state.Raised c sql kind k' n b v) :
    Handed roll { s with state := u } { t with state := v } a b n where
  toParallel := h.grow huv hu.grown hv.grown
  hands := hu.meets hv
  unnamed := h.new hu.new hv.new
  stands := hu.stands
  only {m} hm :=
    ((hu.opened m).1 hm.1).resolve_left fun hopen =>
      hk m (hu.grown.lost hm hopen)

-- ========================================================= clearing up

/-- After clearing up nothing is lost. -/
theorem settle (h : Parallel roll s t)
    (hone : ∀ {n m}, s.Lost n → s.Lost m → n = m) :
    Parallel roll s.settle t.settle ∧ s.settle.Kept := by
  have htwins := h.twins.release (fun n => h.lost_iff) hone
  refine ⟨{ h with
    names := ⟨h.names.guarded, h.names.connections, h.names.pools,
      h.names.physicals⟩
    twins := htwins
    meets := fun he => h.twins.meets_release (h.mem_left.2 ⟨_, _, he⟩)
      (h.mem_right.2 ⟨_, _, he⟩) (h.meets he) }, fun n hn => ?_⟩
  obtain ⟨x, hx⟩ := (htwins.thin.opened n).1 hn.1
  obtain ⟨a, ha, hstands⟩ := h.twins.thin.exists_held hx
  exact hn.2 ha hstands

end Parallel

end Session

end PooledChain
