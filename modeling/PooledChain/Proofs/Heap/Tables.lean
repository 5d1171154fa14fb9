/-
Tables, and the recorders that write to them.

Of what a pool tells a connection, two things reach a recorder. At
checkout it takes the table of the pool, and makes it if there is none
(`Act.books_checkOut`). When a pool has closed, its table is dropped, and
a recorder that writes to it stops; all that concerns other pools stays
as it is (`Act.keeps_tell`, `Act.keeps_closePool`).

So a table that was started empty is always the one filled with the
executions that were entered, in their order (`Books.Counting`).
-/
import PooledChain.Proofs.Heap.Timed
import PooledChain.Proofs.Pools

namespace PooledChain

open Statistics (Execution Registry Table TableId)

-- ====================================================== what pools tell

/-- Whether a change of the books passes by the table of a pool, and the
recorder that writes to it. -/
structure Books.Kept (p : PoolId) (k : LinkId) (b b' : Books) : Prop where
  tables : b'.statistics.tables = b.statistics.tables
  tableOf : b'.statistics.tableOf? p = b.statistics.tableOf? p
  indexed : b'.statistics.index.isSome = b.statistics.index.isSome
  writes : ∀ {t}, b.recorders.get? k = some t →
    (b.statistics.table? t).map (·.pool) = some p →
    b'.recorders.get? k = some t
  slow : b'.slow = b.slow

namespace Books.Kept

variable {p q : PoolId} {k : LinkId} {b b' b'' : Books}

theorem of_eq (h : b' = b) : b.Kept p k b' := by
  subst h
  exact ⟨rfl, rfl, rfl, fun ht _ => ht, rfl⟩

theorem trans (h₁ : b.Kept p k b') (h₂ : b'.Kept p k b'') :
    b.Kept p k b'' where
  tables := h₂.tables.trans h₁.tables
  tableOf := h₂.tableOf.trans h₁.tableOf
  indexed := h₂.indexed.trans h₁.indexed
  writes ht hp := h₂.writes (h₁.writes ht hp) (by
    rw [Registry.table?, h₁.tables]
    exact hp)
  slow := h₂.slow.trans h₁.slow

/-- Pools come and go, and the table of another one is dropped. -/
theorem of_statistics {r : Registry} (ht : r.tables = b.statistics.tables)
    (hp : r.tableOf? p = b.statistics.tableOf? p)
    (hi : r.index.isSome = b.statistics.index.isSome) :
    b.Kept p k { b with statistics := r } :=
  ⟨ht, hp, hi, fun ht _ => ht, rfl⟩

end Books.Kept

/-- Taking a pool out again and again neither sets the index up nor drops
it. -/
theorem Statistics.Registry.isSome_index_repeat (q : PoolId) (n : Nat)
    (r : Registry) :
    (Nat.repeat (·.deregister q) n r).index.isSome = r.index.isSome := by
  induction n with
  | zero => rfl
  | succ n ih =>
      show (Option.map _ (Nat.repeat _ n r).index).isSome = _
      rw [Option.isSome_map, ih]

namespace Act

variable {α β : Type} {p q : PoolId} {k self : LinkId} {s : State}
  {above below : List Link} {config : RecorderConfig} {c : ConnectionId}

/-- Whether an act passes by the table of a pool and its recorder. -/
def Keeps (p : PoolId) (k : LinkId) (x : Act α) : Prop :=
  ∀ s : State, s.books.Kept p k (x.run s).2.books

/-- A silent act passes every table by. -/
theorem Silent.keeps {x : Act α} (h : Silent x) : Keeps p k x :=
  fun s => .of_eq (h s)

theorem Keeps.bind {x : Act α} {f : α → Act β} (hx : Keeps p k x)
    (hf : ∀ a, Keeps p k (f a)) : Keeps p k (x >>= f) := by
  intro s
  have hx := hx s
  rw [run_bind]
  rcases hr : x.run s with ⟨e | a, t⟩ <;> rw [hr] at hx
  · exact hx
  · exact hx.trans (hf a t)

/-- A recorder that hears that another pool has closed drops the table of
that one, and stops if it writes to it. -/
theorem kept_leaveTable (hq : q ≠ p) (self : LinkId) (s : State) :
    s.books.Kept p k (s.leaveTable self q).books := by
  let t : State := { s with statistics := s.statistics.deregister q }
  have hdrop : s.books.Kept p k t.books := by
    refine .of_statistics rfl ?_ (Option.isSome_map ..)
    rw [Registry.tableOf?_deregister, if_neg hq.symm]
    rfl
  have hleave : s.leaveTable self q = if t.recorderPool? self = some q then
      { t with recorders := t.recorders.erase self } else t := rfl
  rw [hleave]
  split
  · next hpool =>
    refine hdrop.trans ⟨rfl, rfl, rfl, fun {table} ht hp => ?_, rfl⟩
    show (t.recorders.erase self).get? k = some table
    rw [Keyed.get?_erase]
    split
    · next he =>
      subst he
      have ht : t.recorders.get? k = some table := ht
      have hp : (t.statistics.table? table).map (·.pool) = some p := hp
      rw [State.recorderPool?, ht, Option.bind_some, hp] at hpool
      exact absurd (Option.some.inj hpool).symm hq
    · exact ht
  · exact hdrop

/-- A link that hears of another pool's end passes the table by. -/
theorem keeps_hear (hq : q ≠ p) (link : Link) (self : LinkId) :
    Keeps p k (hear link self (.poolClosed q)) := by
  cases link with
  | recorder config => exact fun s => kept_leaveTable hq self s
  | _ => exact (silent_hear self fun h => by cases h).keeps

theorem keeps_tell (hq : q ≠ p) (c : ConnectionId) :
    Keeps p k (tell c (.poolClosed q)) := by
  have hall : ∀ links, Keeps p k (hearAll c (.poolClosed q) links) := by
    intro links
    induction links with
    | nil => exact (silent_hearTerminal c _).keeps
    | cons link rest ih => exact (keeps_hear hq link _).bind fun _ => ih
  intro s
  unfold tell
  rw [run_bind, run_get]
  simp only
  cases s.connection? c with
  | none => exact .of_eq rfl
  | some x => exact hall x.links s

/-- A pool that closes drops its own table. -/
theorem keeps_closePool (hq : q ≠ p) (cs : List ConnectionId) :
    Keeps p k (closePool q cs) := by
  have htold : ∀ cs, Keeps p k (tellAll (.poolClosed q) cs) := by
    intro cs
    induction cs with
    | nil => exact fun _ => .of_eq rfl
    | cons c cs ih => exact (keeps_tell hq c).bind fun _ => ih
  intro s
  unfold closePool
  rw [run_bind, run_get]
  simp only
  split
  · have hnotify : ∀ s : State, s.books.Kept p k
        { s.books with statistics := s.statistics.notifyClosed q } := by
      intro s
      refine .of_statistics (Registry.tables_repeat_deregister ..) ?_
        (Registry.isSome_index_repeat ..)
      rw [Registry.notifyClosed, Registry.tableOf?_repeat_deregister,
        if_neg fun h => hq h.1.symm]
      rfl
    have hmarked : Keeps p k (modify fun s : State =>
        { s with statistics := s.statistics.markClosed q }) := fun s => by
      show s.books.Kept p k
        { s.books with statistics := s.statistics.markClosed q }
      exact .of_statistics rfl rfl rfl
    refine hmarked.bind (fun _ => (htold cs).bind fun _ => ?_) s
    exact fun s => hnotify s
  · exact .of_eq rfl

end Act

/-- The books when a recorder has taken the table of a pool. -/
def Books.take (b : Books) (k : LinkId) (config : RecorderConfig)
    (p : PoolId) : Books :=
  { b with
    statistics := (b.statistics.register p config.maxQueries).2
    recorders :=
      b.recorders.set k (b.statistics.register p config.maxQueries).1 }

namespace Act

variable {p : PoolId} {s : State} {above below : List Link}
  {config : RecorderConfig} {c : ConnectionId}

/-- At checkout the recorder of a chain takes the table of the pool. -/
theorem books_hearAll_attach
    (h : ∀ link ∈ above ++ below, link.isRecorder = false)
    (x : Option PhysicalId) (s : State) :
    ((hearAll c (.attach (some p) x)
        (above ++ .recorder config :: below)).run s).2.books
      = s.books.take ⟨c, below.length⟩ config p := by
  induction above generalizing s with
  | nil =>
      show ((hear (.recorder config) ⟨c, below.length⟩ _ >>= _).run
        s).2.books = _
      rw [run_bind_ok _ (show (hear (.recorder config) ⟨c, below.length⟩
        (.attach (some p) x)).run s
        = (.ok ⟨⟩, s.takeTable ⟨c, below.length⟩ config (some p)) from rfl)]
      exact silent_hearAll c (fun link hl he => by
        rw [h link hl] at he
        cases he) _
  | cons link rest ih =>
      let self : LinkId := ⟨c, (rest ++ .recorder config :: below).length⟩
      have hlink := h link List.mem_cons_self
      have hquiet : Silent (hear link self (.attach (some p) x)) :=
        silent_hear self fun he => by rw [hlink] at he; cases he
      obtain ⟨t, ht⟩ : ∃ t, (hear link self (.attach (some p) x)).run s
          = (.ok ⟨⟩, t) := by
        cases link with
        | recorder config => cases hlink
        | _ => exact ⟨_, rfl⟩
      have hbooks := hquiet s
      rw [ht] at hbooks
      rw [List.cons_append, hearAll, run_bind_ok _ ht,
        ih (fun l hl => h l (List.mem_cons_of_mem _ hl)) t]
      exact congrArg (Books.take · _ config p) hbooks

/-- At a checkout the chain's only recorder takes the table of the pool. -/
theorem books_checkOut
    (h : ∀ link ∈ above ++ below, link.isRecorder = false) {x : Connection}
    (hx : s.connection? c = some x)
    (hlinks : x.links = above ++ .recorder config :: below)
    (y : PhysicalId) :
    ((checkOut c p y).run s).2.books
      = s.books.take ⟨c, below.length⟩ config p := by
  unfold checkOut
  rw [run_bind, run_modify]
  simp only
  unfold tell
  rw [run_bind, run_get]
  have hx : (s.modifyPhysical y fun p =>
      { p with checkouts := p.checkouts + 1 }).connection? c = some x := hx
  simp only [hx, hlinks]
  exact books_hearAll_attach h (some y) _

end Act

-- ====================================================== what a table holds

/-- Whether the table of a pool is the one filled with executions, and the
recorder writes to it if it is there. -/
structure Books.Counting (b : Books) (p : PoolId) (k : LinkId)
    (table : TableId) (config : RecorderConfig) (there : Prop)
    (xs : List Execution) : Prop where
  writes : there → b.recorders.get? k = some table
  tabled : b.statistics.tableOf? p = some table
  filled : b.statistics.table? table = some (.filled p config.maxQueries xs)

namespace Books

variable {b b' : Books} {p : PoolId} {k : LinkId} {table : TableId}
  {config : RecorderConfig} {there there' : Prop} {xs : List Execution}

/-- A table that is filled is of the pool it was started for. -/
theorem pool_filled (p : PoolId) (maxQueries : Nat) (xs : List Execution) :
    (Table.filled p maxQueries xs).pool = p := by
  induction xs using List.reverseRecOn with
  | nil => rfl
  | append_singleton xs x ih =>
      rw [Table.filled_concat]
      show (Table.bump _ _ _ _).pool = p
      rw [Table.bump]
      split <;> exact ih

/-- A table stays the one that was filled when a change passes it by. -/
theorem Counting.kept (h : b.Counting p k table config there xs)
    (hk : b.Kept p k b') (hthere : there' → there) :
    b'.Counting p k table config there' xs where
  writes ht := hk.writes (h.writes (hthere ht)) (by
    rw [h.filled, Option.map_some, pool_filled])
  tabled := hk.tableOf.trans h.tabled
  filled := by
    rw [Registry.table?, hk.tables]
    exact h.filled

/-- Where the table is there, a recorder takes that. -/
theorem Counting.take (h : b.Counting p k table config there xs) :
    (b.take k config p).Counting p k table config there' xs := by
  have hregister := Registry.register_of_some h.tabled config.maxQueries
  unfold Books.take
  rw [hregister]
  refine ⟨fun _ => ?_, h.tabled, h.filled⟩
  rw [Keyed.get?_set, if_pos rfl]

/-- Where there is none, it starts one. -/
theorem counting_take (h : b.statistics.tableOf? p = none)
    (hi : b.statistics.index.isSome = true) :
    (b.take k config p).Counting p k b.statistics.tables.length config there
      [] where
  writes _ := by
    show (b.recorders.set k _).get? k = _
    rw [Keyed.get?_set, if_pos rfl, Registry.fst_register_of_none h]
  tabled := by
    show (b.statistics.register p config.maxQueries).2.tableOf? p = _
    rw [Registry.tableOf?_register_of_none h, if_pos ⟨rfl, hi⟩]
  filled := by
    show (b.statistics.register p config.maxQueries).2.table? _ = _
    rw [Registry.table?, Registry.tables_register_of_none h,
      List.getElem?_append_right (Nat.le_refl _), Nat.sub_self]
    rfl

/-- An execution that is entered counts. -/
theorem Counting.enter? (h : b.Counting p k table config there xs)
    (x : Option Execution) (hthere : there' → there) :
    (b.enter? table config x).Counting p k table config there'
        (xs ++ x.toList)
      ∧ (b.enter? table config x).slow = b.slow
        ++ (x.bind fun x => config.slowWarning? p x.sql).toList := by
  cases x with
  | none =>
      rw [Option.toList_none, List.append_nil]
      exact ⟨⟨fun ht => h.writes (hthere ht), h.tabled, h.filled⟩,
        (List.append_nil _).symm⟩
  | some x =>
      have hfilled : (b.statistics.record table x.sql x.elapsed
          x.started).table? table
            = some (.filled p config.maxQueries (xs ++ [x])) := by
        rw [Table.filled_concat]
        show (b.statistics.tables.modify table _)[table]? = _
        have hold : b.statistics.tables[table]? = _ := h.filled
        rw [List.getElem?_modify, hold]
        simp only [if_true, Option.map_eq_map, Option.map_some]
      refine ⟨⟨fun ht => h.writes (hthere ht), h.tabled, hfilled⟩, ?_⟩
      show b.slow ++ (config.slowWarning? _ x.sql).toList = _
      rw [hfilled, Option.map_some, pool_filled]
      rfl

end Books

end PooledChain
