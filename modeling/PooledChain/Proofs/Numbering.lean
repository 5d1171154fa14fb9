/-
What the numbers in a table stand for.

A table keeps its texts in no order; which of them was registered first
is told by their numbers alone. Below, a table is shown to be a bounded
line of accumulators, first in, first out (`Line`): a new text goes to
the end of the line, and in a full line the front one leaves first.

What carries that is `Table.Numbers`: put in the order of their numbers,
the registrations of a table are some list in which no text stands
twice, and every number is below the next one. Recording a text that is
there changes no number, so the list stays in order; a new text gets the
greatest number and goes to its end, and what has the least number is
the head of the list (`Numbers.record`). Numbers are 64-bit words, so
this ends when one of them comes round, after 2^64 registrations
(`Table.accumulators_filled`).
-/
import PooledChain.Statistics.Table
import Mathlib.Algebra.Ring.Nat
import Mathlib.Data.List.Induction
import Mathlib.Data.List.Nodup
import Mathlib.Data.List.Sort

namespace PooledChain

-- ================================================= a change under a key

namespace Keyed

variable {κ α : Type} [DecidableEq κ] {t : Keyed κ α}

/-- What is not there need not be erased. -/
theorem erase_eq_self {k : κ} (h : ∀ p ∈ t.entries, p.1 ≠ k) :
    t.erase k = t := by
  obtain ⟨es⟩ := t
  exact congrArg Keyed.mk (List.filter_eq_self.2 fun p hp =>
    decide_eq_true (h p hp))

/-- A value is changed in its place, up to the order of the keys. -/
theorem modify_perm (ht : t.Distinct) (k : κ) (f : α → α) :
    (t.modify k f).entries.Perm
      (t.entries.map fun p => if p.1 = k then (p.1, f p.2) else p) := by
  have hsame : ∀ es : List (κ × α), (∀ p ∈ es, p.1 ≠ k) →
      es.map (fun p => if p.1 = k then (p.1, f p.2) else p) = es :=
    fun es hes => (List.map_congr_left fun p hp => if_neg (hes p hp)).trans
      (List.map_id _)
  unfold modify
  cases ha : t.get? k with
  | none =>
      have hno : ∀ p ∈ t.entries, p.1 ≠ k := fun p hp hk => by
        rw [← hk, get?_of_mem ht hp] at ha
        cases ha
      rw [hsame _ hno]
  | some a =>
      have hperm := (entries_perm ht ha).map fun p : κ × α =>
        if p.1 = k then (p.1, f p.2) else p
      rw [List.map_cons, if_pos rfl,
        hsame _ fun p hp => (mem_erase.1 hp).2] at hperm
      exact hperm.symm

end Keyed

namespace Statistics

-- ============================================================ executions

/-- What is told to a table. -/
structure Execution where
  sql : String
  elapsed : UInt64
  started : Moment
  deriving DecidableEq, Repr

@[simp] theorem Accumulator.sql_fresh (sql : String) :
    (Accumulator.fresh sql).sql = sql := rfl

@[simp] theorem Accumulator.sql_add (a : Accumulator) (elapsed : UInt64)
    (m : Moment) : (a.add elapsed m).sql = a.sql := rfl

-- ============================================ first in, first out

/-- The accumulators of the texts that are there, the oldest
registration first. -/
abbrev Line := List Accumulator

namespace Line

/-- The SQL texts of a line. -/
def texts (l : Line) : List String := l.map (·.sql)

/-- The line with one more execution of a text that stands in it. -/
def bump (l : Line) (sql : String) (elapsed : UInt64) (m : Moment) : Line :=
  l.map fun a => if a.sql = sql then a.add elapsed m else a

/-- The line with a new text at its end; from a full line the front text
leaves first. -/
def takeIn (capacity : Nat) (l : Line) (sql : String) : Line :=
  (if capacity ≤ l.length then l.tail else l) ++ [.fresh sql]

/-- The line with one more execution, of whatever text. -/
def record (capacity : Nat) (l : Line) (sql : String) (elapsed : UInt64)
    (m : Moment) : Line :=
  (if sql ∈ l.texts then l else l.takeIn capacity sql).bump sql elapsed m

/-- The line of some executions. -/
def filled (capacity : Nat) (xs : List Execution) : Line :=
  xs.foldl (fun l x => l.record capacity x.sql x.elapsed x.started) []

/-- The last execution is recorded last. -/
theorem filled_concat (capacity : Nat) (xs : List Execution) (x : Execution) :
    filled capacity (xs ++ [x])
      = (filled capacity xs).record capacity x.sql x.elapsed x.started := by
  simp [filled]

end Line

-- ========================================================= sorted numbers

namespace Registration

/-- The key and the value under which a registration stands in a table. -/
def entry (e : Registration) : String × Registration :=
  (e.accumulator.sql, e)

/-- The registration after one more execution. -/
def add (e : Registration) (elapsed : UInt64) (m : Moment) : Registration :=
  { e with accumulator := e.accumulator.add elapsed m }

/-- Sorting puts a registration in by its number. -/
theorem insert_eq_orderedInsert (e : Registration) (es : List Registration) :
    insert e es
      = es.orderedInsert (fun e f => e.number ≤ f.number) e := by
  induction es with
  | nil => rfl
  | cons f es ih => rw [insert, List.orderedInsert, ih]

/-- Registrations are sorted by insertion. -/
theorem sort_eq_insertionSort (es : List Registration) :
    sort es = es.insertionSort fun e f => e.number ≤ f.number := by
  induction es with
  | nil => rfl
  | cons e es ih =>
      show insert e (sort es) = _
      rw [ih, insert_eq_orderedInsert, List.insertionSort_cons]

/-- Sorting neither adds nor drops a registration. -/
theorem perm_sort (es : List Registration) : (sort es).Perm es := by
  rw [sort_eq_insertionSort]
  exact List.perm_insertionSort ..

/-- After sorting no number is less than one before it. -/
theorem pairwise_sort (es : List Registration) :
    (sort es).Pairwise fun e f => e.number ≤ f.number := by
  have : Std.Total fun e f : Registration => e.number ≤ f.number :=
    ⟨fun e f => UInt64.le_total e.number f.number⟩
  have : IsTrans Registration fun e f => e.number ≤ f.number :=
    ⟨fun _ _ _ => UInt64.le_trans⟩
  rw [sort_eq_insertionSort]
  exact List.pairwise_insertionSort ..

/-- What is in strict order is what sorting makes of it, whatever order
it is in before. -/
theorem sort_eq_of_perm {es rows : List Registration} (h : es.Perm rows)
    (hrows : rows.Pairwise fun e f => e.number < f.number) :
    sort es = rows := by
  have hne : (rows.map (·.number)).Nodup :=
    List.pairwise_map.2 (hrows.imp UInt64.ne_of_lt)
  have hsort : (sort es).Perm rows := (perm_sort es).trans h
  refine hsort.eq_of_pairwise (fun e f he hf hle hge => ?_)
    (pairwise_sort es) (hrows.imp UInt64.le_of_lt)
  exact List.inj_on_of_nodup_map hne (hsort.subset he) hf
    (UInt64.le_antisymm hle hge)

/-- The registration with the least number is one of them. -/
theorem oldest?_eq_some {es : List Registration} {e : Registration}
    (h : oldest? es = some e) :
    e ∈ es ∧ ∀ f ∈ es, e.number ≤ f.number := by
  induction es generalizing e with
  | nil => cases h
  | cons f es ih =>
      rw [oldest?] at h
      split at h
      · next hnone =>
        obtain rfl := Option.some.inj h
        cases es with
        | nil => simp
        | cons g es =>
            rw [oldest?] at hnone
            split at hnone
            · cases hnone
            · split at hnone <;> cases hnone
      · next g hg =>
        obtain ⟨hmem, hleast⟩ := ih hg
        split at h
        · next hle =>
          obtain rfl := Option.some.inj h
          refine ⟨List.mem_cons_self, fun x hx => ?_⟩
          rcases List.mem_cons.1 hx with rfl | hx
          · exact UInt64.le_refl _
          · exact UInt64.le_trans hle (hleast x hx)
        · next hlt =>
          obtain rfl := Option.some.inj h
          refine ⟨List.mem_cons_of_mem _ hmem, fun x hx => ?_⟩
          rcases List.mem_cons.1 hx with rfl | hx
          · exact UInt64.le_of_lt (UInt64.not_le.1 hlt)
          · exact hleast x hx

/-- Of some registrations one is the oldest. -/
theorem oldest?_cons_isSome (e : Registration) (es : List Registration) :
    (oldest? (e :: es)).isSome := by
  rw [oldest?]
  split
  · rfl
  · split <;> rfl

/-- The head of an ordered list has the least number, in whatever order
the registrations are looked through. -/
theorem oldest?_of_perm {es rows : List Registration} {e : Registration}
    (h : es.Perm (e :: rows))
    (hrows : (e :: rows).Pairwise fun e f => e.number < f.number) :
    oldest? es = some e := by
  obtain ⟨f, hf⟩ : ∃ f, oldest? es = some f := by
    cases es with
    | nil => exact absurd h.length_eq (by simp)
    | cons g es => exact Option.isSome_iff_exists.1 (oldest?_cons_isSome g es)
  obtain ⟨hmem, hleast⟩ := oldest?_eq_some hf
  rcases List.mem_cons.1 (h.subset hmem) with rfl | hmem
  · exact hf
  · have hlt := List.rel_of_pairwise_cons hrows hmem
    have hle := hleast e (h.symm.subset List.mem_cons_self)
    exact absurd hle (UInt64.not_le.2 hlt)

end Registration

namespace Table

/-- Whether `rows` are the registrations of a table in the order of their
numbers, `n` texts having been taken in so far. -/
structure Numbers (t : Table) (n : Nat) (rows : List Registration) :
    Prop where
  perm : t.entries.entries.Perm (rows.map Registration.entry)
  distinct : (rows.map (·.accumulator.sql)).Nodup
  increasing : rows.Pairwise fun e f => e.number < f.number
  issued : ∀ e ∈ rows, e.number.toNat < n
  next : t.next.toNat = n % 2 ^ 64

variable {t : Table} {n : Nat} {rows : List Registration}

namespace Numbers

/-- The values of a table are its registrations. -/
theorem values (h : t.Numbers n rows) : t.entries.values.Perm rows := by
  have hperm := h.perm.map Prod.snd
  rw [List.map_map] at hperm
  exact hperm.trans (.of_eq (List.map_id _))

/-- No text is written twice. -/
theorem keys (h : t.Numbers n rows) : t.entries.Distinct := by
  refine (h.perm.map Prod.fst).nodup_iff.2 ?_
  rw [List.map_map]
  exact h.distinct

/-- The line of a table consists of its registrations in their order. -/
theorem accumulators (h : t.Numbers n rows) :
    t.accumulators = rows.map (·.accumulator) := by
  rw [Table.accumulators,
    Registration.sort_eq_of_perm h.values h.increasing]

/-- A text is looked up among the registrations. -/
theorem find? (h : t.Numbers n rows) (sql : String) :
    t.find? sql = rows.find? (·.accumulator.sql = sql) := by
  cases hfound : rows.find? (·.accumulator.sql = sql) with
  | some e =>
      have hsql : e.accumulator.sql = sql := by
        simpa using List.find?_some hfound
      refine Keyed.get?_of_mem h.keys (h.perm.symm.subset ?_)
      exact List.mem_map.2 ⟨e, List.mem_of_find?_eq_some hfound,
        Prod.ext hsql rfl⟩
  | none =>
      refine Option.eq_none_iff_forall_ne_some.2 fun e he => ?_
      obtain ⟨f, hf, heq⟩ :=
        List.mem_map.1 (h.perm.subset (Keyed.mem_of_get? he))
      refine List.find?_eq_none.1 hfound f hf ?_
      rw [decide_eq_true_eq]
      exact congrArg Prod.fst heq

/-- A text is found if it is among the registrations. -/
theorem isSome_find? (h : t.Numbers n rows) (sql : String) :
    (t.find? sql).isSome
      = decide (sql ∈ rows.map (·.accumulator.sql)) := by
  rw [h.find?, Bool.eq_iff_iff, List.find?_isSome, decide_eq_true_iff]
  simp

/-- A table has as many texts as registrations. -/
theorem size (h : t.Numbers n rows) : t.size = rows.length :=
  h.values.length_eq

/-- Another execution of a text changes its figures and no number. -/
theorem bump (h : t.Numbers n rows) (sql : String) (elapsed : UInt64)
    (m : Moment) :
    (t.bump sql elapsed m).Numbers n (rows.map fun e =>
      if e.accumulator.sql = sql then e.add elapsed m else e) := by
  have hsql : ∀ e : Registration, (if e.accumulator.sql = sql
      then e.add elapsed m else e).accumulator.sql = e.accumulator.sql :=
    fun e => by split <;> rfl
  have hnumber : ∀ e : Registration, (if e.accumulator.sql = sql
      then e.add elapsed m else e).number = e.number :=
    fun e => by split <;> rfl
  refine ⟨?_, ?_, ?_, fun e he => ?_, h.next⟩
  · refine ((Keyed.modify_perm h.keys sql _).trans (h.perm.map _)).trans
      (.of_eq ?_)
    rw [List.map_map, List.map_map]
    refine List.map_congr_left fun e _ => ?_
    show (if e.accumulator.sql = sql then _ else _)
      = ((if e.accumulator.sql = sql then _ else _ : Registration)).entry
    split <;> rfl
  · rw [List.map_map]
    simp only [Function.comp_def, hsql]
    exact h.distinct
  · rw [List.pairwise_map]
    simp only [hnumber]
    exact h.increasing
  · obtain ⟨f, hf, rfl⟩ := List.mem_map.1 he
    rw [hnumber]
    exact h.issued f hf

/-- What stays when a new text is taken in is what stays in the line. -/
theorem kept (h : t.Numbers n rows) :
    t.kept.entries.Perm ((if t.capacity ≤ rows.length then rows.tail
      else rows).map Registration.entry) := by
  unfold Table.kept
  rw [h.size]
  split
  · cases rows with
    | nil =>
        have hnil := h.perm.eq_nil
        rw [Keyed.values, hnil]
        exact .of_eq hnil
    | cons e rows =>
        rw [Registration.oldest?_of_perm h.values h.increasing]
        -- all texts behind the head differ from that of the head
        have hne : ∀ f ∈ rows, f.accumulator.sql ≠ e.accumulator.sql :=
          fun f hf he => (List.nodup_cons.1 h.distinct).1
            (List.mem_map.2 ⟨f, hf, he⟩)
        refine (h.perm.filter fun p => p.1 ≠ e.accumulator.sql).trans
          (.of_eq ?_)
        rw [List.map_cons, List.filter_cons_of_neg (by
          simp [Registration.entry])]
        refine List.filter_eq_self.2 fun p hp => ?_
        obtain ⟨f, hf, rfl⟩ := List.mem_map.1 hp
        exact decide_eq_true (hne f hf)
  · exact h.perm

/-- A new text gets the greatest number. -/
theorem register (h : t.Numbers n rows) (hn : n < 2 ^ 64) {sql : String}
    (hnew : sql ∉ rows.map (·.accumulator.sql)) :
    (t.register sql).Numbers (n + 1)
      ((if t.capacity ≤ rows.length then rows.tail else rows)
        ++ [⟨t.next, .fresh sql⟩]) := by
  have hnext : t.next.toNat = n := h.next.trans (Nat.mod_eq_of_lt hn)
  have hkept := h.kept
  have hsub : List.Sublist
      (if t.capacity ≤ rows.length then rows.tail else rows) rows := by
    split
    · exact List.tail_sublist _
    · exact .refl _
  generalize (if t.capacity ≤ rows.length then rows.tail else rows) = stay
    at hkept hsub ⊢
  have hout : sql ∉ stay.map (·.accumulator.sql) := fun hin =>
    hnew ((hsub.map _).subset hin)
  refine ⟨?_, ?_, ?_, fun e he => ?_, ?_⟩
  · have herase : t.kept.erase sql = t.kept :=
      Keyed.erase_eq_self fun p hp he => hout <| by
        obtain ⟨f, hf, rfl⟩ := List.mem_map.1 (hkept.subset hp)
        exact List.mem_map.2 ⟨f, hf, he⟩
    show (_ :: (t.kept.erase sql).entries).Perm _
    rw [herase, List.map_append]
    exact (hkept.cons _).trans (List.perm_append_singleton ..).symm
  · rw [List.map_append]
    exact (h.distinct.sublist (hsub.map _)).append (List.nodup_singleton _)
      (by simpa using hout)
  · refine List.pairwise_append.2 ⟨h.increasing.sublist hsub,
      List.pairwise_singleton _ _, fun e he f hf => ?_⟩
    rw [List.mem_singleton.1 hf, UInt64.lt_iff_toNat_lt, hnext]
    exact h.issued e (hsub.subset he)
  · rcases List.mem_append.1 he with he | he
    · exact Nat.lt_succ_of_lt (h.issued e (hsub.subset he))
    · rw [List.mem_singleton.1 he, hnext]
      exact Nat.lt_succ_self n
  · show (t.next + 1).toNat = _
    rw [UInt64.toNat_add, h.next]
    exact Nat.mod_add_mod ..

/-- Recording an execution in a table is recording it in its line. -/
theorem record (h : t.Numbers n rows) (hn : n < 2 ^ 64) (sql : String)
    (elapsed : UInt64) (m : Moment) :
    ∃ n' rows', n' ≤ n + 1 ∧ (t.record sql elapsed m).Numbers n' rows'
      ∧ rows'.map (·.accumulator) = Line.record t.capacity
        (rows.map (·.accumulator)) sql elapsed m := by
  have htexts : Line.texts (rows.map (·.accumulator))
      = rows.map (·.accumulator.sql) := List.map_map
  have hbump : ∀ rows : List Registration,
      (rows.map fun e => if e.accumulator.sql = sql then e.add elapsed m
        else e).map (·.accumulator)
      = Line.bump (rows.map (·.accumulator)) sql elapsed m := by
    intro rows
    rw [Line.bump, List.map_map, List.map_map]
    refine List.map_congr_left fun e _ => ?_
    show (if e.accumulator.sql = sql then _ else _ : Registration).accumulator
      = if e.accumulator.sql = sql then _ else _
    split <;> rfl
  rw [Table.record, Line.record, htexts, h.isSome_find?]
  by_cases hin : sql ∈ rows.map (·.accumulator.sql)
  · rw [if_pos (decide_eq_true hin), if_pos hin]
    exact ⟨n, _, Nat.le_succ n, h.bump sql elapsed m, hbump rows⟩
  · rw [if_neg (by simpa using hin), if_neg hin]
    refine ⟨n + 1, _, Nat.le_refl _, (h.register hn hin).bump sql elapsed m,
      ?_⟩
    rw [hbump, Line.takeIn, List.length_map]
    split <;> simp

end Numbers

-- ============================================================ whole runs

/-- The table of a pool after some executions. -/
def filled (pool : PoolId) (maxQueries : Nat) (xs : List Execution) : Table :=
  xs.foldl (fun t x => t.record x.sql x.elapsed x.started)
    (.create pool maxQueries)

/-- The last execution is recorded last. -/
theorem filled_concat (pool : PoolId) (maxQueries : Nat) (xs : List Execution)
    (x : Execution) :
    filled pool maxQueries (xs ++ [x])
      = (filled pool maxQueries xs).record x.sql x.elapsed x.started := by
  simp [filled]

/-- Recording leaves the limit as it is. -/
theorem maxQueries_record (t : Table) (sql : String) (elapsed : UInt64)
    (m : Moment) : (t.record sql elapsed m).maxQueries = t.maxQueries := by
  simp only [record, bump]
  split <;> rfl

/-- Recording leaves the room of a table as it is. -/
theorem capacity_filled (pool : PoolId) (maxQueries : Nat)
    (xs : List Execution) :
    (filled pool maxQueries xs).capacity = max 1 maxQueries := by
  have hmax : (filled pool maxQueries xs).maxQueries = maxQueries := by
    induction xs using List.reverseRecOn with
    | nil => rfl
    | append_singleton xs x ih => rw [filled_concat, maxQueries_record, ih]
  rw [capacity, hmax]

variable (pool : PoolId) (maxQueries : Nat) {xs : List Execution}

/-- Until a number comes round, the registrations of a table stand in the
order in which the line has them. -/
theorem numbers_filled (h : xs.length ≤ 2 ^ 64) :
    ∃ n rows, n ≤ xs.length ∧ (filled pool maxQueries xs).Numbers n rows
      ∧ rows.map (·.accumulator) = Line.filled (max 1 maxQueries) xs := by
  induction xs using List.reverseRecOn with
  | nil =>
      exact ⟨0, [], Nat.le_refl _, ⟨.refl _, List.nodup_nil, .nil, nofun, rfl⟩,
        rfl⟩
  | append_singleton xs x ih =>
      rw [List.length_append, List.length_singleton] at h
      obtain ⟨n, rows, hn, hnumbers, hline⟩ := ih (Nat.le_of_succ_le h)
      obtain ⟨n', rows', hn', hnumbers', hline'⟩ := hnumbers.record
        (Nat.lt_of_le_of_lt hn h) x.sql x.elapsed x.started
      refine ⟨n', rows', ?_, filled_concat .. ▸ hnumbers', ?_⟩
      · rw [List.length_append, List.length_singleton]
        omega
      · rw [hline', hline, capacity_filled, ← Line.filled_concat]

/-- A table is a bounded line of accumulators, first in, first out, as
long as no number comes round. -/
theorem accumulators_filled (h : xs.length ≤ 2 ^ 64) :
    (filled pool maxQueries xs).accumulators
      = Line.filled (max 1 maxQueries) xs := by
  obtain ⟨n, rows, -, hnumbers, hline⟩ := numbers_filled pool maxQueries h
  rw [hnumbers.accumulators, hline]

/-- A text is looked up in that line. -/
theorem find?_filled (h : xs.length ≤ 2 ^ 64) (sql : String) :
    ((filled pool maxQueries xs).find? sql).map (·.accumulator)
      = (Line.filled (max 1 maxQueries) xs).find? (·.sql = sql) := by
  obtain ⟨n, rows, -, hnumbers, hline⟩ := numbers_filled pool maxQueries h
  rw [← hline, hnumbers.find?, List.find?_map]
  rfl

/-- There are as many texts as stand in the line. -/
theorem size_filled (h : xs.length ≤ 2 ^ 64) :
    (filled pool maxQueries xs).size
      = (Line.filled (max 1 maxQueries) xs).length := by
  obtain ⟨n, rows, -, hnumbers, hline⟩ := numbers_filled pool maxQueries h
  rw [← hline, List.length_map, hnumbers.size]

end Table

end Statistics

end PooledChain
