/-
What a table says about the executions that were recorded in it.

A table is a line of texts (`Table.accumulators_filled`). A text enters
it at its end and stays in its place, until so many newer texts have come
that it is the oldest one in a full line; when it comes back, it starts
anew. So the executions that count for a text are those since it was last
taken in (`Line.Since`), and its figures are their number, their sum in
64 bits, and their extremes, each with the start of the last execution
that attained it (`Summary.Sums`).

An accumulator begins with the greatest word as its least time. That
does no harm: an execution that took that long replaces it by itself,
and an accumulator has always seen one (`Accumulator.sums_addAll`).

A start is kept as a number of milliseconds. A leap second has no such
number of its own and is counted into the second after it, which for
the last second of the calendar is a moment that cannot be shown
(`Moment.shown?`).
-/
import PooledChain.Proofs.Numbering

namespace PooledChain.Statistics

-- ================================================== moments as shown

namespace Moment

/-- The moment without what is shorter than a millisecond. -/
def cut (m : Moment) : Moment :=
  ⟨m.seconds, m.nanoseconds / 1000000 * 1000000⟩

/-- The moment with a leap second counted into the second after it. -/
def settled (m : Moment) : Moment :=
  ⟨m.seconds + (m.nanoseconds / 1000000000 : Nat), m.nanoseconds % 1000000000⟩

/-- The moment as figures show it, if the calendar reaches it. -/
def shown? (m : Moment) : Option Moment :=
  let c := m.settled.cut
  if firstSecond ≤ c.seconds ∧ c.seconds ≤ lastSecond then some c else none

/-- Counting in milliseconds cuts a moment, and settles a leap second. -/
theorem ofMilliseconds_milliseconds (m : Moment) :
    ofMilliseconds m.milliseconds = m.settled.cut := by
  simp only [ofMilliseconds, milliseconds, settled, cut, Moment.mk.injEq,
    Int.fdiv_eq_ediv_of_nonneg _ (show (0 : Int) ≤ 1000 by decide),
    Int.fmod_eq_emod_of_nonneg _ (show (0 : Int) ≤ 1000 by decide)]
  omega

/-- What was kept as milliseconds is read back as the moment shown. -/
theorem ofMilliseconds?_milliseconds (m : Moment) :
    ofMilliseconds? m.milliseconds = m.shown? := by
  simp only [ofMilliseconds?, shown?, ofMilliseconds_milliseconds]

/-- Outside leap seconds, a moment of the calendar is only cut. -/
theorem shown?_eq_cut {m : Moment} (h : m.nanoseconds < 1000000000)
    (hfirst : firstSecond ≤ m.seconds) (hlast : m.seconds ≤ lastSecond) :
    m.shown? = some m.cut := by
  have hsettled : m.settled = m := by
    simp only [settled, Nat.div_eq_of_lt h, Nat.mod_eq_of_lt h]
    simp
  rw [shown?, hsettled]
  exact if_pos ⟨hfirst, hlast⟩

end Moment

-- ========================================================= executions

/-- The executions of one text. -/
def executionsOf (sql : String) (xs : List Execution) : List Execution :=
  xs.filter (·.sql = sql)

theorem executionsOf_concat_self (xs : List Execution) (x : Execution) :
    executionsOf x.sql (xs ++ [x]) = executionsOf x.sql xs ++ [x] := by
  simp [executionsOf]

theorem executionsOf_concat_of_ne {sql : String} {x : Execution}
    (h : sql ≠ x.sql) (xs : List Execution) :
    executionsOf sql (xs ++ [x]) = executionsOf sql xs := by
  simp [executionsOf, h.symm]

/-- Whether `x` is the last of the executions that took `elapsed`. -/
def IsLastOf (xs : List Execution) (elapsed : UInt64) (x : Execution) : Prop :=
  ∃ older newer, xs = older ++ x :: newer ∧ x.elapsed = elapsed
    ∧ ∀ y ∈ newer, y.elapsed ≠ elapsed

/-- The last one stays the last while others take another time. -/
theorem IsLastOf.concat {xs : List Execution} {elapsed : UInt64}
    {x y : Execution} (h : IsLastOf xs elapsed x) (hy : y.elapsed ≠ elapsed) :
    IsLastOf (xs ++ [y]) elapsed x := by
  obtain ⟨older, newer, rfl, hx, hnewer⟩ := h
  refine ⟨older, newer ++ [y], by simp, hx, fun z hz => ?_⟩
  rcases List.mem_append.1 hz with hz | hz
  · exact hnewer z hz
  · rwa [List.mem_singleton.1 hz]

/-- The latest execution is the last one of those that took as long. -/
theorem isLastOf_concat (xs : List Execution) (x : Execution) :
    IsLastOf (xs ++ [x]) x.elapsed x :=
  ⟨xs, [], rfl, rfl, nofun⟩

/-- Whether figures sum up some executions, when the start of an
execution is shown as `shown` says. -/
structure Summary.Sums (s : Summary) (shown : Moment → Option Moment)
    (xs : List Execution) : Prop where
  count : s.count.toNat = xs.length
  total : s.totalMs.toNat = (xs.map (·.elapsed.toNat)).sum % 2 ^ 64
  least : ∀ x ∈ xs, s.minMs ≤ x.elapsed
  leastAt : ∃ x, IsLastOf xs s.minMs x ∧ s.minAt = shown x.started
  greatest : ∀ x ∈ xs, x.elapsed ≤ s.maxMs
  greatestAt : ∃ x, IsLastOf xs s.maxMs x ∧ s.maxAt = shown x.started

-- ======================================================= one SQL text

namespace Accumulator

/-- The accumulator after some executions. -/
def addAll (a : Accumulator) (xs : List Execution) : Accumulator :=
  xs.foldl (fun a x => a.add x.elapsed x.started) a

@[simp] theorem addAll_concat (a : Accumulator) (xs : List Execution)
    (x : Execution) :
    a.addAll (xs ++ [x]) = (a.addAll xs).add x.elapsed x.started := by
  simp [addAll]

/-- What the fields of an accumulator hold after some executions. -/
structure Sums (a : Accumulator) (xs : List Execution) : Prop where
  count : a.count.toNat = xs.length % 2 ^ 64
  total : a.totalMs.toNat = (xs.map (·.elapsed.toNat)).sum % 2 ^ 64
  least : ∀ x ∈ xs, a.minMs ≤ x.elapsed
  leastAt : ∃ x, IsLastOf xs a.minMs x ∧ a.minAt = x.started.milliseconds
  greatest : ∀ x ∈ xs, x.elapsed ≤ a.maxMs
  greatestAt : ∃ x, IsLastOf xs a.maxMs x ∧ a.maxAt = x.started.milliseconds

variable {a : Accumulator} {xs : List Execution}

/-- An execution is the fastest one, or the extreme stays. -/
theorem least_add (a : Accumulator) (elapsed : UInt64) (m : Moment) :
    (elapsed ≤ a.minMs ∧ (a.add elapsed m).minMs = elapsed
        ∧ (a.add elapsed m).minAt = m.milliseconds)
      ∨ (a.minMs < elapsed ∧ (a.add elapsed m).minMs = a.minMs
        ∧ (a.add elapsed m).minAt = a.minAt) := by
  by_cases h : elapsed ≤ a.minMs
  · refine .inl ⟨h, ?_, if_pos h⟩
    show (if a.minMs ≤ elapsed then a.minMs else elapsed) = elapsed
    split
    · next hle => exact UInt64.le_antisymm hle h
    · rfl
  · have hlt := UInt64.not_le.1 h
    exact .inr ⟨hlt, if_pos (UInt64.le_of_lt hlt), if_neg h⟩

/-- An execution is the slowest one, or the extreme stays. -/
theorem greatest_add (a : Accumulator) (elapsed : UInt64) (m : Moment) :
    (a.maxMs ≤ elapsed ∧ (a.add elapsed m).maxMs = elapsed
        ∧ (a.add elapsed m).maxAt = m.milliseconds)
      ∨ (elapsed < a.maxMs ∧ (a.add elapsed m).maxMs = a.maxMs
        ∧ (a.add elapsed m).maxAt = a.maxAt) := by
  by_cases h : a.maxMs ≤ elapsed
  · exact .inl ⟨h, if_pos h, if_pos h⟩
  · exact .inr ⟨UInt64.not_le.1 h, if_neg h, if_neg h⟩

/-- Every execution is at most as long as the least time of a fresh
accumulator. -/
theorem le_minMs_fresh (sql : String) (elapsed : UInt64) :
    elapsed ≤ (fresh sql).minMs := by
  have h := elapsed.toNat_lt
  simp only [fresh, UInt64.le_iff_toNat_le, UInt64.reduceToNat]
  omega

/-- Every execution is at least as long as its greatest time. -/
theorem maxMs_fresh_le (sql : String) (elapsed : UInt64) :
    (fresh sql).maxMs ≤ elapsed :=
  UInt64.le_iff_toNat_le.2 (by simp [fresh])

/-- The first execution gives both extremes, whatever it took. -/
theorem sums_first (sql : String) (x : Execution) :
    ((fresh sql).add x.elapsed x.started).Sums [x] := by
  obtain ⟨-, hmin, hminAt⟩ | ⟨hlt, -⟩ :=
    least_add (fresh sql) x.elapsed x.started
  · obtain ⟨-, hmax, hmaxAt⟩ | ⟨hlt, -⟩ :=
      greatest_add (fresh sql) x.elapsed x.started
    · exact
        { count := by simp [add, fresh]
          total := by simp [add, fresh]
          least := by simp [hmin]
          leastAt := ⟨x, by rw [hmin]; exact isLastOf_concat [] x, hminAt⟩
          greatest := by simp [hmax]
          greatestAt := ⟨x, by rw [hmax]; exact isLastOf_concat [] x, hmaxAt⟩ }
    · exact absurd (maxMs_fresh_le sql x.elapsed) (UInt64.not_le.2 hlt)
  · exact absurd (le_minMs_fresh sql x.elapsed) (UInt64.not_le.2 hlt)

/-- One more execution is summed up with the others. -/
theorem Sums.add (h : a.Sums xs) (x : Execution) :
    (a.add x.elapsed x.started).Sums (xs ++ [x]) := by
  have hboth : ∀ {P : Execution → Prop}, (∀ y ∈ xs, P y) → P x →
      ∀ y ∈ xs ++ [x], P y := fun hxs hx y hy =>
    (List.mem_append.1 hy).elim (hxs y) fun hy => List.mem_singleton.1 hy ▸ hx
  have hleast : (∀ y ∈ xs ++ [x], (a.add x.elapsed x.started).minMs ≤ y.elapsed)
      ∧ ∃ y, IsLastOf (xs ++ [x]) (a.add x.elapsed x.started).minMs y
        ∧ (a.add x.elapsed x.started).minAt = y.started.milliseconds := by
    obtain ⟨hle, hmin, hat⟩ | ⟨hlt, hmin, hat⟩ :=
      least_add a x.elapsed x.started
    · rw [hmin, hat]
      exact ⟨hboth (fun y hy => UInt64.le_trans hle (h.least y hy))
        (UInt64.le_refl _), x, isLastOf_concat xs x, rfl⟩
    · obtain ⟨y, hy, hyat⟩ := h.leastAt
      rw [hmin, hat]
      exact ⟨hboth h.least (UInt64.le_of_lt hlt), y,
        hy.concat (UInt64.ne_of_lt hlt).symm, hyat⟩
  have hgreatest : (∀ y ∈ xs ++ [x], y.elapsed ≤ (a.add x.elapsed x.started).maxMs)
      ∧ ∃ y, IsLastOf (xs ++ [x]) (a.add x.elapsed x.started).maxMs y
        ∧ (a.add x.elapsed x.started).maxAt = y.started.milliseconds := by
    obtain ⟨hle, hmax, hat⟩ | ⟨hlt, hmax, hat⟩ :=
      greatest_add a x.elapsed x.started
    · rw [hmax, hat]
      exact ⟨hboth (fun y hy => UInt64.le_trans (h.greatest y hy) hle)
        (UInt64.le_refl _), x, isLastOf_concat xs x, rfl⟩
    · obtain ⟨y, hy, hyat⟩ := h.greatestAt
      rw [hmax, hat]
      exact ⟨hboth h.greatest (UInt64.le_of_lt hlt), y,
        hy.concat (UInt64.ne_of_lt hlt), hyat⟩
  refine
    { count := ?_, total := ?_
      least := hleast.1, leastAt := hleast.2
      greatest := hgreatest.1, greatestAt := hgreatest.2 }
  · show (a.count + 1).toNat = _
    rw [UInt64.toNat_add, h.count, List.length_append]
    exact Nat.mod_add_mod ..
  · show (a.totalMs + x.elapsed).toNat = _
    rw [UInt64.toNat_add, h.total]
    simp

/-- What the figures of one text sum up, if there was an execution. -/
theorem sums_addAll (sql : String) (h : xs ≠ []) :
    ((fresh sql).addAll xs).Sums xs := by
  induction xs using List.reverseRecOn with
  | nil => exact absurd rfl h
  | append_singleton xs x ih =>
      rw [addAll_concat]
      rcases xs.eq_nil_or_concat with rfl | hxs
      · exact sums_first sql x
      · exact (ih (by rintro rfl; simp at hxs)).add x

/-- The figures shown sum up what the accumulator has seen, as long as
the executions can be counted. -/
theorem Sums.summary (h : a.Sums xs) (hxs : xs ≠ []) (hlen : xs.length < 2 ^ 64) :
    a.summary.Sums Moment.shown? xs := by
  have hcount : a.count.toNat = xs.length := by
    rw [h.count, Nat.mod_eq_of_lt hlen]
  have hpos : 0 < a.count := by
    rw [UInt64.lt_iff_toNat_lt, hcount]
    exact List.length_pos_iff.2 hxs
  have hmin : a.summary.minMs = a.minMs := if_pos (decide_eq_true hpos)
  obtain ⟨y, hy, hyat⟩ := h.leastAt
  obtain ⟨z, hz, hzat⟩ := h.greatestAt
  refine
    { count := hcount, total := h.total
      least := fun x hx => hmin ▸ h.least x hx
      leastAt := ⟨y, hmin ▸ hy, ?_⟩
      greatest := h.greatest
      greatestAt := ⟨z, hz, ?_⟩ }
  · rw [← Moment.ofMilliseconds?_milliseconds, ← hyat]
    exact if_pos (decide_eq_true hpos)
  · rw [← Moment.ofMilliseconds?_milliseconds, ← hzat]
    exact if_pos (decide_eq_true hpos)

end Accumulator

-- ============================================================ one line

namespace Line

variable {capacity : Nat} {l : Line} {xs : List Execution}

@[simp] theorem length_texts (l : Line) : l.texts.length = l.length :=
  List.length_map ..

@[simp] theorem texts_bump (l : Line) (sql : String) (elapsed : UInt64)
    (m : Moment) : (l.bump sql elapsed m).texts = l.texts := by
  simp only [texts, bump, List.map_map]
  refine List.map_congr_left fun a _ => ?_
  simp only [Function.comp]
  split <;> rfl

/-- A new text stands at the end. -/
theorem texts_takeIn (capacity : Nat) (l : Line) (sql : String) :
    (l.takeIn capacity sql).texts
      = (if capacity ≤ l.texts.length then l.texts.tail else l.texts)
        ++ [sql] := by
  rw [texts, takeIn, List.map_append, length_texts]
  congr 1
  by_cases h : capacity ≤ l.length
  · rw [if_pos h, if_pos h, texts]
    exact List.map_tail
  · rw [if_neg h, if_neg h]
    rfl

/-- A text that is there stays where it is; a new one goes to the end,
in a full line in the place of the oldest one. -/
theorem texts_record (capacity : Nat) (l : Line) (sql : String)
    (elapsed : UInt64) (m : Moment) :
    (l.record capacity sql elapsed m).texts
      = if sql ∈ l.texts then l.texts
        else (if capacity ≤ l.texts.length then l.texts.tail else l.texts)
          ++ [sql] := by
  rw [record, texts_bump]
  split
  · rfl
  · exact texts_takeIn ..

/-- Where the figures of a text come from when another execution is
recorded: the text was there, or is new and has this execution alone. -/
theorem mem_record {sql : String} {elapsed : UInt64} {m : Moment}
    {b : Accumulator} (hb : b ∈ l.record capacity sql elapsed m) :
    (∃ a ∈ l, b = if a.sql = sql then a.add elapsed m else a)
      ∨ (sql ∉ l.texts ∧ b = (Accumulator.fresh sql).add elapsed m) := by
  obtain ⟨a, ha, rfl⟩ := List.mem_map.1 hb
  by_cases h : sql ∈ l.texts
  · rw [if_pos h] at ha
    exact .inl ⟨a, ha, rfl⟩
  · rw [if_neg h, takeIn] at ha
    rcases List.mem_append.1 ha with ha | ha
    · refine .inl ⟨a, ?_, rfl⟩
      split at ha
      · exact List.mem_of_mem_tail ha
      · exact ha
    · rw [List.mem_singleton.1 ha]
      exact .inr ⟨h, if_pos rfl⟩

/-- The texts after one more execution. -/
theorem texts_filled_concat (capacity : Nat) (xs : List Execution)
    (x : Execution) :
    (filled capacity (xs ++ [x])).texts
      = if x.sql ∈ (filled capacity xs).texts
        then (filled capacity xs).texts
        else (if capacity ≤ (filled capacity xs).texts.length
          then (filled capacity xs).texts.tail
          else (filled capacity xs).texts) ++ [x.sql] := by
  rw [filled_concat, texts_record]

/-- No text stands twice in a line, and there are no more of them than
it has room for. -/
theorem texts_filled_bounded (hroom : 1 ≤ capacity) (xs : List Execution) :
    (filled capacity xs).texts.Nodup
      ∧ (filled capacity xs).texts.length ≤ capacity := by
  induction xs using List.reverseRecOn with
  | nil => exact ⟨List.nodup_nil, Nat.zero_le _⟩
  | append_singleton xs x ih =>
      obtain ⟨hnodup, hlen⟩ := ih
      rw [texts_filled_concat]
      split
      · exact ⟨hnodup, hlen⟩
      · next hx =>
          have hkept : ∀ l : List String, l.Nodup → x.sql ∉ l →
              (l ++ [x.sql]).Nodup := fun l hl hxl =>
            hl.append (List.nodup_singleton _) (by simpa using hxl)
          split
          · refine ⟨hkept _ hnodup.tail fun h => hx (List.mem_of_mem_tail h), ?_⟩
            simp only [List.length_append, List.length_tail,
              List.length_singleton]
            omega
          · refine ⟨hkept _ hnodup hx, ?_⟩
            simp only [List.length_append, List.length_singleton]
            omega

/-- The last of some executions are those since a text was taken in:
before them it was not there, and from the first of them on it was. -/
def Since (capacity : Nat) (xs : List Execution) (sql : String)
    (since : List Execution) : Prop :=
  ∃ before, xs = before ++ since
    ∧ sql ∉ (filled capacity before).texts
    ∧ ∀ p, p <+: since → p ≠ [] →
      sql ∈ (filled capacity (before ++ p)).texts

/-- Another execution counts for a text that is still there. -/
theorem Since.concat {sql : String} {since : List Execution} {x : Execution}
    (h : Since capacity xs sql since)
    (hx : sql ∈ (filled capacity (xs ++ [x])).texts) :
    Since capacity (xs ++ [x]) sql (since ++ [x]) := by
  obtain ⟨before, rfl, hnew, hstay⟩ := h
  refine ⟨before, by simp, hnew, fun p hp hne => ?_⟩
  rcases List.prefix_concat_iff.1 hp with rfl | hp
  · simpa using hx
  · exact hstay p hp hne

/-- A text that is new is there since the execution that brought it. -/
theorem since_new {x : Execution}
    (hnew : x.sql ∉ (filled capacity xs).texts)
    (hx : x.sql ∈ (filled capacity (xs ++ [x])).texts) :
    Since capacity (xs ++ [x]) x.sql [x] := by
  refine ⟨xs, rfl, hnew, fun p hp hne => ?_⟩
  rcases List.prefix_concat_iff.1 (show p <+: [] ++ [x] from hp) with rfl | hp
  · exact hx
  · exact absurd (List.prefix_nil.1 hp) hne

/-- The figures of each text are made of its executions since it was
taken in. -/
theorem exists_since {a : Accumulator} (ha : a ∈ filled capacity xs) :
    ∃ since, Since capacity xs a.sql since
      ∧ executionsOf a.sql since ≠ []
      ∧ a = (Accumulator.fresh a.sql).addAll (executionsOf a.sql since) := by
  induction xs using List.reverseRecOn generalizing a with
  | nil => cases ha
  | append_singleton xs x ih =>
      have hin : a.sql ∈ (filled capacity (xs ++ [x])).texts :=
        List.mem_map_of_mem ha
      rw [filled_concat] at ha
      obtain ⟨b, hb, rfl⟩ | ⟨hnew, rfl⟩ := mem_record ha
      · obtain ⟨since, hsince, hne, heq⟩ := ih hb
        by_cases hx : b.sql = x.sql
        · rw [if_pos hx, Accumulator.sql_add] at hin ⊢
          refine ⟨since ++ [x], hsince.concat hin, ?_⟩
          rw [hx, executionsOf_concat_self, Accumulator.addAll_concat, ← hx,
            ← heq]
          exact ⟨by simp, rfl⟩
        · rw [if_neg hx] at hin ⊢
          refine ⟨since ++ [x], hsince.concat hin, ?_⟩
          rw [executionsOf_concat_of_ne hx]
          exact ⟨hne, heq⟩
      · rw [Accumulator.sql_add] at hin ⊢
        refine ⟨[x], since_new hnew hin, ?_⟩
        show executionsOf x.sql ([] ++ [x]) ≠ [] ∧ _
          = (Accumulator.fresh x.sql).addAll (executionsOf x.sql ([] ++ [x]))
        rw [executionsOf_concat_self]
        exact ⟨List.append_ne_nil_of_right_ne_nil _ (List.cons_ne_nil x []), rfl⟩

end Line

-- ========================================================= the figures

namespace Table

variable {pool : PoolId} {maxQueries : Nat} {xs : List Execution}

/-- The SQL texts of a table, oldest registration first. -/
def texts (t : Table) : List String := t.accumulators.map (·.sql)

/-- The last of some executions are those since a text was taken in:
before them it was not there, and from the first of them on it was. -/
def Since (pool : PoolId) (maxQueries : Nat) (xs : List Execution)
    (sql : String) (since : List Execution) : Prop :=
  ∃ before, xs = before ++ since
    ∧ sql ∉ (filled pool maxQueries before).texts
    ∧ ∀ p, p <+: since → p ≠ [] →
      sql ∈ (filled pool maxQueries (before ++ p)).texts

/-- Whether the figures of a table are those of the executions recorded
in it, when the start of an execution is shown as `shown` says: a text
that is there keeps its place, a new one goes to the end and takes, in a
full table, the room of the front one; a look-up finds the text among
all figures; and the figures of a text sum up its executions since it
was taken in last. -/
structure Accounts (shown : Moment → Option Moment) (pool : PoolId)
    (maxQueries : Nat) (xs : List Execution) : Prop where
  /-- Numbers are words, so the order of the texts is told for as long as
  no number comes round. -/
  order : ∀ ys x, ys.length < 2 ^ 64 →
    let texts := (filled pool maxQueries ys).summaries.map (·.sql)
    (filled pool maxQueries (ys ++ [x])).summaries.map (·.sql)
      = if x.sql ∈ texts then texts
        else (if max 1 maxQueries ≤ texts.length then texts.tail else texts)
          ++ [x.sql]
  distinct : ((filled pool maxQueries xs).summaries.map (·.sql)).Nodup
  bounded : (filled pool maxQueries xs).size ≤ max 1 maxQueries
  found : ∀ sql, (filled pool maxQueries xs).get? sql
    = (filled pool maxQueries xs).summaries.find? (·.sql = sql)
  figures : ∀ s ∈ (filled pool maxQueries xs).summaries, ∃ since,
    Since pool maxQueries xs s.sql since
      ∧ s.Sums shown (executionsOf s.sql since)

theorem sql_summaries (t : Table) : t.summaries.map (·.sql) = t.texts := by
  simp only [summaries, texts, List.map_map]
  rfl

/-- The texts of a table are those of its line. -/
theorem texts_filled (h : xs.length ≤ 2 ^ 64) :
    (filled pool maxQueries xs).texts
      = (Line.filled (max 1 maxQueries) xs).texts := by
  rw [texts, accumulators_filled pool maxQueries h, Line.texts]

/-- Since when a text is there is the same in a table and its line. -/
theorem since_of_line {sql : String} {since : List Execution}
    (h : xs.length ≤ 2 ^ 64)
    (hsince : Line.Since (max 1 maxQueries) xs sql since) :
    Since pool maxQueries xs sql since := by
  obtain ⟨before, rfl, hnew, hstay⟩ := hsince
  rw [List.length_append] at h
  refine ⟨before, rfl, ?_, fun p hp hne => ?_⟩
  · rw [texts_filled (by omega)]
    exact hnew
  · rw [texts_filled]
    · exact hstay p hp hne
    · have hle := hp.length_le
      rw [List.length_append]
      omega

/-- A table is a bounded map of exact figures, first in, first out. For
any executions that can be counted in 64 bits, it accounts for them; a
start is shown as it was, cut to whole milliseconds, but for a leap
second, which is counted into the second after it. -/
theorem tables_account_for_executions (pool : PoolId) (maxQueries : Nat)
    (xs : List Execution) (h : xs.length < 2 ^ 64) :
    Accounts Moment.shown? pool maxQueries xs
      ∧ ∀ m : Moment, m.nanoseconds < 1000000000 →
        Moment.firstSecond ≤ m.seconds → m.seconds ≤ Moment.lastSecond →
        m.shown? = some m.cut := by
  have hle : xs.length ≤ 2 ^ 64 := Nat.le_of_lt h
  obtain ⟨hnodup, hlen⟩ := Line.texts_filled_bounded
    (Nat.le_max_left 1 maxQueries) xs
  refine ⟨?_, fun m => Moment.shown?_eq_cut⟩
  refine
    { order := fun ys x hys => ?_
      distinct := by rw [sql_summaries, texts_filled hle]; exact hnodup
      bounded := by
        rw [size_filled pool maxQueries hle, ← Line.length_texts]
        exact hlen
      found := fun sql => ?_
      figures := fun s hs => ?_ }
  · have hys' : (ys ++ [x]).length ≤ 2 ^ 64 := by
      rw [List.length_append]
      exact hys
    simp only [sql_summaries]
    rw [texts_filled hys', texts_filled (Nat.le_of_lt hys)]
    exact Line.texts_filled_concat ..
  · have hfound := congrArg (Option.map Accumulator.summary)
      (find?_filled pool maxQueries hle sql)
    rw [Option.map_map] at hfound
    rw [summaries, accumulators_filled pool maxQueries hle, List.find?_map]
    exact hfound
  · rw [summaries, accumulators_filled pool maxQueries hle] at hs
    obtain ⟨a, ha, rfl⟩ := List.mem_map.1 hs
    obtain ⟨since, hsince, hne, heq⟩ := Line.exists_since ha
    refine ⟨since, since_of_line hle hsince, ?_⟩
    obtain ⟨before, rfl, -⟩ := hsince
    have hshort : (executionsOf a.sql since).length < 2 ^ 64 := by
      have hle := List.length_filter_le (fun x => decide (x.sql = a.sql)) since
      rw [List.length_append] at h
      exact Nat.lt_of_le_of_lt hle (by omega)
    have hsums := Accumulator.sums_addAll a.sql hne
    rw [← heq] at hsums
    exact hsums.summary hne hshort

/-- In a table for two texts the third one takes the place of the first,
which then starts anew; of two executions that took the least time the
later one gives the start. -/
theorem third_text_takes_the_first_place :
    let xs : List Execution := [⟨"a", 5, ⟨1, 0⟩⟩, ⟨"b", 1, ⟨2, 0⟩⟩,
      ⟨"b", 18446744073709551615, ⟨3, 0⟩⟩, ⟨"b", 1, ⟨4, 1999999⟩⟩,
      ⟨"c", 0, ⟨5, 0⟩⟩, ⟨"a", 7, ⟨6, 0⟩⟩]
    xs.length < 2 ^ 64
      ∧ Accounts Moment.shown? 0 2 xs
      ∧ (filled 0 2 xs).counts = [("c", 1), ("a", 1)]
      ∧ (filled 0 2 (xs.take 4)).get? "b" = some
        ⟨"b", 3, 1, 1, some ⟨4, 1000000⟩, 18446744073709551615, some ⟨3, 0⟩⟩ := by
  intro xs
  exact ⟨by decide, (tables_account_for_executions 0 2 xs (by decide)).1,
    by decide +kernel, by decide +kernel⟩

/-- A leap second is not shown as it was: an execution that started half
a second into it is shown half a second into the next minute. -/
theorem leap_second_is_not_only_cut :
    let x : Execution := ⟨"a", 1, ⟨59, 1500000000⟩⟩
    (filled 0 10 [x]).get? "a" = some
        ⟨"a", 1, 1, 1, some ⟨60, 500000000⟩, 1, some ⟨60, 500000000⟩⟩
      ∧ ¬ ∀ (pool : PoolId) (maxQueries : Nat) (xs : List Execution),
        xs.length < 2 ^ 64 →
          Accounts (fun m => some m.cut) pool maxQueries xs := by
  intro x
  refine ⟨by decide +kernel, fun h => ?_⟩
  obtain ⟨since, ⟨before, hxs, -⟩, hsums⟩ :=
    (h 0 10 [x] (by decide)).figures
      ⟨"a", 1, 1, 1, some ⟨60, 500000000⟩, 1, some ⟨60, 500000000⟩⟩
      (by decide +kernel)
  obtain ⟨y, ⟨older, newer, hy, -⟩, hat⟩ := hsums.leastAt
  have hmem : y ∈ executionsOf "a" since := hy ▸ by simp
  have hin : y ∈ [x] :=
    hxs ▸ List.mem_append_right before (List.mem_of_mem_filter hmem)
  rw [List.mem_singleton.1 hin] at hat
  exact absurd hat (by decide)

end Table

end PooledChain.Statistics
