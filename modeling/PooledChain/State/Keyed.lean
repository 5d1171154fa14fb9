/-
Values under keys. Of several entries with one key the first counts;
writing a key drops the entries it had before. What a look-up finds
after each change is said at the end.
-/

namespace PooledChain

/-- Values of one kind, each under a key. -/
structure Keyed (κ α : Type) where
  /-- The value written last stands in front. -/
  entries : List (κ × α)
  deriving DecidableEq, Repr, Inhabited

namespace Keyed

variable {κ α : Type} [DecidableEq κ]

/-- No keys. -/
def empty : Keyed κ α := ⟨[]⟩

/-- The value under a key. -/
def get? (t : Keyed κ α) (k : κ) : Option α :=
  (t.entries.find? (·.1 = k)).map (·.2)

/-- Keeps the entries whose key satisfies `p`. -/
def filter (t : Keyed κ α) (p : κ → Bool) : Keyed κ α :=
  ⟨t.entries.filter fun e => p e.1⟩

/-- Takes a key away, however often it stands there. -/
def erase (t : Keyed κ α) (k : κ) : Keyed κ α :=
  t.filter fun k' => k' ≠ k

/-- Writes a value under a key. -/
def set (t : Keyed κ α) (k : κ) (a : α) : Keyed κ α :=
  ⟨(k, a) :: (t.erase k).entries⟩

/-- Changes the value under a key, if there is one. -/
def modify (t : Keyed κ α) (k : κ) (f : α → α) : Keyed κ α :=
  match t.get? k with
  | some a => t.set k (f a)
  | none => t

/-- All values, the one written last in front. -/
def values (t : Keyed κ α) : List α :=
  t.entries.map (·.2)

-- ================================================ look-ups after a change

/-- Nothing has a value at first. -/
@[simp] theorem get?_empty (k : κ) : (empty : Keyed κ α).get? k = none := rfl

/-- A key that is kept keeps its value. -/
theorem get?_filter (t : Keyed κ α) (p : κ → Bool) (k : κ) :
    (t.filter p).get? k = if p k then t.get? k else none := by
  obtain ⟨es⟩ := t
  simp only [get?, filter]
  induction es with
  | nil => simp
  | cons e es ih =>
    obtain ⟨k', a⟩ := e
    by_cases hp : p k' <;> by_cases hk : k' = k
    · subst hk; simp [hp]
    · simpa [hp, hk] using ih
    · subst hk; simpa [hp] using ih
    · simpa [hp, hk] using ih

/-- Erasing a key leaves the other keys as they are. -/
theorem get?_erase (t : Keyed κ α) (k k' : κ) :
    (t.erase k).get? k' = if k' = k then none else t.get? k' := by
  rw [erase, get?_filter]
  by_cases h : k' = k <;> simp [h]

/-- Writing a key leaves the other keys as they are. -/
theorem get?_set (t : Keyed κ α) (k k' : κ) (a : α) :
    (t.set k a).get? k' = if k' = k then some a else t.get? k' := by
  by_cases h : k' = k
  · subst h
    simp [set, get?]
  · have he := get?_erase t k k'
    simp only [h, if_false] at he
    have hk : ¬ k = k' := fun hk => h hk.symm
    simp only [set, get?, List.find?_cons, hk, decide_false, h, if_false]
    exact he

/-- Changing a value leaves the other keys as they are. -/
theorem get?_modify (t : Keyed κ α) (k k' : κ) (f : α → α) :
    (t.modify k f).get? k' = if k' = k then (t.get? k).map f else t.get? k' := by
  unfold modify
  split
  next a ha => simp [get?_set, ha]
  next ha =>
    by_cases h : k' = k
    · subst h; simp [ha]
    · simp [h]

-- ======================================== keys that are written once

/-- No key is written twice. -/
def Distinct (t : Keyed κ α) : Prop := (t.entries.map (·.1)).Nodup

/-- What a look-up finds is written there. -/
theorem mem_of_get? {t : Keyed κ α} {k : κ} {a : α}
    (h : t.get? k = some a) : (k, a) ∈ t.entries := by
  obtain ⟨⟨k', a'⟩, hf, rfl⟩ := Option.map_eq_some_iff.1 h
  have hk := List.find?_some hf
  simp only [decide_eq_true_eq] at hk
  subst hk
  exact List.mem_of_find?_eq_some hf

/-- Where no key is written twice, what is written is found. -/
theorem get?_of_mem {t : Keyed κ α} (ht : t.Distinct) {k : κ} {a : α}
    (h : (k, a) ∈ t.entries) : t.get? k = some a := by
  obtain ⟨es⟩ := t
  simp only [Distinct, get?] at *
  induction es with
  | nil => cases h
  | cons e es ih =>
      rw [List.map_cons, List.nodup_cons] at ht
      rcases List.mem_cons.1 h with rfl | h
      · simp
      · have hk : e.1 ≠ k := fun hk =>
          ht.1 (hk ▸ List.mem_map_of_mem (f := (·.1)) h)
        rw [List.find?_cons_of_neg (by simpa using hk)]
        exact ih ht.2 h

omit [DecidableEq κ] in
/-- No key is twice in a part of the entries. -/
theorem Distinct.filter {t : Keyed κ α} (ht : t.Distinct) (p : κ → Bool) :
    (t.filter p).Distinct :=
  ht.sublist (List.filter_sublist.map _)

/-- No key is twice when one was taken out. -/
theorem Distinct.erase {t : Keyed κ α} (ht : t.Distinct) (k : κ) :
    (t.erase k).Distinct := ht.filter _

omit [DecidableEq κ] in
/-- The entries that are kept are those whose keys are. -/
theorem mem_filter {t : Keyed κ α} {p : κ → Bool} {e : κ × α} :
    e ∈ (t.filter p).entries ↔ e ∈ t.entries ∧ p e.1 = true :=
  List.mem_filter

/-- The entries of all other keys stay. -/
theorem mem_erase {t : Keyed κ α} {k : κ} {e : κ × α} :
    e ∈ (t.erase k).entries ↔ e ∈ t.entries ∧ e.1 ≠ k := by
  rw [erase, mem_filter]
  simp

/-- No key is twice when one was given a value. -/
theorem Distinct.set {t : Keyed κ α} (ht : t.Distinct) (k : κ) (a : α) :
    (t.set k a).Distinct := by
  show ((k, a) :: (t.erase k).entries).map (·.1) |>.Nodup
  rw [List.map_cons, List.nodup_cons]
  refine ⟨fun h => ?_, ht.erase k⟩
  obtain ⟨e, he, hk⟩ := List.mem_map.1 h
  exact (mem_erase.1 he).2 hk

/-- What is written under other keys stays. -/
theorem mem_set {t : Keyed κ α} {k : κ} {a : α} {e : κ × α} :
    e ∈ (t.set k a).entries ↔ e = (k, a) ∨ (e ∈ t.entries ∧ e.1 ≠ k) := by
  rw [set, List.mem_cons, mem_erase]

/-- A key and all other keys. -/
theorem entries_perm {t : Keyed κ α} (ht : t.Distinct) {k : κ} {a : α}
    (h : t.get? k = some a) :
    t.entries.Perm ((k, a) :: (t.erase k).entries) := by
  obtain ⟨es⟩ := t
  simp only [Distinct, get?, erase, filter] at *
  induction es with
  | nil => cases h
  | cons e es ih =>
      rw [List.map_cons, List.nodup_cons] at ht
      by_cases hk : e.1 = k
      · have hrest : es.filter (fun e => decide (e.1 ≠ k)) = es := by
          refine List.filter_eq_self.2 fun x hx => ?_
          have hne : x.1 ≠ e.1 := fun he =>
            ht.1 (he ▸ List.mem_map_of_mem (f := (·.1)) hx)
          simpa [hk] using hne
        have he : e = (k, a) := by
          rw [List.find?_cons_of_pos (by simpa using hk)] at h
          exact Prod.ext hk (by simpa using h)
        rw [List.filter_cons_of_neg (by simpa using hk), hrest, he]
      · rw [List.find?_cons_of_neg (by simpa using hk)] at h
        rw [List.filter_cons_of_pos (by simpa using hk)]
        exact ((ih ht.2 h).cons e).trans (.swap ..)

end Keyed

end PooledChain
