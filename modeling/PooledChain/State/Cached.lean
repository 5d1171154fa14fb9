/-
The store of a statement cache.

It holds parked statements by their SQL, the one parked last in front.
It never holds two for one SQL, nor more than its capacity: parking a
statement in a full store pushes out the one parked longest ago.

Emptying the store starts a new generation. A statement belongs to the
generation in which it was made and is refused by every later one.
-/
import PooledChain.State.Layer

namespace PooledChain

/-- What a cache holds. -/
structure CacheStore where
  /-- How many statements it holds at most. -/
  capacity : Nat
  /-- How often the store was emptied. -/
  generation : Nat
  /-- Most recently parked first. -/
  entries : List (String × LayerId)
  deriving DecidableEq, Repr, Inhabited

namespace CacheStore

/-- A store without statements, in its first generation. -/
def empty (capacity : Nat) : CacheStore := ⟨capacity, 0, []⟩

/-- How many statements are parked. -/
def size (s : CacheStore) : Nat := s.entries.length

/-- The SQL texts, most recently parked first. -/
def texts (s : CacheStore) : List String := s.entries.map (·.1)

/-- The statement parked for a SQL text. -/
def find? (s : CacheStore) (sql : String) : Option LayerId := s.entries.lookup sql

/-- The store without the statement for a SQL text. -/
def remove (s : CacheStore) (sql : String) : CacheStore :=
  { s with entries := s.entries.filter (·.1 != sql) }

/-- Whether a statement for `sql`, made in `generation`, can be parked. -/
def accepts (s : CacheStore) (sql : String) (generation : Nat) : Bool :=
  generation == s.generation && (s.find? sql).isNone

/-- The store with one more statement in front, and the statement that
had to go, if any. -/
def park (s : CacheStore) (sql : String) (layer : LayerId) : CacheStore × Option LayerId :=
  let all := (sql, layer) :: s.entries
  if s.capacity < all.length then
    ({ s with entries := all.dropLast }, (all.getLast?).map (·.2))
  else ({ s with entries := all }, none)

/-- The emptied store in its next generation, and what it held, the
statement parked longest ago first. -/
def drain (s : CacheStore) : CacheStore × List LayerId :=
  ({ s with generation := s.generation + 1, entries := [] },
   s.entries.reverse.map (·.2))

-- ================================================ the texts after a change

/-- A new shelf has no texts. -/
@[simp] theorem texts_empty (capacity : Nat) : (empty capacity).texts = [] := rfl

/-- There are as many texts as statements on a shelf. -/
@[simp] theorem length_texts (s : CacheStore) : s.texts.length = s.size :=
  List.length_map ..

/-- Taking a text off leaves the others in their order. -/
@[simp] theorem texts_remove (s : CacheStore) (sql : String) :
    (s.remove sql).texts = s.texts.filter (· != sql) := by
  simp [texts, remove, List.filter_map, Function.comp_def]

/-- A statement is parked in front, and what no longer fits goes. -/
theorem texts_park (s : CacheStore) (sql : String) (layer : LayerId) (h : s.size ≤ s.capacity) :
    (s.park sql layer).1.texts = (sql :: s.texts).take s.capacity := by
  simp only [size] at h
  by_cases hfull : s.capacity < s.entries.length + 1
  · have hc : s.capacity = s.entries.length := by omega
    simp [park, texts, hc, List.dropLast_eq_take]
  · have hroom : s.entries.length + 1 ≤ s.capacity := by omega
    rw [List.take_of_length_le (by simpa [texts] using hroom)]
    simp [park, texts, hfull]

/-- Parking never makes a store exceed its capacity, since one statement
leaves a full store for each that comes. -/
theorem size_park_le (s : CacheStore) (sql : String) (layer : LayerId) (h : s.size ≤ s.capacity) :
    (s.park sql layer).1.size ≤ s.capacity := by
  rw [← length_texts, texts_park s sql layer h]
  exact List.length_take_le ..

/-- A shelf that was emptied has no texts. -/
@[simp] theorem texts_drain (s : CacheStore) : s.drain.1.texts = [] := rfl

end CacheStore

end PooledChain
