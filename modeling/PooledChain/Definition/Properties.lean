/-
The properties of one link: keys with values, in the order in which the
keys were first written.

They are written `key=value` with commas between them. White space
around keys and values does not count and blank entries are skipped. A
key that is written twice keeps its first place and its last value.
-/
import PooledChain.Error
import PooledChain.Text.Blank
import PooledChain.Text.Integer
import PooledChain.Text.Pieces

namespace PooledChain

/-- Texts under names, as a definition gives them. -/
structure Properties where
  entries : List (String × String)
  deriving DecidableEq, Repr, Inhabited

namespace Properties

/-- No properties. -/
def empty : Properties := ⟨[]⟩

/-- How many names there are. -/
def size (p : Properties) : Nat := p.entries.length

/-- Whether there is no name. -/
def isEmpty (p : Properties) : Bool := p.entries.isEmpty

/-- Writes one key into a list of entries: in place if it is there, at
the end if it is not. -/
def put (key value : String) : List (String × String) → List (String × String)
  | [] => [(key, value)]
  | (k, v) :: rest => if k == key then (k, value) :: rest else (k, v) :: put key value rest

/-- Gives a name a text; a name that is there keeps its place. -/
def insert (p : Properties) (key value : String) : Properties :=
  ⟨put key value p.entries⟩

/-- The text under a name. -/
def get? (p : Properties) (key : String) : Option String :=
  p.entries.lookup key

@[simp] theorem get?_empty (key : String) : empty.get? key = none := rfl

/-- A look-up passes an entry with another name. -/
theorem lookup_entry (key value k : String) (entries : List (String × String)) :
    ((key, value) :: entries).lookup k = if k = key then some value else entries.lookup k := by
  by_cases h : k = key
  · simp [h]
  · simp [List.lookup_cons, beq_false_of_ne h, h]

/-- After a name was given a text, only the look-up of that name has
changed. -/
theorem lookup_put (key value k : String) (entries : List (String × String)) :
    (put key value entries).lookup k = if k = key then some value else entries.lookup k := by
  induction entries with
  | nil => rw [put, lookup_entry]
  | cons e rest ih =>
    obtain ⟨k', v⟩ := e
    by_cases hk : k' = key
    · subst hk
      by_cases h : k = k' <;> simp [put, lookup_entry, h]
    · by_cases hk' : k = k'
      · subst hk'
        simp [put, hk]
      · simp [put, lookup_entry, hk, hk', ih]

/-- The last value written under a key is the one that is found. -/
@[simp] theorem get?_insert (p : Properties) (key value k : String) :
    (p.insert key value).get? k = if k = key then some value else p.get? k :=
  lookup_put key value k p.entries

-- ================================================ reading

/-- One entry between two commas; a blank one says nothing. -/
def readEntry (entry : List Char) : Except ConfigError (Option (String × String)) :=
  let entry := Text.trim entry
  if entry.isEmpty then .ok none
  else match Text.cut? '=' entry with
    | none => .error (.notAPair (String.ofList entry))
    | some (key, value) =>
      let key := Text.trim key
      if key.isEmpty then .error (.missingKey (String.ofList entry))
      else .ok (some (String.ofList key, String.ofList (Text.trim value)))

/-- Adds the entries one after the other; the first that cannot be read
decides the failure. -/
def readEntries (p : Properties) : List (List Char) → Except ConfigError Properties
  | [] => .ok p
  | entry :: rest =>
    match readEntry entry with
    | .error e => .error e
    | .ok none => readEntries p rest
    | .ok (some (key, value)) => readEntries (p.insert key value) rest

/-- Reads properties from between the brackets of a definition. -/
def parse (text : List Char) : Except ConfigError Properties :=
  readEntries empty (Text.pieces ',' text)

-- ================================================ typed look-ups

/-- ASCII letters in lower case; other characters as they are. -/
def lower (text : String) : List Char :=
  text.toList.map Char.toLower

/-- `true` or `false` in any ASCII case, or the default if the key is
absent. -/
def boolOr (p : Properties) (key : String) (default : Bool) : Except ConfigError Bool :=
  match p.get? key with
  | none => .ok default
  | some v =>
    if lower v == "true".toList then .ok true
    else if lower v == "false".toList then .ok false
    else .error (.notABoolean key v)

/-- A signed 64-bit integer, or the default if the key is absent. -/
def intOr (p : Properties) (key : String) (default : Int) : Except ConfigError Int :=
  match p.get? key with
  | none => .ok default
  | some v =>
    match Text.readInt64? v.toList with
    | some n => .ok n
    | none => .error (.notAnInteger key v)

/-- As `intOr`, and not below zero. -/
def natOr (p : Properties) (key : String) (default : Nat) : Except ConfigError Nat :=
  match p.intOr key default with
  | .error e => .error e
  | .ok (.ofNat n) => .ok n
  | .ok (.negSucc n) => .error (.negative key (.negSucc n))

/-- The text under a name, or else that one. -/
def stringOr (p : Properties) (key default : String) : String :=
  (p.get? key).getD default

end Properties

end PooledChain
