/-
SQL text without its literals.

Texts that reach a log line have every string and number literal
replaced by a placeholder, and are cut to a length. The text is read
one character at a time by a small machine (`Scan`): outside literals it
copies, inside a quoted literal it is silent, and a number is announced
by its first digit and then skipped. A digit starts a number only if
what has been written so far does not end inside a word, so the digits
of `col1` stay.

A quote inside a literal is written twice. Whether a quote ends its
literal is therefore known one character later, which is the mode
`leaving`.
-/
import PooledChain.Text.Alphanumeric

namespace PooledChain

namespace Sql

-- ================================================ the scanner

/-- What the scanner is in the middle of. `last` is the last character
written so far, if any. -/
inductive Scan
  | copying (last : Option Char)
  /-- Inside a literal opened by `quote`. -/
  | inside (quote : Char) (last : Option Char)
  /-- Inside a literal, after a `quote` that ends it or is the first
  half of a doubled one. -/
  | leaving (quote : Char) (last : Option Char)
  /-- Among the digits and dots of a number. -/
  | skipping (last : Option Char)
  deriving DecidableEq, Repr

/-- What begins and ends a literal. -/
def isQuote (c : Char) : Bool :=
  c == '\'' || c == '"'

/-- Whether a digit written next would continue a word. -/
def endsInWord : Option Char → Bool
  | some c => Text.isAlphanumeric c || c == '_'
  | none => false

/-- The last character once `text` has been written after `last`. -/
def lastAfter (last : Option Char) (text : List Char) : Option Char :=
  text.getLast?.or last

namespace Scan

variable (placeholder : List Char)

/-- Reading a character outside every literal. -/
def copy (last : Option Char) (c : Char) : List Char × Scan :=
  if isQuote c then ([], inside c last)
  else if c.isDigit && !endsInWord last then
    (placeholder, skipping (lastAfter last placeholder))
  else ([c], copying (some c))

/-- What one character makes the scanner write, and the mode after it. -/
def step : Scan → Char → List Char × Scan
  | copying last, c => copy placeholder last c
  | inside quote last, c =>
    if c == quote then ([], leaving quote last) else ([], inside quote last)
  | leaving quote last, c =>
    if c == quote then ([], inside quote last)
    else
      let (out, next) := copy placeholder (lastAfter last placeholder) c
      (placeholder ++ out, next)
  | skipping last, c =>
    if c.isDigit || c == '.' then ([], skipping last) else copy placeholder last c

/-- What is still owed at the end: the placeholder of a literal that was
entered, closed or not. -/
def finish : Scan → List Char
  | copying _ => []
  | inside _ _ => placeholder
  | leaving _ _ => placeholder
  | skipping _ => []

/-- What is written of a text that is read in a mode. -/
def run : Scan → List Char → List Char
  | mode, [] => mode.finish placeholder
  | mode, c :: cs =>
    let (out, next) := mode.step placeholder c
    out ++ run next cs

end Scan

/-- The text with a placeholder for every literal. -/
def withoutLiterals (placeholder sql : List Char) : List Char :=
  Scan.run placeholder (.copying none) sql

-- ================================================ cutting to a length

/-- Length in UTF-8 bytes. -/
def byteLength : List Char → Nat
  | [] => 0
  | c :: cs => c.utf8Size + byteLength cs

/-- The longest beginning of at most that many bytes. -/
def takeBytes : Nat → List Char → List Char
  | _, [] => []
  | n, c :: cs => if c.utf8Size ≤ n then c :: takeBytes (n - c.utf8Size) cs else []

/-- What marks a cut. -/
def ellipsis : List Char := ['.', '.', '.']

/-- A text that fits is kept. A longer one is cut between characters
and marked, with room for the mark taken from the limit. -/
def truncate (limit : Nat) (cs : List Char) : List Char :=
  if byteLength cs ≤ limit then cs else takeBytes (limit - 3) cs ++ ellipsis

end Sql

-- ================================================ configuration

/-- How SQL text is made fit for a log line. -/
structure Sanitization where
  enabled : Bool
  /-- In UTF-8 bytes. -/
  maxLength : Nat
  placeholder : String
  deriving DecidableEq, Repr, Inhabited

namespace Sanitization

/-- Every literal becomes a question mark, and texts are cut after 2048
bytes. -/
def standard : Sanitization := ⟨true, 2048, "?"⟩

/-- The largest length that can be configured. -/
def unlimited : Nat := 18446744073709551615

/-- Texts are logged as they are. -/
def off : Sanitization := ⟨false, unlimited, ""⟩

/-- A SQL text as it may be shown. -/
def apply (s : Sanitization) (sql : List Char) : List Char :=
  Sql.truncate s.maxLength
    (if s.enabled then Sql.withoutLiterals s.placeholder.toList sql else sql)

end Sanitization

end PooledChain
