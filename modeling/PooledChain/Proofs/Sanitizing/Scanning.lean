/-
A text read in two parts.

The scanner reads one character at a time, so what it writes for a text is
what it writes for a beginning (`Scan.written`) and then what it writes for
the rest from the mode the beginning leads to (`Scan.after`). Of the
beginning it remembers the last character written and what it is in the
middle of, and nothing else.

Where the next character is no part of what the scanner is in the middle of
(`Scan.takes`), even the mode is forgotten: the beginning is as good as over,
what it still owes is written, and the rest is read as if it stood alone
after the character written last (`withoutLiterals_append_cons`). Literals
are settled with this law, each at its first character and again behind its
last.
-/
import PooledChain.Sql.Sanitized

namespace PooledChain.Sql

variable {placeholder p : List Char} {mode : Scan} {c q : Char}
  {last : Option Char}

-- ============================================== the last character written

/-- The first character is the last one before the others. -/
theorem lastAfter_cons (last : Option Char) (c : Char) (out : List Char) :
    lastAfter last (c :: out) = lastAfter (some c) out := by
  cases out with
  | nil => rfl
  | cons d out =>
      rw [lastAfter, lastAfter, List.getLast?_cons_cons,
        List.getLast?_eq_some_getLast (List.cons_ne_nil d out)]
      rfl

/-- The last character of two parts is that of the second, if it has one. -/
theorem lastAfter_append (last : Option Char) (out more : List Char) :
    lastAfter last (out ++ more) = lastAfter (lastAfter last out) more := by
  induction out generalizing last with
  | nil => rfl
  | cons c out ih => rw [List.cons_append, lastAfter_cons, lastAfter_cons, ih]

/-- With nothing written before, it is the last character of what is
written. -/
theorem lastAfter_none (out : List Char) :
    lastAfter none out = out.getLast? := Option.or_none

-- ======================================================== single characters

/-- No quote belongs to a number. -/
theorem isQuote_of_skipped (h : (c.isDigit || c == '.') = true) :
    isQuote c = false := by
  rw [isQuote, Bool.or_eq_false_iff, beq_eq_false_iff_ne, beq_eq_false_iff_ne]
  constructor <;> rintro rfl <;> cases h

/-- A digit is no quote. -/
theorem isQuote_digit (h : c.isDigit = true) : isQuote c = false :=
  isQuote_of_skipped (by rw [h, Bool.true_or])

namespace Scan

/-- A quote opens a literal, and is not written. -/
theorem step_copying_quote (h : isQuote c = true) (last : Option Char) :
    step placeholder (copying last) c = ([], inside c last) := if_pos h

/-- The first digit of a number. -/
theorem step_copying_digit (h : c.isDigit = true)
    (hword : endsInWord last = false) :
    step placeholder (copying last) c
      = (placeholder, skipping (lastAfter last placeholder)) := by
  rw [step, copy, isQuote_digit h, h, hword]
  rfl

/-- A character that begins no literal. -/
theorem step_copying_plain (h : isQuote c = false)
    (hdigit : c.isDigit = true → endsInWord last = true) :
    step placeholder (copying last) c = ([c], copying (some c)) := by
  have hnumber : ¬ (c.isDigit && !endsInWord last) = true := by
    rw [Bool.and_eq_true, Bool.not_eq_true']
    rintro ⟨hc, hword⟩
    rw [hdigit hc] at hword
    cases hword
  rw [step, copy, h, if_neg Bool.false_ne_true, if_neg hnumber]

/-- A quote of its kind may end the literal. -/
theorem step_inside_quote (q : Char) (last : Option Char) :
    step placeholder (inside q last) q = ([], leaving q last) :=
  if_pos (beq_self_eq_true q)

/-- Every other character is content. -/
theorem step_inside_other (h : c ≠ q) (last : Option Char) :
    step placeholder (inside q last) c = ([], inside q last) :=
  if_neg (by simpa using h)

/-- The same quote again is content. -/
theorem step_leaving_quote (q : Char) (last : Option Char) :
    step placeholder (leaving q last) q = ([], inside q last) :=
  if_pos (beq_self_eq_true q)

/-- Digits and dots belong to the number. -/
theorem step_skipping_part (h : (c.isDigit || c == '.') = true)
    (last : Option Char) :
    step placeholder (skipping last) c = ([], skipping last) := if_pos h

-- ====================================================== a text in two parts

/-- What is written while a text is read, the end of it not yet seen. -/
def written (placeholder : List Char) : Scan → List Char → List Char
  | _, [] => []
  | mode, c :: cs =>
    (mode.step placeholder c).1
      ++ written placeholder (mode.step placeholder c).2 cs

/-- The mode that reading a text leads to. -/
def after (placeholder : List Char) (mode : Scan) (cs : List Char) : Scan :=
  cs.foldl (fun mode c => (mode.step placeholder c).2) mode

/-- The last character written before a mode. -/
def lastWritten : Scan → Option Char
  | copying last => last
  | inside _ last => last
  | leaving _ last => last
  | skipping last => last

/-- A run writes what its first step writes and goes on from there. -/
theorem run_cons (mode : Scan) (c : Char) (cs : List Char) :
    run placeholder mode (c :: cs) = (mode.step placeholder c).1
      ++ run placeholder (mode.step placeholder c).2 cs := rfl

/-- The mode behind a text is the one behind its rest, from where the first
step leads. -/
theorem after_cons (mode : Scan) (c : Char) (cs : List Char) :
    after placeholder mode (c :: cs)
      = after placeholder (mode.step placeholder c).2 cs := rfl

/-- The mode behind two parts is the one behind the second, from where the
first leads. -/
theorem after_append (mode : Scan) (cs ds : List Char) :
    after placeholder mode (cs ++ ds)
      = after placeholder (after placeholder mode cs) ds := List.foldl_append

/-- The last character leads on from the mode before it. -/
theorem after_concat (mode : Scan) (cs : List Char) (c : Char) :
    after placeholder mode (cs ++ [c])
      = ((after placeholder mode cs).step placeholder c).2 :=
  after_append mode cs [c]

/-- Of two parts the first is written, and the second from where that
leads. -/
theorem run_append (mode : Scan) (cs ds : List Char) :
    run placeholder mode (cs ++ ds) = written placeholder mode cs
      ++ run placeholder (after placeholder mode cs) ds := by
  induction cs generalizing mode with
  | nil => rfl
  | cons c cs ih =>
      rw [List.cons_append, run_cons, ih, written, after_cons, List.append_assoc]

/-- What is written for a text, and what its end still owes. -/
theorem run_eq (mode : Scan) (cs : List Char) :
    run placeholder mode cs = written placeholder mode cs
      ++ (after placeholder mode cs).finish placeholder := by
  calc run placeholder mode cs = run placeholder mode (cs ++ []) := by
        rw [List.append_nil]
    _ = _ := run_append mode cs []

/-- Copying a character keeps account of what was written last. -/
theorem lastWritten_copy (last : Option Char) (c : Char) :
    (copy placeholder last c).2.lastWritten
      = lastAfter last (copy placeholder last c).1 := by
  rw [copy]
  split
  · rfl
  · split <;> rfl

theorem lastWritten_step (mode : Scan) (c : Char) :
    (mode.step placeholder c).2.lastWritten
      = lastAfter mode.lastWritten (mode.step placeholder c).1 := by
  cases mode with
  | copying last => exact lastWritten_copy last c
  | inside quote last =>
      rw [step]
      split <;> rfl
  | leaving quote last =>
      rw [step]
      split
      · rfl
      · rw [lastAfter_append]
        exact lastWritten_copy (lastAfter last placeholder) c
  | skipping last =>
      rw [step]
      split
      · rfl
      · exact lastWritten_copy last c

/-- The scanner remembers the last character it wrote. -/
theorem lastWritten_after (mode : Scan) (cs : List Char) :
    (after placeholder mode cs).lastWritten
      = lastAfter mode.lastWritten (written placeholder mode cs) := by
  induction cs generalizing mode with
  | nil => rfl
  | cons c cs ih =>
      rw [after_cons, ih, lastWritten_step, written, lastAfter_append]

-- ====================================================== where a token ends

/-- Whether a character belongs to what the scanner is in the middle of. -/
def takes : Scan → Char → Bool
  | copying _, _ => false
  | inside _ _, _ => true
  | leaving quote _, c => c == quote
  | skipping _, c => c.isDigit || c == '.'

/-- The mode in which a text goes on once all that is owed is written. -/
def settled (placeholder : List Char) (mode : Scan) : Scan :=
  copying (lastAfter mode.lastWritten (mode.finish placeholder))

/-- A character that is not taken is read outside every literal, once what
is owed has been written. -/
theorem step_of_not_takes (h : mode.takes c = false) :
    mode.step placeholder c
      = (mode.finish placeholder
          ++ ((mode.settled placeholder).step placeholder c).1,
        ((mode.settled placeholder).step placeholder c).2) := by
  cases mode with
  | copying last => rfl
  | inside quote last => cases h
  | leaving quote last =>
      rw [takes] at h
      rw [step, h]
      rfl
  | skipping last =>
      rw [takes] at h
      rw [step, h]
      rfl

/-- A character that does not belong to a literal or number ends it, and
what is owed for it is written. -/
theorem run_of_not_takes (h : mode.takes c = false) (cs : List Char) :
    run placeholder mode (c :: cs) = mode.finish placeholder
      ++ run placeholder (mode.settled placeholder) (c :: cs) := by
  rw [run_cons, step_of_not_takes h, List.append_assoc]
  rfl

/-- Whether no quoted literal is open. -/
def outside : Scan → Bool
  | inside _ _ => false
  | _ => true

end Scan

/-- The mode a text leads to from the start. -/
def modeAfter (placeholder p : List Char) : Scan :=
  Scan.after placeholder (.copying none) p

/-- Whether the scanner is outside every quoted literal at the end of a
text. -/
def endsOutside (placeholder p : List Char) : Bool :=
  (modeAfter placeholder p).outside

/-- Behind a text, once all that is owed is written, the scanner copies on
from the last character of what it shows. -/
theorem settled_modeAfter (placeholder p : List Char) :
    (modeAfter placeholder p).settled placeholder
      = .copying (withoutLiterals placeholder p).getLast? := by
  rw [Scan.settled, modeAfter, Scan.lastWritten_after, ← lastAfter_append,
    ← Scan.run_eq]
  exact congrArg Scan.copying (lastAfter_none _)

/-- A text and what follows it, where that is no part of a literal begun in
the text. -/
theorem withoutLiterals_append_cons
    (h : (modeAfter placeholder p).takes c = false) (cs : List Char) :
    withoutLiterals placeholder (p ++ c :: cs)
      = withoutLiterals placeholder p
        ++ Scan.run placeholder
          (.copying (withoutLiterals placeholder p).getLast?) (c :: cs) := by
  calc withoutLiterals placeholder (p ++ c :: cs)
      = Scan.written placeholder (.copying none) p
        ++ Scan.run placeholder (modeAfter placeholder p) (c :: cs) :=
      Scan.run_append _ p (c :: cs)
    _ = Scan.written placeholder (.copying none) p
        ++ (modeAfter placeholder p).finish placeholder
        ++ Scan.run placeholder
          (.copying (withoutLiterals placeholder p).getLast?) (c :: cs) := by
      rw [Scan.run_of_not_takes h, settled_modeAfter, List.append_assoc]
    _ = _ := congrArg (· ++ _) (Scan.run_eq _ p).symm

end PooledChain.Sql
