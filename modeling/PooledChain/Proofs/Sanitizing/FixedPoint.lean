/-
Sanitized texts, which have nothing left to sanitize.

A text is `Bare` behind a last character if no quote stands in it and each
digit in it continues a word. The scanner copies such a text
(`Scan.run_of_bare`), and whatever text it reads, it writes such a one if
the placeholder has neither quotes nor digits of its own (`Scan.bare_run`):
a digit is only ever copied inside a word, and a placeholder leaves the
words behind it as they are. The bare texts are thus the ones that stay as
they are (`withoutLiterals_eq_self_iff`).

Cutting keeps a text bare, since a beginning of a bare text is bare and so
are three dots. A sanitized text is therefore copied when it is sanitized
again, and it has the right length already
(`Sanitization.sanitized_again_is_the_same`).
-/
import PooledChain.Proofs.Sanitizing.Lengths
import PooledChain.Proofs.Sanitizing.Scanning

namespace PooledChain

namespace Sql

variable {placeholder : List Char} {mode : Scan} {c : Char}
  {last : Option Char} {cs ds : List Char}

-- ============================================================== bare texts

/-- Whether a text, written behind a last character, has no quotes and each
of its digits continues a word. -/
def Bare (last : Option Char) : List Char → Prop
  | [] => True
  | c :: cs => isQuote c = false ∧ (c.isDigit = true → endsInWord last = true)
    ∧ Bare (some c) cs

/-- Whether a text has neither quotes nor digits. -/
def Neutral (cs : List Char) : Prop :=
  ∀ c ∈ cs, isQuote c = false ∧ c.isDigit = false

instance (cs : List Char) : Decidable (Neutral cs) :=
  decidable_of_iff (cs.all fun c => !isQuote c && !c.isDigit)
    (by simp [Neutral])

/-- A text is bare when its beginning is, and the rest behind that. -/
theorem bare_append : Bare last (cs ++ ds)
    ↔ Bare last cs ∧ Bare (lastAfter last cs) ds := by
  induction cs generalizing last with
  | nil => exact ⟨fun h => ⟨trivial, h⟩, fun h => h.2⟩
  | cons c cs ih =>
      rw [List.cons_append, Bare, Bare, ih, lastAfter_cons]
      simp only [and_assoc]

/-- The beginning of a bare text is bare. -/
theorem Bare.of_isPrefix (h : Bare last ds) (hbefore : cs <+: ds) :
    Bare last cs := by
  obtain ⟨more, rfl⟩ := hbefore
  exact (bare_append.1 h).1

/-- A text with neither quotes nor digits is bare behind anything. -/
theorem Neutral.bare (h : Neutral cs) (last : Option Char) : Bare last cs := by
  induction cs generalizing last with
  | nil => trivial
  | cons c cs ih =>
      obtain ⟨hquote, hdigit⟩ := h c List.mem_cons_self
      refine ⟨hquote, fun hc => ?_, ih (fun d hd =>
        h d (List.mem_cons_of_mem c hd)) (some c)⟩
      rw [hdigit] at hc
      cases hc

/-- The ellipsis has neither quotes nor digits. -/
theorem neutral_ellipsis : Neutral ellipsis := by decide

/-- A bare text has no quotes. -/
theorem Bare.not_quote (h : Bare last cs) (hc : c ∈ cs) :
    isQuote c = false := by
  induction cs generalizing last with
  | nil => cases hc
  | cons d cs ih =>
      rcases List.mem_cons.1 hc with rfl | hc
      · exact h.1
      · exact ih h.2.2 hc

/-- A digit of a bare text stands behind a character of a word. -/
theorem Bare.digit (h : Bare none (cs ++ c :: ds)) (hc : c.isDigit = true) :
    ∃ d, cs.getLast? = some d ∧ (Text.isAlphanumeric d = true ∨ d = '_') := by
  have hword : endsInWord cs.getLast? = true := by
    have hrest := (bare_append.1 h).2
    rw [lastAfter_none] at hrest
    exact hrest.2.1 hc
  cases hlast : cs.getLast? with
  | none =>
      rw [hlast] at hword
      cases hword
  | some d =>
      rw [hlast, endsInWord, Bool.or_eq_true, beq_iff_eq] at hword
      exact ⟨d, rfl, hword⟩

/-- A bare text is bare when it has been cut. -/
theorem Bare.truncate (h : Bare none cs) (limit : Nat) :
    Bare none (truncate limit cs) := by
  rcases Nat.lt_or_ge limit (byteLength cs) with hcut | hfits
  · rw [truncate_of_lt hcut]
    exact bare_append.2 ⟨h.of_isPrefix (takeBytes_isPrefix _ cs),
      neutral_ellipsis.bare _⟩
  · rwa [truncate_of_fits hfits]

-- ============================================= what the scanner makes of it

namespace Scan

/-- A bare text is copied. -/
theorem run_of_bare (h : Bare last cs) :
    run placeholder (copying last) cs = cs := by
  induction cs generalizing last with
  | nil => rfl
  | cons c cs ih =>
      obtain ⟨hquote, hdigit, hrest⟩ := h
      rw [run_cons, step_copying_plain hquote hdigit, ih hrest]
      rfl

/-- What is written for a character of the text itself is bare. -/
theorem bare_copy (hplaceholder : Neutral placeholder) (last : Option Char)
    (c : Char) : Bare last (copy placeholder last c).1 := by
  rw [copy]
  split
  · trivial
  · next hquote =>
    split
    · exact hplaceholder.bare last
    · next hnumber =>
      refine ⟨Bool.eq_false_iff.2 hquote, fun hc => ?_, trivial⟩
      rw [hc, Bool.true_and, Bool.not_eq_true', Bool.not_eq_false] at hnumber
      exact hnumber

/-- What a step of the scanner writes is bare. -/
theorem bare_step (hplaceholder : Neutral placeholder) (mode : Scan)
    (c : Char) : Bare mode.lastWritten (mode.step placeholder c).1 := by
  cases mode with
  | copying last => exact bare_copy hplaceholder last c
  | inside quote last =>
      rw [step]
      split <;> trivial
  | leaving quote last =>
      rw [step]
      split
      · trivial
      · exact bare_append.2 ⟨hplaceholder.bare last,
          bare_copy hplaceholder _ c⟩
  | skipping last =>
      rw [step]
      split
      · trivial
      · exact bare_copy hplaceholder last c

/-- Whatever is read, a bare text is written. -/
theorem bare_run (hplaceholder : Neutral placeholder) (mode : Scan)
    (cs : List Char) : Bare mode.lastWritten (run placeholder mode cs) := by
  induction cs generalizing mode with
  | nil =>
      cases mode with
      | copying last => trivial
      | inside quote last => exact hplaceholder.bare last
      | leaving quote last => exact hplaceholder.bare last
      | skipping last => trivial
  | cons c cs ih =>
      rw [run_cons]
      refine bare_append.2 ⟨bare_step hplaceholder mode c, ?_⟩
      rw [← lastWritten_step]
      exact ih _

end Scan

/-- The bare texts are those that are left as they are. -/
theorem withoutLiterals_eq_self_iff (hplaceholder : Neutral placeholder) :
    withoutLiterals placeholder cs = cs ↔ Bare none cs := by
  refine ⟨fun h => ?_, Scan.run_of_bare⟩
  have hbare := Scan.bare_run hplaceholder (.copying none) cs
  rwa [← withoutLiterals, h] at hbare

end Sql

namespace Sanitization

open Sql

/-- What sanitization shows is bare. -/
theorem bare_apply (s : Sanitization) (henabled : s.enabled = true)
    (hplaceholder : Neutral s.placeholder.toList) (sql : List Char) :
    Bare none (s.apply sql) := by
  rw [apply_eq_truncate, s.uncut_of_enabled henabled]
  exact (Scan.bare_run hplaceholder (.copying none) sql).truncate s.maxLength

/-- Before it is cut again, what is shown is as it was shown. -/
theorem uncut_apply (s : Sanitization)
    (hplaceholder : s.enabled = true → Neutral s.placeholder.toList)
    (sql : List Char) : s.uncut (s.apply sql) = s.apply sql := by
  cases henabled : s.enabled with
  | true =>
      have hneutral := hplaceholder henabled
      rw [s.uncut_of_enabled henabled, withoutLiterals_eq_self_iff hneutral]
      exact s.bare_apply henabled hneutral sql
  | false =>
      rw [uncut, henabled]
      rfl

/-- A sanitized text has no quotes, its digits continue words, and it is left
as it is when it is sanitized again, with any length to cut it to. Without
sanitizing, a text that was cut is not cut again. -/
theorem sanitized_again_is_the_same (s : Sanitization) :
    (s.enabled = true →
      (∀ c ∈ s.placeholder.toList, isQuote c = false ∧ c.isDigit = false) →
      ∀ sql : List Char,
        (∀ c ∈ s.apply sql, c ≠ '\'' ∧ c ≠ '"')
          ∧ (∀ (before after : List Char) (digit : Char),
            s.apply sql = before ++ digit :: after → digit.isDigit = true →
              ∃ c, before.getLast? = some c
                ∧ (Text.isAlphanumeric c = true ∨ c = '_'))
          ∧ s.apply (s.apply sql) = s.apply sql)
    ∧ (s.enabled = false → ∀ sql : List Char,
        s.apply (s.apply sql) = s.apply sql) := by
  have hagain : (s.enabled = true → Neutral s.placeholder.toList) →
      ∀ sql, s.apply (s.apply sql) = s.apply sql := fun hplaceholder sql => by
    rw [apply_eq_truncate, s.uncut_apply hplaceholder, apply_eq_truncate,
      truncate_truncate]
  refine ⟨fun henabled hplaceholder sql => ?_, fun hdisabled => ?_⟩
  · have hbare := s.bare_apply henabled hplaceholder sql
    refine ⟨fun c hc => ?_, fun before after digit htext hdigit => ?_,
      hagain (fun _ => hplaceholder) sql⟩
    · have hquote := hbare.not_quote hc
      rwa [isQuote, Bool.or_eq_false_iff, beq_eq_false_iff_ne,
        beq_eq_false_iff_ne] at hquote
    · rw [htext] at hbare
      exact hbare.digit hdigit
  · refine hagain fun henabled => ?_
    rw [hdisabled] at henabled
    cases henabled

/-- A placeholder in the middle of a word, a limit with no room for the mark,
and a text that is only cut. -/
theorem cut_texts_are_left :
    let s : Sanitization := ⟨true, 16, "_x"⟩
    let small : Sanitization := ⟨true, 2, "?"⟩
    let plain : Sanitization := ⟨false, 9, ""⟩
    s.apply "select a1'b'2 from \"t\" where c3 = 4".toList
        = "select a1_x2 ...".toList
      ∧ s.apply "select a1_x2 ...".toList = "select a1_x2 ...".toList
      ∧ small.apply (small.apply "1 + '2'".toList)
        = small.apply "1 + '2'".toList
      ∧ plain.apply (plain.apply "'é' = 'é'".toList)
        = plain.apply "'é' = 'é'".toList := by
  intro s small plain
  have hs : s.apply "select a1'b'2 from \"t\" where c3 = 4".toList
      = "select a1_x2 ...".toList := by decide +kernel
  have hplaceholder : Neutral s.placeholder.toList := by decide +kernel
  have hsmall : Neutral small.placeholder.toList := by decide +kernel
  have hagain := ((sanitized_again_is_the_same s).1 rfl hplaceholder
    "select a1'b'2 from \"t\" where c3 = 4".toList).2.2
  rw [hs] at hagain
  exact ⟨hs, hagain,
    ((sanitized_again_is_the_same small).1 rfl hsmall _).2.2,
    (sanitized_again_is_the_same plain).2 rfl _⟩

end Sanitization

end PooledChain
