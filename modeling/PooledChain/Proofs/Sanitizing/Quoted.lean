/-
Quoted literals, which never show.

A quoted literal stands between two quotes of a kind, and a quote of that
kind in its content is written twice (`doubled`). A text is `Complete` if
each literal begun in it is ended; these are the texts that leave the
scanner outside (`endsOutside_iff`), whatever the placeholder.

Behind such a text a literal is read as one placeholder, whatever it holds,
and the text after it is read as if the placeholder had stood in its place
(`withoutLiterals_quoted`, `withoutLiterals_open`). Two contents therefore
give the same sanitized text (`Sanitization.quoted_content_never_shows`).
-/
import Mathlib.Data.List.Induction
import PooledChain.Proofs.Sanitizing.Lengths
import PooledChain.Proofs.Sanitizing.Scanning

namespace PooledChain

namespace Sql

variable {placeholder : List Char} {mode : Scan} {c q : Char}
  {last : Option Char} {p r : List Char}

-- ================================================================= grammar

/-- The content of a literal as it is written. -/
def doubled (q : Char) (content : List Char) : List Char :=
  content.flatMap fun c => if c = q then [q, q] else [c]

/-- Content is written character by character. -/
theorem doubled_append (q : Char) (content more : List Char) :
    doubled q (content ++ more) = doubled q content ++ doubled q more :=
  List.flatMap_append

/-- A quote of the literal's kind is written twice. -/
theorem doubled_quote (q : Char) : doubled q [q] = [q, q] := by
  simp [doubled]

/-- Every other character is written as it is. -/
theorem doubled_other (h : c ≠ q) : doubled q [c] = [c] := by
  simp [doubled, h]

/-- Texts in which each literal that is begun is ended. A quote right behind
a literal of its kind would be part of it, so no literal begins there. -/
inductive Complete : List Char → Prop
  | nil : Complete []
  | plain {p : List Char} {c : Char} :
    Complete p → isQuote c = false → Complete (p ++ [c])
  | quoted {p : List Char} {q : Char} (content : List Char) :
    Complete p → isQuote q = true → p.getLast? ≠ some q →
      Complete (p ++ q :: doubled q content ++ [q])

/-- Whether a text is a complete one and the beginning of a literal with
some content behind it. -/
def Opened (q : Char) (content p : List Char) : Prop :=
  ∃ before, Complete before ∧ isQuote q = true ∧ before.getLast? ≠ some q
    ∧ p = before ++ q :: doubled q content

/-- Another character goes into the literal. -/
theorem Opened.more {content : List Char} (h : Opened q content p)
    (hc : c ≠ q) : Opened q (content ++ [c]) (p ++ [c]) := by
  obtain ⟨before, hbefore, hq, hlast, rfl⟩ := h
  refine ⟨before, hbefore, hq, hlast, ?_⟩
  rw [doubled_append, doubled_other hc, List.append_assoc, List.cons_append]

theorem Opened.twice {content : List Char} (h : Opened q content p) :
    Opened q (content ++ [q]) (p ++ [q] ++ [q]) := by
  obtain ⟨before, hbefore, hq, hlast, rfl⟩ := h
  refine ⟨before, hbefore, hq, hlast, ?_⟩
  rw [doubled_append, doubled_quote]
  simp only [List.append_assoc, List.cons_append, List.nil_append]

/-- A quote of its kind ends the literal. -/
theorem Opened.complete {content : List Char} (h : Opened q content p) :
    Complete (p ++ [q]) := by
  obtain ⟨before, hbefore, hq, hlast, rfl⟩ := h
  exact .quoted content hbefore hq hlast

/-- A quote behind a complete text begins a literal, if the text does not
end in the same quote. -/
theorem Complete.opened (h : Complete p) (hq : isQuote q = true)
    (hlast : p.getLast? ≠ some q) : Opened q [] (p ++ [q]) :=
  ⟨p, h, hq, hlast, rfl⟩

namespace Scan

/-- What a mode says about the text that led to it. -/
def Reads : Scan → List Char → Prop
  | copying _, p => Complete p ∧ ∀ c ∈ p.getLast?, isQuote c = false
  | inside q _, p => ∃ content, Opened q content p
  | leaving q _, p => ∃ content before, Opened q content before
    ∧ p = before ++ [q]
  | skipping _, p => Complete p ∧ ∀ c ∈ p.getLast?, isQuote c = false

/-- A complete text with a character behind it that is no quote is
complete. -/
theorem reads_plain (h : Complete p) (hc : isQuote c = false) :
    Complete (p ++ [c]) ∧ ∀ d ∈ (p ++ [c]).getLast?, isQuote d = false := by
  refine ⟨.plain h hc, fun d hd => ?_⟩
  rw [List.getLast?_concat] at hd
  cases hd
  exact hc

/-- A character read outside, behind a complete text, leads to a mode that
says what the longer text is. -/
theorem reads_copy (h : Complete p) (hlast : isQuote c = true →
    p.getLast? ≠ some c) : (copy placeholder last c).2.Reads (p ++ [c]) := by
  rw [copy]
  split
  · next hq => exact ⟨[], h.opened hq (hlast hq)⟩
  · next hq =>
    have hplain := reads_plain h (Bool.eq_false_iff.2 hq)
    split <;> exact hplain

/-- What a mode says about a text is so one character further on. -/
theorem Reads.step (h : mode.Reads p) (c : Char) :
    (mode.step placeholder c).2.Reads (p ++ [c]) := by
  have hplain : (∀ d ∈ p.getLast?, isQuote d = false) →
      isQuote c = true → p.getLast? ≠ some c := fun h hq he => by
    rw [h c he] at hq
    cases hq
  cases mode with
  | copying last => exact reads_copy h.1 (hplain h.2)
  | inside q last =>
      obtain ⟨content, hopened⟩ := h
      rw [Scan.step]
      split
      · next hc => exact ⟨content, p, hopened, by rw [beq_iff_eq.1 hc]⟩
      · next hc => exact ⟨_, hopened.more fun he => hc (by simp [he])⟩
  | leaving q last =>
      obtain ⟨content, before, hopened, rfl⟩ := h
      rw [Scan.step]
      split
      · next hc =>
        rw [beq_iff_eq.1 hc]
        exact ⟨_, hopened.twice⟩
      · next hc =>
        refine reads_copy hopened.complete fun _ he => hc ?_
        rw [List.getLast?_concat, Option.some.injEq] at he
        simp [he]
  | skipping last =>
      rw [Scan.step]
      split
      · next hc => exact reads_plain h.1 (isQuote_of_skipped hc)
      · exact reads_copy h.1 (hplain h.2)

end Scan

/-- What the mode behind a text says about it is so. -/
theorem reads_modeAfter (placeholder p : List Char) :
    (modeAfter placeholder p).Reads p := by
  induction p using List.reverseRecOn with
  | nil => exact ⟨.nil, nofun⟩
  | append_singleton p c ih =>
      rw [modeAfter, Scan.after_concat]
      exact ih.step c

/-- The modes a text that ends outside can lead to. -/
theorem modeAfter_cases (hout : endsOutside placeholder p = true) :
    (∃ last, modeAfter placeholder p = .copying last)
      ∨ (∃ last, modeAfter placeholder p = .skipping last)
      ∨ ∃ q last, modeAfter placeholder p = .leaving q last
        ∧ isQuote q = true ∧ p.getLast? = some q := by
  have hreads := reads_modeAfter placeholder p
  rw [endsOutside] at hout
  cases hmode : modeAfter placeholder p with
  | copying last => exact .inl ⟨last, rfl⟩
  | inside q last =>
      rw [hmode] at hout
      cases hout
  | leaving q last =>
      rw [hmode] at hreads
      obtain ⟨content, before, ⟨_, -, hq, -⟩, rfl⟩ := hreads
      exact .inr (.inr ⟨q, last, rfl, hq, List.getLast?_concat⟩)
  | skipping last => exact .inr (.inl ⟨last, rfl⟩)

/-- Behind a text that ends outside and in no such quote, a quote begins a
literal. -/
theorem takes_quote (hout : endsOutside placeholder p = true)
    (hq : isQuote q = true) (hlast : p.getLast? ≠ some q) :
    (modeAfter placeholder p).takes q = false := by
  obtain ⟨last, hmode⟩ | ⟨last, hmode⟩ | ⟨quote, last, hmode, -, hend⟩ :=
    modeAfter_cases hout
  · rw [hmode]
    rfl
  · rw [hmode, Bool.eq_false_iff]
    intro htakes
    rw [isQuote_of_skipped htakes] at hq
    cases hq
  · rw [hmode, Scan.takes, beq_eq_false_iff_ne]
    exact fun he => hlast (he ▸ hend)

-- ============================================================ reading one

namespace Scan

/-- Nothing is written for the content of a literal, and it does not end
the literal. -/
theorem reading_doubled (last : Option Char) (content : List Char) :
    written placeholder (inside q last) (doubled q content) = []
      ∧ after placeholder (inside q last) (doubled q content)
        = inside q last := by
  induction content with
  | nil => exact ⟨rfl, rfl⟩
  | cons c content ih =>
      rw [← List.singleton_append, doubled_append]
      by_cases hc : c = q
      · rw [hc, doubled_quote]
        simp only [List.cons_append, List.nil_append, written, after_cons,
          step_inside_quote, step_leaving_quote]
        exact ih
      · rw [doubled_other hc]
        simp only [List.cons_append, List.nil_append, written, after_cons,
          step_inside_other hc]
        exact ih

/-- Nothing is written for the content of a literal, whatever it is. -/
theorem run_doubled (placeholder : List Char) (last : Option Char)
    (content cs : List Char) :
    run placeholder (inside q last) (doubled q content ++ cs)
      = run placeholder (inside q last) cs := by
  rw [run_append, (reading_doubled last content).1,
    (reading_doubled last content).2, List.nil_append]

/-- Behind the last quote of a literal the placeholder is written, and the
text goes on after it. -/
theorem run_leaving (hr : r.head? ≠ some q) :
    run placeholder (leaving q last) r
      = placeholder
        ++ run placeholder (copying (lastAfter last placeholder)) r := by
  cases r with
  | nil => exact (List.append_nil placeholder).symm
  | cons c r =>
      have hc : (leaving q last).takes c = false :=
        beq_eq_false_iff_ne.2 fun he => hr (by rw [he]; rfl)
      exact run_of_not_takes hc r

end Scan

-- ========================================================== complete texts

/-- Outside a literal a character that is no quote begins none. -/
theorem endsOutside_concat (hout : endsOutside placeholder p = true)
    (hc : isQuote c = false) : endsOutside placeholder (p ++ [c]) = true := by
  have hcopy : ∀ before,
      (Scan.copy placeholder before c).2.outside = true := by
    intro before
    rw [Scan.copy, hc, if_neg Bool.false_ne_true]
    split <;> rfl
  rw [endsOutside, modeAfter, Scan.after_concat]
  change ((modeAfter placeholder p).step placeholder c).2.outside = true
  obtain ⟨last, hmode⟩ | ⟨last, hmode⟩ | ⟨quote, last, hmode, hquote, -⟩ :=
    modeAfter_cases hout
  · rw [hmode]
    exact hcopy last
  · rw [hmode, Scan.step]
    split
    · rfl
    · exact hcopy last
  · have hne : ¬ (c == quote) = true := fun he => by
      rw [beq_iff_eq.1 he, hquote] at hc
      cases hc
    rw [hmode, Scan.step, if_neg hne]
    exact hcopy _

/-- Behind a literal the scanner is outside again. -/
theorem endsOutside_quoted (hout : endsOutside placeholder p = true)
    (hq : isQuote q = true) (hlast : p.getLast? ≠ some q)
    (content : List Char) :
    endsOutside placeholder (p ++ q :: doubled q content ++ [q]) = true := by
  rw [endsOutside, modeAfter, Scan.after_concat, Scan.after_append,
    Scan.after_cons]
  change (Scan.step placeholder (Scan.after placeholder
    ((modeAfter placeholder p).step placeholder q).2 _) q).2.outside = true
  rw [Scan.step_of_not_takes (takes_quote hout hq hlast), settled_modeAfter,
    Scan.step_copying_quote hq, (Scan.reading_doubled _ content).2,
    Scan.step_inside_quote]
  rfl

/-- The texts that leave the scanner outside are those in which each literal
that is begun is ended. -/
theorem endsOutside_iff : endsOutside placeholder p = true ↔ Complete p := by
  constructor
  · intro hout
    have hreads := reads_modeAfter placeholder p
    rw [endsOutside] at hout
    cases hmode : modeAfter placeholder p with
    | copying last =>
        rw [hmode] at hreads
        exact hreads.1
    | inside quote last =>
        rw [hmode] at hout
        cases hout
    | leaving quote last =>
        rw [hmode] at hreads
        obtain ⟨content, before, hopened, rfl⟩ := hreads
        exact hopened.complete
    | skipping last =>
        rw [hmode] at hreads
        exact hreads.1
  · intro h
    induction h with
    | nil => rfl
    | plain _ hc ih => exact endsOutside_concat ih hc
    | quoted content _ hq hlast ih =>
        exact endsOutside_quoted ih hq hlast content

-- ===================================================== one placeholder each

/-- The rest of a text is read as if the placeholder stood for the literal
before it. -/
theorem withoutLiterals_quoted (hout : endsOutside placeholder p = true)
    (hq : isQuote q = true) (hlast : p.getLast? ≠ some q)
    (hr : r.head? ≠ some q) (content : List Char) :
    withoutLiterals placeholder (p ++ q :: doubled q content ++ q :: r)
      = withoutLiterals placeholder p ++ placeholder
        ++ Scan.run placeholder (.copying
          (lastAfter (withoutLiterals placeholder p).getLast? placeholder)) r := by
  rw [List.append_assoc, List.cons_append,
    withoutLiterals_append_cons (takes_quote hout hq hlast), Scan.run_cons,
    Scan.step_copying_quote hq, Scan.run_doubled, Scan.run_cons,
    Scan.step_inside_quote, Scan.run_leaving hr]
  simp only [List.nil_append, List.append_assoc]

/-- A literal that is not ended is still written as a placeholder. -/
theorem withoutLiterals_open (hout : endsOutside placeholder p = true)
    (hq : isQuote q = true) (hlast : p.getLast? ≠ some q)
    (content : List Char) :
    withoutLiterals placeholder (p ++ q :: doubled q content)
      = withoutLiterals placeholder p ++ placeholder := by
  have hcontent : ∀ before, Scan.run placeholder (.inside q before)
      (doubled q content) = placeholder := fun before => by
    calc Scan.run placeholder (.inside q before) (doubled q content)
        = Scan.run placeholder (.inside q before) (doubled q content ++ []) := by
          rw [List.append_nil]
      _ = placeholder := Scan.run_doubled placeholder before content []
  rw [withoutLiterals_append_cons (takes_quote hout hq hlast), Scan.run_cons,
    Scan.step_copying_quote hq, hcontent]
  rfl

end Sql

namespace Sanitization

open Sql

/-- What a quoted literal holds never shows, whether it is ended or not: the
text before it is written as far as it went, and the placeholder stands for
the whole literal. -/
theorem quoted_content_never_shows (s : Sanitization)
    (henabled : s.enabled = true) {q : Char} (hq : isQuote q = true)
    {p : List Char} (hout : endsOutside s.placeholder.toList p = true)
    (hlast : p.getLast? ≠ some q) (content other : List Char) :
    (∀ r : List Char, r.head? ≠ some q →
      s.apply (p ++ q :: doubled q content ++ q :: r)
          = s.apply (p ++ q :: doubled q other ++ q :: r)
        ∧ withoutLiterals s.placeholder.toList p ++ s.placeholder.toList
          <+: withoutLiterals s.placeholder.toList
            (p ++ q :: doubled q content ++ q :: r))
    ∧ s.apply (p ++ q :: doubled q content)
        = s.apply (p ++ q :: doubled q other)
    ∧ withoutLiterals s.placeholder.toList (p ++ q :: doubled q content)
        = withoutLiterals s.placeholder.toList p ++ s.placeholder.toList := by
  have happly : ∀ sql, s.apply sql = truncate s.maxLength
      (withoutLiterals s.placeholder.toList sql) := fun sql => by
    rw [apply_eq_truncate, s.uncut_of_enabled henabled]
  refine ⟨fun r hr => ⟨?_, ?_⟩, ?_, withoutLiterals_open hout hq hlast content⟩
  · rw [happly, happly, withoutLiterals_quoted hout hq hlast hr,
      withoutLiterals_quoted hout hq hlast hr]
  · rw [withoutLiterals_quoted hout hq hlast hr]
    exact List.prefix_append _ _
  · rw [happly, happly, withoutLiterals_open hout hq hlast,
      withoutLiterals_open hout hq hlast]

/-- The placeholder ends a word, which the digit behind the literal goes on
with; a literal of the other kind stands before it. -/
theorem quoted_name_never_shows :
    let s : Sanitization := ⟨true, 19, "arg"⟩
    let p := "select \"é\"\"\" + ".toList
    let r := "1, 'b'".toList
    endsOutside s.placeholder.toList p = true
      ∧ s.apply (p ++ '\'' :: doubled '\'' "O'Brien".toList ++ '\'' :: r)
        = s.apply (p ++ '\'' :: doubled '\'' "\"7".toList ++ '\'' :: r)
      ∧ s.uncut (p ++ '\'' :: doubled '\'' "O'Brien".toList ++ '\'' :: r)
        = "select arg + arg1, arg".toList := by
  intro s p r
  have hout : endsOutside s.placeholder.toList p = true := by decide +kernel
  exact ⟨hout, ((quoted_content_never_shows s rfl rfl hout (by decide +kernel)
    "O'Brien".toList "\"7".toList).1 r (by decide +kernel)).1,
    by decide +kernel⟩

end Sanitization

end PooledChain
