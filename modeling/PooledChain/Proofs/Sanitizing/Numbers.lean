/-
Numbers, of which an exponent can show.

A number is announced by its first digit, for which the placeholder is
written, and the digits and dots behind it are skipped. So much is read of
its whole part and its fraction. The letter of an exponent is none of these
and is copied; the digits behind it then stand in a word and are copied with
it, unless a sign comes first: behind the sign a number begins anew, and has
a placeholder of its own. What is written of a number behind its placeholder
is thus nothing, its exponent as it stands, or a letter, a sign and a second
placeholder (`Number.shown`).

Two numbers of one shape give the same sanitized text if the same is written
of them, and where the text is not cut, only then
(`Sanitization.numbers_show_their_exponents`). The digits of an exponent
without a sign do show (`Sanitization.unsigned_exponent_shows`).

What follows a number is the same for both, although the last characters
written are different digits: of the last character it only matters whether
a word could go on behind it (`Scan.Alike`).
-/
import PooledChain.Proofs.Sanitizing.Quoted
import PooledChain.Proofs.Writing.Values

namespace PooledChain

namespace Sql

variable {placeholder : List Char} {mode mode' : Scan} {c : Char}
  {last last' : Option Char} {p cs ds : List Char}

-- ================================================= what the last one decides

/-- Whether a word goes on is decided by what is written, if something
is. -/
theorem endsInWord_lastAfter (h : endsInWord last = endsInWord last')
    (out : List Char) :
    endsInWord (lastAfter last out) = endsInWord (lastAfter last' out) := by
  cases out with
  | nil => exact h
  | cons c out => rw [lastAfter_cons, lastAfter_cons]

/-- Behind a digit a word goes on. -/
theorem endsInWord_digit (h : c.isDigit = true) :
    endsInWord (some c) = true := by
  have hclass : c.isAlphanum = true := by rw [Char.isAlphanum, h, Bool.or_true]
  rw [endsInWord, Text.isAlphanumeric_of_isAlphanum hclass, Bool.true_or]

/-- Digits behind a word are part of it. -/
theorem endsInWord_digits (hword : endsInWord last = true)
    (h : ∀ c ∈ cs, c.isDigit = true) :
    endsInWord (lastAfter last cs) = true := by
  induction cs generalizing last with
  | nil => exact hword
  | cons c cs ih =>
      rw [lastAfter_cons]
      exact ih (endsInWord_digit (h c List.mem_cons_self))
        fun d hd => h d (List.mem_cons_of_mem c hd)

namespace Scan

/-- Whether two modes are the same but for the last character written, with
a word to go on behind both or behind neither. -/
inductive Alike : Scan → Scan → Prop
  | copying {last last' : Option Char} :
    endsInWord last = endsInWord last' → Alike (copying last) (copying last')
  | inside {last last' : Option Char} (quote : Char) :
    endsInWord last = endsInWord last' →
      Alike (inside quote last) (inside quote last')
  | leaving {last last' : Option Char} (quote : Char) :
    endsInWord last = endsInWord last' →
      Alike (leaving quote last) (leaving quote last')
  | skipping {last last' : Option Char} :
    endsInWord last = endsInWord last' → Alike (skipping last) (skipping last')

/-- Modes that are alike write the same for a character of the text
itself. -/
theorem Alike.copy (h : endsInWord last = endsInWord last')
    (placeholder : List Char) (c : Char) :
    (copy placeholder last c).1 = (copy placeholder last' c).1
      ∧ Alike (copy placeholder last c).2 (copy placeholder last' c).2 := by
  rw [Scan.copy, Scan.copy, h]
  split
  · exact ⟨rfl, .inside c h⟩
  · split
    · exact ⟨rfl, .skipping (endsInWord_lastAfter h placeholder)⟩
    · exact ⟨rfl, .copying rfl⟩

/-- Such modes write the same for a character, and lead to such modes. -/
theorem Alike.step (h : Alike mode mode') (placeholder : List Char) (c : Char) :
    (mode.step placeholder c).1 = (mode'.step placeholder c).1
      ∧ Alike (mode.step placeholder c).2 (mode'.step placeholder c).2 := by
  cases h with
  | copying h => exact Alike.copy h placeholder c
  | inside quote h =>
      rw [Scan.step, Scan.step]
      split
      · exact ⟨rfl, .leaving quote h⟩
      · exact ⟨rfl, .inside quote h⟩
  | leaving quote h =>
      rw [Scan.step, Scan.step]
      split
      · exact ⟨rfl, .inside quote h⟩
      · obtain ⟨hout, hnext⟩ :=
          Alike.copy (endsInWord_lastAfter h placeholder) placeholder c
        exact ⟨congrArg (placeholder ++ ·) hout, hnext⟩
  | skipping h =>
      rw [Scan.step, Scan.step]
      split
      · exact ⟨rfl, .skipping h⟩
      · exact Alike.copy h placeholder c

/-- Modes that are alike write the same for every text. -/
theorem Alike.run_eq (h : Alike mode mode') (placeholder cs : List Char) :
    run placeholder mode cs = run placeholder mode' cs := by
  induction cs generalizing mode mode' with
  | nil => cases h <;> rfl
  | cons c cs ih =>
      obtain ⟨hout, hnext⟩ := h.step placeholder c
      rw [run_cons, run_cons, hout, ih hnext]

-- ========================================================== runs of digits

/-- Digits and dots behind the first digit of a number are skipped. -/
theorem run_skipping (h : ∀ c ∈ cs, c.isDigit = true ∨ c = '.')
    (ds : List Char) :
    run placeholder (skipping last) (cs ++ ds)
      = run placeholder (skipping last) ds := by
  induction cs with
  | nil => rfl
  | cons c cs ih =>
      have hc : (c.isDigit || c == '.') = true := by
        rw [Bool.or_eq_true, beq_iff_eq]
        exact h c List.mem_cons_self
      rw [List.cons_append, run_cons, step_skipping_part hc]
      exact ih fun d hd => h d (List.mem_cons_of_mem c hd)

/-- The first digit of a number is written as the placeholder; digits behind
it make no difference to the text after them. -/
theorem run_digits (placeholder : List Char)
    (hword : endsInWord last = false) (h : Digits cs) (ds : List Char) :
    run placeholder (copying last) (cs ++ ds) = placeholder
      ++ run placeholder (skipping (lastAfter last placeholder)) ds := by
  obtain ⟨hne, hall⟩ := h
  cases cs with
  | nil => exact absurd rfl hne
  | cons c cs =>
      have hc : c.isDigit = true := hall c List.mem_cons_self
      rw [List.cons_append, run_cons, step_copying_digit hc hword,
        run_skipping fun d hd => .inl (hall d (List.mem_cons_of_mem c hd))]

/-- Digits that continue a word are copied. -/
theorem run_word_digits (placeholder : List Char)
    (hword : endsInWord last = true) (h : ∀ c ∈ cs, c.isDigit = true)
    (ds : List Char) :
    run placeholder (copying last) (cs ++ ds)
      = cs ++ run placeholder (copying (lastAfter last cs)) ds := by
  induction cs generalizing last with
  | nil => rfl
  | cons c cs ih =>
      have hc : c.isDigit = true := h c List.mem_cons_self
      have hrest := ih (endsInWord_digit hc)
        fun d hd => h d (List.mem_cons_of_mem c hd)
      rw [List.cons_append, run_cons,
        step_copying_plain (isQuote_digit hc) fun _ => hword, hrest,
        lastAfter_cons]
      rfl

end Scan

-- ================================================================= numbers

instance (cs : List Char) : Decidable (Digits cs) :=
  decidable_of_iff (!cs.isEmpty && cs.all Char.isDigit) (by simp [Digits])

/-- An exponent, with a sign or without. -/
structure Exponent where
  letter : Char
  sign : Option Char
  digits : List Char
  letter_is : letter = 'e' ∨ letter = 'E'
  sign_is : ∀ c ∈ sign, c = '+' ∨ c = '-'
  digits_are : Digits digits

/-- A number without a sign: digits, perhaps a dot and more digits, and
perhaps an exponent. -/
structure Number where
  whole : List Char
  fraction : Option (List Char)
  exponent : Option Exponent
  whole_is : Digits whole
  fraction_is : ∀ ds ∈ fraction, Digits ds

namespace Exponent

variable (e : Exponent)

/-- An exponent as it is written. -/
def text : List Char :=
  e.letter :: e.sign.toList ++ e.digits

/-- What is written for an exponent. -/
def shown (placeholder : List Char) : List Char :=
  match e.sign with
  | none => e.letter :: e.digits
  | some c => e.letter :: c :: placeholder

/-- The mode behind an exponent. -/
def ending (placeholder : List Char) : Scan :=
  match e.sign with
  | none => .copying (lastAfter (some e.letter) e.digits)
  | some c => .skipping (lastAfter (some c) placeholder)

/-- Behind the letter of an exponent a word goes on. -/
theorem endsInWord_letter : endsInWord (some e.letter) = true := by
  rcases e.letter_is with h | h <;> rw [h] <;> decide +kernel

variable {e} in
/-- Behind its sign none does. -/
theorem endsInWord_sign (h : e.sign = some c) :
    endsInWord (some c) = false := by
  rcases e.sign_is c h with h | h <;> rw [h] <;> decide +kernel

/-- Behind a mantissa that is skipped the scanner shows of an exponent what
it shows of it. -/
theorem run_text (placeholder : List Char) (last : Option Char)
    (r : List Char) :
    Scan.run placeholder (.skipping last) (e.text ++ r)
      = e.shown placeholder
        ++ Scan.run placeholder (e.ending placeholder) r := by
  have hletter : Scan.step placeholder (.skipping last) e.letter
      = ([e.letter], .copying (some e.letter)) := by
    rcases e.letter_is with h | h <;> rw [h] <;> rfl
  rw [text, List.cons_append, List.cons_append, Scan.run_cons, hletter, shown,
    ending]
  cases hsign : e.sign with
  | none =>
      have hdigits := Scan.run_word_digits placeholder e.endsInWord_letter
        e.digits_are.2 r
      exact congrArg (e.letter :: ·) hdigits
  | some c =>
      have hcopied : Scan.step placeholder (.copying (some e.letter)) c
          = ([c], .copying (some c)) := by
        rcases e.sign_is c hsign with h | h <;> rw [h] <;> rfl
      have hdigits := Scan.run_digits placeholder (endsInWord_sign hsign)
        e.digits_are r
      simp only [Option.toList_some, List.cons_append, List.nil_append,
        Scan.run_cons, hcopied, hdigits]

/-- What follows an exponent is written in the same way behind any other,
if both have a sign or neither. -/
theorem ending_alike {d : Exponent} (h : d.sign.isSome = e.sign.isSome)
    (placeholder : List Char) :
    (d.ending placeholder).Alike (e.ending placeholder) := by
  have hword : ∀ e : Exponent,
      endsInWord (lastAfter (some e.letter) e.digits) = true := fun e =>
    endsInWord_digits e.endsInWord_letter e.digits_are.2
  rw [ending, ending]
  cases hd : d.sign with
  | none =>
      cases he : e.sign with
      | none => exact .copying ((hword d).trans (hword e).symm)
      | some c => simp [hd, he] at h
  | some b =>
      cases he : e.sign with
      | none => simp [hd, he] at h
      | some c =>
          have hsigns : endsInWord (some b) = endsInWord (some c) :=
            (endsInWord_sign hd).trans (endsInWord_sign he).symm
          exact .skipping (endsInWord_lastAfter hsigns placeholder)

end Exponent

namespace Number

variable (n : Number)

/-- The part of a number before its exponent. -/
def mantissa : List Char :=
  n.whole ++ n.fraction.elim [] ('.' :: ·)

/-- A number as it is written. -/
def text : List Char :=
  n.mantissa ++ n.exponent.elim [] Exponent.text

/-- Which parts a number has. -/
def shape : Bool × Option Bool :=
  (n.fraction.isSome, n.exponent.map (·.sign.isSome))

/-- What is written for a number behind its placeholder. -/
def shown (placeholder : List Char) : List Char :=
  n.exponent.elim [] (·.shown placeholder)

/-- The mode behind a number whose mantissa was skipped. -/
def ending (placeholder : List Char) (last : Option Char) : Scan :=
  n.exponent.elim (.skipping last) (·.ending placeholder)

variable {n} {m : Number}

/-- A mantissa is made of digits and dots. -/
theorem mem_mantissa (h : c ∈ n.mantissa) : c.isDigit = true ∨ c = '.' := by
  rw [mantissa, List.mem_append] at h
  rcases h with h | h
  · exact .inl (n.whole_is.2 c h)
  · cases hfraction : n.fraction with
    | none =>
        rw [hfraction] at h
        cases h
    | some ds =>
        rw [hfraction] at h
        rcases List.mem_cons.1 h with h | h
        · exact .inr h
        · exact .inl ((n.fraction_is ds hfraction).2 c h)

/-- A number begins with a digit. -/
theorem exists_text_eq (n : Number) :
    ∃ c cs, c.isDigit = true ∧ n.text = c :: cs := by
  obtain ⟨hne, hall⟩ := n.whole_is
  obtain ⟨c, cs, hwhole⟩ := List.exists_cons_of_ne_nil hne
  have hc : c.isDigit = true := hall c (hwhole ▸ List.mem_cons_self)
  rw [text, mantissa, hwhole]
  exact ⟨c, _, hc, rfl⟩

/-- The scanner skips the mantissa of a number and shows what it shows of
its exponent. -/
theorem run_text_skipping (n : Number) (placeholder : List Char)
    (last : Option Char) (r : List Char) :
    Scan.run placeholder (.skipping last) (n.text ++ r)
      = n.shown placeholder
        ++ Scan.run placeholder (n.ending placeholder last) r := by
  rw [text, List.append_assoc, Scan.run_skipping fun c hc => mem_mantissa hc,
    shown, ending]
  cases n.exponent with
  | none => rfl
  | some e => exact e.run_text placeholder last r

/-- Where no word goes on, the scanner writes the placeholder for a number,
and what it shows of its exponent. -/
theorem run_text_copying (n : Number) (placeholder : List Char)
    (hword : endsInWord last = false) (r : List Char) :
    Scan.run placeholder (.copying last) (n.text ++ r)
      = placeholder ++ n.shown placeholder ++ Scan.run placeholder
          (n.ending placeholder (lastAfter last placeholder)) r := by
  have hskipped := n.run_text_skipping placeholder
    (lastAfter last placeholder) r
  rw [text, mantissa, List.append_assoc, List.append_assoc,
    Scan.run_skipping fun c hc => .inl (n.whole_is.2 c hc)] at hskipped
  rw [text, mantissa, List.append_assoc, List.append_assoc,
    Scan.run_digits placeholder hword n.whole_is, hskipped, List.append_assoc]

/-- What follows a number is written in the same way behind any number of
the same shape. -/
theorem ending_alike (h : m.shape = n.shape) (placeholder : List Char)
    (last : Option Char) :
    (m.ending placeholder last).Alike (n.ending placeholder last) := by
  have hexponent : m.exponent.map (·.sign.isSome)
      = n.exponent.map (·.sign.isSome) := congrArg Prod.snd h
  rw [ending, ending]
  cases hm : m.exponent with
  | none =>
      cases hn : n.exponent with
      | none => exact .skipping rfl
      | some e => simp [hm, hn] at hexponent
  | some d =>
      cases hn : n.exponent with
      | none => simp [hm, hn] at hexponent
      | some e =>
          rw [hm, hn] at hexponent
          exact e.ending_alike (Option.some.inj hexponent) placeholder

end Number

-- ====================================================== numbers in a text

/-- Only a number goes on with a character that is no quote. -/
theorem modeAfter_of_takes (hout : endsOutside placeholder p = true)
    (hc : isQuote c = false) (h : (modeAfter placeholder p).takes c = true) :
    modeAfter placeholder p
      = .skipping (withoutLiterals placeholder p).getLast? := by
  have hsettled := settled_modeAfter placeholder p
  obtain ⟨last, hmode⟩ | ⟨last, hmode⟩ | ⟨quote, last, hmode, hquote, -⟩ :=
    modeAfter_cases hout
  · rw [hmode] at h
    cases h
  · rw [hmode] at hsettled ⊢
    cases hsettled
    rfl
  · rw [hmode] at h
    rw [beq_iff_eq.1 h, hquote] at hc
    cases hc

/-- Behind a prefix that ends in a number the rest is read as part of it. -/
theorem withoutLiterals_append_of_skipping
    (h : modeAfter placeholder p = .skipping last) (ds : List Char) :
    withoutLiterals placeholder (p ++ ds)
      = withoutLiterals placeholder p
        ++ Scan.run placeholder (.skipping last) ds := by
  have hp : withoutLiterals placeholder p
      = Scan.written placeholder (.copying none) p := by
    rw [withoutLiterals, Scan.run_eq]
    change _ ++ (modeAfter placeholder p).finish placeholder = _
    rw [h]
    exact List.append_nil _
  rw [hp, ← h]
  exact Scan.run_append _ p ds

/-- What is written for a text stays when a number is added. -/
theorem withoutLiterals_prefix_number
    (hout : endsOutside placeholder p = true) (n : Number) (r : List Char) :
    withoutLiterals placeholder p
      <+: withoutLiterals placeholder (p ++ n.text ++ r) := by
  obtain ⟨c, cs, hc, htext⟩ := n.exists_text_eq
  rw [htext, List.append_assoc, List.cons_append]
  cases htakes : (modeAfter placeholder p).takes c with
  | false =>
      rw [withoutLiterals_append_cons htakes]
      exact List.prefix_append _ _
  | true =>
      rw [withoutLiterals_append_of_skipping
        (modeAfter_of_takes hout (isQuote_digit hc) htakes)]
      exact List.prefix_append _ _

/-- A number behind a text that does not end in a word: what is written for
the text, a placeholder unless the text ends in a number itself, what is
shown of the number, and what is written for the rest. -/
theorem withoutLiterals_number (hout : endsOutside placeholder p = true)
    (hword : endsInWord (withoutLiterals placeholder p).getLast? = false) :
    ∃ opening last, ∀ (n : Number) (r : List Char),
      withoutLiterals placeholder (p ++ n.text ++ r)
        = withoutLiterals placeholder p ++ opening
          ++ (n.shown placeholder
            ++ Scan.run placeholder (n.ending placeholder last) r) := by
  by_cases hskipping : ∃ last, modeAfter placeholder p = .skipping last
  · obtain ⟨last, hmode⟩ := hskipping
    refine ⟨[], last, fun n r => ?_⟩
    rw [List.append_assoc, withoutLiterals_append_of_skipping hmode,
      n.run_text_skipping, List.append_nil]
  · refine ⟨placeholder, lastAfter (withoutLiterals placeholder p).getLast?
      placeholder, fun n r => ?_⟩
    obtain ⟨c, cs, hc, htext⟩ := n.exists_text_eq
    have htakes : (modeAfter placeholder p).takes c = false := by
      refine Bool.eq_false_iff.2 fun htakes => hskipping ?_
      exact ⟨_, modeAfter_of_takes hout (isQuote_digit hc) htakes⟩
    have hnumber := n.run_text_copying placeholder hword r
    rw [htext, List.cons_append] at hnumber
    rw [htext, List.append_assoc, List.cons_append,
      withoutLiterals_append_cons htakes, hnumber]
    simp only [List.append_assoc]

end Sql

namespace Sanitization

open Sql

/-- Of a number only its exponent can show, the digits of it only if it has
no sign: two numbers of one shape of which the same is shown give the same
sanitized text, whatever the length it is cut to. If neither text is cut,
they do so only then. -/
theorem numbers_show_their_exponents (limit : Nat) {m n : Number}
    (hshape : m.shape = n.shape) {p : List Char}
    (hout : endsOutside ['?'] p = true)
    (hword : endsInWord
      ({ standard with maxLength := limit }.apply p).getLast? = false)
    (r : List Char) :
    let s : Sanitization := { standard with maxLength := limit }
    (m.shown ['?'] = n.shown ['?'] →
      s.apply (p ++ m.text ++ r) = s.apply (p ++ n.text ++ r))
    ∧ ((String.ofList (s.uncut (p ++ m.text ++ r))).utf8ByteSize ≤ limit →
      (String.ofList (s.uncut (p ++ n.text ++ r))).utf8ByteSize ≤ limit →
      s.apply (p ++ m.text ++ r) = s.apply (p ++ n.text ++ r) →
        m.shown ['?'] = n.shown ['?']) := by
  intro s
  have hplaceholder : s.placeholder.toList = ['?'] := by
    change "?".toList = ['?']
    rfl
  have huncut : ∀ sql, s.uncut sql = withoutLiterals ['?'] sql := fun sql => by
    rw [s.uncut_of_enabled rfl, hplaceholder]
  simp only [← byteLength_eq_utf8ByteSize, apply_eq_truncate, huncut]
  rcases Nat.lt_or_ge limit (byteLength (withoutLiterals ['?'] p))
    with hcut | hfits
  · -- the cut is made before the number is reached
    obtain ⟨more, hm⟩ := withoutLiterals_prefix_number hout m r
    obtain ⟨more', hn⟩ := withoutLiterals_prefix_number hout n r
    rw [← hm, ← hn, truncate_append hcut, truncate_append hcut,
      byteLength_append]
    exact ⟨fun _ => rfl, fun hfits => by omega⟩
  · have hp : s.apply p = withoutLiterals ['?'] p := by
      rw [apply_eq_truncate, huncut]
      exact truncate_of_fits hfits
    have hword : endsInWord (withoutLiterals ['?'] p).getLast? = false := by
      rw [← hp]
      exact hword
    obtain ⟨opening, last, hnumber⟩ := withoutLiterals_number hout hword
    have hrest := (Number.ending_alike hshape ['?'] last).run_eq ['?'] r
    rw [hnumber m, hnumber n, hrest]
    refine ⟨fun hshown => by rw [hshown], fun hm hn heq => ?_⟩
    rw [truncate_of_fits hm, truncate_of_fits hn] at heq
    exact List.append_cancel_right (List.append_cancel_left heq)

/-- Behind the sign of an exponent a number begins anew, so the digits there
do not show either. -/
theorem signed_exponents_are_alike :
    let m : Number :=
      { whole := ['1', '2'], fraction := some ['5'],
        exponent := some
          { letter := 'e', sign := some '-', digits := ['3']
            letter_is := .inl rfl
            sign_is := fun | _, rfl => .inr rfl
            digits_are := by decide }
        whole_is := by decide
        fraction_is := fun | _, rfl => by decide }
    let n : Number :=
      { whole := ['7'], fraction := some ['0', '9'],
        exponent := some
          { letter := 'e', sign := some '-', digits := ['1', '0']
            letter_is := .inl rfl
            sign_is := fun | _, rfl => .inr rfl
            digits_are := by decide }
        whole_is := by decide
        fraction_is := fun | _, rfl => by decide }
    let p := "where 'a' < b2 and c > ".toList
    m.shape = n.shape
      ∧ endsOutside ['?'] p = true
      ∧ m.shown ['?'] = n.shown ['?']
      ∧ { standard with maxLength := 40 }.apply (p ++ m.text ++ " or d".toList)
        = { standard with maxLength := 40 }.apply
            (p ++ n.text ++ " or d".toList)
      ∧ { standard with maxLength := 40 }.apply (p ++ m.text ++ " or d".toList)
        = "where ? < b2 and c > ?e-? or d".toList := by
  intro m n p
  have hshape : m.shape = n.shape := rfl
  have hout : endsOutside ['?'] p = true := by decide +kernel
  have hword : endsInWord
      ({ standard with maxLength := 40 }.apply p).getLast? = false := by
    decide +kernel
  have hshown : m.shown ['?'] = n.shown ['?'] := rfl
  exact ⟨hshape, hout, hshown, (numbers_show_their_exponents 40 hshape hout
    hword " or d".toList).1 hshown, by decide +kernel⟩

/-- The digits of an exponent without a sign are copied behind its letter. -/
theorem unsigned_exponent_shows :
    let m : Number :=
      { whole := ['1'], fraction := none,
        exponent := some
          { letter := 'e', sign := none, digits := ['5']
            letter_is := .inl rfl
            sign_is := nofun
            digits_are := by decide }
        whole_is := by decide
        fraction_is := nofun }
    let n : Number :=
      { whole := ['1'], fraction := none,
        exponent := some
          { letter := 'e', sign := none, digits := ['7']
            letter_is := .inl rfl
            sign_is := nofun
            digits_are := by decide }
        whole_is := by decide
        fraction_is := nofun }
    m.shape = n.shape
      ∧ endsOutside ['?'] "select ".toList = true
      ∧ standard.apply "select ".toList = "select ".toList
      ∧ standard.apply ("select ".toList ++ m.text ++ []) = "select ?e5".toList
      ∧ standard.apply ("select ".toList ++ n.text ++ [])
        = "select ?e7".toList := by
  decide +kernel

end Sanitization

end PooledChain
