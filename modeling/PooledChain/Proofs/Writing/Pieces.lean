/-
Texts taken apart, and what they are put together from.

A written text is cut at separators (`pieces`, `cut?`), and white space
is taken off its ends (`trim`), before it means anything. Here each of
the three is tied to a way of saying the same without it: a text is its
pieces with the separator between them, and no piece holds the separator
(`pieces_eq_iff`); a first separator has a text before it that holds none
(`cut?_eq_some_iff`); and what trimming leaves stands between white space
and has none at its own ends (`trims_iff`).

The laws on readers and printers of definitions are stated with the right
sides of these and proved with the left ones.
-/
import Mathlib.Data.List.TakeWhile
import PooledChain.Text.Blank
import PooledChain.Text.Pieces

namespace PooledChain.Text

variable {sep c : Char} {cs before inner after : List Char}
  {ps : List (List Char)}

-- ========================================================== separators

/-- The pieces between separators are those of splitting at them. -/
theorem pieces_eq_splitOn (sep : Char) (cs : List Char) :
    pieces sep cs = cs.splitOn sep := by
  rw [List.splitOn_eq_splitOnP]
  induction cs with
  | nil => rfl
  | cons c cs ih =>
      rw [pieces, List.splitOnP_cons_eq_if_modifyHead, ih]
      split
      · rfl
      · cases hps : List.splitOnP (· == sep) cs with
        | nil => exact absurd (ih.trans hps) (pieces_ne_nil sep cs)
        | cons p ps => rfl

/-- No piece holds the separator. -/
theorem not_mem_of_mem_pieces {p : List Char} (hp : p ∈ pieces sep cs) :
    sep ∉ p := by
  induction cs generalizing p with
  | nil =>
      rw [pieces, List.mem_singleton] at hp
      simp [hp]
  | cons c cs ih =>
      rw [pieces] at hp
      split at hp
      · rcases List.mem_cons.1 hp with rfl | hp
        · exact List.not_mem_nil
        · exact ih hp
      · next hc =>
        have hc : sep ≠ c := fun h => hc (by simp [h])
        cases hps : pieces sep cs with
        | nil => exact absurd hps (pieces_ne_nil sep cs)
        | cons q qs =>
            rw [hps] at hp ih
            rcases List.mem_cons.1 hp with rfl | hp
            · simpa [hc] using ih List.mem_cons_self
            · exact ih (List.mem_cons_of_mem q hp)

/-- A text is its pieces with the separator between them. -/
theorem pieces_eq_iff :
    pieces sep cs = ps
      ↔ ps ≠ [] ∧ (∀ p ∈ ps, sep ∉ p) ∧ cs = [sep].intercalate ps := by
  constructor
  · rintro rfl
    refine ⟨pieces_ne_nil sep cs, fun p hp => not_mem_of_mem_pieces hp, ?_⟩
    rw [pieces_eq_splitOn]
    exact (List.intercalate_splitOn sep).symm
  · rintro ⟨hne, hfree, rfl⟩
    rw [pieces_eq_splitOn]
    exact List.splitOn_intercalate sep hfree hne

/-- A character of a joined text is the separator or one of a part. -/
theorem mem_intercalate (h : c ∈ [sep].intercalate ps) :
    c = sep ∨ ∃ p ∈ ps, c ∈ p := by
  induction ps with
  | nil => cases h
  | cons p ps ih =>
      cases ps with
      | nil =>
          rw [List.intercalate_singleton] at h
          exact .inr ⟨p, List.mem_cons_self, h⟩
      | cons q qs =>
          rw [List.intercalate_cons_cons, List.append_assoc,
            List.mem_append, List.mem_append] at h
          rcases h with h | h | h
          · exact .inr ⟨p, List.mem_cons_self, h⟩
          · exact .inl (List.mem_singleton.1 h)
          · obtain hc | ⟨r, hr, hc⟩ := ih h
            · exact .inl hc
            · exact .inr ⟨r, List.mem_cons_of_mem p hr, hc⟩

/-- What a piece holds, the text holds. -/
theorem mem_of_mem_pieces {p : List Char} (hp : p ∈ pieces sep cs)
    (hc : c ∈ p) : c ∈ cs := by
  induction cs generalizing p with
  | nil =>
      rw [pieces, List.mem_singleton] at hp
      subst hp
      cases hc
  | cons d cs ih =>
      rw [pieces] at hp
      split at hp
      · rcases List.mem_cons.1 hp with rfl | hp
        · cases hc
        · exact List.mem_cons_of_mem d (ih hp hc)
      · cases hps : pieces sep cs with
        | nil => exact absurd hps (pieces_ne_nil sep cs)
        | cons q qs =>
            rw [hps] at hp ih
            rcases List.mem_cons.1 hp with rfl | hp
            · rcases List.mem_cons.1 hc with rfl | hc
              · exact List.mem_cons_self
              · exact List.mem_cons_of_mem d (ih List.mem_cons_self hc)
            · exact List.mem_cons_of_mem d
                (ih (List.mem_cons_of_mem q hp) hc)

/-- A text is cut at the first separator. -/
theorem cut?_append (h : sep ∉ before) (after : List Char) :
    cut? sep (before ++ sep :: after) = some (before, after) := by
  induction before with
  | nil => simp [cut?]
  | cons c before ih =>
      have hc : ¬ c = sep := fun he => h (he ▸ List.mem_cons_self)
      have ih := ih fun hm => h (List.mem_cons_of_mem c hm)
      rw [List.cons_append, cut?, if_neg (by simpa using hc), ih]
      rfl

/-- The first separator has a text before it that holds none. -/
theorem cut?_eq_some_iff :
    cut? sep cs = some (before, after)
      ↔ cs = before ++ sep :: after ∧ sep ∉ before := by
  refine ⟨eq_of_cut?, ?_⟩
  rintro ⟨rfl, h⟩
  exact cut?_append h after

/-- A text cannot be cut just when it has no separator. -/
theorem cut?_eq_none_iff : cut? sep cs = none ↔ sep ∉ cs := by
  constructor
  · intro h hm
    obtain ⟨before, after, rfl, hb⟩ := List.eq_append_cons_of_mem hm
    rw [cut?_append hb] at h
    cases h
  · intro h
    cases hcut : cut? sep cs with
    | none => rfl
    | some p =>
        obtain ⟨rfl, -⟩ := cut?_eq_some_iff.1 hcut
        exact absurd (List.mem_append_right _ List.mem_cons_self) h

-- ========================================================= white space

/-- Whether a text has no white space at its ends. -/
structure Tight (cs : List Char) : Prop where
  first : ∀ c ∈ cs.head?, isBlank c = false
  last : ∀ c ∈ cs.getLast?, isBlank c = false

/-- A text without white space has none at its ends. -/
theorem Tight.of_not_blank (h : ∀ c ∈ cs, isBlank c = false) : Tight cs :=
  ⟨fun c hc => h c (List.mem_of_mem_head? hc),
    fun c hc => h c (List.mem_of_mem_getLast? hc)⟩

/-- Whether a text is another one with nothing but white space around it,
and that one has none at its ends. -/
structure Trims (cs inner : List Char) : Prop where
  tight : Tight inner
  around : ∃ before after, allBlank before = true ∧ allBlank after = true
    ∧ cs = before ++ inner ++ after

/-- White space in front is dropped, up to the first character that is
none. -/
theorem dropBlank_append (hb : allBlank before = true)
    (h : ∀ c ∈ cs.head?, isBlank c = false) :
    (before ++ cs).dropWhile isBlank = cs := by
  rw [List.dropWhile_append_of_pos (List.all_eq_true.1 hb)]
  cases cs with
  | nil => rfl
  | cons c cs =>
      exact List.dropWhile_cons_of_neg (Bool.eq_false_iff.1 (h c rfl))

/-- A text is blank in either direction. -/
theorem allBlank_reverse (cs : List Char) :
    allBlank cs.reverse = allBlank cs := List.all_reverse

/-- White space at the end is taken off, back to the last character that is
none. -/
theorem trimEnd_append (ha : allBlank after = true)
    (h : ∀ c ∈ cs.getLast?, isBlank c = false) :
    trimEnd (cs ++ after) = cs := by
  rw [trimEnd, List.reverse_append,
    dropBlank_append (by rwa [allBlank_reverse]) (by rwa [List.head?_reverse]),
    List.reverse_reverse]

/-- Two parts are blank when each is. -/
theorem allBlank_append :
    allBlank (before ++ after) = (allBlank before && allBlank after) :=
  List.all_append

/-- Only one text is left when white space is taken off. -/
theorem Trims.trim_eq (h : Trims cs inner) : trim cs = inner := by
  obtain ⟨before, after, hb, ha, rfl⟩ := h.around
  rw [trim, trimStart, List.append_assoc]
  cases inner with
  | nil =>
      have hall : allBlank (before ++ after) = true := by
        rw [allBlank_append, hb, ha]
        rfl
      rw [List.nil_append, List.dropWhile_eq_nil_iff.2 (List.all_eq_true.1 hall)]
      rfl
  | cons c cs =>
      have hfirst : ∀ d ∈ (c :: cs ++ after).head?, isBlank d = false :=
        h.tight.first
      rw [dropBlank_append hb hfirst]
      exact trimEnd_append ha h.tight.last

/-- What a text begins with after the white space at its beginning. -/
theorem trimStart_split (cs : List Char) :
    ∃ before, allBlank before = true ∧ cs = before ++ trimStart cs
      ∧ ∀ c ∈ (trimStart cs).head?, isBlank c = false := by
  refine ⟨cs.takeWhile isBlank, List.all_takeWhile,
    List.takeWhile_append_dropWhile.symm, fun c hc => ?_⟩
  have h := List.head?_dropWhile_not isBlank cs
  rw [trimStart] at hc
  rw [Option.mem_def.1 hc] at h
  exact h

/-- What a text ends with before the white space at its end. -/
theorem trimEnd_split (cs : List Char) :
    ∃ after, allBlank after = true ∧ cs = trimEnd cs ++ after
      ∧ ∀ c ∈ (trimEnd cs).getLast?, isBlank c = false := by
  obtain ⟨after, ha, hrev, hfirst⟩ := trimStart_split cs.reverse
  refine ⟨after.reverse, by rwa [allBlank_reverse], ?_, fun c hc => ?_⟩
  · have h := congrArg List.reverse hrev
    rwa [List.reverse_reverse, List.reverse_append] at h
  · exact hfirst c (by rwa [← List.getLast?_reverse])

/-- What is left is the text without its white space. -/
theorem trims_trim (cs : List Char) : Trims cs (trim cs) := by
  obtain ⟨before, hb, hcs, hfirst⟩ := trimStart_split cs
  obtain ⟨after, ha, hinner, hlast⟩ := trimEnd_split (trimStart cs)
  have hinner : trimStart cs = trim cs ++ after := hinner
  refine ⟨⟨fun c hc => hfirst c ?_, hlast⟩, before, after, hb, ha, ?_⟩
  · rw [hinner]
    cases htrim : trim cs with
    | nil => rw [htrim] at hc; cases hc
    | cons d ds => rw [htrim] at hc; exact hc
  · rw [List.append_assoc, ← hinner]
    exact hcs

/-- Trimming finds the one text that stands between white space. -/
theorem trims_iff : Trims cs inner ↔ inner = trim cs := by
  refine ⟨fun h => h.trim_eq.symm, ?_⟩
  rintro rfl
  exact trims_trim cs

/-- What is left has no white space at its ends. -/
theorem tight_trim (cs : List Char) : Tight (trim cs) := (trims_trim cs).tight

/-- A text without white space at its ends has nothing to take off. -/
theorem Tight.trims (h : Tight cs) : Trims cs cs :=
  ⟨h, [], [], rfl, rfl, (List.append_nil cs).symm⟩

/-- It is left as it is. -/
theorem Tight.trim_eq (h : Tight cs) : trim cs = cs := h.trims.trim_eq

/-- Nothing is left just when the text is blank. -/
theorem trim_eq_nil_iff : trim cs = [] ↔ allBlank cs = true := by
  constructor
  · intro h
    obtain ⟨before, after, hb, ha, hcs⟩ := (trims_trim cs).around
    rw [h, List.append_nil] at hcs
    rw [hcs, allBlank_append, hb, ha]
    rfl
  · intro h
    exact Trims.trim_eq ⟨⟨nofun, nofun⟩, cs, [], h, rfl, by simp⟩

/-- What trimming leaves, the text holds. -/
theorem mem_of_mem_trim (h : c ∈ trim cs) : c ∈ cs := by
  obtain ⟨before, after, -, -, hcs⟩ := (trims_trim cs).around
  rw [hcs]
  exact List.mem_append_left _ (List.mem_append_right _ h)

/-- White space in front of a text is of no account. -/
theorem trim_append_left (hb : allBlank before = true) (cs : List Char) :
    trim (before ++ cs) = trim cs := by
  obtain ⟨b, a, hb', ha, hcs⟩ := (trims_trim cs).around
  refine Trims.trim_eq ⟨tight_trim cs, before ++ b, a, ?_, ha, ?_⟩
  · rw [allBlank_append, hb, hb']
    rfl
  · rw [List.append_assoc, List.append_assoc, ← List.append_assoc b, ← hcs]

theorem trim_append_right (cs : List Char) (ha : allBlank after = true) :
    trim (cs ++ after) = trim cs := by
  obtain ⟨b, a, hb, ha', hcs⟩ := (trims_trim cs).around
  refine Trims.trim_eq ⟨tight_trim cs, b, a ++ after, hb, ?_, ?_⟩
  · rw [allBlank_append, ha', ha]
    rfl
  · rw [← List.append_assoc, ← hcs]

/-- Nothing but white space stands before a text without any at its
beginning, so nothing does. -/
theorem Tight.eq_nil_of_blank (h : Tight (before ++ after))
    (hb : allBlank before = true) : before = [] := by
  cases before with
  | nil => rfl
  | cons c before =>
      have hc := List.all_eq_true.1 hb c List.mem_cons_self
      rw [h.first c rfl] at hc
      cases hc

/-- The end of a text without white space at its ends has none at its
own. -/
theorem Tight.trimEnd_eq (h : Tight (before ++ after)) :
    trimEnd after = after := by
  have hlast : ∀ c ∈ after.getLast?, isBlank c = false := fun c hc => by
    refine h.last c ?_
    rw [List.getLast?_append, Option.mem_def.1 hc]
    rfl
  have htrim : trimEnd (after ++ []) = after := trimEnd_append rfl hlast
  rwa [List.append_nil] at htrim

/-- A blank text has only white space in it. -/
theorem not_mem_of_allBlank (h : allBlank cs = true)
    (hc : isBlank c = false) : c ∉ cs := fun hm => by
  rw [List.all_eq_true.1 h c hm] at hc
  cases hc

/-- Taking white space off in front first changes nothing. -/
theorem trim_trimStart (cs : List Char) : trim (trimStart cs) = trim cs := by
  obtain ⟨before, hb, hcs, -⟩ := trimStart_split cs
  calc trim (trimStart cs) = trim (before ++ trimStart cs) :=
        (trim_append_left hb _).symm
    _ = trim cs := by rw [← hcs]

theorem trim_trimEnd (cs : List Char) : trim (trimEnd cs) = trim cs := by
  obtain ⟨after, ha, hcs, -⟩ := trimEnd_split cs
  calc trim (trimEnd cs) = trim (trimEnd cs ++ after) :=
        (trim_append_right _ ha).symm
    _ = trim cs := by rw [← hcs]

/-- Trimming takes white space off the text before a separator that is
none, and off the text after it. -/
theorem trim_append_cons (hsep : isBlank sep = false)
    (before after : List Char) :
    trim (before ++ sep :: after)
      = trimStart before ++ sep :: trimEnd after := by
  obtain ⟨b, hb, hbefore, hfirst⟩ := trimStart_split before
  obtain ⟨a, ha, hafter, hlast⟩ := trimEnd_split after
  refine Trims.trim_eq ⟨⟨fun c hc => ?_, fun c hc => ?_⟩, b, a, hb, ha, ?_⟩
  · cases hstart : trimStart before with
    | nil =>
        rw [hstart] at hc
        cases hc
        exact hsep
    | cons d ds =>
        rw [hstart] at hc hfirst
        exact hfirst c hc
  · cases hend : trimEnd after with
    | nil =>
        rw [hend, List.getLast?_concat] at hc
        cases hc
        exact hsep
    | cons d ds =>
        rw [hend, List.getLast?_append, List.getLast?_cons_cons,
          List.getLast?_eq_some_getLast (List.cons_ne_nil d ds)] at hc
        rw [hend] at hlast
        exact hlast c hc
  · simp only [List.append_assoc, List.cons_append, ← hafter]
    rw [← List.append_assoc, ← hbefore]

/-- A text is cut at the same separator once it is trimmed. -/
theorem cut?_trim (hsep : isBlank sep = false) (cs : List Char) :
    cut? sep (trim cs)
      = (cut? sep cs).map fun p => (trimStart p.1, trimEnd p.2) := by
  cases hcut : cut? sep cs with
  | none =>
      have h := cut?_eq_none_iff.1 hcut
      exact cut?_eq_none_iff.2 fun hm => h (mem_of_mem_trim hm)
  | some p =>
      obtain ⟨before, after⟩ := p
      obtain ⟨rfl, hfree⟩ := cut?_eq_some_iff.1 hcut
      rw [trim_append_cons hsep]
      obtain ⟨b, -, hbefore, -⟩ := trimStart_split before
      exact cut?_append (fun hm => hfree (hbefore ▸ List.mem_append_right b hm))
        _

end PooledChain.Text
