/-
Printing definitions, and reading what was printed.

A definition is printed as its name, with its properties behind it in
parentheses if it has any (`render`), and a list of them with semicolons
in between (`renderList`). Not every definition survives this: a name
might be none, a key might hold a comma, two keys might be the same.
What is read from a list is never of that kind (`printable_of_parse`),
and what is not of that kind is read again as it is
(`Printable.written`). So to print what was read loses nothing but white
space and what repeated keys said before the last time.
-/
import PooledChain.Proofs.Writing.Grammar

namespace PooledChain

open Text (Tight)

-- ============================================================== printing

namespace Properties

/-- A key and a value with an equals sign between them. -/
def renderPair (pair : String × String) : List Char :=
  pair.1.toList ++ '=' :: pair.2.toList

/-- The pairs with commas between them. -/
def render (p : Properties) : List Char :=
  [','].intercalate (p.entries.map renderPair)

/-- Whether a key and a value have none of the characters in them at which
they would be taken apart. -/
structure Plain (pair : String × String) : Prop where
  key_ne : pair.1 ≠ ""
  key_tight : Tight pair.1.toList
  value_tight : Tight pair.2.toList
  key_free : ∀ c ∈ [',', ';', '='], c ∉ pair.1.toList
  value_free : ∀ c ∈ [',', ';'], c ∉ pair.2.toList

end Properties

namespace Definition

/-- The name, and in brackets the properties if there are any. -/
def render (d : Definition) : List Char :=
  if d.properties.isEmpty then d.name.toList
  else d.name.toList ++ '(' :: (d.properties.render ++ [')'])

/-- Definitions with semicolons between them. -/
def renderList (ds : List Definition) : List Char :=
  [';'].intercalate (ds.map render)

/-- Whether nothing is lost when the definition is printed. -/
structure Printable (d : Definition) : Prop where
  name : Name d.name.toList
  distinct : (d.properties.entries.map (·.1)).Nodup
  plain : ∀ pair ∈ d.properties.entries, Properties.Plain pair

end Definition

-- ================================================ reading what is printed

namespace Properties

variable {pair : String × String} {pairs entries : List (String × String)}
  {piece body : List Char} {key value : String}

/-- A plain pair that is printed says what it is. -/
theorem Plain.spoken (h : Plain pair) : Says (renderPair pair) (some pair) := by
  have hkey : Text.allBlank pair.1.toList = false := by
    rw [Bool.eq_false_iff]
    intro hb
    refine h.key_ne (String.toList_inj.1 ?_)
    rw [← h.key_tight.trim_eq]
    exact Text.trim_eq_nil_iff.2 hb
  have hsays := Says.pair (h.key_free '=' (by simp)) hkey h.key_tight.trims
    h.value_tight.trims
  rwa [String.ofList_toList, String.ofList_toList] at hsays

/-- A plain pair that is printed has no comma and no semicolon in it. -/
theorem Plain.not_mem (h : Plain pair) {c : Char} (hc : c ∈ [',', ';']) :
    c ∉ renderPair pair := by
  have hkey : c ∉ pair.1.toList := h.key_free c (by simp at hc ⊢; tauto)
  have hvalue := h.value_free c hc
  have hsep : c ≠ '=' := by
    rintro rfl
    revert hc
    decide
  simp [renderPair, hkey, hvalue, hsep]

/-- Plain pairs that are printed are listed as they are. -/
theorem lists_render (hne : entries ≠ []) (h : ∀ pair ∈ entries, Plain pair) :
    Lists (render ⟨entries⟩) entries := by
  refine ⟨entries.map renderPair, entries.map some, by simpa using hne, ?_, rfl,
    ?_, by simp⟩
  · intro piece hpiece
    obtain ⟨pair, hpair, rfl⟩ := List.mem_map.1 hpiece
    exact (h pair hpair).not_mem (by simp)
  · rw [List.forall₂_map_left_iff, List.forall₂_map_right_iff,
      List.forall₂_same]
    exact fun pair hpair => (h pair hpair).spoken

/-- A new key comes last. -/
theorem put_of_not_mem (h : key ∉ entries.map (·.1)) :
    put key value entries = entries ++ [(key, value)] := by
  induction entries with
  | nil => rfl
  | cons e rest ih =>
      obtain ⟨k, v⟩ := e
      rw [List.map_cons, List.mem_cons, not_or] at h
      rw [put, if_neg (by simpa using Ne.symm h.1), ih h.2]
      rfl

/-- Pairs with distinct keys come to themselves. -/
theorem gathers_self (h : (entries.map (·.1)).Nodup) :
    Gathers entries entries := by
  rw [gathers_iff]
  induction entries using List.reverseRecOn with
  | nil => rfl
  | append_singleton entries pair ih =>
      rw [List.map_append, List.nodup_append] at h
      obtain ⟨hnodup, -, hdisjoint⟩ := h
      have hpair : pair.1 ∉ entries.map (·.1) := fun hm =>
        hdisjoint _ hm _ (List.mem_singleton_self _) rfl
      rw [putAll_concat, ← ih hnodup]
      exact (put_of_not_mem hpair).symm

end Properties

namespace Definition

variable {d : Definition} {ds : List Definition} {entry core text : List Char}

/-- A printable definition is written as the grammar has it. -/
theorem Printable.written (h : Printable d) : Written (render d) d := by
  obtain ⟨name, ⟨entries⟩⟩ := d
  have hname : String.ofList name.toList = name := String.ofList_toList
  cases entries with
  | nil =>
      have hwritten := Written.bare h.name
      rwa [hname] at hwritten
  | cons e rest =>
      have hgap : Text.allBlank [] = true := rfl
      have hwritten := Written.full h.name hgap
        (Properties.lists_render (List.cons_ne_nil e rest) h.plain)
        (Properties.gathers_self h.distinct)
      rwa [hname, List.append_nil] at hwritten

/-- A printable definition is read again as it was printed. -/
theorem Printable.parse_render (h : Printable d) :
    parse (render d) = .ok d := h.written.parse_eq

/-- A printable definition has no semicolon in it when printed. -/
theorem Printable.not_mem_render (h : Printable d) : ';' ∉ render d := by
  have hname : ';' ∉ d.name.toList := h.name.not_mem (by decide) (by decide)
  rw [render]
  split
  · exact hname
  · have hbody : ';' ∉ d.properties.render := fun hm => by
      obtain hc | ⟨piece, hpiece, hc⟩ := Text.mem_intercalate hm
      · exact absurd hc (by decide)
      · obtain ⟨pair, hpair, rfl⟩ := List.mem_map.1 hpiece
        exact (h.plain pair hpair).not_mem (by simp) hc
    simp [hname, hbody]

theorem Printable.not_blank_render (h : Printable d) :
    Text.allBlank (render d) = false := by
  rw [Bool.eq_false_iff]
  intro hb
  have htrim := h.written.tight.trim_eq
  rw [Text.trim_eq_nil_iff.2 hb] at htrim
  have hparse := h.parse_render
  rw [← htrim] at hparse
  cases hparse

/-- A printed list is read as what was printed. -/
theorem parseList_renderList (h : ∀ d ∈ ds, Printable d) :
    parseList (renderList ds) = .ok ds := by
  rw [parseList_eq_ok_iff]
  by_cases hds : ds = []
  · subst hds
    exact .nil
  have hpieces : Text.pieces ';' (renderList ds) = ds.map render := by
    refine Text.pieces_eq_iff.2 ⟨by simpa using hds, fun p hp => ?_, rfl⟩
    obtain ⟨d, hd, rfl⟩ := List.mem_map.1 hp
    exact (h d hd).not_mem_render
  have hentries : entries (renderList ds) = ds.map render := by
    rw [entries, hpieces, List.filter_eq_self]
    intro p hp
    obtain ⟨d, hd, rfl⟩ := List.mem_map.1 hp
    rw [(h d hd).not_blank_render]
    rfl
  rw [hentries, List.forall₂_map_left_iff, List.forall₂_same]
  exact fun d hd => (h d hd).parse_render

end Definition

-- ==================================================== what has been read

namespace Properties

variable {pair : String × String} {pairs entries : List (String × String)}
  {piece body : List Char} {key value : String}

/-- A pair that is read from a piece of a body is plain. -/
theorem Says.plain (h : Says piece (some pair))
    (hfree : ∀ c ∈ [',', ';'], c ∉ piece) : Plain pair := by
  cases h with
  | @pair before after key value hbefore hb hkey hvalue =>
      obtain rfl := hkey.trim_eq
      obtain rfl := hvalue.trim_eq
      have hkeyfree : ∀ {c}, c ∉ before → c ∉ Text.trim before :=
        fun hc hm => hc (Text.mem_of_mem_trim hm)
      refine ⟨fun he => ?_, ?_, ?_, fun c hc => ?_, fun c hc => ?_⟩
      · have hnil := String.toList_inj.2 he
        rw [String.toList_ofList] at hnil
        rw [Text.trim_eq_nil_iff.1 hnil] at hb
        cases hb
      · simpa using Text.tight_trim before
      · simpa using Text.tight_trim after
      · rw [String.toList_ofList]
        refine hkeyfree ?_
        rcases List.mem_cons.1 hc with rfl | hc
        · exact fun hm => hfree ',' (by simp) (List.mem_append_left _ hm)
        rcases List.mem_cons.1 hc with rfl | hc
        · exact fun hm => hfree ';' (by simp) (List.mem_append_left _ hm)
        · rw [List.mem_singleton.1 hc]
          exact hbefore
      · rw [String.toList_ofList]
        intro hm
        refine hfree c hc (List.mem_append_right _ (List.mem_cons_of_mem _ ?_))
        exact Text.mem_of_mem_trim hm

/-- The pairs that a body without semicolons lists are plain. -/
theorem Lists.plain (h : Lists body pairs) (hbody : ';' ∉ body) :
    ∀ pair ∈ pairs, Plain pair := by
  obtain ⟨ps, said, hne, hcomma, rfl, hsaid, rfl⟩ := h
  have hpieces : Text.pieces ',' ([','].intercalate ps) = ps :=
    Text.pieces_eq_iff.2 ⟨hne, hcomma, rfl⟩
  have hsemi : ∀ p ∈ ps, ';' ∉ p := fun p hp hm =>
    hbody (Text.mem_of_mem_pieces (by rwa [hpieces]) hm)
  clear hne hpieces hbody
  induction hsaid with
  | nil => nofun
  | @cons piece said ps saids hpiece _ ih =>
      intro pair hpair
      rw [List.filterMap_cons] at hpair
      have ih := ih (fun p hp => hcomma p (List.mem_cons_of_mem _ hp))
        fun p hp => hsemi p (List.mem_cons_of_mem _ hp)
      cases said with
      | none => exact ih pair hpair
      | some first =>
          rcases List.mem_cons.1 hpair with rfl | hpair
          · refine hpiece.plain fun c hc => ?_
            rcases List.mem_cons.1 hc with rfl | hc
            · exact hcomma piece List.mem_cons_self
            · rw [List.mem_singleton.1 hc]
              exact hsemi piece List.mem_cons_self
          · exact ih pair hpair

/-- A pair that is there after one was put in is that one, or was there. -/
theorem mem_put (h : pair ∈ put key value entries) :
    pair = (key, value) ∨ pair ∈ entries := by
  induction entries with
  | nil => exact .inl (List.mem_singleton.1 h)
  | cons e rest ih =>
      obtain ⟨k, v⟩ := e
      rw [put] at h
      split at h
      · next hk =>
        obtain rfl : k = key := by simpa using hk
        rcases List.mem_cons.1 h with rfl | h
        · exact .inl rfl
        · exact .inr (List.mem_cons_of_mem _ h)
      · rcases List.mem_cons.1 h with rfl | h
        · exact .inr List.mem_cons_self
        · exact (ih h).imp_right (List.mem_cons_of_mem _)

/-- No pair is there but was written. -/
theorem Gathers.mem (h : Gathers pairs entries) (hpair : pair ∈ entries) :
    pair ∈ pairs := by
  rw [gathers_iff.1 h] at hpair
  clear h
  induction pairs using List.reverseRecOn with
  | nil => cases hpair
  | append_singleton pairs last ih =>
      rw [putAll_concat] at hpair
      rcases mem_put hpair with rfl | hpair
      · exact List.mem_append_right _ List.mem_cons_self
      · exact List.mem_append_left _ (ih hpair)

/-- Pairs come to entries in which no key is twice. -/
theorem Gathers.nodup (h : Gathers pairs entries) :
    (entries.map (·.1)).Nodup := by
  rw [gathers_iff.1 h]
  exact nodup_keys_putAll pairs

end Properties

namespace Definition

variable {d : Definition} {ds : List Definition} {entry core text : List Char}

/-- What is read from an entry of a list can be printed. -/
theorem printable_of_parse (hentry : ';' ∉ entry) (h : parse entry = .ok d) :
    Printable d := by
  obtain ⟨core, hcore, hwritten⟩ := parse_eq_ok_iff.1 h
  have hcore : ';' ∉ core := fun hm =>
    hentry (Text.mem_of_mem_trim (hcore.trim_eq.symm ▸ hm))
  cases hwritten with
  | bare hname => exact ⟨by simpa using hname, List.nodup_nil, nofun⟩
  | @full name gap body pairs entries hname hgap hlists hgathers =>
      have hbody : ';' ∉ body := fun hm => hcore (by simp [hm])
      exact ⟨by simpa using hname, hgathers.nodup,
        fun pair hpair => hlists.plain hbody pair (hgathers.mem hpair)⟩

/-- Every definition that was read can be printed. -/
theorem printable_of_parseList (h : parseList text = .ok ds) :
    ∀ d ∈ ds, Printable d := by
  have hall := parseList_eq_ok_iff.1 h
  have hfree : ∀ entry ∈ entries text, ';' ∉ entry :=
    fun _ => not_mem_of_mem_entries
  clear h
  generalize entries text = es at hall hfree
  induction hall with
  | nil => nofun
  | @cons entry d es ds hparse _ ih =>
      intro d' hd'
      rcases List.mem_cons.1 hd' with rfl | hd'
      · exact printable_of_parse (hfree entry List.mem_cons_self) hparse
      · exact ih (fun e he => hfree e (List.mem_cons_of_mem _ he)) d' hd'

/-- The last part of a name is an identifier. -/
theorem Printable.identifier_shortName (h : Printable d) :
    Identifier d.shortName.toList := by
  rw [shortName, String.toList_ofList]
  have hall := List.all_eq_true.1 (isName_iff.2 h.name)
  exact isIdentifier_iff.1 (hall _ (List.getLast_mem _))

/-- What was read survives printing and reading. -/
theorem read_again_as_printed (h : parseList text = .ok ds) :
    parseList (renderList ds) = .ok ds
      ∧ ∀ d ∈ ds, d.shortName ≠ "" ∧ '.' ∉ d.shortName.toList
        ∧ (d.properties.entries.map (·.1)).Nodup
        ∧ ∀ pair ∈ d.properties.entries, Properties.Plain pair := by
  have hprintable := printable_of_parseList h
  refine ⟨parseList_renderList hprintable, fun d hd => ?_⟩
  have hshort := (hprintable d hd).identifier_shortName
  refine ⟨fun he => ?_, fun hm => ?_, (hprintable d hd).distinct,
    (hprintable d hd).plain⟩
  · rw [he] at hshort
    cases hshort
  · exact not_isTail_dot (hshort.isTail hm)

/-- Blank entries and blank pieces are gone, the repeated key stands once,
and what looks like the end of a body or of a key is part of a value. -/
theorem read_again_as_printed_nested :
    parseList " a.Cache (max=1,k = (x=y), ,max= 5 ) ;; Probe( ) ".toList
        = .ok [⟨"a.Cache", ⟨[("max", "5"), ("k", "(x=y)")]⟩⟩,
          ⟨"Probe", .empty⟩]
      ∧ parseList (renderList [⟨"a.Cache", ⟨[("max", "5"), ("k", "(x=y)")]⟩⟩,
          ⟨"Probe", .empty⟩])
        = .ok [⟨"a.Cache", ⟨[("max", "5"), ("k", "(x=y)")]⟩⟩,
          ⟨"Probe", .empty⟩] :=
  have h : parseList " a.Cache (max=1,k = (x=y), ,max= 5 ) ;; Probe( ) ".toList
      = .ok [⟨"a.Cache", ⟨[("max", "5"), ("k", "(x=y)")]⟩⟩,
        ⟨"Probe", .empty⟩] := by decide +kernel
  ⟨h, (read_again_as_printed h).1⟩

end Definition

end PooledChain
