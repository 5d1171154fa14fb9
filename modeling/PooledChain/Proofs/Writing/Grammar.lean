/-
The grammar of definitions.

A definition is written as a name, or as a name and a body in
parentheses. A name is made of identifiers with dots between them, a body
of pieces with commas between them, and a piece is white space or a key
and a value with an equals sign between them (`Name`, `Says`, `Written`).
Of the pairs in a body each key counts once, in the place where it stands
first and with the value that it has last (`Gathers`).

Reading takes a text apart at its first parenthesis, its first equals
signs and its last character, and trims what it finds. That this accepts
the grammar and nothing else is `reads_exactly_what_is_written`. It is
put together from one law for each part: `isName_iff`,
`readEntry_eq_ok_iff`, `readEntries_eq_ok_iff` and `parse_eq_ok_iff`.
-/
import Mathlib.Data.List.Forall2
import Mathlib.Data.List.Induction
import Mathlib.Data.List.Nodup
import PooledChain.Definition.Basic
import PooledChain.Proofs.Writing.Pieces

namespace PooledChain

open Text (Tight Trims allBlank)

-- ================================================================ names

namespace Definition

/-- A letter of ASCII, or an underscore. -/
def IsHead (c : Char) : Prop :=
  ('A' ≤ c ∧ c ≤ 'Z') ∨ ('a' ≤ c ∧ c ≤ 'z') ∨ c = '_'

/-- A letter or digit of ASCII, or an underscore. -/
def IsTail (c : Char) : Prop := IsHead c ∨ ('0' ≤ c ∧ c ≤ '9')

/-- A letter or underscore, and then letters, digits and underscores. -/
inductive Identifier : List Char → Prop
  | mk {c : Char} {cs : List Char} : IsHead c → (∀ d ∈ cs, IsTail d) →
    Identifier (c :: cs)

/-- One or more identifiers with single dots between them. -/
def Name (cs : List Char) : Prop :=
  ∃ ids, ids ≠ [] ∧ (∀ id ∈ ids, Identifier id) ∧ cs = ['.'].intercalate ids

variable {c : Char} {cs name : List Char}

/-- Capital letters are those of ASCII. -/
theorem isUpper_iff : c.isUpper = true ↔ 'A' ≤ c ∧ c ≤ 'Z' := by
  show decide ('A' ≤ c ∧ c ≤ 'Z') = true ↔ _
  rw [decide_eq_true_eq]

/-- Small letters are those of ASCII. -/
theorem isLower_iff : c.isLower = true ↔ 'a' ≤ c ∧ c ≤ 'z' := by
  show (decide ('a' ≤ c) && decide (c ≤ 'z')) = true ↔ _
  rw [Bool.and_eq_true, decide_eq_true_eq, decide_eq_true_eq]

/-- The reader takes as first character what may stand there. -/
theorem isIdentifierHead_iff : isIdentifierHead c = true ↔ IsHead c := by
  show ((c.isUpper || c.isLower) || c == '_') = true ↔ _
  rw [Bool.or_eq_true, Bool.or_eq_true, isUpper_iff, isLower_iff, beq_iff_eq,
    or_assoc]
  rfl

/-- It takes behind that what may stand there. -/
theorem isIdentifierTail_iff : isIdentifierTail c = true ↔ IsTail c := by
  rw [IsTail, ← isIdentifierHead_iff]
  simp only [isIdentifierTail, isIdentifierHead, Char.isAlphanum,
    Char.isDigit, Bool.or_eq_true, Bool.and_eq_true, decide_eq_true_eq]
  rw [or_right_comm]
  rfl

/-- The reader takes for an identifier what is one. -/
theorem isIdentifier_iff : isIdentifier cs = true ↔ Identifier cs := by
  cases cs with
  | nil => exact ⟨nofun, nofun⟩
  | cons c cs =>
      simp only [isIdentifier, Bool.and_eq_true, List.all_eq_true,
        isIdentifierHead_iff, isIdentifierTail_iff]
      exact ⟨fun h => ⟨h.1, h.2⟩, fun ⟨hc, hcs⟩ => ⟨hc, hcs⟩⟩

/-- What stands in an identifier is a letter, a digit or an underscore. -/
theorem Identifier.isTail (h : Identifier cs) (hc : c ∈ cs) : IsTail c := by
  obtain ⟨hhead, htail⟩ := h
  rcases List.mem_cons.1 hc with rfl | hc
  · exact .inl hhead
  · exact htail c hc

/-- A dot is no part of an identifier. -/
theorem not_isTail_dot : ¬ IsTail '.' := by
  rw [← isIdentifierTail_iff]
  decide

/-- The reader takes for a name what is one. -/
theorem isName_iff : isName cs = true ↔ Name cs := by
  rw [isName, List.all_eq_true]
  constructor
  · intro h
    obtain ⟨hne, -, hcs⟩ := Text.pieces_eq_iff.1 (rfl : Text.pieces '.' cs = _)
    exact ⟨_, hne, fun id hid => isIdentifier_iff.1 (h id hid), hcs⟩
  · rintro ⟨ids, hne, hids, hcs⟩ id hid
    have hdot : ∀ id ∈ ids, '.' ∉ id := fun id hid hm =>
      not_isTail_dot ((hids id hid).isTail hm)
    rw [Text.pieces_eq_iff.2 ⟨hne, hdot, hcs⟩] at hid
    exact isIdentifier_iff.2 (hids id hid)

/-- What stands in a name is a dot, or stands in an identifier. -/
theorem Name.mem (h : Name cs) (hc : c ∈ cs) : c = '.' ∨ IsTail c := by
  obtain ⟨ids, -, hids, rfl⟩ := h
  obtain hdot | ⟨id, hid, hc⟩ := Text.mem_intercalate hc
  · exact .inl hdot
  · exact .inr ((hids id hid).isTail hc)

/-- A character that ends a name does not stand in one. -/
theorem Name.not_mem (h : Name cs) (hdot : c ≠ '.')
    (hc : isIdentifierTail c = false) : c ∉ cs := fun hm => by
  rcases h.mem hm with rfl | ht
  · exact hdot rfl
  · rw [isIdentifierTail_iff.2 ht] at hc
    cases hc

/-- A name is not empty. -/
theorem not_name_nil : ¬ Name [] := fun h =>
  absurd (isName_iff.2 h) (by decide)

/-- No part of an identifier is white space. -/
theorem not_isBlank_of_isTail (h : IsTail c) : Text.isBlank c = false := by
  have hle : ∀ {a b : Char}, a ≤ b → a.toNat ≤ b.toNat := fun h => h
  have hcode : 48 ≤ c.toNat ∧ c.toNat ≤ 122 := by
    rcases h with (⟨h₁, h₂⟩ | ⟨h₁, h₂⟩ | rfl) | ⟨h₁, h₂⟩
    · exact ⟨Nat.le_trans (by decide) (hle h₁), Nat.le_trans (hle h₂) (by decide)⟩
    · exact ⟨Nat.le_trans (by decide) (hle h₁), Nat.le_trans (hle h₂) (by decide)⟩
    · decide
    · exact ⟨Nat.le_trans (by decide) (hle h₁), Nat.le_trans (hle h₂) (by decide)⟩
  simp only [Text.isBlank, Bool.or_eq_false_iff, Bool.and_eq_false_iff,
    decide_eq_false_iff_not, beq_eq_false_iff_ne]
  omega

/-- A name has no white space in it. -/
theorem Name.tight (h : Name cs) : Tight cs := by
  refine .of_not_blank fun c hc => ?_
  rcases h.mem hc with rfl | ht
  · decide
  · exact not_isBlank_of_isTail ht

/-- A bare name is read as a definition without properties. -/
theorem named_eq_ok_iff {d : Definition} :
    named cs = .ok d ↔ Name cs ∧ d = ⟨String.ofList cs, .empty⟩ := by
  rw [named, ← isName_iff]
  cases cs with
  | nil => exact ⟨nofun, fun h => absurd h.1 (by decide)⟩
  | cons c cs =>
      rw [if_neg (by simp)]
      split
      · next h => exact ⟨fun he => ⟨h, (Except.ok.inj he).symm⟩,
          fun he => congrArg Except.ok he.2.symm⟩
      · next h => exact ⟨nofun, fun he => absurd he.1 h⟩

end Definition

-- =========================================================== properties

/-- What a piece of a body says: nothing if it is blank, else a key, which
is not blank, and a value. They stand on the two sides of its first equals
sign. -/
inductive Properties.Says : List Char → Option (String × String) → Prop
  | nothing {piece : List Char} : allBlank piece = true → Says piece none
  | pair {before after key value : List Char} : '=' ∉ before →
    allBlank before = false → Trims before key → Trims after value →
    Says (before ++ '=' :: after)
      (some (String.ofList key, String.ofList value))

/-- Whether a body is made of pieces with commas between them that say
these pairs, in this order. -/
def Properties.Lists (body : List Char) (pairs : List (String × String)) :
    Prop :=
  ∃ ps said, ps ≠ [] ∧ (∀ p ∈ ps, ',' ∉ p) ∧ body = [','].intercalate ps
    ∧ List.Forall₂ Says ps said ∧ pairs = said.filterMap id

/-- Whether entries are what pairs come to: each key once, in the order of
the first appearances, and with the value of its last appearance. -/
structure Properties.Gathers (pairs entries : List (String × String)) :
    Prop where
  keys : entries.map (·.1) = (pairs.map (·.1)).eraseDups
  values : ∀ key, entries.lookup key = pairs.reverse.lookup key

namespace Properties

variable {piece body : List Char} {said : Option (String × String)}
  {pairs entries : List (String × String)} {p q : Properties}

-- ------------------------------------------------------------- one piece

/-- Nothing is left of a text without its white space just when it is
blank. -/
theorem isEmpty_trim (cs : List Char) :
    (Text.trim cs).isEmpty = allBlank cs := by
  rw [Bool.eq_iff_iff, List.isEmpty_iff]
  exact Text.trim_eq_nil_iff

/-- Taking white space off in front does not change whether a text is
blank. -/
theorem allBlank_trimStart (cs : List Char) :
    allBlank (Text.trimStart cs) = allBlank cs := by
  rw [← isEmpty_trim, ← isEmpty_trim, Text.trim_trimStart]

/-- What reading makes of a piece, said without trimming it first. -/
theorem readEntry_eq (piece : List Char) :
    readEntry piece =
      if allBlank piece then .ok none
      else match Text.cut? '=' piece with
        | none => .error (.notAPair (String.ofList (Text.trim piece)))
        | some (before, after) =>
          if allBlank before then
            .error (.missingKey (String.ofList (Text.trim piece)))
          else .ok (some (String.ofList (Text.trim before),
            String.ofList (Text.trim after))) := by
  have hsep : Text.isBlank '=' = false := by decide
  simp only [readEntry, Text.cut?_trim hsep, isEmpty_trim]
  cases Text.cut? '=' piece with
  | none => rfl
  | some p =>
      simp only [Option.map_some, Text.trim_trimStart, Text.trim_trimEnd,
        allBlank_trimStart]

/-- A piece of a body is read as what it says. -/
theorem readEntry_eq_ok_iff : readEntry piece = .ok said ↔ Says piece said := by
  rw [readEntry_eq]
  constructor
  · intro h
    split at h
    · next hb =>
      cases h
      exact .nothing hb
    · split at h
      · cases h
      · next before after hcut =>
        split at h
        · cases h
        · next hb =>
          obtain ⟨rfl, hfree⟩ := Text.cut?_eq_some_iff.1 hcut
          cases h
          exact .pair hfree (Bool.eq_false_iff.2 hb) (Text.trims_trim _)
            (Text.trims_trim _)
  · intro h
    cases h with
    | nothing hb => rw [if_pos hb]
    | @pair before after key value hfree hb hkey hvalue =>
        have hsep : allBlank (before ++ '=' :: after) = false := by
          rw [Text.allBlank_append, hb]
          rfl
        simp [hsep, hb, Text.cut?_append hfree, hkey.trim_eq, hvalue.trim_eq]

-- -------------------------------------------------------------- all pieces

/-- Entries after pairs were put into them one after the other. -/
def putAll (entries pairs : List (String × String)) : List (String × String) :=
  pairs.foldl (fun entries pair => put pair.1 pair.2 entries) entries

/-- The last pair is put in last. -/
theorem putAll_concat (entries pairs : List (String × String))
    (pair : String × String) :
    putAll entries (pairs ++ [pair])
      = put pair.1 pair.2 (putAll entries pairs) := List.foldl_append

/-- The pieces of a body are read as what they say, put in one after the
other. -/
theorem readEntries_eq_ok_iff {ps : List (List Char)} :
    readEntries p ps = .ok q
      ↔ ∃ said, List.Forall₂ Says ps said
        ∧ q = ⟨putAll p.entries (said.filterMap id)⟩ := by
  induction ps generalizing p with
  | nil =>
      rw [readEntries]
      exact ⟨fun h => ⟨[], .nil, (Except.ok.inj h).symm⟩,
        fun ⟨said, hsaid, hq⟩ => by cases hsaid; exact congrArg _ hq.symm⟩
  | cons piece ps ih =>
      rw [readEntries]
      cases hread : readEntry piece with
      | error e =>
          refine ⟨nofun, fun ⟨said, hsaid, hq⟩ => ?_⟩
          cases hsaid with
          | cons hpiece _ =>
              rw [readEntry_eq_ok_iff.2 hpiece] at hread
              cases hread
      | ok first =>
          have hfirst := readEntry_eq_ok_iff.1 hread
          have hcons : (∃ said, List.Forall₂ Says (piece :: ps) said
                ∧ q = ⟨putAll p.entries (said.filterMap id)⟩)
              ↔ ∃ said, List.Forall₂ Says ps said
                ∧ q = ⟨putAll p.entries ((first :: said).filterMap id)⟩ := by
            constructor
            · rintro ⟨said, hsaid, hq⟩
              cases hsaid with
              | cons hpiece hrest =>
                  rw [readEntry_eq_ok_iff.2 hpiece] at hread
                  cases hread
                  exact ⟨_, hrest, hq⟩
            · rintro ⟨said, hsaid, hq⟩
              exact ⟨first :: said, .cons hfirst hsaid, hq⟩
          rw [hcons]
          cases first with
          | none => exact ih
          | some pair => exact ih

-- ------------------------------------------------- what the pairs come to

/-- A key that is there keeps its place, and a new one comes last. -/
theorem keys_put (key value : String) (entries : List (String × String)) :
    (put key value entries).map (·.1)
      = if key ∈ entries.map (·.1) then entries.map (·.1)
        else entries.map (·.1) ++ [key] := by
  induction entries with
  | nil => rfl
  | cons e rest ih =>
      obtain ⟨k, v⟩ := e
      rw [put]
      by_cases hk : k = key
      · simp [hk]
      · rw [if_neg (by simpa using hk), List.map_cons, ih]
        by_cases hm : key ∈ rest.map (·.1)
        · simp [hm]
        · simp [hm, Ne.symm hk]

/-- Putting a pair in lists no key twice. -/
theorem nodup_keys_put (h : (entries.map (·.1)).Nodup) (key value : String) :
    ((put key value entries).map (·.1)).Nodup := by
  rw [keys_put]
  split
  · exact h
  · next hk =>
    rw [List.nodup_append]
    exact ⟨h, List.nodup_singleton key, fun a ha b hb he => by
      rw [List.mem_singleton] at hb
      exact hk (hb ▸ he ▸ ha)⟩

theorem nodup_keys_putAll (pairs : List (String × String)) :
    ((putAll [] pairs).map (·.1)).Nodup := by
  induction pairs using List.reverseRecOn with
  | nil => exact List.nodup_nil
  | append_singleton pairs pair ih =>
      rw [putAll_concat]
      exact nodup_keys_put ih pair.1 pair.2

/-- Putting pairs in one after the other is what they come to. -/
theorem gathers_putAll (pairs : List (String × String)) :
    Gathers pairs (putAll [] pairs) := by
  induction pairs using List.reverseRecOn with
  | nil => exact ⟨rfl, fun _ => rfl⟩
  | append_singleton pairs pair ih =>
      refine ⟨?_, fun key => ?_⟩
      · rw [putAll_concat, keys_put, ih.keys, List.map_append, List.eraseDups_append]
        by_cases hk : pair.1 ∈ pairs.map (·.1)
        · rw [if_pos (List.mem_eraseDups.2 hk)]
          simp [List.removeAll, hk]
        · rw [if_neg fun h => hk (List.mem_eraseDups.1 h)]
          simp [List.removeAll, hk, List.eraseDups_cons]
      · rw [putAll_concat, lookup_put, ih.values, List.reverse_append,
          List.reverse_singleton, List.singleton_append, lookup_entry]

/-- Distinct keys with their values are told by looking each key up. -/
theorem eq_of_lookup {entries others : List (String × String)}
    (hkeys : entries.map (·.1) = others.map (·.1))
    (hnodup : (entries.map (·.1)).Nodup)
    (h : ∀ key, entries.lookup key = others.lookup key) :
    entries = others := by
  induction entries generalizing others with
  | nil => exact (List.map_eq_nil_iff.1 hkeys.symm).symm
  | cons e rest ih =>
      obtain ⟨k, v⟩ := e
      cases others with
      | nil => cases hkeys
      | cons e' rest' =>
          obtain ⟨k', v'⟩ := e'
          obtain ⟨rfl, hrest⟩ : k = k' ∧ rest.map (·.1) = rest'.map (·.1) :=
            List.cons.inj hkeys
          obtain ⟨hk, hnodup⟩ := List.nodup_cons.1 hnodup
          obtain rfl : v = v' := by simpa using h k
          have hnone : ∀ {l : List (String × String)}, k ∉ l.map (·.1) →
              l.lookup k = none := fun hl => List.lookup_eq_none_iff.2
            fun p hp => bne_iff_ne.2 fun he =>
              hl (he ▸ List.mem_map_of_mem hp)
          refine congrArg _ (ih hrest hnodup fun key => ?_)
          by_cases hkey : key = k
          · rw [hkey, hnone hk, hnone (hrest ▸ hk)]
          · simpa [lookup_entry, hkey] using h key

/-- Nothing else is. -/
theorem gathers_iff : Gathers pairs entries ↔ entries = putAll [] pairs := by
  refine ⟨fun h => ?_, by rintro rfl; exact gathers_putAll pairs⟩
  have hg := gathers_putAll pairs
  exact (eq_of_lookup (hg.keys.trans h.keys.symm) (nodup_keys_putAll pairs)
    fun key => (hg.values key).trans (h.values key).symm).symm

/-- A body is read as what the pairs in it come to. -/
theorem parse_eq_ok_iff :
    parse body = .ok p ↔ ∃ pairs, Lists body pairs ∧ Gathers pairs p.entries := by
  rw [parse, readEntries_eq_ok_iff]
  constructor
  · rintro ⟨said, hsaid, rfl⟩
    obtain ⟨hne, hfree, hbody⟩ :=
      Text.pieces_eq_iff.1 (rfl : Text.pieces ',' body = _)
    exact ⟨_, ⟨_, said, hne, hfree, hbody, hsaid, rfl⟩, gathers_putAll _⟩
  · rintro ⟨pairs, ⟨ps, said, hne, hfree, hbody, hsaid, rfl⟩, hg⟩
    refine ⟨said, ?_, ?_⟩
    · rw [Text.pieces_eq_iff.2 ⟨hne, hfree, hbody⟩]
      exact hsaid
    · exact congrArg Properties.mk (gathers_iff.1 hg)

end Properties

-- ========================================================== definitions

namespace Definition

open Properties (Lists Gathers)

/-- How a definition is written. -/
inductive Written : List Char → Definition → Prop
  | bare {name : List Char} : Name name →
    Written name ⟨String.ofList name, .empty⟩
  | full {name gap body : List Char} {pairs entries : List (String × String)} :
    Name name → allBlank gap = true → Lists body pairs →
    Gathers pairs entries →
    Written (name ++ gap ++ '(' :: (body ++ [')']))
      ⟨String.ofList name, ⟨entries⟩⟩

variable {entry core cs body name : List Char} {d : Definition}

/-- What is before the closing bracket is all but that. -/
theorem beforeClosing?_eq_some_iff :
    beforeClosing? cs = some body ↔ cs = body ++ [')'] := by
  rw [beforeClosing?]
  constructor
  · intro h
    split at h
    · next rest hrev =>
      cases h
      rw [← List.reverse_reverse cs, hrev, List.reverse_cons]
    · cases h
  · rintro rfl
    simp

/-- A name and what ends in a bracket have no white space around them. -/
theorem tight_closed (hname : Name name) (rest : List Char) :
    Tight (name ++ rest ++ [')']) := by
  refine ⟨fun c hc => hname.tight.first c ?_, fun c hc => ?_⟩
  · cases name with
    | nil => exact absurd hname not_name_nil
    | cons d ds => exact hc
  · rw [List.getLast?_concat] at hc
    cases hc
    decide

/-- A definition as it is written has no white space around it. -/
theorem Written.tight (h : Written core d) : Tight core := by
  cases h with
  | bare hname => exact hname.tight
  | @full name gap body pairs entries hname _ _ _ =>
      have h := tight_closed hname (gap ++ '(' :: body)
      simpa only [List.append_assoc, List.cons_append] using h

/-- A text that is written as the grammar has it is read. -/
theorem Written.parse_eq (h : Written core d) : parse core = .ok d := by
  have hcore : Text.trim core = core := h.tight.trim_eq
  rw [parse, hcore]
  cases h with
  | bare hname =>
      rw [Text.cut?_eq_none_iff.2 (hname.not_mem (by decide) (by decide))]
      exact named_eq_ok_iff.2 ⟨hname, rfl⟩
  | @full name gap body pairs entries hname hgap hbody hentries =>
      have hfree : '(' ∉ name ++ gap := fun hm => by
        rcases List.mem_append.1 hm with hm | hm
        · exact hname.not_mem (by decide) (by decide) hm
        · exact Text.not_mem_of_allBlank hgap (by decide) hm
      have hclosed : Text.trimEnd (body ++ [')']) = body ++ [')'] := by
        have htight := tight_closed hname body
        rw [List.append_assoc] at htight
        exact htight.trimEnd_eq
      have hnamed : named (Text.trim (name ++ gap))
          = .ok ⟨String.ofList name, .empty⟩ := by
        rw [Text.trim_append_right name hgap, hname.tight.trim_eq]
        exact named_eq_ok_iff.2 ⟨hname, rfl⟩
      rw [Text.cut?_append hfree]
      simp only [hclosed, beforeClosing?_eq_some_iff.2 rfl,
        Properties.parse_eq_ok_iff.2 ⟨pairs, hbody, hentries⟩, hnamed]

/-- A text that is read is written as the grammar has it. -/
theorem written_of_parse (ht : Tight core) (h : parse core = .ok d) :
    Written core d := by
  rw [parse, ht.trim_eq] at h
  cases hcut : Text.cut? '(' core with
  | none =>
      rw [hcut] at h
      obtain ⟨hname, rfl⟩ := named_eq_ok_iff.1 h
      exact .bare hname
  | some p =>
      obtain ⟨before, rest⟩ := p
      obtain ⟨rfl, -⟩ := Text.cut?_eq_some_iff.1 hcut
      have hrest : Text.trimEnd rest = rest := by
        have htight : Tight ((before ++ ['(']) ++ rest) := by
          rwa [List.append_assoc]
        exact htight.trimEnd_eq
      simp only [hcut, hrest] at h
      cases hclosed : beforeClosing? rest with
      | none => rw [hclosed] at h; cases h
      | some body =>
          obtain rfl := beforeClosing?_eq_some_iff.1 hclosed
          rw [hclosed] at h
          simp only at h
          cases hbody : Properties.parse body with
          | error e => rw [hbody] at h; cases h
          | ok properties =>
              rw [hbody] at h
              simp only at h
              cases hnamed : named (Text.trim before) with
              | error e => rw [hnamed] at h; cases h
              | ok bare =>
                  rw [hnamed] at h
                  cases h
                  obtain ⟨hname, rfl⟩ := named_eq_ok_iff.1 hnamed
                  obtain ⟨pairs, hlists, hgathers⟩ :=
                    Properties.parse_eq_ok_iff.1 hbody
                  obtain ⟨b, gap, hb, hgap, hbefore⟩ :=
                    (Text.trims_trim before).around
                  obtain rfl : b = [] := by
                    rw [hbefore, List.append_assoc, List.append_assoc] at ht
                    exact ht.eq_nil_of_blank hb
                  rw [List.nil_append] at hbefore
                  have hwritten := Written.full hname hgap hlists hgathers
                  rwa [← hbefore] at hwritten

/-- White space around a definition is of no account to the reader. -/
theorem parse_trim (entry : List Char) :
    parse (Text.trim entry) = parse entry := by
  rw [parse, parse, (Text.tight_trim entry).trim_eq]

/-- The reader takes for a definition what is one, with white space around
it or without. -/
theorem parse_eq_ok_iff :
    parse entry = .ok d ↔ ∃ core, Trims entry core ∧ Written core d := by
  simp only [Text.trims_iff, exists_eq_left]
  rw [← parse_trim]
  exact ⟨written_of_parse (Text.tight_trim entry), Written.parse_eq⟩

/-- Reading a definition accepts the grammar and nothing else. Any text is
read as a definition exactly when it is, but for white space around it,
written as that definition, and any other text is refused. -/
theorem reads_exactly_what_is_written (entry : List Char) :
    (∀ d, parse entry = .ok d ↔ ∃ core, Trims entry core ∧ Written core d)
      ∧ ((∃ e : ConfigError, parse entry = .error e)
        ↔ ¬ ∃ d core, Trims entry core ∧ Written core d) := by
  refine ⟨fun d => parse_eq_ok_iff, ?_, fun h => ?_⟩
  · rintro ⟨e, he⟩ ⟨d, hd⟩
    rw [parse_eq_ok_iff.2 hd] at he
    cases he
  · cases hparse : parse entry with
    | error e => exact ⟨e, rfl⟩
    | ok d => exact absurd ⟨d, parse_eq_ok_iff.1 hparse⟩ h

-- --------------------------------------------------- lists of definitions

section Lists

variable {ε α β : Type} {f : α → Except ε β} {l : List α} {m : List β}
  {e : ε}

/-- All of a list succeed when each does. -/
theorem mapM_eq_ok_iff :
    l.mapM f = .ok m ↔ List.Forall₂ (fun a b => f a = .ok b) l m := by
  induction l generalizing m with
  | nil => cases m <;> simp [pure, Except.pure]
  | cons a l ih =>
      rw [List.mapM_cons]
      cases ha : f a with
      | error e => cases m <;> simp [bind, Except.bind, ha]
      | ok b =>
          cases hl : l.mapM f <;> cases m <;>
            simp [bind, Except.bind, pure, Except.pure, ← ih, ha, hl]

end Lists

/-- The entries of a list: its pieces that are not blank. -/
def entries (text : List Char) : List (List Char) :=
  (Text.pieces ';' text).filter fun entry => !allBlank entry

/-- No entry of a list has a semicolon in it. -/
theorem not_mem_of_mem_entries {text : List Char} (h : entry ∈ entries text) :
    ';' ∉ entry :=
  Text.not_mem_of_mem_pieces (List.mem_of_mem_filter h)

/-- A list is read when each of its entries is. -/
theorem parseList_eq_ok_iff {text : List Char} {ds : List Definition} :
    parseList text = .ok ds
      ↔ List.Forall₂ (fun entry d => parse entry = .ok d) (entries text) ds :=
  mapM_eq_ok_iff

end Definition

end PooledChain
