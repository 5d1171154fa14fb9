/-
What a SQL text begins with.

The operation of a text is that of the first beginning in the table that the
text has in upper case (`Asks`). To find it, only the head of the text is put
in upper case, a fixed number of characters. The head and the text can get
longer by that, and each character by as much as it likes, so that their
places shift; but none gets shorter. So the head is at least as long as any
beginning afterwards, or it is all there is, and has the beginnings that the
text has (`isPrefix_flatMap_take_iff`).

White space in front is taken away first, and the case of ASCII letters makes
no difference to what a letter is in upper case.
-/
import PooledChain.Sql.Operation

namespace PooledChain

namespace Text

-- ====================================================== ASCII letters

/-- Only the small letters of ASCII have an ASCII letter in upper case that
is another one. -/
theorem exists_of_toUpper_ne {c : Char} (h : c.toUpper ≠ c) :
    ∃ n < 26, c = Char.ofNat (97 + n) := by
  have hcase : 97 ≤ c.toNat ∧ c.toNat ≤ 122 := by
    by_cases hin : c.val ≥ 97 ∧ c.val ≤ 122
    · exact ⟨UInt32.le_iff_toNat_le.1 hin.1, UInt32.le_iff_toNat_le.1 hin.2⟩
    · exact absurd (dif_neg hin) h
  refine ⟨c.toNat - 97, by omega, ?_⟩
  rw [Nat.add_sub_cancel' hcase.1, Char.ofNat_toNat]

/-- What does not tell the small letters from the great ones does not tell
a character from itself in upper case. -/
theorem toUpper_congr {α : Type} {f : Char → α}
    (h : ∀ n < 26, f (Char.ofNat (97 + n)).toUpper = f (Char.ofNat (97 + n)))
    (c : Char) : f c.toUpper = f c := by
  by_cases hc : c.toUpper = c
  · rw [hc]
  · obtain ⟨n, hn, rfl⟩ := exists_of_toUpper_ne hc
    exact h n hn

/-- The upper case of an ASCII letter is the same for both its cases. -/
theorem upperCase_toUpper (c : Char) : upperCase c.toUpper = upperCase c :=
  toUpper_congr (by decide) c

/-- A letter is not white space in either case. -/
theorem isBlank_toUpper (c : Char) : isBlank c.toUpper = isBlank c :=
  toUpper_congr (by decide) c

variable {blanks text other : List Char}

/-- White space in front does not count. -/
theorem trimStart_append_of_blank (h : ∀ c ∈ blanks, isBlank c = true) :
    trimStart (blanks ++ text) = trimStart text :=
  List.dropWhile_append_of_pos h

/-- Whether letters are small or capital, the same white space is
removed. -/
theorem trimStart_map_toUpper (text : List Char) :
    trimStart (text.map Char.toUpper)
      = (trimStart text).map Char.toUpper := by
  have hsame : isBlank ∘ Char.toUpper = isBlank := funext isBlank_toUpper
  rw [trimStart, List.dropWhile_map, hsame, trimStart]

/-- Texts that differ in the case of ASCII letters only are the same in
upper case. -/
theorem flatMap_upperCase_congr
    (h : other.map Char.toUpper = text.map Char.toUpper) :
    other.flatMap upperCase = text.flatMap upperCase := by
  have hupper : ∀ cs : List Char,
      cs.flatMap upperCase = (cs.map Char.toUpper).flatMap upperCase := by
    intro cs
    rw [List.flatMap_map]
    simp only [upperCase_toUpper]
  rw [hupper other, h, ← hupper text]

-- ================================================ heads that get longer

variable {f : Char → List Char} {start : List Char} {n : Nat}

/-- A text does not get shorter where no character vanishes. -/
theorem length_le_length_flatMap (hf : ∀ c, f c ≠ []) (text : List Char) :
    text.length ≤ (text.flatMap f).length := by
  induction text with
  | nil => exact Nat.le_refl 0
  | cons c text ih =>
      have hpos := List.length_pos_iff.2 (hf c)
      rw [List.flatMap_cons, List.length_append, List.length_cons]
      omega

/-- If no character vanishes, what is no longer than the head of a text is a
beginning of the text just if it is one of the head. -/
theorem isPrefix_flatMap_take_iff (hf : ∀ c, f c ≠ [])
    (hn : start.length ≤ n) :
    start <+: (text.take n).flatMap f ↔ start <+: text.flatMap f := by
  have hhead : (text.take n).flatMap f <+: text.flatMap f := by
    refine ⟨(text.drop n).flatMap f, ?_⟩
    rw [← List.flatMap_append, List.take_append_drop]
  refine ⟨fun h => h.trans hhead, fun h => ?_⟩
  by_cases hall : text.length ≤ n
  · rw [List.take_of_length_le hall]
    exact h
  · have hlong := length_le_length_flatMap hf (text.take n)
    rw [List.length_take] at hlong
    exact List.prefix_of_prefix_length_le h hhead (by omega)

end Text

namespace Sql

open Text (upperCase trimStart isBlank)

variable {text other : List Char} {name : String}

/-- The operation that a text in upper case asks for: that of the first
beginning in the table that the text has, or none that is known. -/
inductive Asks (text : List Char) : String → Prop
  | known {above start name below} :
      operations = above ++ (start, name) :: below →
      start.toList <+: text →
      (∀ entry ∈ above, ¬ entry.1.toList <+: text) → Asks text name
  | other : (∀ entry ∈ operations, ¬ entry.1.toList <+: text) →
      Asks text "OTHER"

/-- The first entry of the table whose beginning the text has decides. -/
theorem operationOf_eq_getD (text : List Char) :
    operationOf text = ((operations.find? fun entry =>
      entry.1.toList.isPrefixOf text).map Prod.snd).getD "OTHER" := by
  unfold operationOf
  split
  · next start name hfound =>
    have hfound : operations.find? (fun entry =>
        entry.1.toList.isPrefixOf text) = some (start, name) := hfound
    rw [hfound]
    rfl
  · next hnone =>
    have hnone : operations.find? (fun entry =>
        entry.1.toList.isPrefixOf text) = none := hnone
    rw [hnone]
    rfl

/-- The first beginning in the table that fits says what a text asks for. -/
theorem operationOf_eq_iff : operationOf text = name ↔ Asks text name := by
  rw [operationOf_eq_getD]
  constructor
  · rintro rfl
    cases hfind : operations.find? fun entry =>
      entry.1.toList.isPrefixOf text with
    | some found =>
        obtain ⟨hstart, above, below, htable, habove⟩ :=
          List.find?_eq_some_iff_append.1 hfind
        refine .known htable (List.isPrefixOf_iff_prefix.1 hstart) ?_
        intro entry hin hentry
        have hnot := habove entry hin
        rw [List.isPrefixOf_iff_prefix.2 hentry] at hnot
        cases hnot
    | none =>
        refine .other fun entry hin hentry => ?_
        exact List.find?_eq_none.1 hfind entry hin
          (List.isPrefixOf_iff_prefix.2 hentry)
  · intro h
    cases h with
    | @known above start _ below htable hstart habove =>
        have hfound : operations.find? (fun entry =>
            entry.1.toList.isPrefixOf text) = some (start, name) := by
          refine List.find?_eq_some_iff_append.2
            ⟨List.isPrefixOf_iff_prefix.2 hstart, above, below, htable, ?_⟩
          intro entry hin
          rw [Bool.not_eq_true', ← Bool.not_eq_true,
            List.isPrefixOf_iff_prefix]
          exact habove entry hin
        rw [hfound, Option.map_some, Option.getD_some]
    | other hnone =>
        have hnothing : operations.find? (fun entry =>
            entry.1.toList.isPrefixOf text) = none := by
          refine List.find?_eq_none.2 fun entry hin hentry => ?_
          exact hnone entry hin (List.isPrefixOf_iff_prefix.1 hentry)
        rw [hnothing, Option.map_none, Option.getD_none]

/-- Texts that have the same beginnings ask for the same. -/
theorem Asks.congr (h : Asks text name)
    (hsame : ∀ entry ∈ operations,
      entry.1.toList <+: text ↔ entry.1.toList <+: other) :
    Asks other name := by
  cases h with
  | @known above start _ below htable hstart habove =>
      have hin : ∀ entry ∈ above, entry ∈ operations := fun entry he => by
        rw [htable]
        exact List.mem_append_left _ he
      have hthis : (start, name) ∈ operations := by
        rw [htable]
        exact List.mem_append_right _ List.mem_cons_self
      exact .known htable ((hsame _ hthis).1 hstart) fun entry he hentry =>
        habove entry he ((hsame entry (hin entry he)).2 hentry)
  | other hnone =>
      exact .other fun entry he hentry =>
        hnone entry he ((hsame entry he).2 hentry)

/-- What is looked at is as long as the longest beginning in the table. -/
theorem length_le_headLength :
    ∀ entry ∈ operations, entry.1.toList.length ≤ headLength := by decide

/-- The head of a text asks for what the text asks for. -/
theorem operationOf_take (text : List Char) :
    operationOf ((text.take headLength).flatMap upperCase)
      = operationOf (text.flatMap upperCase) := by
  have hasks : Asks (text.flatMap upperCase)
      (operationOf (text.flatMap upperCase)) := operationOf_eq_iff.1 rfl
  refine operationOf_eq_iff.2 (hasks.congr fun entry hin => ?_)
  exact (Text.isPrefix_flatMap_take_iff Text.upperCase_ne_nil
    (length_le_headLength entry hin)).symm

/-- The same operation is found in the whole text in upper case. -/
theorem operation_eq (sql : List Char) :
    operation sql = operationOf ((trimStart sql).flatMap upperCase) :=
  operationOf_take (trimStart sql)

/-- Cutting a text to its head does not change the operation that is found.

The operation of a SQL text is what the whole text asks for, put in upper
case without the white space in front. White space in front and the case of
ASCII letters make no difference, and neither does what follows the first
eight characters that are no such white space. -/
theorem head_asks_for_the_same (sql : List Char) :
    (∀ name, operation sql = name
        ↔ Asks ((trimStart sql).flatMap upperCase) name)
      ∧ (∀ blanks, (∀ c ∈ blanks, isBlank c = true) →
        operation (blanks ++ sql) = operation sql)
      ∧ (∀ other : List Char,
        other.map Char.toUpper = sql.map Char.toUpper →
          operation other = operation sql)
      ∧ ∀ other, (trimStart other).take 8 = (trimStart sql).take 8 →
        operation other = operation sql := by
  refine ⟨fun name => ?_, fun blanks hblanks => ?_, fun other hcase => ?_,
    fun other hhead => ?_⟩
  · rw [operation_eq, operationOf_eq_iff]
  · rw [operation, Text.trimStart_append_of_blank hblanks, operation]
  · have htrimmed : (trimStart other).map Char.toUpper
        = (trimStart sql).map Char.toUpper := by
      rw [← Text.trimStart_map_toUpper, hcase, Text.trimStart_map_toUpper]
    rw [operation_eq, operation_eq, Text.flatMap_upperCase_congr htrimmed]
  · rw [operation, headLength, hhead, operation, headLength]

/-- A long s is an S in upper case, and the ligature behind the word becomes
two letters, so that the head of this text has nine. It asks for an
insertion, and so do the texts that differ from it in front, in case or
behind the head. -/
theorem long_s_asks_for_insert :
    let sql := "in\u017fert \ufb06ock values (1)".toList
    Asks ((trimStart sql).flatMap upperCase) "INSERT"
      ∧ operation sql = "INSERT"
      ∧ operation ("\u3000\n".toList ++ sql) = "INSERT"
      ∧ operation "iN\u017feRT \ufb06OCK Values (1)".toList = "INSERT"
      ∧ operation " in\u017fert \ufb06ar".toList = "INSERT" := by
  intro sql
  obtain ⟨hasks, hblanks, hcase, hhead⟩ := head_asks_for_the_same sql
  have hword : Asks ((trimStart sql).flatMap upperCase) "INSERT" := by
    have htable : operations
        = [("SELECT", "SELECT")] ++ ("INSERT", "INSERT") :: operations.drop 2 :=
      rfl
    exact .known htable (by decide) (by decide)
  have hinsert : operation sql = "INSERT" := (hasks "INSERT").2 hword
  have hblank : "\u3000\n".toList.all isBlank = true := by decide
  refine ⟨hword, hinsert, ?_, ?_, ?_⟩
  · exact (hblanks _ (List.all_eq_true.1 hblank)).trans hinsert
  · exact (hcase _ (by decide)).trans hinsert
  · exact (hhead _ (by decide)).trans hinsert

end Sql

end PooledChain
