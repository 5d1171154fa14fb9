/-
Texts cut to a length.

Lengths are counted in the bytes of UTF-8 and texts are cut between
characters, so a beginning of at most so many bytes can fall short of them.
It is still the longest there is: with the next character it would be too
long (`next_of_lt_byteLength`).

A cut is marked by three dots, for which room is taken from the limit. A
limit of three and more is kept in this way. Below three there is no room
for the mark, which is written all the same: the text is the mark alone and
longer than it should be (`Sanitization.mark_exceeds_no_length`). In either
case cutting once more changes nothing (`truncate_truncate`).
-/
import PooledChain.Sql.Sanitized

namespace PooledChain

namespace Sql

variable {limit n : Nat} {cs ds : List Char}

-- ================================================================= lengths

/-- The length in bytes is that of the text's encoding. -/
theorem byteLength_eq_utf8ByteSize (cs : List Char) :
    byteLength cs = (String.ofList cs).utf8ByteSize := by
  induction cs with
  | nil => rfl
  | cons c cs ih =>
      rw [byteLength, ih, String.ofList_cons, String.utf8ByteSize_append,
        String.utf8ByteSize_singleton]

/-- The lengths of two parts add up. -/
theorem byteLength_append (cs ds : List Char) :
    byteLength (cs ++ ds) = byteLength cs + byteLength ds := by
  induction cs with
  | nil => exact (Nat.zero_add _).symm
  | cons c cs ih =>
      rw [List.cons_append, byteLength, byteLength, ih, Nat.add_assoc]

/-- The ellipsis has three bytes. -/
theorem byteLength_ellipsis : byteLength ellipsis = 3 := rfl

-- ============================================================== beginnings

/-- What is taken is a beginning of the text. -/
theorem takeBytes_isPrefix (n : Nat) (cs : List Char) :
    takeBytes n cs <+: cs := by
  induction cs generalizing n with
  | nil => exact List.prefix_refl []
  | cons c cs ih =>
      rw [takeBytes]
      split
      · exact List.cons_prefix_cons.2 ⟨rfl, ih _⟩
      · exact List.nil_prefix

/-- No more bytes are taken than there is room for. -/
theorem byteLength_takeBytes_le (n : Nat) (cs : List Char) :
    byteLength (takeBytes n cs) ≤ n := by
  induction cs generalizing n with
  | nil => exact Nat.zero_le n
  | cons c cs ih =>
      rw [takeBytes]
      split
      · have hrest := ih (n - c.utf8Size)
        rw [byteLength]
        omega
      · exact Nat.zero_le n

/-- Nothing is taken where there is no room. -/
theorem takeBytes_zero (cs : List Char) : takeBytes 0 cs = [] := by
  cases cs with
  | nil => rfl
  | cons c cs =>
      have hpos := c.utf8Size_pos
      exact if_neg (by omega)

/-- A text that is too long has a next character, and the beginning would be
too long with it. -/
theorem next_of_lt_byteLength (h : n < byteLength cs) :
    ∃ c rest, cs = takeBytes n cs ++ c :: rest
      ∧ n < byteLength (takeBytes n cs) + c.utf8Size := by
  induction cs generalizing n with
  | nil => exact absurd h (Nat.not_lt_zero n)
  | cons c cs ih =>
      rw [byteLength] at h
      rw [takeBytes]
      split
      · next hfits =>
        have hrest : n - c.utf8Size < byteLength cs := by omega
        obtain ⟨d, rest, hcs, hlong⟩ := ih hrest
        refine ⟨d, rest, congrArg (c :: ·) hcs, ?_⟩
        rw [byteLength]
        omega
      · next hlong =>
        refine ⟨c, cs, rfl, ?_⟩
        rw [byteLength]
        omega

/-- What follows a text that is too long is of no account. -/
theorem takeBytes_append (h : n < byteLength cs) (ds : List Char) :
    takeBytes n (cs ++ ds) = takeBytes n cs := by
  induction cs generalizing n with
  | nil => exact absurd h (Nat.not_lt_zero n)
  | cons c cs ih =>
      rw [byteLength] at h
      rw [List.cons_append, takeBytes, takeBytes]
      split
      · next hfits =>
        have hrest : n - c.utf8Size < byteLength cs := by omega
        rw [ih hrest]
      · rfl

-- ================================================================= cutting

/-- A text that fits is not cut. -/
theorem truncate_of_fits (h : byteLength cs ≤ limit) :
    truncate limit cs = cs := if_pos h

/-- A text that does not fit is cut to leave room for the ellipsis. -/
theorem truncate_of_lt (h : limit < byteLength cs) :
    truncate limit cs = takeBytes (limit - 3) cs ++ ellipsis :=
  if_neg (Nat.not_le.2 h)

/-- What follows a text that has to be cut is of no account. -/
theorem truncate_append (h : limit < byteLength cs) (ds : List Char) :
    truncate limit (cs ++ ds) = truncate limit cs := by
  have hlong : limit < byteLength (cs ++ ds) := by
    rw [byteLength_append]
    omega
  have hshort : limit - 3 < byteLength cs := by omega
  rw [truncate_of_lt hlong, truncate_of_lt h, takeBytes_append hshort]

/-- The limit is kept where there is room for the mark. -/
theorem byteLength_truncate_le (limit : Nat) (cs : List Char) :
    byteLength (truncate limit cs) ≤ max limit 3 := by
  rcases Nat.lt_or_ge limit (byteLength cs) with h | h
  · have hkept := byteLength_takeBytes_le (limit - 3) cs
    rw [truncate_of_lt h, byteLength_append, byteLength_ellipsis]
    omega
  · rw [truncate_of_fits h]
    omega

/-- What was cut is not cut again. -/
theorem truncate_truncate (limit : Nat) (cs : List Char) :
    truncate limit (truncate limit cs) = truncate limit cs := by
  rcases Nat.lt_or_ge limit (byteLength (truncate limit cs)) with h | h
  · -- only the mark alone is too long for its limit
    have hroom : limit - 3 = 0 := by
      have hmost := byteLength_truncate_le limit cs
      omega
    rw [truncate_of_lt h, hroom, takeBytes_zero]
    rcases Nat.lt_or_ge limit (byteLength cs) with hcut | hfits
    · rw [truncate_of_lt hcut, hroom, takeBytes_zero]
    · rw [truncate_of_fits hfits] at h
      omega
  · exact truncate_of_fits h

end Sql

namespace Sanitization

open Sql

/-- The text before it is cut to its length. -/
def uncut (s : Sanitization) (sql : List Char) : List Char :=
  if s.enabled then withoutLiterals s.placeholder.toList sql else sql

/-- With sanitization on, the text without its literals is what is cut. -/
theorem uncut_of_enabled (s : Sanitization) (h : s.enabled = true)
    (sql : List Char) :
    s.uncut sql = withoutLiterals s.placeholder.toList sql := if_pos h

/-- Sanitization ends with the cut. -/
theorem apply_eq_truncate (s : Sanitization) (sql : List Char) :
    s.apply sql = truncate s.maxLength (s.uncut sql) := rfl

/-- A text that fits is kept. A longer one is cut behind its longest
beginning that leaves room for the mark: the next character would not fit
as well. The limit is kept if it has room for the mark at all. -/
theorem longest_beginning_is_kept (s : Sanitization) (sql : List Char) :
    ((String.ofList (s.uncut sql)).utf8ByteSize ≤ s.maxLength →
      s.apply sql = s.uncut sql)
    ∧ (s.maxLength < (String.ofList (s.uncut sql)).utf8ByteSize →
      ∃ (kept : List Char) (next : Char) (rest : List Char),
        s.uncut sql = kept ++ next :: rest
          ∧ s.apply sql = kept ++ "...".toList
          ∧ (String.ofList (s.apply sql)).utf8ByteSize ≤ max s.maxLength 3
          ∧ s.maxLength < (String.ofList
              (kept ++ next :: "...".toList)).utf8ByteSize) := by
  simp only [← byteLength_eq_utf8ByteSize, apply_eq_truncate]
  refine ⟨truncate_of_fits, fun h => ?_⟩
  have hshort : s.maxLength - 3 < byteLength (s.uncut sql) := by omega
  obtain ⟨next, rest, htext, hlong⟩ := next_of_lt_byteLength hshort
  refine ⟨_, next, rest, htext, truncate_of_lt h,
    byteLength_truncate_le _ _, ?_⟩
  have hmark : byteLength "...".toList = 3 := rfl
  rw [byteLength_append, byteLength, hmark]
  omega

/-- Thirteen bytes where twelve may stay: nine are left for the beginning,
and the character that is the ninth and the tenth is not cut apart. -/
theorem two_bytes_are_not_cut_apart :
    let s : Sanitization := ⟨true, 12, "?"⟩
    s.uncut "x = 'é' + é1é".toList = "x = ? + é1é".toList
      ∧ s.apply "x = 'é' + é1é".toList = "x = ? + ...".toList
      ∧ ∃ (kept : List Char) (next : Char) (rest : List Char),
        s.uncut "x = 'é' + é1é".toList = kept ++ next :: rest
          ∧ s.apply "x = 'é' + é1é".toList = kept ++ "...".toList
          ∧ (String.ofList
              (s.apply "x = 'é' + é1é".toList)).utf8ByteSize ≤ max 12 3
          ∧ 12 < (String.ofList
              (kept ++ next :: "...".toList)).utf8ByteSize := by
  intro s
  exact ⟨by decide +kernel, by decide +kernel,
    (longest_beginning_is_kept s "x = 'é' + é1é".toList).2
      (by decide +kernel)⟩

/-- The mark is written for a text of one byte that may have no length at
all. -/
theorem mark_exceeds_no_length :
    let s : Sanitization := ⟨true, 0, "?"⟩
    s.maxLength < (String.ofList (s.uncut "x".toList)).utf8ByteSize
      ∧ s.apply "x".toList = "...".toList
      ∧ ¬ (String.ofList (s.apply "x".toList)).utf8ByteSize ≤ s.maxLength := by
  decide +kernel

end Sanitization

end PooledChain
