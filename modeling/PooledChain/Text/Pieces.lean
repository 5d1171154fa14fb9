/-
Taking a text apart at a separator.

`pieces` cuts at every separator and keeps empty pieces, so there is
always at least one; `cut?` cuts at the first separator only.
-/

namespace PooledChain.Text

/-- The pieces between the separators, empty ones included. -/
def pieces (sep : Char) : List Char → List (List Char)
  | [] => [[]]
  | c :: cs =>
    if c == sep then [] :: pieces sep cs
    else match pieces sep cs with
      | [] => [[c]]
      | p :: ps => (c :: p) :: ps

/-- What stands before and after the first separator. -/
def cut? (sep : Char) : List Char → Option (List Char × List Char)
  | [] => none
  | c :: cs =>
    if c == sep then some ([], cs)
    else (cut? sep cs).map fun (before, after) => (c :: before, after)

/-- Even an empty text is one piece. -/
theorem pieces_ne_nil (sep : Char) (cs : List Char) : pieces sep cs ≠ [] := by
  cases cs with
  | nil => simp [pieces]
  | cons c cs =>
    simp only [pieces]
    split
    · simp
    · split <;> simp

/-- The text before the last separator's piece is forgotten. -/
def lastPiece (sep : Char) (cs : List Char) : List Char :=
  (pieces sep cs).getLast (pieces_ne_nil sep cs)

/-- A text that was cut is the part before the first separator, the
separator, and the part after it. -/
theorem eq_of_cut? {sep : Char} {cs before after : List Char}
    (h : cut? sep cs = some (before, after)) :
    cs = before ++ sep :: after ∧ sep ∉ before := by
  induction cs generalizing before with
  | nil => simp [cut?] at h
  | cons c cs ih =>
    simp only [cut?] at h
    split at h
    next hc =>
      have hc : c = sep := by simpa using hc
      simp only [Option.some.injEq, Prod.mk.injEq] at h
      obtain ⟨rfl, rfl⟩ := h
      simp [hc]
    next hc =>
      have hc : ¬ c = sep := by simpa using hc
      simp only [Option.map_eq_some_iff, Prod.exists, Prod.mk.injEq] at h
      obtain ⟨b, a, hba, rfl, rfl⟩ := h
      obtain ⟨rfl, hb⟩ := ih hba
      exact ⟨rfl, by simp [hb, Ne.symm hc]⟩

end PooledChain.Text
