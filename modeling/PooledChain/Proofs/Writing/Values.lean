/-
The values of properties: truth values and whole numbers.

A truth value is `true` or `false` in any mixture of cases (`Truth`). A
number is a run of digits, with or without a sign (`Decimal`), and has to
fit 64 bits (`Whole`) and perhaps not to be negative (`Size`). A look-up
answers what the text under a key says in these terms, or the default if
there is none (`Properties.Gives`), and fails where it says nothing of the
kind.

A truth value and a number are printed so that they are read again
(`truth_boolText`, `decimal_toString`).
-/
import Mathlib.Data.List.Forall2
import PooledChain.Definition.Properties
import PooledChain.Proofs.Writing.Grammar
import PooledChain.Session.Diagnostics

namespace PooledChain

variable {c w : Char} {cs word : List Char} {v key : String} {b : Bool}
  {n : Nat} {i : Int}

-- ========================================================= truth values

/-- Whether a text is a word in some mixture of cases. -/
def InAnyCase (word cs : List Char) : Prop :=
  List.Forall₂ (fun w c => c = w ∨ c = w.toUpper) word cs

/-- The words for yes and no, in any case. -/
inductive Truth : String → Bool → Prop
  /-- The word for yes. -/
  | yes {v : String} : InAnyCase "true".toList v.toList → Truth v true
  /-- The word for no. -/
  | no {v : String} : InAnyCase "false".toList v.toList → Truth v false

/-- The text printed for a yes or no says it. -/
theorem truth_boolText (b : Bool) : Truth (boolText b) b := by
  have hsame : ∀ cs : List Char, InAnyCase cs cs := fun cs =>
    List.forall₂_same.2 fun c _ => .inl rfl
  cases b with
  | true => exact .yes (hsame _)
  | false => exact .no (hsame _)

-- ======================================================== whole numbers

/-- One or more digits. -/
def Digits (cs : List Char) : Prop :=
  cs ≠ [] ∧ ∀ c ∈ cs, c.isDigit = true

/-- Whether a text is a number in decimal, with or without a sign. -/
inductive Decimal : List Char → Int → Prop
  | bare {ds : List Char} : Digits ds → Decimal ds (Nat.ofDigitChars 10 ds 0)
  | plus {ds : List Char} : Digits ds →
    Decimal ('+' :: ds) (Nat.ofDigitChars 10 ds 0)
  | minus {ds : List Char} : Digits ds →
    Decimal ('-' :: ds) (-(Nat.ofDigitChars 10 ds 0))

/-- A number that fits 64 bits. -/
def Whole (v : String) (i : Int) : Prop :=
  Decimal v.toList i ∧ Text.minInt64 ≤ i ∧ i ≤ Text.maxInt64

/-- Such a number that is not negative. -/
def Size (v : String) (n : Nat) : Prop :=
  Decimal v.toList n ∧ n ≤ Text.maxInt64

/-- The first of some digits is one. -/
theorem Digits.head (h : Digits (c :: cs)) : c.isDigit = true :=
  h.2 c List.mem_cons_self

/-- A number is printed as itself. -/
theorem decimal_toString (i : Int) : Decimal (toString i).toList i := by
  have hdigits : ∀ n, Digits (Nat.toDigits 10 n) := fun n =>
    ⟨Nat.toDigits_ne_nil, fun c hc =>
      Nat.isDigit_of_mem_toDigits (by decide) (by decide) hc⟩
  cases i with
  | ofNat n =>
      have h := Decimal.bare (hdigits n)
      rw [Nat.ofDigitChars_ten_toDigits] at h
      have htext : (toString (Int.ofNat n)).toList = Nat.toDigits 10 n :=
        String.toList_ofList
      rwa [htext]
  | negSucc n =>
      have h := Decimal.minus (hdigits (n + 1))
      rw [Nat.ofDigitChars_ten_toDigits] at h
      have htext : (toString (Int.negSucc n)).toList
          = '-' :: Nat.toDigits 10 (n + 1) := by
        show ("-" ++ Nat.repr (n + 1)).toList = _
        rw [String.toList_append, Nat.toList_repr]
        rfl
      rwa [htext]

/-- A number is made of digits, and perhaps a sign. -/
theorem Decimal.mem (h : Decimal cs i) (hc : c ∈ cs) :
    c = '+' ∨ c = '-' ∨ c.isDigit = true := by
  cases h with
  | bare hds => exact .inr (.inr (hds.2 c hc))
  | plus hds =>
      rcases List.mem_cons.1 hc with rfl | hc
      · exact .inl rfl
      · exact .inr (.inr (hds.2 c hc))
  | minus hds =>
      rcases List.mem_cons.1 hc with rfl | hc
      · exact .inr (.inl rfl)
      · exact .inr (.inr (hds.2 c hc))

-- ============================================================== look-ups

namespace Properties

variable {α : Type} {p : Properties} {means : String → α → Prop}
  {default a : α}

/-- Whether a value is what the text under a key says, or the default
where there is none. -/
def Gives (p : Properties) (key : String) (means : String → α → Prop)
    (default a : α) : Prop :=
  match p.get? key with
  | none => a = default
  | some v => means v a

end Properties

end PooledChain
