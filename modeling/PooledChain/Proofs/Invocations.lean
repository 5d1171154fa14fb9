/-
What invocations say about a failure: nothing.

On its way up a failure meets layers that wrap it in an invocation, and a
server's report may name as its cause a failure that was wrapped before. So
a chain of failures has invocations in front, which `unwrapped` peels off,
and between the reports, where they stay. One failure has become another by
putting invocations in and taking them out, wherever in the chain, if the
two are `Rewrapped`.

What does not change with them is the list of the servers' reports
(`Rewrapped.reports_eq`), and only these decide whether a failure is for good
(`isPermanent_iff_reports`). Peeling is a special case (`Rewrapped.unwrapped`):
a failure of the driver is peeled before a facade of a cache hears of it, and
the cache decides as it would have decided without.
-/
import PooledChain.Proofs.Act
import Mathlib.Logic.Relation

namespace PooledChain

namespace Text

/-- Looking for a text finds it wherever it stands as one piece. -/
theorem occursIn_iff_isInfix {needle hay : List Char} :
    occursIn needle hay = true ↔ needle <:+: hay := by
  induction hay with
  | nil => rw [occursIn, List.isEmpty_iff, List.infix_nil]
  | cons c hay ih =>
      rw [occursIn, Bool.or_eq_true, List.isPrefixOf_iff_prefix, ih,
        List.infix_cons_iff]

end Text

namespace DriverError

/-- Whether a failure says no more than that a layer met another one. -/
def isInvocation : DriverError → Bool
  | invocation _ => true
  | _ => false

/-- What servers reported in the chain of a failure, the outermost report
first. -/
def reports (e : DriverError) : List ServerReport :=
  e.chain.filterMap report?

/-- The second failure is the first with one invocation put in, around it
or around something beneath it. -/
inductive Enwrapped : DriverError → DriverError → Prop
  | here (e : DriverError) : Enwrapped e (invocation e)
  | cause (r : ServerReport) {e e'} : Enwrapped e e' →
      Enwrapped (databaseFrom r e) (databaseFrom r e')
  | inner {e e'} : Enwrapped e e' →
      Enwrapped (invocation e) (invocation e')

/-- The second failure is what becomes of the first when invocations are
put in and taken out, any number of them, at any depth. -/
def Rewrapped : DriverError → DriverError → Prop :=
  Relation.EqvGen Enwrapped

variable {e e' : DriverError}

-- ================================================= leading invocations

/-- Unwrapping takes an invocation off. -/
theorem unwrapped_invocation (e : DriverError) :
    (invocation e).unwrapped = e.unwrapped := rfl

/-- An invocation comes first in its chain. -/
theorem chain_invocation (e : DriverError) :
    (invocation e).chain = invocation e :: e.chain := rfl

/-- Nothing unwrapped is an invocation. -/
theorem isInvocation_unwrapped (e : DriverError) :
    e.unwrapped.isInvocation = false := by
  induction e with
  | invocation inner ih =>
      rw [unwrapped_invocation]
      exact ih
  | _ => rfl

/-- What is no invocation is unwrapped already. -/
theorem unwrapped_of_not_invocation (h : e.isInvocation = false) :
    e.unwrapped = e := by
  cases e with
  | invocation inner => cases h
  | _ => rfl

/-- However many invocations are put around a failure, unwrapping takes all
of them off. -/
theorem unwrapped_wrap (e : DriverError) (n : Nat) :
    (e.wrap n).unwrapped = e.unwrapped := by
  induction n with
  | zero => rfl
  | succ n ih =>
      rw [wrap, unwrapped_invocation]
      exact ih

/-- Peeling takes the leading invocations off the chain, and no others. -/
theorem chain_unwrapped (e : DriverError) :
    e.unwrapped.chain = e.chain.dropWhile isInvocation := by
  induction e with
  | invocation inner ih =>
      rw [unwrapped_invocation, chain_invocation,
        List.dropWhile_cons_of_pos rfl]
      exact ih
  | databaseFrom r cause =>
      exact (List.dropWhile_cons_of_neg Bool.false_ne_true).symm
  | _ => rfl

-- ================================================== invocations anywhere

/-- An invocation reports nothing of its own. -/
theorem reports_invocation (e : DriverError) :
    (invocation e).reports = e.reports := by
  rw [reports, chain_invocation, List.filterMap_cons_none rfl, reports]

/-- A server's report comes before those in its cause. -/
theorem reports_databaseFrom (r : ServerReport) (e : DriverError) :
    (databaseFrom r e).reports = r :: e.reports :=
  List.filterMap_cons_some rfl

/-- The reports are the same with one invocation more. -/
theorem Enwrapped.reports_eq (h : Enwrapped e e') :
    e'.reports = e.reports := by
  induction h with
  | here e => exact reports_invocation e
  | cause r _ ih => rw [reports_databaseFrom, reports_databaseFrom, ih]
  | inner _ ih => rw [reports_invocation, reports_invocation, ih]

namespace Rewrapped

/-- Putting invocations in or taking them out changes no report. -/
theorem reports_eq (h : Rewrapped e e') : e'.reports = e.reports := by
  induction h with
  | rel _ _ h => exact h.reports_eq
  | refl _ => rfl
  | symm _ _ _ ih => exact ih.symm
  | trans _ _ _ _ _ ih₁ ih₂ => exact ih₂.trans ih₁

/-- Peeling takes invocations out, one after the other. -/
theorem unwrapped (e : DriverError) : Rewrapped e e.unwrapped := by
  induction e with
  | invocation inner ih =>
      have hpeeled : Rewrapped (invocation inner) inner :=
        .symm _ _ (.rel _ _ (.here inner))
      exact .trans _ _ _ hpeeled ih
  | _ => exact .refl _

end Rewrapped

/-- The reports are those of the failures in the chain. -/
theorem mem_reports {r : ServerReport} :
    r ∈ e.reports ↔ ∃ item ∈ e.chain, item.report? = some r :=
  List.mem_filterMap

end DriverError

-- ======================================================= for good or not

namespace Error

open DriverError (Rewrapped)

variable {d d' : DriverError}

/-- A failure tells of a lost plan when a server reports the state and the
words for it. -/
theorem reportsLostPlan_iff :
    reportsLostPlan d = true ↔ ∃ r, d.report? = some r
      ∧ r.sqlState = featureNotSupported
      ∧ planInvalidated.toList <:+: r.message.toList := by
  rw [reportsLostPlan]
  cases d.report? with
  | none => simp
  | some r =>
      simp only [Bool.and_eq_true, beq_iff_eq, Text.occursIn_iff_isInfix,
        Option.some.injEq, exists_eq_left']

/-- A failure of the driver is for good if something in its chain tells of
a lost plan. -/
theorem isPermanent_driver_iff : (driver d).isPermanent = true ↔
    ∃ item ∈ d.chain, ∃ r, item.report? = some r
      ∧ r.sqlState = featureNotSupported
      ∧ planInvalidated.toList <:+: r.message.toList := by
  have hany : (driver d).isPermanent = d.chain.any reportsLostPlan := rfl
  simp only [hany, List.any_eq_true, reportsLostPlan_iff]

/-- It is a matter of the reports alone. -/
theorem isPermanent_iff_reports : (driver d).isPermanent = true ↔
    ∃ r ∈ d.reports, r.sqlState = featureNotSupported
      ∧ planInvalidated.toList <:+: r.message.toList := by
  rw [isPermanent_driver_iff]
  constructor
  · rintro ⟨item, hitem, r, hr, hlost⟩
    exact ⟨r, DriverError.mem_reports.2 ⟨item, hitem, hr⟩, hlost⟩
  · rintro ⟨r, hr, hlost⟩
    obtain ⟨item, hitem, hreport⟩ := DriverError.mem_reports.1 hr
    exact ⟨item, hitem, r, hreport, hlost⟩

/-- Invocations have no part in it. -/
theorem isPermanent_rewrapped (h : Rewrapped d d') :
    (driver d').isPermanent = (driver d).isPermanent := by
  rw [Bool.eq_iff_iff, isPermanent_iff_reports, isPermanent_iff_reports,
    h.reports_eq]

end Error

namespace DriverError

/-- Wrapping a failure in invocations never changes what it means.

What is left of a failure when it is peeled is no invocation; its chain is
the chain of the failure without the invocations in front; it cannot be
peeled further; and it is the same however often the failure was wrapped
before. A failure is for good exactly if its chain has a server's report
with the state and the words that tell of a lost plan, and so with all that
is got from it by putting invocations in and taking them out anywhere. What
the library passes on of a failed call of the driver is peeled, and is for
good just if the driver's failure was. -/
theorem invocations_mean_nothing (e : DriverError) :
    e.unwrapped.isInvocation = false
      ∧ e.unwrapped.chain = e.chain.dropWhile isInvocation
      ∧ e.unwrapped.unwrapped = e.unwrapped
      ∧ (∀ n, (e.wrap n).unwrapped = e.unwrapped)
      ∧ ((Error.driver e).isPermanent = true ↔
        ∃ item ∈ e.chain, ∃ r, item.report? = some r
          ∧ r.sqlState = "0A000"
          ∧ "cached plan must not change result type".toList
            <:+: r.message.toList)
      ∧ (∀ e', Rewrapped e e' →
        (Error.driver e').isPermanent = (Error.driver e).isPermanent)
      ∧ ∀ {α : Type} (call : Native.Act α) (s : State),
        (call.run s.native).1 = .error e →
          ∃ passed, ((Act.native call).run s).1 = .error passed
            ∧ passed = .driver e.unwrapped
            ∧ passed.isPermanent = (Error.driver e).isPermanent := by
  have hpeeled := isInvocation_unwrapped e
  refine ⟨hpeeled, chain_unwrapped e, unwrapped_of_not_invocation hpeeled,
    unwrapped_wrap e, Error.isPermanent_driver_iff,
    fun e' h => Error.isPermanent_rewrapped h,
    fun call s hfailed => ⟨.driver e.unwrapped, ?_, rfl, ?_⟩⟩
  · rw [Act.run_native, hfailed]
    rfl
  · exact Error.isPermanent_rewrapped (.unwrapped e)

/-- A lost plan that is wrapped on both sides of a report, and wrapped
differently once more, is for good both times; and so it is when a call
fails with it. -/
theorem rewrapped_plan_is_lost_for_good :
    let lost := DriverError.database
      ⟨"0A000", "ERROR: cached plan must not change result type", 0⟩
    let e := (databaseFrom ⟨"XX000", "statement failed", 7⟩
      lost.invocation).invocation
    let e' := databaseFrom ⟨"XX000", "statement failed", 7⟩
      lost.invocation.invocation
    let call : Native.Act Unit := throw e
    Rewrapped e e' ∧ (call.run {}).1 = .error e
      ∧ (Error.driver e).isPermanent = true
      ∧ (Error.driver e').isPermanent = true
      ∧ ∃ passed, ((Act.native call).run {}).1 = .error passed
        ∧ passed.isPermanent = true := by
  intro lost e e' call
  obtain ⟨-, -, -, -, -, hrewrapped, hcalled⟩ := invocations_mean_nothing e
  have hpeeled : Rewrapped e e.unwrapped := .unwrapped e
  have hmore : Enwrapped e.unwrapped e' := .cause _ (.here lost.invocation)
  have hsame : Rewrapped e e' := .trans _ _ _ hpeeled (.rel _ _ hmore)
  have hlost : (Error.driver e).isPermanent = true := by decide +kernel
  obtain ⟨passed, hpassed, -, hgood⟩ := hcalled call {} rfl
  exact ⟨hsame, rfl, hlost, (hrewrapped e' hsame).trans hlost, passed,
    hpassed, hgood.trans hlost⟩

end DriverError

end PooledChain
