import Scrc.Executor.SuiteVerdicts

/-!
# Errors of the tests of a suite

`executeTest` records the error of a run only while the suite has none, so of several runs that
return errors only the first leaves its error in its test.  A second one is run when the first one
is judged OK: it returned no output, and none was expected.
-/

namespace Scrc

open Interaction SuiteReference

/-- The text of the error that the call of `Run` made for test `i` returned; empty when it returned
none or was not made. -/
def errorOfRun (made : List (Event RunCalls)) (i : Nat) : GoString :=
  match made[i]? with
  | some e => e.reply.errText
  | none => []

/-- Every test carries the error of its run, and the report has an error exactly when a test that
was run does. -/
structure ErrorsKept (made : List (Event RunCalls)) (report : RunReport) : Prop where
  entries : ∀ result ∈ report.result, ∀ i, ∀ entry ∈ result.tests[i]?,
    entry.error = errorOfRun made i
  reported : report.err ≠ none ↔ ∃ result ∈ report.result, ∃ i < made.length,
    ∃ entry ∈ result.tests[i]?, entry.error ≠ []

/-- Errors that say something. -/
def ErrorsHaveText (tests : List TestCase) (outs : Nat → RunOutcome) : Prop :=
  ∀ i < tests.length, ∀ err, (outs i).err = some err → err.text ≠ []

section

variable {tests : List TestCase} {outs : Nat → RunOutcome}

theorem errorOfRun_calls (i : Nat) :
    errorOfRun (calls tests outs (executed tests outs)) i =
      if i < executed tests outs then (outs i).errText else [] := by
  unfold errorOfRun calls
  rw [List.getElem?_map]
  by_cases ran : i < executed tests outs
  · rw [List.getElem?_range ran, if_pos ran]
    rfl
  · have absent : (List.range (executed tests outs))[i]? = none :=
      List.getElem?_eq_none (by simpa using ran)
    rw [absent, if_neg ran]
    rfl

theorem entry_error (i : Nat) :
    (entry tests outs i).error = if i < executed tests outs then entryError outs i else [] := by
  unfold entry
  split
  · rfl
  · rfl

theorem errText_eq_nil_iff (texts : ErrorsHaveText tests outs) {i : Nat} (hi : i < tests.length) :
    (outs i).errText = [] ↔ (outs i).err = none := by
  unfold RunOutcome.errText
  cases failed : (outs i).err with
  | none => simp
  | some err => simpa using texts i hi err failed

theorem firstErr_eq_none_iff {m : Nat} : firstErr outs m = none ↔ ∀ i < m, (outs i).err = none := by
  unfold firstErr
  simp only [List.findSome?_eq_none_iff, List.mem_range]

/-- The error of a run stays with its test, unless an earlier run returned one. -/
theorem entryError_eq_iff (texts : ErrorsHaveText tests outs) {j : Nat} (hj : j < tests.length) :
    entryError outs j = (outs j).errText ↔
      ((outs j).err ≠ none → ∀ i < j, (outs i).err = none) := by
  unfold entryError
  cases earlier : firstErr outs j with
  | none => simpa using fun _ => firstErr_eq_none_iff.mp earlier
  | some err =>
      have failed : ¬ ∀ i < j, (outs i).err = none := by
        intro clean
        rw [firstErr_eq_none_iff.mpr clean] at earlier
        cases earlier
      simp only
      rw [eq_comm, errText_eq_nil_iff texts hj]
      constructor
      · intro without returned
        exact absurd without returned
      · intro first
        by_contra returned
        exact failed (first returned)

/-- The report has an error exactly when a test that was run carries one. -/
theorem firstErr_ne_none_iff (texts : ErrorsHaveText tests outs) :
    firstErr outs (executed tests outs) ≠ none ↔
      ∃ i < executed tests outs, entryError outs i ≠ [] := by
  constructor
  · intro failed
    have exists_failed : ∃ i, i < executed tests outs ∧ (outs i).err ≠ none := by
      by_contra clean
      push Not at clean
      exact failed (firstErr_eq_none_iff.mpr clean)
    -- the first run that returned an error keeps it
    let i₀ := Nat.find exists_failed
    have here : i₀ < executed tests outs ∧ (outs i₀).err ≠ none := Nat.find_spec exists_failed
    have inRange : i₀ < tests.length := Nat.lt_of_lt_of_le here.1 executed_le
    have first : ∀ i < i₀, (outs i).err = none := by
      intro i hi
      by_contra returned
      exact Nat.find_min exists_failed hi ⟨by omega, returned⟩
    refine ⟨i₀, here.1, ?_⟩
    rw [(entryError_eq_iff texts inRange).mpr fun _ => first, ne_eq,
      errText_eq_nil_iff texts inRange]
    exact here.2
  · rintro ⟨i, ran, kept⟩ clean
    have without : (outs i).err = none := firstErr_eq_none_iff.mp clean i ran
    apply kept
    unfold entryError RunOutcome.errText
    rw [without]
    split
    · rfl
    · rfl

/-- A test carries the error of its run, unless the run was made and returned a later error. -/
theorem error_eq_errorOfRun_iff (texts : ErrorsHaveText tests outs) {j : Nat}
    (hj : j < tests.length) :
    (entry tests outs j).error = errorOfRun (calls tests outs (executed tests outs)) j ↔
      (j < executed tests outs → (outs j).err ≠ none → ∀ i < j, (outs i).err = none) := by
  rw [entry_error, errorOfRun_calls]
  by_cases ran : j < executed tests outs
  · rw [if_pos ran, if_pos ran, entryError_eq_iff texts hj]
    exact ⟨fun kept _ => kept, fun kept => kept ran⟩
  · rw [if_neg ran, if_neg ran]
    exact ⟨fun _ ran' => absurd ran' ran, fun _ => rfl⟩

/-- The report has an error exactly when an entry of a test that was run carries one. -/
theorem report_err_iff (script : Script) (texts : ErrorsHaveText script.tests outs) :
    (referenceReport script outs).err ≠ none ↔
      ∃ result ∈ (referenceReport script outs).result,
        ∃ i < (calls script.tests outs (executed script.tests outs)).length,
          ∃ e ∈ result.tests[i]?, e.error ≠ [] := by
  have made : (calls script.tests outs (executed script.tests outs)).length =
      executed script.tests outs := by simp [calls]
  refine (firstErr_ne_none_iff texts).trans ?_
  rw [made]
  constructor
  · rintro ⟨i, ran, own⟩
    have hi : i < script.tests.length := Nat.lt_of_lt_of_le ran executed_le
    refine ⟨_, rfl, i, ran, _, entries_getElem? hi, ?_⟩
    rw [entry_error, if_pos ran]
    exact own
  · rintro ⟨result, member, i, ran, e, here, own⟩
    cases member
    have hi : i < script.tests.length := Nat.lt_of_lt_of_le ran executed_le
    rw [entries_getElem? hi] at here
    cases here
    rw [entry_error, if_pos ran] at own
    exact ⟨i, ran, own⟩

end

/-- **When errors are kept.**  Every test carries the error of its run exactly when, of every two
tests whose runs return errors, some test before the second decides the suite. -/
theorem errors_kept_iff (script : Script) (outs : Nat → RunOutcome)
    (texts : ErrorsHaveText script.tests outs) :
    ErrorsKept ((SuiteRunner.runSuite script recorded).answered (inTurn outs) []).1
        ((SuiteRunner.runSuite script recorded).answered (inTurn outs) []).2 ↔
      ∀ i j, i < j → j < script.tests.length → (outs i).err ≠ none → (outs j).err ≠ none →
        ∃ k < j, (outs k).verdict script.tests[k]! ≠ .ok := by
  rw [answered_runSuite]
  constructor
  · intro kept i j before hj first second
    by_contra undecided
    push Not at undecided
    have ran : j < executed script.tests outs := lt_executed_iff.mpr ⟨hj, undecided⟩
    have own := kept.entries _ rfl j _ (entries_getElem? hj)
    exact first ((error_eq_errorOfRun_iff texts hj).mp own ran second i before)
  · intro decided
    refine ⟨fun result member j e here => ?_, report_err_iff script texts⟩
    cases member
    have hj : j < script.tests.length := by simpa using (List.getElem?_eq_some_iff.mp here).1
    rw [entries_getElem? hj] at here
    cases here
    refine (error_eq_errorOfRun_iff texts hj).mpr fun ran second i before => ?_
    by_contra first
    obtain ⟨k, hk, bad⟩ := decided i j before hj first second
    exact bad ((lt_executed_iff.mp ran).2 k hk)

/-- Two tests that expect no output. -/
def silentTwice : Script := ⟨"s", .python, "pass", ⟨0, 0⟩, [silentTest, silentTest]⟩

/-- The daemon is down for the first test only. -/
theorem errors_kept_iff_once :
    ErrorsKept
      ((SuiteRunner.runSuite silentTwice recorded).answered
        (inTurn fun i => if i = 0 then daemonDown else ⟨some {}, none⟩) []).1
      ((SuiteRunner.runSuite silentTwice recorded).answered
        (inTurn fun i => if i = 0 then daemonDown else ⟨some {}, none⟩) []).2 := by
  refine (errors_kept_iff silentTwice _ fun i _ err failed => ?_).mpr
    fun i j before _ _ second => ?_
  · by_cases first : i = 0
    · rw [if_pos first] at failed
      cases failed
      exact GoError.wrap_text_ne_nil _ _
    · rw [if_neg first] at failed
      cases failed
  · rw [if_neg (by omega)] at second
    exact absurd rfl second

/-- The daemon is down for both tests, and the second one shows no error. -/
theorem secondError_lost :
    ¬ ∀ (script : Script) (outs : Nat → RunOutcome), ErrorsHaveText script.tests outs →
        ErrorsKept ((SuiteRunner.runSuite script recorded).answered (inTurn outs) []).1
          ((SuiteRunner.runSuite script recorded).answered (inTurn outs) []).2 := by
  intro kept
  have lost := kept silentTwice (fun _ => daemonDown) fun i _ err failed => by
    cases failed
    exact GoError.wrap_text_ne_nil _ _
  have second := lost.entries _ rfl 1 _ rfl
  exact absurd second (by decide)

end Scrc
