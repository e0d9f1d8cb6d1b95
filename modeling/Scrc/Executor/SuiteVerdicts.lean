import Mathlib.Data.Nat.Find
import Scrc.Executor.SuiteReference

/-!
# Verdicts of a suite

What the published verdicts of a suite rest on, over every sequence of outcomes of `prepared.Run`.

* `runSuite_reference`: the report is the reference's, and what the reference says entry by entry.
* `verdicts_rest_on_results_iff`: an OK or WA verdict stands for a program that produced a result
  exactly when no call of `Run` that is reached comes back without one.
-/

namespace Scrc

open Interaction SuiteReference

/-! ## The reference, entry by entry -/

/-- **`runSuite` computes its declarative reference.**  For every script and every sequence of
outcomes of `prepared.Run`, the calls made and the report returned are the reference's: `Run` is
called once, in order and on the test's input, up to the decisive test; entries before it are OK,
its own entry carries its verdict, entries after it are zero values marked not run. -/
theorem runSuite_reference (script : Script) (outs : Nat → RunOutcome) :
    (SuiteRunner.runSuite script recorded).answered (inTurn outs) [] =
        (calls script.tests outs (executed script.tests outs), referenceReport script outs) ∧
      (∀ k, decisive script.tests outs = some k →
        executed script.tests outs = k + 1 ∧ k < script.tests.length ∧
        verdict script.tests outs k ≠ .ok ∧
        overall script.tests outs = verdict script.tests outs k ∧
        (∀ i < k, verdict script.tests outs i = .ok ∧
          (entry script.tests outs i).status = .ok) ∧
        (entry script.tests outs k).status = verdict script.tests outs k ∧
        ∀ i, k < i → entry script.tests outs i =
          { case := script.tests[i]!, status := .notRun, stdout := [], stderr := [],
            exitCode := 0, duration := 0, error := [] }) ∧
      (decisive script.tests outs = none →
        executed script.tests outs = script.tests.length ∧ overall script.tests outs = .ok ∧
        ∀ i < script.tests.length, verdict script.tests outs i = .ok ∧
          (entry script.tests outs i).status = .ok) := by
  refine ⟨answered_runSuite script outs, fun k hk => ?_, fun none => ?_⟩
  · have spec := of_decisive_eq_some hk
    have count : executed script.tests outs = k + 1 := by
      unfold executed
      rw [hk]
    have status : ∀ i < k + 1,
        (entry script.tests outs i).status = verdict script.tests outs i := by
      intro i hi
      unfold entry
      rw [if_pos (by omega)]
      exact entryStatus_of_lt (by omega)
    refine ⟨count, spec.1, spec.2.1, ?_, fun i hi => ⟨spec.2.2 i hi, ?_⟩, status k (by omega),
      fun i hi => ?_⟩
    · unfold overall
      rw [hk]
    · rw [status i (by omega)]
      exact spec.2.2 i hi
    · unfold entry entryStatus
      rw [if_neg (by omega), hk]
      simp only
      rw [if_neg (by omega), if_neg (by omega)]
  · have count : executed script.tests outs = script.tests.length := by
      unfold executed
      rw [none]
    refine ⟨count, ?_, fun i hi => ⟨of_decisive_eq_none none hi, ?_⟩⟩
    · unfold overall
      rw [none]
    · unfold entry
      rw [if_pos (by omega), entryStatus_of_lt (by omega)]
      exact of_decisive_eq_none none hi

/-! ## Failed runs and verdicts -/

/-- The call of `Run` made for test `i` returned a non-nil result. -/
def ProducedResult (made : List (Event RunCalls)) (i : Nat) : Prop :=
  ∃ e ∈ made[i]?, e.reply.result ≠ none

/-- A test is OK or WA only if the call of `Run` made for it returned a result, and the suite is OK
only if every test produced one. -/
def VerdictsRestOnResults (made : List (Event RunCalls)) (report : RunReport) : Prop :=
  ∀ result ∈ report.result,
    (∀ i, ∀ entry ∈ result.tests[i]?, entry.status = .ok ∨ entry.status = .wrongAnswer →
      ProducedResult made i) ∧
    (result.status = .ok → ∀ i < report.script.tests.length, ProducedResult made i)

/-- A returned result that decides the suite: its status is set and not OK, or its output is not
the expected one. -/
def Decides (test : TestCase) (r : Result) : Prop :=
  (r.status ≠ .unset ∧ r.status ≠ .ok) ∨ r.stdout ≠ test.expectedOutput

theorem decides_iff {test : TestCase} {o : RunOutcome} {r : Result} (h : o.result = some r) :
    Decides test r ↔ o.verdict test ≠ .ok := by
  unfold Decides RunOutcome.verdict RunOutcome.status RunOutcome.stdout
  rw [h]
  simp only [Option.map_some, Option.getD_some]
  have wrong := Status.wrongAnswer_ne_ok
  by_cases set : r.status ≠ .unset ∧ r.status ≠ .ok
  · simp [set]
  · by_cases same : r.stdout = test.expectedOutput
    · simp [set, same]
    · simp [set, same, wrong]

/-- Without a result the verdict is the comparison of no output with the expected output. -/
theorem verdict_of_none {test : TestCase} {o : RunOutcome} (h : o.result = none) :
    o.verdict test = .ok ∨ o.verdict test = .wrongAnswer := by
  unfold RunOutcome.verdict RunOutcome.status RunOutcome.stdout
  rw [h]
  simp only [Option.map_none, Option.getD_none, ne_eq, not_true_eq_false, false_and, ↓reduceIte]
  split
  · exact Or.inl rfl
  · exact Or.inr rfl

section

variable {script : Script} {outs : Nat → RunOutcome}

theorem producedResult_calls {i : Nat} (hi : i < executed script.tests outs) :
    ProducedResult (calls script.tests outs (executed script.tests outs)) i ↔
      (outs i).result ≠ none := by
  have made : (calls script.tests outs (executed script.tests outs))[i]? =
      some ⟨script.tests[i]!.input, outs i⟩ := by
    unfold calls
    rw [List.getElem?_map, List.getElem?_range hi]
    rfl
  unfold ProducedResult
  rw [made]
  simp

theorem entries_getElem? {i : Nat} (hi : i < script.tests.length) :
    ((List.range script.tests.length).map (entry script.tests outs))[i]? =
      some (entry script.tests outs i) := by
  rw [List.getElem?_map, List.getElem?_range hi]
  rfl

/-- An entry with an OK or WA verdict belongs to a test that was run. -/
theorem lt_executed_of_status {i : Nat} (hi : i < script.tests.length)
    (h : (entry script.tests outs i).status = .ok ∨
      (entry script.tests outs i).status = .wrongAnswer) : i < executed script.tests outs := by
  by_contra notRun
  have status : (entry script.tests outs i).status = .notRun := by
    unfold entry
    rw [if_neg notRun]
    exact entryStatus_of_le (by omega) hi
  rw [status] at h
  rcases h with h | h
  · exact Status.notRun_ne_ok h
  · exact Status.notRun_ne_wrongAnswer h

end

/-- **When verdicts rest on results.**  They do exactly when every outcome without a result comes
behind an earlier test whose returned result already decided the suite. -/
theorem verdicts_rest_on_results_iff (script : Script) (outs : Nat → RunOutcome) :
    VerdictsRestOnResults
        ((SuiteRunner.runSuite script recorded).answered (inTurn outs) []).1
        ((SuiteRunner.runSuite script recorded).answered (inTurn outs) []).2 ↔
      ∀ i < script.tests.length, (outs i).result = none →
        ∃ j < i, ∃ r, (outs j).result = some r ∧ Decides script.tests[j]! r := by
  rw [answered_runSuite]
  constructor
  · intro rest i hi failed
    by_contra undecided
    -- `i₀` is the first call without a result; nothing before it decides the suite
    have exists_failed : ∃ i, i < script.tests.length ∧ (outs i).result = none := ⟨i, hi, failed⟩
    let i₀ := Nat.find exists_failed
    have here : i₀ < script.tests.length ∧ (outs i₀).result = none := Nat.find_spec exists_failed
    have le : i₀ ≤ i := Nat.find_min' exists_failed ⟨hi, failed⟩
    have reached : i₀ < executed script.tests outs := by
      rw [lt_executed_iff]
      refine ⟨here.1, fun j hj => ?_⟩
      by_contra bad
      cases produced : (outs j).result with
      | none => exact Nat.find_min exists_failed hj ⟨by omega, produced⟩
      | some r =>
          exact undecided ⟨j, by omega, r, produced, (decides_iff produced).mpr bad⟩
    have status : (entry script.tests outs i₀).status = .ok ∨
        (entry script.tests outs i₀).status = .wrongAnswer := by
      unfold entry
      rw [if_pos reached, entryStatus_of_lt reached]
      exact verdict_of_none here.2
    have produced := (rest _ rfl).1 i₀ _ (entries_getElem? here.1) status
    exact (producedResult_calls reached).mp produced here.2
  · intro behind
    have first : ∀ i < script.tests.length, (entry script.tests outs i).status = .ok ∨
        (entry script.tests outs i).status = .wrongAnswer →
        ProducedResult (calls script.tests outs (executed script.tests outs)) i := by
      intro i hi status
      have reached := lt_executed_of_status hi status
      rw [producedResult_calls reached]
      intro failed
      rcases behind i hi failed with ⟨j, hj, r, produced, decides⟩
      exact (decides_iff produced).mp decides ((lt_executed_iff.mp reached).2 j hj)
    intro result member
    cases member
    refine ⟨fun i e member status => ?_, fun good i hi => ?_⟩
    · have hi : i < script.tests.length := by
        have inside := List.getElem?_eq_some_iff.mp member
        simpa using inside.1
      have here : ((List.range script.tests.length).map (entry script.tests outs))[i]? =
          some (entry script.tests outs i) := entries_getElem? hi
      have same := here.symm.trans member
      cases same
      exact first i hi status
    · refine first i hi (Or.inl ?_)
      change overall script.tests outs = .ok at good
      unfold entry entryStatus executed
      unfold overall at good
      cases h : decisive script.tests outs with
      | none =>
          simp only
          split <;> rfl
      | some k =>
          rw [h] at good
          exact absurd good (of_decisive_eq_some h).2.1

/-- A test that expects no output. -/
def silentTest : TestCase := ⟨1, "1\n", []⟩

/-- What `runProgram` returns when the Docker daemon does not answer. -/
def daemonDown : RunOutcome :=
  ⟨none, some (.wrap "create container" (.new "Cannot connect to the Docker daemon"))⟩

/-- A run that never produced a result is judged OK when the test expects no output, and so is the
suite. -/
theorem daemonDown_judged_ok :
    ¬ VerdictsRestOnResults
      ((SuiteRunner.runSuite ⟨"s", .python, "pass", ⟨0, 0⟩, [silentTest]⟩ recorded).answered
        (inTurn fun _ => daemonDown) []).1
      ((SuiteRunner.runSuite ⟨"s", .python, "pass", ⟨0, 0⟩, [silentTest]⟩ recorded).answered
        (inTurn fun _ => daemonDown) []).2 := by
  intro rest
  rcases (rest _ rfl).2 rfl 0 Nat.zero_lt_one with ⟨e, made, produced⟩
  cases made
  exact produced rfl

end Scrc
