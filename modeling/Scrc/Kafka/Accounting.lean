import Scrc.Docker.Preparation
import Scrc.Executor.SuiteReference
import Scrc.Kafka.Decode

/-!
# Every submitted test in the published result

From the tests of a script message through the suite runner to the entries of the envelope.  When
the script is prepared, each test has its entry, and the tests that were not run say so.  When its
build fails, the report is the build result alone, which has no entries at all.

* `ready_accounted`, `buildFailed_unaccounted`: the two exits of the suite runner.
* `tests_accounted_iff`: exactly when the tests are accounted for.
-/

namespace Scrc

open Interaction SuiteReference

/-! ## Build results -/

/-- A result that says nothing about tests. -/
def Result.Untested (r : Result) : Prop := r.tests = []

/-! ## Accounting for the tests -/

/-- What a preparation that yields a result comes to: the result of a failed build, or a prepared
script. -/
inductive Preparation where
  | buildFailed (result : Result) (untested : result.Untested)
  | ready

/-- The outcome of `Prepare`; every `Run` of the prepared script is one call. -/
def Preparation.outcome : Preparation → PrepareOutcome RunCalls
  | .buildFailed result _ => { result := some result }
  | .ready => { prepared := some recorded }

/-- `suiteRunner.Run` after this preparation, when the calls of `Run` return `outs 0`, `outs 1`,
...: the calls made and the report. -/
def suiteRun (preparation : Preparation) (outs : Nat → RunOutcome) (script : Script) :
    List (Event RunCalls) × RunReport :=
  (SuiteRunner.run ⟨fun _ => .ret preparation.outcome⟩ script).answered (inTurn outs) []

/-- The envelope accounts for the tests of a message, when these calls of `Run` were made: they were
made for the first tests in order, and each test has its entry, with its input, its expected output
and the number assigned to it, which is marked as not run exactly when no call was made for it. -/
structure Accounted (submitted : List ScriptTestCase) (made : List (Event RunCalls))
    (envelope : ResultEnvelope) : Prop where
  order : made.map Event.call = (submitted.take made.length).map ScriptTestCase.input
  count : envelope.tests.length = submitted.length
  entries : ∀ i : Nat, ∀ test ∈ submitted[i]?, ∃ entry ∈ envelope.tests[i]?,
    entry.number = (if test.number ≤ 0 then (i : Int) + 1 else test.number) ∧
    entry.input = test.input ∧
    entry.expectedOutput = test.expectedOutput ∧
    (entry.status = .notRun ↔ made.length ≤ i)

section Accounting

variable {e : ScriptEnvelope} {msg : Message} {script : Script} {outs : Nat → RunOutcome}

/-- The report on a failed build has no entries. -/
theorem buildFailed_unaccounted (tested : e.tests ≠ []) (timestamp : GoString) {result : Result}
    (untested : result.Untested) :
    ¬ Accounted e.tests (suiteRun (.buildFailed result untested) outs script).1
      (makeResultEnvelope timestamp (suiteRun (.buildFailed result untested) outs script).2) := by
  intro accounted
  have none : (makeResultEnvelope timestamp
      (suiteRun (.buildFailed result untested) outs script).2).tests = [] :=
    congrArg (List.map makeTestResultEnvelope) untested
  have count := accounted.count
  rw [none] at count
  exact tested (List.length_eq_zero_iff.mp count.symm)

/-- A prepared script with tests is run as the reference says. -/
theorem suiteRun_ready (tested : script.tests ≠ []) :
    suiteRun .ready outs script =
      (calls script.tests outs (executed script.tests outs), referenceReport script outs) := by
  have some_test : script.tests.length ≠ 0 := fun none => tested (List.length_eq_zero_iff.mp none)
  have program : SuiteRunner.run ⟨fun _ => .ret (Preparation.outcome .ready)⟩ script =
      SuiteRunner.runSuite script recorded := by
    simp only [SuiteRunner.run, Preparation.outcome, SuiteRunner.runPrepared, some_test, ↓reduceIte,
      Proc.ret_bind, Proc.deferring, recorded, Proc.pure_eq, Proc.bind_ret]
  unfold suiteRun
  rw [program]
  exact answered_runSuite script outs

theorem length_calls (tests : List TestCase) (outs : Nat → RunOutcome) (m : Nat) :
    (calls tests outs m).length = m := by
  unfold calls
  rw [List.length_map, List.length_range]

/-- The verdict on a run says that it was not made only when its result does. -/
theorem verdict_notRun_iff {test : TestCase} {o : RunOutcome} :
    o.verdict test = .notRun ↔ o.status = .notRun := by
  unfold RunOutcome.verdict
  by_cases returned : o.status ≠ .unset ∧ o.status ≠ .ok
  · rw [if_pos returned]
  · rw [if_neg returned]
    constructor
    · intro compared
      split at compared
      · exact absurd compared.symm Status.notRun_ne_ok
      · exact absurd compared.symm Status.notRun_ne_wrongAnswer
    · intro notRun
      rw [notRun] at returned
      exact absurd ⟨by decide, Status.notRun_ne_ok⟩ returned

/-- The entry of a test that was run is marked as not run only when the result of the run is. -/
theorem entry_notRun_iff {tests : List TestCase} {i : Nat} (inRange : i < tests.length) :
    (entry tests outs i).status = .notRun ↔
      executed tests outs ≤ i ∨ (outs i).status = .notRun := by
  unfold entry
  by_cases run : i < executed tests outs
  · rw [if_pos run]
    simp only [entryStatus_of_lt run, Nat.not_le.mpr run, false_or]
    exact verdict_notRun_iff
  · rw [if_neg run]
    simp only [entryStatus_of_le (Nat.not_lt.mp run) inRange, Nat.not_lt.mp run, true_or]

theorem toTests_getElem! (e : ScriptEnvelope) {i : Nat} {test : ScriptTestCase}
    (here : e.tests[i]? = some test) : e.toTests[i]! = test.toTest i := by
  have there : e.toTests[i]? = some (test.toTest i) := by
    unfold ScriptEnvelope.toTests
    rw [List.getElem?_mapIdx, here]
    rfl
  rw [List.getElem!_eq_getElem?_getD, there]
  rfl

/-- The calls of `Run` are made on the inputs of the first tests. -/
theorem calls_inputs (e : ScriptEnvelope) {m : Nat} (le : m ≤ e.tests.length) :
    (calls e.toTests outs m).map Event.call = (e.tests.take m).map ScriptTestCase.input := by
  unfold calls
  rw [List.map_map]
  apply List.ext_getElem
  · simp only [List.length_map, List.length_range, List.length_take]
    omega
  · intro i inside _
    have small : i < m := by
      rwa [List.length_map, List.length_range] at inside
    have here := List.getElem?_eq_getElem (show i < e.tests.length by omega)
    simp only [List.getElem_map, List.getElem_range, List.getElem_take, Function.comp_apply,
      toTests_getElem! e here]
    rfl

/-- The tests of a prepared script are accounted for, unless a run itself says that it was not
made.  The runs that count are those of the tests before which every verdict is OK. -/
theorem ready_accounted (tests : script.tests = e.toTests) (tested : e.tests ≠ [])
    (timestamp : GoString) :
    Accounted e.tests (suiteRun .ready outs script).1
        (makeResultEnvelope timestamp (suiteRun .ready outs script).2) ↔
      ∀ i < script.tests.length, (∀ j < i, verdict script.tests outs j = .ok) →
        (outs i).status ≠ .notRun := by
  have length : e.toTests.length = e.tests.length := List.length_mapIdx
  have some_test : script.tests ≠ [] := by
    rw [tests]
    intro none
    exact tested (List.length_eq_zero_iff.mp (by rw [← length, none, List.length_nil]))
  have within : executed e.toTests outs ≤ e.tests.length := length ▸ executed_le
  rw [suiteRun_ready some_test, tests]
  have entryAt : ∀ i < e.tests.length,
      (makeResultEnvelope timestamp (referenceReport script outs)).tests[i]? =
        some (makeTestResultEnvelope (entry e.toTests outs i)) := by
    intro i inRange
    simp only [makeResultEnvelope, referenceReport, tests, length, List.map_map,
      List.getElem?_map, List.getElem?_range inRange, Option.map_some, Function.comp_apply]
  constructor
  · rintro ⟨-, -, entries⟩ i inside before
    have inRange : i < e.tests.length := by omega
    have run : i < executed e.toTests outs := lt_executed_iff.mpr ⟨inside, before⟩
    obtain ⟨found, here, -, -, -, marked⟩ :=
      entries i _ (List.getElem?_eq_getElem inRange)
    rw [entryAt i inRange] at here
    cases here
    intro notRun
    have skipped := marked.mp ((entry_notRun_iff (by omega)).mpr (Or.inr notRun))
    rw [length_calls] at skipped
    omega
  · intro runs
    refine ⟨?_, ?_, fun i test here => ?_⟩
    · rw [length_calls]
      exact calls_inputs e within
    · simp only [makeResultEnvelope, referenceReport, tests, length, List.length_map,
        List.length_range]
    · have inRange : i < e.tests.length := (List.getElem?_eq_some_iff.mp here).1
      have case : (entry e.toTests outs i).case = test.toTest i := by
        unfold entry
        split
        · exact toTests_getElem! e here
        · exact toTests_getElem! e here
      refine ⟨_, entryAt i inRange, ?_, ?_, ?_, ?_⟩
      · exact congrArg TestCase.number case
      · exact congrArg TestCase.input case
      · exact congrArg TestCase.expectedOutput case
      · rw [length_calls]
        refine (entry_notRun_iff (by omega)).trans ⟨fun either => ?_, Or.inl⟩
        rcases either with skipped | notRun
        · exact skipped
        · by_contra run
          obtain ⟨inside, before⟩ := lt_executed_iff.mp (Nat.not_le.mp run)
          exact runs i inside before notRun

end Accounting

/-- **Every submitted test.**  For every script message with tests, the published envelope accounts
for them exactly when the script was prepared, not when its build failed, and no outcome of `Run` is
itself marked as not run, among those up to the first verdict that is not OK. -/
theorem tests_accounted_iff {msg : Message} {script : Script} {e : ScriptEnvelope}
    (accepted : decodeScriptMessage msg = .ok script)
    (decoded : unmarshalEnvelope msg.value = .ok e) (tested : e.tests ≠ [])
    (preparation : Preparation) (outs : Nat → RunOutcome) (timestamp : GoString) :
    Accounted e.tests (suiteRun preparation outs script).1
        (makeResultEnvelope timestamp (suiteRun preparation outs script).2) ↔
      preparation = .ready ∧
        ∀ i < script.tests.length, (∀ j < i, verdict script.tests outs j = .ok) →
          (outs i).status ≠ .notRun := by
  obtain ⟨e', same, dispatched⟩ := decodeScriptMessage_ok.mp accepted
  rw [decoded] at same
  cases same
  obtain ⟨-, -, rfl⟩ := ScriptEnvelope.toScript_ok.mp (ScriptEnvelope.dispatch_ok.mp dispatched).2
  cases preparation with
  | buildFailed result untested =>
      exact ⟨fun accounted => absurd accounted (buildFailed_unaccounted tested timestamp untested),
        fun ready => nomatch ready.1⟩
  | ready =>
      rw [ready_accounted rfl tested timestamp]
      exact ⟨fun runs => ⟨rfl, runs⟩, And.right⟩

/-- A program with two tests, of which the second has a number. -/
def twoTests : Message :=
  ⟨"scripts", 0, "s1",
    lit "\x7b\"language\":\"c\",\"source\":\"int main\"," ++
      lit "\"tests\":[\x7b\"input\":\"1\"\x7d,\x7b\"number\":7\x7d]\x7d"⟩

def twoTestsEnvelope : ScriptEnvelope :=
  { language := "c", source := "int main", tests := [⟨0, "1", ""⟩, ⟨7, "", ""⟩] }

def twoTestsScript : Script :=
  { id := "s1", language := .c, source := "int main", tests := [⟨1, "1", ""⟩, ⟨7, "", ""⟩] }

theorem twoTests_decoded : unmarshalEnvelope twoTests.value = .ok twoTestsEnvelope := by rfl

theorem twoTests_accepted : decodeScriptMessage twoTests = .ok twoTestsScript := by rfl

/-- The runs of a program that always prints `2`. -/
def alwaysTwo (_ : Nat) : RunOutcome := .finished { status := .ok, stdout := "2" }

/-- The suite stops at the first test, and the second has an entry that says so. -/
theorem tests_accounted_iff_stopped :
    (makeResultEnvelope [] (suiteRun .ready alwaysTwo twoTestsScript).2).tests.map
        (fun entry => (entry.number, entry.status)) = [(1, .wrongAnswer), (7, .notRun)] ∧
    Accounted twoTestsEnvelope.tests (suiteRun .ready alwaysTwo twoTestsScript).1
      (makeResultEnvelope [] (suiteRun .ready alwaysTwo twoTestsScript).2) := by
  have runs : ∀ i, (alwaysTwo i).status ≠ .notRun := fun _ => by
    show Status.ok ≠ .notRun
    decide
  exact ⟨by decide, (tests_accounted_iff twoTests_accepted twoTests_decoded (by decide) .ready
    alwaysTwo []).mpr ⟨rfl, fun i _ _ => runs i⟩⟩

/-- What the compiler makes of a program that does not end. -/
def brokenBuild : Result :=
  { status := .buildFail, stderr := "expected declaration", exitCode := 1 }

/-- The tests of a program that does not compile have no entries in its result. -/
theorem brokenBuild_unaccounted :
    ¬ ∀ preparation outs,
        Accounted twoTestsEnvelope.tests (suiteRun preparation outs twoTestsScript).1
          (makeResultEnvelope [] (suiteRun preparation outs twoTestsScript).2) := by
  intro accounted
  have count := (accounted (.buildFailed brokenBuild rfl) alwaysTwo).count
  exact absurd count (by decide)

end Scrc
