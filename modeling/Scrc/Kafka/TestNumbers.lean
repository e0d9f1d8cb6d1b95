import Mathlib.Data.List.Forall2
import Mathlib.Data.List.Nodup
import Scrc.Kafka.Messages

/-!
# Numbers of tests

A published test result carries the number of its test and nothing else that names it.  A test
without a positive number is given its position, counted from one, and the positions are not kept
apart from the numbers that other tests of the script bring along.
-/

namespace Scrc

/-- The numbers that are given, the positive ones, are told apart. -/
def NumbersGivenApart (cases : List ScriptTestCase) : Prop :=
  cases.Pairwise fun a b => 0 < a.number → 0 < b.number → a.number ≠ b.number

/-- No test brings along the position of a test that has no number of its own. -/
def PositionsFree (cases : List ScriptTestCase) : Prop :=
  ∀ i (bound : i < cases.length), cases[i].number ≤ 0 → ∀ other ∈ cases, other.number ≠ i + 1

/-- The test `test` is the test case `given`, under its own number if it has one. -/
structure TestOf (given : ScriptTestCase) (test : TestCase) : Prop where
  input : test.input = given.input
  expectedOutput : test.expectedOutput = given.expectedOutput
  number : 0 < given.number → test.number = given.number

/-- Tests that stand for the given ones, one for each and in their order, and that their numbers
identify. -/
structure Numbered (cases : List ScriptTestCase) (tests : List TestCase) : Prop where
  inOrder : List.Forall₂ TestOf cases tests
  positive : ∀ test ∈ tests, 0 < test.number
  identified : (tests.map TestCase.number).Nodup

namespace ScriptTestCase

theorem toTest_number_of_given {test : ScriptTestCase} (idx : Nat) (given : 0 < test.number) :
    (test.toTest idx).number = test.number := if_neg (by omega)

theorem toTest_number_of_not_given {test : ScriptTestCase} (idx : Nat) (unset : test.number ≤ 0) :
    (test.toTest idx).number = idx + 1 := if_pos unset

theorem toTest_number_pos (test : ScriptTestCase) (idx : Nat) : 0 < (test.toTest idx).number := by
  rcases Int.lt_or_le 0 test.number with given | unset
  · rw [toTest_number_of_given idx given]
    exact given
  · rw [toTest_number_of_not_given idx unset]
    omega

theorem testOf_toTest (test : ScriptTestCase) (idx : Nat) : TestOf test (test.toTest idx) :=
  ⟨rfl, rfl, toTest_number_of_given idx⟩

end ScriptTestCase

namespace ScriptEnvelope

open ScriptTestCase

@[simp] theorem length_toTests (e : ScriptEnvelope) : e.toTests.length = e.tests.length :=
  List.length_mapIdx

theorem getElem_toTests (e : ScriptEnvelope) {i : Nat} (bound : i < e.tests.length)
    (inside : i < e.toTests.length) : e.toTests[i] = e.tests[i].toTest i :=
  List.getElem_mapIdx

theorem toTests_inOrder (e : ScriptEnvelope) : List.Forall₂ TestOf e.tests e.toTests := by
  refine List.forall₂_iff_get.mpr ⟨e.length_toTests.symm, fun i bound _ => ?_⟩
  simp only [List.get_eq_getElem, e.getElem_toTests bound]
  exact testOf_toTest e.tests[i] i

theorem toTests_positive (e : ScriptEnvelope) : ∀ test ∈ e.toTests, 0 < test.number := by
  intro test member
  obtain ⟨i, bound, rfl⟩ := List.getElem_of_mem member
  rw [e.getElem_toTests (by simpa using bound)]
  exact toTest_number_pos _ i

/-- Two tests are told apart when the positions they may be given are free. -/
theorem toTests_identified {e : ScriptEnvelope} (apart : NumbersGivenApart e.tests)
    (free : PositionsFree e.tests) : (e.toTests.map TestCase.number).Nodup := by
  rw [List.Nodup, List.pairwise_map, List.pairwise_iff_getElem]
  intro i j hi hj before
  have hi : i < e.tests.length := by simpa using hi
  have hj : j < e.tests.length := by simpa using hj
  rw [e.getElem_toTests hi, e.getElem_toTests hj]
  rcases Int.lt_or_le 0 e.tests[i].number with given | unset
  · rw [toTest_number_of_given i given]
    rcases Int.lt_or_le 0 e.tests[j].number with given' | unset'
    · rw [toTest_number_of_given j given']
      exact List.pairwise_iff_getElem.mp apart i j hi hj before given given'
    · rw [toTest_number_of_not_given j unset']
      exact free j hj unset' _ (List.getElem_mem hi)
  · rw [toTest_number_of_not_given i unset]
    rcases Int.lt_or_le 0 e.tests[j].number with given' | unset'
    · rw [toTest_number_of_given j given']
      exact (free i hi unset _ (List.getElem_mem hj)).symm
    · rw [toTest_number_of_not_given j unset']
      omega

/-- A position that another test brings along is the number of two tests. -/
theorem positionsFree_of_identified {e : ScriptEnvelope}
    (identified : (e.toTests.map TestCase.number).Nodup) : PositionsFree e.tests := by
  intro i hi unset other member taken
  obtain ⟨j, hj, rfl⟩ := List.getElem_of_mem member
  have numberOfJ : (e.tests[j].toTest j).number = i + 1 := by
    rw [toTest_number_of_given j (by omega), taken]
  have boundI : i < (e.toTests.map TestCase.number).length := by simpa using hi
  have boundJ : j < (e.toTests.map TestCase.number).length := by simpa using hj
  have sameNumber : (e.toTests.map TestCase.number)[i] = (e.toTests.map TestCase.number)[j] := by
    simp only [List.getElem_map, e.getElem_toTests hi, e.getElem_toTests hj]
    rw [toTest_number_of_not_given i unset, numberOfJ]
  have same : i = j := identified.getElem_inj_iff.mp sameNumber
  subst same
  omega

end ScriptEnvelope

/-- The numbers that are published about the tests of a report. -/
theorem makeResultEnvelope_numbers (timestamp : GoString) {report : RunReport} {result : Result}
    (reported : report.result = some result) :
    (makeResultEnvelope timestamp report).tests.map TestResultEnvelope.number =
      (result.tests.map TestResult.case).map TestCase.number := by
  simp only [makeResultEnvelope, reported, List.map_map]
  rfl

/-- **Numbers of tests.**  When the numbers that are given are told apart, the numbers of all tests
identify them, and so do the published ones, exactly when no test brings along the position of one
that has no number. -/
theorem testNumbers_identify_iff (e : ScriptEnvelope) (apart : NumbersGivenApart e.tests) :
    (Numbered e.tests e.toTests ↔ PositionsFree e.tests) ∧
    ∀ timestamp (report : RunReport) (result : Result), report.result = some result →
      result.tests.map TestResult.case = e.toTests →
      (((makeResultEnvelope timestamp report).tests.map TestResultEnvelope.number).Nodup ↔
        PositionsFree e.tests) := by
  have identified : (e.toTests.map TestCase.number).Nodup ↔ PositionsFree e.tests :=
    ⟨e.positionsFree_of_identified, e.toTests_identified apart⟩
  constructor
  · constructor
    · intro numbered
      exact identified.mp numbered.identified
    · intro free
      exact ⟨e.toTests_inOrder, e.toTests_positive, identified.mpr free⟩
  · intro timestamp report result reported tests
    rw [makeResultEnvelope_numbers timestamp reported, tests]
    exact identified

/-- A script with the given numbers of tests, zero for none. -/
def numberedScript (numbers : List Int) : ScriptEnvelope :=
  { language := "python"
    source := "print(input())"
    tests := numbers.map fun n => { number := n } }

/-- Numbers on two of three tests, at their own positions. -/
theorem testNumbers_identify_iff_own : Numbered (numberedScript [1, 0, 3]).tests
    (numberedScript [1, 0, 3]).toTests :=
  (testNumbers_identify_iff (numberedScript [1, 0, 3]) (by unfold NumbersGivenApart; decide)).1.mpr
    (by unfold PositionsFree; decide)

/-- A first test with the number two, and a second one without a number. -/
theorem secondTest_not_identified :
    ¬ ∀ e : ScriptEnvelope, NumbersGivenApart e.tests → Numbered e.tests e.toTests := by
  intro identifies
  have numbered := identifies (numberedScript [2, 0]) (by unfold NumbersGivenApart; decide)
  exact absurd numbered.identified (by decide)

end Scrc
