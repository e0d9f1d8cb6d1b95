import Scrc.Executor.SuiteRunner

/-!
# What a suite run computes

`runSuite` runs a mutable accumulator over the tests.  This module states what comes out without
an accumulator, as a function of the test list and of what each call of `Run` returns, and shows
that the accumulator computes it.

* `verdict`: the verdict on one test from its outcome alone; `decisive`: the first test whose
  verdict is not OK; `executed`: how many tests are run.
* `referenceReport`: the report in these terms.
* `loopState`: the loop invariant, the accumulator after `j` tests in closed form.
* `answered_runSuite`: running the suite on a given sequence of outcomes makes the reference's
  calls and returns the reference's report.
* `meets_runSuite`: the same for a `Run` that is itself a program, under any contract it keeps.
-/

namespace Scrc

open Interaction

variable {I : Interface}

namespace RunOutcome

/-- The fields that `executeTest` copies, with the zero values they keep when there is no result. -/
def status (o : RunOutcome) : Status := (o.result.map Result.status).getD .unset
def stdout (o : RunOutcome) : GoString := (o.result.map Result.stdout).getD []
def stderr (o : RunOutcome) : GoString := (o.result.map Result.stderr).getD []
def exitCode (o : RunOutcome) : Int64 := (o.result.map Result.exitCode).getD 0
def duration (o : RunOutcome) : Duration := (o.result.map Result.duration).getD 0
def errText (o : RunOutcome) : GoString := (o.err.map GoError.text).getD []

/-- The verdict on a test: the returned status when it is set and not OK, otherwise the comparison
of the output with the expected one. -/
def verdict (test : TestCase) (o : RunOutcome) : Status :=
  if o.status ≠ .unset ∧ o.status ≠ .ok then o.status
  else if o.stdout = test.expectedOutput then .ok
  else .wrongAnswer

end RunOutcome

namespace SuiteReference

section Reference

variable (tests : List TestCase) (outs : Nat → RunOutcome)

def verdict (i : Nat) : Status := (outs i).verdict tests[i]!

/-- The first test whose verdict is not OK. -/
def decisive : Option Nat := (List.range tests.length).find? fun i => verdict tests outs i ≠ .ok

/-- The number of tests that are run: up to the decisive one, or all. -/
def executed : Nat :=
  match decisive tests outs with
  | some k => k + 1
  | none => tests.length

def overall : Status :=
  match decisive tests outs with
  | some k => verdict tests outs k
  | none => .ok

/-- The overall status the accumulator holds before test `j`. -/
def overallAt (j : Nat) : Status :=
  match decisive tests outs with
  | some k => if j ≤ k then .ok else verdict tests outs k
  | none => .ok

/-- The status of entry `i`: OK before the decisive test, its verdict there, not run after it. -/
def entryStatus (i : Nat) : Status :=
  match decisive tests outs with
  | some k => if i < k then .ok else if i = k then verdict tests outs k else .notRun
  | none => .ok

/-- The first error among the first `m` calls of `Run`. -/
def firstErr (m : Nat) : Option GoError := (List.range m).findSome? fun i => (outs i).err

/-- The text of the error of call `i`, when no call before it returned an error. -/
def entryError (i : Nat) : GoString :=
  match firstErr outs i with
  | some _ => []
  | none => (outs i).errText

/-- The entry of test `i`: what its run returned when it was run, zero values otherwise. -/
def entry (i : Nat) : TestResult :=
  if i < executed tests outs then
    { case := tests[i]!
      status := entryStatus tests outs i
      stdout := (outs i).stdout
      stderr := (outs i).stderr
      exitCode := (outs i).exitCode
      duration := (outs i).duration
      error := entryError outs i }
  else { case := tests[i]!, status := entryStatus tests outs i }

/-- The 64-bit sum of the durations of the first `m` runs. -/
def totalTime (m : Nat) : Duration := ((List.range m).map fun i => (outs i).duration).sum

/-- The last value of a field among the first `m` runs that is not zero. -/
def lastOf {α : Type} [DecidableEq α] (zero : α) (field : RunOutcome → α) (m : Nat) : α :=
  (((List.range m).map fun i => field (outs i)).filter (· ≠ zero)).getLast?.getD zero

end Reference

/-- The report on `script` when the calls of `Run` return `outs 0`, `outs 1`, ... -/
def referenceReport (script : Script) (outs : Nat → RunOutcome) : RunReport where
  script := script
  result := some {
    status := overall script.tests outs
    stdout := lastOf outs [] RunOutcome.stdout (executed script.tests outs)
    stderr := lastOf outs [] RunOutcome.stderr (executed script.tests outs)
    exitCode := lastOf outs 0 RunOutcome.exitCode (executed script.tests outs)
    duration := totalTime outs (executed script.tests outs)
    tests := (List.range script.tests.length).map (entry script.tests outs) }
  err := firstErr outs (executed script.tests outs)

/-! ## The decisive test -/

section Decisive

variable {tests : List TestCase} {outs : Nat → RunOutcome}

theorem of_decisive_eq_some {k : Nat} (h : decisive tests outs = some k) :
    k < tests.length ∧ verdict tests outs k ≠ .ok ∧ ∀ i < k, verdict tests outs i = .ok := by
  rcases List.find?_range_eq_some.mp h with ⟨failing, inRange, before⟩
  refine ⟨List.mem_range.mp inRange, by simpa using failing, fun i hi => ?_⟩
  simpa using before i hi

theorem of_decisive_eq_none (h : decisive tests outs = none) {i : Nat} (hi : i < tests.length) :
    verdict tests outs i = .ok := by
  simpa using List.find?_range_eq_none.mp h i hi

theorem executed_le : executed tests outs ≤ tests.length := by
  unfold executed
  cases h : decisive tests outs with
  | none => exact Nat.le_refl _
  | some k => exact (of_decisive_eq_some h).1

/-- A test is run when all tests before it came out OK, and only then. -/
theorem lt_executed_iff {j : Nat} :
    j < executed tests outs ↔ j < tests.length ∧ ∀ i < j, verdict tests outs i = .ok := by
  unfold executed
  cases h : decisive tests outs with
  | none =>
      simp only
      exact ⟨fun hj => ⟨hj, fun i hi => of_decisive_eq_none h (by omega)⟩, fun hj => hj.1⟩
  | some k =>
      have spec := of_decisive_eq_some h
      simp only
      constructor
      · intro hj
        exact ⟨by omega, fun i hi => spec.2.2 i (by omega)⟩
      · intro hj
        by_contra past
        exact spec.2.1 (hj.2 k (by omega))

/-- The entry of a test that is run carries its verdict, which is OK for all but the last of them.
-/
theorem entryStatus_of_lt {i : Nat} (hi : i < executed tests outs) :
    entryStatus tests outs i = verdict tests outs i := by
  unfold executed at hi
  unfold entryStatus
  cases h : decisive tests outs with
  | none =>
      simp only [h] at hi
      exact (of_decisive_eq_none h hi).symm
  | some k =>
      simp only [h] at hi ⊢
      rcases Nat.lt_or_eq_of_le (Nat.le_of_lt_succ hi) with before | here
      · rw [if_pos before]
        exact ((of_decisive_eq_some h).2.2 i before).symm
      · rw [if_neg (by omega), if_pos here, here]

/-- Past the decisive test nothing is run, and the entries say so. -/
theorem entryStatus_of_le {i : Nat} (hi : executed tests outs ≤ i) (inRange : i < tests.length) :
    entryStatus tests outs i = .notRun := by
  unfold executed at hi
  unfold entryStatus
  cases h : decisive tests outs with
  | none =>
      simp only [h] at hi
      omega
  | some k =>
      simp only [h] at hi ⊢
      rw [if_neg (by omega), if_neg (by omega)]

theorem overallAt_of_lt {j : Nat} (hj : j < executed tests outs) : overallAt tests outs j = .ok := by
  unfold executed at hj
  unfold overallAt
  cases h : decisive tests outs with
  | none => rfl
  | some k =>
      simp only [h] at hj ⊢
      rw [if_pos (by omega)]

theorem overallAt_of_le {j : Nat} (hj : executed tests outs ≤ j) (inRange : j < tests.length) :
    overallAt tests outs j ≠ .ok := by
  unfold executed at hj
  unfold overallAt
  cases h : decisive tests outs with
  | none =>
      simp only [h] at hj
      omega
  | some k =>
      simp only [h] at hj ⊢
      rw [if_neg (by omega)]
      exact (of_decisive_eq_some h).2.1

/-- The overall status moves to the verdict of the test just run when that is not OK. -/
theorem overallAt_succ {j : Nat} (hj : j < executed tests outs) :
    overallAt tests outs (j + 1) =
      if verdict tests outs j ≠ .ok then verdict tests outs j else .ok := by
  have inRange : j < tests.length := Nat.lt_of_lt_of_le hj executed_le
  unfold executed at hj
  unfold overallAt
  cases h : decisive tests outs with
  | none =>
      rw [of_decisive_eq_none h inRange]
      simp
  | some k =>
      simp only [h] at hj ⊢
      rcases Nat.lt_or_eq_of_le (Nat.le_of_lt_succ hj) with before | here
      · rw [(of_decisive_eq_some h).2.2 j before, if_pos (by omega)]
        simp
      · subst here
        rw [if_neg (by omega), if_pos (of_decisive_eq_some h).2.1]

/-- Once the suite is decided the overall status stays, for the tests that follow are skipped. -/
theorem overallAt_succ_of_le {j : Nat} (hj : executed tests outs ≤ j) :
    overallAt tests outs (j + 1) = overallAt tests outs j := by
  unfold executed at hj
  unfold overallAt
  cases h : decisive tests outs with
  | none => rfl
  | some k =>
      simp only [h] at hj ⊢
      rw [if_neg (by omega), if_neg (by omega)]

theorem overallAt_length : overallAt tests outs tests.length = overall tests outs := by
  unfold overallAt overall
  cases h : decisive tests outs with
  | none => rfl
  | some k =>
      have inRange := (of_decisive_eq_some h).1
      simp only
      rw [if_neg (by omega)]

end Decisive

/-! ## The loop -/

open SuiteExecution

/-- The accumulator after the first `j` tests, when the calls of `Run` return `outs`. -/
def loopState (script : Script) (prepared : PreparedScript I) (outs : Nat → RunOutcome)
    (j : Nat) : SuiteExecution I where
  script := script
  prepared := prepared
  results := (List.range j).map (entry script.tests outs) ++
    List.replicate (script.tests.length - j) {}
  overall := overallAt script.tests outs j
  runErr := firstErr outs (min j (executed script.tests outs))
  totalTime := totalTime outs (min j (executed script.tests outs))

theorem loopState_zero (script : Script) (prepared : PreparedScript I) (outs : Nat → RunOutcome) :
    loopState script prepared outs 0 = newSuiteExecution script prepared := by
  have status : overallAt script.tests outs 0 = .ok := by
    unfold overallAt
    cases decisive script.tests outs with
    | none => rfl
    | some k => exact if_pos (Nat.zero_le k)
  simp only [loopState, newSuiteExecution, status, List.range_zero, List.map_nil, List.nil_append,
    Nat.sub_zero, Nat.zero_min, firstErr, totalTime, List.findSome?_nil, List.sum_nil]

/-- What `executeTest` records, field by field. -/
theorem ranResult_eq (runErr : Option GoError) (test : TestCase) (o : RunOutcome) :
    ranResult runErr test o =
      { case := test
        status := o.verdict test
        stdout := o.stdout
        stderr := o.stderr
        exitCode := o.exitCode
        duration := o.duration
        error := match runErr with | some _ => [] | none => o.errText } := by
  rcases o with ⟨result, err⟩
  have unset := Status.unset_ne_ok
  cases result with
  | none =>
      by_cases same : ([] : GoString) = test.expectedOutput <;> cases err <;> cases runErr <;>
        simp [ranResult, RunOutcome.verdict, RunOutcome.status, RunOutcome.stdout,
          RunOutcome.stderr, RunOutcome.exitCode, RunOutcome.duration, RunOutcome.errText, same]
  | some r =>
      by_cases set : r.status = .unset <;> by_cases good : r.status = .ok <;>
        by_cases same : r.stdout = test.expectedOutput <;> cases err <;> cases runErr <;>
        simp_all [ranResult, RunOutcome.verdict, RunOutcome.status, RunOutcome.stdout,
          RunOutcome.stderr, RunOutcome.exitCode, RunOutcome.duration, RunOutcome.errText]

theorem set_next {α : Type} (f : Nat → α) (z : α) {j n : Nat} (hj : j < n) :
    ((List.range j).map f ++ List.replicate (n - j) z).set j (f j) =
      (List.range (j + 1)).map f ++ List.replicate (n - (j + 1)) z := by
  have rest : n - j = (n - (j + 1)) + 1 := by omega
  rw [List.set_append_right j (f j) (by simp), List.length_map, List.length_range, Nat.sub_self,
    rest, List.replicate_succ, List.set_cons_zero, List.range_succ, List.map_append,
    List.append_assoc]
  rfl

theorem firstErr_succ (outs : Nat → RunOutcome) (m : Nat) :
    firstErr outs (m + 1) = if (outs m).err ≠ none ∧ firstErr outs m = none then (outs m).err
      else firstErr outs m := by
  unfold firstErr
  rw [List.range_succ, List.findSome?_append]
  cases earlier : (List.range m).findSome? fun i => (outs i).err with
  | some e => simp
  | none => cases here : (outs m).err <;> simp [here]

theorem totalTime_succ (outs : Nat → RunOutcome) (m : Nat) :
    totalTime outs (m + 1) = totalTime outs m + (outs m).duration := by
  unfold totalTime
  rw [List.range_succ, List.map_append, List.sum_append]
  simp

theorem record_totalTime (s : SuiteExecution I) (idx : Nat) (test : TestCase) (o : RunOutcome) :
    (s.record idx test o).totalTime = s.totalTime + o.duration := by
  unfold record RunOutcome.duration
  cases o.result with
  | none => simp
  | some r => rfl

section Step

variable {script : Script} {prepared : PreparedScript I} {outs : Nat → RunOutcome} {j : Nat}

/-- One iteration that runs its test. -/
theorem loopState_record (hj : j < executed script.tests outs) :
    (loopState script prepared outs j).record j script.tests[j]! (outs j) =
      loopState script prepared outs (j + 1) := by
  have inRange : j < script.tests.length := Nat.lt_of_lt_of_le hj executed_le
  have minNow : min j (executed script.tests outs) = j := by omega
  have minNext : min (j + 1) (executed script.tests outs) = j + 1 := by omega
  have entryNow : ranResult (firstErr outs j) script.tests[j]! (outs j) =
      entry script.tests outs j := by
    rw [ranResult_eq]
    unfold entry entryError
    rw [if_pos hj, entryStatus_of_lt hj]
    rfl
  have statusNow : (entry script.tests outs j).status = verdict script.tests outs j := by
    unfold entry
    rw [if_pos hj]
    exact entryStatus_of_lt hj
  refine SuiteExecution.ext rfl rfl ?_ ?_ ?_ ?_
  · simp only [record, loopState, minNow, entryNow]
    exact set_next _ _ inRange
  · simp only [record, loopState, minNow, entryNow, statusNow, overallAt_of_lt hj, and_true]
    exact (overallAt_succ hj).symm
  · simp only [record, loopState, minNow, minNext]
    exact (firstErr_succ outs j).symm
  · rw [record_totalTime]
    simp only [loopState, minNow, minNext]
    exact (totalTime_succ outs j).symm

/-- One iteration past the decisive test. -/
theorem loopState_skip (hj : executed script.tests outs ≤ j) (inRange : j < script.tests.length) :
    (loopState script prepared outs j).skip j script.tests[j]! =
      loopState script prepared outs (j + 1) := by
  have minNow : min j (executed script.tests outs) = executed script.tests outs := by omega
  have minNext : min (j + 1) (executed script.tests outs) = executed script.tests outs := by omega
  have entryNow : ({ case := script.tests[j]!, status := .notRun } : TestResult) =
      entry script.tests outs j := by
    unfold entry
    rw [if_neg (by omega), entryStatus_of_le hj inRange]
  simp only [skip, loopState, minNow, minNext, entryNow, set_next _ _ inRange,
    overallAt_succ_of_le hj]

/-- **The loop step.**  From the closed form at `j`, `executeTest` runs test `j` and records its
outcome, or goes to the closed form at `j + 1` when the suite is decided. -/
theorem executeTest_loopState (inRange : j < script.tests.length) :
    executeTest (loopState script prepared outs j) j =
      if j < executed script.tests outs then
        prepared.run script.tests[j]!.input >>= fun o =>
          Proc.ret ((loopState script prepared outs j).record j script.tests[j]! o)
      else Proc.ret (loopState script prepared outs (j + 1)) := by
  unfold executeTest
  by_cases hj : j < executed script.tests outs
  · have running : (loopState script prepared outs j).overall = .ok := overallAt_of_lt hj
    simp only [running, ne_eq, not_true_eq_false, ↓reduceIte, hj, Proc.pure_eq]
    rfl
  · have decided : (loopState script prepared outs j).overall ≠ .ok :=
      overallAt_of_le (Nat.not_lt.mp hj) inRange
    simp only [decided, ne_eq, not_false_eq_true, ↓reduceIte, hj, Proc.pure_eq]
    exact congrArg Proc.ret (loopState_skip (Nat.not_lt.mp hj) inRange)

end Step

/-! ## The report -/

/-- The backward scan finds the last value that is not zero. -/
theorem tail_eq {α : Type} [DecidableEq α] (zero : α) (field : TestResult → α)
    (results : List TestResult) :
    tail zero field results = ((results.map field).filter (· ≠ zero)).getLast?.getD zero := by
  have scan : ((results.map field).filter (· ≠ zero)).getLast? =
      (results.reverse.find? fun r => field r ≠ zero).map field := by
    rw [List.getLast?_eq_head?_reverse, ← List.filter_reverse, List.head?_filter,
      ← List.map_reverse, List.find?_map]
    rfl
  unfold tail
  rw [scan]
  cases results.reverse.find? fun r => field r ≠ zero with
  | none => rfl
  | some r => rfl

/-- Entries of tests that were not run do not contribute to a backward scan. -/
theorem tail_entries {α : Type} [DecidableEq α] (zero : α) (field : TestResult → α)
    (ofOutcome : RunOutcome → α) (tests : List TestCase) (outs : Nat → RunOutcome)
    (ran : ∀ i < executed tests outs, field (entry tests outs i) = ofOutcome (outs i))
    (skipped : ∀ i, executed tests outs ≤ i → field (entry tests outs i) = zero) :
    tail zero field ((List.range tests.length).map (entry tests outs)) =
      lastOf outs zero ofOutcome (executed tests outs) := by
  have split : tests.length = executed tests outs + (tests.length - executed tests outs) := by
    have le : executed tests outs ≤ tests.length := executed_le
    omega
  have prefixEq : (List.range (executed tests outs)).map (field ∘ entry tests outs) =
      (List.range (executed tests outs)).map fun i => ofOutcome (outs i) :=
    List.map_congr_left fun i hi => ran i (List.mem_range.mp hi)
  have rest : ((List.range (tests.length - executed tests outs)).map
      ((field ∘ entry tests outs) ∘ (executed tests outs + ·))).filter (· ≠ zero) = [] := by
    apply List.filter_eq_nil_iff.mpr
    intro a ha
    rcases List.mem_map.mp ha with ⟨i, _, rfl⟩
    simpa using skipped _ (Nat.le_add_right _ i)
  rw [tail_eq, List.map_map, split, List.range_add, List.map_append, List.map_map, prefixEq,
    List.filter_append, rest, List.append_nil]
  rfl

/-- `finalize` turns the accumulator after the last test into the reference's report. -/
theorem finalize_loopState (script : Script) (prepared : PreparedScript I)
    (outs : Nat → RunOutcome) :
    (loopState script prepared outs script.tests.length).finalize =
      referenceReport script outs := by
  have all : min script.tests.length (executed script.tests outs) =
      executed script.tests outs := Nat.min_eq_right executed_le
  have results : (loopState script prepared outs script.tests.length).results =
      (List.range script.tests.length).map (entry script.tests outs) := by
    simp only [loopState, Nat.sub_self, List.replicate_zero, List.append_nil]
  have ran : ∀ i, i < executed script.tests outs → entry script.tests outs i = _ :=
    fun i hi => if_pos hi
  have skipped : ∀ i, executed script.tests outs ≤ i → entry script.tests outs i = _ :=
    fun i hi => if_neg (by omega)
  have stdout := tail_entries [] TestResult.stdout RunOutcome.stdout script.tests outs
    (fun i hi => by rw [ran i hi]) (fun i hi => by rw [skipped i hi])
  have stderr := tail_entries [] TestResult.stderr RunOutcome.stderr script.tests outs
    (fun i hi => by rw [ran i hi]) (fun i hi => by rw [skipped i hi])
  have exitCode := tail_entries 0 TestResult.exitCode RunOutcome.exitCode script.tests outs
    (fun i hi => by rw [ran i hi]) (fun i hi => by rw [skipped i hi])
  simp only [finalize, tailStdout, tailStderr, tailExitCode, results, stdout, stderr, exitCode]
  simp only [loopState, referenceReport, all, overallAt_length]

/-! ## Runs of the suite -/

/-- `executeTest` past its call, whether it calls `Run` or not. -/
def advance (s : SuiteExecution I) (idx : Nat) (outcome : RunOutcome) : SuiteExecution I :=
  if s.overall ≠ .ok then s.skip idx s.script.tests[idx]!
  else s.record idx s.script.tests[idx]! outcome

/-- The loop as a fold over the outcomes. -/
theorem foldl_advance (script : Script) (prepared : PreparedScript I) (outs : Nat → RunOutcome)
    {j : Nat} (hj : j ≤ script.tests.length) :
    (List.range j).foldl (fun s i => advance s i (outs i)) (newSuiteExecution script prepared) =
      loopState script prepared outs j := by
  induction j with
  | zero => exact (loopState_zero script prepared outs).symm
  | succ j ih =>
      rw [List.range_succ, List.foldl_append, ih (by omega), List.foldl_cons, List.foldl_nil]
      unfold advance
      by_cases h : j < executed script.tests outs
      · have running : (loopState script prepared outs j).overall = .ok := overallAt_of_lt h
        rw [if_neg (not_not.mpr running)]
        exact loopState_record h
      · have decided : (loopState script prepared outs j).overall ≠ .ok :=
          overallAt_of_le (by omega) hj
        rw [if_pos decided]
        exact loopState_skip (by omega) hj

/-- The accumulator after `j` tests does not look at outcomes from `j` on. -/
theorem loopState_congr (script : Script) (prepared : PreparedScript I)
    {outs outs' : Nat → RunOutcome} {j : Nat} (hj : j ≤ script.tests.length)
    (same : ∀ i < j, outs i = outs' i) :
    loopState script prepared outs j = loopState script prepared outs' j := by
  rw [← foldl_advance script prepared outs hj, ← foldl_advance script prepared outs' hj]
  refine List.foldl_ext _ _ _ fun s i hi => ?_
  rw [same i (List.mem_range.mp hi)]

/-- Whether test `j` is run depends on the outcomes of the earlier tests only. -/
theorem lt_executed_congr {tests : List TestCase} {outs outs' : Nat → RunOutcome} {j : Nat}
    (same : ∀ i < j, outs i = outs' i) (hj : j < executed tests outs) :
    j < executed tests outs' := by
  rw [lt_executed_iff] at hj ⊢
  refine ⟨hj.1, fun i hi => ?_⟩
  unfold verdict
  rw [← same i hi]
  exact hj.2 i hi

/-- **The loop under a contract.**  When every call of `Run` keeps `Inv` and returns an outcome
that satisfies `R`, the loop keeps `Inv` and ends in the closed form for outcomes that satisfy
`R`. -/
theorem meets_loop {S : Type} {C : Contract I S} {Inv : S → Prop}
    {R : GoString → RunOutcome → Prop} {script : Script} {prepared : PreparedScript I}
    (runs : ∀ stdin s, Inv s → (prepared.run stdin).Meets C s fun o s' => Inv s' ∧ R stdin o)
    {s : S} (start : Inv s) {j : Nat} (hj : j ≤ script.tests.length) :
    ((List.range j).foldlM executeTest (newSuiteExecution script prepared)).Meets C s
      fun exec s' => Inv s' ∧ ∃ outs : Nat → RunOutcome,
        (∀ i < j, i < executed script.tests outs → R script.tests[i]!.input (outs i)) ∧
        exec = loopState script prepared outs j := by
  induction j with
  | zero =>
      simp only [List.range_zero, List.foldlM_nil, Proc.pure_eq, meets_ret]
      exact ⟨start, fun _ => default, by simp, (loopState_zero script prepared _).symm⟩
  | succ j ih =>
      rw [List.range_succ, List.foldlM_append]
      apply (ih (by omega)).bind
      intro exec s' reached
      rcases reached with ⟨inv, outs, good, rfl⟩
      simp only [List.foldlM_cons, List.foldlM_nil]
      rw [executeTest_loopState (by omega)]
      split
      · rename_i running
        rw [Proc.bind_assoc]
        apply (runs _ _ inv).bind
        intro o s'' post
        -- outcome `j` is the one just returned; the earlier ones stay
        let outs' := Function.update outs j o
        have same : ∀ i < j, outs i = outs' i := fun i hi =>
          (Function.update_of_ne (by omega) o outs).symm
        have here : outs' j = o := Function.update_self j o outs
        have closed : (loopState script prepared outs j).record j script.tests[j]! o =
            loopState script prepared outs' (j + 1) := by
          rw [loopState_congr script prepared (by omega) same, ← here]
          exact loopState_record (lt_executed_congr same running)
        refine ⟨post.1, outs', fun i hi ran => ?_, closed⟩
        rcases Nat.lt_or_eq_of_le (Nat.le_of_lt_succ hi) with before | now
        · rw [← same i before]
          refine good i before (lt_executed_congr (fun l hl => ?_) ran)
          exact (same l (by omega)).symm
        · rw [now, here]
          exact post.2
      · rename_i decided
        refine ⟨inv, outs, fun i hi ran => ?_, rfl⟩
        exact good i (by omega) ran

/-- **The suite under a contract.**  The report is the reference's for the outcomes returned. -/
theorem meets_runSuite {S : Type} {C : Contract I S} {Inv : S → Prop}
    {R : GoString → RunOutcome → Prop} {script : Script} {prepared : PreparedScript I}
    (runs : ∀ stdin s, Inv s → (prepared.run stdin).Meets C s fun o s' => Inv s' ∧ R stdin o)
    {s : S} (start : Inv s) :
    (SuiteRunner.runSuite script prepared).Meets C s
      fun report s' => Inv s' ∧ ∃ outs : Nat → RunOutcome,
        (∀ i < executed script.tests outs, R script.tests[i]!.input (outs i)) ∧
        report = referenceReport script outs := by
  apply (meets_loop runs start (Nat.le_refl _)).bind
  intro exec s' reached
  rcases reached with ⟨inv, outs, good, rfl⟩
  refine ⟨inv, outs, fun i hi => ?_, finalize_loopState script prepared outs⟩
  exact good i (Nat.lt_of_lt_of_le hi executed_le) hi

/-! ## Runs on given outcomes -/

/-- The interface with one call: `prepared.Run` on a stdin. -/
abbrev RunCalls : Interface := ⟨GoString, fun _ => RunOutcome⟩

/-- A prepared script whose every `Run` is one call. -/
def recorded : PreparedScript RunCalls := ⟨fun stdin => Proc.ask (I := RunCalls) stdin, .ret ()⟩

/-- The `i`-th call of `Run` returns `outs i`. -/
def inTurn (outs : Nat → RunOutcome) (past : List (Event RunCalls)) (c : RunCalls.Call) :
    RunCalls.Reply c := outs past.length

/-- The calls of `Run` on the first `m` tests, with their outcomes. -/
def calls (tests : List TestCase) (outs : Nat → RunOutcome) (m : Nat) : List (Event RunCalls) :=
  (List.range m).map fun i => ⟨tests[i]!.input, outs i⟩

theorem answered_run {α : Type} (outs : Nat → RunOutcome) (stdin : GoString) (f : RunOutcome → α)
    (past : List (Event RunCalls)) :
    (recorded.run stdin >>= fun o => Proc.ret (f o)).answered (inTurn outs) past =
      ([⟨stdin, outs past.length⟩], f (outs past.length)) := rfl

theorem answered_loop (script : Script) (outs : Nat → RunOutcome) {j : Nat}
    (hj : j ≤ script.tests.length) :
    ((List.range j).foldlM executeTest (newSuiteExecution script recorded)).answered
        (inTurn outs) [] =
      (calls script.tests outs (min j (executed script.tests outs)),
        loopState script recorded outs j) := by
  induction j with
  | zero =>
      simp only [List.range_zero, List.foldlM_nil, Proc.pure_eq, Proc.answered, Nat.zero_min, calls,
        List.map_nil, loopState_zero]
  | succ j ih =>
      rw [List.range_succ, List.foldlM_append, Proc.answered_bind, ih (by omega)]
      simp only [List.foldlM_cons, List.foldlM_nil, Proc.pure_eq, Proc.bind_ret, List.nil_append]
      rw [executeTest_loopState (by omega)]
      split
      · rename_i running
        have minNow : min j (executed script.tests outs) = j := by omega
        have minNext : min (j + 1) (executed script.tests outs) = j + 1 := by omega
        have length : (calls script.tests outs j).length = j := by simp [calls]
        rw [minNow, minNext, answered_run, length, loopState_record running]
        simp [calls, List.range_succ]
      · rename_i decided
        have minNow : min j (executed script.tests outs) = executed script.tests outs := by omega
        have minNext : min (j + 1) (executed script.tests outs) = executed script.tests outs := by
          omega
        simp only [minNow, minNext, Proc.answered, List.append_nil]

/-- **`runSuite` computes the reference.**  For every script and every sequence of outcomes of
`prepared.Run`: `Run` is called on the inputs of the tests up to the decisive one, once each and
in order, and the report is the reference's. -/
theorem answered_runSuite (script : Script) (outs : Nat → RunOutcome) :
    (SuiteRunner.runSuite script recorded).answered (inTurn outs) [] =
      (calls script.tests outs (executed script.tests outs), referenceReport script outs) := by
  have all : min script.tests.length (executed script.tests outs) =
      executed script.tests outs := Nat.min_eq_right executed_le
  unfold SuiteRunner.runSuite
  rw [Proc.answered_bind, answered_loop script outs (Nat.le_refl _), all]
  simp only [Proc.pure_eq, Proc.answered, List.append_nil, finalize_loopState]

end SuiteReference

end Scrc
