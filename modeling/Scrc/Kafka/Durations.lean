import Scrc.Executor.SuiteErrors
import Scrc.Kafka.Encode
import Scrc.Lib.Truncation

/-!
# Published durations

The runner adds up the durations of the runs in nanoseconds, and the encoder cuts the sum and every
summand to milliseconds.  So the published duration of a suite is at least the sum of those of its
tests, and every run but one may add a millisecond to it.
-/

namespace Scrc

open Interaction SuiteReference

/-- A sum that stays in 64 bits, of summands that are not negative, does not wrap around. -/
theorem toInt_sum {l : List Int64} (nonneg : ∀ d ∈ l, 0 ≤ d.toInt)
    (fits : (l.map Int64.toInt).sum < 2 ^ 63) : l.sum.toInt = (l.map Int64.toInt).sum := by
  induction l with
  | nil => rfl
  | cons d l ih =>
      have later : ∀ d' ∈ l, 0 ≤ d'.toInt := fun d' member =>
        nonneg d' (List.mem_cons_of_mem d member)
      have first := nonneg d List.mem_cons_self
      have rest : 0 ≤ (l.map Int64.toInt).sum := by
        refine List.sum_nonneg fun x member => ?_
        obtain ⟨d', inside, rfl⟩ := List.mem_map.mp member
        exact later d' inside
      rw [List.map_cons, List.sum_cons] at fits ⊢
      rw [List.sum_cons, Int64.toInt_add, ih later (by omega)]
      exact Int.bmod_eq_of_le (by omega) (by omega)

/-- The durations published about a suite of which the calls `made` ran tests: `total` for the suite
and `each` for its tests in their order. -/
structure DurationsAgree (made : List (Event RunCalls)) (envelope : ResultEnvelope) (total : Int64)
    (each : List Int64) : Prop where
  ofSuite : envelope.durationMs = some total
  ofTests : envelope.tests.map TestResultEnvelope.durationMs = each.map some
  notRun : ∀ i, made.length ≤ i → ∀ d ∈ each[i]?, d = 0
  sum_le : (each.map Int64.toInt).sum ≤ total.toInt
  le_sum : total.toInt ≤ (each.map Int64.toInt).sum + (made.length - 1)

/-- The milliseconds published about the tests, by whether they were run. -/
theorem entries_milliseconds (tests : List TestCase) (outs : Nat → RunOutcome) :
    ((List.range tests.length).map (entry tests outs)).map (fun e => e.duration.milliseconds) =
      (List.range (executed tests outs)).map (fun i => (outs i).duration.milliseconds) ++
        List.replicate (tests.length - executed tests outs) 0 := by
  have split : tests.length = executed tests outs + (tests.length - executed tests outs) := by
    have le : executed tests outs ≤ tests.length := executed_le
    omega
  have ran : ∀ i ∈ List.range (executed tests outs),
      (entry tests outs i).duration.milliseconds = (outs i).duration.milliseconds := by
    intro i member
    unfold entry
    rw [if_pos (List.mem_range.mp member)]
  have skipped : ∀ i ∈ List.range (tests.length - executed tests outs),
      (entry tests outs (executed tests outs + i)).duration.milliseconds = 0 := by
    intro i _
    unfold entry
    rw [if_neg (by omega)]
    exact (by decide : Duration.milliseconds 0 = 0)
  rw [List.map_map, split, List.range_add, List.map_append, List.map_map, ← split]
  refine congrArg₂ (· ++ ·) (List.map_congr_left ran) ?_
  refine (List.map_congr_left skipped).trans ?_
  rw [List.map_const', List.length_range]

/-- The nanoseconds that the first `m` runs took. -/
def nanosOf (outs : Nat → RunOutcome) (m : Nat) : List Int :=
  (List.range m).map fun i => (outs i).duration.toInt

theorem toInt_totalTime {outs : Nat → RunOutcome} {m : Nat} (nonneg : ∀ x ∈ nanosOf outs m, 0 ≤ x)
    (fits : (nanosOf outs m).sum < 2 ^ 63) : (totalTime outs m).toInt = (nanosOf outs m).sum := by
  have same : ((List.range m).map fun i => (outs i).duration).map Int64.toInt = nanosOf outs m :=
    List.map_map
  rw [← same] at nonneg fits ⊢
  exact toInt_sum (fun d member => nonneg _ (List.mem_map_of_mem member)) fits

/-- The published milliseconds of the tests add up to the cut nanoseconds of the runs. -/
theorem sum_entries_milliseconds (tests : List TestCase) (outs : Nat → RunOutcome) :
    ((((List.range tests.length).map (entry tests outs)).map
      fun e => e.duration.milliseconds).map Int64.toInt).sum =
        ((nanosOf outs (executed tests outs)).map fun x => x.tdiv 1000000).sum := by
  have notRun :
      (List.replicate (tests.length - executed tests outs) (0 : Int64).toInt).sum = 0 := by
    rw [List.sum_replicate]
    simp
  have ran : ((List.range (executed tests outs)).map fun i =>
      (outs i).duration.milliseconds).map Int64.toInt =
        (nanosOf outs (executed tests outs)).map fun x => x.tdiv 1000000 := by
    unfold nanosOf
    rw [List.map_map, List.map_map]
    exact List.map_congr_left fun i _ => toInt_milliseconds (outs i).duration
  rw [entries_milliseconds, List.map_append, List.sum_append, List.map_replicate, notRun, ran,
    Int.add_zero]

/-- **Durations of suites and tests.**  The published ones agree up to less than a millisecond for
every run but one. -/
theorem durations_agree (script : Script) (outs : Nat → RunOutcome) (timestamp : GoString)
    {made : List (Event RunCalls)} {report : RunReport}
    (ran : (SuiteRunner.runSuite script recorded).answered (inTurn outs) [] = (made, report))
    (some_run : 1 ≤ made.length) (nonneg : ∀ e ∈ made, 0 ≤ e.reply.duration)
    (fits : (made.map fun e => e.reply.duration.toInt).sum < 2 ^ 63) :
    ∃ total each, DurationsAgree made (makeResultEnvelope timestamp report) total each := by
  rw [answered_runSuite] at ran
  cases ran
  have nanos : (calls script.tests outs (executed script.tests outs)).map
      (fun e => e.reply.duration.toInt) = nanosOf outs (executed script.tests outs) := by
    unfold calls nanosOf
    rw [List.map_map]
    rfl
  have length : (calls script.tests outs (executed script.tests outs)).length =
      (nanosOf outs (executed script.tests outs)).length := by
    rw [← nanos, List.length_map]
  have nonneg : ∀ x ∈ nanosOf outs (executed script.tests outs), 0 ≤ x := by
    intro x member
    rw [← nanos] at member
    obtain ⟨e, inside, rfl⟩ := List.mem_map.mp member
    exact Int64.le_iff_toInt_le.mp (nonneg e inside)
  have total : (totalTime outs (executed script.tests outs)).milliseconds.toInt =
      (nanosOf outs (executed script.tests outs)).sum.tdiv 1000000 := by
    rw [toInt_milliseconds, toInt_totalTime nonneg (nanos ▸ fits)]
  refine ⟨(totalTime outs (executed script.tests outs)).milliseconds,
    ((List.range script.tests.length).map (entry script.tests outs)).map
      fun e => e.duration.milliseconds, ?_⟩
  exact {
    ofSuite := rfl
    ofTests := by
      simp only [makeResultEnvelope, referenceReport, List.map_map]
      rfl
    notRun := by
      intro i behind d here
      have past : executed script.tests outs ≤ i := by simpa [calls] using behind
      rw [entries_milliseconds, List.getElem?_append_right (by simpa using past)] at here
      exact List.eq_of_mem_replicate (List.mem_of_getElem? here)
    sum_le := by
      rw [sum_entries_milliseconds, total]
      exact Truncation.sum_tdiv_le (by decide) nonneg
    le_sum := by
      rw [sum_entries_milliseconds, total, length]
      refine Truncation.tdiv_sum_le (by decide) nonneg fun empty => ?_
      rw [length, empty] at some_run
      exact absurd some_run (by decide) }

/-- Two tests of one and a half milliseconds each. -/
def threeMilliseconds (_ : Nat) : RunOutcome := ⟨some { duration := 1500000 }, none⟩

/-- What is published about them agrees: three milliseconds for the suite, one for each test. -/
theorem durations_agree_halves :
    ∃ total each, DurationsAgree
      ((SuiteRunner.runSuite silentTwice recorded).answered (inTurn threeMilliseconds) []).1
      (makeResultEnvelope []
        ((SuiteRunner.runSuite silentTwice recorded).answered (inTurn threeMilliseconds) []).2)
      total each :=
  durations_agree silentTwice threeMilliseconds [] rfl (by decide) (by decide) (by decide)

end Scrc
