import Scrc.Docker.Preparation
import Scrc.Kafka.Messages

/-!
# Outcomes of a run

What a submission comes out as on an engine over Docker, whatever the daemon replies: the
preparation is a prepared script, a failed build or an error; a run is a result or an error; and the
envelope that is published says at least one of the two.

* `ReportShape.status` and `ReportShape.envelope`: the status of a report and of its envelope.
* `outcomes_definite`: both together, with the outcomes of preparation and runs, for every
  execution.
-/

namespace Scrc

open Interaction SuiteReference

/-! ## Statuses -/

/-- Exactly one of a result, whose status is OK, TL or ML, and an error. -/
def RunOutcome.Exclusive (o : RunOutcome) : Prop :=
  (o.err = none ∧ ∃ r, o.result = some r ∧ r.status ∈ [Status.ok, .timeLimit, .memoryLimit]) ∨
  (o.result = none ∧ ∃ err, o.err = some err ∧ err.text ≠ [])

/-- Exactly one of a prepared script, the result of a failed build, and an error. -/
def PrepareOutcome.Exclusive {I : Interface} (o : PrepareOutcome I) : Prop :=
  (o.err = none ∧ o.result = none ∧ ∃ p, o.prepared = some p) ∨
  (o.err = none ∧ o.prepared = none ∧ ∃ r, o.result = some r ∧ r.status = .buildFail) ∨
  (o.prepared = none ∧ o.result = none ∧ ∃ err, o.err = some err ∧ err.text ≠ [])

theorem RunOutcome.Definite.exclusive {o : RunOutcome} (h : o.Definite) : o.Exclusive := by
  rcases h with ⟨r, rfl, status⟩ | ⟨err, rfl, text⟩
  · exact Or.inl ⟨rfl, r, rfl, status⟩
  · exact Or.inr ⟨rfl, err, rfl, text⟩

theorem PrepareOutcome.Definite.exclusive {o : PrepareOutcome Docker} (h : o.Definite) :
    o.Exclusive := by
  rcases h with ⟨p, rfl, -⟩ | ⟨r, rfl, status⟩ | ⟨err, rfl, text⟩
  · exact Or.inl ⟨rfl, rfl, p, rfl⟩
  · exact Or.inr (Or.inl ⟨rfl, rfl, r, rfl, status⟩)
  · exact Or.inr (Or.inr ⟨rfl, rfl, err, rfl, text⟩)

/-- The script that a definite preparation returns runs to definite outcomes. -/
theorem PrepareOutcome.Definite.sound {o : PrepareOutcome Docker} (h : o.Definite)
    {p : PreparedScript Docker} (prepared : o.prepared = some p) : p.Sound := by
  rcases h with ⟨p', rfl, sound⟩ | ⟨r, rfl, status⟩ | ⟨err, rfl, text⟩
  · cases prepared
    exact sound
  · cases prepared
  · cases prepared

/-- The statuses a verdict can have. -/
def verdicts : List Status := [.ok, .wrongAnswer, .timeLimit, .memoryLimit]

/-- The status of a run is a verdict: OK, TL and ML are, and the only one that a run never has is
WA. -/
theorem run_status_mem {s : Status} (h : s ∈ [Status.ok, .timeLimit, .memoryLimit]) :
    s ∈ verdicts := by
  have sublist : [Status.ok, .timeLimit, .memoryLimit] ⊆ verdicts := by decide
  exact sublist h

theorem RunOutcome.Definite.verdict_mem {o : RunOutcome} (h : o.Definite) (test : TestCase) :
    o.verdict test ∈ verdicts := by
  have compared : (if o.stdout = test.expectedOutput then Status.ok else .wrongAnswer) ∈ verdicts := by
    split
    · exact List.mem_cons_self
    · exact List.mem_cons_of_mem _ List.mem_cons_self
  unfold RunOutcome.verdict
  split
  · rename_i returned
    rcases h with ⟨r, rfl, status⟩ | ⟨err, rfl, -⟩
    · have same : (RunOutcome.finished r).status = r.status := rfl
      rw [same]
      exact run_status_mem status
    · exact absurd rfl returned.1
  · exact compared

section Suite

variable {tests : List TestCase} {outs : Nat → RunOutcome}

theorem overall_mem (definite : ∀ i < executed tests outs, (outs i).Definite) :
    overall tests outs ∈ verdicts := by
  unfold overall
  cases decided : decisive tests outs with
  | none => exact List.mem_cons_self
  | some k =>
      have run : k < executed tests outs := by
        unfold executed
        rw [decided]
        exact Nat.lt_succ_self k
      exact (definite k run).verdict_mem _

end Suite

/-! ## Reports -/

/-- The status of the result of a report is a verdict, or says that the build failed. -/
theorem ReportShape.status {script : Script} {report : RunReport} (h : ReportShape script report)
    {r : Result} (present : report.result = some r) : r.status ∈ verdicts ++ [.buildFail] := by
  apply List.mem_append.mpr
  cases h with
  | prepareFailed text => cases present
  | buildFailed status =>
      cases present
      exact Or.inr (List.mem_singleton.mpr status)
  | single untested definite =>
      rcases definite with ⟨r', rfl, status⟩ | ⟨err, rfl, -⟩
      · cases present
        exact Or.inl (run_status_mem status)
      · cases present
  | suite tested definite =>
      cases present
      exact Or.inl (overall_mem definite)

/-- A report holds a result or an error with a text. -/
theorem ReportShape.speaks {script : Script} {report : RunReport} (h : ReportShape script report) :
    (∃ r, report.result = some r) ∨ ∃ err, report.err = some err ∧ err.text ≠ [] := by
  cases h with
  | prepareFailed text => exact Or.inr ⟨_, rfl, text⟩
  | buildFailed status => exact Or.inl ⟨_, rfl⟩
  | single untested definite =>
      rcases definite with ⟨r, rfl, -⟩ | ⟨err, rfl, text⟩
      · exact Or.inl ⟨r, rfl⟩
      · exact Or.inr ⟨err, rfl, text⟩
  | suite tested definite => exact Or.inl ⟨_, rfl⟩

/-- The envelope of a report says at least one of its status and its error. -/
theorem ReportShape.envelope {script : Script} {report : RunReport} (h : ReportShape script report)
    (timestamp : GoString) :
    (makeResultEnvelope timestamp report).status ≠ .unset ∨
      (makeResultEnvelope timestamp report).error ≠ [] := by
  have set : Status.unset ∉ verdicts ++ [.buildFail] := by decide
  rcases h.speaks with ⟨r, present⟩ | ⟨err, failed, text⟩
  · left
    have status : (makeResultEnvelope timestamp report).status = r.status := by
      simp only [makeResultEnvelope, present]
    rw [status]
    intro unset
    apply set
    rw [← unset]
    exact h.status present
  · right
    have error : (makeResultEnvelope timestamp report).error = err.text := by
      simp only [makeResultEnvelope, failed]
    rw [error]
    exact text

/-! ## Every outcome -/

/-- **No silent or ambiguous outcome.**  On every engine that can be built, for every script and
whatever Docker replies: the preparation returns exactly one of a prepared script, a failed build
and an error, so the branch of `suiteRunner.Run` for three nils is not taken; every run of a
prepared script returns exactly one of a result and an error; the status of a report is one of
five; and the envelope of a report has a status or an error text. -/
theorem outcomes_definite {cfg : DockerConfig} {engine : Engine Docker}
    (built : newEngineWithClient cfg = .ok engine) (script : Script) :
    (∀ t o, Exec (engine.prepare script) t o →
      o.Exclusive ∧ ¬ (o.err = none ∧ o.result = none ∧ o.prepared.isNone) ∧
      ∀ p, o.prepared = some p → ∀ stdin t' out, Exec (p.run stdin) t' out → out.Exclusive) ∧
    ∀ t report, Exec (SuiteRunner.run engine script) t report →
      (∀ r, report.result = some r → r.status ∈
        [Status.ok, .wrongAnswer, .timeLimit, .memoryLimit, .buildFail] ∧ r.status ≠ .notRun) ∧
      ∀ timestamp, (makeResultEnvelope timestamp report).status ≠ .unset ∨
        (makeResultEnvelope timestamp report).error ≠ [] := by
  have prepares := newEngineWithClient_prepares built script
  constructor
  · intro t o run
    obtain ⟨-, -, definite⟩ := prepares.sound run (lifecycle_allowed _ _)
    refine ⟨definite.exclusive, fun nils => ?_, fun p prepared stdin t' out run' => ?_⟩
    · obtain ⟨noErr, noResult, noScript⟩ := nils
      rcases definite.exclusive with
        ⟨-, -, p, present⟩ | ⟨-, -, r, present, -⟩ | ⟨-, -, err, present, -⟩
      · rw [present] at noScript
        cases noScript
      · rw [noResult] at present
        cases present
      · rw [noErr] at present
        cases present
    · obtain ⟨-, finished, -⟩ :=
        ((definite.sound prepared).run stdin).sound run' (lifecycle_allowed _ _)
      exact finished.exclusive
  · intro t report run
    obtain ⟨-, -, shape⟩ := (keeps_suiteRunner prepares).sound run (lifecycle_allowed _ _)
    refine ⟨fun r present => ⟨shape.status present, fun notRun => ?_⟩, shape.envelope⟩
    have outside : Status.notRun ∉ verdicts ++ [.buildFail] := by decide
    apply outside
    rw [← notRun]
    exact shape.status present

/-- The engine for Python on a script that is tested twice: the suite is OK, and its report is one
of those the theorem speaks of. -/
theorem outcomes_definite_echo :
    ((SuiteRunner.run pythonEngine echoTwice).answered servingDaemon []).2.result.map
        Result.status = some .ok ∧
      (makeResultEnvelope []
        ((SuiteRunner.run pythonEngine echoTwice).answered servingDaemon []).2).status ≠ .unset := by
  have definite := outcomes_definite pythonEngine_built echoTwice
  have run := exec_answered servingDaemon (SuiteRunner.run pythonEngine echoTwice) []
  have status : ((SuiteRunner.run pythonEngine echoTwice).answered servingDaemon []).2.result.map
      Result.status = some .ok := by decide
  refine ⟨status, ?_⟩
  rcases (definite.2 _ _ run).2 [] with set | error
  · exact set
  · exact absurd (by decide) error

end Scrc
