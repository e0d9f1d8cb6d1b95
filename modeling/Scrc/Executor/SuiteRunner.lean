import Scrc.Runtime

/-!
# The suite runner

`suiteRunner` of package `executor`: it prepares a script, runs it on each of its tests until one
fails, and assembles the report.  The caller's context is the one every call is made with, so it
is left implicit here; the runtime decides what a call does when that context is over.
-/

namespace Scrc

open Interaction

variable {I : Interface}

/-- `suiteExecution`: the accumulator of one suite. -/
@[ext]
structure SuiteExecution (I : Interface) where
  script : Script
  prepared : PreparedScript I
  results : List TestResult
  overall : Status
  runErr : Option GoError
  totalTime : Duration

def newSuiteExecution (script : Script) (prepared : PreparedScript I) : SuiteExecution I where
  script := script
  prepared := prepared
  results := List.replicate script.tests.length {}
  overall := .ok
  runErr := none
  totalTime := 0

namespace SuiteExecution

/-- The entry that `executeTest` builds from what `Run` returned for `test`, when `runErr` is the
error recorded so far. -/
def ranResult (runErr : Option GoError) (test : TestCase) (outcome : RunOutcome) : TestResult :=
  let result : TestResult := { case := test }
  let result :=
    match outcome.err, runErr with
    | some err, none => { result with error := err.text }
    | _, _ => result
  let result :=
    match outcome.result with
    | none => result
    | some runResult =>
        { result with
          stdout := runResult.stdout
          stderr := runResult.stderr
          exitCode := runResult.exitCode
          duration := runResult.duration
          status := if runResult.status ≠ .unset then runResult.status else result.status }
  let result := if result.status = .unset then { result with status := .ok } else result
  if result.status = .ok ∧ result.stdout ≠ test.expectedOutput then
    { result with status := .wrongAnswer }
  else result

/-- `executeTest` past the call of `Run`. -/
def record (s : SuiteExecution I) (idx : Nat) (test : TestCase) (outcome : RunOutcome) :
    SuiteExecution I :=
  let result := ranResult s.runErr test outcome
  { s with
    results := s.results.set idx result
    overall := if result.status ≠ .ok ∧ s.overall = .ok then result.status else s.overall
    runErr := if outcome.err ≠ none ∧ s.runErr = none then outcome.err else s.runErr
    totalTime :=
      match outcome.result with
      | none => s.totalTime
      | some runResult => s.totalTime + runResult.duration }

/-- `executeTest` when an earlier test already decided the suite. -/
def skip (s : SuiteExecution I) (idx : Nat) (test : TestCase) : SuiteExecution I :=
  { s with results := s.results.set idx { case := test, status := .notRun } }

def executeTest (s : SuiteExecution I) (idx : Nat) : Proc I (SuiteExecution I) := do
  let test := s.script.tests[idx]!
  if s.overall ≠ .ok then
    return s.skip idx test
  let outcome ← s.prepared.run test.input
  return s.record idx test outcome

/-- The scan from the last result to the first that `tailStdout`, `tailStderr` and `tailExitCode`
share: the field of the first result met in which it is not zero. -/
def tail {α : Type} [DecidableEq α] (zero : α) (field : TestResult → α)
    (results : List TestResult) : α :=
  match results.reverse.find? fun r => field r ≠ zero with
  | some r => field r
  | none => zero

def tailStdout (s : SuiteExecution I) : GoString := tail [] TestResult.stdout s.results
def tailStderr (s : SuiteExecution I) : GoString := tail [] TestResult.stderr s.results
def tailExitCode (s : SuiteExecution I) : Int64 := tail 0 TestResult.exitCode s.results

def finalize (s : SuiteExecution I) : RunReport where
  script := s.script
  result := some {
    status := s.overall
    stdout := s.tailStdout
    stderr := s.tailStderr
    exitCode := s.tailExitCode
    duration := s.totalTime
    tests := s.results }
  err := s.runErr

end SuiteExecution

namespace SuiteRunner

/-- `runSingle`: a script without tests is run once with empty stdin. -/
def runSingle (script : Script) (prepared : PreparedScript I) : Proc I RunReport := do
  let outcome ← prepared.run []
  return { script := script, result := outcome.result, err := outcome.err }

/-- `runSuite`: `executeTest` for every index in order, then `finalize`. -/
def runSuite (script : Script) (prepared : PreparedScript I) : Proc I RunReport := do
  let exec ← (List.range script.tests.length).foldlM SuiteExecution.executeTest
    (newSuiteExecution script prepared)
  return exec.finalize

/-- The error of `Run` when `Prepare` returned three nils. -/
def nilPreparedScript : GoError :=
  .new "runner returned nil prepared script without build result"

/-- `Run` past the error check of `Prepare`, without the deferred `Close`. -/
def runPrepared (script : Script) (outcome : PrepareOutcome I) : Proc I RunReport :=
  match outcome.result, outcome.prepared with
  | some buildResult, _ => return { script := script, result := some buildResult }
  | none, none => return { script := script, err := some nilPreparedScript }
  | none, some prepared =>
      if script.tests.length = 0 then runSingle script prepared else runSuite script prepared

def run (runtime : Engine I) (script : Script) : Proc I RunReport := do
  let outcome ← runtime.prepare script
  match outcome.err with
  | some err => return { script := script, err := some err }
  | none =>
      match outcome.prepared with
      | some prepared => Proc.deferring prepared.close (runPrepared script outcome)
      | none => runPrepared script outcome

end SuiteRunner

end Scrc
