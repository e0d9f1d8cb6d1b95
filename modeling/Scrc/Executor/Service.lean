import Scrc.Executor.SuiteRunner

/-!
# The executor service

`Service.ExecuteFromProducer` as a step relation: the loop that takes scripts from the producer and
the goroutines it starts, whose steps interleave in any order.  The loop stands at one place of its
body at a time, and so does every worker; what is around them (the producer, the caller's context,
what `onReport` does) is a parameter, free to answer as it likes.

Three fields of the state only keep a record: the answers of `NextScript`, the scripts passed to
`suites.Run`, and the reports passed to `onReport`.
-/

namespace Scrc

open Interaction

/-- `finish(err)` for an error of `NextScript`: the end of the input and of the context are no
error of `ExecuteFromProducer`, everything else is. -/
def stopError (err : GoError) : Option GoError :=
  if err.is .canceled ∨ err.is .deadlineExceeded ∨ err.is .eof then none
  else some (.wrap "get next script" err)

/-- What a call of `ExecuteFromProducer` is surrounded by.  `nextScript e answer e'`: in `e` the
producer may give this answer and leave `e'`; `onReport e report e'`: in `e` the callback, when
there is one, may return and leave `e'`; `elsewhere`: what happens besides. -/
structure Surroundings (ε : Type) where
  nextScript : ε → Except GoError Script → ε → Prop
  onReport : Option (ε → RunReport → ε → Prop)
  elsewhere : ε → ε → Prop

/-- The place of the loop: before the test of the limit, in `NextScript`, before each of the four
statements that hand the script to a goroutine, in `wg.Wait`, or past the return. -/
inductive LoopPc where
  | top
  | fetching
  | acquiring (script : Script)
  | adding (script : Script)
  | counting (script : Script)
  | spawning (script : Script)
  | waiting (err : Option GoError)
  | returned (err : Option GoError)

/-- The place of a goroutine: not begun, in `suites.Run`, in `onReport`, before the deferred
`<-sem`, before the deferred `wg.Done`, or ended. -/
inductive WorkerPc where
  | spawned
  | running
  | reporting (report : RunReport)
  | releasing
  | leaving
  | ended

structure Worker where
  script : Script
  pc : WorkerPc

/-- The state of a call: `len(sem)`, the counter of the wait group, `processed`, and the two kinds
of control. -/
structure Dispatch (ε : Type) where
  around : ε
  loop : LoopPc := .top
  tokens : Nat := 0
  waitGroup : Int := 0
  processed : Int := 0
  workers : List Worker := []
  answers : List (Except GoError Script) := []
  ran : List Script := []
  reported : List RunReport := []

/-- The capacity of the semaphore. -/
def capacity (maxParallel : Int) : Int := if maxParallel ≤ 0 then 1 else maxParallel

namespace Dispatch

variable {I : Interface} {ε : Type}

/-- The scripts that `NextScript` returned. -/
def fetched (s : Dispatch ε) : List Script := s.answers.filterMap Except.toOption

/-- One step of the loop, of a worker, or of the surroundings. -/
inductive Step (S : Surroundings ε) (engine : Engine I) (maxScripts maxParallel : Int) :
    Dispatch ε → Dispatch ε → Prop
  /-- `if maxScripts > 0 && processed >= maxScripts { return finish(nil) }` -/
  | limit {s : Dispatch ε} (here : s.loop = .top)
      (reached : maxScripts > 0 ∧ s.processed ≥ maxScripts) :
      Step S engine maxScripts maxParallel s { s with loop := .waiting none }
  | fetch {s : Dispatch ε} (here : s.loop = .top)
      (below : ¬ (maxScripts > 0 ∧ s.processed ≥ maxScripts)) :
      Step S engine maxScripts maxParallel s { s with loop := .fetching }
  /-- `script, err := producer.NextScript(ctx)` -/
  | failed {s : Dispatch ε} {err : GoError} {e : ε} (here : s.loop = .fetching)
      (answer : S.nextScript s.around (.error err) e) :
      Step S engine maxScripts maxParallel s
        { s with
          loop := .waiting (stopError err)
          around := e
          answers := s.answers ++ [.error err] }
  | script {s : Dispatch ε} {script : Script} {e : ε} (here : s.loop = .fetching)
      (answer : S.nextScript s.around (.ok script) e) :
      Step S engine maxScripts maxParallel s
        { s with loop := .acquiring script, around := e, answers := s.answers ++ [.ok script] }
  /-- `sem <- struct{}{}` -/
  | acquire {s : Dispatch ε} {script : Script} (here : s.loop = .acquiring script)
      (room : s.tokens < capacity maxParallel) :
      Step S engine maxScripts maxParallel s
        { s with loop := .adding script, tokens := s.tokens + 1 }
  /-- `wg.Add(1)` -/
  | add {s : Dispatch ε} {script : Script} (here : s.loop = .adding script) :
      Step S engine maxScripts maxParallel s
        { s with loop := .counting script, waitGroup := s.waitGroup + 1 }
  /-- `processed++` -/
  | count {s : Dispatch ε} {script : Script} (here : s.loop = .counting script) :
      Step S engine maxScripts maxParallel s
        { s with loop := .spawning script, processed := s.processed + 1 }
  /-- `go func(script execution.Script) { ... }(script)` -/
  | spawn {s : Dispatch ε} {script : Script} (here : s.loop = .spawning script) :
      Step S engine maxScripts maxParallel s
        { s with loop := .top, workers := s.workers ++ [⟨script, .spawned⟩] }
  /-- `wg.Wait()` returns -/
  | wait {s : Dispatch ε} {err : Option GoError} (here : s.loop = .waiting err)
      (zero : s.waitGroup = 0) :
      Step S engine maxScripts maxParallel s { s with loop := .returned err }
  /-- `s.suites.Run(ctx, script)` is called -/
  | run {s : Dispatch ε} {i : Nat} {script : Script}
      (here : s.workers[i]? = some ⟨script, .spawned⟩) :
      Step S engine maxScripts maxParallel s
        { s with workers := s.workers.set i ⟨script, .running⟩, ran := s.ran ++ [script] }
  /-- `suites.Run` returns, and there is no callback -/
  | finish {s : Dispatch ε} {i : Nat} {script : Script} {report : RunReport}
      (here : s.workers[i]? = some ⟨script, .running⟩)
      (returns : ∃ t, Exec (SuiteRunner.run engine script) t report) (silent : S.onReport = none) :
      Step S engine maxScripts maxParallel s
        { s with workers := s.workers.set i ⟨script, .releasing⟩ }
  /-- `suites.Run` returns, and `onReport(report)` is called -/
  | announce {s : Dispatch ε} {i : Nat} {script : Script} {report : RunReport}
      (here : s.workers[i]? = some ⟨script, .running⟩)
      (returns : ∃ t, Exec (SuiteRunner.run engine script) t report) (called : S.onReport ≠ none) :
      Step S engine maxScripts maxParallel s
        { s with
          workers := s.workers.set i ⟨script, .reporting report⟩
          reported := s.reported ++ [report] }
  /-- `onReport` returns -/
  | report {s : Dispatch ε} {i : Nat} {script : Script} {report : RunReport} {e : ε}
      (here : s.workers[i]? = some ⟨script, .reporting report⟩)
      (effect : ∃ onReport, S.onReport = some onReport ∧ onReport s.around report e) :
      Step S engine maxScripts maxParallel s
        { s with workers := s.workers.set i ⟨script, .releasing⟩, around := e }
  /-- the deferred `<-sem` -/
  | release {s : Dispatch ε} {i : Nat} {script : Script}
      (here : s.workers[i]? = some ⟨script, .releasing⟩) (held : 0 < s.tokens) :
      Step S engine maxScripts maxParallel s
        { s with workers := s.workers.set i ⟨script, .leaving⟩, tokens := s.tokens - 1 }
  /-- the deferred `wg.Done()` -/
  | done {s : Dispatch ε} {i : Nat} {script : Script}
      (here : s.workers[i]? = some ⟨script, .leaving⟩) :
      Step S engine maxScripts maxParallel s
        { s with workers := s.workers.set i ⟨script, .ended⟩, waitGroup := s.waitGroup - 1 }
  | elsewhere {s : Dispatch ε} {e : ε} (moves : S.elsewhere s.around e) :
      Step S engine maxScripts maxParallel s { s with around := e }

end Dispatch

end Scrc
