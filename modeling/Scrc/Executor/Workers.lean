import Scrc.Docker.SharedDaemon
import Scrc.Kafka.Stream

/-!
# Workers in the middle of their suites

`ExecuteFromProducer` call by call: where `Scrc.Executor.Service` lets `suites.Run` return in one
step, here the goroutines run side by side on one runtime and their calls interleave.

* `Workers.Step`: the step relation, over any runtime that is given by its answers.
* `Workers.refines`: what the calls come to is a run of `Scrc.Executor.Service`, so that everything
  said about its states holds here too.
* `stream_judged`: over a stream of messages on one daemon the reports say the judgements on the
  scripts, whatever the parallelism.
-/

namespace Scrc

open Interaction Transition

/-- A call of `ExecuteFromProducer`, what is left of the suites of its goroutines, in their order,
and the runtime. -/
structure Workers (I : Interface) (ε σ : Type) where
  dispatch : Dispatch ε
  suites : List (Script × Proc I RunReport) := []
  runtime : σ

namespace Workers

section

variable {I : Interface} {ε σ : Type} (S : Surroundings ε) (engine : Engine I)
  (maxScripts maxParallel : Int) (answers : σ → (c : I.Call) → I.Reply c → σ → Prop)

/-- One step.  `answers s c r s'`: the runtime in `s` may reply `r` to `c` and is then in `s'`. -/
inductive Step : Workers I ε σ → Workers I ε σ → Prop
  /-- A step that starts no goroutine and ends no suite. -/
  | service {w : Workers I ε σ} {d : Dispatch ε}
      (step : Dispatch.Step S engine maxScripts maxParallel w.dispatch d)
      (nobody : d.workers.length = w.dispatch.workers.length)
      (inside : ∀ (i : Nat) (script : Script), w.dispatch.workers[i]? = some ⟨script, .running⟩ →
        d.workers[i]? = some ⟨script, .running⟩) :
      Step w { w with dispatch := d }
  /-- `go func(script execution.Script) { ... }(script)` -/
  | spawn {w : Workers I ε σ} {script : Script} (here : w.dispatch.loop = .spawning script) :
      Step w
        { w with
          dispatch :=
            { w.dispatch with
              loop := .top
              workers := w.dispatch.workers ++ [⟨script, .spawned⟩] }
          suites := w.suites ++ [(script, SuiteRunner.run engine script)] }
  /-- A call of a suite is answered. -/
  | call {w : Workers I ε σ} {i : Nat} {script : Script} {c : I.Call}
      {k : I.Reply c → Proc I RunReport} {r : I.Reply c} {s : σ}
      (running : w.dispatch.workers[i]? = some ⟨script, .running⟩)
      (here : w.suites[i]? = some (script, .call c k)) (answered : answers w.runtime c r s) :
      Step w { w with suites := w.suites.set i (script, k r), runtime := s }
  /-- `suites.Run` returns, and there is no callback. -/
  | finish {w : Workers I ε σ} {i : Nat} {script : Script} {report : RunReport}
      (running : w.dispatch.workers[i]? = some ⟨script, .running⟩)
      (here : w.suites[i]? = some (script, .ret report)) (silent : S.onReport = none) :
      Step w
        { w with
          dispatch :=
            { w.dispatch with workers := w.dispatch.workers.set i ⟨script, .releasing⟩ } }
  /-- `suites.Run` returns, and `onReport(report)` is called. -/
  | announce {w : Workers I ε σ} {i : Nat} {script : Script} {report : RunReport}
      (running : w.dispatch.workers[i]? = some ⟨script, .running⟩)
      (here : w.suites[i]? = some (script, .ret report)) (called : S.onReport ≠ none) :
      Step w
        { w with
          dispatch :=
            { w.dispatch with
              workers := w.dispatch.workers.set i ⟨script, .reporting report⟩
              reported := w.dispatch.reported ++ [report] } }

end

/-- The state in which a call begins. -/
def initial {I : Interface} {ε σ : Type} (e : ε) (s : σ) : Workers I ε σ where
  dispatch := Dispatch.initial e
  runtime := s

section Refinement

variable {I : Interface} {ε σ : Type} {S : Surroundings ε} {engine : Engine I}
  {maxScripts maxParallel : Int} {answers : σ → (c : I.Call) → I.Reply c → σ → Prop}
  {w w' : Workers I ε σ} {e : ε} {s : σ}

/-- Every suite is what is left of a run on its script. -/
def Underway (engine : Engine I) (w : Workers I ε σ) : Prop :=
  ∀ suite ∈ w.suites, (SuiteRunner.run engine suite.1).LeadsTo suite.2

theorem Underway.step (underway : Underway engine w)
    (step : Step S engine maxScripts maxParallel answers w w') : Underway engine w' := by
  cases step with
  | service _ _ _ => exact underway
  | spawn _ =>
      intro suite member
      rcases List.mem_append.mp member with before | new
      · exact underway suite before
      · rw [List.mem_singleton.mp new]
        exact .refl _
  | @call i script c k r s running here answered =>
      intro suite member
      rcases List.mem_or_eq_of_mem_set member with before | rfl
      · exact underway suite before
      · exact (underway _ (List.mem_of_getElem? here)).call r
  | finish _ _ _ => exact underway
  | announce _ _ _ => exact underway

/-- A step here is a step of the service, or one that the service does not see. -/
theorem Underway.dispatch_step (underway : Underway engine w)
    (step : Step S engine maxScripts maxParallel answers w w') :
    w'.dispatch = w.dispatch ∨
      Dispatch.Step S engine maxScripts maxParallel w.dispatch w'.dispatch := by
  cases step with
  | service step _ _ => exact Or.inr step
  | spawn here => exact Or.inr (.spawn here)
  | call _ _ _ => exact Or.inl rfl
  | finish running here silent =>
      exact Or.inr (.finish running (underway _ (List.mem_of_getElem? here)).exec silent)
  | announce running here called =>
      exact Or.inr (.announce running (underway _ (List.mem_of_getElem? here)).exec called)

/-- **Refinement.**  However the calls of the goroutines interleave, the service is in a state that
it reaches with suites that run in one step. -/
theorem refines (run : Reaches (Step S engine maxScripts maxParallel answers) (initial e s) w) :
    Dispatch.Reachable S engine maxScripts maxParallel e w.dispatch := by
  have both : Underway engine w ∧
      Dispatch.Reachable S engine maxScripts maxParallel e w.dispatch := by
    refine run.invariant (P := fun w => Underway engine w ∧
      Dispatch.Reachable S engine maxScripts maxParallel e w.dispatch) ?_ ?_
    · intro w w' before step
      refine ⟨before.1.step step, ?_⟩
      rcases before.1.dispatch_step step with same | next
      · rw [same]
        exact before.2
      · exact before.2.tail next
    · exact ⟨fun _ absurd => (List.not_mem_nil absurd).elim, .refl⟩
  exact both.2

/-- The suites and the runtime alone are a pool of suite runners. -/
theorem reaches_pool {τ : System I Script RunReport σ}
    (starts : ∀ threads script, τ.starts threads script (SuiteRunner.run engine script))
    (replies : ∀ script s c r s', answers s c r s' → τ.answers script s c r s')
    (run : Reaches (Step S engine maxScripts maxParallel answers) (initial e s) w) :
    Reaches (Pool.Step τ) ⟨[], s⟩ ⟨w.suites, w.runtime⟩ := by
  refine run.invariant (P := fun w : Workers I ε σ =>
    Reaches (Pool.Step τ) ⟨[], s⟩ ⟨w.suites, w.runtime⟩) ?_ .refl
  intro w w' before step
  cases step with
  | service _ _ _ => exact before
  | spawn _ => exact before.tail (.start (starts _ _))
  | call _ here answered => exact before.tail (.answer here (replies _ _ _ _ _ answered))
  | finish _ _ _ => exact before
  | announce _ _ _ => exact before

/-- A step that ends no suite reports nothing. -/
theorem reported_of_inside {d d' : Dispatch ε}
    (step : Dispatch.Step S engine maxScripts maxParallel d d')
    (inside : ∀ (i : Nat) (script : Script), d.workers[i]? = some ⟨script, .running⟩ →
      d'.workers[i]? = some ⟨script, .running⟩) : d'.reported = d.reported := by
  cases step with
  | @announce i script report here _ _ =>
      have there := inside i script here
      rw [List.getElem?_set_self (List.getElem?_eq_some_iff.mp here).1] at there
      cases there
  | _ => rfl

/-- What holds of every report that a suite comes to holds of the reports that are announced. -/
theorem reported_of_suites {P : RunReport → Prop}
    (ends : ∀ w, Reaches (Step S engine maxScripts maxParallel answers) (initial e s) w →
      ∀ script report, (script, .ret report) ∈ w.suites → P report)
    (run : Reaches (Step S engine maxScripts maxParallel answers) (initial e s) w) :
    ∀ report ∈ w.dispatch.reported, P report := by
  induction run with
  | refl => exact fun _ absurd => (List.not_mem_nil absurd).elim
  | tail before step ih =>
      cases step with
      | service step _ inside =>
          rw [reported_of_inside step inside]
          exact ih
      | spawn _ => exact ih
      | call _ _ _ => exact ih
      | finish _ _ _ => exact ih
      | announce _ here _ =>
          intro report member
          rcases List.mem_append.mp member with old | new
          · exact ih report old
          · rw [List.mem_singleton.mp new]
            exact ends _ before _ _ (List.mem_of_getElem? here)

end Refinement

/-! ## The return -/

section Return

variable {I : Interface} {ε σ : Type} {S : Surroundings ε} {engine : Engine I}
  {maxScripts maxParallel : Int} {answers : σ → (c : I.Call) → I.Reply c → σ → Prop}
  {w w' : Workers I ε σ} {e : ε} {s : σ}

/-- The runtime answers every call. -/
def Answering (answers : σ → (c : I.Call) → I.Reply c → σ → Prop) : Prop :=
  ∀ s c, ∃ r s', answers s c r s'

/-- Every goroutine has its suite. -/
def Matched (w : Workers I ε σ) : Prop :=
  w.suites.map Prod.fst = w.dispatch.workers.map Worker.script

theorem scripts_of_nobody {d d' : Dispatch ε}
    (step : Dispatch.Step S engine maxScripts maxParallel d d')
    (nobody : d'.workers.length = d.workers.length) :
    d'.workers.map Worker.script = d.workers.map Worker.script := by
  cases step with
  | spawn _ =>
      rw [List.length_append, List.length_singleton] at nobody
      omega
  | run here => exact map_set_same Worker.script here rfl
  | finish here _ _ => exact map_set_same Worker.script here rfl
  | announce here _ _ => exact map_set_same Worker.script here rfl
  | report here _ => exact map_set_same Worker.script here rfl
  | release here _ => exact map_set_same Worker.script here rfl
  | done here => exact map_set_same Worker.script here rfl
  | _ => rfl

theorem Matched.step (matched : Matched w)
    (step : Step S engine maxScripts maxParallel answers w w') : Matched w' := by
  unfold Matched at *
  cases step with
  | service step nobody _ =>
      rw [scripts_of_nobody step nobody]
      exact matched
  | spawn _ =>
      rw [List.map_append, List.map_append, matched]
      rfl
  | @call i script c k r s running here answered =>
      have kept := map_set_same (b := (script, k r)) Prod.fst here rfl
      exact kept.trans matched
  | @finish i script report running here silent =>
      have kept := map_set_same (b := ⟨script, .releasing⟩) Worker.script running rfl
      exact matched.trans kept.symm
  | @announce i script report running here called =>
      have kept := map_set_same (b := ⟨script, .reporting report⟩) Worker.script running rfl
      exact matched.trans kept.symm

theorem Matched.suite (matched : Matched w) {i : Nat} {script : Script} {pc : WorkerPc}
    (here : w.dispatch.workers[i]? = some ⟨script, pc⟩) : ∃ p, w.suites[i]? = some (script, p) := by
  have script_at : (w.suites.map Prod.fst)[i]? = some script := by
    rw [matched, List.getElem?_map, here]
    rfl
  rw [List.getElem?_map] at script_at
  obtain ⟨⟨script', p⟩, inside, rfl⟩ := Option.map_eq_some_iff.mp script_at
  exact ⟨p, inside⟩

/-- The calls of one suite are answered, up to its report. -/
theorem reaches_report (answering : Answering answers) {i : Nat} {script : Script}
    {p : Proc I RunReport} (running : w.dispatch.workers[i]? = some ⟨script, .running⟩)
    (here : w.suites[i]? = some (script, p)) :
    ∃ w' report, Reaches (Step S engine maxScripts maxParallel answers) w w' ∧
      w'.dispatch = w.dispatch ∧ w'.suites[i]? = some (script, .ret report) := by
  induction p generalizing w with
  | ret report => exact ⟨w, report, .refl, rfl, here⟩
  | call c k ih =>
      obtain ⟨r, s, answered⟩ := answering w.runtime c
      have next : (w.suites.set i (script, k r))[i]? = some (script, k r) :=
        List.getElem?_set_self (List.getElem?_eq_some_iff.mp here).1
      obtain ⟨w', report, run, same, ended⟩ :=
        ih r (w := ⟨w.dispatch, w.suites.set i (script, k r), s⟩) running next
      exact ⟨w', report, .head (.call running here answered) run, same, ended⟩

/-- A goroutine that is not inside its suite moves, and the others stay inside theirs. -/
theorem inside_set {workers : List Worker} {i : Nat} {v u : Worker} (here : workers[i]? = some v)
    (out : v.pc ≠ .running) (j : Nat) (script : Script)
    (there : workers[j]? = some ⟨script, .running⟩) :
    (workers.set i u)[j]? = some ⟨script, .running⟩ := by
  by_cases same : i = j
  · subst same
    rw [here] at there
    cases there
    exact absurd rfl out
  · rw [List.getElem?_set_ne same]
    exact there

/-- A step of the service can be taken, if need be behind the calls of one suite. -/
theorem exists_advance {left : ε → Nat} (finite : Dispatch.Finite S left)
    (answering : Answering answers) (matched : Matched w) {d : Dispatch ε}
    (step : Dispatch.Step S engine maxScripts maxParallel w.dispatch d) :
    ∃ w', Reaches (Step S engine maxScripts maxParallel answers) w w' ∧
      w'.dispatch.ahead left < w.dispatch.ahead left := by
  have less := Dispatch.step_decreases finite step
  have outside : ∀ {v u : Worker} {i : Nat}, w.dispatch.workers[i]? = some v → v.pc ≠ .running →
      d.workers = w.dispatch.workers.set i u →
      ∃ w', Reaches (Step S engine maxScripts maxParallel answers) w w' ∧
        w'.dispatch.ahead left < w.dispatch.ahead left := by
    intro v u i here out moved
    refine ⟨_, .single (.service step ?_ fun j script there => ?_), less⟩
    · rw [moved, List.length_set]
    · rw [moved]
      exact inside_set here out j script there
  -- for a suite that ends, the report is the one its own calls come to
  have ending : ∀ {i : Nat} {script : Script},
      w.dispatch.workers[i]? = some ⟨script, .running⟩ →
      ∃ w', Reaches (Step S engine maxScripts maxParallel answers) w w' ∧
        w'.dispatch.ahead left < w.dispatch.ahead left := by
    intro i script running
    obtain ⟨p, here⟩ := matched.suite running
    obtain ⟨w₁, report, run, same, ended⟩ := reaches_report answering running here
    rw [← same] at running
    have decreases : ∀ (pc : WorkerPc) (reported : List RunReport), Worker.ahead ⟨script, pc⟩ < 4 →
        Dispatch.ahead left { w₁.dispatch with
          workers := w₁.dispatch.workers.set i ⟨script, pc⟩, reported := reported } <
        w.dispatch.ahead left := by
      intro pc reported fewer
      have moved := sum_map_set_add (b := ⟨script, pc⟩) Worker.ahead running
      have four : Worker.ahead ⟨script, .running⟩ = 4 := rfl
      rw [← same]
      unfold Dispatch.ahead
      simp only
      omega
    by_cases silent : S.onReport = none
    · exact ⟨_, run.tail (.finish running ended silent), decreases .releasing _ (Nat.lt_add_of_pos_right Nat.two_pos)⟩
    · exact ⟨_, run.tail (.announce running ended silent),
        decreases (.reporting report) _ (Nat.lt_succ_self 3)⟩
  cases step with
  | spawn here => exact ⟨_, .single (.spawn here), less⟩
  | finish here _ _ => exact ending here
  | announce here _ _ => exact ending here
  | run here => exact outside here nofun rfl
  | report here _ => exact outside here nofun rfl
  | release here _ => exact outside here nofun rfl
  | done here => exact outside here nofun rfl
  | limit here reached => exact ⟨_, .single (.service (.limit here reached) rfl fun _ _ h => h), less⟩
  | fetch here below => exact ⟨_, .single (.service (.fetch here below) rfl fun _ _ h => h), less⟩
  | failed here answer => exact ⟨_, .single (.service (.failed here answer) rfl fun _ _ h => h), less⟩
  | script here answer => exact ⟨_, .single (.service (.script here answer) rfl fun _ _ h => h), less⟩
  | acquire here room => exact ⟨_, .single (.service (.acquire here room) rfl fun _ _ h => h), less⟩
  | add here => exact ⟨_, .single (.service (.add here) rfl fun _ _ h => h), less⟩
  | count here => exact ⟨_, .single (.service (.count here) rfl fun _ _ h => h), less⟩
  | wait here zero => exact ⟨_, .single (.service (.wait here zero) rfl fun _ _ h => h), less⟩
  | elsewhere moves => exact absurd moves finite.elsewhere

/-- **Every call returns.**  On a runtime that answers, a return is reached from every reachable
state. -/
theorem returns {left : ε → Nat} (finite : Dispatch.Finite S left)
    (responsive : Dispatch.Responsive S engine) (answering : Answering answers)
    (run : Reaches (Step S engine maxScripts maxParallel answers) (initial e s) w) :
    ∃ w' err, Reaches (Step S engine maxScripts maxParallel answers) w w' ∧
      w'.dispatch.loop = .returned err := by
  induction bound : w.dispatch.ahead left using Nat.strongRecOn generalizing w with
  | _ n ih =>
      by_cases ended : ∃ err, w.dispatch.loop = .returned err
      · obtain ⟨err, here⟩ := ended
        exact ⟨w, err, .refl, here⟩
      · have matched : Matched w :=
          run.invariant (fun _ _ before step => before.step step) rfl
        obtain ⟨d, step⟩ := Dispatch.exists_step (Dispatch.reachable_inv (refines run)) responsive
          fun err here => ended ⟨err, here⟩
        obtain ⟨w₁, first, less⟩ := exists_advance finite answering matched step
        obtain ⟨w', err, rest, returned⟩ := ih _ (bound ▸ less) (run.trans first) rfl
        exact ⟨w', err, first.trans rest, returned⟩

end Return

end Workers

/-! ## Workers on one daemon -/

section Judged

variable {cfg : DockerConfig} {engine : Engine Docker} {B : Behaviour}
  {artifact : Workload → GoString → List TarEntry} {ε : Type} {S : Surroundings ε}
  {maxScripts maxParallel : Int} {e : ε} {w : Workers Docker ε SharedDaemon}

/-- On one daemon every report says the judgement on its script. -/
theorem reported_judged (built : newEngineWithClient cfg = .ok engine)
    (run : Reaches (Workers.Step S engine maxScripts maxParallel (SharedDaemon.answers B artifact))
      (Workers.initial e {}) w) :
    ∀ report ∈ w.dispatch.reported, report.judgement = cfg.judge B artifact report.script := by
  refine Workers.reported_of_suites (fun w run script report ended => ?_) run
  have pool : Reaches (Pool.Step (suiteSystem engine B artifact)) ⟨[], {}⟩ ⟨w.suites, w.runtime⟩ :=
    Workers.reaches_pool (fun _ _ => rfl) (fun _ _ _ _ _ answered => answered) run
  obtain ⟨members, sound⟩ := suites_sound built pool
  have underway : Workers.Underway engine w :=
    run.invariant (fun _ _ before step => before.step step)
      fun _ absurd => (List.not_mem_nil absurd).elim
  obtain ⟨t, exec⟩ := (underway _ ended).exec
  rw [suiteRunner_script exec]
  exact judged_of_sound sound ended

end Judged

/-- **Any parallelism, one outcome.**  A call of `ExecuteFromProducer` over a stream of messages,
with any number of goroutines on one daemon, comes to its return when the programs end.  At its
return it has reported the judgements on the executed scripts of the stream, in some order, and it
returns the error that the stream determines. -/
theorem stream_judged {cfg : DockerConfig} {engine : Engine Docker}
    (built : newEngineWithClient cfg = .ok engine) (B : Behaviour)
    (artifact : Workload → GoString → List TarEntry) (maxScripts maxParallel : Int)
    (msgs : List Message) {w : Workers Docker (List Message) SharedDaemon}
    (run : Reaches (Workers.Step stream engine maxScripts maxParallel
      (SharedDaemon.answers B artifact)) (Workers.initial msgs {}) w) :
    ((∀ work, B.timeToExit work ≠ none) →
      ∃ w' err, Reaches (Workers.Step stream engine maxScripts maxParallel
        (SharedDaemon.answers B artifact)) w w' ∧ w'.dispatch.loop = .returned err) ∧
    ∀ err, w.dispatch.loop = .returned err →
      (w.dispatch.reported.map fun report => (report.script, report.judgement)).Perm
        ((executedScripts maxScripts msgs).map fun script =>
          (script, cfg.judge B artifact script)) ∧
      err = returnedError maxScripts msgs := by
  refine ⟨fun exits => ?_, fun err returned => ?_⟩
  · exact Workers.returns stream_finite (stream_responsive engine)
      (SharedDaemon.answering exits artifact) run
  · have reachable := Workers.refines run
    obtain ⟨fetched, error⟩ := fetched_of_stream reachable returned
    refine ⟨?_, error⟩
    have reported := (Dispatch.reachable_inv reachable).reported_fetched returned nofun
    rw [fetched] at reported
    have judged : (w.dispatch.reported.map fun report => (report.script, report.judgement)) =
        (w.dispatch.reported.map RunReport.script).map fun script =>
          (script, cfg.judge B artifact script) := by
      rw [List.map_map]
      apply List.map_congr_left
      intro report member
      exact congrArg (Prod.mk report.script) (reported_judged built run report member)
    rw [judged]
    exact reported.map _

/-- A stream of two messages, each with a script in Python. -/
def twoMessages : List Message :=
  [⟨"scripts", 0, "s1", "\x7b\"language\":\"python\",\"source\":\"print(1)\"\x7d"⟩,
    ⟨"scripts", 1, "s2", "\x7b\"language\":\"python\",\"source\":\"print(2)\"\x7d"⟩]

theorem twoMessages_judged :
    ∃ reported : List RunReport,
      (reported.map fun report => (report.script.id, report.judgement)).Perm
        [(lit "s1", some ⟨.ok, []⟩), (lit "s2", some ⟨.ok, []⟩)] := by
  have judged := fun w run => @stream_judged _ _ pythonEngine_built echo (leaves []) 0 2 twoMessages w run
  obtain ⟨w, err, run, returned⟩ := (judged _ .refl).1 fun _ => Option.some_ne_none 0
  have perm := ((judged w run).2 err returned).1.map fun entry => (entry.1.id, entry.2)
  refine ⟨w.dispatch.reported, ?_⟩
  rw [List.map_map] at perm
  refine perm.trans (List.Perm.of_eq ?_)
  decide +kernel

end Scrc
