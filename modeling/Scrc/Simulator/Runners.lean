import Mathlib.Tactic.Linarith
import Scrc.Cmd.Main
import Scrc.Simulator.Measurement

/-!
# The runners of the benchmark

`RunnerManager` starts the containers in which `scrc` runs, and stops them when the case that needed
them is over; `main` of the benchmark goes through the cases of its plan.

* `benchmarkMain`: the program, over the calls of `Runners`.
* `CaseMarks`, `PlanMarks`: what is started, measured, stopped and removed for a case and a plan.
* `loadAppConfig_runner`: the configuration that `scrc` reads in a container of a case.
* `benchmark_runners`: every execution leaves such marks; a container is left when a start fails, or
  when its removal is refused.
-/

namespace Scrc

open Interaction

/-! ## Dictionaries -/

/-- A dictionary of strings: its entries in the order in which their keys were inserted. -/
abbrev PyDict := List (String × String)

namespace PyDict

/-- `d[key] = value` -/
def set (d : PyDict) (key value : String) : PyDict :=
  if d.any fun entry => entry.1 = key then
    d.map fun entry => if entry.1 = key then (key, value) else entry
  else d ++ [(key, value)]

/-- `d.update(other)` -/
def update (d other : PyDict) : PyDict := other.foldl (fun d entry => d.set entry.1 entry.2) d

end PyDict

/-! ## The calls -/

/-- The arguments of `containers.run`. -/
structure RunnerContainer where
  image : String
  name : String
  environment : PyDict
  volumes : List String
  network : Option String

/-- What `attrs["State"]` says: the status of the health check, if there is one, and whether the
container runs. -/
structure RunnerState where
  health : Option String
  running : Bool

/-- The calls of `main` of the benchmark; an exception is its text. -/
inductive RunnersCall (α : Type) where
  /-- `time.time()` -/
  | time
  /-- `time.sleep(seconds)` -/
  | sleep (seconds : Rat)
  /-- `containers.run(..., detach=True)`, with the id of the container -/
  | runContainer (container : RunnerContainer)
  /-- `networks.get(network).connect(container)` -/
  | connect (network container : String)
  /-- `container.reload()`, and the state after it -/
  | reload (container : String)
  | stop (container : String)
  | remove (container : String)
  /-- A run of a case, up to its CSV file. -/
  | measureRun (case : BenchmarkCase α) (runNum : Nat)
  /-- What is made of the tables of all runs of a case. -/
  | aggregate (case : BenchmarkCase α)
  | renderMatrixCharts (label : String)
  /-- the file `benchmark_manifest.json` -/
  | writeManifest

@[reducible]
def RunnersReply {α : Type} : RunnersCall α → Type
  | .time => Rat
  | .sleep _ => Unit
  | .runContainer _ => Except String String
  | .connect _ _ => Except String Unit
  | .reload _ => Except String RunnerState
  | .stop _ => Except String Unit
  | .remove _ => Except String Unit
  | .measureRun _ _ => Except String Unit
  | .aggregate _ => Except String Unit
  | .renderMatrixCharts _ => Except String Unit
  | .writeManifest => Except String Unit

abbrev Runners (α : Type) : Interface := ⟨RunnersCall α, RunnersReply⟩

abbrev askRunners {α : Type} (c : RunnersCall α) : Proc (Runners α) (RunnersReply c) :=
  Proc.ask (I := Runners α) c

/-! ## The manager -/

structure RunnerConfig where
  replicas : Nat
  parallelism : Int
  environment : PyDict

/-- The fields of `RunnerManager` that do not change; `dockerHost` is the variable `DOCKER_HOST`. -/
structure RunnerManager where
  image : String
  baseEnvironment : PyDict
  networkNames : List String
  dockerHost : Option String
  logWaitSeconds : Rat := 5
  startupGraceSeconds : Rat := 20

namespace RunnerManager

section Manager

variable {α : Type} (manager : RunnerManager)

/-- The environment of the containers of a configuration. -/
def environment (config : RunnerConfig) : PyDict :=
  (manager.baseEnvironment.update config.environment).set "RUNNER_MAX_PARALLEL"
    (toString config.parallelism)

/-- `_runner_volumes`, without the mode, which is always `rw`. -/
def runnerVolumes : List String :=
  match manager.dockerHost with
  | some host => if host.startsWith "tcp://" then [] else ["/var/run/docker.sock"]
  | none => ["/var/run/docker.sock"]

/-- `_attach_additional_networks`, which suppresses exceptions. -/
def attachAdditionalNetworks (container : String) : List String → Proc (Runners α) Unit
  | [] => return
  | network :: networks => do
      let _ ← askRunners (.connect network container)
      attachAdditionalNetworks container networks

/-- The loop of `_start`, with so many replicas left, and the containers so far. -/
def startReplicas (env : PyDict) :
    Nat → Nat → List String → Proc (Runners α) (Option String × List String)
  | 0, _, containers => return (none, containers)
  | left + 1, idx, containers => do
      let now ← askRunners .time
      match ← askRunners (.runContainer
          { image := manager.image
            name := "scrc-benchmark-runner-" ++ toString now.floor ++ "-" ++ toString idx
            environment := env
            volumes := manager.runnerVolumes
            network := manager.networkNames.head? }) with
      | .error err => return (some err, containers)
      | .ok container =>
          attachAdditionalNetworks container manager.networkNames.tail
          startReplicas env left (idx + 1) (containers ++ [container])

/-- `_is_container_healthy` -/
def isContainerHealthy (container : String) : Proc (Runners α) Bool := do
  match ← askRunners (.reload container) with
  | .error _ => return false
  | .ok state =>
      match state.health with
      | some status => return status = "healthy"
      | none => return state.running

/-- `all(...)` over the containers. -/
def allHealthy : List String → Proc (Runners α) Bool
  | [] => return true
  | container :: containers => do
      if ← isContainerHealthy container then
        allHealthy containers
      else
        return false

/-- The loop of `_wait_for_startup`, which says whether it has ended. -/
def waitLoop (containers : List String) (deadline : Rat) : Nat → Proc (Runners α) Bool
  | 0 => return false
  | allowed + 1 => do
      if deadline ≤ (← askRunners .time) then
        return true
      if ← allHealthy containers then
        askRunners (.sleep manager.logWaitSeconds)
        return true
      askRunners (.sleep 1)
      waitLoop containers deadline allowed

/-- The loop of `_stop`, which suppresses exceptions. -/
def stopContainers : List String → Proc (Runners α) Unit
  | [] => return
  | container :: containers => do
      let _ ← askRunners (.stop container)
      let _ ← askRunners (.remove container)
      stopContainers containers

end Manager

end RunnerManager

/-! ## The program -/

/-- How a part of the program ends; the last case is that of rounds that were not allowed for. -/
inductive RunnersEnd where
  | ended
  | raised (err : String)
  | outOfRounds
  deriving DecidableEq

/-- The arguments that are handed to the runners. -/
structure BenchmarkArgs where
  broker : String
  scriptTopic : String
  resultsTopic : String
  groupId : String

structure BenchmarkMatrix (α : Type) where
  label : String
  cases : List (BenchmarkCase α)

section Program

variable {α : Type}

/-- The configuration of the runners of a case. -/
def BenchmarkArgs.runnerConfig (args : BenchmarkArgs) (case : BenchmarkCase α) : RunnerConfig where
  replicas := case.runnerReplicas
  parallelism := case.runnerParallelism
  environment := [("KAFKA_BROKERS", args.broker), ("KAFKA_TOPIC", args.scriptTopic),
    ("KAFKA_RESULTS_TOPIC", args.resultsTopic), ("KAFKA_GROUP_ID", args.groupId)]

namespace RunnerManager

/-- `_start`, with the containers that the manager has then. -/
def start (manager : RunnerManager) (checks : Nat) (config : RunnerConfig)
    (containers : List String) : Proc (Runners α) (RunnersEnd × List String) := do
  match ← manager.startReplicas (manager.environment config) config.replicas 0 containers with
  | (some err, containers) => return (.raised err, containers)
  | (none, containers) =>
      let now ← askRunners .time
      if ← manager.waitLoop containers (now + manager.startupGraceSeconds) checks then
        return (.ended, containers)
      else
        return (.outOfRounds, containers)

/-- `with runner_manager.run(config)` around this body: an exception of `_start` leaves out the body
and `_stop`. -/
def run (manager : RunnerManager) (checks : Nat) (config : RunnerConfig) (containers : List String)
    (body : Proc (Runners α) (Option String)) : Proc (Runners α) (RunnersEnd × List String) := do
  match ← manager.start checks config containers with
  | (.raised err, containers) => return (.raised err, containers)
  | (.outOfRounds, containers) => return (.outOfRounds, containers)
  | (.ended, containers) =>
      let raised ← body
      stopContainers containers
      match raised with
      | none => return (.ended, [])
      | some err => return (.raised err, [])

end RunnerManager

/-- The loop over the runs of a case, with so many left. -/
def measureRuns (case : BenchmarkCase α) : Nat → Nat → Proc (Runners α) (Option String)
  | 0, _ => return none
  | left + 1, runNum => do
      match ← askRunners (.measureRun case runNum) with
      | .error err => return some err
      | .ok _ => measureRuns case left (runNum + 1)

/-- What is done with the runners of a case. -/
def caseBody (case : BenchmarkCase α) : Proc (Runners α) (Option String) := do
  match ← measureRuns case case.numRuns 1 with
  | some err => return some err
  | none =>
      if case.numRuns = 0 then
        return none
      match ← askRunners (.aggregate case) with
      | .error err => return some err
      | .ok _ => return none

section Main

variable (manager : RunnerManager) (args : BenchmarkArgs) (checks : Nat)

/-- The loop over the cases of a matrix. -/
def runCases :
    List (BenchmarkCase α) → List String → Proc (Runners α) (RunnersEnd × List String)
  | [], containers => return (.ended, containers)
  | case :: cases, containers => do
      match ← manager.run checks (args.runnerConfig case) containers (caseBody case) with
      | (.ended, containers) => runCases cases containers
      | (.raised err, containers) => return (.raised err, containers)
      | (.outOfRounds, containers) => return (.outOfRounds, containers)

/-- The loop over the matrices of a plan. -/
def runMatrices : List (BenchmarkMatrix α) → List String → Proc (Runners α) RunnersEnd
  | [], _ => return .ended
  | matrix :: plan, containers => do
      match ← runCases manager args checks matrix.cases containers with
      | (.raised err, _) => return .raised err
      | (.outOfRounds, _) => return .outOfRounds
      | (.ended, containers) =>
          match ← askRunners (.renderMatrixCharts matrix.label) with
          | .error err => return .raised err
          | .ok _ => runMatrices plan containers

/-- `main`, from the loop over the plan on. -/
def benchmarkMain (plan : List (BenchmarkMatrix α)) : Proc (Runners α) RunnersEnd := do
  match ← runMatrices manager args checks plan [] with
  | .raised err => return .raised err
  | .outOfRounds => return .outOfRounds
  | .ended =>
      match ← askRunners .writeManifest with
      | .error err => return .raised err
      | .ok _ => return .ended

end Main

/-! ## What is left behind -/

/-- What the program does to containers, and the runs that it begins.  A container that is to be
stopped or removed is, or the daemon refuses. -/
inductive RunnerMark (α : Type) where
  | started (container : String) (environment : PyDict)
  | measured (case : BenchmarkCase α) (runNum : Nat)
  | stop (container : String) (stopped : Bool)
  | remove (container : String) (removed : Bool)

def runnerMark : Event (Runners α) → Option (RunnerMark α)
  | ⟨.runContainer container, .ok id⟩ => some (.started id container.environment)
  | ⟨.measureRun case runNum, _⟩ => some (.measured case runNum)
  | ⟨.stop id, .ok _⟩ => some (.stop id true)
  | ⟨.stop id, .error _⟩ => some (.stop id false)
  | ⟨.remove id, .ok _⟩ => some (.remove id true)
  | ⟨.remove id, .error _⟩ => some (.remove id false)
  | _ => none

/-- These containers are started. -/
def starts (env : PyDict) (ids : List String) : List (RunnerMark α) := ids.map (.started · env)

/-- So many runs are begun. -/
def measures (case : BenchmarkCase α) (first runs : Nat) : List (RunnerMark α) :=
  (List.range' first runs).map (.measured case)

/-- These containers are to be stopped and removed; with each comes whether it is. -/
def teardown (down : List (String × Bool × Bool)) : List (RunnerMark α) :=
  down.flatMap fun (id, stopped, removed) => [.stop id stopped, .remove id removed]

/-- What is done for a case. -/
inductive CaseMarks (env : PyDict) (case : BenchmarkCase α) :
    List (RunnerMark α) → RunnersEnd → Prop
  /-- A container cannot be started, and those before it are left. -/
  | leaked {ids : List String} (few : ids.length < case.runnerReplicas) (err : String) :
      CaseMarks env case (starts env ids) (.raised err)
  | waiting {ids : List String} (all : ids.length = case.runnerReplicas) :
      CaseMarks env case (starts env ids) .outOfRounds
  | raised {down : List (String × Bool × Bool)} (all : down.length = case.runnerReplicas)
      {runs : Nat} (begun : runs ≤ case.numRuns) (err : String) :
      CaseMarks env case
        (starts env (down.map Prod.fst) ++ measures case 1 runs ++ teardown down) (.raised err)
  | ended {down : List (String × Bool × Bool)} (all : down.length = case.runnerReplicas) :
      CaseMarks env case
        (starts env (down.map Prod.fst) ++ measures case 1 case.numRuns ++ teardown down) .ended

/-- What is done for the cases of a plan; `env` is the environment of the containers of a case. -/
inductive PlanMarks (env : BenchmarkCase α → PyDict) :
    List (BenchmarkCase α) → List (RunnerMark α) → RunnersEnd → Prop
  | ended : PlanMarks env [] [] .ended
  /-- A chart or the manifest cannot be written. -/
  | raised (cases : List (BenchmarkCase α)) (err : String) : PlanMarks env cases [] (.raised err)
  | cut {case : BenchmarkCase α} {cases : List (BenchmarkCase α)} {ms : List (RunnerMark α)}
      {e : RunnersEnd} (here : CaseMarks (env case) case ms e) (early : e ≠ .ended) :
      PlanMarks env (case :: cases) ms e
  | next {case : BenchmarkCase α} {cases : List (BenchmarkCase α)} {ms ms' : List (RunnerMark α)}
      {e : RunnersEnd} (here : CaseMarks (env case) case ms .ended)
      (later : PlanMarks env cases ms' e) : PlanMarks env (case :: cases) (ms ++ ms') e

/-! ## The parts -/

/-- A call that leaves no mark, whatever the reply. -/
def Unmarked (c : RunnersCall α) : Prop := ∀ r, runnerMark ⟨c, r⟩ = none

/-- All calls are such calls. -/
abbrev Silent {β : Type} (p : Proc (Runners α) β) : Prop :=
  p.Meets (Contract.calls Unmarked) () fun _ _ => True

section Parts

variable {manager : RunnerManager} {os : List (RunnerMark α)} {env : PyDict} {ids : List String}

/-- What a silent program shows is nothing at all, so it disappears from the marks of what contains
it. -/
theorem Silent.marks {β : Type} {p : Proc (Runners α) β} {b : β} (silent : Silent p)
    (shown : Shows runnerMark p os b) : os = [] :=
  silent.shows_nil (fun _ r unmarked => unmarked r) shown

/-- Connecting networks and looking at containers leaves no mark, whatever the daemon replies. -/
theorem silent_attachAdditionalNetworks (container : String) (networks : List String) :
    Silent (RunnerManager.attachAdditionalNetworks (α := α) container networks) := by
  induction networks with
  | nil => trivial
  | cons network networks ih => exact ⟨fun _ => rfl, fun _ _ => ih⟩

theorem silent_isContainerHealthy (container : String) :
    Silent (RunnerManager.isContainerHealthy (α := α) container) := by
  refine ⟨fun _ => rfl, fun reply _ => ?_⟩
  cases reply with
  | error err => trivial
  | ok state =>
      obtain ⟨health, running⟩ := state
      cases health <;> trivial

theorem silent_allHealthy (containers : List String) :
    Silent (RunnerManager.allHealthy (α := α) containers) := by
  induction containers with
  | nil => trivial
  | cons container containers ih =>
      refine (silent_isContainerHealthy container).bind fun healthy _ _ => ?_
      cases healthy with
      | true => exact ih
      | false => trivial

/-- Nor does waiting for them to be healthy, by induction over the rounds that are allowed for. -/
theorem silent_waitLoop (containers : List String) (deadline : Rat) (checks : Nat) :
    Silent (manager.waitLoop (α := α) containers deadline checks) := by
  induction checks with
  | zero => trivial
  | succ checks ih =>
      unfold RunnerManager.waitLoop
      refine ⟨fun _ => rfl, fun now _ => ?_⟩
      show Silent (if deadline ≤ now then _ else _)
      split
      · trivial
      · refine (silent_allHealthy containers).bind fun healthy _ _ => ?_
        cases healthy with
        | true => exact ⟨fun _ => rfl, fun _ _ => trivial⟩
        | false => exact ⟨fun _ => rfl, fun _ _ => ih⟩

/-- The containers that are started are those that the manager keeps. -/
theorem shows_startReplicas {left idx : Nat} {r : Option String}
    {containers containers' : List String}
    (shown : Shows runnerMark (manager.startReplicas env left idx containers) os (r, containers')) :
    ∃ ids, containers' = containers ++ ids ∧ os = starts env ids ∧
      ((r = none ∧ ids.length = left) ∨ ∃ err, r = some err ∧ ids.length < left) := by
  induction left generalizing idx containers os with
  | zero =>
      obtain ⟨rfl, same⟩ := shows_ret.mp shown
      cases same
      exact ⟨[], (List.append_nil _).symm, rfl, Or.inl ⟨rfl, rfl⟩⟩
  | succ left ih =>
      obtain ⟨now, os₁, rfl, named⟩ := shows_call.mp shown
      obtain ⟨reply, os₂, rfl, started⟩ := shows_call.mp named
      cases reply with
      | error err =>
          obtain ⟨rfl, same⟩ := shows_ret.mp started
          cases same
          exact ⟨[], (List.append_nil _).symm, rfl, Or.inr ⟨err, rfl, Nat.succ_pos _⟩⟩
      | ok container =>
          have started : Shows runnerMark
              (RunnerManager.attachAdditionalNetworks container manager.networkNames.tail >>=
                fun _ => manager.startReplicas env left (idx + 1) (containers ++ [container]))
              os₂ (r, containers') := started
          obtain ⟨os₃, os₄, _, rfl, attached, rest⟩ := shows_bind.mp started
          rw [(silent_attachAdditionalNetworks container _).marks attached]
          obtain ⟨ids, rfl, rfl, ended⟩ := ih rest
          refine ⟨container :: ids, List.append_assoc _ _ _, rfl, ?_⟩
          rcases ended with ⟨rfl, all⟩ | ⟨err, rfl, few⟩
          · exact Or.inl ⟨rfl, congrArg (· + 1) all⟩
          · exact Or.inr ⟨err, rfl, Nat.succ_lt_succ few⟩

/-- Every container is to be stopped and removed, whatever becomes of the others. -/
theorem shows_stopContainers
    (shown : Shows runnerMark (RunnerManager.stopContainers ids) os ()) :
    ∃ down, ids = down.map Prod.fst ∧ os = teardown down := by
  induction ids generalizing os with
  | nil => exact ⟨[], rfl, (shows_ret.mp shown).1⟩
  | cons container containers ih =>
      obtain ⟨stopped, os₁, rfl, first⟩ := shows_call.mp shown
      obtain ⟨removed, os₂, rfl, second⟩ := shows_call.mp first
      obtain ⟨down, rfl, rfl⟩ := ih second
      refine ⟨(container, stopped.isOk, removed.isOk) :: down, rfl, ?_⟩
      cases stopped with
      | ok _ => cases removed <;> rfl
      | error _ => cases removed <;> rfl

/-- The runs of a case are measured one after another, numbered from the one to begin with.  An
exception ends them early; without one all that were left are made. -/
theorem shows_measureRuns {case : BenchmarkCase α} {left runNum : Nat} {r : Option String}
    (shown : Shows runnerMark (measureRuns case left runNum) os r) :
    ∃ runs, os = measures case runNum runs ∧ runs ≤ left ∧ (r = none → runs = left) := by
  induction left generalizing runNum os with
  | zero =>
      obtain ⟨rfl, rfl⟩ := shows_ret.mp shown
      exact ⟨0, rfl, Nat.le_refl 0, fun _ => rfl⟩
  | succ left ih =>
      obtain ⟨reply, os₁, rfl, rest⟩ := shows_call.mp shown
      cases reply with
      | error err =>
          obtain ⟨rfl, rfl⟩ := shows_ret.mp rest
          refine ⟨1, rfl, Nat.succ_le_succ (Nat.zero_le _), fun absurd => ?_⟩
          cases absurd
      | ok _ =>
          obtain ⟨runs, rfl, fewer, all⟩ := ih rest
          refine ⟨runs + 1, rfl, Nat.succ_le_succ fewer, fun none => ?_⟩
          rw [all none]

/-- The body of a case is all of its runs, from the first. -/
theorem shows_caseBody {case : BenchmarkCase α} {r : Option String}
    (shown : Shows runnerMark (caseBody case) os r) :
    ∃ runs, os = measures case 1 runs ∧ runs ≤ case.numRuns ∧ (r = none → runs = case.numRuns) := by
  obtain ⟨os₁, os₂, ended, rfl, measuring, rest⟩ := shows_bind.mp shown
  obtain ⟨runs, rfl, fewer, all⟩ := shows_measureRuns measuring
  cases ended with
  | some err =>
      obtain ⟨rfl, rfl⟩ := shows_ret.mp rest
      refine ⟨runs, List.append_nil _, fewer, fun absurd => ?_⟩
      cases absurd
  | none =>
      have quiet : os₂ = [] := by
        revert rest
        show Shows runnerMark (if case.numRuns = 0 then _ else _) os₂ r → _
        split
        · exact fun rest => (shows_ret.mp rest).1
        · intro rest
          obtain ⟨reply, os₃, rfl, last⟩ := shows_call.mp rest
          cases reply with
          | error err => exact (shows_ret.mp last).1
          | ok _ => exact (shows_ret.mp last).1
      rw [quiet, List.append_nil]
      exact ⟨runs, rfl, fewer, fun _ => all rfl⟩

/-- The replicas are started one by one, and those that were started are kept even when `_start` is
left by an exception.  That they are fewer than wanted is how one can tell. -/
theorem shows_startRunners {checks : Nat} {config : RunnerConfig} {containers' : List String}
    {e : RunnersEnd}
    (shown : Shows runnerMark (manager.start checks config []) os (e, containers')) :
    os = starts (manager.environment config) containers' ∧
      ((∃ err, e = .raised err ∧ containers'.length < config.replicas) ∨
        (e = .outOfRounds ∧ containers'.length = config.replicas) ∨
        (e = .ended ∧ containers'.length = config.replicas)) := by
  obtain ⟨os₁, os₂, ⟨r, containers⟩, rfl, starting, rest⟩ := shows_bind.mp shown
  obtain ⟨ids, same, rfl, outcome⟩ := shows_startReplicas starting
  obtain rfl : containers = ids := same
  rcases outcome with ⟨rfl, all⟩ | ⟨err, rfl, few⟩
  · obtain ⟨now, os₃, rfl, waiting⟩ := shows_call.mp rest
    have waiting : Shows runnerMark
        (manager.waitLoop containers (now + manager.startupGraceSeconds) checks >>= fun ended =>
          if ended then return (.ended, containers)
          else return (.outOfRounds, containers))
        os₂ (e, containers') := waiting
    obtain ⟨os₄, os₅, ended, rfl, waited, last⟩ := shows_bind.mp waiting
    rw [(silent_waitLoop containers _ checks).marks waited]
    cases ended with
    | true =>
        obtain ⟨rfl, same⟩ := shows_ret.mp last
        cases same
        exact ⟨List.append_nil _, Or.inr (Or.inr ⟨rfl, all⟩)⟩
    | false =>
        obtain ⟨rfl, same⟩ := shows_ret.mp last
        cases same
        exact ⟨List.append_nil _, Or.inr (Or.inl ⟨rfl, all⟩)⟩
  · obtain ⟨rfl, same⟩ := shows_ret.mp rest
    cases same
    exact ⟨List.append_nil _, Or.inl ⟨err, rfl, few⟩⟩

/-- What the `with` statement around a case does. -/
theorem shows_run {args : BenchmarkArgs} {checks : Nat} {case : BenchmarkCase α}
    {containers' : List String} {e : RunnersEnd}
    (shown : Shows runnerMark (manager.run checks (args.runnerConfig case) [] (caseBody case)) os
      (e, containers')) :
    CaseMarks (manager.environment (args.runnerConfig case)) case os e ∧
      (e = .ended → containers' = []) := by
  obtain ⟨os₁, os₂, ⟨begun, containers⟩, rfl, starting, rest⟩ := shows_bind.mp shown
  obtain ⟨rfl, ⟨err, rfl, few⟩ | ⟨rfl, all⟩ | ⟨rfl, all⟩⟩ := shows_startRunners starting
  · obtain ⟨rfl, same⟩ := shows_ret.mp rest
    cases same
    rw [List.append_nil]
    exact ⟨.leaked few err, nofun⟩
  · obtain ⟨rfl, same⟩ := shows_ret.mp rest
    cases same
    rw [List.append_nil]
    exact ⟨.waiting all, nofun⟩
  · obtain ⟨os₃, os₄, raised, rfl, body, behind⟩ := shows_bind.mp rest
    obtain ⟨runs, rfl, fewer, complete⟩ := shows_caseBody body
    obtain ⟨os₅, os₆, _, rfl, stopping, last⟩ := shows_bind.mp behind
    obtain ⟨down, rfl, rfl⟩ := shows_stopContainers stopping
    rw [List.length_map] at all
    cases raised with
    | none =>
        obtain ⟨rfl, same⟩ := shows_ret.mp last
        cases same
        rw [complete rfl, List.append_nil, ← List.append_assoc]
        exact ⟨.ended all, fun _ => rfl⟩
    | some err =>
        obtain ⟨rfl, same⟩ := shows_ret.mp last
        cases same
        rw [List.append_nil, ← List.append_assoc]
        exact ⟨.raised all fewer err, nofun⟩

end Parts

/-! ## Plans -/

section Plans

variable {env : BenchmarkCase α → PyDict} {cases cases' : List (BenchmarkCase α)}
  {ms ms' : List (RunnerMark α)} {e : RunnersEnd}

/-- A plan that has ended, and another after it. -/
theorem PlanMarks.append (first : PlanMarks env cases ms .ended)
    (second : PlanMarks env cases' ms' e) : PlanMarks env (cases ++ cases') (ms ++ ms') e := by
  generalize outcome : RunnersEnd.ended = whole at first
  induction first with
  | ended => exact second
  | raised cases err => cases outcome
  | cut here early => exact absurd outcome.symm early
  | next here later ih =>
      rw [List.append_assoc]
      exact .next here (ih outcome)

/-- A plan that has not ended leaves out what comes after it. -/
theorem PlanMarks.extend (cut : PlanMarks env cases ms e) (early : e ≠ .ended)
    (rest : List (BenchmarkCase α)) : PlanMarks env (cases ++ rest) ms e := by
  induction cut with
  | ended => exact absurd rfl early
  | raised cases err => exact .raised _ err
  | cut here early => exact .cut here early
  | next here later ih => exact .next here (ih early)

variable {manager : RunnerManager} {args : BenchmarkArgs} {checks : Nat}

/-- The cases of a matrix, one after another, each beginning with no containers because `_stop` of
the last one has cleared the list. -/
theorem shows_runCases {containers' : List String}
    (shown : Shows runnerMark (runCases manager args checks cases []) ms (e, containers')) :
    PlanMarks (fun case => manager.environment (args.runnerConfig case)) cases ms e ∧
      (e = .ended → containers' = []) := by
  induction cases generalizing ms with
  | nil =>
      obtain ⟨rfl, same⟩ := shows_ret.mp shown
      cases same
      exact ⟨.ended, fun _ => rfl⟩
  | cons case cases ih =>
      obtain ⟨ms₁, ms₂, ⟨outcome, containers⟩, rfl, first, rest⟩ := shows_bind.mp shown
      obtain ⟨here, cleared⟩ := shows_run first
      cases outcome with
      | ended =>
          obtain rfl := cleared rfl
          obtain ⟨later, cleared⟩ := ih rest
          exact ⟨.next here later, cleared⟩
      | raised err =>
          obtain ⟨rfl, same⟩ := shows_ret.mp rest
          cases same
          rw [List.append_nil]
          exact ⟨.cut here nofun, nofun⟩
      | outOfRounds =>
          obtain ⟨rfl, same⟩ := shows_ret.mp rest
          cases same
          rw [List.append_nil]
          exact ⟨.cut here nofun, nofun⟩

/-- The matrices of a plan, as if their cases stood in one list. -/
theorem shows_runMatrices {plan : List (BenchmarkMatrix α)}
    (shown : Shows runnerMark (runMatrices manager args checks plan []) ms e) :
    PlanMarks (fun case => manager.environment (args.runnerConfig case))
      (plan.flatMap BenchmarkMatrix.cases) ms e := by
  induction plan generalizing ms with
  | nil =>
      obtain ⟨rfl, rfl⟩ := shows_ret.mp shown
      exact .ended
  | cons matrix plan ih =>
      obtain ⟨ms₁, ms₂, ⟨outcome, containers⟩, rfl, first, rest⟩ := shows_bind.mp shown
      obtain ⟨here, cleared⟩ := shows_runCases first
      rw [List.flatMap_cons]
      cases outcome with
      | ended =>
          obtain rfl := cleared rfl
          obtain ⟨reply, ms₃, same, last⟩ := shows_call.mp rest
          obtain rfl : ms₂ = ms₃ := same
          cases reply with
          | error err =>
              obtain ⟨rfl, rfl⟩ := shows_ret.mp last
              exact here.append (.raised _ err)
          | ok _ => exact here.append (ih last)
      | raised err =>
          obtain ⟨rfl, rfl⟩ := shows_ret.mp rest
          rw [List.append_nil]
          exact here.extend nofun _
      | outOfRounds =>
          obtain ⟨rfl, rfl⟩ := shows_ret.mp rest
          rw [List.append_nil]
          exact here.extend nofun _

/-- After the plan `main` only writes files, which leaves no mark of its own. -/
theorem shows_benchmarkMain {plan : List (BenchmarkMatrix α)}
    (shown : Shows runnerMark (benchmarkMain manager args checks plan) ms e) :
    PlanMarks (fun case => manager.environment (args.runnerConfig case))
      (plan.flatMap BenchmarkMatrix.cases) ms e := by
  obtain ⟨ms₁, ms₂, outcome, rfl, first, rest⟩ := shows_bind.mp shown
  have here := shows_runMatrices first
  cases outcome with
  | ended =>
      obtain ⟨reply, ms₃, same, last⟩ := shows_call.mp rest
      obtain rfl : ms₂ = ms₃ := same
      cases reply with
      | error err =>
          obtain ⟨rfl, rfl⟩ := shows_ret.mp last
          have raised := here.append (.raised [] err)
          rw [List.append_nil] at raised
          exact raised
      | ok _ =>
          obtain ⟨rfl, rfl⟩ := shows_ret.mp last
          rw [List.append_nil]
          exact here
  | raised err =>
      obtain ⟨rfl, rfl⟩ := shows_ret.mp rest
      rw [List.append_nil]
      exact here
  | outOfRounds =>
      obtain ⟨rfl, rfl⟩ := shows_ret.mp rest
      rw [List.append_nil]
      exact here

end Plans

/-! ## Containers that are left -/

def startedRunner : RunnerMark α → Option String
  | .started id _ => some id
  | _ => none

/-- Containers that are to be stopped. -/
def stopRunner : RunnerMark α → Option String
  | .stop id _ => some id
  | _ => none

/-- Containers that are to be removed. -/
def removeRunner : RunnerMark α → Option String
  | .remove id _ => some id
  | _ => none

def removedRunner : RunnerMark α → Option String
  | .remove id true => some id
  | _ => none

/-- Containers whose removal the daemon refuses. -/
def refusedRunner : RunnerMark α → Option String
  | .remove id false => some id
  | _ => none

section Left

variable {env : PyDict} {ids : List String} {case : BenchmarkCase α} {first runs : Nat}

/-- What is read off the starts depends on the containers alone, since all of them get the same
environment. -/
@[simp] theorem filterMap_starts (f : RunnerMark α → Option String) :
    (starts env ids).filterMap f = ids.filterMap fun id => f (.started id env) := by
  unfold starts
  rw [List.filterMap_map]
  rfl

/-- Runs are no containers. -/
theorem filterMap_measures {f : RunnerMark α → Option String}
    (silent : ∀ runNum, f (.measured case runNum) = none) :
    (measures case first runs).filterMap f = [] := by
  unfold measures
  rw [List.filterMap_map, List.filterMap_eq_nil_iff]
  exact fun runNum _ => silent runNum

theorem filterMap_teardown (down : List (String × Bool × Bool)) :
    (teardown (α := α) down).filterMap startedRunner = [] ∧
      (teardown (α := α) down).filterMap stopRunner = down.map Prod.fst ∧
      (teardown (α := α) down).filterMap removeRunner = down.map Prod.fst := by
  induction down with
  | nil => exact ⟨rfl, rfl, rfl⟩
  | cons container down ih =>
      exact ⟨ih.1, congrArg (container.1 :: ·) ih.2.1, congrArg (container.1 :: ·) ih.2.2⟩

/-- What is to be stopped is to be removed, and what is started is to be removed or left. -/
structure Leaves (ms : List (RunnerMark α)) (left : List String) : Prop where
  stopped : ms.filterMap stopRunner = ms.filterMap removeRunner
  started : ms.filterMap startedRunner = ms.filterMap removeRunner ++ left

/-- What a case leaves behind is left behind by the whole plan, when the cases before it left
nothing. -/
theorem Leaves.append {ms ms' : List (RunnerMark α)} {left : List String} (first : Leaves ms [])
    (second : Leaves ms' left) : Leaves (ms ++ ms') left := by
  refine ⟨?_, ?_⟩
  · rw [List.filterMap_append, List.filterMap_append, first.stopped, second.stopped]
  · rw [List.filterMap_append, List.filterMap_append, first.started, second.started,
      List.append_nil, List.append_assoc]

/-- A removal succeeds or is refused. -/
theorem removeRunner_perm (ms : List (RunnerMark α)) :
    (ms.filterMap removeRunner).Perm (ms.filterMap removedRunner ++ ms.filterMap refusedRunner) := by
  induction ms with
  | nil => exact .nil
  | cons m ms ih =>
      cases m with
      | remove id removed =>
          cases removed with
          | true => exact ih.cons id
          | false => exact (ih.cons id).trans List.perm_middle.symm
      | _ => exact ih

/-- What is started is removed, or its removal is refused, or it is left. -/
theorem Leaves.remaining {ms : List (RunnerMark α)} {left : List String} (leaves : Leaves ms left) :
    (ms.filterMap startedRunner).Perm
      (ms.filterMap removedRunner ++ (ms.filterMap refusedRunner ++ left)) := by
  rw [leaves.started, ← List.append_assoc]
  exact (removeRunner_perm ms).append_right left

theorem leaves_starts : Leaves (starts (α := α) env ids) ids := by
  refine ⟨?_, ?_⟩ <;> simp [startedRunner, stopRunner, removeRunner]

/-- A case that is torn down leaves nothing that was not asked to be removed, whatever the daemon
made of it. -/
theorem leaves_nothing (down : List (String × Bool × Bool)) :
    Leaves (starts (α := α) env (down.map Prod.fst) ++ measures case 1 runs ++ teardown down) [] := by
  obtain ⟨started, stopped, removed⟩ := @filterMap_teardown α down
  have measured : ∀ f : RunnerMark α → Option String, (∀ runNum, f (.measured case runNum) = none) →
      (measures case 1 runs).filterMap f = [] := fun f silent => filterMap_measures silent
  refine ⟨?_, ?_⟩
  · rw [List.filterMap_append, List.filterMap_append, List.filterMap_append, List.filterMap_append,
      measured stopRunner fun _ => rfl, measured removeRunner fun _ => rfl, stopped, removed]
    simp [stopRunner, removeRunner]
  · rw [List.filterMap_append, List.filterMap_append, List.filterMap_append, List.filterMap_append,
      measured startedRunner fun _ => rfl, measured removeRunner fun _ => rfl, started, removed]
    simp [startedRunner, removeRunner]

/-- Only a start that does not succeed leaves containers that are not to be removed, and these are
fewer than the case needs. -/
theorem CaseMarks.leaves {ms : List (RunnerMark α)} {e : RunnersEnd}
    (marks : CaseMarks env case ms e) :
    ∃ left, Leaves ms left ∧ (e = .ended → left = []) ∧
      (e ≠ .outOfRounds → left ≠ [] → left.length < case.runnerReplicas) := by
  cases marks with
  | leaked few err => exact ⟨_, leaves_starts, nofun, fun _ _ => few⟩
  | waiting all => exact ⟨_, leaves_starts, nofun, fun timely => absurd rfl timely⟩
  | raised all begun err => exact ⟨[], leaves_nothing _, nofun, fun _ some => absurd rfl some⟩
  | ended all => exact ⟨[], leaves_nothing _, fun _ => rfl, fun _ some => absurd rfl some⟩

/-- Over a whole plan: what is left behind is of one case, the one whose `_start` raised, and this
case has started fewer than it needs. -/
theorem PlanMarks.leaves {env : BenchmarkCase α → PyDict} {cases : List (BenchmarkCase α)}
    {ms : List (RunnerMark α)} {e : RunnersEnd} (marks : PlanMarks env cases ms e) :
    ∃ left, Leaves ms left ∧ (e = .ended → left = []) ∧
      (e ≠ .outOfRounds → left ≠ [] → ∃ case ∈ cases, left.length < case.runnerReplicas) := by
  induction marks with
  | ended => exact ⟨[], ⟨rfl, rfl⟩, fun _ => rfl, fun _ some => absurd rfl some⟩
  | raised cases err => exact ⟨[], ⟨rfl, rfl⟩, nofun, fun _ some => absurd rfl some⟩
  | cut here early =>
      obtain ⟨left, leaves, -, few⟩ := here.leaves
      exact ⟨left, leaves, fun ended => absurd ended early,
        fun timely some => ⟨_, List.mem_cons_self, few timely some⟩⟩
  | next here later ih =>
      obtain ⟨none, first, cleared, -⟩ := here.leaves
      obtain rfl := cleared rfl
      obtain ⟨left, second, ended, few⟩ := ih
      refine ⟨left, first.append second, ended, fun timely some => ?_⟩
      obtain ⟨case, member, fewer⟩ := few timely some
      exact ⟨case, List.mem_cons_of_mem _ member, fewer⟩

/-- A container is given the environment of its case. -/
theorem CaseMarks.given {ms : List (RunnerMark α)} {e : RunnersEnd} {id : String} {given : PyDict}
    (marks : CaseMarks env case ms e) (member : .started id given ∈ ms) : given = env := by
  have here : ∀ {ids}, .started id given ∈ starts (α := α) env ids → given = env := by
    intro ids there
    obtain ⟨_, -, same⟩ := List.mem_map.mp there
    cases same
    rfl
  have nowhere : ∀ {ids runs down},
      .started id given ∈ starts env ids ++ measures case 1 runs ++ teardown down → given = env := by
    intro ids runs down there
    rcases List.mem_append.mp there with there | torn
    · rcases List.mem_append.mp there with there | measured
      · exact here there
      · obtain ⟨_, -, same⟩ := List.mem_map.mp measured
        cases same
    · obtain ⟨_, -, there⟩ := List.mem_flatMap.mp torn
      simp at there
  cases marks with
  | leaked few err => exact here member
  | waiting all => exact here member
  | raised all begun err => exact nowhere member
  | ended all => exact nowhere member

/-- Every container gets the environment of its case, not that of one before it. -/
theorem PlanMarks.given {env : BenchmarkCase α → PyDict} {cases : List (BenchmarkCase α)}
    {ms : List (RunnerMark α)} {e : RunnersEnd} {id : String} {given : PyDict}
    (marks : PlanMarks env cases ms e) (member : .started id given ∈ ms) :
    ∃ case ∈ cases, given = env case := by
  induction marks with
  | ended => cases member
  | raised cases err => cases member
  | cut here early => exact ⟨_, List.mem_cons_self, here.given member⟩
  | next here later ih =>
      rcases List.mem_append.mp member with first | second
      · exact ⟨_, List.mem_cons_self, here.given first⟩
      · obtain ⟨case, there, same⟩ := ih second
        exact ⟨case, List.mem_cons_of_mem _ there, same⟩

end Left

/-! ## Time -/

/-- Time passes, and no sleep is too short. -/
def ticking : Contract (Runners α) Rat where
  obliges _ _ := True
  allows
    | now, .time, r => now ≤ r
    | _, _, _ => True
  next
    | _, .time, r => r
    | now, .sleep seconds, _ => now + seconds
    | now, _, _ => now

section Time

variable {manager : RunnerManager} {now : Rat}

/-- Looking at a container takes no time on this clock, whatever the daemon replies. -/
theorem meets_isContainerHealthy (container : String) :
    (RunnerManager.isContainerHealthy (α := α) container).Meets ticking now
      fun _ later => later = now := by
  refine ⟨trivial, fun reply _ => ?_⟩
  cases reply with
  | error err => rfl
  | ok state =>
      obtain ⟨health, running⟩ := state
      cases health <;> rfl

theorem meets_allHealthy (containers : List String) :
    (RunnerManager.allHealthy (α := α) containers).Meets ticking now
      fun _ later => later = now := by
  induction containers with
  | nil => rfl
  | cons container containers ih =>
      refine (meets_isContainerHealthy container).bind ?_
      rintro healthy _ rfl
      cases healthy with
      | true => exact ih
      | false => rfl

/-- A second is slept in every round. -/
theorem meets_waitForStartup (containers : List String) {deadline : Rat} {seconds checks : Nat}
    (reached : deadline ≤ now + seconds) (enough : seconds < checks) :
    (manager.waitLoop (α := α) containers deadline checks).Meets ticking now
      fun ended _ => ended = true := by
  induction checks generalizing seconds now with
  | zero => exact absurd enough (Nat.not_lt_zero _)
  | succ checks ih =>
      unfold RunnerManager.waitLoop
      refine ⟨trivial, fun time later => ?_⟩
      have later : now ≤ time := later
      show Proc.Meets ticking (if deadline ≤ time then _ else _) time _
      split
      · rfl
      · next early =>
          refine (meets_allHealthy containers).bind ?_
          rintro healthy _ rfl
          cases healthy with
          | true => exact ⟨trivial, fun _ _ => rfl⟩
          | false =>
              cases seconds with
              | zero =>
                  rw [Nat.cast_zero, add_zero] at reached
                  exact absurd (reached.trans later) early
              | succ seconds =>
                  refine ⟨trivial, fun _ _ => ih ?_ (Nat.lt_of_succ_lt_succ enough)⟩
                  rw [Nat.cast_succ] at reached
                  show deadline ≤ _ + 1 + (seconds : Rat)
                  linarith

variable {args : BenchmarkArgs} {checks : Nat}

/-- Enough rounds for the grace of the startup. -/
def RunnerManager.Enough (manager : RunnerManager) (checks : Nat) : Prop :=
  ∃ seconds : Nat, manager.startupGraceSeconds ≤ seconds ∧ seconds < checks

/-- With enough rounds allowed for, the wait ends by the deadline at the latest, since every round
sleeps. -/
theorem meets_start (enough : manager.Enough checks) (config : RunnerConfig)
    (containers : List String) :
    (manager.start (α := α) checks config containers).Meets ticking now
      fun r _ => r.1 ≠ .outOfRounds := by
  obtain ⟨seconds, grace, fewer⟩ := enough
  refine (Proc.Meets.any (fun _ _ => trivial) _).bind ?_
  rintro ⟨r, containers⟩ now -
  cases r with
  | some err => exact nofun
  | none =>
      refine ⟨trivial, fun time _ => ?_⟩
      have reached : time + manager.startupGraceSeconds ≤ time + seconds := by linarith
      refine (meets_waitForStartup containers reached fewer).bind ?_
      rintro ended now rfl
      exact nofun

/-- The `with` statement adds nothing that could run out of rounds. -/
theorem meets_runnerManagerRun (enough : manager.Enough checks) (config : RunnerConfig)
    (containers : List String) (body : Proc (Runners α) (Option String)) :
    (manager.run checks config containers body).Meets ticking now
      fun r _ => r.1 ≠ .outOfRounds := by
  refine (meets_start enough config containers).bind ?_
  rintro ⟨e, containers⟩ now timely
  cases e with
  | outOfRounds => exact absurd rfl timely
  | raised err => exact nofun
  | ended =>
      refine (Proc.Meets.any (fun _ _ => trivial) body).bind ?_
      rintro raised now -
      refine (Proc.Meets.any (fun _ _ => trivial) _).bind ?_
      rintro _ now -
      cases raised <;> exact nofun

/-- Nor does the loop over the cases, each of which begins a wait of its own. -/
theorem meets_runCases (enough : manager.Enough checks) (cases : List (BenchmarkCase α))
    (containers : List String) :
    (runCases manager args checks cases containers).Meets ticking now
      fun r _ => r.1 ≠ .outOfRounds := by
  induction cases generalizing containers now with
  | nil => exact nofun
  | cons case cases ih =>
      refine (meets_runnerManagerRun enough _ containers _).bind ?_
      rintro ⟨e, containers⟩ now timely
      cases e with
      | ended => exact ih containers
      | raised err => exact nofun
      | outOfRounds => exact absurd rfl timely

theorem meets_runMatrices (enough : manager.Enough checks) (plan : List (BenchmarkMatrix α))
    (containers : List String) :
    (runMatrices manager args checks plan containers).Meets ticking now
      fun e _ => e ≠ .outOfRounds := by
  induction plan generalizing containers now with
  | nil => exact nofun
  | cons matrix plan ih =>
      refine (meets_runCases enough matrix.cases containers).bind ?_
      rintro ⟨e, containers⟩ now timely
      cases e with
      | outOfRounds => exact absurd rfl timely
      | raised err => exact nofun
      | ended =>
          refine ⟨trivial, fun reply _ => ?_⟩
          cases reply with
          | error err => exact nofun
          | ok _ => exact ih containers

theorem meets_benchmarkMain (enough : manager.Enough checks) (plan : List (BenchmarkMatrix α)) :
    (benchmarkMain manager args checks plan).Meets ticking now fun e _ => e ≠ .outOfRounds := by
  refine (meets_runMatrices enough plan []).bind ?_
  rintro e now timely
  cases e with
  | outOfRounds => exact absurd rfl timely
  | raised err => exact nofun
  | ended =>
      refine ⟨trivial, fun reply _ => ?_⟩
      cases reply <;> exact nofun

end Time

end Program

/-! ## What a runner reads -/

/-- What `os.Getenv` returns in a container: a variable that the container was given, or else that
of its image. -/
def containerEnviron (image : Environ) (given : PyDict) : Environ := fun key =>
  match given.lookup key with
  | some value => lit value
  | none => image key

/-- An empty variable counts as unset. -/
def orDefault (value fallback : String) : GoString :=
  if value = "" then lit fallback else lit value

section Config

variable {d : PyDict} {key value other : String}

/-- Setting a key that a dictionary has replaces its value in place. -/
theorem lookup_map_set :
    (d.map fun entry => if entry.1 = key then (key, value) else entry).lookup other =
      if other = key then (d.lookup key).map fun _ => value else d.lookup other := by
  induction d with
  | nil => simp
  | cons entry d ih =>
      obtain ⟨k, v⟩ := entry
      rw [List.map_cons]
      by_cases here : k = key
      · subst here
        by_cases same : other = k
        · subst same
          simp
        · simp [List.lookup_cons, same, ih, beq_eq_false_iff_ne.mpr same]
      · by_cases same : other = key
        · subst same
          simp [List.lookup_cons, here, ih, beq_eq_false_iff_ne.mpr (Ne.symm here)]
        · simp [List.lookup_cons, here, same, ih]

theorem any_key : (d.any fun entry => entry.1 = key) = (d.lookup key).isSome := by
  induction d with
  | nil => rfl
  | cons entry d ih =>
      obtain ⟨k, v⟩ := entry
      rw [List.any_cons, ih, List.lookup_cons]
      by_cases here : k = key
      · subst here
        simp
      · simp [here, beq_eq_false_iff_ne.mpr (Ne.symm here)]

/-- What is found in a dictionary after a key was set: the new value there, and the old ones
elsewhere. -/
theorem lookup_set : (d.set key value).lookup other =
    if other = key then some value else d.lookup other := by
  unfold PyDict.set
  rw [any_key]
  cases found : d.lookup key with
  | some old =>
      rw [if_pos Option.isSome_some, lookup_map_set, found]
      rfl
  | none =>
      rw [Option.isSome_none, if_neg Bool.false_ne_true, List.lookup_append]
      by_cases same : other = key
      · subst same
        simp [found]
      · simp [List.lookup_cons, same, beq_eq_false_iff_ne.mpr same]

/-- The configuration of `scrc` for a case: the topics are those of the benchmark, and the number of
workers is that of the case. -/
def RunnerManager.appConfig {α : Type} (manager : RunnerManager) (args : BenchmarkArgs)
    (case : BenchmarkCase α) (image : Environ) : AppConfig where
  kafkaBrokers := parseBrokerList (orDefault args.broker "kafka:9092")
  scriptsTopic := orDefault args.scriptTopic "scripts"
  resultsTopic := orDefault args.resultsTopic "script-results"
  groupID := orDefault args.groupId "scrc-runner"
  maxScripts := parseMaxScripts (containerEnviron image manager.baseEnvironment "SCRIPT_EXPECTED")
  maxParallel := max 1 case.runnerParallelism

/-- A variable that the runner is given hides the one of the image, and a fallback is used when it
is empty. -/
theorem envOrDefault_given {image : Environ} {fallback : String} (given : d.lookup key = some value) :
    envOrDefault (containerEnviron image d) key fallback = orDefault value fallback := by
  unfold envOrDefault containerEnviron orDefault
  rw [given]
  by_cases empty : value = ""
  · subst empty
    rfl
  · rw [if_pos (lit_ne_nil empty), if_neg empty]

/-- The variables of the case come before those that all containers are given. -/
theorem lookup_environment {α : Type} (manager : RunnerManager) (args : BenchmarkArgs)
    (case : BenchmarkCase α) (key : String) :
    (manager.environment (args.runnerConfig case)).lookup key =
      if key = "RUNNER_MAX_PARALLEL" then some (toString case.runnerParallelism)
      else if key = "KAFKA_GROUP_ID" then some args.groupId
      else if key = "KAFKA_RESULTS_TOPIC" then some args.resultsTopic
      else if key = "KAFKA_TOPIC" then some args.scriptTopic
      else if key = "KAFKA_BROKERS" then some args.broker
      else manager.baseEnvironment.lookup key := by
  unfold RunnerManager.environment PyDict.update BenchmarkArgs.runnerConfig
  simp only [List.foldl_cons, List.foldl_nil, lookup_set]

/-- The configuration that scrc reads in a container is the one of the case, whatever the image has
set besides; the parallelism is read back as the number that was written. -/
theorem loadAppConfig_runner {α : Type} (manager : RunnerManager) (args : BenchmarkArgs)
    (case : BenchmarkCase α) (image : Environ) (fits : Fits case.runnerParallelism) :
    loadAppConfig (containerEnviron image (manager.environment (args.runnerConfig case))) =
      manager.appConfig args case image := by
  have found := lookup_environment manager args case
  have kept : containerEnviron image (manager.environment (args.runnerConfig case))
      "SCRIPT_EXPECTED" = containerEnviron image manager.baseEnvironment "SCRIPT_EXPECTED" := by
    unfold containerEnviron
    rw [found]
    rfl
  have parallel : containerEnviron image (manager.environment (args.runnerConfig case))
      "RUNNER_MAX_PARALLEL" = intText case.runnerParallelism := by
    unfold containerEnviron
    rw [found]
    rfl
  unfold loadAppConfig RunnerManager.appConfig
  rw [envOrDefault_given (found "KAFKA_BROKERS"), envOrDefault_given (found "KAFKA_TOPIC"),
    envOrDefault_given (found "KAFKA_RESULTS_TOPIC"), envOrDefault_given (found "KAFKA_GROUP_ID"),
    kept, parallel, parseMaxParallel_intText fits]

end Config

/-! ## Every execution -/

/-- **The runners.**  When no sleep is too short, the program ends, and what it does to containers
and for its cases is what `PlanMarks` says, in this order.  What is to be stopped is to be removed.
Whatever is started is removed, or its removal is refused, or it is left without an attempt.
Nothing is left so when the program returns.  Otherwise these are containers of one case, of which
the last could not be started: `__exit__` does not follow an `__enter__` that raises.  In every
container `scrc` reads the configuration of a case of the plan. -/
theorem benchmark_runners {α : Type} (manager : RunnerManager) (args : BenchmarkArgs) (checks : Nat)
    (plan : List (BenchmarkMatrix α)) {t : List (Event (Runners α))} {e : RunnersEnd} {now : Rat}
    (run : Exec (benchmarkMain manager args checks plan) t e) (enough : manager.Enough checks)
    (time : ticking.Allowed now t) :
    e ≠ .outOfRounds ∧
      PlanMarks (fun case => manager.environment (args.runnerConfig case))
        (plan.flatMap BenchmarkMatrix.cases) (t.filterMap runnerMark) e ∧
      (∃ left, Leaves (t.filterMap runnerMark) left ∧
        ((t.filterMap runnerMark).filterMap startedRunner).Perm
          ((t.filterMap runnerMark).filterMap removedRunner ++
            ((t.filterMap runnerMark).filterMap refusedRunner ++ left)) ∧
        (e = .ended → left = []) ∧
        (left ≠ [] →
          ∃ case ∈ plan.flatMap BenchmarkMatrix.cases, left.length < case.runnerReplicas)) ∧
      ∀ id given, .started id given ∈ t.filterMap runnerMark →
        ∃ case ∈ plan.flatMap BenchmarkMatrix.cases,
          given = manager.environment (args.runnerConfig case) ∧
          ∀ image, Fits case.runnerParallelism →
            loadAppConfig (containerEnviron image given) = manager.appConfig args case image := by
  have timely : e ≠ .outOfRounds := ((meets_benchmarkMain enough plan).sound run time).2
  have marks := shows_benchmarkMain ⟨t, run, rfl⟩
  refine ⟨timely, marks, ?_, fun id given started => ?_⟩
  · obtain ⟨left, leaves, returned, few⟩ := marks.leaves
    exact ⟨left, leaves, leaves.remaining, returned, few timely⟩
  · obtain ⟨case, member, rfl⟩ := marks.given started
    exact ⟨case, member, rfl, fun image fits => loadAppConfig_runner manager args case image fits⟩

/-- A case with one runner, and then one with two. -/
def threeRunners : BenchmarkMatrix Int :=
  ⟨"runners", [pythonCase, { pythonCase with runnerReplicas := 2 }]⟩

def oneNetwork : RunnerManager := ⟨"scrc", [("SCRIPT_EXPECTED", "3")], ["kafka"], none, 5, 20⟩

def benchmarkArgs : BenchmarkArgs := ⟨"kafka:9092", "scripts", "script-results", "scrc-runner"⟩

/-- Two containers can be started and none removed; time passes only while the program sleeps. -/
def roomForTwo (past : List (Event (Runners Int))) : (c : RunnersCall Int) → RunnersReply c
  | .time => ticking.after 0 past
  | .sleep _ => ()
  | .runContainer _ =>
      match (past.filterMap runnerMark).filterMap startedRunner with
      | [] => .ok "first"
      | [_] => .ok "second"
      | _ => .error "no space"
  | .connect _ _ => .ok ()
  | .reload _ => .ok ⟨none, true⟩
  | .stop _ => .ok ()
  | .remove _ => .error "in use"
  | .measureRun _ _ => .ok ()
  | .aggregate _ => .ok ()
  | .renderMatrixCharts _ => .ok ()
  | .writeManifest => .ok ()

theorem roomForTwo_allowed (past : List (Event (Runners Int))) (c : RunnersCall Int) :
    ticking.allows (ticking.after 0 past) c (roomForTwo past c) := by
  cases c with
  | time => exact le_refl (ticking.after 0 past)
  | _ => trivial

/-- The first container is not removed, and the second one is left when the third cannot be
started. -/
theorem benchmark_runners_three :
    ∃ t : List (Event (Runners Int)),
      Exec (benchmarkMain oneNetwork benchmarkArgs 21 [threeRunners]) t (.raised "no space") ∧
      ticking.Allowed 0 t ∧ Leaves (t.filterMap runnerMark) ["second"] ∧
      (t.filterMap runnerMark).filterMap refusedRunner = ["first"] ∧
      ∃ given, .started "second" given ∈ t.filterMap runnerMark ∧
        (loadAppConfig (containerEnviron (fun _ => []) given)).maxParallel = 1 := by
  let whole := (benchmarkMain oneNetwork benchmarkArgs 21 [threeRunners]).answered roomForTwo []
  have run : Exec (benchmarkMain oneNetwork benchmarkArgs 21 [threeRunners]) whole.1 whole.2 :=
    exec_answered _ _ _
  have outcome : whole.2 = .raised "no space" := by decide +kernel
  have time : ticking.Allowed 0 whole.1 :=
    Proc.answered_allowed (s := (0 : Rat)) roomForTwo_allowed _ []
  have started : (whole.1.filterMap runnerMark).filterMap startedRunner = ["first", "second"] := by
    decide +kernel
  have removal : (whole.1.filterMap runnerMark).filterMap removeRunner = ["first"] := by
    decide +kernel
  obtain ⟨-, -, ⟨left, leaves, -, -, -⟩, configured⟩ :=
    benchmark_runners oneNetwork benchmarkArgs 21 [threeRunners] run ⟨20, le_refl _, by decide⟩ time
  have rest := leaves.started
  rw [started, removal] at rest
  obtain rfl : ["second"] = left := (List.cons.inj rest).2
  have second : "second" ∈ (whole.1.filterMap runnerMark).filterMap startedRunner := by
    rw [started]
    exact List.mem_cons_of_mem _ List.mem_cons_self
  obtain ⟨m, there, same⟩ := List.mem_filterMap.mp second
  cases m with
  | started id given =>
      cases same
      obtain ⟨case, member, -, reads⟩ := configured "second" given there
      have parallel : ∀ case ∈ [threeRunners].flatMap BenchmarkMatrix.cases,
          case.runnerParallelism = 1 := by decide
      rw [outcome] at run
      refine ⟨whole.1, run, time, leaves, by decide +kernel, given, there, ?_⟩
      rw [reads _ (by rw [parallel case member]; decide)]
      unfold RunnerManager.appConfig
      rw [parallel case member]
      rfl
  | measured => cases same
  | stop => cases same
  | remove => cases same

end Scrc
