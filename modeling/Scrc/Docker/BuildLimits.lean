import Scrc.Docker.EnforcedLimits

/-!
# The limits of a build

The compiled languages build a script in a container without a time limit, but with the memory limit
that the program is to have.  So two scripts that differ in their limits are the same build when
their effective memory limits are equal, and the container of the build tells them apart otherwise.

* `alike_buildCreated`: after its container is created, a build does not depend on the limits.
* `enforces_prepare`: the build has the effective memory limit, and no deadline.
* `build_limits`: the builds of a script under any two limits.
* `build_limits_oom`: a memory limit of a script that fails its compilation.
-/

namespace Scrc

open Interaction

namespace CompiledLanguage

variable {spec : CompiledLanguage} {lang : LanguageRuntime}

/-! ## Outcomes of one build -/

/-- The outcomes of one build under two limits: the same failure, or scripts that run the same
artifact, each under limits of its own. -/
inductive SameOutcome (spec : CompiledLanguage) (lang : LanguageRuntime)
    (runLimits runLimits' : RunLimits) : PrepareOutcome Docker → PrepareOutcome Docker → Prop
  | unprepared {o : PrepareOutcome Docker} : o.prepared = none →
      SameOutcome spec lang runLimits runLimits' o o
  | prepared (binary : GoString) : SameOutcome spec lang runLimits runLimits'
      { prepared := some ⟨spec.preparedRun lang binary runLimits, .ret ()⟩ }
      { prepared := some ⟨spec.preparedRun lang binary runLimits', .ret ()⟩ }

variable {runLimits runLimits' : RunLimits} {id : GoString}

theorem alike_extract {buildResult : Result} :
    (spec.extract lang runLimits id buildResult).Alike (SameOutcome spec lang runLimits runLimits')
      (spec.extract lang runLimits' id buildResult) := by
  unfold extract
  by_cases failed : buildResult.status ≠ .ok ∨ buildResult.exitCode ≠ 0
  · rw [if_pos failed, if_pos failed]
    exact .ret (.unprepared rfl)
  · rw [if_neg failed, if_neg failed]
    apply Proc.Alike.after
    intro r
    cases r with
    | error err => exact .ret (.unprepared rfl)
    | ok binary => exact .ret (.prepared binary)

/-- The limits of a build with this memory limit. -/
def buildLimits (memory : Int64) : RunLimits := ⟨0, memory⟩

theorem alike_buildStarted {memory memory' start : Int64} :
    (spec.buildStarted lang runLimits (buildLimits memory) id start).Alike
      (SameOutcome spec lang runLimits runLimits')
      (spec.buildStarted lang runLimits' (buildLimits memory') id start) := by
  unfold buildStarted
  -- the wait looks at the time limit alone
  have same : awaitExit (buildLimits memory') id = awaitExit (buildLimits memory) id := rfl
  rw [same]
  apply Proc.Alike.after
  intro r
  cases r with
  | failed err => exact .ret (.unprepared rfl)
  | timeLimit =>
      apply Proc.Alike.after
      intro o
      cases o.err with
      | some err => exact .ret (.unprepared rfl)
      | none => exact .ret (.unprepared rfl)
  | exited status =>
      apply Proc.Alike.after
      intro r
      cases r with
      | error err => exact .ret (.unprepared rfl)
      | ok buildResult => exact alike_extract

theorem alike_buildCreated {script : Script} {limits limits' : RunLimits} {memory memory' : Int64} :
    (spec.buildCreated lang { script with limits := limits } runLimits (buildLimits memory)
        id).Alike
      (SameOutcome spec lang runLimits runLimits')
      (spec.buildCreated lang { script with limits := limits' } runLimits' (buildLimits memory')
        id) := by
  unfold buildCreated
  apply Proc.Alike.after
  intro r
  cases r with
  | error err => exact .ret (.unprepared rfl)
  | ok =>
      apply Proc.Alike.after
      intro start
      apply Proc.Alike.after
      intro r
      cases r with
      | error err => exact .ret (.unprepared rfl)
      | ok => exact alike_buildStarted

/-! ## The container of a build -/

/-- What a build does with the reply to the creation of its container. -/
def buildAfter (spec : CompiledLanguage) (lang : LanguageRuntime) (script : Script)
    (runLimits : RunLimits) : Except GoError GoString → Proc Docker (PrepareOutcome Docker)
  | .error err => .ret (.failed (.wrap "create container" err))
  | .ok id => Proc.deferring (cleanup id)
      (spec.buildCreated lang script runLimits (buildLimits runLimits.memoryLimitBytes) id)

/-- The creation of the container of a build with this memory limit. -/
def buildCreate (spec : CompiledLanguage) (lang : LanguageRuntime) (memory : Int64) : DockerCall :=
  .containerCreate .caller (containerConfig lang spec.buildCmd false lang.config.image)
    (hostConfig (buildLimits memory))

/-- A build starts with the creation of its container, under the memory limit of the script and no
other; what comes after it is `buildAfter`. -/
theorem prepare_eq (spec : CompiledLanguage) (script : Script)
    (effective : lang.engine.effectiveLimits script.limits = runLimits) :
    spec.prepare lang script =
      .call (spec.buildCreate lang runLimits.memoryLimitBytes)
        (spec.buildAfter lang script runLimits) := by
  unfold prepare createContainer createContainerWithImage
  rw [effective]
  refine congrArg (Proc.call _) (funext fun r => ?_)
  cases r with
  | error err => rfl
  | ok id => rfl

theorem alike_buildAfter {script : Script} {limits limits' : RunLimits}
    (r : Except GoError GoString) :
    (spec.buildAfter lang { script with limits := limits } runLimits r).Alike
      (SameOutcome spec lang runLimits runLimits')
      (spec.buildAfter lang { script with limits := limits' } runLimits' r) := by
  cases r with
  | error err => exact .ret (.unprepared rfl)
  | ok id => exact alike_buildCreated.deferring

/-! ## What a build enforces -/

theorem enforces_copyFileFromContainer {limits : RunLimits} {stopped : Bool} {path : GoString} :
    Enforces limits stopped (copyFileFromContainer id path) fun _ s => s = stopped := by
  unfold copyFileFromContainer
  refine enforces_ask trivial fun r => ?_
  cases r with
  | error err => rfl
  | ok entries => rfl

theorem enforces_extract {limits : RunLimits} {stopped : Bool} {buildResult : Result} :
    Enforces limits stopped (spec.extract lang runLimits id buildResult) fun _ _ => True := by
  unfold extract
  split
  · trivial
  · apply enforces_copyFileFromContainer.bind
    intro r s _
    cases r with
    | error err => trivial
    | ok binary => trivial

/-- A build has no deadline to miss: its limits have no time in them, so that the wait is under the
caller's context alone. -/
theorem enforces_buildStarted {memory start : Int64} :
    Enforces (buildLimits memory) false
      (spec.buildStarted lang runLimits (buildLimits memory) id start) fun _ _ => True := by
  unfold buildStarted
  apply enforces_awaitExit.bind
  intro r s reached
  rcases reached with ⟨running, expired⟩
  subst running
  cases r with
  | failed err => trivial
  | timeLimit => exact absurd (expired rfl) (Int64.lt_irrefl (a := 0))
  | exited status =>
      apply (enforces_asking (asks_collectResult id start status)).bind
      intro r s _
      cases r with
      | error err => trivial
      | ok buildResult => exact enforces_extract

theorem enforces_buildCreated {script : Script} {memory : Int64} :
    Enforces (buildLimits memory) false
      (spec.buildCreated lang script runLimits (buildLimits memory) id) fun _ _ => True := by
  unfold buildCreated
  apply (enforces_asking (asks_copyFiles id _ _)).bind
  intro r s same
  subst same
  cases r with
  | error err => trivial
  | ok =>
      refine enforces_ask trivial fun start => ?_
      refine enforces_ask trivial fun r => ?_
      cases r with
      | error err => trivial
      | ok => exact enforces_buildStarted

theorem enforces_prepare (spec : CompiledLanguage) (script : Script)
    (effective : lang.engine.effectiveLimits script.limits = runLimits)
    (nonneg : 0 ≤ runLimits.memoryLimitBytes) :
    Enforces (buildLimits runLimits.memoryLimitBytes) false (spec.prepare lang script)
      fun _ _ => True := by
  rw [prepare_eq spec script effective]
  refine ⟨hostConfig_eq nonneg, fun r _ => ?_⟩
  cases r with
  | error err => trivial
  | ok id =>
      exact enforces_buildCreated.deferring fun _ _ _ => enforces_ask trivial fun _ => trivial

/-! ## Builds under two limits -/

/-- Memory limits are told apart by the container of the build. -/
theorem buildCreate_inj {memory memory' : Int64} (nonneg : 0 ≤ memory) (nonneg' : 0 ≤ memory')
    (same : spec.buildCreate lang memory = spec.buildCreate lang memory') : memory = memory' := by
  have asked : ∀ m : Int64, 0 ≤ m → (hostConfig (buildLimits m)).memory = m :=
    fun m nonneg => congrArg HostConfig.memory (hostConfig_eq nonneg)
  injection same with _ _ host
  rw [← asked memory nonneg, ← asked memory' nonneg', host]

/-- The creation of the container of a build, and the reply to it. -/
def buildCreation (spec : CompiledLanguage) (lang : LanguageRuntime) (memory : Int64)
    (r : Except GoError GoString) : Event Docker :=
  ⟨spec.buildCreate lang memory, r⟩

/-- A build creates its container, and goes on with the reply. -/
theorem exec_prepare (spec : CompiledLanguage) (script : Script)
    (effective : lang.engine.effectiveLimits script.limits = runLimits) {t : List (Event Docker)}
    {o : PrepareOutcome Docker} :
    Exec (spec.prepare lang script) t o ↔
      ∃ r rest, t = spec.buildCreation lang runLimits.memoryLimitBytes r :: rest ∧
        Exec (spec.buildAfter lang script runLimits r) rest o := by
  rw [prepare_eq spec script effective]
  exact exec_call

/-- What the build of a script under the first limits does, its build under the second limits does
with the same outcome, in a container with the effective memory limit of the second. -/
theorem prepare_exec {script : Script} {limits limits' : RunLimits} {t : List (Event Docker)}
    {o : PrepareOutcome Docker} (effective : lang.engine.effectiveLimits limits = runLimits)
    (effective' : lang.engine.effectiveLimits limits' = runLimits')
    (run : Exec (spec.prepare lang { script with limits := limits }) t o) :
    ∃ r rest, t = spec.buildCreation lang runLimits.memoryLimitBytes r :: rest ∧
      ∃ o', Exec (spec.prepare lang { script with limits := limits' })
          (spec.buildCreation lang runLimits'.memoryLimitBytes r :: rest) o' ∧
        SameOutcome spec lang runLimits runLimits' o o' := by
  obtain ⟨r, rest, rfl, later⟩ :=
    (spec.exec_prepare { script with limits := limits } effective).mp run
  obtain ⟨o', later', same⟩ := (alike_buildAfter r).exec later
  refine ⟨r, rest, rfl, o', ?_, same⟩
  exact (spec.exec_prepare { script with limits := limits' } effective').mpr ⟨r, rest, rfl, later'⟩

/-- Under limits with one memory limit the builds have the same traces, under others they have
not. -/
theorem sameTraces_iff {script : Script} {limits limits' : RunLimits}
    (effective : lang.engine.effectiveLimits limits = runLimits)
    (effective' : lang.engine.effectiveLimits limits' = runLimits')
    (nonneg : 0 ≤ runLimits.memoryLimitBytes) (nonneg' : 0 ≤ runLimits'.memoryLimitBytes) :
    (spec.prepare lang { script with limits := limits }).SameTraces
        (SameOutcome spec lang runLimits runLimits')
        (spec.prepare lang { script with limits := limits' }) ↔
      runLimits.memoryLimitBytes = runLimits'.memoryLimitBytes := by
  constructor
  · intro same
    -- already a container that cannot be created tells the memory limits apart
    have refused := (spec.exec_prepare { script with limits := limits } effective).mpr
      ⟨.error (.new []), [], rfl, .ret _⟩
    obtain ⟨o, run, -⟩ := (same _).1 _ refused
    obtain ⟨r, rest, created, -⟩ :=
      (spec.exec_prepare { script with limits := limits' } effective').mp run
    have first := (List.cons.inj created).1
    exact buildCreate_inj nonneg nonneg' (congrArg Event.call first)
  · intro same
    rw [spec.prepare_eq { script with limits := limits } effective,
      spec.prepare_eq { script with limits := limits' } effective', same]
    exact Proc.Alike.sameTraces (.call fun r => alike_buildAfter r)

end CompiledLanguage

/-- **Builds and limits.**  The build of a compiled script has the effective memory limit of the
script, and no deadline.  Under other limits the same is done, with the same outcome, in a container
with the effective memory limit of those; the builds are the same exactly when these are equal. -/
theorem build_limits {language : Language} {strategy : LanguageStrategy}
    (registered : strategyForLanguage language = .ok strategy) (compiled : language ≠ .python)
    (lang : LanguageRuntime) {defaults : RunLimits}
    (engine : lang.engine = newContainerEngine defaults) (script : Script)
    (limits limits' : RunLimits) :
    ∃ spec : CompiledLanguage, strategy = spec.prepare ∧
      let runLimits := (newContainerEngine defaults).effectiveLimits limits
      let runLimits' := (newContainerEngine defaults).effectiveLimits limits'
      (∀ t o, Exec (strategy lang { script with limits := limits }) t o →
        (enforcing (CompiledLanguage.buildLimits runLimits.memoryLimitBytes)).Obeyed false t ∧
        ∃ r rest, t = spec.buildCreation lang runLimits.memoryLimitBytes r :: rest ∧
          ∃ o', Exec (strategy lang { script with limits := limits' })
              (spec.buildCreation lang runLimits'.memoryLimitBytes r :: rest) o' ∧
            spec.SameOutcome lang runLimits runLimits' o o') ∧
      ((strategy lang { script with limits := limits }).SameTraces
          (spec.SameOutcome lang runLimits runLimits')
          (strategy lang { script with limits := limits' }) ↔
        runLimits.memoryLimitBytes = runLimits'.memoryLimitBytes) := by
  obtain ⟨spec, rfl⟩ := strategyForLanguage_compiled registered compiled
  have effective : ∀ l, lang.engine.effectiveLimits l =
      (newContainerEngine defaults).effectiveLimits l := fun l => by rw [engine]
  have nonneg : ∀ l, 0 ≤ ((newContainerEngine defaults).effectiveLimits l).memoryLimitBytes :=
    fun l => (mergedLimits_effectiveLimits defaults l).memory_nonneg
  refine ⟨spec, rfl, fun t o run => ⟨?_, ?_⟩, ?_⟩
  · have enforced :=
      spec.enforces_prepare { script with limits := limits } (effective limits) (nonneg limits)
    exact (enforced.sound run (Contract.allowed_of_all (fun _ _ _ => trivial) t)).1
  · exact CompiledLanguage.prepare_exec (effective limits) (effective limits') run
  · exact CompiledLanguage.sameTraces_iff (effective limits) (effective limits') (nonneg limits)
      (nonneg limits')

/-- The runtime of C in `cConfig`. -/
def cRuntime : LanguageRuntime where
  language := .c
  config := ⟨"gcc:13", "gcc:13", "/tmp"⟩
  engine := newContainerEngine cConfig.defaultLimits

/-- Two scripts in C with time limits of their own are one build. -/
theorem build_limits_c : ∃ spec : CompiledLanguage, cStrategy.prepare = spec.prepare ∧
    (cStrategy.prepare cRuntime { printTime with limits := ⟨2 * Duration.second, 0⟩ }).SameTraces
      (spec.SameOutcome cRuntime ⟨2 * Duration.second, 0⟩ ⟨5 * Duration.second, 0⟩)
      (cStrategy.prepare cRuntime { printTime with limits := ⟨5 * Duration.second, 0⟩ }) := by
  have registered : strategyForLanguage .c = .ok cStrategy.prepare := rfl
  obtain ⟨spec, same, builds⟩ := build_limits registered (by decide) cRuntime rfl printTime
    ⟨2 * Duration.second, 0⟩ ⟨5 * Duration.second, 0⟩
  exact ⟨spec, same, builds.2.mpr rfl⟩

/-- Programs that print their stdin, from a compiler that is killed for its memory in a container
with less than 64 MiB. -/
def hungry : Behaviour :=
  { echo with oomKilled := fun w => 0 < w.host.memory ∧ w.host.memory < 67108864 }

/-- What becomes of the script on that daemon, under a memory limit. -/
def hungryBuild (memory : Int64) : PrepareOutcome Docker :=
  ((cStrategy.prepare cRuntime { printTime with limits := ⟨0, memory⟩ }).answered
    (hungry.serve (leaves [])) []).2

/-- With a memory limit of 16 MiB for the program, a build is another one, and one that fails where
the build without that limit does not. -/
theorem build_limits_oom :
    ¬ (cStrategy.prepare cRuntime { printTime with limits := ⟨0, 0⟩ }).SameTraces
        (cStrategy.SameOutcome cRuntime ⟨0, 0⟩ ⟨0, 16777216⟩)
        (cStrategy.prepare cRuntime { printTime with limits := ⟨0, 16777216⟩ }) ∧
      (hungryBuild 0).prepared.isSome ∧
      (hungryBuild 16777216).result.map Result.status = some .buildFail := by
  refine ⟨fun same => ?_, by decide +kernel, by decide +kernel⟩
  have equal := (CompiledLanguage.sameTraces_iff rfl rfl (by decide) (by decide)).mp same
  exact absurd equal (by decide)

end Scrc
