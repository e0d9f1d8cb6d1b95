import Scrc.Docker.Isolation
import Scrc.Docker.TimeLimit

/-!
# The limits that are enforced

Python keeps the limits of the script and merges them with the defaults at every run, the compiled
languages keep limits that are merged already and merge them once more.  Merging absorbs its own
result, so every run of a script is made under the same limits, whatever its language.

* `effectiveLimits_eq`, `effectiveLimits_idem`: merging, and merging again.
* `enforces_runProgram`: the memory and the deadline that a run asks Docker for.
* `same_limits_in_all_languages`: every run of every prepared script.
-/

namespace Scrc

open Interaction

/-! ## Merging -/

/-- The requested value when it is positive, else the default, a negative one being none. -/
def requestedOr (default request : Int64) : Int64 :=
  if 0 < request then request else if default < 0 then 0 else default

theorem requestedOr_nonneg (default request : Int64) : 0 ≤ requestedOr default request := by
  unfold requestedOr
  by_cases positive : 0 < request
  · rw [if_pos positive]
    exact Int64.le_of_lt positive
  · rw [if_neg positive]
    by_cases negative : default < 0
    · rw [if_pos negative]
      decide
    · rw [if_neg negative]
      exact Int64.not_lt.mp negative

/-- A value that is asked for again is granted, and zero falls back to the same default. -/
theorem requestedOr_idem (default request : Int64) :
    requestedOr default (requestedOr default request) = requestedOr default request := by
  have nonneg := requestedOr_nonneg default request
  by_cases positive : 0 < requestedOr default request
  · exact if_pos positive
  · have unset : requestedOr default request = 0 :=
      Int64.le_antisymm (Int64.not_lt.mp positive) nonneg
    have unrequested : ¬ 0 < request := by
      intro requested
      have granted : requestedOr default request = request := if_pos requested
      rw [unset] at granted
      rw [← granted] at requested
      exact absurd requested (by decide)
    have fallback : requestedOr default request = if default < 0 then 0 else default :=
      if_neg unrequested
    rw [unset] at fallback ⊢
    exact (if_neg (by decide)).trans fallback.symm

/-- Merging with the defaults of a configuration, limit by limit: what is requested where it is
positive, and the default where it is not. -/
theorem effectiveLimits_eq (defaults request : RunLimits) :
    (newContainerEngine defaults).effectiveLimits request =
      ⟨requestedOr defaults.timeLimit request.timeLimit,
        requestedOr defaults.memoryLimitBytes request.memoryLimitBytes⟩ := by
  have merged : ∀ default request : Int64,
      (if (if request < 0 then 0 else request) > 0 then if request < 0 then 0 else request
        else if default < 0 then 0 else default) = requestedOr default request := by
    intro default request
    unfold requestedOr
    by_cases negative : request < 0
    · have positive : ¬ 0 < request := Int64.not_lt.mpr (Int64.le_of_lt negative)
      rw [if_pos negative, if_neg positive, if_neg (by decide)]
    · rw [if_neg negative]
  exact congrArg₂ RunLimits.mk (merged _ _) (merged _ _)

theorem effectiveLimits_idem (defaults request : RunLimits) :
    (newContainerEngine defaults).effectiveLimits
      ((newContainerEngine defaults).effectiveLimits request) =
        (newContainerEngine defaults).effectiveLimits request := by
  simp only [effectiveLimits_eq, requestedOr_idem]

/-- Limits made of requested ones and defaults: each is requested when it is positive there, else it
is the default, and none is negative. -/
structure MergedLimits (defaults request limits : RunLimits) : Prop where
  time_nonneg : 0 ≤ limits.timeLimit
  memory_nonneg : 0 ≤ limits.memoryLimitBytes
  time_requested : 0 < request.timeLimit → limits.timeLimit = request.timeLimit
  time_default : ¬ 0 < request.timeLimit →
    limits.timeLimit = (normalizeLimits defaults).timeLimit
  memory_requested : 0 < request.memoryLimitBytes →
    limits.memoryLimitBytes = request.memoryLimitBytes
  memory_default : ¬ 0 < request.memoryLimitBytes →
    limits.memoryLimitBytes = (normalizeLimits defaults).memoryLimitBytes

theorem mergedLimits_effectiveLimits (defaults request : RunLimits) :
    MergedLimits defaults request ((newContainerEngine defaults).effectiveLimits request) := by
  rw [effectiveLimits_eq]
  exact {
    time_nonneg := requestedOr_nonneg _ _
    memory_nonneg := requestedOr_nonneg _ _
    time_requested := fun positive => if_pos positive
    time_default := fun unset => if_neg unset
    memory_requested := fun positive => if_pos positive
    memory_default := fun unset => if_neg unset }

/-! ## One run -/

/-- A container gets one CPU, and its memory and swap are limited to the memory limit; zero is no
limit. -/
theorem hostConfig_eq {limits : RunLimits} (nonneg : 0 ≤ limits.memoryLimitBytes) :
    hostConfig limits = ⟨1000000000, limits.memoryLimitBytes, limits.memoryLimitBytes⟩ := by
  unfold hostConfig
  by_cases positive : limits.memoryLimitBytes > 0
  · rw [if_pos positive]
  · have none : limits.memoryLimitBytes = 0 := Int64.le_antisymm (Int64.not_lt.mp positive) nonneg
    rw [if_neg positive, none]

/-- The context of the wait for a program under a time limit, zero for none. -/
def limitedCtx (timeLimit : Duration) : Ctx :=
  if timeLimit > 0 then .withTimeout .caller timeLimit else .caller

/-- What runs under these limits owe: the memory and the swap of a container are limited to the
memory limit, the wait for it is under a deadline at the time limit, if there is one, and under none
otherwise, and a container is stopped only when there is a time limit.  The state is whether the
container has been stopped. -/
def enforcing (limits : RunLimits) : Contract Docker Bool where
  obliges stopped
    | .containerCreate _ _ host =>
        host = ⟨1000000000, limits.memoryLimitBytes, limits.memoryLimitBytes⟩
    | .withTimeout ctx timeout => ctx = .caller → timeout = limits.timeLimit ∧ 0 < timeout
    | .containerWait ctx _ => ctx = if stopped then stopWaitCtx else limitedCtx limits.timeLimit
    | .containerStop _ _ => 0 < limits.timeLimit
    | _ => True
  allows _ _ _ := True
  next stopped
    | .containerStop _ _, _ => true
    | _, _ => stopped

section Enforces

variable {limits : RunLimits} {id : GoString} {start : Int64}

/-- From a container that is not stopped, or stopped, the program enforces the limits. -/
abbrev Enforces {α : Type} (limits : RunLimits) (stopped : Bool) (p : Proc Docker α)
    (Q : α → Bool → Prop) : Prop :=
  p.Meets (enforcing limits) stopped Q

theorem enforces_ask {α : Type} {stopped : Bool} {c : DockerCall}
    {k : DockerReply c → Proc Docker α} {Q : α → Bool → Prop}
    (owed : (enforcing limits).obliges stopped c)
    (next : ∀ r, Enforces limits ((enforcing limits).next stopped c r) (k r) Q) :
    Enforces limits stopped (ask c >>= k) Q :=
  ⟨owed, fun r _ => next r⟩

/-- The parts of a run that only ask have nothing to enforce. -/
theorem enforces_asking {α : Type} {stopped : Bool} {p : Proc Docker α} (asking : Asks p) :
    Enforces limits stopped p fun _ s => s = stopped := by
  have kept : Enforces limits stopped p fun _ s => True ∧ s = stopped := by
    refine asking.of_calls (fun c asks => ?_) fun c r asks => ?_
    · cases c with
      | containerCreate | withTimeout | containerWait | containerStop => cases asks
      | _ => trivial
    · cases c with
      | containerStop => cases asks
      | _ => rfl
  exact kept.mono fun _ _ both => both.2

theorem enforces_waitForExit {stopped : Bool} {ctx : Ctx}
    (limited : ctx = if stopped then stopWaitCtx else limitedCtx limits.timeLimit) :
    Enforces limits stopped (waitForExit ctx id) fun _ s => s = stopped := by
  unfold waitForExit
  refine enforces_ask limited fun event => ?_
  rcases event with ⟨⟨code, _ | message⟩⟩ | err | cause
  · rfl
  · rfl
  · rfl
  · rfl

/-- The wait is under the deadline, and it ends at the time limit only if there is one. -/
theorem enforces_awaitExit :
    Enforces limits false (awaitExit limits id) fun r s =>
      s = false ∧ (r = .timeLimit → 0 < limits.timeLimit) := by
  have context : Enforces limits false (waitContext limits) fun ctx s =>
      s = false ∧ ctx = limitedCtx limits.timeLimit := by
    unfold waitContext limitedCtx
    by_cases limited : limits.timeLimit > 0
    · rw [if_pos limited, if_pos limited]
      exact enforces_ask (fun _ => ⟨rfl, limited⟩) fun _ => ⟨rfl, rfl⟩
    · rw [if_neg limited, if_neg limited]
      exact ⟨rfl, rfl⟩
  unfold awaitExit
  apply context.bind
  intro ctx s reached
  rcases reached with ⟨running, under⟩
  subst running
  apply (enforces_waitForExit under).bind
  intro r s same
  subst same
  cases r with
  | ok status => exact ⟨rfl, fun expired => by cases expired⟩
  | error err =>
      simp only
      by_cases missed : err.is .deadlineExceeded ∧ limits.timeLimit > 0
      · rw [if_pos missed]
        refine enforces_ask trivial fun live => ?_
        cases live with
        | none => exact ⟨rfl, fun _ => missed.2⟩
        | some cause => exact ⟨rfl, fun expired => by cases expired⟩
      · rw [if_neg missed]
        exact ⟨rfl, fun expired => by cases expired⟩

theorem enforces_timeLimitResult {stopped : Bool} (exitCode : Int64) :
    Enforces limits stopped (timeLimitResult id start exitCode) fun _ _ => True := by
  unfold timeLimitResult
  apply (enforces_asking (asks_fetchLogs .background id)).bind
  intro logs s same
  cases logs with
  | error err => trivial
  | ok logs => exact enforces_ask trivial fun _ => trivial

theorem enforces_afterStop :
    Enforces limits true (afterStop id start) fun _ _ => True := by
  unfold afterStop
  refine enforces_ask (fun caller => nomatch caller) fun _ => ?_
  apply (enforces_waitForExit rfl).bind
  intro r s same
  subst same
  cases r with
  | error err =>
      simp only
      split
      · trivial
      · exact enforces_timeLimitResult (-1)
  | ok status => exact enforces_timeLimitResult status.statusCode

theorem enforces_handleTimeLimit (limited : 0 < limits.timeLimit) :
    Enforces limits false (handleTimeLimit id start) fun _ _ => True := by
  unfold handleTimeLimit
  refine enforces_ask (fun caller => nomatch caller) fun _ => ?_
  refine enforces_ask limited fun r => ?_
  cases r with
  | error err =>
      simp only
      split
      · trivial
      · exact enforces_afterStop
  | ok => exact enforces_afterStop

theorem enforces_runStarted :
    Enforces limits false (runStarted limits id start) fun _ _ => True := by
  unfold runStarted
  apply enforces_awaitExit.bind
  intro r s reached
  rcases reached with ⟨running, expired⟩
  subst running
  cases r with
  | failed err => trivial
  | timeLimit => exact enforces_handleTimeLimit (expired rfl)
  | exited status =>
      apply (enforces_asking (asks_collectResult id start status)).bind
      intro r s _
      cases r with
      | error err => trivial
      | ok result => trivial

theorem enforces_runAttached {stdin : GoString} {attachStdin : Bool} :
    Enforces limits false (runAttached limits id stdin attachStdin) fun _ _ => True := by
  unfold runAttached
  refine enforces_ask trivial fun start => ?_
  refine enforces_ask trivial fun r => ?_
  cases r with
  | error err => trivial
  | ok =>
      cases attachStdin with
      | false => exact enforces_runStarted
      | true =>
          refine enforces_ask trivial fun r => ?_
          cases r with
          | error err => trivial
          | ok => exact enforces_ask trivial fun _ => enforces_runStarted

theorem enforces_runCreated {runtime : LanguageRuntime} {files : List FileSpec} {stdin : GoString}
    {attachStdin : Bool} :
    Enforces limits false (runCreated runtime limits files id stdin attachStdin)
      fun _ _ => True := by
  unfold runCreated
  apply (enforces_asking (asks_copyFiles id _ files)).bind
  intro r s same
  subst same
  cases r with
  | error err => trivial
  | ok =>
      cases attachStdin with
      | false => exact enforces_runAttached
      | true =>
          apply (enforces_asking asks_callerOrBackground).bind
          intro ctx s same
          subst same
          refine enforces_ask trivial fun r => ?_
          cases r with
          | error err => trivial
          | ok =>
              refine enforces_runAttached.deferring fun _ _ _ => ?_
              exact enforces_ask trivial fun _ => trivial

/-- **One run** enforces the merged limits, from the creation of its container to the removal.  The
proof follows the parts of `runProgram` in their order. -/
theorem enforces_runProgram {runtime : LanguageRuntime} {request : RunLimits}
    {command : List GoString} {files : List FileSpec} {stdin : GoString} {attachStdin : Bool}
    (merged : runtime.engine.effectiveLimits request = limits)
    (nonneg : 0 ≤ limits.memoryLimitBytes) :
    Enforces limits false (runProgram runtime request command files stdin attachStdin)
      fun _ _ => True := by
  unfold runProgram createContainerWithImage
  rw [merged]
  refine enforces_ask (hostConfig_eq nonneg) fun r => ?_
  cases r with
  | error err => trivial
  | ok id =>
      refine enforces_runCreated.deferring fun _ _ _ => ?_
      exact enforces_ask trivial fun _ => trivial

end Enforces

/-! ## Every run of every language -/

/-- A prepared script whose every run enforces the limits. -/
def PreparedScript.EnforcedBy (limits : RunLimits) (p : PreparedScript Docker) : Prop :=
  ∀ stdin, Enforces limits false (p.run stdin) fun _ _ => True

/-- Python keeps the limits of the script and merges them at every run, a compiled language merges
them once when it prepares, and once more at every run. -/
theorem LanguageRuntime.Runs.enforced {lang : LanguageRuntime} {script : Script}
    {p : PreparedScript Docker} {defaults : RunLimits} (runs : lang.Runs script p)
    (engine : lang.engine = newContainerEngine defaults) :
    p.EnforcedBy ((newContainerEngine defaults).effectiveLimits script.limits) := by
  have nonneg := (mergedLimits_effectiveLimits defaults script.limits).memory_nonneg
  obtain ⟨limits, command, files, kept | merged, run⟩ := runs
  · intro stdin
    rw [run, kept]
    exact enforces_runProgram (by rw [engine]) nonneg
  · intro stdin
    rw [run, merged]
    exact enforces_runProgram (by rw [engine, effectiveLimits_idem]) nonneg

/-- **The same limits in every language.**  Every run of every script that an engine prepares
enforces the limits of the script merged with the defaults of the engine: each is what the script
asks for when that is positive, else the default, and none is negative.  Merging them once more
changes nothing, so it makes no difference that the compiled languages merge twice. -/
theorem same_limits_in_all_languages {cfg : DockerConfig} {engine : Engine Docker}
    (built : newEngineWithClient cfg = .ok engine) (script : Script) :
    let limits := (newContainerEngine cfg.defaultLimits).effectiveLimits script.limits
    MergedLimits cfg.defaultLimits script.limits limits ∧
    (newContainerEngine cfg.defaultLimits).effectiveLimits limits = limits ∧
    ∀ t outcome prepared, Exec (engine.prepare script) t outcome →
      outcome.prepared = some prepared → ∀ stdin t' o, Exec (prepared.run stdin) t' o →
        (enforcing limits).Obeyed false t' := by
  intro limits
  refine ⟨mergedLimits_effectiveLimits _ _, effectiveLimits_idem _ _, ?_⟩
  intro t outcome prepared run returned stdin t' o run'
  cases (returns_engine built script).sound run with
  | failed err => cases returned
  | unbuilt result untested => cases returned
  | prepared p holds =>
      cases returned
      obtain ⟨lang, configured, runs⟩ := holds
      have enforced := runs.enforced configured stdin
      exact (enforced.sound run' (Contract.allowed_of_all (fun _ _ _ => trivial) t')).1

/-- A script in C with a time limit of its own and a negative memory limit. -/
def limitedTime : Script := { printTime with limits := ⟨2 * Duration.second, -1⟩ }

/-- It is compiled, and a run of the program is under the two seconds. -/
theorem same_limits_in_c :
    ∃ prepared, ((cEngine.prepare limitedTime).answered (echo.serve (leaves [])) []).2.prepared =
        some prepared ∧
      (enforcing ⟨2 * Duration.second, 0⟩).Obeyed false
        ((prepared.run []).answered (echo.serve (leaves [])) []).1 := by
  obtain ⟨prepared, returned⟩ := Option.isSome_iff_exists.mp (by decide +kernel :
    ((cEngine.prepare limitedTime).answered (echo.serve (leaves [])) []).2.prepared.isSome = true)
  have enforced := (same_limits_in_all_languages cEngine_built limitedTime).2.2
  exact ⟨prepared, returned, enforced _ _ prepared (exec_answered _ _ _) returned [] _ _
    (exec_answered _ _ _)⟩

end Scrc
