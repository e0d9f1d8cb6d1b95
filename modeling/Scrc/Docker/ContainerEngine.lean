import Scrc.Docker.Client

/-!
# The container engine

`containerEngine` of package `docker`: limits, one program run in a fresh container, and the path
taken when its time limit expires.  The caller's context is `Ctx.caller`.  A `defer` becomes
`Proc.deferring`; releasing a timer by `cancel()` has no effect on what follows and is left out.
-/

namespace Scrc

open Interaction

/-! ## Limits -/

def normalizeLimits (l : RunLimits) : RunLimits where
  timeLimit := if l.timeLimit < 0 then 0 else l.timeLimit
  memoryLimitBytes := if l.memoryLimitBytes < 0 then 0 else l.memoryLimitBytes

structure ContainerEngine where
  defaultLimits : RunLimits

def newContainerEngine (defaultLimits : RunLimits) : ContainerEngine :=
  ⟨normalizeLimits defaultLimits⟩

def ContainerEngine.effectiveLimits (c : ContainerEngine) (request : RunLimits) : RunLimits :=
  let overrides := normalizeLimits request
  { timeLimit := if overrides.timeLimit > 0 then overrides.timeLimit else c.defaultLimits.timeLimit
    memoryLimitBytes := if overrides.memoryLimitBytes > 0 then overrides.memoryLimitBytes
      else c.defaultLimits.memoryLimitBytes }

/-! ## Languages -/

/-- Container settings of a language; `runImage` may be empty. -/
structure LanguageConfig where
  image : GoString
  runImage : GoString
  workdir : GoString
  deriving DecidableEq

structure LanguageRuntime where
  language : Language
  config : LanguageConfig
  engine : ContainerEngine

/-- The image to use for running programs. -/
def LanguageRuntime.runImage (l : LanguageRuntime) : GoString :=
  if l.config.runImage ≠ [] then l.config.runImage else l.config.image

/-! ## Containers -/

/-- `HostConfig` under the given limits. -/
def hostConfig (limits : RunLimits) : HostConfig where
  nanoCPUs := 1000000000
  memory := if limits.memoryLimitBytes > 0 then limits.memoryLimitBytes else 0
  memorySwap := if limits.memoryLimitBytes > 0 then limits.memoryLimitBytes else 0

def createContainerWithImage (runtime : LanguageRuntime) (limits : RunLimits)
    (cmd : List GoString) (attachStdin : Bool) (image : GoString) :
    Proc Docker (Except GoError GoString) := do
  let config : ContainerConfig := {
    image := image
    cmd := cmd
    attachStdout := true
    attachStderr := true
    attachStdin := attachStdin
    openStdin := attachStdin
    stdinOnce := attachStdin
    workingDir := runtime.config.workdir }
  match ← ask (.containerCreate .caller config (hostConfig limits)) with
  | .error err => return .error (.wrap "create container" err)
  | .ok id => return .ok id

def createContainer (runtime : LanguageRuntime) (limits : RunLimits) (cmd : List GoString)
    (attachStdin : Bool) : Proc Docker (Except GoError GoString) :=
  createContainerWithImage runtime limits cmd attachStdin runtime.config.image

/-- The cleanup that `createContainerWithImage` returns. -/
def cleanup (id : GoString) : Proc Docker Unit := do
  let _ ← ask (.containerRemove .background id true)
  return ()

/-- The tar headers of `makeArchive`: a mode that is zero becomes `0o644`.  Writing to the
in-memory buffer does not fail. -/
def makeArchive (files : List FileSpec) : List FileSpec :=
  files.map fun file => { file with mode := if file.mode = 0 then 0o644 else file.mode }

def copyFiles (id workdir : GoString) (files : List FileSpec) :
    Proc Docker (Except GoError Unit) := do
  if files = [] then
    return .ok ()
  ask (.copyToContainer .caller id workdir (makeArchive files))

/-- The loop of `copyFileFromContainer` over the tar entries: the first regular file. -/
def readArchive (sourcePath : GoString) : List TarEntry → Except GoError GoString
  | [] => .error (.new (lit "file " ++ sourcePath ++ lit " not found in container archive"))
  | .invalid err :: _ => .error (.wrap "read tar" err)
  | .entry false _ :: rest => readArchive sourcePath rest
  | .entry true (.error err) :: _ => .error (.wrap "read file contents" err)
  | .entry true (.ok data) :: _ => .ok data

def copyFileFromContainer (id sourcePath : GoString) : Proc Docker (Except GoError GoString) := do
  match ← ask (.copyFromContainer .caller id sourcePath) with
  | .error err => return .error (.wrap "copy from container" err)
  | .ok entries => return readArchive sourcePath entries

def waitForExit (ctx : Ctx) (id : GoString) : Proc Docker (Except GoError WaitResponse) := do
  match ← ask (.containerWait ctx id) with
  | .status status =>
      match status.error with
      | some message => return .error (.new (lit "container error: " ++ message))
      | none => return .ok status
  | .errCh err => return .error (.wrap "wait for container" err)
  | .ctxDone err => return .error (.wrap "wait for container" err.toError)

def fetchLogs (ctx : Ctx) (id : GoString) :
    Proc Docker (Except GoError (GoString × GoString)) := do
  match ← ask (.containerLogs ctx id) with
  | .refused err => return .error err
  | .broken err => return .error err
  | .value logs => return .ok logs

/-- The caller's context, or the background one when the caller's is over. -/
def callerOrBackground : Proc Docker Ctx := do
  match ← ask (.ctxErr .caller) with
  | none => return .caller
  | some _ => return .background

/-! ## The time-limit path -/

/-- `return nil, err`. -/
def RunOutcome.failed (err : GoError) : RunOutcome := ⟨none, some err⟩

/-- `return result, nil`. -/
def RunOutcome.finished (result : Result) : RunOutcome := ⟨some result, none⟩

/-- The context of the stop. -/
def stopCtx : Ctx := .withTimeout .background (5 * Duration.second)

/-- The context of the wait after the stop. -/
def stopWaitCtx : Ctx := .withTimeout .background (15 * Duration.second)

/-- `handleTimeLimit` after both waits: the logs and the result. -/
def timeLimitResult (id : GoString) (start : Int64) (exitCode : Int64) : Proc Docker RunOutcome := do
  match ← fetchLogs .background id with
  | .error err => return .failed (.wrap "fetch logs" err)
  | .ok (stdout, stderr) =>
      let duration ← ask (.since start)
      return .finished {
        status := .timeLimit
        stdout := stdout
        stderr := stderr
        exitCode := exitCode
        duration := duration }

/-- `handleTimeLimit` after the stop. -/
def afterStop (id : GoString) (start : Int64) : Proc Docker RunOutcome := do
  ask (.withTimeout .background (15 * Duration.second))
  match ← waitForExit stopWaitCtx id with
  | .error waitErr =>
      if ¬ waitErr.is .deadlineExceeded ∧ ¬ waitErr.is .notFound then
        return .failed (.wrap "wait for container after time limit" waitErr)
      else timeLimitResult id start (-1)
  | .ok status => timeLimitResult id start status.statusCode

def handleTimeLimit (id : GoString) (start : Int64) : Proc Docker RunOutcome := do
  ask (.withTimeout .background (5 * Duration.second))
  match ← ask (.containerStop stopCtx id) with
  | .error err =>
      if ¬ err.is .notFound then
        return .failed (.wrap "stop container after time limit" err)
      else afterStop id start
  | .ok _ => afterStop id start

/-! ## One run -/

/-- After a clean exit: inspect, logs, and the result, whose status says whether the container was
killed for its memory.  The build strategies repeat this part of `runProgram`. -/
def collectResult (id : GoString) (start : Int64) (status : WaitResponse) :
    Proc Docker (Except GoError Result) := do
  match ← ask (.containerInspect (← callerOrBackground) id) with
  | .error err => return .error (.wrap "inspect container" err)
  | .ok oomKilled =>
      match ← fetchLogs (← callerOrBackground) id with
      | .error err => return .error (.wrap "fetch logs" err)
      | .ok (stdout, stderr) =>
          let duration ← ask (.since start)
          return .ok {
            status := if oomKilled = some true then .memoryLimit else .ok
            stdout := stdout
            stderr := stderr
            exitCode := status.statusCode
            duration := duration }

/-- The context of the wait: the caller's, under a deadline when there is a time limit. -/
def waitContext (limits : RunLimits) : Proc Docker Ctx := do
  if limits.timeLimit > 0 then
    ask (.withTimeout .caller limits.timeLimit)
    return .withTimeout .caller limits.timeLimit
  return .caller

/-- What the wait of `runProgram` and of the build strategies ends in. -/
inductive Awaited where
  | exited (status : WaitResponse)
  | timeLimit
  | failed (err : GoError)

/-- The wait under the time limit: a deadline that expires while the caller's context is live
means the time limit. -/
def awaitExit (limits : RunLimits) (id : GoString) : Proc Docker Awaited := do
  match ← waitForExit (← waitContext limits) id with
  | .ok status => return .exited status
  | .error err =>
      if err.is .deadlineExceeded ∧ limits.timeLimit > 0 then
        match ← ask (.ctxErr .caller) with
        | none => return .timeLimit
        | some _ => return .failed err
      else return .failed err

/-- `runProgram` after stdin is written. -/
def runStarted (limits : RunLimits) (id : GoString) (start : Int64) : Proc Docker RunOutcome := do
  match ← awaitExit limits id with
  | .failed err => return .failed err
  | .timeLimit => handleTimeLimit id start
  | .exited status =>
      match ← collectResult id start status with
      | .error err => return .failed err
      | .ok result => return .finished result

/-- `runProgram` after the attach. -/
def runAttached (limits : RunLimits) (id stdin : GoString) (attachStdin : Bool) :
    Proc Docker RunOutcome := do
  let start ← ask .now
  match ← ask (.containerStart .caller id) with
  | .error err => return .failed (.wrap "start container" err)
  | .ok _ =>
      if attachStdin then
        match ← ask (.writeStdin id stdin) with
        | .error err => return .failed (.wrap "write stdin" err)
        | .ok _ =>
            ask (.closeWrite id)
            runStarted limits id start
      else runStarted limits id start

/-- `runProgram` after the creation of the container. -/
def runCreated (runtime : LanguageRuntime) (limits : RunLimits) (files : List FileSpec)
    (id stdin : GoString) (attachStdin : Bool) : Proc Docker RunOutcome := do
  match ← copyFiles id runtime.config.workdir files with
  | .error err => return .failed (.wrap "copy files" err)
  | .ok _ =>
      if attachStdin then
        match ← ask (.containerAttach (← callerOrBackground) id) with
        | .error err => return .failed (.wrap "attach container" err)
        | .ok _ =>
            Proc.deferring (ask (.closeAttach id)) (runAttached limits id stdin attachStdin)
      else runAttached limits id stdin attachStdin

def runProgram (runtime : LanguageRuntime) (limits : RunLimits) (command : List GoString)
    (files : List FileSpec) (stdin : GoString) (attachStdin : Bool) : Proc Docker RunOutcome := do
  let effective := runtime.engine.effectiveLimits limits
  match ← createContainerWithImage runtime effective command attachStdin runtime.runImage with
  | .error err => return .failed err
  | .ok id =>
      Proc.deferring (cleanup id) (runCreated runtime effective files id stdin attachStdin)

end Scrc
