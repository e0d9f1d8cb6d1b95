import Scrc.Docker.Preparation

/-!
# Isolation of tests

A daemon on which what a container does is a function of its configuration, the files copied into it
and its stdin, and on which no call fails.  Every run of a prepared script creates a container of
its own from the same files, so what is observed of a test is a function of its input.

* `Behaviour`: the function, `Behaviour.daemon`: the replies that agree with it.
* `gives_runProgram`: what one run observes.
* `gives_engine`: a preparation fixes what the runs of its script observe, before the tests are
  known.
* `tests_isolated`: two suites agree on every test that both execute, and a suite is OK in every
  order of its tests or in none.
-/

namespace Scrc

open Interaction SuiteReference

/-! ## Containers as functions -/

/-- What a container is created with, what was copied into it and where, and what was written to its
stdin. -/
structure Workload where
  config : ContainerConfig
  host : HostConfig
  files : List (GoString × FileSpec) := []
  stdin : GoString := []
  deriving DecidableEq

instance : Inhabited Workload :=
  ⟨{ config := ⟨[], [], false, false, false, false, false, []⟩, host := ⟨0, 0, 0⟩ }⟩

/-- What a container does.  Left alone it exits after a number of nanoseconds, or never; stopped at
a time limit it ends as the last two fields say. -/
structure Behaviour where
  timeToExit : Workload → Option Nat
  /-- Whether an exit at the very moment of the deadline is in time. -/
  winsTie : Workload → Bool
  exitCode : Workload → Int64
  oomKilled : Workload → Bool
  logs : Workload → GoString × GoString
  stoppedCode : Workload → Duration → Int64
  stoppedLogs : Workload → Duration → GoString × GoString

namespace Behaviour

/-- The container exits before the deadline. -/
def inTime (B : Behaviour) (w : Workload) (limit : Duration) : Bool :=
  match B.timeToExit w with
  | none => false
  | some t => t < limit.nanoseconds ∨ (t = limit.nanoseconds ∧ B.winsTie w)

/-- The time limit, if there is one, expires. -/
def expires (B : Behaviour) (limits : RunLimits) (w : Workload) : Bool :=
  limits.timeLimit > 0 ∧ B.inTime w limits.timeLimit = false

end Behaviour

/-- A container of the daemon: its workload, the last deadline of a wait, and whether it was
stopped. -/
structure ContainerRecord where
  work : Workload
  deadline : Duration := 0
  stopped : Bool := false

instance : Inhabited ContainerRecord := ⟨{ work := default }⟩

/-- The containers of the daemon by their ids. -/
abbrev Records := GoString → ContainerRecord

/-- A container changed. -/
def Records.change (s : Records) (id : GoString) (f : ContainerRecord → ContainerRecord) : Records :=
  Function.update s id (f (s id))

@[simp] theorem Records.change_self (s : Records) (id : GoString)
    (f : ContainerRecord → ContainerRecord) : s.change id f id = f (s id) := Function.update_self ..

namespace Behaviour

/-- What a wait for the container comes to. -/
def Awaits (B : Behaviour) (c : ContainerRecord) (ctx : Ctx) (event : WaitEvent) : Prop :=
  if c.stopped then event = .status ⟨B.stoppedCode c.work c.deadline, none⟩
  else
    match ctx with
    | .withTimeout .caller limit =>
        if B.inTime c.work limit then event = .status ⟨B.exitCode c.work, none⟩
        else event.deadlineExceeded = true
    | _ => B.timeToExit c.work ≠ none ∧ event = .status ⟨B.exitCode c.work, none⟩

/-- The logs of the container. -/
def output (B : Behaviour) (c : ContainerRecord) : GoString × GoString :=
  if c.stopped then B.stoppedLogs c.work c.deadline else B.logs c.work

/-- The replies of a daemon on which containers do what `B` says, no call fails, and what is copied
out of a container satisfies `leaves`. -/
def allows (B : Behaviour) (leaves : Workload → GoString → List TarEntry → Prop) (s : Records) :
    (c : DockerCall) → DockerReply c → Prop
  | .ctxErr _, err => err = none
  | .pullErr _, err => err = none
  | .imagePull _ _, r => r = .value ()
  | .containerCreate _ _ _, r => ∃ id, r = .ok id
  | .containerRemove _ _ _, r => r = .ok ()
  | .copyToContainer _ _ _ _, r => r = .ok ()
  | .containerAttach _ _, r => r = .ok ()
  | .writeStdin _ _, r => r = .ok ()
  | .containerStart _ _, r => r = .ok ()
  | .containerWait ctx id, event => B.Awaits (s id) ctx event
  | .containerInspect _ id, r =>
      ∃ killed, r = .ok killed ∧ (killed = some true ↔ B.oomKilled (s id).work = true)
  | .containerLogs _ id, r => r = .value (B.output (s id))
  | .containerStop _ _, r => r = .ok ()
  | .copyFromContainer _ id path, r => ∃ entries, r = .ok entries ∧ leaves (s id).work path entries
  | _, _ => True

end Behaviour

/-- What a call does to the containers. -/
def Records.next (s : Records) : (c : DockerCall) → DockerReply c → Records
  | .containerCreate _ config host, .ok id =>
      s.change id fun _ => { work := { config := config, host := host } }
  | .copyToContainer _ id path files, .ok _ => s.change id fun c =>
      { c with work := { c.work with files := c.work.files ++ files.map fun file => (path, file) } }
  | .writeStdin id data, .ok _ => s.change id fun c =>
      { c with work := { c.work with stdin := c.work.stdin ++ data } }
  | .containerWait (.withTimeout .caller limit) id, _ => s.change id fun c =>
      { c with deadline := limit }
  | .containerStop _ id, .ok _ => s.change id fun c => { c with stopped := true }
  | _, _ => s

/-- The contract of that daemon, which asks nothing of the program. -/
def Behaviour.daemon (B : Behaviour) (leaves : Workload → GoString → List TarEntry → Prop) :
    Contract Docker Records where
  obliges _ _ := True
  allows := B.allows leaves
  next := Records.next

/-! ## What is observed -/

/-- The fields of a result that depend on the container alone. -/
structure Observed where
  status : Status
  stdout : GoString
  stderr : GoString
  exitCode : Int64
  deriving DecidableEq

def Result.observed (r : Result) : Observed := ⟨r.status, r.stdout, r.stderr, r.exitCode⟩

/-- What a run under these limits observes of a container. -/
def Behaviour.observed (B : Behaviour) (limits : RunLimits) (w : Workload) : Observed :=
  if B.expires limits w then
    ⟨.timeLimit, (B.stoppedLogs w limits.timeLimit).1, (B.stoppedLogs w limits.timeLimit).2,
      B.stoppedCode w limits.timeLimit⟩
  else
    ⟨if B.oomKilled w then .memoryLimit else .ok, (B.logs w).1, (B.logs w).2, B.exitCode w⟩

theorem Behaviour.observed_of_within {B : Behaviour} {limits : RunLimits} {w : Workload}
    (within : B.expires limits w = false) : B.observed limits w =
      ⟨if B.oomKilled w then .memoryLimit else .ok, (B.logs w).1, (B.logs w).2, B.exitCode w⟩ := by
  unfold Behaviour.observed
  rw [within]
  rfl

/-- A run that returns a result, with these observations. -/
def RunOutcome.Shows (o : RunOutcome) (x : Observed) : Prop :=
  ∃ r, o = .finished r ∧ r.observed = x ∧ r.tests = []

section Gives

variable {B : Behaviour} {leaves : Workload → GoString → List TarEntry → Prop} {s : Records}
  {id : GoString} {w : Workload} {limits : RunLimits} {start : Int64}

/-- On the daemon the program ends as `Q` says. -/
abbrev Gives {α : Type} (B : Behaviour) (leaves : Workload → GoString → List TarEntry → Prop)
    (s : Records) (p : Proc Docker α) (Q : α → Records → Prop) : Prop :=
  p.Meets (B.daemon leaves) s Q

theorem gives_ask {α : Type} {c : DockerCall} {k : DockerReply c → Proc Docker α}
    {Q : α → Records → Prop}
    (next : ∀ r, B.allows leaves s c r → Gives B leaves (s.next c r) (k r) Q) :
    Gives B leaves s (ask c >>= k) Q := ⟨trivial, next⟩

theorem gives_callerOrBackground :
    Gives B leaves s callerOrBackground fun _ s' => s' = s := by
  unfold callerOrBackground
  refine gives_ask fun r live => ?_
  cases live
  rfl

theorem gives_fetchLogs (ctx : Ctx) :
    Gives B leaves s (fetchLogs ctx id) fun r s' => s' = s ∧
      r = .ok ((B.output (s id)).1, (B.output (s id)).2) := by
  unfold fetchLogs
  refine gives_ask fun r value => ?_
  cases value
  exact ⟨rfl, rfl⟩

theorem gives_collectResult {status : WaitResponse} (work : (s id).work = w)
    (running : (s id).stopped = false) :
    Gives B leaves s (collectResult id start status) fun r s' => s' = s ∧ ∃ result, r = .ok result ∧
      result.observed = ⟨if B.oomKilled w then .memoryLimit else .ok, (B.logs w).1, (B.logs w).2,
        status.statusCode⟩ ∧ result.tests = [] := by
  unfold collectResult
  apply gives_callerOrBackground.bind
  intro ctx s' same
  subst same
  refine gives_ask fun r ⟨killed, value, oom⟩ => ?_
  subst value
  apply gives_callerOrBackground.bind
  intro ctx s'' same
  subst same
  apply (gives_fetchLogs ctx).bind
  intro logs s'' reached
  rcases reached with ⟨same, value⟩
  subst same
  subst value
  refine gives_ask fun duration _ => ⟨rfl, _, rfl, ?_, rfl⟩
  have logs : B.output (s'' id) = B.logs w := by
    unfold Behaviour.output
    rw [running, work]
    rfl
  simp only [Result.observed, logs, work ▸ oom]

/-- A wait for a container that ends: every reply that the behaviour allows is the exit with this
code. -/
theorem gives_waitForExit {ctx : Ctx} (code : Int64)
    (ends : ∀ event, B.Awaits (s id) ctx event → event = .status ⟨code, none⟩) :
    Gives B leaves s (waitForExit ctx id) fun r s' =>
      r = .ok ⟨code, none⟩ ∧ s' = s.next (.containerWait ctx id) (.status ⟨code, none⟩) := by
  unfold waitForExit
  refine gives_ask fun event awaits => ?_
  cases ends event awaits
  exact ⟨rfl, rfl⟩

/-- A wait that its deadline ends, since the program runs for longer than the limit. -/
theorem gives_waitForExit_missed {limit : Duration}
    (missed : ∀ event, B.Awaits (s id) (.withTimeout .caller limit) event →
      event.deadlineExceeded = true) :
    Gives B leaves s (waitForExit (.withTimeout .caller limit) id) fun r s' =>
      (∃ err, r = .error err ∧ err.is .deadlineExceeded = true) ∧
        s' = s.change id fun c => { c with deadline := limit } := by
  unfold waitForExit
  refine gives_ask fun event awaits => ?_
  cases event with
  | status status => cases missed _ awaits
  | errCh err => exact ⟨⟨_, rfl, missed _ awaits⟩, rfl⟩
  | ctxDone err =>
      cases err with
      | canceled => cases missed _ awaits
      | deadlineExceeded => exact ⟨⟨_, rfl, rfl⟩, rfl⟩

/-- A wait under a time limit for a container that was left alone. -/
theorem awaits_limited {limit : Duration} {event : WaitEvent} (work : (s id).work = w)
    (running : (s id).stopped = false)
    (awaits : B.Awaits (s id) (.withTimeout .caller limit) event) :
    if B.inTime w limit then event = .status ⟨B.exitCode w, none⟩
    else event.deadlineExceeded = true := by
  unfold Behaviour.Awaits at awaits
  simp only [running, work, Bool.false_eq_true, ↓reduceIte] at awaits
  exact awaits

/-- The wait under the time limit, by whether it expires.  This is a fact about the program and the
limit, not about the daemon. -/
theorem gives_awaitExit (work : (s id).work = w) (running : (s id).stopped = false) :
    Gives B leaves s (awaitExit limits id) fun r s' =>
      (B.expires limits w = false ∧ r = .exited ⟨B.exitCode w, none⟩ ∧ (s' id).work = w ∧
        (s' id).stopped = false) ∨
      (B.expires limits w = true ∧ r = .timeLimit ∧
        s' id = { work := w, deadline := limits.timeLimit }) := by
  unfold awaitExit waitContext
  by_cases limited : limits.timeLimit > 0
  · rw [if_pos limited]
    refine gives_ask fun _ _ => ?_
    cases inTime : B.inTime w limits.timeLimit with
    | true =>
        have within : B.expires limits w = false := by
          unfold Behaviour.expires
          rw [inTime]
          exact decide_eq_false fun both => nomatch both.2
        refine (gives_waitForExit (B.exitCode w) fun event awaits => ?_).bind
          fun r s' ⟨returned, next⟩ => ?_
        · have answered := awaits_limited work running awaits
          rw [inTime] at answered
          exact answered
        · subst returned
          subst next
          refine Or.inl ⟨within, rfl, ?_, ?_⟩
          · exact (congrArg ContainerRecord.work (s.change_self id _)).trans work
          · exact (congrArg ContainerRecord.stopped (s.change_self id _)).trans running
    | false =>
        have expired : B.expires limits w = true := decide_eq_true ⟨limited, inTime⟩
        refine (gives_waitForExit_missed fun event awaits => ?_).bind
          fun r s' ⟨⟨err, returned, missed⟩, next⟩ => ?_
        · have answered := awaits_limited work running awaits
          rw [inTime] at answered
          exact answered
        · subst returned
          subst next
          simp only
          rw [if_pos ⟨missed, limited⟩]
          refine gives_ask fun r live => ?_
          cases live
          have marked : (s.change id fun c => { c with deadline := limits.timeLimit }) id =
              { work := w, deadline := limits.timeLimit } := by
            rw [Records.change_self, ← work, ← running]
          exact Or.inr ⟨expired, rfl, marked⟩
  · rw [if_neg limited]
    have unlimited : B.expires limits w = false := decide_eq_false fun both => limited both.1
    refine (gives_waitForExit (B.exitCode w) fun event awaits => ?_).bind
      fun r s' ⟨returned, next⟩ => ?_
    · unfold Behaviour.Awaits at awaits
      simp only [running, work, Bool.false_eq_true, ↓reduceIte] at awaits
      exact awaits.2
    · subst returned
      subst next
      exact Or.inl ⟨unlimited, rfl, work, running⟩

/-- A container stopped at its time limit shows what its program has written until it was stopped,
with the status TL. -/
theorem gives_handleTimeLimit {deadline : Duration}
    (expired : s id = { work := w, deadline := deadline }) :
    Gives B leaves s (handleTimeLimit id start) fun o _ => o.Shows
      ⟨.timeLimit, (B.stoppedLogs w deadline).1, (B.stoppedLogs w deadline).2,
        B.stoppedCode w deadline⟩ := by
  unfold handleTimeLimit afterStop timeLimitResult
  refine gives_ask fun _ _ => ?_
  refine gives_ask fun r stops => ?_
  cases stops
  have stopped : (s.change id fun c => { c with stopped := true }) id =
      { work := w, deadline := deadline, stopped := true } := by
    rw [Records.change_self, expired]
  refine gives_ask fun _ _ => ?_
  refine (gives_waitForExit (B.stoppedCode w deadline) fun event awaits => ?_).bind
    fun r s' ⟨returned, next⟩ => ?_
  · have awaits : B.Awaits ((s.change id fun c => { c with stopped := true }) id) _ event := awaits
    rw [stopped] at awaits
    exact awaits
  · subst returned
    have next : s' = s.change id fun c => { c with stopped := true } := next
    subst next
    apply (gives_fetchLogs .background).bind
    intro logs s' reached
    rcases reached with ⟨same, value⟩
    subst same
    subst value
    refine gives_ask fun duration _ => ⟨_, rfl, ?_, rfl⟩
    rw [stopped]
    rfl

/-- A started container with its stdin written shows what its workload does, by the two ways in
which the wait may end. -/
theorem gives_runStarted (work : (s id).work = w) (running : (s id).stopped = false) :
    Gives B leaves s (runStarted limits id start) fun o _ => o.Shows (B.observed limits w) := by
  unfold runStarted Behaviour.observed
  apply (gives_awaitExit work running).bind
  intro r s' reached
  rcases reached with ⟨within, rfl, work', running'⟩ | ⟨expired, rfl, marked⟩
  · rw [within]
    apply (gives_collectResult work' running').bind
    intro r s'' reached
    rcases reached with ⟨_, collected⟩
    obtain ⟨result, rfl, observed, tests⟩ := collected
    exact ⟨result, rfl, observed, tests⟩
  · rw [expired]
    exact gives_handleTimeLimit marked

/-! ## Runs -/

/-- The configuration that `createContainerWithImage` asks for. -/
def containerConfig (runtime : LanguageRuntime) (cmd : List GoString) (attachStdin : Bool)
    (image : GoString) : ContainerConfig where
  image := image
  cmd := cmd
  attachStdout := true
  attachStderr := true
  attachStdin := attachStdin
  openStdin := attachStdin
  stdinOnce := attachStdin
  workingDir := runtime.config.workdir

/-- The workload of `runProgram` with a stdin attached. -/
def runWorkload (runtime : LanguageRuntime) (limits : RunLimits) (command : List GoString)
    (files : List FileSpec) (stdin : GoString) : Workload where
  config := containerConfig runtime command true runtime.runImage
  host := hostConfig limits
  files := (makeArchive files).map fun file => (runtime.config.workdir, file)
  stdin := stdin

theorem gives_createContainerWithImage {runtime : LanguageRuntime} {cmd : List GoString}
    {attachStdin : Bool} {image : GoString} :
    Gives B leaves s (createContainerWithImage runtime limits cmd attachStdin image) fun r s' =>
      ∃ id, r = .ok id ∧ s' id = { work :=
        { config := containerConfig runtime cmd attachStdin image, host := hostConfig limits } } := by
  unfold createContainerWithImage
  refine gives_ask fun r ⟨id, created⟩ => ?_
  subst created
  have fresh : (s.change id fun _ => { work :=
      { config := containerConfig runtime cmd attachStdin image, host := hostConfig limits } }) id =
        _ := Records.change_self ..
  exact ⟨id, rfl, fresh⟩

theorem gives_cleanup : Gives B leaves s (cleanup id) fun _ _ => True := by
  unfold cleanup
  exact gives_ask fun _ _ => trivial

/-- The container of workload `w` gets the files. -/
def Workload.fill (w : Workload) (path : GoString) (files : List FileSpec) : Workload :=
  { w with files := w.files ++ (makeArchive files).map fun file => (path, file) }

@[simp] theorem Workload.fill_nil (w : Workload) (path : GoString) : w.fill path [] = w := by
  unfold Workload.fill makeArchive
  simp only [List.map_nil, List.append_nil]

theorem gives_copyFiles {path : GoString} {files : List FileSpec} (here : s id = { work := w }) :
    Gives B leaves s (copyFiles id path files) fun r s' =>
      r = .ok () ∧ s' id = { work := w.fill path files } := by
  unfold copyFiles
  by_cases no_file : files = []
  · subst no_file
    refine ⟨rfl, ?_⟩
    rw [Workload.fill_nil]
    exact here
  · rw [if_neg no_file]
    have filled : (s.change id fun c => { c with work := c.work.fill path files }) id =
        { work := w.fill path files } := by
      rw [Records.change_self, here]
    refine ⟨trivial, fun r copied => ⟨copied, ?_⟩⟩
    cases copied
    exact filled

/-- A filled container with its stdin attached: the input of the test becomes part of the workload
before the start. -/
theorem gives_runAttached {stdin : GoString} (here : s id = { work := w }) :
    Gives B leaves s (runAttached limits id stdin true) fun o _ =>
      o.Shows (B.observed limits { w with stdin := w.stdin ++ stdin }) := by
  unfold runAttached
  refine gives_ask fun start _ => ?_
  refine gives_ask fun r started => ?_
  cases started
  refine gives_ask fun r wrote => ?_
  cases wrote
  refine gives_ask fun _ _ => ?_
  have written : (s.change id fun c =>
      { c with work := { c.work with stdin := c.work.stdin ++ stdin } }) id =
        { work := { w with stdin := w.stdin ++ stdin } } := by
    rw [Records.change_self, here]
  exact gives_runStarted (congrArg ContainerRecord.work written)
    (congrArg ContainerRecord.stopped written)

theorem gives_runCreated {runtime : LanguageRuntime} {files : List FileSpec} {stdin : GoString}
    (here : s id = { work := w }) :
    Gives B leaves s (runCreated runtime limits files id stdin true) fun o _ => o.Shows
      (B.observed limits
        { w.fill runtime.config.workdir files with stdin := w.stdin ++ stdin }) := by
  unfold runCreated
  apply (gives_copyFiles here).bind
  intro r s' reached
  rcases reached with ⟨copied, filled⟩
  subst copied
  apply gives_callerOrBackground.bind
  intro ctx s'' same
  subst same
  refine gives_ask fun r attached => ?_
  cases attached
  refine (gives_runAttached filled).deferring fun o s''' result => ?_
  exact gives_ask fun _ _ => result

/-- **One run.**  What it observes is a function of the files and of the stdin, whatever containers
there were before. -/
theorem gives_runProgram {runtime : LanguageRuntime} {request : RunLimits} {command : List GoString}
    {files : List FileSpec} {stdin : GoString} :
    Gives B leaves s (runProgram runtime request command files stdin true) fun o _ =>
      o.Shows (B.observed (runtime.engine.effectiveLimits request)
        (runWorkload runtime (runtime.engine.effectiveLimits request) command files stdin)) := by
  unfold runProgram
  apply gives_createContainerWithImage.bind
  intro r s' reached
  rcases reached with ⟨id, created, here⟩
  subst created
  exact (gives_runCreated here).deferring fun o s'' result =>
    gives_cleanup.mono fun _ _ _ => result

end Gives

/-! ## Preparations -/

/-- What a preparation comes to: a script whose runs observe a function of their stdin, a failed
build, or an error. -/
inductive Built where
  | script (run : GoString → Observed)
  | failed
  | error

section Prepare

variable {B : Behaviour} {artifact : Workload → GoString → List TarEntry} {s : Records}

/-- The files in a container are a function of its workload too. -/
def leavesArtifact (artifact : Workload → GoString → List TarEntry) (w : Workload) (path : GoString)
    (entries : List TarEntry) : Prop := entries = artifact w path

/-- The outcome of a preparation is what was built. -/
def Built.Describes (built : Built) (B : Behaviour) (artifact : Workload → GoString → List TarEntry)
    (o : PrepareOutcome Docker) : Prop :=
  match built with
  | .script run => ∃ p : PreparedScript Docker, o = { prepared := some p } ∧ p.close = .ret () ∧
      ∀ stdin s, Gives B (leavesArtifact artifact) s (p.run stdin) fun out _ => out.Shows (run stdin)
  | .failed => ∃ r, o = { result := some r } ∧ r.status = .buildFail ∧ r.tests = []
  | .error => ∃ err, o = .failed err

/-- The workload of a build. -/
def CompiledLanguage.buildWorkload (spec : CompiledLanguage) (lang : LanguageRuntime)
    (buildLimits : RunLimits) (source : GoString) : Workload :=
  Workload.fill
    { config := containerConfig lang spec.buildCmd false lang.config.image
      host := hostConfig buildLimits }
    lang.config.workdir [⟨spec.sourceFilename, 0o644, source⟩]

/-- What a build that came to `x` leads to. -/
def CompiledLanguage.extracted (spec : CompiledLanguage) (lang : LanguageRuntime) (B : Behaviour)
    (artifact : Workload → GoString → List TarEntry) (runLimits : RunLimits) (w : Workload)
    (x : Observed) : Built :=
  if x.status ≠ .ok ∨ x.exitCode ≠ 0 then .failed
  else
    let path := pathJoin lang.config.workdir spec.binaryFilename
    match readArchive path (artifact w path) with
    | .error _ => .error
    | .ok binary => .script fun stdin =>
        B.observed (lang.engine.effectiveLimits runLimits)
          (runWorkload lang (lang.engine.effectiveLimits runLimits) spec.runCmd
            [⟨spec.binaryFilename, spec.binaryMode, binary⟩] stdin)

/-- What the compiled languages come to; the build has no time limit. -/
def CompiledLanguage.built (spec : CompiledLanguage) (lang : LanguageRuntime) (B : Behaviour)
    (artifact : Workload → GoString → List TarEntry) (limits : RunLimits) (source : GoString) :
    Built :=
  let runLimits := lang.engine.effectiveLimits limits
  let buildLimits := { runLimits with timeLimit := 0 }
  let w := spec.buildWorkload lang buildLimits source
  spec.extracted lang B artifact runLimits w (B.observed buildLimits w)

theorem gives_copyFileFromContainer {id path : GoString} {w : Workload} (work : (s id).work = w) :
    Gives B (leavesArtifact artifact) s (copyFileFromContainer id path) fun r _ =>
      r = readArchive path (artifact w path) := by
  unfold copyFileFromContainer
  refine gives_ask fun r ⟨entries, copied, left⟩ => ?_
  subst copied
  have left : entries = artifact (s id).work path := left
  rw [left, work]
  rfl

theorem gives_extract {spec : CompiledLanguage} {lang : LanguageRuntime} {runLimits : RunLimits}
    {id : GoString} {w : Workload} {buildResult : Result} (work : (s id).work = w)
    (tests : buildResult.tests = []) :
    Gives B (leavesArtifact artifact) s (spec.extract lang runLimits id buildResult) fun o _ =>
      (spec.extracted lang B artifact runLimits w buildResult.observed).Describes B artifact o := by
  unfold CompiledLanguage.extract CompiledLanguage.extracted
  by_cases failed : buildResult.status ≠ .ok ∨ buildResult.exitCode ≠ 0
  · have failed' : buildResult.observed.status ≠ .ok ∨ buildResult.observed.exitCode ≠ 0 := failed
    rw [if_pos failed, if_pos failed']
    exact ⟨_, rfl, rfl, tests⟩
  · have built : ¬ (buildResult.observed.status ≠ .ok ∨ buildResult.observed.exitCode ≠ 0) := failed
    rw [if_neg failed, if_neg built]
    apply (gives_copyFileFromContainer work).bind
    intro r s' read
    simp only [← read]
    cases r with
    | error err => exact ⟨_, rfl⟩
    | ok binary => exact ⟨_, rfl, rfl, fun stdin s'' => gives_runProgram⟩

theorem gives_compiled {spec : CompiledLanguage} {lang : LanguageRuntime} {script : Script} :
    Gives B (leavesArtifact artifact) s (spec.prepare lang script) fun o _ =>
      (spec.built lang B artifact script.limits script.source).Describes B artifact o := by
  unfold CompiledLanguage.prepare CompiledLanguage.built createContainer
  apply gives_createContainerWithImage.bind
  intro r s₁ reached
  rcases reached with ⟨id, created, here⟩
  subst created
  refine Proc.Meets.deferring (R := fun o _ => Built.Describes _ B artifact o) ?_
    fun o s₂ described => gives_cleanup.mono fun _ _ _ => described
  unfold CompiledLanguage.buildCreated
  apply (gives_copyFiles here).bind
  intro r s₂ reached
  rcases reached with ⟨copied, filled⟩
  subst copied
  refine gives_ask fun start _ => ?_
  refine gives_ask fun r started => ?_
  cases started
  unfold CompiledLanguage.buildStarted
  refine (gives_awaitExit (congrArg ContainerRecord.work filled)
    (congrArg ContainerRecord.stopped filled)).bind fun r s₃ reached => ?_
  rcases reached with ⟨within, rfl, work, running⟩ | ⟨expired, -, -⟩
  · apply (gives_collectResult work running).bind
    intro r s₄ reached
    rcases reached with ⟨same, collected⟩
    subst same
    obtain ⟨result, rfl, observed, tests⟩ := collected
    have seen : B.observed _ _ = result.observed :=
      (B.observed_of_within within).trans observed.symm
    simp only [CompiledLanguage.buildWorkload, seen]
    exact gives_extract work tests
  · cases expired

/-- What Python comes to. -/
def pythonBuilt (lang : LanguageRuntime) (B : Behaviour) (limits : RunLimits) (source : GoString) :
    Built :=
  .script fun stdin => B.observed (lang.engine.effectiveLimits limits)
    (runWorkload lang (lang.engine.effectiveLimits limits) ["python", "script.py"]
      [⟨"script.py", 0o644, source⟩] stdin)

theorem gives_python {lang : LanguageRuntime} {script : Script} :
    Gives B (leavesArtifact artifact) s (pythonStrategy lang script) fun o _ =>
      (pythonBuilt lang B script.limits script.source).Describes B artifact o :=
  ⟨_, rfl, rfl, fun _ _ => gives_runProgram⟩

theorem gives_pullImages {leaves : Workload → GoString → List TarEntry → Prop}
    {l : LanguageRuntime} : Gives B leaves s l.pullImages fun _ _ => True := by
  have pull : ∀ ref s, Gives B leaves s (pullImage ref) fun r _ => r = none := by
    intro ref s
    unfold pullImage
    refine gives_ask fun r pulled => ?_
    cases pulled
    rfl
  unfold LanguageRuntime.pullImages
  apply (pull _ _).bind
  intro r s' pulled
  subst pulled
  simp only
  split
  · apply (pull _ _).bind
    intro r s'' pulled
    subst pulled
    trivial
  · trivial

theorem gives_ensureImage {leaves : Workload → GoString → List TarEntry → Prop}
    {l : LanguageRuntime} : Gives B leaves s l.ensureImage fun r _ => r = none := by
  have answer : ∀ s, Gives B leaves s (ask (.pullErr l.language) >>= fun pullErr =>
      Proc.ret (pullErr.map PullError.toError)) fun r _ => r = none := by
    intro s
    refine gives_ask fun r noError => ?_
    cases noError
    rfl
  unfold LanguageRuntime.ensureImage
  refine gives_ask fun first _ => ?_
  simp only
  split
  · exact gives_pullImages.bind fun _ _ _ => gives_ask fun _ _ => answer _
  · exact answer _

/-- Every strategy that is registered fixes what it builds before the tests are known. -/
theorem gives_strategy {lang : Language} {strategy : LanguageStrategy}
    (registered : strategyForLanguage lang = .ok strategy) (runtime : LanguageRuntime)
    (B : Behaviour) (artifact : Workload → GoString → List TarEntry) (script : Script) :
    ∃ built : Built, ∀ tests s, Gives B (leavesArtifact artifact) s
      (strategy runtime { script with tests := tests }) fun o _ => built.Describes B artifact o := by
  rcases strategyForLanguage_cases registered with rfl | ⟨spec, rfl⟩
  · exact ⟨pythonBuilt runtime B script.limits script.source, fun _ _ => gives_python⟩
  · exact ⟨spec.built runtime B artifact script.limits script.source, fun _ _ => gives_compiled⟩

/-- **Preparations.**  What an engine builds from a script does not depend on its tests, on the
containers there are or on when it is built. -/
theorem gives_engine {cfg : DockerConfig} {engine : Engine Docker}
    (built : newEngineWithClient cfg = .ok engine) (B : Behaviour)
    (artifact : Workload → GoString → List TarEntry) (script : Script) :
    ∃ K : Built, ∀ tests s, Gives B (leavesArtifact artifact) s
      (engine.prepare { script with tests := tests }) fun o _ => K.Describes B artifact o := by
  obtain ⟨r, rfl, modules⟩ := newEngineWithClient_ok built
  cases found : r.modules.find? fun m => m.runtime.language = script.language with
  | none =>
      refine ⟨.error, fun tests s => ?_⟩
      simp only [Registry.prepare, Registry.moduleFor, found]
      exact ⟨_, rfl⟩
  | some m =>
      obtain ⟨entry, -, module⟩ := modules m (List.mem_of_find?_eq_some found)
      obtain ⟨K, strategy⟩ := gives_strategy (newModule_ok module).2 m.runtime B artifact script
      have matching := List.find?_some found
      have language : m.runtime.language = script.language := of_decide_eq_true matching
      refine ⟨K, fun tests s => ?_⟩
      simp only [Registry.prepare, Registry.moduleFor, found]
      unfold Module.prepare
      simp only [language, ne_eq, not_true_eq_false, ↓reduceIte]
      apply gives_ensureImage.bind
      intro r s' noError
      subst noError
      exact strategy tests s'

end Prepare

/-! ## Suites -/

/-- The verdict on a test from what is observed of its run. -/
def Observed.verdict (x : Observed) (test : TestCase) : Status :=
  if x.status ≠ .unset ∧ x.status ≠ .ok then x.status
  else if x.stdout = test.expectedOutput then .ok
  else .wrongAnswer

theorem RunOutcome.Shows.verdict {o : RunOutcome} {x : Observed} (shown : o.Shows x)
    (test : TestCase) : o.verdict test = x.verdict test := by
  obtain ⟨r, rfl, rfl, -⟩ := shown
  rfl

/-- The fields of a test result that depend on its case and its container alone. -/
structure AsObserved (run : GoString → Observed) (e : TestResult) : Prop where
  status : e.status = (run e.case.input).verdict e.case
  stdout : e.stdout = (run e.case.input).stdout
  stderr : e.stderr = (run e.case.input).stderr
  exitCode : e.exitCode = (run e.case.input).exitCode

section Suite

variable {run : GoString → Observed} {script : Script} {outs : Nat → RunOutcome}

/-- An entry that was executed is as observed: the outcome of its run shows nothing but what the
program does on this input. -/
theorem entry_asObserved
    (shown : ∀ i < executed script.tests outs, (outs i).Shows (run script.tests[i]!.input))
    {e : TestResult} (member : e ∈ (List.range script.tests.length).map (entry script.tests outs))
    (executes : e.status ≠ .notRun) : AsObserved run e := by
  obtain ⟨i, inRange, rfl⟩ := List.mem_map.mp member
  have ran : i < executed script.tests outs := by
    by_contra past
    have skipped : (entry script.tests outs i).status = entryStatus script.tests outs i := by
      unfold entry
      rw [if_neg past]
    refine executes (skipped.trans ?_)
    exact entryStatus_of_le (Nat.le_of_not_lt past) (List.mem_range.mp inRange)
  have fields : (outs i).stdout = (run script.tests[i]!.input).stdout ∧
      (outs i).stderr = (run script.tests[i]!.input).stderr ∧
      (outs i).exitCode = (run script.tests[i]!.input).exitCode := by
    obtain ⟨r, returned, observed, -⟩ := shown i ran
    rw [returned, ← observed]
    exact ⟨rfl, rfl, rfl⟩
  have verdict := (shown i ran).verdict script.tests[i]!
  unfold entry
  rw [if_pos ran, entryStatus_of_lt ran]
  exact ⟨verdict, fields.1, fields.2.1, fields.2.2⟩

/-- A suite is OK when every test is observed to be.  Up to the first one that is not, all tests are
run, so that no observation is missing. -/
theorem overall_ok_iff
    (shown : ∀ i < executed script.tests outs, (outs i).Shows (run script.tests[i]!.input)) :
    overall script.tests outs = .ok ↔
      ∀ test ∈ script.tests, (run test.input).verdict test = .ok := by
  unfold overall
  cases decided : decisive script.tests outs with
  | none =>
      have all : executed script.tests outs = script.tests.length := by
        unfold executed
        rw [decided]
      refine ⟨fun _ test member => ?_, fun _ => rfl⟩
      obtain ⟨i, inRange, rfl⟩ := List.getElem_of_mem member
      have verdict := (shown i (by omega)).verdict script.tests[i]!
      have good := of_decisive_eq_none decided inRange
      rw [← getElem!_pos script.tests i inRange]
      exact verdict.symm.trans good
  | some k =>
      obtain ⟨inRange, bad, -⟩ := of_decisive_eq_some decided
      have ran : k < executed script.tests outs := by
        unfold executed
        rw [decided]
        exact Nat.lt_succ_self k
      refine ⟨fun good => absurd good bad, fun all => ?_⟩
      have good := all script.tests[k]! (getElem!_pos script.tests k inRange ▸ List.getElem_mem _)
      exact absurd (((shown k ran).verdict _).trans good) bad

end Suite

/-- The report is on what was built. -/
def Built.Reports (K : Built) (script : Script) (report : RunReport) : Prop :=
  match K with
  | .script run =>
      (script.tests = [] ∧ ∃ o : RunOutcome, o.Shows (run []) ∧ report.result = o.result) ∨
      (script.tests ≠ [] ∧ ∃ outs, report = referenceReport script outs ∧
        ∀ i < executed script.tests outs, (outs i).Shows (run script.tests[i]!.input))
  | .failed => ∃ r, report.result = some r ∧ r.status = .buildFail ∧ r.tests = []
  | .error => report.result = none

/-- The suite runner reports on what the engine builds, whichever of the three outcomes the
preparation has. -/
theorem gives_suiteRunner {B : Behaviour} {artifact : Workload → GoString → List TarEntry}
    {s : Records} {engine : Engine Docker} {script : Script} {K : Built}
    (prepares : Gives B (leavesArtifact artifact) s (engine.prepare script) fun o _ =>
      K.Describes B artifact o) :
    Gives B (leavesArtifact artifact) s (SuiteRunner.run engine script) fun report _ =>
      K.Reports script report := by
  unfold SuiteRunner.run
  apply prepares.bind
  intro o s' described
  cases K with
  | error =>
      obtain ⟨err, rfl⟩ := described
      exact rfl
  | failed =>
      obtain ⟨r, rfl, status, tests⟩ := described
      exact ⟨r, rfl, status, tests⟩
  | script run =>
      obtain ⟨p, rfl, close, runs⟩ := described
      have prepared : Gives B (leavesArtifact artifact) s'
          (SuiteRunner.runPrepared script { prepared := some p }) fun report _ =>
            (Built.script run).Reports script report := by
        unfold SuiteRunner.runPrepared
        simp only
        split
        · rename_i untested
          apply (runs [] s').bind
          intro o s'' shown
          exact Or.inl ⟨List.length_eq_zero_iff.mp untested, o, shown, rfl⟩
        · rename_i tested
          have each : ∀ stdin s, True → Gives B (leavesArtifact artifact) s (p.run stdin)
              fun o _ => True ∧ o.Shows (run stdin) := fun stdin s _ =>
            (runs stdin s).mono fun _ _ shown => ⟨trivial, shown⟩
          refine (meets_runSuite each trivial).mono fun report s'' reached => ?_
          obtain ⟨-, outs, shown, rfl⟩ := reached
          exact Or.inr ⟨fun empty => tested (List.length_eq_zero_iff.mpr empty), outs, rfl, shown⟩
      refine prepared.deferring fun report s'' reported => ?_
      rw [close]
      exact reported

section Reports

variable {K : Built} {script : Script} {report : RunReport}

/-- The status of a report on what was built is OK. -/
def RunReport.passes (report : RunReport) : Prop := report.result.map Result.status = some .ok

instance (report : RunReport) : Decidable report.passes :=
  inferInstanceAs (Decidable (report.result.map Result.status = some .ok))

/-- What was built passes these tests, in any order. -/
def Built.Passes (K : Built) (tests : List TestCase) : Prop :=
  match K with
  | .script run =>
      if tests = [] then (run []).status = .ok
      else ∀ test ∈ tests, (run test.input).verdict test = .ok
  | _ => False

theorem Built.Reports.passes_iff (reports : K.Reports script report) :
    report.passes ↔ K.Passes script.tests := by
  unfold Built.Passes
  cases K with
  | error =>
      have none : report.result = none := reports
      unfold RunReport.passes
      rw [none]
      exact ⟨nofun, False.elim⟩
  | failed =>
      obtain ⟨r, present, status, -⟩ := reports
      unfold RunReport.passes
      rw [present, Option.map_some, status]
      exact ⟨fun same => absurd (Option.some.inj same) (by decide), False.elim⟩
  | script run =>
      unfold RunReport.passes
      rcases reports with ⟨untested, o, ⟨r, rfl, observed, -⟩, present⟩ | ⟨tested, outs, rfl, shown⟩
      · simp only [untested, ↓reduceIte]
        rw [present, ← observed]
        exact Option.some_inj
      · simp only [tested, ↓reduceIte]
        rw [← overall_ok_iff shown]
        exact Option.some_inj

/-- An entry of a report that was executed is as observed, with the input and the expected output of
its test. -/
theorem Built.Reports.entry {run : GoString → Observed}
    (reports : (Built.script run).Reports script report) {result : Result}
    (present : report.result = some result) {e : TestResult} (member : e ∈ result.tests)
    (executes : e.status ≠ .notRun) : AsObserved run e := by
  rcases reports with ⟨-, o, ⟨r, rfl, -, tests⟩, same⟩ | ⟨-, outs, rfl, shown⟩
  · cases present.symm.trans same
    rw [tests] at member
    cases member
  · cases present
    exact entry_asObserved shown member executes

theorem Built.passes_perm {tests tests' : List TestCase} (perm : tests.Perm tests') :
    K.Passes tests ↔ K.Passes tests' := by
  cases K with
  | error => rfl
  | failed => rfl
  | script run =>
      have empty : tests = [] ↔ tests' = [] := by
        rw [← List.length_eq_zero_iff, ← List.length_eq_zero_iff, perm.length_eq]
      unfold Built.Passes
      simp only [empty, perm.mem_iff]

end Reports

/-- The reports on two suites of one script: they agree on every test that both executed, and when
the tests are the same in another order, both are OK or neither is. -/
structure Isolated (tests tests' : List TestCase) (report report' : RunReport) : Prop where
  agree : ∀ result result', report.result = some result → report'.result = some result' →
    ∀ e ∈ result.tests, ∀ e' ∈ result'.tests, e.case = e'.case →
      e.status ≠ .notRun → e'.status ≠ .notRun →
        e.status = e'.status ∧ e.stdout = e'.stdout ∧ e.stderr = e'.stderr ∧ e.exitCode = e'.exitCode
  order : tests.Perm tests' → (report.passes ↔ report'.passes)

/-- **Isolation.**  Two suites of a script agree on every test that both execute, whatever ran
before it, and a suite is OK in every order of its tests or in none. -/
theorem tests_isolated {cfg : DockerConfig} {engine : Engine Docker}
    (built : newEngineWithClient cfg = .ok engine) (B : Behaviour)
    (artifact : Workload → GoString → List TarEntry) (script : Script) (tests tests' : List TestCase)
    {s s' : Records} {t t' : List (Event Docker)} {report report' : RunReport}
    (run : Exec (SuiteRunner.run engine { script with tests := tests }) t report)
    (run' : Exec (SuiteRunner.run engine { script with tests := tests' }) t' report')
    (allowed : (B.daemon (leavesArtifact artifact)).Allowed s t)
    (allowed' : (B.daemon (leavesArtifact artifact)).Allowed s' t') :
    Isolated tests tests' report report' := by
  obtain ⟨K, prepares⟩ := gives_engine built B artifact script
  have reports := ((gives_suiteRunner (prepares tests s)).sound run allowed).2
  have reports' := ((gives_suiteRunner (prepares tests' s')).sound run' allowed').2
  refine ⟨fun result result' present present' e member e' member' same executes executes' => ?_,
    fun perm => ?_⟩
  · cases K with
    | error => cases (show report.result = none from reports).symm.trans present
    | failed =>
        obtain ⟨r, present₁, -, empty⟩ := reports
        cases present₁.symm.trans present
        rw [empty] at member
        cases member
    | script observe =>
        have first : AsObserved observe e := reports.entry present member executes
        have second : AsObserved observe e' := reports'.entry present' member' executes'
        rw [first.status, first.stdout, first.stderr, first.exitCode, second.status, second.stdout,
          second.stderr, second.exitCode, same]
        exact ⟨rfl, rfl, rfl, rfl⟩
  · exact reports.passes_iff.trans ((Built.passes_perm perm).trans reports'.passes_iff.symm)

/-! ## A daemon -/

/-- The wait for a container that exits when it is left alone. -/
def Behaviour.awaited (B : Behaviour) (c : ContainerRecord) (ctx : Ctx) : WaitEvent :=
  if c.stopped then .status ⟨B.stoppedCode c.work c.deadline, none⟩
  else
    match ctx with
    | .withTimeout .caller limit =>
        if B.inTime c.work limit then .status ⟨B.exitCode c.work, none⟩
        else .ctxDone .deadlineExceeded
    | _ => .status ⟨B.exitCode c.work, none⟩

theorem Behaviour.awaits_awaited {B : Behaviour} (exits : ∀ w, B.timeToExit w ≠ none)
    (c : ContainerRecord) (ctx : Ctx) : B.Awaits c ctx (B.awaited c ctx) := by
  unfold Behaviour.Awaits Behaviour.awaited
  by_cases stopped : c.stopped = true
  · rw [if_pos stopped, if_pos stopped]
  · rw [if_neg stopped, if_neg stopped]
    rcases ctx with _ | _ | ⟨_ | _ | _, limit⟩
    · exact ⟨exits _, rfl⟩
    · exact ⟨exits _, rfl⟩
    · by_cases inTime : B.inTime c.work limit = true
      · simp only [inTime, ↓reduceIte]
      · simp only [inTime, ↓reduceIte, Bool.false_eq_true]
        rfl
    · exact ⟨exits _, rfl⟩
    · exact ⟨exits _, rfl⟩

/-- A daemon that does what `B` says.  Containers are numbered by the calls before them. -/
def Behaviour.serve (B : Behaviour) (artifact : Workload → GoString → List TarEntry)
    (past : List (Event Docker)) : (c : DockerCall) → DockerReply c :=
  let s := (B.daemon (leavesArtifact artifact)).after (fun _ => default) past
  fun
  | .ctxErr _ => none
  | .withTimeout _ _ => ()
  | .now => 0
  | .since _ => Duration.millisecond
  | .pullOnceDo _ => true
  | .pullOnceDone _ => ()
  | .setPullErr _ _ => ()
  | .pullErr _ => none
  | .imagePull _ _ => .value ()
  | .containerCreate _ _ _ => .ok (lit "c" ++ natText past.length)
  | .containerRemove _ _ _ => .ok ()
  | .copyToContainer _ _ _ _ => .ok ()
  | .containerAttach _ _ => .ok ()
  | .writeStdin _ _ => .ok ()
  | .closeWrite _ => ()
  | .closeAttach _ => ()
  | .containerStart _ _ => .ok ()
  | .containerWait ctx id => B.awaited (s id) ctx
  | .containerInspect _ id => .ok (some (B.oomKilled (s id).work))
  | .containerLogs _ id => .value (B.output (s id))
  | .containerStop _ _ => .ok ()
  | .copyFromContainer _ id path => .ok (artifact (s id).work path)

/-- Its replies are those of the contract, at every point of a trace, when every program exits at
some time. -/
theorem Behaviour.serve_allows {B : Behaviour} (exits : ∀ w, B.timeToExit w ≠ none)
    (artifact : Workload → GoString → List TarEntry) (past : List (Event Docker)) (c : DockerCall) :
    B.allows (leavesArtifact artifact)
      ((B.daemon (leavesArtifact artifact)).after (fun _ => default) past) c
      (B.serve artifact past c) := by
  cases c with
  | containerCreate ctx config host => exact ⟨_, rfl⟩
  | containerWait ctx id => exact B.awaits_awaited exits _ ctx
  | containerInspect ctx id => exact ⟨_, rfl, Option.some_inj⟩
  | copyFromContainer ctx id path => exact ⟨_, rfl, rfl⟩
  | ctxErr => rfl
  | pullErr => rfl
  | imagePull => rfl
  | containerRemove => rfl
  | copyToContainer => rfl
  | containerAttach => rfl
  | writeStdin => rfl
  | containerStart => rfl
  | containerLogs => rfl
  | containerStop => rfl
  | _ => trivial

theorem Behaviour.serve_allowed {B : Behaviour} (exits : ∀ w, B.timeToExit w ≠ none)
    (artifact : Workload → GoString → List TarEntry) {α : Type} (p : Proc Docker α) :
    (B.daemon (leavesArtifact artifact)).Allowed (fun _ => default)
      (p.answered (B.serve artifact) []).1 :=
  Proc.answered_allowed (s := fun _ => default) (B.serve_allows exits artifact) p []

/-- Programs that exit at once and print their stdin, or what they are made of when that is
empty. -/
def echo : Behaviour where
  timeToExit _ := some 0
  winsTie _ := true
  exitCode _ := 0
  oomKilled _ := false
  logs w := (if w.stdin = [] then w.files.flatMap fun file => file.2.data else w.stdin, [])
  stoppedCode _ _ := 0
  stoppedLogs _ _ := ([], [])

/-- What is left in a container. -/
def leaves (data : GoString) (_ : Workload) (_ : GoString) : List TarEntry := [.entry true (.ok data)]

/-- The suite of two tests, and the same tests in the other order. -/
theorem tests_isolated_echo :
    ((SuiteRunner.run pythonEngine echoTwice).answered (echo.serve (leaves [])) []).2.passes ↔
      ((SuiteRunner.run pythonEngine { echoTwice with tests := echoTwice.tests.reverse }).answered
        (echo.serve (leaves [])) []).2.passes := by
  have allowed : ∀ tests, _ := fun tests : List TestCase =>
    echo.serve_allowed (fun _ => Option.some_ne_none 0) (leaves [])
      (SuiteRunner.run pythonEngine { echoTwice with tests := tests })
  exact (tests_isolated pythonEngine_built echo (leaves []) echoTwice echoTwice.tests
    echoTwice.tests.reverse (exec_answered _ _ _) (exec_answered _ _ _) (allowed _) (allowed _)).order
    (List.reverse_perm _).symm

/-! ## Builds that differ -/

/-- What is copied out of a container may be anything. -/
def leavesAnything (_ : Workload) (_ : GoString) (_ : List TarEntry) : Prop := True

theorem allowed_leavesAnything {B : Behaviour} {artifact : Workload → GoString → List TarEntry}
    {s : Records} {t : List (Event Docker)}
    (allowed : (B.daemon (leavesArtifact artifact)).Allowed s t) :
    (B.daemon leavesAnything).Allowed s t := by
  refine allowed.mono (fun s c r allows => ?_) fun _ _ _ => rfl
  cases c with
  | copyFromContainer ctx id path =>
      obtain ⟨entries, copied, -⟩ := allows
      exact ⟨entries, copied, trivial⟩
  | _ => exact allows

def cConfig : DockerConfig where
  languages := [(.c, ⟨"gcc:13", [], []⟩)]
  defaultLimits := ⟨0, 0⟩
  keys := by simp

/-- The engine that `newEngineWithClient` builds from `cConfig`. -/
def cEngine : Engine Docker :=
  match newEngineWithClient cConfig with
  | .ok engine => engine
  | .error err => ⟨fun _ => return .failed err⟩

theorem cEngine_built : newEngineWithClient cConfig = .ok cEngine := rfl

/-- A script in C that prints the time it was compiled at, with one test. -/
def printTime : Script where
  id := "time"
  language := .c
  source := "int main() \x7b puts(__TIME__); \x7d"
  tests := [⟨1, [], "12:00:00\n"⟩]

/-- The report on it, when the compiler leaves a program that prints this time. -/
def reportAt (time : GoString) : RunReport :=
  ((SuiteRunner.run cEngine printTime).answered (echo.serve (leaves time)) []).2

/-- Two compilations leave different programs, and the test comes out as two. -/
theorem reportAt_differs :
    ¬ ∀ (cfg : DockerConfig) (engine : Engine Docker) (_ : newEngineWithClient cfg = .ok engine)
        (B : Behaviour) (script : Script) (tests tests' : List TestCase) (s s' : Records)
        (t t' : List (Event Docker)) (report report' : RunReport),
        Exec (SuiteRunner.run engine { script with tests := tests }) t report →
        Exec (SuiteRunner.run engine { script with tests := tests' }) t' report' →
        (B.daemon leavesAnything).Allowed s t → (B.daemon leavesAnything).Allowed s' t' →
          Isolated tests tests' report report' := by
  intro isolated
  have allowed : ∀ time, (echo.daemon leavesAnything).Allowed (fun _ => default)
      ((SuiteRunner.run cEngine printTime).answered (echo.serve (leaves time)) []).1 := fun time =>
    allowed_leavesAnything (echo.serve_allowed (fun _ => Option.some_ne_none 0) (leaves time) _)
  have same := (isolated cConfig cEngine cEngine_built echo printTime printTime.tests printTime.tests
    _ _ _ _ (reportAt "12:00:00\n") (reportAt "12:00:01\n") (exec_answered _ _ _)
    (exec_answered _ _ _) (allowed _) (allowed _)).order (List.Perm.refl _)
  have passes : (reportAt "12:00:00\n").passes := by decide +kernel
  have fails : ¬ (reportAt "12:00:01\n").passes := by decide +kernel
  exact fails (same.mp passes)

end Scrc
