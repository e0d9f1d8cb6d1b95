import Scrc.Docker.Lifecycle
import Scrc.Executor.SuiteReference

/-!
# Preparing and running a script on Docker

The specifications of `Scrc.Docker.Lifecycle` carried through the language strategies, the
modules and the registry, and through the suite runner on top of them: every engine that
`newEngineWithClient` builds keeps the container contract, and what it returns is definite.

* `newEngineWithClient_prepares`: the contract and the outcomes of a preparation.
* `returns_engine`: the scripts that a preparation returns, and what their runs are.
* `keeps_suiteRunner`: the contract over a whole suite.
-/

namespace Scrc

open Interaction

/-- A prepared script whose every run starts and ends without a container. -/
structure PreparedScript.Sound (p : PreparedScript Docker) : Prop where
  run : ∀ stdin, Keeps .absent (p.run stdin) fun o s => o.Definite ∧ s = .absent
  close : p.close = .ret ()

/-- Exactly one of a prepared script, the result of a failed build, and an error, whose text is
not empty. -/
def PrepareOutcome.Definite (o : PrepareOutcome Docker) : Prop :=
  (∃ p, o = { prepared := some p } ∧ p.Sound) ∨
  (∃ r, o = { result := some r } ∧ r.status = .buildFail) ∨
  ∃ err, o = .failed err ∧ err.text ≠ []

/-- A preparation that fails with a text is the third of the three definite outcomes. -/
theorem PrepareOutcome.Definite.failed {err : GoError} (h : err.text ≠ []) :
    (PrepareOutcome.failed err : PrepareOutcome Docker).Definite := Or.inr (Or.inr ⟨err, rfl, h⟩)

/-- A preparation that starts and ends without a container and returns a definite outcome. -/
abbrev Prepares (p : Proc Docker (PrepareOutcome Docker)) : Prop :=
  Keeps .absent p fun o s => s = .absent ∧ o.Definite

/-! ## Images -/

/-- The errors of a pull all say that it was a pull, so their texts are never empty. -/
theorem PullError.text_ne_nil (err : PullError) : err.toError.text ≠ [] := by
  cases err with
  | pull ref err => exact GoError.wrap_text_ne_nil _ _
  | consume ref err => exact GoError.wrap_text_ne_nil _ _

/-- Pulling names no container, and leaves the state of the one at hand as it was. -/
theorem keeps_pullImage {s : Phase} {ref : GoString} :
    Keeps s (pullImage ref) fun _ s' => s' = s := by
  unfold pullImage
  refine keeps_ask trivial fun r => ?_
  cases r with
  | refused err => rfl
  | broken err => rfl
  | value _ => rfl

/-- So does pulling both images, by two uses of the contract for one. -/
theorem keeps_pullImages {s : Phase} {l : LanguageRuntime} :
    Keeps s l.pullImages fun _ s' => s' = s := by
  unfold LanguageRuntime.pullImages
  apply keeps_pullImage.bind
  intro first s' same
  subst same
  cases first with
  | some err => exact keeps_ask trivial fun _ => rfl
  | none =>
      simp only
      split
      · apply keeps_pullImage.bind
        intro second s' same
        subst same
        cases second with
        | some err => exact keeps_ask trivial fun _ => rfl
        | none => rfl
      · rfl

/-- `ensureImage` touches no container, and an error it returns says something. -/
theorem keeps_ensureImage {s : Phase} {l : LanguageRuntime} :
    Keeps s l.ensureImage fun r s' => s' = s ∧ ∀ err, r = some err → err.text ≠ [] := by
  have answer : Keeps s (ask (.pullErr l.language) >>= fun pullErr =>
      Proc.ret (pullErr.map PullError.toError)) fun r s' =>
        s' = s ∧ ∀ err, r = some err → err.text ≠ [] := by
    refine keeps_ask trivial fun pullErr => ⟨rfl, fun err h => ?_⟩
    rcases Option.map_eq_some_iff.mp h with ⟨cause, _, rfl⟩
    exact PullError.text_ne_nil cause
  unfold LanguageRuntime.ensureImage
  refine keeps_ask trivial fun first => ?_
  simp only
  split
  · apply keeps_pullImages.bind
    intro _ s' same
    subst same
    exact keeps_ask trivial fun _ => answer
  · exact answer

/-! ## Strategies -/

/-- A file is copied out of a container that was started, also after its program has exited. -/
theorem keeps_copyFileFromContainer {c : Container} {path : GoString}
    (started : c.started = true) :
    Keeps (.present c) (copyFileFromContainer c.id path) fun _ s => s = .present c := by
  unfold copyFileFromContainer
  refine keeps_ask ⟨rfl, started⟩ fun r => ?_
  cases r with
  | error err => rfl
  | ok entries => rfl

section Compiled

variable {spec : CompiledLanguage} {lang : LanguageRuntime} {script : Script}

/-- The prepared script of a compiled language runs its binary in fresh containers. -/
theorem preparedRun_sound (binary : GoString) (limits : RunLimits) :
    PreparedScript.Sound ⟨spec.preparedRun lang binary limits, .ret ()⟩ :=
  ⟨fun _ => keeps_runProgram (List.cons_ne_nil _ _), rfl⟩

/-- The extraction ends in the result of a failed build, in a prepared script, or in an error.  In
each case the container is still there, for the deferred removal. -/
theorem keeps_extract {c : Container} {limits : RunLimits} {buildResult : Result}
    (started : c.started = true) :
    Keeps (.present c) (spec.extract lang limits c.id buildResult) fun o s =>
      o.Definite ∧ s.Holds c.id fun _ => True := by
  unfold CompiledLanguage.extract
  split
  · exact ⟨Or.inr (Or.inl ⟨_, rfl, rfl⟩), rfl, trivial⟩
  · apply (keeps_copyFileFromContainer started).bind
    intro r s same
    subst same
    cases r with
    | error err => exact ⟨.failed (GoError.wrap_text_ne_nil _ _), rfl, trivial⟩
    | ok binary => exact ⟨Or.inl ⟨_, rfl, preparedRun_sound binary limits⟩, rfl, trivial⟩

/-- A build that was started comes to the extraction once it has exited, to what the handling of an
expired deadline makes of it, or to an error. -/
theorem keeps_buildStarted {c : Container} {runLimits buildLimits : RunLimits} {start : Int64}
    (started : c.started = true) (running : c.limit = .running) :
    Keeps (.present c) (spec.buildStarted lang runLimits buildLimits c.id start) fun o s =>
      o.Definite ∧ s.Holds c.id fun _ => True := by
  unfold CompiledLanguage.buildStarted
  apply (keeps_awaitExit started running).bind
  intro r s reached
  rcases reached with ⟨status, rfl, rfl⟩ | ⟨rfl, -, rfl⟩ | ⟨err, limit, rfl, text, rfl⟩
  · have notExpired : c.limit ≠ .expired := by
      rw [running]
      exact LimitPhase.noConfusion
    apply (keeps_collectResult started notExpired).bind
    intro r s reached
    rcases reached with ⟨rfl, ⟨err, rfl, text⟩ | ⟨result, rfl, -⟩⟩
    · exact ⟨.failed text, rfl, trivial⟩
    · exact keeps_extract started
  · apply (keeps_handleTimeLimit (c := { c with limit := .expiredLive }) started rfl).bind
    intro o s reached
    rcases reached with ⟨rfl, ⟨r, rfl, -⟩ | ⟨err, rfl, text⟩⟩
    · exact ⟨Or.inr (Or.inl ⟨_, rfl, rfl⟩), rfl, trivial⟩
    · exact ⟨.failed text, rfl, trivial⟩
  · exact ⟨.failed text, rfl, trivial⟩

/-- From the creation of the build container to its end.  What holds of it at the end is all that
the deferred removal needs. -/
theorem keeps_buildCreated {runLimits buildLimits : RunLimits} {id : GoString} :
    Keeps (.present { id := id, attachStdin := false })
      (spec.buildCreated lang script runLimits buildLimits id) fun o s =>
        o.Definite ∧ s.Holds id fun _ => True := by
  unfold CompiledLanguage.buildCreated
  refine (keeps_copyFiles (c := { id := id, attachStdin := false }) rfl
    (List.cons_ne_nil _ _)).bind fun r s reached => ?_
  rcases reached with ⟨err, rfl, rfl⟩ | ⟨rfl, rfl⟩
  · exact ⟨.failed (GoError.wrap_text_ne_nil _ _), rfl, trivial⟩
  · refine keeps_ask trivial fun start => ?_
    refine keeps_ask ⟨rfl, rfl, rfl, fun absurd => nomatch absurd⟩ fun r => ?_
    cases r with
    | error err => exact ⟨.failed (GoError.wrap_text_ne_nil _ _), rfl, trivial⟩
    | ok =>
        exact keeps_buildStarted
          (c := { id := id, attachStdin := false, copied := true, started := true }) rfl rfl

/-- The strategies of the four compiled languages are one definition, so one proof serves them: the
container of the build is removed on every path, and the prepared script owes the same for each of
its runs. -/
theorem prepares_compiled : Prepares (spec.prepare lang script) := by
  unfold CompiledLanguage.prepare
  apply keeps_createContainerWithImage.bind
  intro r s reached
  rcases reached with ⟨err, rfl, text, rfl⟩ | ⟨id, rfl, rfl⟩
  · exact ⟨rfl, .failed text⟩
  · refine keeps_buildCreated.deferring fun o s post => ?_
    exact (keeps_cleanup post.2).mono fun _ s' gone => ⟨gone, post.1⟩

end Compiled

/-- Python has nothing to build.  Preparing a script only pulls the images and keeps the source for
the runs. -/
theorem prepares_python {lang : LanguageRuntime} {script : Script} :
    Prepares (pythonStrategy lang script) :=
  ⟨rfl, Or.inl ⟨_, rfl, fun _ => keeps_runProgram (List.cons_ne_nil _ _), rfl⟩⟩

/-- Every strategy that is registered for a language keeps the contract. -/
theorem prepares_of_strategyForLanguage {lang : Language} {strategy : LanguageStrategy}
    (h : strategyForLanguage lang = .ok strategy) (runtime : LanguageRuntime) (script : Script) :
    Prepares (strategy runtime script) := by
  rcases strategyForLanguage_cases h with rfl | ⟨spec, rfl⟩
  · exact prepares_python
  · exact prepares_compiled

/-! ## The engine -/

/-- A module whose strategy keeps the contract on its own runtime. -/
def Module.Sound (m : Module) : Prop := ∀ script, Prepares (m.strategy m.runtime script)

/-- A text with a beginning that is not empty is not empty. -/
theorem quoted_ne_nil (text rest : GoString) (h : text ≠ []) :
    (GoError.new (text ++ rest)).text ≠ [] := by
  simp [GoError.new, h]

/-- A module either refuses a script of another language, or hands it to its strategy. -/
theorem Module.Sound.prepares {m : Module} (sound : m.Sound) (script : Script) :
    Prepares (m.prepare script) := by
  unfold Module.prepare
  split
  · refine ⟨rfl, .failed ?_⟩
    rw [List.append_assoc, List.append_assoc]
    exact quoted_ne_nil _ _ (by decide)
  · apply keeps_ensureImage.bind
    intro r s reached
    rcases reached with ⟨rfl, text⟩
    cases r with
    | some err => exact ⟨rfl, .failed (text err rfl)⟩
    | none => exact sound script

/-- Whatever configuration a module is made from, it has one of the two kinds of strategies. -/
theorem newModule_sound {lang : Language} {cfg : LanguageConfig} {env : ContainerEngine}
    {m : Module} (built : newModule lang cfg env = .ok m) : m.Sound :=
  fun script => prepares_of_strategyForLanguage (newModule_ok built).2 m.runtime script

/-- **Every engine that can be built keeps the contract**, whichever languages it is built over. -/
theorem newEngineWithClient_prepares {cfg : DockerConfig} {engine : Engine Docker}
    (built : newEngineWithClient cfg = .ok engine) (script : Script) :
    Prepares (engine.prepare script) := by
  obtain ⟨r, rfl, modules⟩ := newEngineWithClient_ok built
  rcases r.prepare_cases script with ⟨m, member, -, same⟩ | ⟨lang, same⟩
  · obtain ⟨entry, -, module⟩ := modules m member
    simp only [same]
    exact (newModule_sound module).prepares script
  · simp only [same]
    exact ⟨rfl, .failed (quoted_ne_nil _ _ (by decide))⟩

/-! ## What a preparation returns -/

/-- An error, a result without test entries, or a script that satisfies `P`. -/
inductive PrepareOutcome.Yields (P : PreparedScript Docker → Prop) : PrepareOutcome Docker → Prop
  | failed (err : GoError) : Yields P (.failed err)
  | unbuilt (result : Option Result) (untested : ∀ r, result = some r → r.tests = []) :
      Yields P { result := result }
  | prepared (p : PreparedScript Docker) (holds : P p) : Yields P { prepared := some p }

/-- What is said of the prepared script can be weakened; the other outcomes have none. -/
theorem PrepareOutcome.Yields.mono {P Q : PreparedScript Docker → Prop} {o : PrepareOutcome Docker}
    (yields : o.Yields P) (imp : ∀ p, P p → Q p) : o.Yields Q := by
  cases yields with
  | failed err => exact .failed err
  | unbuilt result untested => exact .unbuilt result untested
  | prepared p holds => exact .prepared p (imp p holds)

/-- Every run of the prepared script is a run of one program, under the limits of the script or
these merged with the defaults. -/
def LanguageRuntime.Runs (lang : LanguageRuntime) (script : Script) (p : PreparedScript Docker) :
    Prop :=
  ∃ limits command files,
    (limits = script.limits ∨ limits = lang.engine.effectiveLimits script.limits) ∧
      ∀ stdin, p.run stdin = runProgram lang limits command files stdin true

section Returns

variable {spec : CompiledLanguage} {lang : LanguageRuntime} {script : Script}

/-- No result of a run has test entries of its own; they are added by the suite. -/
theorem returns_timeLimitResult (id : GoString) (start exitCode : Int64) :
    (timeLimitResult id start exitCode).Returns fun o => ∀ r, o.result = some r → r.tests = [] := by
  unfold timeLimitResult
  apply (Proc.Returns.any _).bind
  intro logs _ _
  cases logs with
  | error err => exact fun r absurd => nomatch absurd
  | ok logs =>
      apply Proc.Returns.ask
      intro duration r present
      cases present
      rfl

/-- The same for what the handling of an expired deadline returns. -/
theorem returns_handleTimeLimit (id : GoString) (start : Int64) :
    (handleTimeLimit id start).Returns fun o => ∀ r, o.result = some r → r.tests = [] := by
  have stopped : (afterStop id start).Returns fun o => ∀ r, o.result = some r → r.tests = [] := by
    unfold afterStop
    apply Proc.Returns.ask
    intro _
    apply (Proc.Returns.any _).bind
    intro r _ _
    cases r with
    | error err =>
        simp only
        split
        · exact fun r absurd => nomatch absurd
        · exact returns_timeLimitResult id start _
    | ok status => exact returns_timeLimitResult id start _
  unfold handleTimeLimit
  apply Proc.Returns.ask
  intro _
  apply Proc.Returns.ask
  intro r
  cases r with
  | error err =>
      simp only
      split
      · exact fun r absurd => nomatch absurd
      · exact stopped
  | ok => exact stopped

/-- And for what is collected of a run that has exited. -/
theorem returns_collectResult (id : GoString) (start : Int64) (status : WaitResponse) :
    (collectResult id start status).Returns fun r =>
      ∀ result, r = .ok result → result.tests = [] := by
  unfold collectResult
  apply (Proc.Returns.any _).bind
  intro ctx _ _
  apply Proc.Returns.ask
  intro r
  cases r with
  | error err => exact fun result absurd => nomatch absurd
  | ok oomKilled =>
      apply (Proc.Returns.any _).bind
      intro ctx _ _
      apply (Proc.Returns.any _).bind
      intro logs _ _
      cases logs with
      | error err => exact fun result absurd => nomatch absurd
      | ok logs =>
          apply Proc.Returns.ask
          intro duration result same
          cases same
          rfl

/-- The limits of the runs are merged before the build, and the script that is prepared is run under
these. -/
theorem returns_extract {limits : RunLimits} {id : GoString} {buildResult : Result}
    (merged : limits = lang.engine.effectiveLimits script.limits)
    (untested : buildResult.tests = []) :
    (spec.extract lang limits id buildResult).Returns
      (PrepareOutcome.Yields (lang.Runs script)) := by
  unfold CompiledLanguage.extract
  split
  · refine .unbuilt _ fun r present => ?_
    cases present
    exact untested
  · apply (Proc.Returns.any _).bind
    intro r _ _
    cases r with
    | error err => exact .failed _
    | ok binary => exact .prepared _ ⟨limits, _, _, Or.inr merged, fun _ => rfl⟩

/-- Whichever way a build ends, only the extraction prepares a script, and a result has no entries.
-/
theorem returns_buildStarted {runLimits buildLimits : RunLimits} {id : GoString} {start : Int64}
    (merged : runLimits = lang.engine.effectiveLimits script.limits) :
    (spec.buildStarted lang runLimits buildLimits id start).Returns
      (PrepareOutcome.Yields (lang.Runs script)) := by
  unfold CompiledLanguage.buildStarted
  apply (Proc.Returns.any _).bind
  intro awaited _ _
  cases awaited with
  | failed err => exact .failed err
  | timeLimit =>
      apply (returns_handleTimeLimit id start).bind
      intro o _ untested
      cases o.err with
      | some err => exact .failed err
      | none =>
          refine .unbuilt _ fun r present => ?_
          obtain ⟨r', inside, rfl⟩ := Option.map_eq_some_iff.mp present
          exact untested r' inside
  | exited status =>
      apply (returns_collectResult id start status).bind
      intro r _ untested
      cases r with
      | error err => exact .failed err
      | ok buildResult => exact returns_extract merged (untested _ rfl)

/-- So whatever a compiled language prepares, its runs are `runProgram` under the merged limits. -/
theorem returns_compiled :
    (spec.prepare lang script).Returns (PrepareOutcome.Yields (lang.Runs script)) := by
  unfold CompiledLanguage.prepare
  apply (Proc.Returns.any _).bind
  intro created _ _
  cases created with
  | error err => exact .failed err
  | ok id =>
      refine Proc.Meets.deferring ?_ fun o _ yields =>
        (Proc.Returns.any (cleanup id)).mono fun _ _ _ => yields
      unfold CompiledLanguage.buildCreated
      apply (Proc.Returns.any _).bind
      intro copied _ _
      cases copied with
      | error err => exact .failed _
      | ok =>
          apply Proc.Returns.ask
          intro start
          apply Proc.Returns.ask
          intro started
          cases started with
          | error err => exact .failed _
          | ok => exact returns_buildStarted rfl

/-- For Python the runs are of the source itself. -/
theorem returns_python :
    (pythonStrategy lang script).Returns (PrepareOutcome.Yields (lang.Runs script)) :=
  .prepared _ ⟨script.limits, _, _, Or.inl rfl, fun _ => rfl⟩

/-- What a module returns, through its strategy: a script is prepared, or there is a result without
entries, or an error. -/
theorem returns_module {language : Language} {cfg : LanguageConfig} {env : ContainerEngine}
    {m : Module} (built : newModule language cfg env = .ok m) :
    (m.prepare script).Returns (PrepareOutcome.Yields (m.runtime.Runs script)) := by
  unfold Module.prepare
  split
  · exact .failed _
  · apply (Proc.Returns.any _).bind
    intro pulled _ _
    cases pulled with
    | some err => exact .failed err
    | none =>
        simp only
        rcases strategyForLanguage_cases (newModule_ok built).2 with python | ⟨spec, compiled⟩
        · rw [python]
          exact returns_python
        · rw [compiled]
          exact returns_compiled

/-- **What an engine returns**: whichever language the script is in, its runs are runs of one
program on a runtime with the defaults of the engine. -/
theorem returns_engine {cfg : DockerConfig} {engine : Engine Docker}
    (built : newEngineWithClient cfg = .ok engine) (script : Script) :
    (engine.prepare script).Returns (PrepareOutcome.Yields fun p => ∃ lang : LanguageRuntime,
      lang.engine = newContainerEngine cfg.defaultLimits ∧ lang.Runs script p) := by
  obtain ⟨r, rfl, modules⟩ := newEngineWithClient_ok built
  rcases r.prepare_cases script with ⟨m, member, -, same⟩ | ⟨lang, same⟩
  · obtain ⟨entry, -, module⟩ := modules m member
    have engine : m.runtime.engine = newContainerEngine cfg.defaultLimits :=
      newLanguageRuntime_engine (newModule_ok module).1
    simp only [same]
    exact (returns_module module).mono fun o _ yields =>
      yields.mono fun p runs => ⟨m.runtime, engine, runs⟩
  · simp only [same]
    exact .failed _

end Returns

/-! ## An engine for Python -/

/-- A configuration with one language. -/
def pythonConfig : DockerConfig where
  languages := [(.python, ⟨"python:3.12-alpine", [], []⟩)]
  defaultLimits := ⟨10 * Duration.second, 0⟩
  keys := by simp

/-- The engine that `newEngineWithClient` builds from `pythonConfig`. -/
def pythonEngine : Engine Docker :=
  match newEngineWithClient pythonConfig with
  | .ok engine => engine
  | .error err => ⟨fun _ => return .failed err⟩

/-- One engine, for the witnesses of this and other modules. -/
theorem pythonEngine_built : newEngineWithClient pythonConfig = .ok pythonEngine := rfl

/-- A script that is tested twice. -/
def echoTwice : Script where
  id := "echo"
  language := .python
  source := "print(input())"
  tests := [⟨1, "1\n", "1\n"⟩, ⟨2, "2\n", "2\n"⟩]

/-- A daemon that serves every call: containers are numbered by the calls before them, and a
program echoes the stdin written last. -/
def servingDaemon (past : List (Event Docker)) : (c : DockerCall) → DockerReply c
  | .ctxErr _ => none
  | .withTimeout _ _ => ()
  | .now => 0
  | .since _ => Duration.millisecond
  | .pullOnceDo _ => true
  | .pullOnceDone _ => ()
  | .setPullErr _ _ => ()
  | .pullErr _ => none
  | .imagePull _ _ => .value ()
  | .containerCreate _ _ _ => .ok (lit "c" ++ natText past.length)
  | .containerRemove _ _ _ => .ok ()
  | .copyToContainer _ _ _ _ => .ok ()
  | .containerAttach _ _ => .ok ()
  | .writeStdin _ _ => .ok ()
  | .closeWrite _ => ()
  | .closeAttach _ => ()
  | .containerStart _ _ => .ok ()
  | .containerWait _ _ => .status ⟨0, none⟩
  | .containerInspect _ _ => .ok (some false)
  | .containerLogs _ _ =>
      let written := past.reverse.findSome? fun e =>
        match e.call with
        | .writeStdin _ data => some data
        | _ => none
      .value (written.getD [], [])
  | .containerStop _ _ => .ok ()
  | .copyFromContainer _ _ _ => .ok []

/-! ## The suite runner on an engine -/

open SuiteReference

/-- What a report of the suite runner can look like: an error of the preparation, the result of a
failed build, the outcome of a single run, or the reference's report over definite outcomes. -/
inductive ReportShape (script : Script) : RunReport → Prop
  | prepareFailed {err : GoError} (text : err.text ≠ []) :
      ReportShape script { script := script, err := some err }
  | buildFailed {r : Result} (status : r.status = .buildFail) :
      ReportShape script { script := script, result := some r }
  | single {o : RunOutcome} (untested : script.tests = []) (definite : o.Definite) :
      ReportShape script { script := script, result := o.result, err := o.err }
  | suite {outs : Nat → RunOutcome} (tested : script.tests ≠ [])
      (definite : ∀ i < executed script.tests outs, (outs i).Definite) :
      ReportShape script (referenceReport script outs)

/-- Running the prepared script on all its tests and closing it: every run leaves no container
behind, which is where the next one begins. -/
theorem keeps_runPrepared {script : Script} {p : PreparedScript Docker} (sound : p.Sound) :
    Keeps .absent (SuiteRunner.runPrepared script { prepared := some p }) fun report s =>
      s = .absent ∧ ReportShape script report := by
  unfold SuiteRunner.runPrepared
  simp only
  split
  · rename_i untested
    refine (sound.run []).bind fun o s post => ⟨post.2, ?_⟩
    exact .single (List.length_eq_zero_iff.mp untested) post.1
  · rename_i tested
    have runs : ∀ stdin s, s = Phase.absent →
        Keeps s (p.run stdin) fun o s' => s' = .absent ∧ o.Definite := by
      intro stdin s absent
      subst absent
      exact (sound.run stdin).mono fun o s' post => ⟨post.2, post.1⟩
    refine (meets_runSuite runs rfl).mono fun report s reached => ?_
    rcases reached with ⟨absent, outs, definite, rfl⟩
    exact ⟨absent, .suite (fun empty => tested (List.length_eq_zero_iff.mpr empty)) definite⟩

/-- **The suite runner on a sound engine** starts and ends without a container, and its report has
one of four shapes: the branch for a nil prepared script is not among them. -/
theorem keeps_suiteRunner {engine : Engine Docker} {script : Script}
    (prepares : Prepares (engine.prepare script)) :
    Keeps .absent (SuiteRunner.run engine script) fun report s =>
      s = .absent ∧ ReportShape script report := by
  unfold SuiteRunner.run
  apply prepares.bind
  intro o s reached
  rcases reached with ⟨rfl, ⟨p, rfl, sound⟩ | ⟨r, rfl, status⟩ | ⟨err, rfl, text⟩⟩
  · refine (keeps_runPrepared sound).deferring fun report s post => ?_
    rw [sound.close]
    exact post
  · exact ⟨rfl, .buildFailed status⟩
  · exact ⟨rfl, .prepareFailed text⟩

end Scrc
