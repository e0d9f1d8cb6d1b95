import Scrc.Docker.ContainerEngine

/-!
# Language strategies and the engine

`Prepare` of the five languages, the language modules with their shared image pull, and the
registry that dispatches a script to the module of its language.
-/

namespace Scrc

open Interaction

/-! ## Images -/

/-- `pullImage`; `none` is the nil error. -/
def pullImage (ref : GoString) : Proc Docker (Option PullError) := do
  match ← ask (.imagePull .caller ref) with
  | .refused err => return some (.pull ref err)
  | .broken err => return some (.consume ref err)
  | .value _ => return none

namespace LanguageRuntime

/-- The body that `pullOnce.Do` runs: the build image, then the run image when it differs. -/
def pullImages (l : LanguageRuntime) : Proc Docker Unit := do
  match ← pullImage l.config.image with
  | some err => ask (.setPullErr l.language err)
  | none =>
      if l.config.runImage ≠ l.config.image then
        match ← pullImage l.config.runImage with
        | some err => ask (.setPullErr l.language err)
        | none => return ()
      else return ()

def ensureImage (l : LanguageRuntime) : Proc Docker (Option GoError) := do
  let first : Bool ← ask (.pullOnceDo l.language)
  if first then
    l.pullImages
    ask (.pullOnceDone l.language)
  let pullErr : Option PullError ← ask (.pullErr l.language)
  return pullErr.map PullError.toError

end LanguageRuntime

/-! ## Paths -/

/-- The elements of a slash-separated path, empty ones included. -/
def pathElements : GoString → List GoString
  | [] => [[]]
  | b :: rest =>
      if b = 47 then [] :: pathElements rest
      else
        match pathElements rest with
        | [] => [[b]]
        | element :: others => (b :: element) :: others

/-- One element of `path.Clean`, over the elements kept so far in reverse: empty elements and `.`
go, `..` takes back the element before it, unless there is none or that is itself a `..`. -/
def cleanElement (rooted : Bool) (kept : List GoString) (element : GoString) : List GoString :=
  if element = [] ∨ element = lit "." then kept
  else if element = lit ".." then
    match kept with
    | [] => if rooted then [] else [element]
    | last :: earlier => if last = lit ".." then element :: kept else earlier
  else element :: kept

/-- `path.Clean`. -/
def pathClean (p : GoString) : GoString :=
  let rooted := p.head? = some 47
  let kept := ((pathElements p).foldl (cleanElement rooted) []).reverse
  let body := (lit "/").intercalate kept
  if rooted then lit "/" ++ body else if body = [] then lit "." else body

/-- `path.Join(dir, name)`. -/
def pathJoin (dir name : GoString) : GoString :=
  if dir = [] ∧ name = [] then []
  else if dir = [] then pathClean name
  else if name = [] then pathClean dir
  else pathClean (dir ++ lit "/" ++ name)

/-! ## Strategies -/

/-- `languageStrategy`, as far as `Prepare` goes. -/
abbrev LanguageStrategy := LanguageRuntime → Script → Proc Docker (PrepareOutcome Docker)

/-- `return nil, nil, err`. -/
def PrepareOutcome.failed {I : Interface} (err : GoError) : PrepareOutcome I := { err := some err }

/-- `return nil, result, nil` with the status of a failed build. -/
def PrepareOutcome.buildFailed {I : Interface} (result : Result) : PrepareOutcome I :=
  { result := some { result with status := .buildFail } }

/-- What distinguishes the four compiled languages. -/
structure CompiledLanguage where
  buildCmd : List GoString
  sourceFilename : GoString
  binaryFilename : GoString
  binaryMode : Nat
  runCmd : List GoString
  extractError : GoString

/-- `Run` of the prepared scripts of the compiled languages. -/
def CompiledLanguage.preparedRun (spec : CompiledLanguage) (runtime : LanguageRuntime)
    (binary : GoString) (limits : RunLimits) (stdin : GoString) : Proc Docker RunOutcome :=
  runProgram runtime limits spec.runCmd [⟨spec.binaryFilename, spec.binaryMode, binary⟩] stdin true

/-- `Prepare` of the compiled languages after a clean exit of the compiler. -/
def CompiledLanguage.extract (spec : CompiledLanguage) (lang : LanguageRuntime)
    (runLimits : RunLimits) (id : GoString) (buildResult : Result) :
    Proc Docker (PrepareOutcome Docker) := do
  if buildResult.status ≠ .ok ∨ buildResult.exitCode ≠ 0 then
    return .buildFailed buildResult
  match ← copyFileFromContainer id (pathJoin lang.config.workdir spec.binaryFilename) with
  | .error err => return .failed (.wrap spec.extractError err)
  | .ok binary =>
      return { prepared := some ⟨spec.preparedRun lang binary runLimits, .ret ()⟩ }

/-- `Prepare` of the compiled languages after the start of the build container. -/
def CompiledLanguage.buildStarted (spec : CompiledLanguage) (lang : LanguageRuntime)
    (runLimits buildLimits : RunLimits) (id : GoString) (start : Int64) :
    Proc Docker (PrepareOutcome Docker) := do
  match ← awaitExit buildLimits id with
  | .failed err => return .failed err
  | .timeLimit =>
      let outcome ← handleTimeLimit id start
      match outcome.err with
      | some err => return .failed err
      | none => return { result := outcome.result.map fun r => { r with status := .buildFail } }
  | .exited status =>
      match ← collectResult id start status with
      | .error err => return .failed err
      | .ok buildResult => spec.extract lang runLimits id buildResult

/-- `Prepare` of the compiled languages after the creation of the build container. -/
def CompiledLanguage.buildCreated (spec : CompiledLanguage) (lang : LanguageRuntime)
    (script : Script) (runLimits buildLimits : RunLimits) (id : GoString) :
    Proc Docker (PrepareOutcome Docker) := do
  match ← copyFiles id lang.config.workdir [⟨spec.sourceFilename, 0o644, script.source⟩] with
  | .error err => return .failed (.wrap "copy source" err)
  | .ok _ =>
      let start ← ask .now
      match ← ask (.containerStart .caller id) with
      | .error err => return .failed (.wrap "start container" err)
      | .ok _ => spec.buildStarted lang runLimits buildLimits id start

/-- `Prepare` of the compiled languages: the build runs without a time limit. -/
def CompiledLanguage.prepare (spec : CompiledLanguage) : LanguageStrategy := fun lang script => do
  let runLimits := lang.engine.effectiveLimits script.limits
  let buildLimits := { runLimits with timeLimit := 0 }
  match ← createContainer lang buildLimits spec.buildCmd false with
  | .error err => return .failed err
  | .ok id =>
      Proc.deferring (cleanup id) (spec.buildCreated lang script runLimits buildLimits id)

def cStrategy : CompiledLanguage where
  buildCmd := ["gcc", "-static", "-O2", "-pipe", "-o", "program", "main.c"]
  sourceFilename := "main.c"
  binaryFilename := "program"
  binaryMode := 0o755
  runCmd := ["./program"]
  extractError := "extract compiled binary"

def cppStrategy : CompiledLanguage where
  buildCmd := ["g++", "-static", "-O2", "-pipe", "-o", "program", "main.cpp"]
  sourceFilename := "main.cpp"
  binaryFilename := "program"
  binaryMode := 0o755
  runCmd := ["./program"]
  extractError := "extract compiled binary"

def goStrategy : CompiledLanguage where
  buildCmd := ["sh", "-c", "CGO_ENABLED=0 go build -o program main.go"]
  sourceFilename := "main.go"
  binaryFilename := "program"
  binaryMode := 0o755
  runCmd := ["./program"]
  extractError := "extract compiled binary"

def javaStrategy : CompiledLanguage where
  buildCmd := ["sh", "-c", "javac Main.java && jar cfe program.jar Main *.class"]
  sourceFilename := "Main.java"
  binaryFilename := "program.jar"
  binaryMode := 0o644
  runCmd := ["java", "-jar", "program.jar"]
  extractError := "extract compiled artifact"

/-- `Prepare` of Python, the interpreted language: the limits stay those of the script. -/
def pythonStrategy : LanguageStrategy := fun lang script => do
  let run (stdin : GoString) : Proc Docker RunOutcome :=
    runProgram lang script.limits ["python", "script.py"]
      [⟨"script.py", 0o644, script.source⟩] stdin true
  return { prepared := some ⟨run, .ret ()⟩ }

def strategyForLanguage (lang : Language) : Except GoError LanguageStrategy :=
  if lang = .python then .ok pythonStrategy
  else if lang = .go then .ok goStrategy.prepare
  else if lang = .c then .ok cStrategy.prepare
  else if lang = .cpp then .ok cppStrategy.prepare
  else if lang = .java then .ok javaStrategy.prepare
  else .error (.new (lit "docker runtime: no strategy registered for language " ++ quote lang.name))

/-- Every language but Python is compiled. -/
theorem strategyForLanguage_compiled {lang : Language} {strategy : LanguageStrategy}
    (h : strategyForLanguage lang = .ok strategy) (compiled : lang ≠ .python) :
    ∃ spec : CompiledLanguage, strategy = spec.prepare := by
  unfold strategyForLanguage at h
  rw [if_neg compiled] at h
  split at h
  · exact ⟨_, (Except.ok.inj h).symm⟩
  · split at h
    · exact ⟨_, (Except.ok.inj h).symm⟩
    · split at h
      · exact ⟨_, (Except.ok.inj h).symm⟩
      · split at h
        · exact ⟨_, (Except.ok.inj h).symm⟩
        · cases h

/-- Python runs its source, the others the artifact of a build. -/
theorem strategyForLanguage_cases {lang : Language} {strategy : LanguageStrategy}
    (h : strategyForLanguage lang = .ok strategy) :
    strategy = pythonStrategy ∨ ∃ spec : CompiledLanguage, strategy = spec.prepare := by
  by_cases python : lang = .python
  · unfold strategyForLanguage at h
    rw [if_pos python] at h
    exact Or.inl (Except.ok.inj h).symm
  · exact Or.inr (strategyForLanguage_compiled h python)

/-! ## Modules and the engine -/

/-- `module`: a language's runtime and its strategy. -/
structure Module where
  runtime : LanguageRuntime
  strategy : LanguageStrategy

def newLanguageRuntime (lang : Language) (cfg : LanguageConfig) (engine : ContainerEngine) :
    Except GoError LanguageRuntime :=
  if cfg.image = [] then
    .error (.new (lit "docker runtime: language " ++ quote lang.name ++
      lit " missing image configuration"))
  else
    .ok {
      language := lang
      config := {
        image := cfg.image
        runImage := if cfg.runImage = [] then cfg.image else cfg.runImage
        workdir := if cfg.workdir = [] then lit "/tmp" else cfg.workdir }
      engine := engine }

def newModule (lang : Language) (cfg : LanguageConfig) (engine : ContainerEngine) :
    Except GoError Module :=
  match newLanguageRuntime lang cfg engine with
  | .error err => .error err
  | .ok runtime =>
      match strategyForLanguage lang with
      | .error err => .error err
      | .ok strategy => .ok ⟨runtime, strategy⟩

def Module.prepare (m : Module) (script : Script) : Proc Docker (PrepareOutcome Docker) := do
  if script.language ≠ m.runtime.language then
    return .failed (.new (lit "docker runtime: script language " ++ quote script.language.name ++
      lit " does not match module " ++ quote m.runtime.language.name))
  match ← m.runtime.ensureImage with
  | some err => return .failed err
  | none => m.strategy m.runtime script

/-- `Registry`: the modules, whose languages are not empty and pairwise distinct. -/
structure Registry where
  modules : List Module
  named : ∀ m ∈ modules, m.runtime.language.name ≠ []
  distinct : (modules.map fun m => m.runtime.language).Nodup
  nonempty : modules ≠ []

/-- The loop of `NewRegistry` over the modules not registered yet. -/
def registerAll : List Language → List Module → Except GoError Unit
  | _, [] => .ok ()
  | seen, m :: mods =>
      if m.runtime.language.name = [] then
        .error (.new "runtime module missing language identifier")
      else if m.runtime.language ∈ seen then
        .error (.new (lit "duplicate runtime module for language " ++
          quote m.runtime.language.name))
      else registerAll (m.runtime.language :: seen) mods

theorem registerAll_ok {seen : List Language} {mods : List Module}
    (h : registerAll seen mods = .ok ()) :
    (∀ m ∈ mods, m.runtime.language.name ≠ []) ∧
      (mods.map fun m => m.runtime.language).Nodup ∧
      ∀ m ∈ mods, m.runtime.language ∉ seen := by
  induction mods generalizing seen with
  | nil => exact ⟨by simp, List.nodup_nil, by simp⟩
  | cons m mods ih =>
      unfold registerAll at h
      by_cases empty : m.runtime.language.name = []
      · rw [if_pos empty] at h
        cases h
      · by_cases dup : m.runtime.language ∈ seen
        · rw [if_neg empty, if_pos dup] at h
          cases h
        · rw [if_neg empty, if_neg dup] at h
          rcases ih h with ⟨named, distinct, fresh⟩
          have apart : m.runtime.language ∉ mods.map fun m => m.runtime.language := by
            intro inside
            rcases List.mem_map.mp inside with ⟨m', member, same⟩
            exact fresh m' member (by rw [same]; exact List.mem_cons_self)
          refine ⟨?_, List.nodup_cons.mpr ⟨apart, distinct⟩, ?_⟩
          · intro m' member
            rcases List.mem_cons.mp member with rfl | later
            · exact empty
            · exact named m' later
          · intro m' member inside
            rcases List.mem_cons.mp member with rfl | later
            · exact dup inside
            · exact fresh m' later (List.mem_cons_of_mem _ inside)

def newRegistry (mods : List Module) : Except GoError Registry :=
  match h : registerAll [] mods with
  | .error err => .error err
  | .ok () =>
      if empty : mods = [] then .error (.new "at least one runtime module must be registered")
      else .ok ⟨mods, (registerAll_ok h).1, (registerAll_ok h).2.1, empty⟩

def Registry.moduleFor (r : Registry) (lang : Language) : Except GoError Module :=
  match r.modules.find? fun m => m.runtime.language = lang with
  | some m => .ok m
  | none => .error (.new (lit "no runtime module registered for language " ++ quote lang.name))

/-- `Registry.Prepare`, which is also `Engine.Prepare`. -/
def Registry.prepare (r : Registry) (script : Script) : Proc Docker (PrepareOutcome Docker) :=
  match r.moduleFor script.language with
  | .error err => return .failed err
  | .ok m => m.prepare script

/-- `docker.Config`; the map of languages is an association list without repeated keys. -/
structure DockerConfig where
  languages : List (Language × LanguageConfig)
  defaultLimits : RunLimits
  keys : (languages.map Prod.fst).Nodup

/-- The loop of `newEngineWithClient` over the configured languages. -/
def newModules (env : ContainerEngine) :
    List (Language × LanguageConfig) → Except GoError (List Module)
  | [] => .ok []
  | (lang, cfg) :: rest =>
      match newModule lang cfg env with
      | .error err => .error err
      | .ok m =>
          match newModules env rest with
          | .error err => .error err
          | .ok mods => .ok (m :: mods)

def newRegistryWithClient (cfg : DockerConfig) : Except GoError Registry :=
  match newModules (newContainerEngine cfg.defaultLimits) cfg.languages with
  | .error err => .error err
  | .ok mods => newRegistry mods

/-- `newEngineWithClient`. -/
def newEngineWithClient (cfg : DockerConfig) : Except GoError (Engine Docker) :=
  match newRegistryWithClient cfg with
  | .error err => .error err
  | .ok registry => .ok ⟨registry.prepare⟩

/-! ## What an engine consists of -/

theorem newModule_ok {lang : Language} {cfg : LanguageConfig} {env : ContainerEngine} {m : Module}
    (h : newModule lang cfg env = .ok m) :
    newLanguageRuntime lang cfg env = .ok m.runtime ∧ strategyForLanguage lang = .ok m.strategy := by
  unfold newModule at h
  cases built : newLanguageRuntime lang cfg env with
  | error err =>
      rw [built] at h
      cases h
  | ok runtime =>
      cases chosen : strategyForLanguage lang with
      | error err =>
          simp only [built, chosen] at h
          cases h
      | ok strategy =>
          simp only [built, chosen] at h
          cases h
          exact ⟨rfl, rfl⟩

theorem newLanguageRuntime_engine {lang : Language} {cfg : LanguageConfig} {env : ContainerEngine}
    {runtime : LanguageRuntime} (h : newLanguageRuntime lang cfg env = .ok runtime) :
    runtime.engine = env := by
  unfold newLanguageRuntime at h
  split at h
  · cases h
  · rw [← Except.ok.inj h]

theorem newModules_mem {env : ContainerEngine} {languages : List (Language × LanguageConfig)}
    {mods : List Module} (h : newModules env languages = .ok mods) {m : Module}
    (member : m ∈ mods) : ∃ entry ∈ languages, newModule entry.1 entry.2 env = .ok m := by
  induction languages generalizing mods with
  | nil =>
      cases h
      cases member
  | cons entry rest ih =>
      rcases entry with ⟨lang, cfg⟩
      unfold newModules at h
      cases first : newModule lang cfg env with
      | error err =>
          rw [first] at h
          cases h
      | ok m' =>
          rw [first] at h
          cases others : newModules env rest with
          | error err =>
              simp only [others] at h
              cases h
          | ok mods' =>
              simp only [others] at h
              cases h
              rcases List.mem_cons.mp member with rfl | later
              · exact ⟨_, List.mem_cons_self, first⟩
              · obtain ⟨entry, inside, built⟩ := ih others later
                exact ⟨entry, List.mem_cons_of_mem _ inside, built⟩

theorem newRegistry_modules {mods : List Module} {r : Registry} (h : newRegistry mods = .ok r) :
    r.modules = mods := by
  unfold newRegistry at h
  split at h
  · cases h
  · split at h
    · cases h
    · cases h
      rfl

/-- An engine is a registry whose modules are those of configured languages. -/
theorem newEngineWithClient_ok {cfg : DockerConfig} {engine : Engine Docker}
    (built : newEngineWithClient cfg = .ok engine) :
    ∃ r : Registry, engine = ⟨r.prepare⟩ ∧ ∀ m ∈ r.modules, ∃ entry ∈ cfg.languages,
      newModule entry.1 entry.2 (newContainerEngine cfg.defaultLimits) = .ok m := by
  unfold newEngineWithClient newRegistryWithClient at built
  cases modules : newModules (newContainerEngine cfg.defaultLimits) cfg.languages with
  | error err =>
      simp only [modules] at built
      cases built
  | ok mods =>
      simp only [modules] at built
      cases registered : newRegistry mods with
      | error err =>
          simp only [registered] at built
          cases built
      | ok r =>
          simp only [registered] at built
          cases built
          refine ⟨r, rfl, fun m member => ?_⟩
          rw [newRegistry_modules registered] at member
          exact newModules_mem modules member

/-- A script is prepared by the module of its language, or it is refused. -/
theorem Registry.prepare_cases (r : Registry) (script : Script) :
    (∃ m ∈ r.modules, m.runtime.language = script.language ∧ r.prepare script = m.prepare script) ∨
      ∃ lang, r.prepare script =
        .ret (.failed (.new (lit "no runtime module registered for language " ++ lang))) := by
  unfold Registry.prepare Registry.moduleFor
  cases found : r.modules.find? fun m => m.runtime.language = script.language with
  | none => exact Or.inr ⟨_, rfl⟩
  | some m =>
      have matching := List.find?_some found
      exact Or.inl ⟨m, List.mem_of_find?_eq_some found, of_decide_eq_true matching, rfl⟩

end Scrc
