import Scrc.Cmd.Config
import Scrc.Kafka.Publisher

/-!
# The process

`main` of `scrc`: what it opens, when it calls `ExecuteFromProducer`, and what it closes on each of
its ways out.

* `main`: the program, over the calls of `Cmd`.
* `Resource`: what is opened, and has to be closed again.
* `main_ways_out`: a process that returns has closed everything in reverse order; one that exits
  through `log.Fatalf` has closed nothing.
-/

namespace Scrc

open Interaction

/-! ## Calls -/

inductive CmdCall where
  /-- `signal.NotifyContext` -/
  | notifyContext
  /-- `stop()` -/
  | stop
  /-- `client.NewClientWithOpts(client.FromEnv, client.WithAPIVersionNegotiation())` -/
  | newClient
  /-- `cli.Close()` -/
  | closeClient
  /-- `kafkago.NewReader` -/
  | newReader (cfg : ConsumerConfig)
  | closeReader
  /-- the `kafkago.Writer` of a publisher -/
  | newWriter (cfg : PublisherConfig)
  | closeWriter
  /-- `service.ExecuteFromProducer` over this runtime -/
  | execute (engine : Engine Docker) (maxScripts maxParallel : Int)
  | logPrintf (text : GoString)
  /-- the message of `log.Fatalf`, which then exits -/
  | logFatalf (text : GoString)

/-- The reply to each call; `none` is the nil error. -/
@[reducible]
def CmdReply : CmdCall → Type
  | .newClient => Option GoError
  | .closeClient => Option GoError
  | .closeReader => Option GoError
  | .closeWriter => Option GoError
  | .execute _ _ _ => Option GoError
  | _ => Unit

abbrev Cmd : Interface := ⟨CmdCall, CmdReply⟩

abbrev askCmd (c : CmdCall) : Proc Cmd (CmdReply c) := Proc.ask (I := Cmd) c

/-! ## The program -/

/-- How the process ends: `main` returns, or `os.Exit(1)` is called. -/
inductive CmdEnd where
  | returned
  | exited
  deriving DecidableEq

/-- `log.Fatalf`. -/
def fatalf (text : GoString) : Proc Cmd CmdEnd := do
  askCmd (.logFatalf text)
  return .exited

/-- `defer cleanup`: not run by `os.Exit`. -/
def deferred (cleanup : Proc Cmd Unit) (body : Proc Cmd CmdEnd) : Proc Cmd CmdEnd := do
  match ← body with
  | .exited => return .exited
  | .returned =>
      cleanup
      return .returned

/-- A deferred function that closes `name` and logs the error. -/
def warnClosing (name : String) (result : Option GoError) : Proc Cmd Unit :=
  match result with
  | none => return
  | some err => askCmd (.logPrintf (lit "warning: failed to close " ++ lit name ++ lit ": " ++ err.text))

/-- `service.Close`, which closes the registry, whose strategies have nothing to close, and the
client. -/
def closeService : Proc Cmd (Option GoError) := do
  match ← askCmd .closeClient with
  | none => return none
  | some err => return some (.wrap "docker client" err)

/-- `docker.New`. -/
def dockerNew (cfg : DockerConfig) : Proc Cmd (Except GoError (Engine Docker)) := do
  if cfg.languages = [] then
    return .error (.new "docker runtime: at least one language must be configured")
  match ← askCmd .newClient with
  | some err => return .error (.wrap "docker runtime: create client" err)
  | none =>
      match newEngineWithClient cfg with
      | .error err =>
          let _ ← askCmd .closeClient
          return .error err
      | .ok engine => return .ok engine

/-- `main` from the call of `ExecuteFromProducer` on. -/
def executeScripts (engine : Engine Docker) (appCfg : AppConfig) : Proc Cmd CmdEnd := do
  match ← askCmd (.execute engine appCfg.maxScripts appCfg.maxParallel) with
  | none => return .returned
  | some err => fatalf (lit "failed to execute scripts: " ++ err.text)

/-- `main` from `NewPublisher` on. -/
def publish (engine : Engine Docker) (appCfg : AppConfig) : Proc Cmd CmdEnd :=
  match newPublisher ⟨appCfg.kafkaBrokers, appCfg.resultsTopic⟩ with
  | .error err => fatalf (lit "failed to initialize kafka publisher: " ++ err.text)
  | .ok writer => do
      askCmd (.newWriter writer)
      deferred (do warnClosing "kafka publisher" (← askCmd .closeWriter))
        (executeScripts engine appCfg)

/-- `main` from `NewConsumer` on. -/
def consumeScripts (engine : Engine Docker) (appCfg : AppConfig) : Proc Cmd CmdEnd :=
  match newConsumer
      { brokers := appCfg.kafkaBrokers, topic := appCfg.scriptsTopic, groupID := appCfg.groupID } with
  | .error err => fatalf (lit "failed to initialize kafka consumer: " ++ err.text)
  | .ok reader => do
      askCmd (.newReader reader)
      deferred (do warnClosing "kafka consumer" (← askCmd .closeReader)) (publish engine appCfg)

/-- `main` from `docker.New` on. -/
def start (dockerCfg : DockerConfig) (appCfg : AppConfig) : Proc Cmd CmdEnd := do
  match ← dockerNew dockerCfg with
  | .error err => fatalf (lit "failed to initialize docker runner: " ++ err.text)
  | .ok engine => deferred (do warnClosing "runner" (← closeService)) (consumeScripts engine appCfg)

/-- `main`; `dockerCfg` is the configuration from the environment as `range` goes through its map.
-/
def main (getenv : Environ) (dockerCfg : DockerConfig) : Proc Cmd CmdEnd := do
  askCmd .notifyContext
  deferred (askCmd .stop) (start dockerCfg (loadAppConfig getenv))

/-! ## The ways out -/

/-- What is opened, and has to be closed again. -/
inductive Resource where
  | client
  | reader
  | writer
  deriving DecidableEq

/-- What a process leaves behind, without warnings and signals. -/
inductive Mark where
  | opened (r : Resource)
  | closed (r : Resource)
  | ran (engine : Engine Docker) (maxScripts maxParallel : Int) (err : Option GoError)
  | fatal

def mark : Event Cmd → Option Mark
  | ⟨.newClient, none⟩ => some (.opened .client)
  | ⟨.newReader _, _⟩ => some (.opened .reader)
  | ⟨.newWriter _, _⟩ => some (.opened .writer)
  | ⟨.closeClient, _⟩ => some (.closed .client)
  | ⟨.closeReader, _⟩ => some (.closed .reader)
  | ⟨.closeWriter, _⟩ => some (.closed .writer)
  | ⟨.execute engine maxScripts maxParallel, err⟩ => some (.ran engine maxScripts maxParallel err)
  | ⟨.logFatalf _, _⟩ => some .fatal
  | _ => none

def opening : List Mark := [.opened .client, .opened .reader, .opened .writer]

/-- The ways out of a process with this engine and this configuration. -/
inductive WayOut (engine : Engine Docker) (cfg : AppConfig) : List Mark → CmdEnd → Prop
  /-- There is no Docker client. -/
  | noClient : WayOut engine cfg [.fatal] .exited
  | noBroker (empty : cfg.kafkaBrokers = []) : WayOut engine cfg [.opened .client, .fatal] .exited
  | failed (brokers : cfg.kafkaBrokers ≠ []) (err : GoError) :
      WayOut engine cfg
        (opening ++ [.ran engine cfg.maxScripts cfg.maxParallel (some err), .fatal]) .exited
  | finished (brokers : cfg.kafkaBrokers ≠ []) :
      WayOut engine cfg
        (opening ++ [.ran engine cfg.maxScripts cfg.maxParallel none, .closed .writer,
          .closed .reader, .closed .client]) .returned

section Parts

variable {ms : List Mark} {e : CmdEnd}

/-- `log.Fatalf` exits at once: what was deferred is not run. -/
theorem shows_fatalf {text : GoString} :
    Shows mark (fatalf text) ms e ↔ ms = [.fatal] ∧ e = .exited := by
  unfold fatalf
  constructor
  · intro run
    obtain ⟨r, ms', rfl, rest⟩ := shows_call.mp run
    obtain ⟨rfl, rfl⟩ := shows_ret.mp rest
    exact ⟨rfl, rfl⟩
  · rintro ⟨rfl, rfl⟩
    exact shows_call.mpr ⟨(), [], rfl, shows_ret.mpr ⟨rfl, rfl⟩⟩

/-- What is deferred is run on a return and not on an exit.  The cleanup is described by the marks
it leaves, whatever is replied to it. -/
theorem shows_deferred {cleanup : Proc Cmd Unit} {body : Proc Cmd CmdEnd} {last : List Mark}
    (leaves : ∀ ms', Shows mark cleanup ms' () ↔ ms' = last) :
    Shows mark (deferred cleanup body) ms e ↔
      (e = .exited ∧ Shows mark body ms .exited) ∨
      (e = .returned ∧ ∃ ms', ms = ms' ++ last ∧ Shows mark body ms' .returned) := by
  unfold deferred
  rw [shows_bind]
  constructor
  · rintro ⟨ms₁, ms₂, end', rfl, first, second⟩
    cases end' with
    | exited =>
        obtain ⟨rfl, rfl⟩ := shows_ret.mp second
        rw [List.append_nil]
        exact Or.inl ⟨rfl, first⟩
    | returned =>
        obtain ⟨os₁, os₂, _, rfl, closing, rest⟩ := shows_bind.mp second
        obtain ⟨rfl, rfl⟩ := shows_ret.mp rest
        rw [(leaves os₁).mp closing, List.append_nil]
        exact Or.inr ⟨rfl, ms₁, rfl, first⟩
  · rintro (⟨rfl, run⟩ | ⟨rfl, ms', rfl, run⟩)
    · exact ⟨ms, [], .exited, (List.append_nil ms).symm, run, shows_ret.mpr ⟨rfl, rfl⟩⟩
    · refine ⟨ms', last, .returned, rfl, run, shows_bind.mpr ⟨last, [], (), ?_, ?_, ?_⟩⟩
      · exact (List.append_nil last).symm
      · exact (leaves last).mpr rfl
      · exact shows_ret.mpr ⟨rfl, rfl⟩

/-- A failure to close is logged and otherwise ignored. -/
theorem shows_warnClosing {name : String} {result : Option GoError} :
    Shows mark (warnClosing name result) ms () ↔ ms = [] := by
  cases result with
  | none => exact shows_ret.trans (and_iff_left rfl)
  | some err =>
      constructor
      · intro run
        obtain ⟨r, ms', rfl, rest⟩ := shows_call.mp run
        exact (shows_ret.mp rest).1
      · rintro rfl
        exact shows_call.mpr ⟨(), [], rfl, shows_ret.mpr ⟨rfl, rfl⟩⟩

/-- Closing leaves its mark, whether or not there is a warning. -/
theorem shows_closing (c : CmdCall) {name : String} {r : Resource}
    (closes : ∀ reply, mark ⟨c, reply⟩ = some (.closed r)) (result : CmdReply c → Option GoError)
    (some_reply : CmdReply c) :
    Shows mark (askCmd c >>= fun reply => warnClosing name (result reply)) ms () ↔
      ms = [.closed r] := by
  constructor
  · intro run
    obtain ⟨reply, ms', rfl, rest⟩ := shows_call.mp run
    rw [shows_warnClosing.mp rest, closes]
    rfl
  · rintro rfl
    refine shows_call.mpr ⟨some_reply, [], ?_, shows_warnClosing.mpr rfl⟩
    rw [closes]
    rfl

end Parts

/-! ## The program from the inside out -/

section Program

variable {engine : Engine Docker} {cfg : AppConfig} {ms : List Mark} {e : CmdEnd}

/-- The call of `ExecuteFromProducer` decides between the two ways on; all that is said of it here
is whether it returns an error. -/
theorem shows_executeScripts :
    Shows mark (executeScripts engine cfg) ms e ↔
      (∃ err, ms = [.ran engine cfg.maxScripts cfg.maxParallel (some err), .fatal] ∧ e = .exited) ∨
      (ms = [.ran engine cfg.maxScripts cfg.maxParallel none] ∧ e = .returned) := by
  unfold executeScripts
  constructor
  · intro run
    obtain ⟨reply, ms', rfl, rest⟩ := shows_call.mp run
    cases reply with
    | none =>
        obtain ⟨rfl, rfl⟩ := shows_ret.mp rest
        exact Or.inr ⟨rfl, rfl⟩
    | some err =>
        obtain ⟨rfl, rfl⟩ := shows_fatalf.mp rest
        exact Or.inl ⟨err, rfl, rfl⟩
  · rintro (⟨err, rfl, rfl⟩ | ⟨rfl, rfl⟩)
    · exact shows_call.mpr ⟨some err, [.fatal], rfl, shows_fatalf.mpr ⟨rfl, rfl⟩⟩
    · exact shows_call.mpr ⟨none, [], rfl, shows_ret.mpr ⟨rfl, rfl⟩⟩

/-- The writer is made without a connection, so that with brokers and a topic it cannot fail. -/
theorem newPublisher_ok (brokers : cfg.kafkaBrokers ≠ []) (topic : cfg.resultsTopic ≠ []) :
    newPublisher ⟨cfg.kafkaBrokers, cfg.resultsTopic⟩ =
      .ok ⟨cfg.kafkaBrokers, cfg.resultsTopic⟩ := by
  unfold newPublisher
  rw [if_neg brokers, if_neg topic]

/-- From the writer on: it is closed when the call has succeeded, and left open by the exit when it
has failed. -/
theorem shows_publish (brokers : cfg.kafkaBrokers ≠ []) (topic : cfg.resultsTopic ≠ []) :
    Shows mark (publish engine cfg) ms e ↔
      (∃ err, ms = [.opened .writer, .ran engine cfg.maxScripts cfg.maxParallel (some err), .fatal] ∧
        e = .exited) ∨
      (ms = [.opened .writer, .ran engine cfg.maxScripts cfg.maxParallel none, .closed .writer] ∧
        e = .returned) := by
  unfold publish
  rw [newPublisher_ok brokers topic]
  have closing : ∀ ms, Shows mark
      (do warnClosing "kafka publisher" (← askCmd .closeWriter)) ms () ↔ ms = [.closed .writer] :=
    fun ms => shows_closing .closeWriter (fun _ => rfl) id none
  constructor
  · intro run
    obtain ⟨r, ms', rfl, rest⟩ := shows_call.mp run
    rcases (shows_deferred closing).mp rest with ⟨rfl, body⟩ | ⟨rfl, ms'', rfl, body⟩
    · rcases shows_executeScripts.mp body with ⟨err, rfl, -⟩ | ⟨-, absurd⟩
      · exact Or.inl ⟨err, rfl, rfl⟩
      · cases absurd
    · rcases shows_executeScripts.mp body with ⟨err, -, absurd⟩ | ⟨rfl, -⟩
      · cases absurd
      · exact Or.inr ⟨rfl, rfl⟩
  · rintro (⟨err, rfl, rfl⟩ | ⟨rfl, rfl⟩)
    · refine shows_call.mpr ⟨(), _, rfl, (shows_deferred closing).mpr (.inl ⟨rfl, ?_⟩)⟩
      exact shows_executeScripts.mpr (.inl ⟨err, rfl, rfl⟩)
    · refine shows_call.mpr ⟨(), _, rfl, (shows_deferred closing).mpr (.inr ⟨rfl,
        [.ran engine cfg.maxScripts cfg.maxParallel none], rfl, ?_⟩)⟩
      exact shows_executeScripts.mpr (.inr ⟨rfl, rfl⟩)

/-- The reader is refused for want of brokers only, since topic and group have defaults. -/
theorem newConsumer_cases (topic : cfg.scriptsTopic ≠ []) :
    (cfg.kafkaBrokers = [] ∧ ∃ err, newConsumer
      { brokers := cfg.kafkaBrokers, topic := cfg.scriptsTopic, groupID := cfg.groupID } =
        .error err) ∨
    cfg.kafkaBrokers ≠ [] ∧ ∃ reader, newConsumer
      { brokers := cfg.kafkaBrokers, topic := cfg.scriptsTopic, groupID := cfg.groupID } =
        .ok reader := by
  unfold newConsumer
  by_cases empty : cfg.kafkaBrokers = []
  · rw [if_pos empty]
    exact Or.inl ⟨empty, _, rfl⟩
  · rw [if_neg empty, if_neg topic]
    exact Or.inr ⟨empty, _, rfl⟩

/-- From the reader on, which comes before the writer and is closed after it. -/
theorem shows_consumeScripts (sound : cfg.Sound) :
    Shows mark (consumeScripts engine cfg) ms e ↔
      (cfg.kafkaBrokers = [] ∧ ms = [.fatal] ∧ e = .exited) ∨
      (cfg.kafkaBrokers ≠ [] ∧ e = .exited ∧ ∃ err, ms = [.opened .reader, .opened .writer,
        .ran engine cfg.maxScripts cfg.maxParallel (some err), .fatal]) ∨
      (cfg.kafkaBrokers ≠ [] ∧ e = .returned ∧ ms = [.opened .reader, .opened .writer,
        .ran engine cfg.maxScripts cfg.maxParallel none, .closed .writer, .closed .reader]) := by
  unfold consumeScripts
  have closing : ∀ ms, Shows mark
      (do warnClosing "kafka consumer" (← askCmd .closeReader)) ms () ↔ ms = [.closed .reader] :=
    fun ms => shows_closing .closeReader (fun _ => rfl) id none
  rcases newConsumer_cases sound.scriptsTopic with ⟨empty, err, refused⟩ | ⟨brokers, reader, built⟩
  · rw [refused]
    simp only [shows_fatalf, empty, ne_eq, not_true_eq_false, false_and, or_false, true_and]
  · rw [built]
    have inside := fun ms e => @shows_publish engine cfg ms e brokers sound.resultsTopic
    simp only [brokers, false_and, ne_eq, not_false_eq_true, true_and, false_or]
    constructor
    · intro run
      obtain ⟨r, ms', rfl, rest⟩ := shows_call.mp run
      rcases (shows_deferred closing).mp rest with ⟨rfl, body⟩ | ⟨rfl, ms'', rfl, body⟩
      · rcases (inside _ _).mp body with ⟨err, rfl, -⟩ | ⟨-, absurd⟩
        · exact Or.inl ⟨rfl, err, rfl⟩
        · cases absurd
      · rcases (inside _ _).mp body with ⟨err, -, absurd⟩ | ⟨rfl, -⟩
        · cases absurd
        · exact Or.inr ⟨rfl, rfl⟩
    · rintro (⟨rfl, err, rfl⟩ | ⟨rfl, rfl⟩)
      · refine shows_call.mpr ⟨(), _, rfl, (shows_deferred closing).mpr (.inl ⟨rfl, ?_⟩)⟩
        exact (inside _ _).mpr (.inl ⟨err, rfl, rfl⟩)
      · refine shows_call.mpr ⟨(), _, rfl, (shows_deferred closing).mpr (.inr ⟨rfl,
          [.opened .writer, .ran engine cfg.maxScripts cfg.maxParallel none, .closed .writer], rfl,
          ?_⟩)⟩
        exact (inside _ _).mpr (.inr ⟨rfl, rfl⟩)

/-- The client of a usable configuration is refused, or the engine is built. -/
theorem shows_dockerNew {dockerCfg : DockerConfig}
    (built : newEngineWithClient dockerCfg = .ok engine) {r : Except GoError (Engine Docker)} :
    Shows mark (dockerNew dockerCfg) ms r ↔
      (∃ err, ms = [] ∧ r = .error (.wrap "docker runtime: create client" err)) ∨
      (ms = [.opened .client] ∧ r = .ok engine) := by
  have usable := newEngineWithClient_usable.mp ⟨_, built⟩
  unfold dockerNew
  rw [if_neg usable.nonempty]
  constructor
  · intro run
    obtain ⟨reply, ms', rfl, rest⟩ := shows_call.mp run
    cases reply with
    | some err =>
        obtain ⟨rfl, rfl⟩ := shows_ret.mp rest
        exact Or.inl ⟨err, rfl, rfl⟩
    | none =>
        simp only [built] at rest
        obtain ⟨rfl, rfl⟩ := shows_ret.mp rest
        exact Or.inr ⟨rfl, rfl⟩
  · rintro (⟨err, rfl, rfl⟩ | ⟨rfl, rfl⟩)
    · exact shows_call.mpr ⟨some err, [], rfl, shows_ret.mpr ⟨rfl, rfl⟩⟩
    · refine shows_call.mpr ⟨none, [], rfl, ?_⟩
      simp only [built]
      exact shows_ret.mpr ⟨rfl, rfl⟩

/-- The client is closed by the service, which is deferred first and hence runs last. -/
theorem shows_closeService :
    Shows mark (do warnClosing "runner" (← closeService)) ms () ↔ ms = [.closed .client] := by
  have same : (do warnClosing "runner" (← closeService)) =
      (askCmd .closeClient >>= fun reply =>
        warnClosing "runner" (reply.map (GoError.wrap "docker client"))) := by
    unfold closeService
    rw [Proc.bind_assoc]
    refine congrArg _ (funext fun reply => ?_)
    cases reply <;> rfl
  rw [same]
  exact shows_closing .closeClient (fun _ => rfl) (Option.map (GoError.wrap "docker client")) none

/-- From the engine on.  It is built, so the ways out that are left are those of `WayOut`. -/
theorem shows_start {dockerCfg : DockerConfig} (built : newEngineWithClient dockerCfg = .ok engine)
    (sound : cfg.Sound) : Shows mark (start dockerCfg cfg) ms e ↔ WayOut engine cfg ms e := by
  unfold start
  rw [shows_bind]
  have closing := fun ms => @shows_closeService ms
  constructor
  · rintro ⟨ms₁, ms₂, r, rfl, first, second⟩
    rcases (shows_dockerNew built).mp first with ⟨err, rfl, rfl⟩ | ⟨rfl, rfl⟩
    · obtain ⟨rfl, rfl⟩ := shows_fatalf.mp second
      exact .noClient
    · rcases (shows_deferred closing).mp second with ⟨rfl, body⟩ | ⟨rfl, ms', rfl, body⟩
      · rcases (shows_consumeScripts sound).mp body with ⟨empty, rfl, -⟩ |
          ⟨brokers, -, err, rfl⟩ | ⟨-, absurd, -⟩
        · exact .noBroker empty
        · exact .failed brokers err
        · cases absurd
      · rcases (shows_consumeScripts sound).mp body with ⟨-, -, absurd⟩ | ⟨-, absurd, -⟩ |
          ⟨brokers, -, rfl⟩
        · cases absurd
        · cases absurd
        · exact .finished brokers
  · intro way
    cases way with
    | noClient =>
        exact ⟨[], [.fatal], _, rfl, (shows_dockerNew built).mpr (.inl ⟨.eof, rfl, rfl⟩),
          shows_fatalf.mpr ⟨rfl, rfl⟩⟩
    | noBroker empty =>
        refine ⟨[.opened .client], [.fatal], _, rfl, (shows_dockerNew built).mpr (.inr ⟨rfl, rfl⟩),
          (shows_deferred closing).mpr (.inl ⟨rfl, ?_⟩)⟩
        exact (shows_consumeScripts sound).mpr (.inl ⟨empty, rfl, rfl⟩)
    | failed brokers err =>
        refine ⟨[.opened .client], _, _, rfl, (shows_dockerNew built).mpr (.inr ⟨rfl, rfl⟩),
          (shows_deferred closing).mpr (.inl ⟨rfl, ?_⟩)⟩
        exact (shows_consumeScripts sound).mpr (.inr (.inl ⟨brokers, rfl, err, rfl⟩))
    | finished brokers =>
        refine ⟨[.opened .client], _, _, rfl, (shows_dockerNew built).mpr (.inr ⟨rfl, rfl⟩),
          (shows_deferred closing).mpr (.inr ⟨rfl, [.opened .reader, .opened .writer,
            .ran engine cfg.maxScripts cfg.maxParallel none, .closed .writer, .closed .reader],
            rfl, ?_⟩)⟩
        exact (shows_consumeScripts sound).mpr (.inr (.inr ⟨brokers, rfl, rfl⟩))

theorem shows_stop : Shows mark (askCmd .stop) ms () ↔ ms = [] := by
  constructor
  · intro run
    obtain ⟨r, ms', rfl, rest⟩ := shows_call.mp run
    exact (shows_ret.mp rest).1
  · rintro rfl
    exact shows_call.mpr ⟨(), [], rfl, shows_ret.mpr ⟨rfl, rfl⟩⟩

end Program

/-- **The ways out.**  Whatever the environment and in whatever order the languages come, these are
the marks that a process can leave.  It returns when there is a client, a broker and no error of
`ExecuteFromProducer`, and has then closed in reverse order what it opened, after the run.
Otherwise it exits, and has closed nothing.  The run is with the engine of the configured languages.
-/
theorem main_ways_out (timeParseDuration : GoString → Option Duration) (getenv : Environ)
    {dockerCfg : DockerConfig}
    (perm : dockerCfg.languages.Perm (dockerConfigFromEnv timeParseDuration getenv).languages)
    (limits : dockerCfg.defaultLimits = (dockerConfigFromEnv timeParseDuration getenv).defaultLimits)
    (ms : List Mark) (e : CmdEnd) :
    Shows mark (main getenv dockerCfg) ms e ↔
      WayOut ⟨(dockerConfigFromEnv timeParseDuration getenv).prepare⟩ (loadAppConfig getenv) ms e := by
  have usable := (dockerConfigFromEnv_usable timeParseDuration getenv).perm perm
  obtain ⟨engine, built⟩ := newEngineWithClient_usable.mpr usable
  have inside := fun ms e => @shows_start engine (loadAppConfig getenv) ms e dockerCfg built
    (loadAppConfig_environ.1 getenv)
  rw [newEngineWithClient_eq built, DockerConfig.prepare_perm perm limits] at inside
  unfold main
  have stopping := fun ms => @shows_stop ms
  constructor
  · intro run
    obtain ⟨r, ms', rfl, rest⟩ := shows_call.mp run
    rcases (shows_deferred stopping).mp rest with ⟨rfl, body⟩ | ⟨rfl, ms'', rfl, body⟩
    · exact (inside _ _).mp body
    · rw [List.append_nil]
      exact (inside _ _).mp body
  · intro way
    refine shows_call.mpr ⟨(), ms, rfl, (shows_deferred stopping).mpr ?_⟩
    cases e with
    | exited => exact .inl ⟨rfl, (inside _ _).mpr way⟩
    | returned => exact .inr ⟨rfl, ms, (List.append_nil ms).symm, (inside _ _).mpr way⟩

/-- The configuration from the variables of `graders`, its languages in the reverse order. -/
def reversedDockerConfig : DockerConfig where
  languages := (dockerConfigFromEnv (fun _ => none) graders.environ).languages.reverse
  defaultLimits := (dockerConfigFromEnv (fun _ => none) graders.environ).defaultLimits
  keys := ((List.reverse_perm _).map Prod.fst).nodup_iff.mpr (dockerConfigFromEnv _ _).keys

/-- The run is with the limits of the variables, and the map of languages is gone over from its end.
-/
theorem main_ways_out_graders :
    Shows mark (main graders.environ reversedDockerConfig)
      (opening ++ [.ran ⟨(dockerConfigFromEnv (fun _ => none) graders.environ).prepare⟩ 12 4 none,
        .closed .writer, .closed .reader, .closed .client]) .returned := by
  have read : loadAppConfig graders.environ = graders := by decide
  have way := @main_ways_out (fun _ => none) graders.environ reversedDockerConfig
    (List.reverse_perm _) rfl
  rw [read] at way
  exact (way _ _).mpr (.finished (by decide))

end Scrc
