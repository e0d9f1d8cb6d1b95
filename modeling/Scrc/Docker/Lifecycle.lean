import Scrc.Docker.Strategies

/-!
# The life of a container

`lifecycle` is the contract the Docker runtime keeps with the daemon: at most one container of a
script exists at a time, it is filled and attached before it is started, waited for and read only
after a successful start, stopped only when its time limit has expired under a live caller, and
removed by force under a context that is not the caller's.

Each function of the engine and of the strategies gets one specification against this contract:
from which phase it may be called, in which phase it returns, and what it returns.  Every reply is
allowed, so the specifications hold whatever the daemon does.
-/

namespace Scrc

open Interaction

/-! ## The contract -/

/-- The context is the caller's, or derived from it. -/
def Ctx.ofCaller : Ctx → Bool
  | .caller => true
  | .background => false
  | .withTimeout parent _ => parent.ofCaller

/-- How far the time limit of a container has got. -/
inductive LimitPhase where
  | running
  /-- The wait under the deadline failed with deadline exceeded. -/
  | expired
  /-- ... and after that the caller's context was found live. -/
  | expiredLive
  | stopped
  deriving DecidableEq

/-- The container of the script: what was done with it so far. -/
structure Container where
  id : GoString
  attachStdin : Bool
  copied : Bool := false
  attached : Bool := false
  started : Bool := false
  limit : LimitPhase := .running

inductive Phase where
  | absent
  | present (c : Container)

namespace Phase

/-- The container exists, has this id, and satisfies `P`. -/
def Holds (s : Phase) (id : GoString) (P : Container → Prop) : Prop :=
  match s with
  | .absent => False
  | .present c => c.id = id ∧ P c

/-- Change what is known of the container. -/
def update (s : Phase) (f : Container → Container) : Phase :=
  match s with
  | .absent => .absent
  | .present c => .present (f c)

end Phase

/-- The wait was under a positive deadline on the caller's context. -/
def Ctx.hasCallerDeadline : Ctx → Prop
  | .withTimeout .caller timeout => timeout > 0
  | _ => False

instance : DecidablePred Ctx.hasCallerDeadline := fun ctx => by
  unfold Ctx.hasCallerDeadline
  split <;> infer_instance

/-- The wait failed with deadline exceeded. -/
def WaitEvent.deadlineExceeded : WaitEvent → Bool
  | .status _ => false
  | .errCh err => err.is .deadlineExceeded
  | .ctxDone err => err = .deadlineExceeded

/-- A wait that fails at its deadline. -/
def Container.afterWait (c : Container) (ctx : Ctx) (event : WaitEvent) : Container :=
  if c.limit = .running ∧ ctx.hasCallerDeadline ∧ event.deadlineExceeded then
    { c with limit := .expired }
  else c

/-- The caller's context is found live after its deadline. -/
def Container.afterCtxErr (c : Container) (err : Option CtxErr) : Container :=
  if c.limit = .expired ∧ err = none then { c with limit := .expiredLive } else c

/-- What a call needs of the phase it is made in. -/
def lifecycleObliges (s : Phase) : DockerCall → Prop
  | .containerCreate _ _ _ => s = .absent
  | .containerRemove ctx id force =>
      force = true ∧ ctx.ofCaller = false ∧ s.Holds id fun _ => True
  | .copyToContainer _ id _ _ => s.Holds id fun c => c.started = false
  | .containerAttach _ id => s.Holds id fun c => c.started = false
  | .writeStdin id _ => s.Holds id fun c => c.started ∧ c.attached
  | .closeWrite id => s.Holds id fun c => c.started ∧ c.attached
  | .closeAttach id => s.Holds id fun c => c.attached
  | .containerStart _ id =>
      s.Holds id fun c => c.started = false ∧ c.copied ∧ (c.attachStdin → c.attached)
  | .containerWait _ id => s.Holds id fun c => c.started
  | .containerInspect _ id => s.Holds id fun c => c.started
  | .containerLogs _ id => s.Holds id fun c => c.started
  | .containerStop _ id => s.Holds id fun c => c.started ∧ c.limit = .expiredLive
  | .copyFromContainer _ id _ => s.Holds id fun c => c.started
  | _ => True

/-- The phase after a call with its reply. -/
def lifecycleNext (s : Phase) : (c : DockerCall) → DockerReply c → Phase
  | .containerCreate _ config _, .ok id => .present { id := id, attachStdin := config.attachStdin }
  | .containerRemove _ _ _, _ => .absent
  | .copyToContainer _ _ _ _, .ok _ => s.update fun c => { c with copied := true }
  | .containerAttach _ _, .ok _ => s.update fun c => { c with attached := true }
  | .containerStart _ _, .ok _ => s.update fun c => { c with started := true }
  | .containerWait ctx _, event => s.update fun c => c.afterWait ctx event
  | .ctxErr .caller, err => s.update fun c => c.afterCtxErr err
  | .containerStop _ _, _ => s.update fun c => { c with limit := .stopped }
  | _, _ => s

/-- The contract of the Docker runtime: every reply is possible. -/
def lifecycle : Contract Docker Phase where
  obliges := lifecycleObliges
  allows _ _ _ := True
  next := lifecycleNext

theorem lifecycle_allowed (s : Phase) (t : List (Event Docker)) : lifecycle.Allowed s t :=
  Contract.allowed_of_all (fun _ _ _ => trivial) t

/-- The program keeps the contract from phase `s` and ends as `Q` says. -/
abbrev Keeps {α : Type} (s : Phase) (p : Proc Docker α) (Q : α → Phase → Prop) : Prop :=
  p.Meets lifecycle s Q

/-- A call is made: what it owes, and for every reply what follows. -/
theorem keeps_ask {α : Type} {s : Phase} {c : DockerCall}
    {k : DockerReply c → Proc Docker α} {Q : α → Phase → Prop}
    (owed : lifecycleObliges s c) (next : ∀ r, Keeps (lifecycleNext s c r) (k r) Q) :
    Keeps s (ask c >>= k) Q :=
  ⟨owed, fun r _ => next r⟩

/-! ## Small steps of the engine -/

theorem keeps_createContainerWithImage {runtime : LanguageRuntime} {limits : RunLimits}
    {cmd : List GoString} {attachStdin : Bool} {image : GoString} :
    Keeps .absent (createContainerWithImage runtime limits cmd attachStdin image) fun r s =>
      (∃ err, r = .error err ∧ err.text ≠ [] ∧ s = .absent) ∨
      ∃ id, r = .ok id ∧ s = .present { id := id, attachStdin := attachStdin } := by
  unfold createContainerWithImage
  refine keeps_ask rfl fun r => ?_
  cases r with
  | error err => exact Or.inl ⟨_, rfl, GoError.wrap_text_ne_nil _ _, rfl⟩
  | ok id => exact Or.inr ⟨id, rfl, rfl⟩

theorem Phase.Holds.weaken {s : Phase} {id : GoString} {P Q : Container → Prop}
    (h : s.Holds id P) (imp : ∀ c, P c → Q c) : s.Holds id Q := by
  cases s with
  | absent => exact h
  | present c => exact ⟨h.1, imp c h.2⟩

theorem keeps_cleanup {s : Phase} {id : GoString} (h : s.Holds id fun _ => True) :
    Keeps s (cleanup id) fun _ s' => s' = .absent := by
  unfold cleanup
  exact keeps_ask ⟨rfl, rfl, h⟩ fun _ => rfl

theorem keeps_copyFiles {c : Container} {workdir : GoString} {files : List FileSpec}
    (fresh : c.started = false) (some_file : files ≠ []) :
    Keeps (.present c) (copyFiles c.id workdir files) fun r s =>
      (∃ err, r = .error err ∧ s = .present c) ∨
      (r = .ok () ∧ s = .present { c with copied := true }) := by
  unfold copyFiles
  rw [if_neg some_file]
  refine ⟨⟨rfl, fresh⟩, fun r _ => ?_⟩
  cases r with
  | error err => exact Or.inl ⟨err, rfl, rfl⟩
  | ok => exact Or.inr ⟨rfl, rfl⟩

theorem keeps_callerOrBackground {c : Container} (running : c.limit ≠ .expired) :
    Keeps (.present c) callerOrBackground fun _ s => s = .present c := by
  unfold callerOrBackground
  refine keeps_ask trivial fun r => ?_
  have same : lifecycleNext (.present c) (.ctxErr .caller) r = .present c := by
    simp only [lifecycleNext, Phase.update, Container.afterCtxErr, running, false_and, ↓reduceIte]
  rw [same]
  cases r with
  | none => rfl
  | some err => rfl

/-- What is left of the reply in the result of `waitForExit`. -/
theorem keeps_waitForExit {c : Container} {ctx : Ctx} (started : c.started = true) :
    Keeps (.present c) (waitForExit ctx c.id) fun r s => ∃ event,
      s = .present (c.afterWait ctx event) ∧
      ((∃ status, r = .ok status ∧ event = .status status) ∨
        ∃ err, r = .error err ∧ err.text ≠ [] ∧
          err.is .deadlineExceeded = event.deadlineExceeded) := by
  unfold waitForExit
  refine keeps_ask ⟨rfl, started⟩ fun event => ?_
  cases event with
  | status status =>
      cases failure : status.error with
      | none =>
          simp only [failure]
          exact ⟨_, rfl, Or.inl ⟨status, rfl, rfl⟩⟩
      | some message =>
          simp only [failure]
          refine ⟨_, rfl, Or.inr ⟨_, rfl, ?_, rfl⟩⟩
          have prefixed : lit "container error: " ≠ [] := by decide
          simp [GoError.new, prefixed]
  | errCh err => exact ⟨_, rfl, Or.inr ⟨_, rfl, GoError.wrap_text_ne_nil _ _, rfl⟩⟩
  | ctxDone err =>
      refine ⟨_, rfl, Or.inr ⟨_, rfl, GoError.wrap_text_ne_nil _ _, ?_⟩⟩
      cases err <;> rfl

theorem keeps_fetchLogs {c : Container} {ctx : Ctx} (started : c.started = true) :
    Keeps (.present c) (fetchLogs ctx c.id) fun _ s => s = .present c := by
  unfold fetchLogs
  refine keeps_ask ⟨rfl, started⟩ fun r => ?_
  cases r with
  | refused err => rfl
  | broken err => rfl
  | value logs => rfl

/-! ## Runs -/

/-- Exactly one of a result, with a status a run can have, and an error, whose text is not empty. -/
def RunOutcome.Definite (o : RunOutcome) : Prop :=
  (∃ r, o = .finished r ∧ r.status ∈ [Status.ok, .timeLimit, .memoryLimit]) ∨
  ∃ err, o = .failed err ∧ err.text ≠ []

theorem RunOutcome.Definite.failed {err : GoError} (h : err.text ≠ []) :
    (RunOutcome.failed err).Definite := Or.inr ⟨err, rfl, h⟩

theorem keeps_collectResult {c : Container} {start : Int64} {status : WaitResponse}
    (started : c.started = true) (running : c.limit ≠ .expired) :
    Keeps (.present c) (collectResult c.id start status) fun r s => s = .present c ∧
      ((∃ err, r = .error err ∧ err.text ≠ []) ∨
        ∃ result, r = .ok result ∧ (result.status = .ok ∨ result.status = .memoryLimit)) := by
  unfold collectResult
  apply (keeps_callerOrBackground running).bind
  intro ctx s same
  subst same
  refine keeps_ask ⟨rfl, started⟩ fun r => ?_
  cases r with
  | error err => exact ⟨rfl, Or.inl ⟨_, rfl, GoError.wrap_text_ne_nil _ _⟩⟩
  | ok oomKilled =>
      apply (keeps_callerOrBackground running).bind
      intro ctx s same
      subst same
      apply (keeps_fetchLogs started).bind
      intro logs s same
      subst same
      cases logs with
      | error err => exact ⟨rfl, Or.inl ⟨_, rfl, GoError.wrap_text_ne_nil _ _⟩⟩
      | ok logs =>
          refine keeps_ask trivial fun duration => ⟨rfl, Or.inr ⟨_, rfl, ?_⟩⟩
          simp only
          split
          · exact Or.inr rfl
          · exact Or.inl rfl

/-- The wait of a started container whose limit has not expired.  Only a deadline under a live
caller leads to the time-limit path. -/
theorem keeps_awaitExit {c : Container} {limits : RunLimits} (started : c.started = true)
    (running : c.limit = .running) :
    Keeps (.present c) (awaitExit limits c.id) fun r s =>
      (∃ status, r = .exited status ∧ s = .present c) ∨
      (r = .timeLimit ∧ limits.timeLimit > 0 ∧
        s = .present { c with limit := .expiredLive }) ∨
      ∃ err limit, r = .failed err ∧ err.text ≠ [] ∧ s = .present { c with limit := limit } := by
  have context : Keeps (.present c) (waitContext limits) fun ctx s => s = .present c ∧
      (ctx.hasCallerDeadline ↔ limits.timeLimit > 0) := by
    unfold waitContext
    split
    · rename_i limited
      refine keeps_ask trivial fun _ => ⟨rfl, ?_⟩
      exact ⟨fun _ => limited, fun _ => limited⟩
    · rename_i unlimited
      exact ⟨rfl, fun absurd => absurd.elim, fun limited => (unlimited limited).elim⟩
  unfold awaitExit
  apply context.bind
  intro ctx s reached
  rcases reached with ⟨rfl, deadline⟩
  apply (keeps_waitForExit started).bind
  intro r s reached
  rcases reached with ⟨event, rfl, ⟨status, rfl, rfl⟩ | ⟨err, rfl, text, exceeded⟩⟩
  · refine Or.inl ⟨status, rfl, ?_⟩
    simp only [Container.afterWait, WaitEvent.deadlineExceeded, Bool.false_eq_true, and_false,
      ↓reduceIte]
  · by_cases missed : err.is .deadlineExceeded ∧ limits.timeLimit > 0
    · have expired : c.afterWait ctx event = { c with limit := .expired } := by
        rw [Container.afterWait, if_pos]
        exact ⟨running, deadline.mpr missed.2, exceeded ▸ missed.1⟩
      rw [expired]
      simp only
      rw [if_pos missed]
      refine keeps_ask trivial fun r => ?_
      cases r with
      | none => exact Or.inr (Or.inl ⟨rfl, missed.2, rfl⟩)
      | some reason => exact Or.inr (Or.inr ⟨err, .expired, rfl, text, rfl⟩)
    · simp only
      rw [if_neg missed]
      refine Or.inr (Or.inr ⟨err, (c.afterWait ctx event).limit, rfl, text, ?_⟩)
      rw [Container.afterWait]
      split <;> rfl

/-- `handleTimeLimit` returns the time-limit status or an error. -/
theorem keeps_handleTimeLimit {c : Container} {start : Int64} (started : c.started = true)
    (expired : c.limit = .expiredLive) :
    Keeps (.present c) (handleTimeLimit c.id start) fun o s =>
      s = .present { c with limit := .stopped } ∧
      ((∃ r, o = .finished r ∧ r.status = .timeLimit) ∨ ∃ err, o = .failed err ∧ err.text ≠ []) := by
  have result : ∀ exitCode,
      Keeps (.present { c with limit := .stopped }) (timeLimitResult c.id start exitCode) fun o s =>
        s = .present { c with limit := .stopped } ∧
        ((∃ r, o = .finished r ∧ r.status = .timeLimit) ∨
          ∃ err, o = .failed err ∧ err.text ≠ []) := by
    intro exitCode
    unfold timeLimitResult
    apply (keeps_fetchLogs (c := { c with limit := .stopped }) started).bind
    intro logs s same
    subst same
    cases logs with
    | error err => exact ⟨rfl, Or.inr ⟨_, rfl, GoError.wrap_text_ne_nil _ _⟩⟩
    | ok logs => exact keeps_ask trivial fun duration => ⟨rfl, Or.inl ⟨_, rfl, rfl⟩⟩
  have stopped : Keeps (.present { c with limit := .stopped }) (afterStop c.id start) fun o s =>
      s = .present { c with limit := .stopped } ∧
      ((∃ r, o = .finished r ∧ r.status = .timeLimit) ∨
        ∃ err, o = .failed err ∧ err.text ≠ []) := by
    unfold afterStop
    refine keeps_ask trivial fun _ => ?_
    apply (keeps_waitForExit (c := { c with limit := .stopped }) started).bind
    intro r s reached
    rcases reached with ⟨event, rfl, waited⟩
    -- the limit has left its first phase, so this wait does not move it
    have same : ({ c with limit := .stopped } : Container).afterWait stopWaitCtx event =
        { c with limit := .stopped } := by
      rw [Container.afterWait, if_neg]
      intro running
      cases running.1
    rw [same]
    rcases waited with ⟨status, rfl, -⟩ | ⟨err, rfl, -, -⟩
    · exact result _
    · simp only
      split
      · exact ⟨rfl, Or.inr ⟨_, rfl, GoError.wrap_text_ne_nil _ _⟩⟩
      · exact result _
  unfold handleTimeLimit
  refine keeps_ask trivial fun _ => ?_
  refine keeps_ask ⟨rfl, started, expired⟩ fun r => ?_
  cases r with
  | error err =>
      simp only
      split
      · exact ⟨rfl, Or.inr ⟨_, rfl, GoError.wrap_text_ne_nil _ _⟩⟩
      · exact stopped
  | ok => exact stopped

/-- From the start of a container on: a definite outcome, and the container is still there. -/
theorem keeps_runStarted {c : Container} (limits : RunLimits) (start : Int64)
    (started : c.started = true) (running : c.limit = .running) :
    Keeps (.present c) (runStarted limits c.id start) fun o s =>
      o.Definite ∧ s.Holds c.id fun c' => c'.attached = c.attached := by
  unfold runStarted
  apply (keeps_awaitExit started running).bind
  intro r s reached
  rcases reached with ⟨status, rfl, rfl⟩ | ⟨rfl, -, rfl⟩ | ⟨err, limit, rfl, text, rfl⟩
  · have notExpired : c.limit ≠ .expired := by
      rw [running]
      exact LimitPhase.noConfusion
    apply (keeps_collectResult started notExpired).bind
    intro r s reached
    rcases reached with ⟨rfl, ⟨err, rfl, text⟩ | ⟨result, rfl, status⟩⟩
    · exact ⟨.failed text, rfl, rfl⟩
    · refine ⟨Or.inl ⟨result, rfl, ?_⟩, rfl, rfl⟩
      rcases status with ok | killed
      · simp [ok]
      · simp [killed]
  · refine (keeps_handleTimeLimit (c := { c with limit := .expiredLive }) started rfl).mono
      fun o s reached => ?_
    rcases reached with ⟨rfl, ⟨r, rfl, status⟩ | ⟨err, rfl, text⟩⟩
    · exact ⟨Or.inl ⟨r, rfl, by simp [status]⟩, rfl, rfl⟩
    · exact ⟨.failed text, rfl, rfl⟩
  · exact ⟨.failed text, rfl, rfl⟩

/-- From a filled container on, attached when it takes stdin. -/
theorem keeps_runAttached {c : Container} (limits : RunLimits) (stdin : GoString)
    (fresh : c.started = false) (copied : c.copied = true) (attached : c.attachStdin = c.attached)
    (running : c.limit = .running) :
    Keeps (.present c) (runAttached limits c.id stdin c.attachStdin) fun o s =>
      o.Definite ∧ s.Holds c.id fun c' => c'.attached = c.attached := by
  unfold runAttached
  refine keeps_ask trivial fun start => ?_
  refine keeps_ask ⟨rfl, fresh, copied, fun wants => attached ▸ wants⟩ fun r => ?_
  cases r with
  | error err => exact ⟨.failed (GoError.wrap_text_ne_nil _ _), rfl, rfl⟩
  | ok =>
      have run := keeps_runStarted (c := { c with started := true }) limits start rfl running
      simp only
      split
      · rename_i wants
        refine keeps_ask ⟨rfl, rfl, attached ▸ wants⟩ fun r => ?_
        cases r with
        | error err => exact ⟨.failed (GoError.wrap_text_ne_nil _ _), rfl, rfl⟩
        | ok => exact keeps_ask ⟨rfl, rfl, attached ▸ wants⟩ fun _ => run
      · exact run

/-- From the creation of the container on: the files, the attachment, the start and the wait, each
of which may fail and leaves the container for the removal. -/
theorem keeps_runCreated {runtime : LanguageRuntime} {limits : RunLimits} {files : List FileSpec}
    {id stdin : GoString} {attachStdin : Bool} (some_file : files ≠ []) :
    Keeps (.present { id := id, attachStdin := attachStdin })
      (runCreated runtime limits files id stdin attachStdin) fun o s =>
        o.Definite ∧ s.Holds id fun _ => True := by
  unfold runCreated
  apply (keeps_copyFiles (c := { id := id, attachStdin := attachStdin }) rfl some_file).bind
  intro r s reached
  rcases reached with ⟨err, rfl, rfl⟩ | ⟨rfl, rfl⟩
  · exact ⟨.failed (GoError.wrap_text_ne_nil _ _), rfl, trivial⟩
  · cases attachStdin with
    | false =>
        have run := keeps_runAttached (c := { id := id, attachStdin := false, copied := true })
          limits stdin rfl rfl rfl rfl
        exact run.mono fun o s post => ⟨post.1, post.2.weaken fun _ _ => trivial⟩
    | true =>
        refine (keeps_callerOrBackground (c := { id := id, attachStdin := true, copied := true })
          LimitPhase.noConfusion).bind fun ctx s same => ?_
        subst same
        refine keeps_ask ⟨rfl, rfl⟩ fun r => ?_
        cases r with
        | error err => exact ⟨.failed (GoError.wrap_text_ne_nil _ _), rfl, trivial⟩
        | ok =>
            have run := keeps_runAttached
              (c := { id := id, attachStdin := true, copied := true, attached := true })
              limits stdin rfl rfl rfl rfl
            refine run.deferring fun o s post => ?_
            exact ⟨post.2, fun _ _ => ⟨post.1, post.2.weaken fun _ _ => trivial⟩⟩

/-- **One run.**  From no container to no container, with a definite outcome. -/
theorem keeps_runProgram {runtime : LanguageRuntime} {limits : RunLimits}
    {command : List GoString} {files : List FileSpec} {stdin : GoString} {attachStdin : Bool}
    (some_file : files ≠ []) :
    Keeps .absent (runProgram runtime limits command files stdin attachStdin) fun o s =>
      o.Definite ∧ s = .absent := by
  unfold runProgram
  apply keeps_createContainerWithImage.bind
  intro r s reached
  rcases reached with ⟨err, rfl, text, rfl⟩ | ⟨id, rfl, rfl⟩
  · exact ⟨.failed text, rfl⟩
  · refine (keeps_runCreated some_file).deferring fun o s post => ?_
    exact (keeps_cleanup post.2).mono fun _ s' gone => ⟨post.1, gone⟩

end Scrc
