import Scrc.Docker.Preparation

/-!
# The time-limit path against the grace period

`handleTimeLimit` stops the container under a context of five seconds, while Docker waits ten
before it kills a container that does not heed the stop signal.  What Docker promises is the
contract `watch`, which also watches for a run that hits its limit.

* `stopped_in_time`: a container that exits within five seconds of the signal is reported as TL.
* `stop_times_out`: with any other container the run can end in an error.
-/

namespace Scrc

open Interaction

/-! ## The parts of a run that only ask -/

/-- The call fills a container or asks about something.  It neither creates, starts, awaits, stops
nor removes a container, and makes no context. -/
def DockerCall.asks : DockerCall → Bool
  | .ctxErr _ => true
  | .since _ => true
  | .copyToContainer _ _ _ _ => true
  | .containerInspect _ _ => true
  | .containerLogs _ _ => true
  | _ => false

section Asks

variable {α : Type}

/-- The program makes such calls only. -/
abbrev Asks (p : Proc Docker α) : Prop :=
  p.Meets (Contract.calls fun c => DockerCall.asks c = true) () fun _ _ => True

/-- One call of this kind, and then programs of this kind. -/
theorem asks_ask {c : DockerCall} {k : DockerReply c → Proc Docker α} (asks : c.asks = true)
    (next : ∀ r, Asks (k r)) : Asks (ask c >>= k) :=
  ⟨asks, fun r _ => next r⟩

theorem asks_copyFiles (id workdir : GoString) (files : List FileSpec) :
    Asks (copyFiles id workdir files) := by
  unfold copyFiles
  split
  · trivial
  · exact ⟨rfl, fun _ _ => trivial⟩

theorem asks_callerOrBackground : Asks callerOrBackground := by
  unfold callerOrBackground
  refine asks_ask rfl fun r => ?_
  cases r with
  | none => trivial
  | some err => trivial

theorem asks_fetchLogs (ctx : Ctx) (id : GoString) : Asks (fetchLogs ctx id) := by
  unfold fetchLogs
  refine asks_ask rfl fun r => ?_
  cases r with
  | refused err => trivial
  | broken err => trivial
  | value logs => trivial

/-- Once the exit is known, a run only asks: neither the wait nor the stop is called again. -/
theorem asks_collectResult (id : GoString) (start : Int64) (status : WaitResponse) :
    Asks (collectResult id start status) := by
  unfold collectResult
  apply asks_callerOrBackground.bind
  intro ctx _ _
  refine asks_ask rfl fun r => ?_
  cases r with
  | error err => trivial
  | ok oomKilled =>
      apply asks_callerOrBackground.bind
      intro ctx _ _
      apply (asks_fetchLogs ctx id).bind
      intro logs _ _
      cases logs with
      | error err => trivial
      | ok logs => exact asks_ask rfl fun _ => trivial

end Asks

/-! ## The end of a run -/

/-- The call belongs to the end of a run: it asks, makes a context, awaits a container or stops
it. -/
def DockerCall.concludes : DockerCall → Bool
  | .withTimeout _ _ => true
  | .containerWait _ _ => true
  | .containerStop _ _ => true
  | c => c.asks

section Concludes

variable {α : Type} {id : GoString} {start : Int64}

/-- The program makes such calls only. -/
abbrev Concludes (p : Proc Docker α) : Prop :=
  p.Meets (Contract.calls fun c => DockerCall.concludes c = true) () fun _ _ => True

theorem concludes_ask {c : DockerCall} {k : DockerReply c → Proc Docker α}
    (concludes : c.concludes = true) (next : ∀ r, Concludes (k r)) : Concludes (ask c >>= k) :=
  ⟨concludes, fun r _ => next r⟩

/-- Asking is among what may come at the end of a run. -/
theorem concludes_asking {p : Proc Docker α} (asking : Asks p) : Concludes p := by
  refine Proc.Meets.calls_mono asking fun c asks => ?_
  cases c with
  | withTimeout | containerWait | containerStop => rfl
  | _ => exact asks

theorem concludes_waitForExit (ctx : Ctx) : Concludes (waitForExit ctx id) := by
  unfold waitForExit
  refine concludes_ask rfl fun event => ?_
  rcases event with ⟨⟨code, _ | message⟩⟩ | err | cause
  · trivial
  · trivial
  · trivial
  · trivial

/-- The handling of the deadline stops the container and waits for it once more. -/
theorem concludes_handleTimeLimit : Concludes (handleTimeLimit id start) := by
  have result : ∀ exitCode, Concludes (timeLimitResult id start exitCode) := by
    intro exitCode
    unfold timeLimitResult
    apply (concludes_asking (asks_fetchLogs .background id)).bind
    intro logs _ _
    cases logs with
    | error err => trivial
    | ok logs => exact concludes_ask rfl fun _ => trivial
  have stopped : Concludes (afterStop id start) := by
    unfold afterStop
    refine concludes_ask rfl fun _ => (concludes_waitForExit stopWaitCtx).bind fun r _ _ => ?_
    cases r with
    | error err =>
        simp only
        split
        · trivial
        · exact result (-1)
    | ok status => exact result status.statusCode
  unfold handleTimeLimit
  refine concludes_ask rfl fun _ => concludes_ask rfl fun r => ?_
  cases r with
  | error err =>
      simp only
      split
      · trivial
      · exact stopped
  | ok _ => exact stopped

theorem concludes_awaitExit (limits : RunLimits) : Concludes (awaitExit limits id) := by
  have context : Concludes (waitContext limits) := by
    unfold waitContext
    split
    · exact concludes_ask rfl fun _ => trivial
    · trivial
  unfold awaitExit
  refine context.bind fun ctx _ _ => (concludes_waitForExit ctx).bind fun r _ _ => ?_
  cases r with
  | ok status => trivial
  | error err =>
      simp only
      split
      · refine concludes_ask rfl fun live => ?_
        cases live with
        | none => trivial
        | some _ => trivial
      · trivial

/-- So from the start on no container is created, attached to or started. -/
theorem concludes_runStarted (limits : RunLimits) : Concludes (runStarted limits id start) := by
  unfold runStarted
  apply (concludes_awaitExit limits).bind
  intro awaited _ _
  cases awaited with
  | failed err => trivial
  | timeLimit => exact concludes_handleTimeLimit
  | exited status =>
      apply (concludes_asking (asks_collectResult id start status)).bind
      intro r _ _
      cases r with
      | error err => trivial
      | ok result => trivial

end Concludes

/-! ## What Docker promises -/

/-- The grace period of `ContainerStop` with default options. -/
def stopGrace : Duration := 10 * Duration.second

/-- How long `ContainerStop` takes when its context lets it, for a container that exits `delay`
after the stop signal, or that ignores the signal: then it is killed after the grace period. -/
def stopTakes : Option Nat → Nat
  | some delay => min delay stopGrace.nanoseconds
  | none => stopGrace.nanoseconds

/-- What `ctx.Err()` may turn into.  The background context does not end. -/
def Ctx.mayEnd : Ctx → CtxErr → Prop
  | .caller, _ => True
  | .background, _ => False
  | .withTimeout parent _, err => err = .deadlineExceeded ∨ parent.mayEnd err

/-- The sentinel of a context error. -/
def CtxErr.sentinel : CtxErr → Sentinel
  | .canceled => .canceled
  | .deadlineExceeded => .deadlineExceeded

/-- The replies of a daemon that fails no call.  `ContainerStop` returns when the container has
exited, or fails with deadline exceeded when its context expires first; a wait ends with the exit
or with its context. -/
def Served (delay : Option Nat) : (c : DockerCall) → DockerReply c → Prop
  | .containerStop (.withTimeout _ timeout) _, .ok _ => stopTakes delay ≤ timeout.nanoseconds
  | .containerStop (.withTimeout _ timeout) _, .error err =>
      err.is .deadlineExceeded = true ∧ err.is .notFound = false ∧
        timeout.nanoseconds ≤ stopTakes delay
  | .containerStop _ _, .error _ => False
  | .containerWait _ _, .status response => response.error = none
  | .containerWait ctx _, .errCh err =>
      ∃ cause : CtxErr, ctx.mayEnd cause ∧ err.is cause.sentinel = true
  | .containerWait ctx _, .ctxDone cause => ctx.mayEnd cause
  | .containerLogs _ _, .refused _ => False
  | .containerLogs _ _, .broken _ => False
  | .imagePull _ _, .refused _ => False
  | .imagePull _ _, .broken _ => False
  | .containerCreate _ _ _, .error _ => False
  | .containerRemove _ _ _, .error _ => False
  | .copyToContainer _ _ _ _, .error _ => False
  | .containerAttach _ _, .error _ => False
  | .writeStdin _ _, .error _ => False
  | .containerStart _ _, .error _ => False
  | .containerInspect _ _, .error _ => False
  | .copyFromContainer _ _ _, .error _ => False
  | _, _ => True

/-! ## Hitting the limit -/

/-- A wait under a deadline on the caller's context fails with deadline exceeded. -/
def missesDeadline : Event Docker → Bool
  | ⟨.containerWait ctx _, event⟩ => ctx.hasCallerDeadline ∧ event.deadlineExceeded
  | _ => false

/-- The caller's context is found live. -/
def findsLive : Event Docker → Bool
  | ⟨.ctxErr .caller, none⟩ => true
  | _ => false

/-- Somewhere in the trace a wait ends because the deadline of the run has expired, and right after
that the caller's context is found live. -/
inductive HitsLimit : List (Event Docker) → Prop
  | here {e e' : Event Docker} {t : List (Event Docker)} (missed : missesDeadline e = true)
      (live : findsLive e' = true) : HitsLimit (e :: e' :: t)
  | later {e : Event Docker} {t : List (Event Docker)} (rest : HitsLimit t) : HitsLimit (e :: t)

/-- What was seen of that so far. -/
inductive Watch where
  | nothing
  | missed
  | hit
  deriving DecidableEq

def Watch.next (s : Watch) (e : Event Docker) : Watch :=
  if s = .hit ∨ (s = .missed ∧ findsLive e = true) then .hit
  else if missesDeadline e then .missed
  else .nothing

/-- A daemon that fails no call, under watch. -/
def watch (delay : Option Nat) : Contract Docker Watch where
  obliges _ _ := True
  allows _ := Served delay
  next s c r := s.next ⟨c, r⟩

section Watch

variable {delay : Option Nat} {e : Event Docker} {t : List (Event Docker)}

/-- The limit is hit by the first event and the one after it, or later. -/
theorem hitsLimit_cons : HitsLimit (e :: t) ↔
    (missesDeadline e = true ∧ ∃ e' rest, t = e' :: rest ∧ findsLive e' = true) ∨ HitsLimit t := by
  constructor
  · intro hits
    cases hits with
    | here missed live => exact Or.inl ⟨missed, _, _, rfl, live⟩
    | later rest => exact Or.inr rest
  · rintro (⟨missed, e', rest, rfl, live⟩ | rest)
    · exact .here missed live
    · exact .later rest

/-- What has been seen stays seen, whatever is called after it. -/
theorem Watch.next_hit : Watch.hit.next e = .hit := if_pos (Or.inl rfl)

/-- Only a missed deadline is of interest to begin with. -/
theorem Watch.next_nothing (quiet : missesDeadline e = false) : Watch.nothing.next e = .nothing := by
  simp [Watch.next, quiet]

/-- Only finding the caller's context live turns the watch to `hit`. -/
theorem Watch.hit_of_next {s : Watch} (other : findsLive e = false) (hit : s.next e = .hit) :
    s = .hit := by
  by_contra before
  unfold Watch.next at hit
  rw [if_neg (by simp [before, other])] at hit
  split at hit <;> cases hit

/-- The watch allows a trace when every reply is served, whatever it has seen. -/
theorem allowed_watch {s : Watch} (served : ∀ e ∈ t, Served delay e.call e.reply) :
    (watch delay).Allowed s t := by
  induction t generalizing s with
  | nil => trivial
  | cons e t ih =>
      exact ⟨served e List.mem_cons_self, ih fun e' later => served e' (List.mem_cons_of_mem _ later)⟩

/-- And only then: the watch allows no reply that is not served. -/
theorem served_of_allowed {s : Watch} (allowed : (watch delay).Allowed s t) :
    ∀ e ∈ t, Served delay e.call e.reply := by
  induction t generalizing s with
  | nil => exact fun _ absurd => nomatch absurd
  | cons e t ih =>
      intro e' member
      rcases List.mem_cons.mp member with rfl | later
      · exact allowed.1
      · exact ih allowed.2 e' later

/-- The watch has seen the trace hit its limit: before it began, at its first event, or within it.
-/
theorem after_watch {s : Watch} : (watch delay).after s t = .hit ↔
    s = .hit ∨ (s = .missed ∧ ∃ e rest, t = e :: rest ∧ findsLive e = true) ∨ HitsLimit t := by
  induction t generalizing s with
  | nil =>
      have empty : ¬ HitsLimit [] := nofun
      simp [Contract.after, empty]
  | cons e t ih =>
      have step : (watch delay).after s (e :: t) = (watch delay).after (s.next e) t := rfl
      rw [step, ih, hitsLimit_cons]
      unfold Watch.next
      cases s <;> cases live : findsLive e <;> cases missed : missesDeadline e <;> simp [live]

/-- The watch over a trace is hit exactly when the trace hits the limit. -/
theorem after_nothing : (watch delay).after .nothing t = .hit ↔ HitsLimit t := by
  simp [after_watch]

/-! ## A container that exits in time -/

variable {α : Type} {c : DockerCall} {k : DockerReply c → Proc Docker α} {Q : α → Watch → Prop}

/-- A call, before any deadline was missed, that is no such wait. -/
theorem meets_quiet (quiet : ∀ r, missesDeadline ⟨c, r⟩ = false)
    (next : ∀ r, Served delay c r → (k r).Meets (watch delay) .nothing Q) :
    (ask c >>= k).Meets (watch delay) .nothing Q := by
  refine ⟨trivial, fun r served => ?_⟩
  have after : (k r).Meets (watch delay) (Watch.nothing.next ⟨c, r⟩) Q := by
    rw [Watch.next_nothing (quiet r)]
    exact next r served
  exact after

/-- A call after the limit was hit changes nothing for the watch, so only what it serves has to be
looked at. -/
theorem meets_hit (next : ∀ r, Served delay c r → (k r).Meets (watch delay) .hit Q) :
    (ask c >>= k).Meets (watch delay) .hit Q := by
  refine ⟨trivial, fun r served => ?_⟩
  have after : (k r).Meets (watch delay) (Watch.hit.next ⟨c, r⟩) Q := by
    rw [Watch.next_hit]
    exact next r served
  exact after

/-- What `waitForExit` makes of the event it waits for. -/
theorem meets_waitForExit {s : Watch} {ctx : Ctx} {id : GoString} :
    (waitForExit ctx id).Meets (watch delay) s fun r s' => ∃ event : WaitEvent,
      Served delay (.containerWait ctx id) event ∧
      s' = s.next ⟨.containerWait ctx id, event⟩ ∧
      ((∃ status, r = .ok status ∧ event.deadlineExceeded = false) ∨
        ∃ err, r = .error err ∧ err.is .deadlineExceeded = event.deadlineExceeded ∧
          ∀ status, event ≠ .status status) := by
  unfold waitForExit
  refine ⟨trivial, fun event served => ?_⟩
  cases event with
  | status status =>
      have clean : status.error = none := served
      rcases status with ⟨code, error⟩
      subst clean
      exact ⟨.status ⟨code, none⟩, served, rfl, Or.inl ⟨_, rfl, rfl⟩⟩
  | errCh err => exact ⟨.errCh err, served, rfl, Or.inr ⟨_, rfl, rfl, nofun⟩⟩
  | ctxDone cause =>
      refine ⟨.ctxDone cause, served, rfl, Or.inr ⟨_, rfl, ?_, nofun⟩⟩
      cases cause <;> rfl

/-- The result says that the limit was exceeded, and there is no error. -/
def RunOutcome.TimedOut (o : RunOutcome) : Prop := ∃ r, o = .finished r ∧ r.status = .timeLimit

/-- Once the limit was hit and the logs are served, what comes out is TL, with the exit code that
was found. -/
theorem meets_timeLimitResult (id : GoString) (start exitCode : Int64) :
    (timeLimitResult id start exitCode).Meets (watch delay) .hit fun o _ => o.TimedOut := by
  unfold timeLimitResult fetchLogs
  refine meets_hit fun r served => ?_
  cases r with
  | refused err => exact served.elim
  | broken err => exact served.elim
  | value logs => exact meets_hit fun duration _ => ⟨_, rfl, rfl⟩

/-- The wait after the stop ends without the exit only at its own deadline. -/
theorem deadlineExceeded_of_served {id : GoString} {event : WaitEvent}
    (served : Served delay (.containerWait stopWaitCtx id) event)
    (fails : ∀ status, event ≠ .status status) : event.deadlineExceeded = true := by
  have ends : ∀ cause : CtxErr, stopWaitCtx.mayEnd cause → cause = .deadlineExceeded :=
    fun cause may => may.resolve_right fun absurd => absurd
  cases event with
  | status status => exact absurd rfl (fails status)
  | errCh err =>
      obtain ⟨cause, may, is⟩ := served
      obtain rfl := ends cause may
      exact is
  | ctxDone cause =>
      obtain rfl := ends cause served
      rfl

/-- After a stop that succeeded, every end of the second wait leads to the result. -/
theorem meets_afterStop (id : GoString) (start : Int64) :
    (afterStop id start).Meets (watch delay) .hit fun o _ => o.TimedOut := by
  unfold afterStop
  refine meets_hit fun _ _ => ?_
  apply meets_waitForExit.bind
  intro r s reached
  obtain ⟨event, served, rfl, ⟨status, rfl, -⟩ | ⟨err, rfl, is, fails⟩⟩ := reached
  · rw [Watch.next_hit]
    exact meets_timeLimitResult _ _ _
  · rw [deadlineExceeded_of_served served fails] at is
    rw [Watch.next_hit]
    simp only
    rw [if_neg fun tolerated => tolerated.1 is]
    exact meets_timeLimitResult _ _ _

/-- The stop returns before its context expires, and the wait after it ends with the exit or at its
own deadline; both ways lead to TL. -/
theorem meets_handleTimeLimit (inTime : stopTakes delay < (5 * Duration.second).nanoseconds)
    (id : GoString) (start : Int64) :
    (handleTimeLimit id start).Meets (watch delay) .hit fun o _ => o.TimedOut := by
  unfold handleTimeLimit
  refine meets_hit fun _ _ => ?_
  refine meets_hit fun r served => ?_
  cases r with
  | ok => exact meets_afterStop _ _
  | error err =>
      obtain ⟨-, -, late⟩ := served
      exact absurd inTime (Nat.not_lt.mpr late)

/-! ## Runs of `runProgram` -/

/-- The parts of a run that only ask do not change what the watch has seen. -/
theorem meets_asking {p : Proc Docker α} (asking : Asks p) :
    p.Meets (watch delay) .nothing fun _ s => s = .nothing := by
  have kept : p.Meets (watch delay) .nothing fun _ s => True ∧ s = .nothing := by
    refine asking.of_calls (fun _ _ => trivial) fun c r asks => Watch.next_nothing ?_
    cases c with
    | containerWait => cases asks
    | _ => rfl
  exact kept.mono fun _ _ both => both.2

/-- The first wait, under a time limit: the limit is hit exactly when the wait says so. -/
theorem meets_awaitExit {limits : RunLimits} (limited : limits.timeLimit > 0) (id : GoString) :
    (awaitExit limits id).Meets (watch delay) .nothing fun r s =>
      (r = .timeLimit ∧ s = .hit) ∨ (r ≠ .timeLimit ∧ s = .nothing) := by
  unfold awaitExit waitContext
  rw [if_pos limited]
  refine meets_quiet (fun _ => rfl) fun _ _ => ?_
  apply meets_waitForExit.bind
  intro r s reached
  obtain ⟨event, -, rfl, ⟨status, rfl, exited⟩ | ⟨err, rfl, is, -⟩⟩ := reached
  · refine Or.inr ⟨(fun expired => by cases expired), Watch.next_nothing ?_⟩
    simp [missesDeadline, exited]
  · have missed : missesDeadline ⟨.containerWait (.withTimeout .caller limits.timeLimit) id, event⟩ =
        err.is .deadlineExceeded := by
      simp [missesDeadline, Ctx.hasCallerDeadline, limited, is]
    cases exceeded : err.is .deadlineExceeded with
    | false =>
        rw [exceeded] at missed
        simp only
        rw [if_neg fun both => by rw [exceeded] at both; cases both.1]
        exact Or.inr ⟨(fun expired => by cases expired), Watch.next_nothing missed⟩
    | true =>
        rw [exceeded] at missed
        simp only
        rw [if_pos ⟨exceeded, limited⟩]
        have expired : Watch.nothing.next
            ⟨.containerWait (.withTimeout .caller limits.timeLimit) id, event⟩ = .missed := by
          simp [Watch.next, missed]
        rw [expired]
        refine ⟨trivial, fun r _ => ?_⟩
        cases r with
        | none => exact Or.inl ⟨rfl, rfl⟩
        | some cause => exact Or.inr ⟨(fun expired => by cases expired), rfl⟩

section InTime

variable (inTime : stopTakes delay < (5 * Duration.second).nanoseconds)
include inTime

/-- From the start on: a hit is followed by `handleTimeLimit`, whose calls are bounded by contexts
that are served in time. -/
theorem meets_runStarted {limits : RunLimits} (limited : limits.timeLimit > 0) (id : GoString)
    (start : Int64) :
    (runStarted limits id start).Meets (watch delay) .nothing fun o s =>
      s = .hit → o.TimedOut := by
  unfold runStarted
  apply (meets_awaitExit limited id).bind
  intro r s reached
  obtain ⟨rfl, rfl⟩ | ⟨other, rfl⟩ := reached
  · exact (meets_handleTimeLimit inTime id start).mono fun o s timedOut _ => timedOut
  · cases r with
    | exited status =>
        apply (meets_asking (asks_collectResult id start status)).bind
        intro r s same
        subst same
        cases r with
        | error err => exact fun absurd => nomatch absurd
        | ok result => exact fun absurd => nomatch absurd
    | timeLimit => exact absurd rfl other
    | failed err => exact fun absurd => nomatch absurd

/-- The start comes after stdin has been written, so a hit lies behind it. -/
theorem meets_runAttached {limits : RunLimits} (limited : limits.timeLimit > 0)
    (id stdin : GoString) (attachStdin : Bool) :
    (runAttached limits id stdin attachStdin).Meets (watch delay) .nothing fun o s =>
      s = .hit → o.TimedOut := by
  unfold runAttached
  refine meets_quiet (fun _ => rfl) fun start _ => ?_
  refine meets_quiet (fun _ => rfl) fun r _ => ?_
  cases r with
  | error err => exact fun absurd => nomatch absurd
  | ok =>
      simp only
      split
      · refine meets_quiet (fun _ => rfl) fun r _ => ?_
        cases r with
        | error err => exact fun absurd => nomatch absurd
        | ok =>
            refine meets_quiet (fun _ => rfl) fun _ _ => ?_
            exact meets_runStarted inTime limited id start
      · exact meets_runStarted inTime limited id start

/-- Nothing before the start can hit the limit, since nothing waits with the deadline. -/
theorem meets_runCreated (runtime : LanguageRuntime) {limits : RunLimits}
    (limited : limits.timeLimit > 0) (files : List FileSpec) (id stdin : GoString)
    (attachStdin : Bool) :
    (runCreated runtime limits files id stdin attachStdin).Meets (watch delay) .nothing fun o s =>
      s = .hit → o.TimedOut := by
  unfold runCreated
  apply (meets_asking (asks_copyFiles _ _ _)).bind
  intro r s same
  subst same
  cases r with
  | error err => exact fun absurd => nomatch absurd
  | ok =>
      simp only
      split
      · apply (meets_asking asks_callerOrBackground).bind
        intro ctx s same
        subst same
        refine meets_quiet (fun _ => rfl) fun r _ => ?_
        cases r with
        | error err => exact fun absurd => nomatch absurd
        | ok =>
            refine (meets_runAttached inTime limited id stdin attachStdin).deferring
              fun o s post => ?_
            exact ⟨trivial, fun _ _ hit => post (Watch.hit_of_next rfl hit)⟩
      · exact meets_runAttached inTime limited id stdin attachStdin

/-- **A container that exits in time.**  When the stop returns before its context expires, every
run that hits its limit is reported as TL. -/
theorem stopped_in_time (runtime : LanguageRuntime) (limits : RunLimits)
    (limited : (runtime.engine.effectiveLimits limits).timeLimit > 0) (command : List GoString)
    (files : List FileSpec) (stdin : GoString) (attachStdin : Bool) {o : RunOutcome}
    (run : Exec (runProgram runtime limits command files stdin attachStdin) t o)
    (served : ∀ e ∈ t, Served delay e.call e.reply) (hits : HitsLimit t) : o.TimedOut := by
  have whole : (runProgram runtime limits command files stdin attachStdin).Meets (watch delay)
      .nothing fun o s => s = .hit → o.TimedOut := by
    unfold runProgram createContainerWithImage
    refine meets_quiet (fun _ => rfl) fun r _ => ?_
    cases r with
    | error err => exact fun absurd => nomatch absurd
    | ok id =>
        refine (meets_runCreated inTime runtime limited files id stdin attachStdin).deferring
          fun o s post => ?_
        exact ⟨trivial, fun _ _ hit => post (Watch.hit_of_next rfl hit)⟩
  exact (whole.sound run (allowed_watch served)).2 (after_nothing.mpr hits)

end InTime

/-! ## A container that does not -/

/-- The daemon answers `c` with `r`. -/
theorem can_ask {s : Watch} (r : DockerReply c) (served : Served delay c r)
    (next : (k r).Can (watch delay) (s.next ⟨c, r⟩) Q) : (ask c >>= k).Can (watch delay) s Q :=
  ⟨r, served, next⟩

section Late

variable (late : (5 * Duration.second).nanoseconds ≤ stopTakes delay)
include late

/-- The context of the stop expires, which is no error that `handleTimeLimit` tolerates. -/
theorem can_handleTimeLimit (id : GoString) (start : Int64) :
    (handleTimeLimit id start).Can (watch delay) .hit fun o s => s = .hit ∧ ¬ o.TimedOut := by
  unfold handleTimeLimit
  refine can_ask () trivial ?_
  refine can_ask (.error CtxErr.deadlineExceeded.toError) ⟨rfl, rfl, late⟩ ?_
  exact ⟨rfl, fun timedOut => nomatch timedOut⟩

/-- Where the stop takes too long, the limit can be hit and an error returned.  The replies are
chosen one by one. -/
theorem can_runStarted {limits : RunLimits} (limited : limits.timeLimit > 0) (id : GoString)
    (start : Int64) :
    (runStarted limits id start).Can (watch delay) .nothing fun o s => s = .hit ∧ ¬ o.TimedOut := by
  have expired : Watch.nothing.next
      ⟨.containerWait (.withTimeout .caller limits.timeLimit) id, .ctxDone .deadlineExceeded⟩ =
        .missed := by
    simp [Watch.next, missesDeadline, Ctx.hasCallerDeadline, WaitEvent.deadlineExceeded, limited]
  have waited : (waitForExit (.withTimeout .caller limits.timeLimit) id).Can (watch delay) .nothing
      fun r s => s = .missed ∧ ∃ err, r = .error err ∧ err.is .deadlineExceeded = true := by
    unfold waitForExit
    refine can_ask (.ctxDone .deadlineExceeded) (Or.inl rfl) ?_
    exact ⟨expired, _, rfl, rfl⟩
  have awaited : (awaitExit limits id).Can (watch delay) .nothing fun r s =>
      r = .timeLimit ∧ s = .hit := by
    unfold awaitExit waitContext
    rw [if_pos limited]
    refine can_ask () trivial ?_
    apply waited.bind
    intro r s reached
    obtain ⟨rfl, err, rfl, exceeded⟩ := reached
    simp only
    rw [if_pos ⟨exceeded, limited⟩]
    refine can_ask none trivial ?_
    exact ⟨rfl, rfl⟩
  unfold runStarted
  apply awaited.bind
  intro r s reached
  obtain ⟨rfl, rfl⟩ := reached
  exact can_handleTimeLimit late id start

theorem can_runAttached {limits : RunLimits} (limited : limits.timeLimit > 0)
    (id stdin : GoString) (attachStdin : Bool) :
    (runAttached limits id stdin attachStdin).Can (watch delay) .nothing fun o s =>
      s = .hit ∧ ¬ o.TimedOut := by
  unfold runAttached
  refine can_ask 0 trivial ?_
  refine can_ask (.ok ()) trivial ?_
  simp only
  split
  · refine can_ask (.ok ()) trivial ?_
    refine can_ask () trivial ?_
    exact can_runStarted late limited id _
  · exact can_runStarted late limited id _

theorem can_runCreated (runtime : LanguageRuntime) {limits : RunLimits}
    (limited : limits.timeLimit > 0) (files : List FileSpec) (id stdin : GoString)
    (attachStdin : Bool) :
    (runCreated runtime limits files id stdin attachStdin).Can (watch delay) .nothing fun o s =>
      s = .hit ∧ ¬ o.TimedOut := by
  have copied : (copyFiles id runtime.config.workdir files).Can (watch delay) .nothing fun r s =>
      r = .ok () ∧ s = .nothing := by
    unfold copyFiles
    split
    · exact ⟨rfl, rfl⟩
    · exact ⟨.ok (), trivial, rfl, rfl⟩
  have context : callerOrBackground.Can (watch delay) .nothing fun _ s => s = .nothing := by
    unfold callerOrBackground
    exact can_ask none trivial rfl
  unfold runCreated
  apply copied.bind
  intro r s reached
  obtain ⟨rfl, rfl⟩ := reached
  simp only
  split
  · apply context.bind
    intro ctx s same
    subst same
    refine can_ask (.ok ()) trivial ?_
    refine (can_runAttached late limited id stdin attachStdin).deferring fun o s post => ?_
    obtain ⟨rfl, lost⟩ := post
    exact ⟨(), trivial, Watch.next_hit (e := ⟨.closeAttach id, ()⟩), lost⟩
  · exact can_runAttached late limited id stdin attachStdin

/-- **A container that does not.**  When the context of the stop may expire first, some run that
hits its limit is not reported as TL. -/
theorem stop_times_out (runtime : LanguageRuntime) (limits : RunLimits)
    (limited : (runtime.engine.effectiveLimits limits).timeLimit > 0) (command : List GoString)
    (files : List FileSpec) (stdin : GoString) (attachStdin : Bool) :
    ∃ t o, Exec (runProgram runtime limits command files stdin attachStdin) t o ∧
      (∀ e ∈ t, Served delay e.call e.reply) ∧ HitsLimit t ∧ ¬ o.TimedOut := by
  have whole : (runProgram runtime limits command files stdin attachStdin).Can (watch delay)
      .nothing fun o s => s = .hit ∧ ¬ o.TimedOut := by
    unfold runProgram createContainerWithImage
    refine can_ask (.ok (lit "c1")) trivial ?_
    refine (can_runCreated late runtime limited files (lit "c1") stdin attachStdin).deferring
      fun o s post => ?_
    obtain ⟨rfl, lost⟩ := post
    exact ⟨.ok (), trivial,
      Watch.next_hit (e := ⟨.containerRemove .background (lit "c1") true, .ok ()⟩), lost⟩
  obtain ⟨t, o, run, allowed, hit, lost⟩ := whole.realize
  exact ⟨t, o, run, served_of_allowed allowed, after_nothing.mp hit, lost⟩

end Late

/-! ## Exactly when -/

/-- The stop takes less than five seconds when the container exits that soon. -/
theorem stopTakes_lt :
    stopTakes delay < (5 * Duration.second).nanoseconds ↔
      ∃ d, delay = some d ∧ d < (5 * Duration.second).nanoseconds := by
  have grace : (5 * Duration.second).nanoseconds < stopGrace.nanoseconds := by decide
  cases delay with
  | none =>
      simp only [stopTakes, reduceCtorEq, false_and, exists_false, iff_false]
      exact Nat.lt_asymm grace
  | some d =>
      simp only [stopTakes, Option.some.injEq, exists_eq_left']
      omega

end Watch

/-- **A run that hits its limit is reported as TL**, on a daemon that fails no call, exactly when
the container exits less than five seconds after the stop signal.  Here `delay` is the time it takes
for that, and `none` when it ignores the signal. -/
theorem timeLimit_reported_iff (runtime : LanguageRuntime) (limits : RunLimits)
    (limited : (runtime.engine.effectiveLimits limits).timeLimit > 0) (command : List GoString)
    (files : List FileSpec) (stdin : GoString) (attachStdin : Bool) (delay : Option Nat) :
    (∀ t o, Exec (runProgram runtime limits command files stdin attachStdin) t o →
      (∀ e ∈ t, Served delay e.call e.reply) → HitsLimit t → o.TimedOut) ↔
    ∃ d, delay = some d ∧ d < (5 * Duration.second).nanoseconds := by
  rw [← stopTakes_lt]
  constructor
  · intro reported
    by_contra slow
    obtain ⟨t, o, run, served, hits, lost⟩ := stop_times_out (Nat.not_lt.mp slow) runtime limits
      limited command files stdin attachStdin
    exact lost (reported t o run served hits)
  · intro inTime t o run served hits
    exact stopped_in_time inTime runtime limits limited command files stdin attachStdin run served
      hits

/-- A runtime for Python whose scripts may run for one second. -/
def oneSecondPython : LanguageRuntime :=
  ⟨.python, ⟨"python:3.12-alpine", [], "/tmp"⟩, newContainerEngine ⟨Duration.second, 0⟩⟩

/-- A program that does not end by itself. -/
def endless : List FileSpec := [⟨"script.py", 0, "while True: pass"⟩]

/-- A daemon that serves every call, while the first wait is never answered before its deadline. -/
def expiringDaemon (past : List (Event Docker)) : (c : DockerCall) → DockerReply c
  | .containerWait (.withTimeout .caller _) _ => .ctxDone .deadlineExceeded
  | c => servingDaemon past c

theorem expiringDaemon_served (past : List (Event Docker)) (c : DockerCall) :
    Served (some 0) c (expiringDaemon past c) := by
  cases c with
  | containerWait ctx id =>
      cases ctx with
      | withTimeout parent timeout =>
          cases parent with
          | caller => exact Or.inl rfl
          | background => rfl
          | withTimeout parent timeout' => rfl
      | caller => rfl
      | background => rfl
  | containerStop ctx id =>
      cases ctx with
      | withTimeout parent timeout => exact Nat.zero_le _
      | caller => trivial
      | background => trivial
  | _ => trivial

/-- The program that does not end is stopped at once, and reported as TL. -/
theorem timeLimit_reported_iff_endless :
    ((runProgram oneSecondPython ⟨0, 0⟩ ["python", "script.py"] endless [] false).answered
      expiringDaemon []).2.TimedOut := by
  have obedient := (timeLimit_reported_iff oneSecondPython ⟨0, 0⟩ (by decide)
    ["python", "script.py"] endless [] false (some 0)).mpr ⟨0, rfl, by decide⟩
  refine obedient _ _ (exec_answered expiringDaemon _ []) ?_ ?_
  · exact Proc.answered_all expiringDaemon_served _ []
  · exact after_nothing.mp (show (watch (some 0)).after .nothing _ = .hit by decide)

/-- When it ignores the stop signal, it need not be: the kill comes after ten seconds, and the
context of the stop is over after five. -/
theorem endless_unreported :
    ¬ ∀ t o, Exec (runProgram oneSecondPython ⟨0, 0⟩ ["python", "script.py"] endless [] false) t o →
      (∀ e ∈ t, Served none e.call e.reply) → HitsLimit t → o.TimedOut := by
  intro reported
  have late : (5 * Duration.second).nanoseconds ≤ stopTakes none := by decide
  obtain ⟨t, o, run, served, hits, lost⟩ := stop_times_out late oneSecondPython ⟨0, 0⟩ (by decide)
    ["python", "script.py"] endless [] false
  exact lost (reported t o run served hits)

end Scrc
