import Scrc.Docker.Isolation
import Scrc.Docker.TimeLimit

/-!
# Programs that leave their stdin unread

A run writes the whole stdin to the attached connection before it waits for the container.  A
program may close its stdin or exit before it has read all of it, and the write may fail from then
on.  Then the run returns the error of the write, and what the program did is lost.

* `Behaviour.refusing`: the daemon on which only such writes fail.
* `faces_runProgram`: what a run comes to there.
* `stdin_consumed_iff`: every run is judged by its program exactly when this reads all of its stdin.
* `unread_stdin_fails`: a correct program whose run fails.
-/

namespace Scrc

open Interaction

/-! ## The daemon -/

/-- Data written to the stdin of the container. -/
def Workload.write (w : Workload) (data : GoString) : Workload :=
  { w with stdin := w.stdin ++ data }

/-- The program closes its stdin or exits with some of it unread, when it reads so many bytes. -/
def Unread (consumes : Workload → Nat) (w : Workload) : Prop := consumes w < w.stdin.length

/-- A write that fails. -/
def Refused (consumes : Workload → Nat) (s : Records) : (c : DockerCall) → DockerReply c → Prop
  | .writeStdin id data, .error _ => Unread consumes ((s id).work.write data)
  | _, _ => False

/-- The daemon of `B`, but for writes to programs that leave some of their stdin unread: those may
succeed or fail. -/
def Behaviour.refusing (B : Behaviour) (leaves : Workload → GoString → List TarEntry → Prop)
    (consumes : Workload → Nat) : Contract Docker Records where
  obliges _ _ := True
  allows s c r := B.allows leaves s c r ∨ Refused consumes s c r
  next := Records.next

/-- The call writes to a stdin. -/
def DockerCall.writes : DockerCall → Bool
  | .writeStdin _ _ => true
  | _ => false

section Refusing

variable {B : Behaviour} {leaves : Workload → GoString → List TarEntry → Prop}
  {consumes : Workload → Nat} {s : Records} {id : GoString} {w : Workload} {limits : RunLimits}
  {stdin : GoString}

/-- On the refusing daemon the program ends as `Q` says. -/
abbrev Faces {α : Type} (B : Behaviour) (leaves : Workload → GoString → List TarEntry → Prop)
    (consumes : Workload → Nat) (s : Records) (p : Proc Docker α) (Q : α → Records → Prop) : Prop :=
  p.Meets (B.refusing leaves consumes) s Q

theorem writes_of_refused {c : DockerCall} {r : DockerReply c} (refused : Refused consumes s c r) :
    c.writes = true := by
  cases c with
  | writeStdin => rfl
  | _ => exact refused.elim

theorem allows_of_dry {c : DockerCall} {r : DockerReply c} (dry : c.writes = false)
    (allowed : (B.refusing leaves consumes).allows s c r) : B.allows leaves s c r := by
  refine allowed.resolve_right fun refused => ?_
  rw [writes_of_refused refused] at dry
  cases dry

/-- Programs that write nothing do not see the difference between a daemon that refuses part of
stdin and one that takes all of it. -/
theorem faces_of_gives {α : Type} {p : Proc Docker α} {Q : α → Records → Prop}
    (gives : Gives B leaves s p Q)
    (dry : p.Meets (Contract.calls fun c => DockerCall.writes c = false) () fun _ _ => True) :
    Faces B leaves consumes s p Q :=
  gives.of_agree dry (fun _ _ _ _ => trivial) (fun _ _ _ dry => allows_of_dry dry)
    fun _ _ _ _ => rfl

theorem dry_of_concludes {α : Type} {p : Proc Docker α} (concluding : Concludes p) :
    p.Meets (Contract.calls fun c => DockerCall.writes c = false) () fun _ _ => True := by
  refine concluding.calls_mono fun c concludes => ?_
  cases c with
  | writeStdin => cases concludes
  | _ => rfl

theorem faces_asking {α : Type} {p : Proc Docker α} {Q : α → Records → Prop}
    (gives : Gives B leaves s p Q) (asking : Asks p) : Faces B leaves consumes s p Q :=
  faces_of_gives gives (dry_of_concludes (concludes_asking asking))

theorem faces_ask {α : Type} {c : DockerCall} {k : DockerReply c → Proc Docker α}
    {Q : α → Records → Prop} (dry : c.writes = false)
    (next : ∀ r, B.allows leaves s c r → Faces B leaves consumes (s.next c r) (k r) Q) :
    Faces B leaves consumes s (ask c >>= k) Q :=
  ⟨trivial, fun r allowed => next r (allows_of_dry dry allowed)⟩

/-! ## What a run comes to -/

/-- The run shows `x`, or it fails at the write because its program left some of its stdin
unread. -/
def RunOutcome.EndsAs (o : RunOutcome) (x : Observed) (unread : Prop) : Prop :=
  o.Shows x ∨ (unread ∧ ∃ err, o = .failed (.wrap "write stdin" err))

theorem faces_runAttached (here : s id = { work := w }) :
    Faces B leaves consumes s (runAttached limits id stdin true) fun o _ =>
      o.EndsAs (B.observed limits (w.write stdin)) (Unread consumes (w.write stdin)) := by
  unfold runAttached
  refine faces_ask rfl fun start _ => ?_
  refine faces_ask rfl fun r started => ?_
  cases started
  refine ⟨trivial, fun r wrote => ?_⟩
  cases r with
  | error err =>
      have refused : Unread consumes ((s id).work.write stdin) := wrote.resolve_left nofun
      rw [here] at refused
      exact Or.inr ⟨refused, err, rfl⟩
  | ok =>
      refine faces_ask rfl fun _ _ => ?_
      have written : (s.change id fun c => { c with work := c.work.write stdin }) id =
          { work := w.write stdin } := by
        rw [Records.change_self, here]
      have runs : Gives B leaves _ (runStarted limits id start) fun o _ =>
          o.Shows (B.observed limits (w.write stdin)) :=
        gives_runStarted (congrArg ContainerRecord.work written)
          (congrArg ContainerRecord.stopped written)
      exact (faces_of_gives runs (dry_of_concludes (concludes_runStarted limits))).mono
        fun _ _ shown => Or.inl shown

theorem faces_runCreated {runtime : LanguageRuntime} {files : List FileSpec}
    (here : s id = { work := w }) :
    Faces B leaves consumes s (runCreated runtime limits files id stdin true) fun o _ =>
      o.EndsAs (B.observed limits ((w.fill runtime.config.workdir files).write stdin))
        (Unread consumes ((w.fill runtime.config.workdir files).write stdin)) := by
  unfold runCreated
  apply (faces_asking (gives_copyFiles here) (asks_copyFiles _ _ _)).bind
  intro r s' reached
  rcases reached with ⟨copied, filled⟩
  subst copied
  apply (faces_asking gives_callerOrBackground asks_callerOrBackground).bind
  intro ctx s'' same
  subst same
  refine faces_ask rfl fun r attached => ?_
  cases attached
  exact (faces_runAttached filled).deferring fun o _ ends => faces_ask rfl fun _ _ => ends

/-- **One run** shows what its program does, or it fails because that left some of its stdin
unread. -/
theorem faces_runProgram {runtime : LanguageRuntime} {request : RunLimits}
    {command : List GoString} {files : List FileSpec}
    (effective : runtime.engine.effectiveLimits request = limits) :
    Faces B leaves consumes s (runProgram runtime request command files stdin true) fun o _ =>
      o.EndsAs (B.observed limits (runWorkload runtime limits command files stdin))
        (Unread consumes (runWorkload runtime limits command files stdin)) := by
  unfold runProgram
  rw [effective]
  have creates : Faces B leaves consumes s
      (createContainerWithImage runtime limits command true runtime.runImage) _ :=
    faces_of_gives gives_createContainerWithImage ⟨rfl, fun r _ => by cases r <;> trivial⟩
  apply creates.bind
  intro r s' reached
  rcases reached with ⟨id, created, here⟩
  subst created
  exact (faces_runCreated here).deferring fun o _ ends => faces_ask rfl fun _ _ => ends

/-! ## A write that fails -/

/-- The calls that fill a container or ask are answered, so that what a run can do is not cut short
by them. -/
theorem asks_live (s : Records) (c : DockerCall) (asks : c.asks = true) :
    ∃ r, (B.refusing leaves consumes).allows s c r := by
  cases c with
  | ctxErr ctx => exact ⟨none, Or.inl rfl⟩
  | since start => exact ⟨(0 : Duration), Or.inl trivial⟩
  | copyToContainer ctx id path files => exact ⟨.ok (), Or.inl rfl⟩
  | containerInspect ctx id =>
      exact ⟨.ok (some (B.oomKilled (s id).work)), Or.inl ⟨_, rfl, Option.some_inj⟩⟩
  | containerLogs ctx id => exact ⟨.value (B.output (s id)), Or.inl rfl⟩
  | _ => cases asks

theorem can_asking {α : Type} {p : Proc Docker α} {Q : α → Records → Prop}
    (gives : Gives B leaves s p Q) (asking : Asks p) : p.Can (B.refusing leaves consumes) s Q :=
  (faces_asking gives asking).can asking asks_live

theorem fails_runAttached (here : s id = { work := w }) (unread : Unread consumes (w.write stdin))
    (err : GoError) :
    (runAttached limits id stdin true).Can (B.refusing leaves consumes) s fun o _ =>
      o = .failed (.wrap "write stdin" err) := by
  unfold runAttached
  have refused : Unread consumes ((s id).work.write stdin) := by
    rw [here]
    exact unread
  exact ⟨(0 : Int64), Or.inl trivial, .ok (), Or.inl rfl, .error err, Or.inr refused, rfl⟩

theorem fails_runCreated {runtime : LanguageRuntime} {files : List FileSpec}
    (here : s id = { work := w })
    (unread : Unread consumes ((w.fill runtime.config.workdir files).write stdin)) (err : GoError) :
    (runCreated runtime limits files id stdin true).Can (B.refusing leaves consumes) s fun o _ =>
      o = .failed (.wrap "write stdin" err) := by
  unfold runCreated
  apply (can_asking (gives_copyFiles here) (asks_copyFiles _ _ _)).bind
  intro r s' reached
  rcases reached with ⟨copied, filled⟩
  subst copied
  apply (can_asking gives_callerOrBackground asks_callerOrBackground).bind
  intro ctx s'' same
  subst same
  refine ⟨.ok (), Or.inl rfl, ?_⟩
  exact (fails_runAttached filled unread err).deferring fun o _ failed =>
    ⟨(), Or.inl trivial, failed⟩

/-- A run whose program leaves some of its stdin unread may fail, with any error of the write. -/
theorem fails_runProgram {runtime : LanguageRuntime} {request : RunLimits} {command : List GoString}
    {files : List FileSpec} (effective : runtime.engine.effectiveLimits request = limits)
    (unread : Unread consumes (runWorkload runtime limits command files stdin)) (err : GoError) :
    (runProgram runtime request command files stdin true).Can (B.refusing leaves consumes) s
      fun o _ => o = .failed (.wrap "write stdin" err) := by
  unfold runProgram createContainerWithImage
  rw [effective]
  refine ⟨.ok [], Or.inl ⟨[], rfl⟩, ?_⟩
  have here := s.change_self [] fun _ => { work :=
    { config := containerConfig runtime command true runtime.runImage, host := hostConfig limits } }
  exact (fails_runCreated here unread err).deferring fun o _ failed => ⟨.ok (), Or.inl rfl, failed⟩

end Refusing

/-- **Runs and stdin.**  For a program that exits by itself within its limits, every run shows what
the program did exactly when the program reads all of its stdin. -/
theorem stdin_consumed_iff (B : Behaviour) (leaves : Workload → GoString → List TarEntry → Prop)
    (consumes : Workload → Nat) (runtime : LanguageRuntime) (request : RunLimits)
    (command : List GoString) (files : List FileSpec) (stdin : GoString) :
    let limits := runtime.engine.effectiveLimits request
    let w := runWorkload runtime limits command files stdin
    B.expires limits w = false →
      ((∀ s t o, Exec (runProgram runtime request command files stdin true) t o →
          (B.refusing leaves consumes).Allowed s t →
            o.Shows ⟨if B.oomKilled w then .memoryLimit else .ok, (B.logs w).1, (B.logs w).2,
              B.exitCode w⟩) ↔
        stdin.length ≤ consumes w) := by
  intro limits w within
  constructor
  · intro judged
    by_contra unread
    have unread : Unread consumes w := Nat.not_le.mp unread
    obtain ⟨t, o, run, allowed, failed⟩ := (fails_runProgram (B := B) (s := fun _ => default) rfl
      unread (.new [])).realize
    obtain ⟨r, finished, -⟩ := judged _ t o run allowed
    rw [failed] at finished
    cases finished
  · intro consumed s t o run allowed
    rcases ((faces_runProgram rfl).sound run allowed).2 with shown | ⟨unread, -⟩
    · rw [B.observed_of_within within] at shown
      exact shown
    · exact absurd consumed (Nat.not_le.mpr unread)

theorem allowed_refusing {B : Behaviour} {leaves : Workload → GoString → List TarEntry → Prop}
    {consumes : Workload → Nat} {s : Records} {t : List (Event Docker)}
    (allowed : (B.daemon leaves).Allowed s t) : (B.refusing leaves consumes).Allowed s t :=
  allowed.mono (fun _ _ _ => Or.inl) fun _ _ _ => rfl

/-- A program in Python that prints 1. -/
def ignoring : List FileSpec := [⟨"script.py", 0o644, "print(1)"⟩]

/-- A run of it with five bytes of stdin. -/
def runIgnoring : Proc Docker RunOutcome :=
  runProgram oneSecondPython ⟨0, 0⟩ ["python", "script.py"] ignoring "2 3 \n" true

/-- On a daemon whose programs print their stdin, all of which they read. -/
theorem stdin_consumed_iff_echo :
    (runIgnoring.answered (echo.serve (leaves [])) []).2.Shows ⟨.ok, "2 3 \n", [], 0⟩ := by
  have judged := (stdin_consumed_iff echo (leavesArtifact (leaves [])) (fun w => w.stdin.length)
    oneSecondPython ⟨0, 0⟩ ["python", "script.py"] ignoring "2 3 \n" (by decide)).mpr
      (Nat.le_refl _)
  have allowed := echo.serve_allowed (fun _ => Option.some_ne_none 0) (leaves []) runIgnoring
  exact judged (fun _ => default) _ _ (exec_answered _ _ _) (allowed_refusing allowed)

/-- The workload of the run. -/
def ignoringWork : Workload :=
  runWorkload oneSecondPython ⟨Duration.second, 0⟩ ["python", "script.py"] ignoring "2 3 \n"

/-- Programs that print 1 and exit at once. -/
def printsOne : Behaviour := { echo with logs := fun _ => ("1\n", []) }

/-- The daemon of such programs, which read none of their stdin. -/
def deaf : Contract Docker Records := printsOne.refusing (leavesArtifact (leaves [])) fun _ => 0

/-- A test that expects 1. -/
def expectsOne : TestCase := ⟨1, "2 3 \n", "1\n"⟩

/-- The error of a write to a program that is gone. -/
def brokenPipe : GoError := .new "write: broken pipe"

/-- The program exits within its limits and passes the test, but a run can fail at the write, and
then the test is a wrong answer. -/
theorem unread_stdin_fails :
    printsOne.expires ⟨Duration.second, 0⟩ ignoringWork = false ∧
    (printsOne.observed ⟨Duration.second, 0⟩ ignoringWork).verdict expectsOne = .ok ∧
    (∃ s t, Exec runIgnoring t (.failed (.wrap "write stdin" brokenPipe)) ∧ deaf.Allowed s t) ∧
    (RunOutcome.failed (.wrap "write stdin" brokenPipe)).verdict expectsOne = .wrongAnswer ∧
    ¬ ∀ s t o, Exec runIgnoring t o → deaf.Allowed s t →
      o.Shows (printsOne.observed ⟨Duration.second, 0⟩ ignoringWork) := by
  have effective : oneSecondPython.engine.effectiveLimits ⟨0, 0⟩ = ⟨Duration.second, 0⟩ := by decide
  have unread : Unread (fun _ => 0) ignoringWork := by
    unfold Unread
    decide
  have fails : runIgnoring.Can deaf (fun _ => default) fun o _ =>
      o = .failed (.wrap "write stdin" brokenPipe) := fails_runProgram effective unread brokenPipe
  obtain ⟨t, o, run, allowed, rfl⟩ := fails.realize
  refine ⟨by decide, by decide, ⟨_, t, run, allowed⟩, by decide, fun judged => ?_⟩
  obtain ⟨r, finished, -⟩ := judged _ t _ run allowed
  cases finished

end Scrc
