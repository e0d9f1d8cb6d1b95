import Mathlib.Logic.Function.Basic
import Scrc.Docker.TimeLimit
import Scrc.Lib.Environment

/-!
# The clock of a run

`runProgram` in an environment with a clock: the program in the container drains its stdin at any
speed or never, and exits when it likes; a write to the attached connection is finished only when
all of it has gone into the connection, whose buffer is bounded.  Every call may take any time.

A run goes through three phases (`Before`, `Begun`, `Limited`).  The moves of the environment keep
each of them, and so do the answers to all calls but two (`Calm`): the start leads from the first to
the second, and the creation of the deadline from there to the third.
-/

namespace Scrc

open Interaction Transition Environment

/-! ## The environment -/

/-- The time, the caller's context, the container of the run, the connection to its stdin, and the
deadlines of the contexts made so far.  Times are nanoseconds. -/
structure World where
  now : Nat
  live : Bool
  /-- when `ContainerStart` returned -/
  started : Option Nat := none
  /-- when the program exited -/
  exited : Option Nat := none
  /-- how many bytes went into the connection, and how many the program has taken out -/
  sent : Nat := 0
  consumed : Nat := 0
  deadline : Ctx → Option Nat := fun _ => none

namespace World

/-- The program runs. -/
def running (w : World) : Prop := w.started ≠ none ∧ w.exited = none

/-- The context has ended, with this error. -/
def ended (w : World) : Ctx → CtxErr → Prop
  | .caller, _ => w.live = false
  | .background, _ => False
  | .withTimeout parent timeout, err =>
      w.ended parent err ∨
        (err = .deadlineExceeded ∧ ∃ t, w.deadline (.withTimeout parent timeout) = some t ∧ t ≤ w.now)

/-- The call may be answered like this.  A call may fail at any time; a wait is answered with a
status after the exit only, and with the end of its context when it has ended. -/
def grants (w : World) : (c : DockerCall) → DockerReply c → Prop
  | .ctxErr ctx, none => ∀ err, ¬ w.ended ctx err
  | .ctxErr ctx, some err => w.ended ctx err
  | .now, t => t = Int64.ofNat w.now
  | .since start, d => d = Int64.ofNat w.now - start
  | .writeStdin _ data, .ok _ => w.sent = data.length
  | .containerWait _ _, .status _ => w.exited ≠ none
  | .containerWait ctx _, .ctxDone err => w.ended ctx err
  | _, _ => True

/-- The world after the answer. -/
def next (w : World) : (c : DockerCall) → DockerReply c → World
  | .containerStart _ _, .ok _ => { w with started := some w.now }
  | .withTimeout parent timeout, _ =>
      { w with
        deadline :=
          Function.update w.deadline (.withTimeout parent timeout)
            (some (w.now + timeout.nanoseconds)) }
  | _, _ => w

end World

/-- What happens while a call is pending.  The connection holds `buffer` bytes that the program has
not taken out. -/
inductive Moves (buffer : Nat) : DockerCall → World → World → Prop
  | tick {c : DockerCall} {w : World} : Moves buffer c w { w with now := w.now + 1 }
  | cancel {c : DockerCall} {w : World} : Moves buffer c w { w with live := false }
  | send {id data : GoString} {w : World} (more : w.sent < data.length)
      (room : w.sent < w.consumed + buffer) :
      Moves buffer (.writeStdin id data) w { w with sent := w.sent + 1 }
  | consume {c : DockerCall} {w : World} (running : w.running) (held : w.consumed < w.sent) :
      Moves buffer c w { w with consumed := w.consumed + 1 }
  | exit {c : DockerCall} {w : World} (running : w.running) :
      Moves buffer c w { w with exited := some w.now }

/-- The daemon, the container and the clock around a run. -/
def clocked (buffer : Nat) : Environment Docker World where
  answers w c r w' := w.grants c r ∧ w' = w.next c r
  moves := Moves buffer

/-- The context of the wait of a run with this time limit. -/
def runCtx (timeLimit : Duration) : Ctx := .withTimeout .caller timeLimit

/-- When the caller's context is live and the program has been running for longer than the time
limit, the deadline of the run has expired. -/
def World.InTime (timeLimit : Duration) (w : World) : Prop :=
  w.live = true → ∀ start, w.started = some start → w.exited = none →
    start + timeLimit.nanoseconds < w.now →
    ∃ t, w.deadline (runCtx timeLimit) = some t ∧ t ≤ w.now

/-- No time passes while the program runs and the deadline of its run does not exist yet. -/
def Prompt (timeLimit : Duration) (w w' : World) : Prop :=
  w.now < w'.now → w.running → w.deadline (runCtx timeLimit) ≠ none

/-- No time passes while the program runs, its wait is pending, and the deadline has expired. -/
def Reacts (timeLimit : Duration) (c : DockerCall) (w w' : World) : Prop :=
  w.now < w'.now → w.exited = none → ∀ id, c = .containerWait (runCtx timeLimit) id →
    ∀ t, w.deadline (runCtx timeLimit) = some t → w.now < t

/-- A result that says OK or ML is about a program that exited within its time limit. -/
def Punctual (timeLimit : Duration) (o : RunOutcome) (w : World) : Prop :=
  ∀ r, o.result = some r → (r.status = .ok ∨ r.status = .memoryLimit) →
    ∃ start e, w.started = some start ∧ w.exited = some e ∧ e ≤ start + timeLimit.nanoseconds

/-! ## The three phases of a run -/

section Phases

variable {buffer : Nat} {timeLimit : Duration} {c : DockerCall} {w w' : World}

/-- Before the start. -/
structure Before (timeLimit : Duration) (w : World) : Prop where
  started : w.started = none
  exited : w.exited = none
  deadline : w.deadline (runCtx timeLimit) = none

/-- The program has been started, without a deadline.  It was just now, or the program exited at
once. -/
structure Begun (timeLimit : Duration) (start : Nat) (w : World) : Prop where
  started : w.started = some start
  deadline : w.deadline (runCtx timeLimit) = none
  running : w.exited = none → w.now = start
  exited : ∀ e, w.exited = some e → e ≤ start

/-- The deadline of the run counts from its start, or the program exited at once. -/
structure Limited (timeLimit : Duration) (start : Nat) (w : World) : Prop where
  started : w.started = some start
  deadline : w.deadline (runCtx timeLimit) = some (start + timeLimit.nanoseconds) ∨
    ∃ e, w.exited = some e ∧ e ≤ start

/-- The run is in one of the three phases. -/
def Covered (timeLimit : Duration) (w : World) : Prop :=
  Before timeLimit w ∨ (∃ start, Begun timeLimit start w) ∨ ∃ start, Limited timeLimit start w

/-- Before the start there is nothing to be late for, since no program has been running. -/
theorem Before.inTime (before : Before timeLimit w) : w.InTime timeLimit := by
  intro _ start started
  rw [before.started] at started
  cases started

/-- Between the start and the creation of the deadline no time has passed, so the program cannot
have run for longer than its limit. -/
theorem Begun.inTime {start : Nat} (begun : Begun timeLimit start w) : w.InTime timeLimit := by
  intro _ start' started running late
  rw [begun.started] at started
  cases started
  have now := begun.running running
  omega

/-- Once the deadline exists, it expires at the latest when the limit is over, counted from the
start. -/
theorem Limited.inTime {start : Nat} (limited : Limited timeLimit start w) :
    w.InTime timeLimit := by
  intro _ start' started running late
  rw [limited.started] at started
  cases started
  rcases limited.deadline with deadline | ⟨e, exited, -⟩
  · exact ⟨_, deadline, Nat.le_of_lt late⟩
  · rw [running] at exited
    cases exited

/-- In each of the three phases the deadline covers the run. -/
theorem Covered.inTime (covered : Covered timeLimit w) : w.InTime timeLimit := by
  rcases covered with before | ⟨start, begun⟩ | ⟨start, limited⟩
  · exact before.inTime
  · exact begun.inTime
  · exact limited.inTime

/-! ## Moves -/

/-- The environment does not start a container by itself, nor does it make a deadline: both are
calls of the run. -/
theorem Before.move (before : Before timeLimit w) (move : Moves buffer c w w') :
    Before timeLimit w' := by
  cases move with
  | tick => exact ⟨before.started, before.exited, before.deadline⟩
  | cancel => exact ⟨before.started, before.exited, before.deadline⟩
  | send more room => exact ⟨before.started, before.exited, before.deadline⟩
  | consume running held => exact ⟨before.started, before.exited, before.deadline⟩
  | exit running => exact absurd before.started running.1

/-- When a container was started is settled by the call of `ContainerStart`, and no move changes it.
-/
theorem started_move {start : Nat} (started : w.started = some start)
    (move : Moves buffer c w w') : w'.started = some start := by
  cases move <;> exact started

/-- A program exits once, and when it did stays what it was. -/
theorem exited_move {e : Nat} (exited : w.exited = some e) (move : Moves buffer c w w') :
    w'.exited = some e := by
  cases move with
  | exit running =>
      rw [running.2] at exited
      cases exited
  | _ => exact exited

/-- A program that has just been started stays so as long as no time passes. -/
theorem Begun.move {start : Nat} (begun : Begun timeLimit start w) (move : Moves buffer c w w')
    (prompt : Prompt timeLimit w w') : Begun timeLimit start w' := by
  obtain ⟨started, deadline, running, exited⟩ := begun
  cases move with
  | tick =>
      refine ⟨started, deadline, fun runs => ?_, exited⟩
      have now : w.running := ⟨by rw [started]; exact Option.some_ne_none _, runs⟩
      exact absurd deadline (prompt (Nat.lt_succ_self _) now)
  | cancel => exact ⟨started, deadline, running, exited⟩
  | send more room => exact ⟨started, deadline, running, exited⟩
  | consume runs held => exact ⟨started, deadline, running, exited⟩
  | exit runs =>
      refine ⟨started, deadline, nofun, fun e here => ?_⟩
      cases here
      exact Nat.le_of_eq (running runs.2)

/-- The deadline is a moment, which stays what it is while the clock goes on. -/
theorem Limited.move {start : Nat} (limited : Limited timeLimit start w)
    (move : Moves buffer c w w') : Limited timeLimit start w' := by
  refine ⟨started_move limited.started move, ?_⟩
  rcases limited.deadline with deadline | ⟨e, exited, bound⟩
  · left
    cases move <;> exact deadline
  · exact Or.inr ⟨e, exited_move exited move, bound⟩

/-- A move keeps the phase.  The only one that could spoil it is a tick between start and deadline,
which `Prompt` excludes. -/
theorem Covered.move (covered : Covered timeLimit w) (move : Moves buffer c w w')
    (prompt : Prompt timeLimit w w') : Covered timeLimit w' := by
  rcases covered with before | ⟨start, begun⟩ | ⟨start, limited⟩
  · exact Or.inl (before.move move)
  · exact Or.inr (Or.inl ⟨start, begun.move move prompt⟩)
  · exact Or.inr (Or.inr ⟨start, limited.move move⟩)

/-- A run that came out as its limit says does so whatever the environment does afterwards. -/
theorem Punctual.move {o : RunOutcome} (punctual : Punctual timeLimit o w)
    (move : Moves buffer c w w') : Punctual timeLimit o w' := by
  intro r result status
  obtain ⟨start, e, started, exited, bound⟩ := punctual r result status
  exact ⟨start, e, started_move started move, exited_move exited move, bound⟩

/-! ## Answers to the other calls -/

/-- The call neither starts a container nor makes the deadline of the run. -/
def Calm (timeLimit : Duration) : DockerCall → Prop
  | .containerStart _ _ => False
  | .withTimeout parent timeout => runCtx timeLimit ≠ .withTimeout parent timeout
  | _ => True

/-- The phases do not see the difference. -/
structure SameRun (timeLimit : Duration) (w w' : World) : Prop where
  now : w'.now = w.now
  started : w'.started = w.started
  exited : w'.exited = w.exited
  deadline : w'.deadline (runCtx timeLimit) = w.deadline (runCtx timeLimit)

/-- The calls other than the start and the creation of the deadline leave alone what the phases
speak of. -/
theorem sameRun_of_calm (calm : Calm timeLimit c) (r : DockerReply c) :
    SameRun timeLimit w (w.next c r) := by
  cases c with
  | containerStart => exact calm.elim
  | withTimeout parent timeout => exact ⟨rfl, rfl, rfl, Function.update_of_ne calm _ _⟩
  | _ => exact ⟨rfl, rfl, rfl, rfl⟩

/-- The three phases look at nothing else, so each of them is kept by every calm call. -/
theorem Before.same (same : SameRun timeLimit w w') (before : Before timeLimit w) :
    Before timeLimit w' :=
  ⟨same.started.trans before.started, same.exited.trans before.exited,
    same.deadline.trans before.deadline⟩

theorem Begun.same {start : Nat} (same : SameRun timeLimit w w')
    (begun : Begun timeLimit start w) : Begun timeLimit start w' where
  started := same.started.trans begun.started
  deadline := same.deadline.trans begun.deadline
  running running := same.now.trans (begun.running (same.exited.symm.trans running))
  exited e exited := begun.exited e (same.exited.symm.trans exited)

/-- As to the deadline, its moment is part of what stays the same. -/
theorem Limited.same {start : Nat} (same : SameRun timeLimit w w')
    (limited : Limited timeLimit start w) : Limited timeLimit start w' := by
  refine ⟨same.started.trans limited.started, ?_⟩
  rw [same.deadline, same.exited]
  exact limited.deadline

/-- Whichever of the three phases a run is in, it stays there along a calm call. -/
theorem Covered.same (same : SameRun timeLimit w w') (covered : Covered timeLimit w) :
    Covered timeLimit w' := by
  rcases covered with before | ⟨start, begun⟩ | ⟨start, limited⟩
  · exact Or.inl (before.same same)
  · exact Or.inr (Or.inl ⟨start, begun.same same⟩)
  · exact Or.inr (Or.inr ⟨start, limited.same same⟩)

/-- The same for what the run has come out as, which speaks of start and exit only. -/
theorem Punctual.same {o : RunOutcome} (same : SameRun timeLimit w w')
    (punctual : Punctual timeLimit o w) : Punctual timeLimit o w' := by
  intro r result status
  obtain ⟨start, e, started, exited, bound⟩ := punctual r result status
  exact ⟨start, e, same.started.trans started, same.exited.trans exited, bound⟩

end Phases

end Scrc
