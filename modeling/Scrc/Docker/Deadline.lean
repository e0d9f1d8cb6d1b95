import Scrc.Docker.Clock

/-!
# The deadline of a run

The deadline of a run is created when its stdin has been written.  So a program that leaves its
stdin alone runs without a deadline (`undrained_overruns`); when no time passes between the start
and the creation of the deadline, it covers the whole run (`deadline_covers_run`).
-/

namespace Scrc

open Interaction Transition Environment

/-! ## The parts of a run that are calm -/

section CalmParts

variable {timeLimit : Duration} {id : GoString} {start : Int64}

/-- The program makes calm calls only, and its result satisfies `R`. -/
abbrev CalmProc {α : Type} (timeLimit : Duration) (p : Proc Docker α) (R : α → Prop) : Prop :=
  p.Meets (Contract.calls (Calm timeLimit)) () fun a _ => R a

theorem calm_ask {α : Type} {c : DockerCall} {k : DockerReply c → Proc Docker α} {R : α → Prop}
    (calm : Calm timeLimit c) (next : ∀ r, CalmProc timeLimit (k r) R) :
    CalmProc timeLimit (ask c >>= k) R :=
  ⟨calm, fun r _ => next r⟩

/-- The parts of a run that only ask are calm: no such call starts a container or makes a deadline.
-/
theorem calm_asking {α : Type} {p : Proc Docker α} (asking : Asks p) :
    CalmProc timeLimit p fun _ => True := by
  refine Proc.Meets.calls_mono asking fun c asks => ?_
  cases c with
  | containerStart => cases asks
  | withTimeout => cases asks
  | _ => trivial

theorem calm_waitForExit (ctx : Ctx) : CalmProc timeLimit (waitForExit ctx id) fun _ => True := by
  unfold waitForExit
  refine calm_ask trivial fun event => ?_
  rcases event with ⟨⟨code, _ | message⟩⟩ | err | cause
  · trivial
  · trivial
  · trivial
  · trivial

/-- What `handleTimeLimit` returns is no result that says OK or ML. -/
theorem calm_handleTimeLimit : CalmProc timeLimit (handleTimeLimit id start) fun o =>
    ∀ r, o.result = some r → r.status = .timeLimit := by
  have result : ∀ exitCode, CalmProc timeLimit (timeLimitResult id start exitCode) fun o =>
      ∀ r, o.result = some r → r.status = .timeLimit := by
    intro exitCode
    unfold timeLimitResult
    apply (calm_asking (asks_fetchLogs .background id)).bind
    intro logs _ _
    cases logs with
    | error err => exact fun r absurd => nomatch absurd
    | ok logs =>
        refine calm_ask trivial fun duration r returned => ?_
        cases returned
        rfl
  have background : ∀ timeout, Calm timeLimit (.withTimeout .background timeout) := by
    intro timeout same
    cases same
  have stopped : CalmProc timeLimit (afterStop id start) fun o =>
      ∀ r, o.result = some r → r.status = .timeLimit := by
    unfold afterStop
    refine calm_ask (background _) fun _ => ?_
    apply (calm_waitForExit stopWaitCtx).bind
    intro r _ _
    cases r with
    | error err =>
        simp only
        split
        · exact fun r absurd => nomatch absurd
        · exact result _
    | ok status => exact result _
  unfold handleTimeLimit
  refine calm_ask (background _) fun _ => ?_
  refine calm_ask trivial fun r => ?_
  cases r with
  | error err =>
      simp only
      split
      · exact fun r absurd => nomatch absurd
      · exact stopped
  | ok => exact stopped

end CalmParts

/-! ## The run -/

section Run

variable {buffer : Nat} {timeLimit : Duration} {ok : DockerCall → World → World → Prop}
  {w w' : World}

/-- At every moment the run is in time, and it returns as `Q` says. -/
abbrev Timed {α : Type} (buffer : Nat) (timeLimit : Duration)
    (ok : DockerCall → World → World → Prop) (p : Proc Docker α) (w : World)
    (Q : α → World → Prop) : Prop :=
  p.Always ((clocked buffer).restrict ok) (World.InTime timeLimit) w Q

/-- One call: what the moves keep while it is pending, and what follows each answer. -/
theorem timed_ask {α : Type} {c : DockerCall} {k : DockerReply c → Proc Docker α}
    {Q : α → World → Prop} {J : World → Prop} (start : J w)
    (inTime : ∀ w, J w → w.InTime timeLimit)
    (moves : ∀ w w', J w → Moves buffer c w w' → ok c w w' → J w')
    (next : ∀ w r, J w → w.grants c r → Timed buffer timeLimit ok (k r) (w.next c r) Q) :
    Timed buffer timeLimit ok (ask c >>= k) w Q := by
  refine .of_invariant J start inTime (fun w w' kept moved => moves w w' kept moved.1 moved.2) ?_
  intro w r w' kept answered
  obtain ⟨granted, rfl⟩ := answered
  exact next w r kept granted

/-- No time passes while the wait of the run could end at its deadline. -/
def Reactive (timeLimit : Duration) (ok : DockerCall → World → World → Prop) : Prop :=
  ∀ c w w', ok c w w' → Reacts timeLimit c w w'

/-- While the wait of the run is pending. -/
structure Awaiting (timeLimit : Duration) (ok : DockerCall → World → World → Prop) (start : Nat)
    (w : World) : Prop where
  limited : Limited timeLimit start w
  inside : Reactive timeLimit ok →
    (∃ e, w.exited = some e ∧ e ≤ start + timeLimit.nanoseconds) ∨
    w.exited = none ∧ w.now ≤ start + timeLimit.nanoseconds

theorem Awaiting.move {start : Nat} {id : GoString} (awaiting : Awaiting timeLimit ok start w)
    (move : Moves buffer (.containerWait (runCtx timeLimit) id) w w')
    (allowed : ok (.containerWait (runCtx timeLimit) id) w w') :
    Awaiting timeLimit ok start w' := by
  refine ⟨awaiting.limited.move move, fun reacts => ?_⟩
  rcases awaiting.inside reacts with ⟨e, exited, bound⟩ | ⟨running, now⟩
  · exact Or.inl ⟨e, exited_move exited move, bound⟩
  · cases move with
    | tick =>
        refine Or.inr ⟨running, ?_⟩
        rcases awaiting.limited.deadline with deadline | ⟨e, exited, -⟩
        · exact reacts _ _ _ allowed (Nat.lt_succ_self _) running id rfl _ deadline
        · rw [running] at exited
          cases exited
    | cancel => exact Or.inr ⟨running, now⟩
    | consume runs held => exact Or.inr ⟨running, now⟩
    | exit runs => exact Or.inl ⟨w.now, rfl, now⟩

/-- After the wait has reported the exit. -/
structure Over (timeLimit : Duration) (ok : DockerCall → World → World → Prop) (start : Nat)
    (w : World) : Prop where
  limited : Limited timeLimit start w
  exited : Reactive timeLimit ok → ∃ e, w.exited = some e ∧ e ≤ start + timeLimit.nanoseconds

theorem Over.move {start : Nat} {c : DockerCall} (ended : Over timeLimit ok start w)
    (move : Moves buffer c w w') : Over timeLimit ok start w' := by
  refine ⟨ended.limited.move move, fun reacts => ?_⟩
  obtain ⟨e, exited, bound⟩ := ended.exited reacts
  exact ⟨e, exited_move exited move, bound⟩

theorem Over.same {start : Nat} (same : SameRun timeLimit w w')
    (ended : Over timeLimit ok start w) : Over timeLimit ok start w' := by
  refine ⟨ended.limited.same same, fun reacts => ?_⟩
  obtain ⟨e, exited, bound⟩ := ended.exited reacts
  exact ⟨e, same.exited.trans exited, bound⟩

/-- The phase a run ends in, and, when its wait reacts at once, what its result says. -/
structure Ends (timeLimit : Duration) (ok : DockerCall → World → World → Prop) (o : RunOutcome)
    (w : World) : Prop where
  covered : Covered timeLimit w
  punctual : Reactive timeLimit ok → Punctual timeLimit o w

theorem Ends.failed {err : GoError} (covered : Covered timeLimit w) :
    Ends timeLimit ok (.failed err) w :=
  ⟨covered, fun _ _ absurd => nomatch absurd⟩

theorem Limited.covered {start : Nat} (limited : Limited timeLimit start w) :
    Covered timeLimit w :=
  Or.inr (Or.inr ⟨start, limited⟩)

theorem timed_waitForExit {start : Nat} (id : GoString)
    (awaiting : Awaiting timeLimit ok start w) :
    Timed buffer timeLimit ok (waitForExit (runCtx timeLimit) id) w fun r w' =>
      (∃ status, r = .ok status ∧ Over timeLimit ok start w') ∨
      ∃ err, r = .error err ∧ Limited timeLimit start w' := by
  unfold waitForExit
  refine timed_ask awaiting (fun _ kept => kept.limited.inTime)
    (fun _ _ kept move allowed => kept.move move allowed) ?_
  intro w event kept granted
  have limited := kept.limited
  rcases event with ⟨⟨code, _ | message⟩⟩ | err | cause
  · refine ⟨limited.inTime, Or.inl ⟨_, rfl, limited, fun reacts => ?_⟩⟩
    rcases kept.inside reacts with exited | ⟨running, -⟩
    · exact exited
    · exact absurd running granted
  · exact ⟨limited.inTime, Or.inr ⟨_, rfl, limited⟩⟩
  · exact ⟨limited.inTime, Or.inr ⟨_, rfl, limited⟩⟩
  · exact ⟨limited.inTime, Or.inr ⟨_, rfl, limited⟩⟩

variable (prompt : ∀ c w w', ok c w w' → Prompt timeLimit w w')
include prompt

/-- A calm part keeps what the moves keep and the phases do not distinguish. -/
theorem timed_calm {α : Type} {p : Proc Docker α} {R : α → Prop} {J : World → Prop}
    (calm : CalmProc timeLimit p R) (start : J w) (inTime : ∀ w, J w → w.InTime timeLimit)
    (moves : ∀ c w w', J w → Moves buffer c w w' → Prompt timeLimit w w' → J w')
    (same : ∀ w w', SameRun timeLimit w w' → J w → J w') :
    Timed buffer timeLimit ok p w fun a w' => R a ∧ J w' := by
  refine Proc.Always.steady calm start inTime ?_ ?_
  · intro c w w' _ kept moved
    exact moves c w w' kept moved.1 (prompt c w w' moved.2)
  · intro c w r w' calm kept answered
    obtain ⟨-, rfl⟩ := answered
    exact same _ _ (sameRun_of_calm calm r) kept

theorem timed_before {α : Type} {p : Proc Docker α} (calm : CalmProc timeLimit p fun _ => True)
    (before : Before timeLimit w) :
    Timed buffer timeLimit ok p w fun _ w' => Before timeLimit w' :=
  (timed_calm prompt calm before (fun _ => Before.inTime) (fun _ _ _ kept move _ => kept.move move)
    fun _ _ => Before.same).mono fun _ _ _ both => both.2

/-- What is deferred does not change how the run ends, so that the removal of the container can be
left out of the argument. -/
theorem timed_deferred {p : Proc Docker Unit} {o : RunOutcome}
    (calm : CalmProc timeLimit p fun _ => True) (ends : Ends timeLimit ok o w) :
    Timed buffer timeLimit ok p w fun _ w' => Ends timeLimit ok o w' := by
  refine (timed_calm prompt calm ends (fun _ kept => kept.covered.inTime) ?_ ?_).mono
    fun _ _ _ both => both.2
  · intro c w w' kept move prompt
    exact ⟨kept.covered.move move prompt, fun reacts => (kept.punctual reacts).move move⟩
  · intro w w' same kept
    exact ⟨kept.covered.same same, fun reacts => (kept.punctual reacts).same same⟩

/-- The wait of a run that has just begun.  Its first call makes the deadline, and only then is the
exit waited for. -/
theorem timed_awaitExit {limits : RunLimits} (limited : limits.timeLimit > 0) (id : GoString)
    (same : limits.timeLimit = timeLimit) {start : Nat} (begun : Begun timeLimit start w) :
    Timed buffer timeLimit ok (awaitExit limits id) w fun r w' =>
      Limited timeLimit start w' ∧ ∀ status, r = .exited status → Over timeLimit ok start w' := by
  subst same
  unfold awaitExit waitContext
  rw [if_pos limited]
  refine timed_ask begun (fun _ => Begun.inTime)
    (fun w w' kept move allowed => kept.move move (prompt _ _ _ allowed)) ?_
  intro w _ begun _
  have awaiting : Awaiting limits.timeLimit ok start
      (w.next (.withTimeout .caller limits.timeLimit) ()) := by
    cases here : w.exited with
    | none =>
        have now := begun.running here
        refine ⟨⟨begun.started, Or.inl ?_⟩, fun _ => Or.inr ⟨here, ?_⟩⟩
        · rw [← now]
          exact Function.update_self _ _ _
        · exact Nat.le_add_right_of_le (Nat.le_of_eq now)
    | some e =>
        have bound := begun.exited e here
        exact ⟨⟨begun.started, Or.inr ⟨e, here, bound⟩⟩,
          fun _ => Or.inl ⟨e, here, Nat.le_add_right_of_le bound⟩⟩
  apply (timed_waitForExit id awaiting).bind
  intro r w' reached
  obtain ⟨status, rfl, ended⟩ | ⟨err, rfl, covered⟩ := reached
  · exact ⟨ended.limited.inTime, ended.limited, fun _ _ => ended⟩
  · simp only
    split
    · refine timed_ask covered (fun _ => Limited.inTime) (fun _ _ kept move _ => kept.move move) ?_
      intro w r covered _
      cases r with
      | none => exact ⟨covered.inTime, covered, nofun⟩
      | some cause => exact ⟨covered.inTime, covered, nofun⟩
    · exact ⟨covered.inTime, covered, nofun⟩

theorem timed_runStarted {limits : RunLimits} (limited : limits.timeLimit > 0) (id : GoString)
    (began : Int64) (same : limits.timeLimit = timeLimit) {start : Nat}
    (begun : Begun timeLimit start w) :
    Timed buffer timeLimit ok (runStarted limits id began) w (Ends timeLimit ok) := by
  unfold runStarted
  apply (timed_awaitExit prompt limited id same begun).bind
  intro r w reached
  obtain ⟨covered, ended⟩ := reached
  cases r with
  | failed err => exact ⟨covered.inTime, .failed covered.covered⟩
  | timeLimit =>
      refine (timed_calm prompt calm_handleTimeLimit covered (fun _ => Limited.inTime)
        (fun _ _ _ kept move _ => kept.move move) fun _ _ => Limited.same).mono
        fun o w' _ both => ?_
      obtain ⟨timedOut, covered⟩ := both
      refine ⟨covered.covered, fun _ r returned status => ?_⟩
      rw [timedOut r returned] at status
      exact absurd status (by decide)
  | exited status =>
      refine (timed_calm prompt (calm_asking (asks_collectResult id began status)) (ended status rfl)
        (fun _ kept => kept.limited.inTime) (fun _ _ _ kept move _ => kept.move move)
        fun _ _ => Over.same).bind fun r w' both => ?_
      obtain ⟨-, ended⟩ := both
      cases r with
      | error err => exact ⟨ended.limited.inTime, .failed ended.limited.covered⟩
      | ok result =>
          refine ⟨ended.limited.inTime, ended.limited.covered, fun reacts _ _ _ => ?_⟩
          obtain ⟨e, exited, bound⟩ := ended.exited reacts
          exact ⟨start, e, ended.limited.started, exited, bound⟩

theorem timed_runAttached {limits : RunLimits} (limited : limits.timeLimit > 0)
    (id stdin : GoString) (attachStdin : Bool) (same : limits.timeLimit = timeLimit)
    (before : Before timeLimit w) :
    Timed buffer timeLimit ok (runAttached limits id stdin attachStdin) w (Ends timeLimit ok) := by
  have moves : ∀ start c w w', Begun timeLimit start w → Moves buffer c w w' → ok c w w' →
      Begun timeLimit start w' :=
    fun start c w w' kept move allowed => kept.move move (prompt c w w' allowed)
  unfold runAttached
  refine timed_ask before (fun _ => Before.inTime) (fun _ _ kept move _ => kept.move move) ?_
  intro w began before _
  refine timed_ask before (fun _ => Before.inTime) (fun _ _ kept move _ => kept.move move) ?_
  intro w r before _
  cases r with
  | error err => exact ⟨before.inTime, .failed (Or.inl before)⟩
  | ok =>
      have begun : Begun timeLimit w.now { w with started := some w.now } := by
        refine ⟨rfl, before.deadline, fun _ => rfl, fun e exited => ?_⟩
        have none : w.exited = some e := exited
        rw [before.exited] at none
        cases none
      simp only
      split
      · refine timed_ask begun (fun _ => Begun.inTime) (moves _ _) ?_
        intro w r begun _
        cases r with
        | error err => exact ⟨begun.inTime, .failed (Or.inr (Or.inl ⟨_, begun⟩))⟩
        | ok =>
            refine timed_ask begun (fun _ => Begun.inTime) (moves _ _) ?_
            intro w _ begun _
            exact timed_runStarted prompt limited id _ same begun
      · exact timed_runStarted prompt limited id _ same begun

theorem timed_runCreated (runtime : LanguageRuntime) {limits : RunLimits}
    (limited : limits.timeLimit > 0) (files : List FileSpec) (id stdin : GoString)
    (attachStdin : Bool) (same : limits.timeLimit = timeLimit) (before : Before timeLimit w) :
    Timed buffer timeLimit ok (runCreated runtime limits files id stdin attachStdin) w
      (Ends timeLimit ok) := by
  unfold runCreated
  apply (timed_before prompt (calm_asking (asks_copyFiles _ _ _)) before).bind
  intro r w before
  cases r with
  | error err => exact ⟨before.inTime, .failed (Or.inl before)⟩
  | ok =>
      simp only
      split
      · apply (timed_before prompt (calm_asking asks_callerOrBackground) before).bind
        intro ctx w before
        refine timed_ask before (fun _ => Before.inTime) (fun _ _ kept move _ => kept.move move) ?_
        intro w r before _
        cases r with
        | error err => exact ⟨before.inTime, .failed (Or.inl before)⟩
        | ok =>
            refine (timed_runAttached prompt limited id stdin attachStdin same before).deferring
              fun o w ends => ?_
            exact timed_deferred prompt ⟨trivial, fun _ _ => trivial⟩ ends
      · exact timed_runAttached prompt limited id stdin attachStdin same before

/-- **The whole run**, when the time between the start and the creation of the deadline is none. -/
theorem timed_runProgram (runtime : LanguageRuntime) (limits : RunLimits)
    (limited : (runtime.engine.effectiveLimits limits).timeLimit > 0) (command : List GoString)
    (files : List FileSpec) (stdin : GoString) (attachStdin : Bool)
    (same : (runtime.engine.effectiveLimits limits).timeLimit = timeLimit)
    (before : Before timeLimit w) :
    Timed buffer timeLimit ok (runProgram runtime limits command files stdin attachStdin) w
      (Ends timeLimit ok) := by
  unfold runProgram createContainerWithImage
  refine timed_ask before (fun _ => Before.inTime) (fun _ _ kept move _ => kept.move move) ?_
  intro w r before _
  cases r with
  | error err => exact ⟨before.inTime, .failed (Or.inl before)⟩
  | ok id =>
      refine (timed_runCreated prompt runtime limited files id stdin attachStdin same
        before).deferring fun o w ends => ?_
      exact timed_deferred prompt ⟨trivial, fun _ _ => trivial⟩ ends

end Run

/-! ## Exactly when -/

/-- `n` nanoseconds pass, one tick after another, whatever call is pending. -/
theorem reaches_ticks {buffer : Nat} {c : DockerCall} {w : World} (n : Nat) :
    Reaches (Moves buffer c) w { w with now := w.now + n } := by
  induction n with
  | zero => exact .refl
  | succ n ih => exact .tail ih .tick

/-- A program that runs without a deadline can run for longer than its time limit. -/
theorem overruns {α : Type} {buffer : Nat} {timeLimit : Duration} {c : DockerCall}
    {k : DockerReply c → Proc Docker α} {w : World} (live : w.live = true) (running : w.running)
    (deadline : w.deadline (runCtx timeLimit) = none) :
    (clocked buffer).Finds ⟨.call c k, w⟩ fun b => ¬ b.around.InTime timeLimit := by
  obtain ⟨start, started⟩ := Option.ne_none_iff_exists'.mp running.1
  refine .move _ (reaches_ticks (start + timeLimit.nanoseconds + 1)) (.here fun inTime => ?_)
  obtain ⟨t, limited, -⟩ := inTime live start started running.2 (by simp only; omega)
  have unlimited : w.deadline (runCtx timeLimit) = some t := limited
  rw [deadline] at unlimited
  cases unlimited

/-- After a step that is not prompt the program can run for longer than its time limit. -/
theorem overruns_of_step {α : Type} {buffer : Nat} {timeLimit : Duration}
    {a b : Config Docker α World} (step : (clocked buffer).Step a b) (live : a.around.live = true)
    (idle : ¬ Prompt timeLimit a.around b.around) :
    (clocked buffer).Finds b fun b => ¬ b.around.InTime timeLimit := by
  unfold Prompt at idle
  push Not at idle
  obtain ⟨passes, running, deadline⟩ := idle
  cases step with
  | @answer c k r w w' answered =>
      obtain ⟨-, rfl⟩ := answered
      have still : (w.next c r).now = w.now := by
        unfold World.next
        split <;> rfl
      exact absurd passes (by simp only; omega)
  | @move c k w w' moved =>
      cases moved with
      | tick => exact overruns live running deadline
      | cancel => exact absurd passes (Nat.lt_irrefl _)
      | send more room => exact absurd passes (Nat.lt_irrefl _)
      | consume running held => exact absurd passes (Nat.lt_irrefl _)
      | exit running => exact absurd passes (Nat.lt_irrefl _)

/-- **The time limit and stdin.**  When no time passes while the program runs without the deadline
of its run, then at every moment a program that has been running for longer than its time limit
under a live caller faces an expired deadline; and when the wait, besides, reacts at once, a result
that says OK or ML is about a program that exited within its time limit.  After any other step under
a live caller, the program can run for longer than its time limit without a deadline. -/
theorem deadline_covers_run (buffer : Nat) (runtime : LanguageRuntime) (limits : RunLimits)
    (limited : (runtime.engine.effectiveLimits limits).timeLimit > 0) (command : List GoString)
    (files : List FileSpec) (stdin : GoString) (attachStdin : Bool) (now : Nat) (live : Bool) :
    let timeLimit := (runtime.engine.effectiveLimits limits).timeLimit
    let begin : Config Docker RunOutcome World :=
      ⟨runProgram runtime limits command files stdin attachStdin, { now := now, live := live }⟩
    (∀ p w, Reaches ((clocked buffer).restrict fun _ => Prompt timeLimit).Step begin ⟨p, w⟩ →
      w.InTime timeLimit) ∧
    (∀ o w, Reaches ((clocked buffer).restrict fun c w w' =>
        Prompt timeLimit w w' ∧ Reacts timeLimit c w w').Step begin ⟨.ret o, w⟩ →
      Punctual timeLimit o w) ∧
    ∀ a b, Reaches (clocked buffer).Step begin a → (clocked buffer).Step a b →
      a.around.live = true → ¬ Prompt timeLimit a.around b.around →
      (clocked buffer).Finds b fun b => ¬ b.around.InTime timeLimit := by
  intro timeLimit begin
  have before : Before timeLimit { now := now, live := live } := ⟨rfl, rfl, rfl⟩
  refine ⟨fun p w run => ?_, fun o w run => ?_, fun a b _ step => overruns_of_step step⟩
  · have timed : Timed buffer timeLimit (fun _ => Prompt timeLimit)
        (runProgram runtime limits command files stdin attachStdin) { now := now, live := live }
        (Ends timeLimit fun _ => Prompt timeLimit) :=
      timed_runProgram (fun _ _ _ prompt => prompt) runtime limits limited command files stdin
        attachStdin rfl before
    exact (timed.sound run).1
  · have timed : Timed buffer timeLimit
        (fun c w w' => Prompt timeLimit w w' ∧ Reacts timeLimit c w w')
        (runProgram runtime limits command files stdin attachStdin) { now := now, live := live }
        (Ends timeLimit fun c w w' => Prompt timeLimit w w' ∧ Reacts timeLimit c w w') :=
      timed_runProgram (fun _ _ _ both => both.1) runtime limits limited command files stdin
        attachStdin rfl before
    exact ((timed.sound run).2 o rfl).punctual fun _ _ _ both => both.2

/-! ## Runs found by choosing the answers -/

theorem finds_ask {α : Type} {E : Environment Docker World}
    (answers : E.answers = fun w c r w' => w.grants c r ∧ w' = w.next c r) {c : DockerCall}
    {k : DockerReply c → Proc Docker α} {w : World} {Q : Config Docker α World → Prop}
    (r : DockerReply c) (granted : w.grants c r) (rest : E.Finds ⟨k r, w.next c r⟩ Q) :
    E.Finds ⟨.call c k, w⟩ Q := by
  refine .answer r ?_ rest
  rw [answers]
  exact ⟨granted, rfl⟩

/-- Once the deadline of the run exists, time passes promptly. -/
theorem reaches_prompt_ticks {buffer : Nat} {timeLimit : Duration} {c : DockerCall} {w : World}
    (limited : w.deadline (runCtx timeLimit) ≠ none) (n : Nat) :
    Reaches (((clocked buffer).restrict fun _ => Prompt timeLimit).moves c) w
      { w with now := w.now + n } := by
  induction n with
  | zero => exact .refl
  | succ n ih => exact .tail ih ⟨.tick, fun _ _ => limited⟩

/-- The call of `runProgram` for `endless`, whose stdin is not attached. -/
def unattended : Config Docker RunOutcome World :=
  ⟨runProgram oneSecondPython ⟨0, 0⟩ ["python", "script.py"] endless [] false,
    { now := 0, live := true }⟩

/-- Two seconds after its start it still runs, and its deadline has expired. -/
theorem deadline_covers_run_unattended :
    ((clocked 1).restrict fun _ => Prompt Duration.second).Finds unattended fun b =>
      b.around.running ∧ b.around.now = 2000000000 ∧ b.around.InTime Duration.second := by
  have inTime := (deadline_covers_run 1 oneSecondPython ⟨0, 0⟩ (by decide) ["python", "script.py"]
    endless [] false 0 true).1
  have found : ((clocked 1).restrict fun _ => Prompt Duration.second).Finds unattended fun b =>
      b.around.running ∧ b.around.now = 2000000000 := by
    refine finds_ask rfl (c := .containerCreate .caller _ _) (.ok (lit "c1")) trivial ?_
    refine finds_ask rfl (c := .copyToContainer .caller (lit "c1") _ _) (.ok ()) trivial ?_
    refine finds_ask rfl (c := .now) 0 rfl ?_
    refine finds_ask rfl (c := .containerStart .caller (lit "c1")) (.ok ()) trivial ?_
    refine finds_ask rfl (c := .withTimeout .caller _) () trivial ?_
    refine .move _ (reaches_prompt_ticks ?_ 2000000000) (.here ⟨⟨nofun, rfl⟩, rfl⟩)
    exact Option.ne_none_iff_exists'.mpr ⟨1000000000, rfl⟩
  obtain ⟨⟨p, w⟩, run, running, now⟩ := found
  exact ⟨⟨p, w⟩, run, running, now, inTime p w run⟩

/-! ## A program that does not read its stdin -/

/-- The call of `runProgram` for `endless`, with two bytes of stdin. -/
def undrained : Config Docker RunOutcome World :=
  ⟨runProgram oneSecondPython ⟨0, 0⟩ ["python", "script.py"] endless "1\n" true,
    { now := 0, live := true }⟩

/-- Two seconds after its start, with nothing read, and one byte in the connection. -/
def overdue : World := { now := 2000000000, live := true, started := some 0, sent := 1 }

/-- A program that leaves its stdin alone for two seconds runs without a deadline, and when it then
reads it and exits, it is reported as OK. -/
theorem undrained_overruns :
    ¬ (∀ p w, Reaches (clocked 1).Step undrained ⟨p, w⟩ → w.InTime Duration.second) ∧
    ¬ ∀ o w, Reaches (clocked 1).Step undrained ⟨.ret o, w⟩ → Punctual Duration.second o w := by
  have found : (clocked 1).Finds undrained fun b => ¬ b.around.InTime Duration.second ∧
      (clocked 1).Finds b fun b => ∃ o, b.rest = .ret o ∧ ¬ Punctual Duration.second o b.around := by
    refine finds_ask rfl (c := .containerCreate .caller _ _) (.ok (lit "c1")) trivial ?_
    refine finds_ask rfl (c := .copyToContainer .caller (lit "c1") _ _) (.ok ()) trivial ?_
    refine finds_ask rfl (c := .ctxErr .caller) none nofun ?_
    refine finds_ask rfl (c := .containerAttach .caller (lit "c1")) (.ok ()) trivial ?_
    refine finds_ask rfl (c := .now) 0 rfl ?_
    refine finds_ask rfl (c := .containerStart .caller (lit "c1")) (.ok ()) trivial ?_
    refine .move { now := 0, live := true, started := some 0, sent := 1 }
      (.single (.send (by decide) (by decide))) ?_
    -- the connection is full, so the write waits for the program
    refine .move overdue (reaches_ticks 2000000000) (.here ⟨fun inTime => ?_, ?_⟩)
    · obtain ⟨t, deadline, -⟩ := inTime rfl 0 rfl rfl (by decide)
      cases deadline
    refine .move { overdue with consumed := 1 } (.single (.consume ⟨nofun, rfl⟩ (by decide))) ?_
    refine .move { overdue with sent := 2, consumed := 1 }
      (.single (.send (by decide) (by decide))) ?_
    refine finds_ask rfl (c := .writeStdin (lit "c1") _) (.ok ()) rfl ?_
    refine finds_ask rfl (c := .closeWrite (lit "c1")) () trivial ?_
    refine finds_ask rfl (c := .withTimeout .caller _) () trivial ?_
    refine .move _ (.single (.exit ⟨nofun, rfl⟩)) ?_
    refine finds_ask rfl (c := .containerWait _ (lit "c1")) (.status ⟨0, none⟩) nofun ?_
    refine finds_ask rfl (c := .ctxErr .caller) none nofun ?_
    refine finds_ask rfl (c := .containerInspect .caller (lit "c1")) (.ok (some false)) trivial ?_
    refine finds_ask rfl (c := .ctxErr .caller) none nofun ?_
    refine finds_ask rfl (c := .containerLogs .caller (lit "c1")) (.value ([], [])) trivial ?_
    refine finds_ask rfl (c := .since 0) (Int64.ofNat 2000000000 - 0) rfl ?_
    refine finds_ask rfl (c := .closeAttach (lit "c1")) () trivial ?_
    refine finds_ask rfl (c := .containerRemove .background (lit "c1") true) (.ok ()) trivial ?_
    refine .here ⟨_, rfl, fun punctual => ?_⟩
    obtain ⟨start, e, started, exited, bound⟩ := punctual _ rfl (Or.inl rfl)
    cases started
    cases exited
    exact absurd bound (by decide)
  obtain ⟨⟨p, w⟩, run, late, rest⟩ := found
  obtain ⟨⟨_, w'⟩, run', o, rfl, wrong⟩ := rest
  exact ⟨fun inTime => late (inTime p w run), fun punctual => wrong (punctual o w' (run.trans run'))⟩

end Scrc
