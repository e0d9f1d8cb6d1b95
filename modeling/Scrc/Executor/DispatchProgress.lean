import Scrc.Executor.Dispatch

/-!
# `ExecuteFromProducer` comes to its return

When the producer, the runtime and the callback answer, and only finitely many scripts are left to
fetch, every call returns: a measure decreases with every step (`step_decreases`), and in every
reachable state that is not a return some step is possible (`exists_step`).
-/

namespace Scrc

open Interaction Transition

/-- How many steps a goroutine has ahead of it. -/
def Worker.ahead (w : Worker) : Nat :=
  match w.pc with
  | .spawned => 5
  | .running => 4
  | .reporting _ => 3
  | .releasing => 2
  | .leaving => 1
  | .ended => 0

/-- How many steps the loop has ahead of it before it fetches another script, those of the
goroutine it is about to start included. -/
def LoopPc.ahead : LoopPc → Nat
  | .acquiring _ => 12
  | .adding _ => 11
  | .counting _ => 10
  | .spawning _ => 9
  | .top => 3
  | .fetching => 2
  | .waiting _ => 1
  | .returned _ => 0

namespace Dispatch

section

variable {I : Interface} {ε : Type} {S : Surroundings ε} {engine : Engine I}
  {maxScripts maxParallel : Int} {s s' : Dispatch ε}

/-- Whatever is asked of the surroundings is answered. -/
structure Responsive (S : Surroundings ε) (engine : Engine I) : Prop where
  producer : ∀ e, ∃ answer e', S.nextScript e answer e'
  runtime : ∀ script, ∃ report t, Exec (SuiteRunner.run engine script) t report
  callback : ∀ f, S.onReport = some f → ∀ e report, ∃ e', f e report e'

/-- `left` bounds the scripts that can still be fetched, and nothing happens besides. -/
structure Finite (S : Surroundings ε) (left : ε → Nat) : Prop where
  script : ∀ {e script e'}, S.nextScript e (.ok script) e' → left e' < left e
  error : ∀ {e err e'}, S.nextScript e (.error err) e' → left e' ≤ left e
  callback : ∀ {f e report e'}, S.onReport = some f → f e report e' → left e' ≤ left e
  elsewhere : ∀ {e e'}, ¬ S.elsewhere e e'

/-- The steps ahead of a call. -/
def ahead (left : ε → Nat) (s : Dispatch ε) : Nat :=
  11 * left s.around + s.loop.ahead + (s.workers.map Worker.ahead).sum

theorem step_decreases {left : ε → Nat} (finite : Finite S left)
    (step : Step S engine maxScripts maxParallel s s') : s'.ahead left < s.ahead left := by
  unfold ahead
  cases step with
  | limit here reached =>
      simp only [here, LoopPc.ahead]
      omega
  | fetch here below =>
      simp only [here, LoopPc.ahead]
      omega
  | failed here answer =>
      have less := finite.error answer
      simp only [here, LoopPc.ahead]
      omega
  | script here answer =>
      have less := finite.script answer
      simp only [here, LoopPc.ahead]
      omega
  | acquire here room =>
      simp only [here, LoopPc.ahead]
      omega
  | add here =>
      simp only [here, LoopPc.ahead]
      omega
  | count here =>
      simp only [here, LoopPc.ahead]
      omega
  | spawn here =>
      simp only [here, LoopPc.ahead, List.map_append, List.sum_append, List.map_cons, List.map_nil,
        List.sum_cons, List.sum_nil, Worker.ahead]
      omega
  | wait here zero =>
      simp only [here, LoopPc.ahead]
      omega
  | @run i script here =>
      have moved := sum_map_set_add (b := ⟨script, .running⟩) Worker.ahead here
      simp only [Worker.ahead] at *
      omega
  | @finish i script report here returns silent =>
      have moved := sum_map_set_add (b := ⟨script, .releasing⟩) Worker.ahead here
      simp only [Worker.ahead] at *
      omega
  | @announce i script report here returns called =>
      have moved := sum_map_set_add (b := ⟨script, .reporting report⟩) Worker.ahead here
      simp only [Worker.ahead] at *
      omega
  | @report i script report e here effect =>
      obtain ⟨f, present, effect⟩ := effect
      have less := finite.callback present effect
      have moved := sum_map_set_add (b := ⟨script, .releasing⟩) Worker.ahead here
      simp only [Worker.ahead] at *
      omega
  | @release i script here held =>
      have moved := sum_map_set_add (b := ⟨script, .leaving⟩) Worker.ahead here
      simp only [Worker.ahead] at *
      omega
  | @done i script here =>
      have moved := sum_map_set_add (b := ⟨script, .ended⟩) Worker.ahead here
      simp only [Worker.ahead] at *
      omega
  | elsewhere moves => exact absurd moves finite.elsewhere

/-- A goroutine that has not ended can take a step: it is never blocked, since its release finds a
token and its suite returns. -/
theorem exists_worker_step (inv : Inv S maxScripts maxParallel s) (responsive : Responsive S engine)
    {w : Worker} (member : w ∈ s.workers) (notEnded : w.pc ≠ .ended) :
    ∃ s', Step S engine maxScripts maxParallel s s' := by
  obtain ⟨i, here⟩ := List.mem_iff_getElem?.mp member
  rcases w with ⟨script, pc⟩
  cases pc with
  | spawned => exact ⟨_, .run here⟩
  | running =>
      obtain ⟨report, t, exec⟩ := responsive.runtime script
      by_cases silent : S.onReport = none
      · exact ⟨_, .finish here ⟨t, exec⟩ silent⟩
      · exact ⟨_, .announce here ⟨t, exec⟩ silent⟩
  | reporting report =>
      have called : S.onReport ≠ none := inv.called _ member report rfl
      obtain ⟨f, present⟩ := Option.ne_none_iff_exists'.mp called
      obtain ⟨e, effect⟩ := responsive.callback f present s.around report
      exact ⟨_, .report here ⟨f, present, effect⟩⟩
  | releasing =>
      refine ⟨_, .release here ?_⟩
      have some_holder : 0 < s.workers.countP Worker.holding :=
        List.countP_pos_iff.mpr ⟨_, member, rfl⟩
      have tokens := inv.tokens
      unfold inFlight at tokens
      omega
  | leaving => exact ⟨_, .done here⟩
  | ended => exact absurd rfl notEnded

/-- **No deadlock.**  Before the return some step is possible. -/
theorem exists_step (inv : Inv S maxScripts maxParallel s) (responsive : Responsive S engine)
    (running : ∀ err, s.loop ≠ .returned err) :
    ∃ s', Step S engine maxScripts maxParallel s s' := by
  cases here : s.loop with
  | top =>
      by_cases reached : maxScripts > 0 ∧ s.processed ≥ maxScripts
      · exact ⟨_, .limit here reached⟩
      · exact ⟨_, .fetch here reached⟩
  | fetching =>
      obtain ⟨answer, e, answered⟩ := responsive.producer s.around
      cases answer with
      | error err => exact ⟨_, .failed here answered⟩
      | ok script => exact ⟨_, .script here answered⟩
  | acquiring script =>
      by_cases room : s.tokens < capacity maxParallel
      · exact ⟨_, .acquire here room⟩
      · -- the semaphore is full, so some goroutine holds a token and can go on
        have positive := capacity_pos maxParallel
        have tokens := inv.tokens
        unfold inFlight at tokens
        rw [here] at tokens
        have some_holder : 0 < s.workers.countP Worker.holding := by
          have none : (LoopPc.acquiring script).holding.toNat = 0 := rfl
          omega
        obtain ⟨w, member, holding⟩ := List.countP_pos_iff.mp some_holder
        refine exists_worker_step inv responsive member fun ended => ?_
        unfold Worker.holding at holding
        rw [ended] at holding
        cases holding
  | adding script => exact ⟨_, .add here⟩
  | counting script => exact ⟨_, .count here⟩
  | spawning script => exact ⟨_, .spawn here⟩
  | waiting err =>
      by_cases zero : s.waitGroup = 0
      · exact ⟨_, .wait here zero⟩
      · have group := inv.group
        rw [here] at group
        have some_registered : 0 < s.workers.countP Worker.registered := by
          have none : (LoopPc.waiting err).registered.toNat = 0 := rfl
          omega
        obtain ⟨w, member, registered⟩ := List.countP_pos_iff.mp some_registered
        refine exists_worker_step inv responsive member fun ended => ?_
        unfold Worker.registered at registered
        rw [ended] at registered
        cases registered
  | returned err => exact absurd here (running err)

/-- Along a run the invariant stays. -/
theorem Inv.reaches (inv : Inv S maxScripts maxParallel s)
    (run : Reaches (Step S engine maxScripts maxParallel) s s') : Inv S maxScripts maxParallel s' :=
  run.invariant (fun _ _ before step => before.step step) inv

/-- From a state with the invariant a return is reached.  The measure counts what is left of the
stream, of the loop and of the goroutines. -/
theorem Inv.returns {left : ε → Nat} (inv : Inv S maxScripts maxParallel s) (finite : Finite S left)
    (responsive : Responsive S engine) :
    ∃ s' err, Reaches (Step S engine maxScripts maxParallel) s s' ∧ s'.loop = .returned err := by
  have decreases : ∀ s s', Step S engine maxScripts maxParallel s s' →
      s'.ahead left < s.ahead left := fun _ _ step => step_decreases finite step
  obtain ⟨s', run, final⟩ := exists_final (ahead left) decreases s
  by_contra running
  have going : ∀ err, s'.loop ≠ .returned err := fun err here => running ⟨s', err, run, here⟩
  obtain ⟨next, step⟩ := exists_step (inv.reaches run) responsive going
  exact final next step

/-- **Every call returns.**  From every reachable state a return is reached. -/
theorem returns {left : ε → Nat} (finite : Finite S left) (responsive : Responsive S engine) {e : ε}
    (reachable : Reachable S engine maxScripts maxParallel e s) :
    ∃ s' err, Reaches (Step S engine maxScripts maxParallel) s s' ∧ s'.loop = .returned err :=
  (reachable_inv reachable).returns finite responsive

end

end Dispatch

end Scrc
