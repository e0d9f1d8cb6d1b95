import Scrc.Executor.Service
import Scrc.Executor.SuiteReference
import Scrc.Lib.Transition

/-!
# Runs of `ExecuteFromProducer`

Invariants of the dispatch loop and its goroutines, over every order of their steps.

* `Inv.tokens`, `Inv.room`: the semaphore holds a token for every script between its acquisition
  and its release, and never more than its capacity.
* `Inv.group`: the wait group counts the goroutines that have not called `wg.Done`.
* `Inv.fetched`, `Inv.ran`, `Inv.reported`: where the scripts that were fetched are.
* `Sequence`: the answers of `NextScript` are scripts up to the one that ends the loop.

`reachable_inv` and `reachable_sequence` carry them to every reachable state.
-/

namespace Scrc

open Interaction Transition

/-! ## Reports are about their script -/

theorem meets_anything {I : Interface} {α : Type} (p : Proc I α) :
    p.Meets (Contract.replies fun _ _ => True) () fun _ _ => True := by
  induction p with
  | ret a => trivial
  | call c k ih => exact ⟨trivial, fun r _ => ih r⟩

/-- `suites.Run` returns a report on the script it was given, on every runtime. -/
theorem suiteRunner_script {I : Interface} {engine : Engine I} {script : Script}
    {t : List (Event I)} {report : RunReport}
    (run : Exec (SuiteRunner.run engine script) t report) : report.script = script := by
  have prepared : ∀ (outcome : PrepareOutcome I) (s : Unit),
      (SuiteRunner.runPrepared script outcome).Meets (Contract.replies fun _ _ => True) s
        fun report _ => report.script = script := by
    intro outcome s
    unfold SuiteRunner.runPrepared
    cases outcome.result with
    | some r => rfl
    | none =>
        cases outcome.prepared with
        | none => rfl
        | some p =>
            simp only
            split
            · exact (meets_anything (p.run [])).bind fun o s _ => rfl
            · have runs : ∀ (stdin : GoString) (s : Unit), (fun _ => True) s →
                  (p.run stdin).Meets (Contract.replies fun _ _ => True) s
                    fun o s' => (fun _ => True) s' ∧ (fun _ _ => True) stdin o :=
                fun stdin _ _ => (meets_anything (p.run stdin)).mono fun _ _ _ => ⟨trivial, trivial⟩
              refine (SuiteReference.meets_runSuite runs trivial).mono fun report _ reached => ?_
              obtain ⟨-, outs, -, rfl⟩ := reached
              rfl
  have whole : (SuiteRunner.run engine script).Meets (Contract.replies fun _ _ => True) ()
      fun report _ => report.script = script := by
    unfold SuiteRunner.run
    apply (meets_anything (engine.prepare script)).bind
    intro outcome s _
    cases outcome.err with
    | some err => rfl
    | none =>
        simp only
        cases h : outcome.prepared with
        | none => exact prepared outcome s
        | some p =>
            exact (prepared outcome s).deferring fun report s same =>
              (meets_anything p.close).mono fun _ _ _ => same
  exact whole.sound_replies run fun _ _ => trivial

/-! ## Where a script is -/

namespace LoopPc

/-- The script that is fetched and not yet handed to a goroutine. -/
def script : LoopPc → Option Script
  | .acquiring script => some script
  | .adding script => some script
  | .counting script => some script
  | .spawning script => some script
  | _ => none

/-- The loop is past `sem <- struct{}{}` for a script it still has. -/
def holding : LoopPc → Bool
  | .adding _ => true
  | .counting _ => true
  | .spawning _ => true
  | _ => false

/-- ... past `wg.Add(1)`. -/
def registered : LoopPc → Bool
  | .counting _ => true
  | .spawning _ => true
  | _ => false

/-- ... past `processed++`. -/
def counted : LoopPc → Bool
  | .spawning _ => true
  | _ => false

end LoopPc

namespace Worker

/-- The goroutine has not released its token. -/
def holding (w : Worker) : Bool :=
  match w.pc with
  | .leaving => false
  | .ended => false
  | _ => true

/-- The goroutine has not called `wg.Done`. -/
def registered (w : Worker) : Bool :=
  match w.pc with
  | .ended => false
  | _ => true

/-- The goroutine is inside `suites.Run` or `onReport`. -/
def busy (w : Worker) : Bool :=
  match w.pc with
  | .running => true
  | .reporting _ => true
  | _ => false

/-- The script, when it was passed to `suites.Run`. -/
def ran (w : Worker) : Option Script :=
  match w.pc with
  | .spawned => none
  | _ => some w.script

/-- The script, when `suites.Run` has returned. -/
def finished (w : Worker) : Option Script :=
  match w.pc with
  | .spawned => none
  | .running => none
  | _ => some w.script

end Worker

namespace Dispatch

section

variable {I : Interface} {ε : Type} {S : Surroundings ε} {engine : Engine I}
  {maxScripts maxParallel : Int} {s s' : Dispatch ε}

/-- The number of scripts between semaphore acquisition and release. -/
def inFlight (s : Dispatch ε) : Nat := s.workers.countP Worker.holding + s.loop.holding.toNat

/-- The state in which a call begins. -/
def initial (e : ε) : Dispatch ε := { around := e }

/-- The states that a call reaches. -/
def Reachable (S : Surroundings ε) (engine : Engine I) (maxScripts maxParallel : Int) (e : ε)
    (s : Dispatch ε) : Prop :=
  Reaches (Step S engine maxScripts maxParallel) (initial e) s

/-! ## The invariant -/

structure Inv (S : Surroundings ε) (maxScripts maxParallel : Int) (s : Dispatch ε) : Prop where
  tokens : s.tokens = s.inFlight
  room : (s.tokens : Int) ≤ capacity maxParallel
  group : s.waitGroup = (s.workers.countP Worker.registered + s.loop.registered.toNat : Nat)
  processed : s.processed = (s.workers.length + s.loop.counted.toNat : Nat)
  fetched : s.fetched = s.workers.map Worker.script ++ s.loop.script.toList
  below : s.loop = .fetching → maxScripts > 0 → s.processed < maxScripts
  limit : maxScripts > 0 → (s.fetched.length : Int) ≤ maxScripts
  ran : s.ran.Perm (s.workers.filterMap Worker.ran)
  reported : S.onReport ≠ none →
    (s.reported.map RunReport.script).Perm (s.workers.filterMap Worker.finished)
  silent : S.onReport = none → s.reported = []
  own : ∀ w ∈ s.workers, ∀ report, w.pc = .reporting report → report.script = w.script
  called : ∀ w ∈ s.workers, ∀ report, w.pc = .reporting report → S.onReport ≠ none
  returned : ∀ err, s.loop = .returned err → s.waitGroup = 0

theorem capacity_pos (maxParallel : Int) : 0 < capacity maxParallel := by
  unfold capacity
  split <;> omega

theorem capacity_eq (maxParallel : Int) : capacity maxParallel = max 1 maxParallel := by
  unfold capacity
  split <;> omega

theorem inv_initial (e : ε) : Inv S maxScripts maxParallel (initial e) where
  tokens := rfl
  room := Int.le_of_lt (capacity_pos maxParallel)
  group := rfl
  processed := rfl
  fetched := rfl
  below absurd := nomatch absurd
  limit positive := Int.le_of_lt positive
  ran := List.Perm.refl _
  reported _ := List.Perm.refl _
  silent _ := rfl
  own _ absurd := nomatch absurd
  called _ absurd := nomatch absurd
  returned _ absurd := nomatch absurd

theorem fetched_script (answers : List (Except GoError Script)) (script : Script) :
    (answers ++ [Except.ok script]).filterMap Except.toOption =
      answers.filterMap Except.toOption ++ [script] := List.filterMap_append

theorem fetched_failed (answers : List (Except GoError Script)) (err : GoError) :
    (answers ++ [Except.error err]).filterMap Except.toOption =
      answers.filterMap Except.toOption := by
  rw [List.filterMap_append]
  exact List.append_nil _

/-- A step of the loop that starts no goroutine.  It says how the counters have changed against
where the loop is, and the rest is as it was. -/
theorem Inv.turn (inv : Inv S maxScripts maxParallel s) (workers : s'.workers = s.workers)
    (ran : s'.ran = s.ran) (reported : s'.reported = s.reported)
    (tokens : s'.tokens + s.loop.holding.toNat = s.tokens + s'.loop.holding.toNat)
    (room : (s'.tokens : Int) ≤ capacity maxParallel)
    (group : s'.waitGroup + s.loop.registered.toNat = s.waitGroup + s'.loop.registered.toNat)
    (processed : s'.processed + s.loop.counted.toNat = s.processed + s'.loop.counted.toNat)
    (fetched : s'.fetched = s.workers.map Worker.script ++ s'.loop.script.toList)
    (below : s'.loop = .fetching → maxScripts > 0 → s'.processed < maxScripts)
    (limit : maxScripts > 0 → (s'.fetched.length : Int) ≤ maxScripts)
    (returned : ∀ err, s'.loop = .returned err → s'.waitGroup = 0) :
    Inv S maxScripts maxParallel s' where
  tokens := by
    have before := inv.tokens
    unfold inFlight at *
    rw [workers]
    omega
  room := room
  group := by
    have before := inv.group
    rw [workers]
    omega
  processed := by
    have before := inv.processed
    rw [workers]
    omega
  fetched := by
    rw [workers]
    exact fetched
  below := below
  limit := limit
  ran := by
    rw [ran, workers]
    exact inv.ran
  reported called := by
    rw [reported, workers]
    exact inv.reported called
  silent nil := by
    rw [reported]
    exact inv.silent nil
  own := by
    rw [workers]
    exact inv.own
  called := by
    rw [workers]
    exact inv.called
  returned := returned

/-- A step of a worker: entry `i` moves from `v` to `w` and keeps its script, the loop stays. -/
theorem Inv.move (inv : Inv S maxScripts maxParallel s) {i : Nat} {v w : Worker}
    (here : s.workers[i]? = some v) (notEnded : v.registered = true)
    (sameScript : w.script = v.script) (workers : s'.workers = s.workers.set i w)
    (loop : s'.loop = s.loop) (answers : s'.answers = s.answers)
    (processed : s'.processed = s.processed)
    (tokens : s'.tokens + v.holding.toNat = s.tokens + w.holding.toNat)
    (room : s'.tokens ≤ s.tokens)
    (group : s'.waitGroup + v.registered.toNat = s.waitGroup + w.registered.toNat)
    (ran : s'.ran.Perm (s'.workers.filterMap Worker.ran))
    (reported : S.onReport ≠ none →
      (s'.reported.map RunReport.script).Perm (s'.workers.filterMap Worker.finished))
    (silent : S.onReport = none → s'.reported = [])
    (own : ∀ report, w.pc = .reporting report → report.script = w.script ∧ S.onReport ≠ none) :
    Inv S maxScripts maxParallel s' where
  tokens := by
    have before := inv.tokens
    have moved := countP_set_add (b := w) Worker.holding here
    unfold inFlight at *
    rw [workers, loop]
    omega
  room := by
    have before := inv.room
    omega
  group := by
    have before := inv.group
    have moved := countP_set_add (b := w) Worker.registered here
    rw [workers, loop]
    omega
  processed := by
    rw [workers, loop, processed, List.length_set]
    exact inv.processed
  fetched := by
    have same := map_set_same Worker.script here sameScript
    unfold Dispatch.fetched
    rw [answers, workers, loop, same]
    exact inv.fetched
  below atFetch := by
    rw [loop] at atFetch
    rw [processed]
    exact inv.below atFetch
  limit := by
    unfold Dispatch.fetched
    rw [answers]
    exact inv.limit
  ran := ran
  reported := reported
  silent := silent
  own := by
    rw [workers]
    intro u member
    rcases List.mem_or_eq_of_mem_set member with old | rfl
    · exact inv.own u old
    · exact fun report here => (own report here).1
  called := by
    rw [workers]
    intro u member
    rcases List.mem_or_eq_of_mem_set member with old | rfl
    · exact inv.called u old
    · exact fun report here => (own report here).2
  returned err gone := by
    rw [loop] at gone
    have zero := inv.returned err gone
    have before := inv.group
    have some_worker : 0 < s.workers.countP Worker.registered :=
      List.countP_pos_iff.mpr ⟨v, List.mem_of_getElem? here, notEnded⟩
    omega

/-- The step of the loop that starts a goroutine, which takes over the token, the place in the wait
group and the script of the loop. -/
theorem Inv.spawn (inv : Inv S maxScripts maxParallel s) {script : Script}
    (here : s.loop = .spawning script) :
    Inv S maxScripts maxParallel
      { s with loop := .top, workers := s.workers ++ [⟨script, .spawned⟩] } where
  tokens := by
    have before := inv.tokens
    unfold inFlight at *
    rw [here] at before
    rw [List.countP_append]
    exact before
  room := inv.room
  group := by
    have before := inv.group
    rw [here] at before
    rw [List.countP_append]
    exact before
  processed := by
    have before := inv.processed
    rw [here] at before
    rw [List.length_append]
    exact before
  fetched := by
    have before := inv.fetched
    rw [here] at before
    rw [List.map_append]
    exact before.trans (List.append_nil _).symm
  below absurd := nomatch absurd
  limit := inv.limit
  ran := by
    rw [List.filterMap_append]
    exact inv.ran.trans (List.Perm.of_eq (List.append_nil _).symm)
  reported called := by
    rw [List.filterMap_append]
    exact (inv.reported called).trans (List.Perm.of_eq (List.append_nil _).symm)
  silent := inv.silent
  own := by
    intro w member
    rcases List.mem_append.mp member with old | new
    · exact inv.own w old
    · rw [List.mem_singleton] at new
      rw [new]
      intro report absurd
      cases absurd
  called := by
    intro w member
    rcases List.mem_append.mp member with old | new
    · exact inv.called w old
    · rw [List.mem_singleton] at new
      rw [new]
      intro report absurd
      cases absurd
  returned err absurd := nomatch absurd

/-- **One step** keeps the invariant: a case for each step of the loop, and one for each step of a
goroutine. -/
theorem Inv.step (inv : Inv S maxScripts maxParallel s)
    (step : Step S engine maxScripts maxParallel s s') : Inv S maxScripts maxParallel s' := by
  have fetched := inv.fetched
  cases step with
  | limit here reached =>
      rw [here] at fetched
      exact inv.turn rfl rfl rfl (by rw [here]; rfl) inv.room (by rw [here]; rfl)
        (by rw [here]; rfl) fetched (fun absurd => nomatch absurd) inv.limit
        (fun _ absurd => nomatch absurd)
  | fetch here below =>
      rw [here] at fetched
      refine inv.turn rfl rfl rfl (by rw [here]; rfl) inv.room (by rw [here]; rfl)
        (by rw [here]; rfl) fetched (fun _ positive => ?_) inv.limit (fun _ absurd => nomatch absurd)
      simp only
      omega
  | failed here answer =>
      rw [here] at fetched
      have same := fetched_failed s.answers
      refine inv.turn rfl rfl rfl (by rw [here]; rfl) inv.room (by rw [here]; rfl)
        (by rw [here]; rfl) ((same _).trans fetched) (fun absurd => nomatch absurd) ?_
        (fun _ absurd => nomatch absurd)
      unfold Dispatch.fetched
      rw [same]
      exact inv.limit
  | script here answer =>
      rw [here] at fetched
      have counted := inv.processed
      rw [here] at counted
      refine inv.turn rfl rfl rfl (by rw [here]; rfl) inv.room (by rw [here]; rfl)
        (by rw [here]; rfl) ?_ (fun absurd => nomatch absurd) (fun positive => ?_)
        (fun _ absurd => nomatch absurd)
      · refine (fetched_script s.answers _).trans ?_
        rw [← Dispatch.fetched, fetched, List.append_assoc]
        rfl
      · -- the limit was tested before the script was fetched
        have below := inv.below here positive
        have length := congrArg List.length fetched
        unfold Dispatch.fetched at *
        simp only [fetched_script, List.length_append, List.length_map, LoopPc.script,
          Option.toList_none, List.length_nil, List.length_cons] at *
        simp only [LoopPc.counted, Bool.toNat_false] at counted
        omega
  | acquire here room =>
      rw [here] at fetched
      refine inv.turn rfl rfl rfl (by rw [here]; rfl) ?_ (by rw [here]; rfl) (by rw [here]; rfl)
        fetched (fun absurd => nomatch absurd) inv.limit (fun _ absurd => nomatch absurd)
      simp only
      omega
  | add here =>
      rw [here] at fetched
      exact inv.turn rfl rfl rfl (by rw [here]; rfl) inv.room
        (by simp [here, LoopPc.registered]) (by rw [here]; rfl) fetched
        (fun absurd => nomatch absurd) inv.limit (fun _ absurd => nomatch absurd)
  | count here =>
      rw [here] at fetched
      exact inv.turn rfl rfl rfl (by rw [here]; rfl) inv.room (by rw [here]; rfl)
        (by simp [here, LoopPc.counted]) fetched (fun absurd => nomatch absurd) inv.limit
        (fun _ absurd => nomatch absurd)
  | spawn here => exact inv.spawn here
  | wait here zero =>
      rw [here] at fetched
      exact inv.turn rfl rfl rfl (by rw [here]; rfl) inv.room (by rw [here]; rfl)
        (by rw [here]; rfl) fetched (fun absurd => nomatch absurd) inv.limit (fun _ _ => zero)
  | @run i script here =>
      refine inv.move (w := ⟨script, .running⟩) here rfl rfl rfl rfl rfl rfl rfl (Nat.le_refl _)
        rfl ?_ ?_ inv.silent (fun _ absurd => nomatch absurd)
      · exact perm_filterMap_set_gain Worker.ran here rfl rfl inv.ran
      · exact fun called => perm_filterMap_set (b := ⟨script, .running⟩) Worker.finished here rfl
          (inv.reported called)
  | @finish i script report here returns silent =>
      refine inv.move (w := ⟨script, .releasing⟩) here rfl rfl rfl rfl rfl rfl rfl (Nat.le_refl _)
        rfl ?_ (fun called => absurd silent called) inv.silent (fun _ absurd => nomatch absurd)
      exact perm_filterMap_set (b := ⟨script, .releasing⟩) Worker.ran here rfl inv.ran
  | @announce i script report here returns called =>
      obtain ⟨t, exec⟩ := returns
      have own := suiteRunner_script exec
      refine inv.move (w := ⟨script, .reporting report⟩) here rfl rfl rfl rfl rfl rfl rfl
        (Nat.le_refl _) rfl ?_ (fun _ => ?_) (fun nil => absurd nil called) ?_
      · exact perm_filterMap_set (b := ⟨script, .reporting report⟩) Worker.ran here rfl inv.ran
      · rw [List.map_append, List.map_singleton, own]
        exact perm_filterMap_set_gain Worker.finished here rfl rfl (inv.reported called)
      · intro report' same
        cases same
        exact ⟨own, called⟩
  | @report i script report e here effect =>
      refine inv.move (w := ⟨script, .releasing⟩) here rfl rfl rfl rfl rfl rfl rfl (Nat.le_refl _)
        rfl ?_ (fun called => ?_) inv.silent (fun _ absurd => nomatch absurd)
      · exact perm_filterMap_set (b := ⟨script, .releasing⟩) Worker.ran here rfl inv.ran
      · exact perm_filterMap_set (b := ⟨script, .releasing⟩) Worker.finished here rfl
          (inv.reported called)
  | @release i script here held =>
      refine inv.move (w := ⟨script, .leaving⟩) here rfl rfl rfl rfl rfl rfl ?_ (Nat.sub_le _ _)
        rfl ?_ (fun called => ?_) inv.silent (fun _ absurd => nomatch absurd)
      · simp only [Worker.holding, Bool.toNat_true, Bool.toNat_false]
        omega
      · exact perm_filterMap_set (b := ⟨script, .leaving⟩) Worker.ran here rfl inv.ran
      · exact perm_filterMap_set (b := ⟨script, .leaving⟩) Worker.finished here rfl
          (inv.reported called)
  | @done i script here =>
      refine inv.move (w := ⟨script, .ended⟩) here rfl rfl rfl rfl rfl rfl rfl (Nat.le_refl _)
        ?_ ?_ (fun called => ?_) inv.silent (fun _ absurd => nomatch absurd)
      · simp [Worker.registered]
      · exact perm_filterMap_set (b := ⟨script, .ended⟩) Worker.ran here rfl inv.ran
      · exact perm_filterMap_set (b := ⟨script, .ended⟩) Worker.finished here rfl
          (inv.reported called)
  | elsewhere moves =>
      exact inv.turn rfl rfl rfl rfl inv.room rfl rfl fetched inv.below inv.limit inv.returned

/-- The invariant holds in every state that a call reaches, by induction over its steps. -/
theorem reachable_inv {e : ε} (reachable : Reachable S engine maxScripts maxParallel e s) :
    Inv S maxScripts maxParallel s :=
  reachable.invariant (fun _ _ inv step => inv.step step) (inv_initial e)

/-! ## The answers of the producer -/

/-- Every answer is a script. -/
def AllScripts (answers : List (Except GoError Script)) : Prop :=
  ∀ a ∈ answers, ∃ script, a = .ok script

/-- The answers with which the loop ends and what it returns: as many scripts as the limit allows,
or fewer and then an error. -/
def Ended (maxScripts : Int) (answers : List (Except GoError Script)) (err : Option GoError) :
    Prop :=
  (maxScripts > 0 ∧ AllScripts answers ∧ (answers.length : Int) = maxScripts ∧ err = none) ∨
  ∃ before cause, answers = before ++ [.error cause] ∧ AllScripts before ∧
    (maxScripts > 0 → (before.length : Int) < maxScripts) ∧ err = stopError cause

/-- The answers so far, by where the loop is. -/
def Sequence (maxScripts : Int) (s : Dispatch ε) : Prop :=
  match s.loop with
  | .waiting err => Ended maxScripts s.answers err
  | .returned err => Ended maxScripts s.answers err
  | _ => AllScripts s.answers

theorem AllScripts.length_fetched {answers : List (Except GoError Script)}
    (h : AllScripts answers) : (answers.filterMap Except.toOption).length = answers.length := by
  induction answers with
  | nil => rfl
  | cons a rest ih =>
      obtain ⟨script, rfl⟩ := h a List.mem_cons_self
      have later := ih fun b member => h b (List.mem_cons_of_mem _ member)
      exact congrArg (· + 1) later

/-- Before a fetch, all scripts so far have been handed over. -/
theorem Inv.length_answers (inv : Inv S maxScripts maxParallel s) (all : AllScripts s.answers)
    (nothing : s.loop.script = none) (uncounted : s.loop.counted = false) :
    (s.answers.length : Int) = s.processed := by
  have fetched := congrArg List.length inv.fetched
  have processed := inv.processed
  have length := all.length_fetched
  unfold Dispatch.fetched at fetched
  rw [nothing, length, List.length_append, List.length_map, Option.toList_none,
    List.length_nil] at fetched
  rw [uncounted, Bool.toNat_false] at processed
  omega

theorem Sequence.step (inv : Inv S maxScripts maxParallel s) (sequence : Sequence maxScripts s)
    (step : Step S engine maxScripts maxParallel s s') : Sequence maxScripts s' := by
  unfold Sequence at *
  cases step with
  | limit here reached =>
      rw [here] at sequence
      have none : s.loop.script = none := by rw [here]; rfl
      have uncounted : s.loop.counted = false := by rw [here]; rfl
      have length := inv.length_answers sequence none uncounted
      have bound := inv.limit reached.1
      unfold Dispatch.fetched at bound
      rw [sequence.length_fetched] at bound
      exact Or.inl ⟨reached.1, sequence, by simp only; omega, rfl⟩
  | fetch here below =>
      rw [here] at sequence
      exact sequence
  | @failed err e here answer =>
      rw [here] at sequence
      have none : s.loop.script = none := by rw [here]; rfl
      have uncounted : s.loop.counted = false := by rw [here]; rfl
      have length := inv.length_answers sequence none uncounted
      refine Or.inr ⟨s.answers, err, rfl, sequence, fun positive => ?_, rfl⟩
      have below := inv.below here positive
      omega
  | @script script e here answer =>
      rw [here] at sequence
      intro a member
      rcases List.mem_append.mp member with old | new
      · exact sequence a old
      · exact ⟨script, List.mem_singleton.mp new⟩
  | acquire here room =>
      rw [here] at sequence
      exact sequence
  | add here =>
      rw [here] at sequence
      exact sequence
  | count here =>
      rw [here] at sequence
      exact sequence
  | spawn here =>
      rw [here] at sequence
      exact sequence
  | wait here zero =>
      rw [here] at sequence
      exact sequence
  | run here => exact sequence
  | finish here returns silent => exact sequence
  | announce here returns called => exact sequence
  | report here effect => exact sequence
  | release here held => exact sequence
  | done here => exact sequence
  | elsewhere moves => exact sequence

theorem reachable_sequence {e : ε} (reachable : Reachable S engine maxScripts maxParallel e s) :
    Sequence maxScripts s := by
  have start : Inv S maxScripts maxParallel (initial e) ∧ Sequence maxScripts (initial e) :=
    ⟨inv_initial e, fun _ absurd => nomatch absurd⟩
  have both := reachable.invariant
    (P := fun s => Inv S maxScripts maxParallel s ∧ Sequence maxScripts s)
    (fun _ _ before step => ⟨before.1.step step, before.2.step before.1 step⟩) start
  exact both.2

/-- The answers are those of a fixed sequence. -/
def Follows (answers : List (Except GoError Script)) (all : Nat → Except GoError Script) : Prop :=
  ∀ k a, answers[k]? = some a → a = all k

theorem Ended.not_longer {left right : List (Except GoError Script)} {err err' : Option GoError}
    {all : Nat → Except GoError Script} (ended : Ended maxScripts left err)
    (ended' : Ended maxScripts right err') (follows : Follows left all)
    (follows' : Follows right all) : ¬ left.length < right.length := by
  intro shorter
  rcases ended with ⟨positive, scripts, length, -⟩ | ⟨before, cause, rfl, scripts, below, -⟩
  · rcases ended' with ⟨-, -, length', -⟩ | ⟨before', cause', rfl, scripts', below', -⟩
    · omega
    · have bound := below' positive
      rw [List.length_append, List.length_singleton] at shorter
      omega
  · -- the error that ends the shorter list stands inside the longer one, among its scripts
    have stop : Except.error cause = all before.length := follows _ _ (by simp)
    rw [List.length_append, List.length_singleton] at shorter
    have inside : before.length < right.length := by omega
    have here := follows' _ _ (List.getElem?_eq_getElem inside)
    have script : ∃ script, right[before.length] = Except.ok script := by
      rcases ended' with ⟨-, scripts', -, -⟩ | ⟨before', cause', rfl, scripts', -, -⟩
      · exact scripts' _ (List.getElem_mem inside)
      · rw [List.length_append, List.length_singleton] at shorter
        rw [List.getElem_append_left (by omega)]
        exact scripts' _ (List.getElem_mem _)
    obtain ⟨script, eq⟩ := script
    rw [eq, ← stop] at here
    cases here

/-- **One sequence, one outcome.**  Two calls whose producers answer alike get the same answers,
however their steps interleave. -/
theorem Ended.unique {left right : List (Except GoError Script)} {err err' : Option GoError}
    {all : Nat → Except GoError Script} (ended : Ended maxScripts left err)
    (ended' : Ended maxScripts right err') (follows : Follows left all)
    (follows' : Follows right all) : left = right := by
  have one := ended.not_longer ended' follows follows'
  have other := ended'.not_longer ended follows' follows
  apply List.ext_getElem (by omega)
  intro k inLeft inRight
  rw [follows k _ (List.getElem?_eq_getElem inLeft), follows' k _ (List.getElem?_eq_getElem inRight)]

end

end Dispatch

end Scrc
