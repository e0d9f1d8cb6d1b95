import Scrc.Executor.Dispatch

/-!
# What a call of `ExecuteFromProducer` guarantees

Over every producer, every callback, every runtime, every limit, every parallelism and every order
of the steps:

* `parallelism_bounded`: the semaphore counts the scripts in flight, keeps them within its
  capacity, and never blocks a release.
* `executed_once`: at the return, every script that was fetched was run once and reported once.

The results at the return rest on `Inv.all_ended`: the wait group is empty, so every goroutine has
come to its end.
-/

namespace Scrc

open Interaction Transition

namespace Dispatch

section

variable {I : Interface} {ε : Type} {S : Surroundings ε} {engine : Engine I}
  {maxScripts maxParallel : Int} {s : Dispatch ε}

/-! ## At the return -/

theorem Inv.all_ended (inv : Inv S maxScripts maxParallel s) {err : Option GoError}
    (returned : s.loop = .returned err) : ∀ w ∈ s.workers, w.pc = .ended := by
  intro w member
  have zero := inv.returned err returned
  have group := inv.group
  rw [zero] at group
  have none : s.workers.countP Worker.registered = 0 := by omega
  have unregistered := List.countP_eq_zero.mp none w member
  rcases w with ⟨script, pc⟩
  cases pc with
  | ended => rfl
  | _ => exact absurd rfl unregistered

theorem filterMap_eq_map {α β : Type} {l : List α} {f : α → Option β} {g : α → β}
    (same : ∀ a ∈ l, f a = some (g a)) : l.filterMap f = l.map g := by
  rw [List.filterMap_congr same, List.filterMap_eq_map']

/-- At the return the goroutines have the scripts that were fetched. -/
theorem Inv.fetched_eq (inv : Inv S maxScripts maxParallel s) {err : Option GoError}
    (returned : s.loop = .returned err) : s.fetched = s.workers.map Worker.script := by
  have fetched := inv.fetched
  rw [returned] at fetched
  exact fetched.trans (List.append_nil _)

theorem Inv.ran_fetched (inv : Inv S maxScripts maxParallel s) {err : Option GoError}
    (returned : s.loop = .returned err) : s.ran.Perm s.fetched := by
  have all : s.workers.filterMap Worker.ran = s.workers.map Worker.script := by
    apply filterMap_eq_map
    intro w member
    unfold Worker.ran
    rw [inv.all_ended returned w member]
  rw [inv.fetched_eq returned, ← all]
  exact inv.ran

theorem Inv.reported_fetched (inv : Inv S maxScripts maxParallel s) {err : Option GoError}
    (returned : s.loop = .returned err) (called : S.onReport ≠ none) :
    (s.reported.map RunReport.script).Perm s.fetched := by
  have all : s.workers.filterMap Worker.finished = s.workers.map Worker.script := by
    apply filterMap_eq_map
    intro w member
    unfold Worker.finished
    rw [inv.all_ended returned w member]
  rw [inv.fetched_eq returned, ← all]
  exact inv.reported called

/-! ## Parallelism -/

theorem Worker.holding_of_busy (w : Worker) (busy : w.busy = true) : w.holding = true := by
  rcases w with ⟨script, pc⟩
  cases pc with
  | running => rfl
  | reporting report => rfl
  | _ => cases busy

/-- **Bounded parallelism.**  In every reachable state the semaphore holds one token for every
script between acquisition and release; these, and with them the scripts inside `suites.Run` or
`onReport`, are at most `max 1 maxParallel`; and a goroutine that is about to release its token can
do so. -/
theorem parallelism_bounded {e : ε} (reachable : Reachable S engine maxScripts maxParallel e s) :
    s.tokens = s.inFlight ∧ (s.inFlight : Int) ≤ max 1 maxParallel ∧
      capacity maxParallel = max 1 maxParallel ∧
      (s.workers.countP Worker.busy : Int) ≤ max 1 maxParallel ∧
      ∀ i script, s.workers[i]? = some ⟨script, .releasing⟩ →
        Step S engine maxScripts maxParallel s
          { s with workers := s.workers.set i ⟨script, .leaving⟩, tokens := s.tokens - 1 } := by
  have inv := reachable_inv reachable
  have tokens := inv.tokens
  have room := inv.room
  rw [capacity_eq] at room
  refine ⟨tokens, by omega, capacity_eq maxParallel, ?_, fun i script here => ?_⟩
  · have busy : s.workers.countP Worker.busy ≤ s.workers.countP Worker.holding :=
      List.countP_mono_left fun w _ => Worker.holding_of_busy w
    unfold inFlight at tokens
    omega
  · refine .release here ?_
    have some_holder : 0 < s.workers.countP Worker.holding :=
      List.countP_pos_iff.mpr ⟨_, List.mem_of_getElem? here, rfl⟩
    unfold inFlight at tokens
    omega

/-! ## Exactly once -/

/-- **Exactly once.**  When `ExecuteFromProducer` returns, for whatever reason: the scripts passed
to `suites.Run` are those that `NextScript` returned, as often; so are the scripts of the reports
passed to `onReport`, when there is a callback; no goroutine is left; and a positive limit was not
exceeded.  Two calls with the same limit whose producers answer alike report the same scripts,
whatever their parallelism and their order of steps. -/
theorem executed_once {e : ε} (reachable : Reachable S engine maxScripts maxParallel e s)
    {err : Option GoError} (returned : s.loop = .returned err) :
    s.ran.Perm s.fetched ∧
      (S.onReport ≠ none → (s.reported.map RunReport.script).Perm s.fetched) ∧
      (S.onReport = none → s.reported = []) ∧
      (∀ w ∈ s.workers, w.pc = .ended) ∧
      (maxScripts > 0 → (s.fetched.length : Int) ≤ maxScripts) ∧
      ∀ (I' : Interface) (ε' : Type) (S' : Surroundings ε') (engine' : Engine I')
        (maxParallel' : Int) (e' : ε') (s' : Dispatch ε') (err' : Option GoError)
        (all : Nat → Except GoError Script),
        Reachable S' engine' maxScripts maxParallel' e' s' → s'.loop = .returned err' →
        S.onReport ≠ none → S'.onReport ≠ none → Follows s.answers all → Follows s'.answers all →
        (s'.reported.map RunReport.script).Perm (s.reported.map RunReport.script) := by
  have inv := reachable_inv reachable
  refine ⟨inv.ran_fetched returned, inv.reported_fetched returned, inv.silent,
    inv.all_ended returned, inv.limit, ?_⟩
  intro I' ε' S' engine' maxParallel' e' s' err' all reachable' returned' called called' follows
    follows'
  have inv' := reachable_inv reachable'
  have ended := reachable_sequence reachable
  have ended' := reachable_sequence reachable'
  unfold Sequence at ended ended'
  rw [returned] at ended
  rw [returned'] at ended'
  have same : s'.fetched = s.fetched := by
    unfold Dispatch.fetched
    rw [ended.unique ended' follows follows']
  have here := inv.reported_fetched returned called
  have there := inv'.reported_fetched returned' called'
  rw [same] at there
  exact there.trans here.symm

end

/-! ## A call with two scripts -/

/-- A runtime whose scripts run to the outcomes that the other side of the calls chooses. -/
def recordedEngine : Engine SuiteReference.RunCalls :=
  ⟨fun _ => return { prepared := some SuiteReference.recorded }⟩

/-- Two scripts without tests. -/
def hello : Script := ⟨"hello", .python, "print('hello')", ⟨0, 0⟩, []⟩
def farewell : Script := ⟨"farewell", .python, "print('farewell')", ⟨0, 0⟩, []⟩

/-- The reports when `hello` runs well and the container of `farewell` fails. -/
def helloReport : RunReport :=
  { script := hello, result := some { status := .ok, stdout := "hello\n" } }
def farewellReport : RunReport :=
  { script := farewell, result := none, err := some (.new (lit "container is gone")) }

/-- A producer with these two scripts, and a callback that counts its calls.  The first number is
that of the scripts handed out. -/
def twoScripts : Surroundings (Nat × Nat) where
  nextScript e answer e' :=
    e' = (e.1 + 1, e.2) ∧
      answer = ([.ok hello, .ok farewell] : List (Except GoError Script)).getD e.1 (.error .eof)
  onReport := some fun e _ e' => e' = (e.1, e.2 + 1)
  elsewhere _ _ := False

/-- A script without tests is run once, and the outcome of that is its report. -/
theorem recordedEngine_returns {script : Script} (untested : script.tests = []) (o : RunOutcome) :
    ∃ t, Exec (SuiteRunner.run recordedEngine script) t
      { script := script, result := o.result, err := o.err } := by
  obtain ⟨id, language, source, limits, tests⟩ := script
  cases untested
  exact ⟨_, exec_answered (I := SuiteReference.RunCalls) (fun _ _ => o)
    (SuiteRunner.run recordedEngine _) []⟩

theorem helloReport_returned : ∃ t, Exec (SuiteRunner.run recordedEngine hello) t helloReport :=
  recordedEngine_returns rfl ⟨helloReport.result, none⟩

theorem farewellReport_returned :
    ∃ t, Exec (SuiteRunner.run recordedEngine farewell) t farewellReport :=
  recordedEngine_returns rfl ⟨none, farewellReport.err⟩

/-- The call for `twoScripts`, with room for two, when `farewell` is about to release its token and
`hello` is still run. -/
def farewellReleasing : Dispatch (Nat × Nat) where
  around := (2, 1)
  tokens := 2
  waitGroup := 2
  processed := 2
  workers := [⟨hello, .running⟩, ⟨farewell, .releasing⟩]
  answers := [.ok hello, .ok farewell]
  ran := [farewell, hello]
  reported := [farewellReport]

theorem farewellReleasing_reachable :
    Reachable twoScripts recordedEngine 0 2 (0, 0) farewellReleasing :=
  .head (.fetch rfl (by decide)) <| .head (.script (e := (1, 0)) rfl ⟨rfl, rfl⟩) <|
  .head (.acquire rfl (by decide)) <| .head (.add rfl) <| .head (.count rfl) <|
  .head (.spawn rfl) <|
  .head (.fetch rfl (by decide)) <| .head (.script (e := (2, 0)) rfl ⟨rfl, rfl⟩) <|
  .head (.acquire rfl (by decide)) <| .head (.add rfl) <| .head (.count rfl) <|
  .head (.spawn rfl) <|
  .head (.run (i := 1) rfl) <| .head (.run (i := 0) rfl) <|
  .head (.announce (i := 1) rfl farewellReport_returned nofun) <|
  .head (.report (i := 1) rfl ⟨_, rfl, rfl⟩) .refl

/-- The same call at its return. -/
def bothReturned : Dispatch (Nat × Nat) :=
  { farewellReleasing with
    loop := .returned none
    around := (3, 2)
    tokens := 0
    waitGroup := 0
    workers := [⟨hello, .ended⟩, ⟨farewell, .ended⟩]
    answers := [.ok hello, .ok farewell, .error .eof]
    reported := [farewellReport, helloReport] }

theorem bothReturned_reachable : Reachable twoScripts recordedEngine 0 2 (0, 0) bothReturned :=
  farewellReleasing_reachable.trans <|
  .head (.release (i := 1) rfl (by decide)) <|
  .head (.announce (i := 0) rfl helloReport_returned nofun) <|
  .head (.fetch rfl (by decide)) <| .head (.failed (e := (3, 1)) rfl ⟨rfl, rfl⟩) <|
  .head (.done (i := 1) rfl) <| .head (.report (i := 0) rfl ⟨_, rfl, rfl⟩) <|
  .head (.release (i := 0) rfl (by decide)) <| .head (.done (i := 0) rfl) <|
  .head (.wait rfl rfl) .refl

/-- Both places are taken, and the goroutine of `farewell` can give its place back. -/
theorem parallelism_bounded_two :
    farewellReleasing.inFlight = 2 ∧ (farewellReleasing.inFlight : Int) ≤ max 1 2 ∧
      Step twoScripts recordedEngine 0 2 farewellReleasing
        { farewellReleasing with
          workers := [⟨hello, .running⟩, ⟨farewell, .leaving⟩], tokens := 1 } := by
  obtain ⟨-, bounded, -, -, release⟩ := parallelism_bounded farewellReleasing_reachable
  exact ⟨rfl, bounded, release 1 farewell rfl⟩

/-- The scripts are run and reported in another order than they were fetched in. -/
theorem executed_once_two :
    bothReturned.fetched = [hello, farewell] ∧
      bothReturned.reported.map RunReport.script = [farewell, hello] ∧
      bothReturned.ran.Perm bothReturned.fetched ∧
      (bothReturned.reported.map RunReport.script).Perm bothReturned.fetched := by
  obtain ⟨ran, reported, -⟩ := executed_once bothReturned_reachable rfl
  exact ⟨rfl, rfl, ran, reported nofun⟩

end Dispatch

end Scrc
