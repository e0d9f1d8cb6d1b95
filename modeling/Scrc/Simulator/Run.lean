import Mathlib.Algebra.Order.Field.Basic
import Mathlib.Algebra.Order.Field.Rat
import Mathlib.Tactic.Linarith
import Scrc.Simulator.Producer
import Scrc.Simulator.ResultLog

/-!
# The run of the simulator

`run` of `simulator/main.py`, behind its arguments: it connects to the broker, starts the thread of
the consumer, publishes the submissions, waits until the consumer has counted what is expected, and
compares the counters.

* `connect`: the loop of `create_consumer` and `create_producer`.  It makes at most eleven attempts.
* `observing`: what `run` may count on: the stop event stays set, and time passes.
* `exec_run`: what a run that ends with a report has published, and seen of the consumer.

A loop that goes by the clock is given a number of rounds that it may make at most.
-/

namespace Scrc

open Interaction

/-! ## Counters with their keys -/

/-- A `collections.Counter` whose counts are positive: its keys in the order in which they were
inserted, and the counts. -/
structure Tally where
  keys : List String
  count : Counter
  mem_keys : ∀ key, key ∈ keys ↔ 0 < count key

namespace Tally

def empty : Tally where
  keys := []
  count _ := 0
  mem_keys _ := ⟨nofun, fun absurd => (Nat.lt_irrefl 0 absurd).elim⟩

/-- `counts[key] = n` -/
def set (counts : Tally) (key : String) (n : Nat) (positive : 0 < n) : Tally where
  keys := if key ∈ counts.keys then counts.keys else counts.keys ++ [key]
  count := Function.update counts.count key n
  mem_keys other := by
    have old := counts.mem_keys other
    by_cases same : other = key
    · subst same
      rw [Function.update_self]
      by_cases inside : other ∈ counts.keys
      · simp only [inside, ↓reduceIte, positive]
      · simp only [inside, ↓reduceIte, List.mem_append, List.mem_singleton, or_true, positive]
    · rw [Function.update_of_ne same]
      by_cases inside : key ∈ counts.keys
      · simp only [inside, ↓reduceIte, old]
      · simp only [inside, ↓reduceIte, List.mem_append, List.mem_singleton, same, or_false, old]

/-- `counts[key] += 1` -/
def add (counts : Tally) (key : String) : Tally :=
  counts.set key (counts.count key + 1) (Nat.succ_pos _)

@[simp] theorem count_add (counts : Tally) (key : String) :
    (counts.add key).count = counts.count.add key := rfl

@[simp] theorem count_set (counts : Tally) (key : String) (n : Nat) (positive : 0 < n) :
    (counts.set key n positive).count = Function.update counts.count key n := rfl

end Tally

/-- `expected_counts_from_scenarios`, with the keys of the counter. -/
def expectedTally (scenarios : List ScriptScenario) (iterations : Int) : Tally :=
  if finite : 0 < iterations then
    scenarios.foldl (fun counts s => counts.set s.type iterations.toNat (by omega)) .empty
  else .empty

theorem count_expectedTally (scenarios : List ScriptScenario) (iterations : Int) :
    (expectedTally scenarios iterations).count =
      expectedCountsFromScenarios scenarios iterations := by
  unfold expectedTally expectedCountsFromScenarios
  by_cases finite : 0 < iterations
  · rw [dif_pos finite, if_neg (by omega)]
    have fold : ∀ counts : Tally,
        (scenarios.foldl (fun counts s => counts.set s.type iterations.toNat (by omega))
          counts).count = scenarios.foldl
            (fun counts s => Function.update counts s.type iterations.toNat) counts.count := by
      induction scenarios with
      | nil => exact fun _ => rfl
      | cons s scenarios ih => exact fun counts => ih (counts.set s.type _ _)
    exact fold .empty
  · rw [dif_neg finite, if_pos (by omega)]
    rfl

/-! ## The calls -/

/-- What is created from the address of the broker. -/
inductive Client where
  | consumer
  | producer
  deriving DecidableEq

/-- How a constructor of `kafka` ends; an exception is its text. -/
inductive Connection where
  | connected
  /-- `NoBrokersAvailable` -/
  | noBrokers
  | raised (err : String)

/-- The calls of the main thread besides those of the producer. -/
inductive MainCall where
  /-- `KafkaConsumer(...)` or `KafkaProducer(...)` -/
  | connect (client : Client)
  /-- `consumer_thread.start()` -/
  | start
  /-- `stop_event.set()` -/
  | set
  /-- `service.snapshot_counters()` -/
  | snapshot
  /-- `len(consumer_errors)` -/
  | errors
  /-- `time.time()` -/
  | time
  /-- `time.sleep(seconds)` -/
  | sleep (seconds : Rat)
  /-- `consumer_thread.join(timeout=seconds)` -/
  | join (seconds : Rat)
  /-- `consumer_service.close()` -/
  | close

@[reducible]
def MainReply : MainCall → Type
  | .connect _ => Connection
  | .start => Unit
  | .set => Unit
  | .snapshot => Tally
  | .errors => Nat
  | .time => Rat
  | .sleep _ => Unit
  | .join _ => Unit
  | .close => Unit

abbrev Main : Interface := ⟨MainCall, MainReply⟩

/-- The calls of the main thread. -/
abbrev Simulator : Interface := Producer.plus Main

abbrev askMain (c : MainCall) : Proc Simulator (MainReply c) :=
  Proc.ask (I := Simulator) (.inr c)

/-- How often the loops may go round. -/
structure Bounds where
  attempts : Nat
  passes : Nat
  checks : Nat

/-! ## Connecting -/

/-- How `create_consumer` or `create_producer` ends; the last case is that of attempts that were not
allowed for. -/
inductive Created where
  | created
  /-- the exception about 60 seconds -/
  | timedOut
  | raised (err : String)
  | outOfAttempts
  deriving DecidableEq

/-- The loop of `create_consumer` and `create_producer`. -/
def connectLoop (client : Client) (deadline : Rat) : Nat → Rat → Proc Simulator Created
  | 0, _ => return .outOfAttempts
  | allowed + 1, backoff => do
      match ← askMain (.connect client) with
      | .connected => return .created
      | .raised err => return .raised err
      | .noBrokers =>
          if deadline ≤ (← askMain .time) then
            return .timedOut
          askMain (.sleep backoff)
          connectLoop client deadline allowed (min (backoff * (3 / 2)) 10)

/-- `create_consumer` or `create_producer`. -/
def connect (client : Client) (attempts : Nat) : Proc Simulator Created := do
  let now ← askMain .time
  connectLoop client (now + 60) attempts 1

/-! ## Waiting -/

/-- The loop of `wait_for_counts`, which says whether the counts were reached; there is no answer
when it needs more checks than were allowed for. -/
def waitLoop (expected : Tally) (deadline : Rat) : Nat → Proc Simulator (Option Bool)
  | 0 => return none
  | allowed + 1 => do
      let snapshot ← askMain .snapshot
      if expected.keys.all fun key => expected.count key ≤ snapshot.count key then
        return some true
      let now ← askMain .time
      if deadline ≤ now then
        return some false
      askMain (.sleep (min (1 / 2) (max (1 / 20) (deadline - now))))
      waitLoop expected deadline allowed

def waitForCounts (expected : Tally) (timeout : Rat) (checks : Nat) :
    Proc Simulator (Option Bool) := do
  if expected.keys.isEmpty then
    return some true
  let now ← askMain .time
  waitLoop expected (now + timeout) checks

/-! ## The run -/

/-- What the exit code is made of. -/
structure SimulatorReport where
  expected : Tally
  produced : Counter
  consumed : Tally
  /-- `len(consumer_errors)` -/
  errors : Nat
  allConsumed : Bool

/-- The types with other counts than expected: what is expected, produced and consumed. -/
def SimulatorReport.mismatches (report : SimulatorReport) : List (String × Nat × Nat × Nat) :=
  (report.expected.keys.filter fun type =>
      report.produced type ≠ report.expected.count type ||
        report.consumed.count type ≠ report.expected.count type).map fun type =>
    (type, report.expected.count type, report.produced type, report.consumed.count type)

/-- The types that were not expected, with their counts. -/
def SimulatorReport.unexpectedConsumed (report : SimulatorReport) : List (String × Nat) :=
  (report.consumed.keys.filter fun type => type ∉ report.expected.keys).map fun type =>
    (type, report.consumed.count type)

def SimulatorReport.exitCode (report : SimulatorReport) : Nat :=
  if report.errors ≠ 0 ∨ report.mismatches ≠ [] ∨ report.unexpectedConsumed ≠ [] ∨
      report.allConsumed = false then 1
  else 0

/-- How `run` ends. -/
inductive RunEnd where
  /-- An exception of `create_consumer` other than `ResultConsumerError`. -/
  | raised (err : String)
  /-- `return 1` without a consumer -/
  | noConsumer
  | ended (report : SimulatorReport)
  | outOfBounds

/-- The exit code of the process; an exception makes it 1. -/
def RunEnd.exitCode : RunEnd → Option Nat
  | .raised _ => some 1
  | .noConsumer => some 1
  | .ended report => some report.exitCode
  | .outOfBounds => none

/-- The arguments, with the defaults of the environment. -/
structure SimulatorArgs where
  scriptTopic : String
  interval : Rat
  iterations : Int
  waitTimeout : Rat

/-- `ScriptProducerService(...)` -/
def SimulatorArgs.producer (args : SimulatorArgs) (scenarios : List ScriptScenario) :
    ScriptProducerService :=
  newScriptProducerService args.scriptTopic args.interval
    (if args.iterations ≤ 0 then none else some args.iterations) (some scenarios) scenarios

namespace Simulator

/-- `producer_service.run(stop_event)`, with the counters that it leaves. -/
def produce (service : ScriptProducerService) (bounds : Bounds) :
    Proc Simulator (StreamEnd × Counter) := do
  match ← connect .producer bounds.attempts with
  | .created => (service.run true bounds.passes).inl
  | .timedOut =>
      return (.raised "failed to connect to Kafka broker within 60 seconds", service.counters)
  | .raised err => return (.raised err, service.counters)
  | .outOfAttempts => return (.outOfPasses, service.counters)

/-- The stop event ends the wait before it begins. -/
def awaitConsumer (expected : Tally) (timeout : Rat) (checks : Nat) :
    Proc Simulator (Option Bool) := do
  if ← (askProducer .isSet).inl then
    return some false
  else
    waitForCounts expected timeout checks

/-- The end of `run`. -/
def conclude (expected : Tally) (produced : Counter) (allConsumed : Bool) :
    Proc Simulator RunEnd := do
  askMain .set
  askMain (.join 5)
  askMain .close
  let consumed ← askMain .snapshot
  let errors ← askMain .errors
  return .ended ⟨expected, produced, consumed, errors, allConsumed⟩

/-- `run` from the check of the stop event on, with what the producer has counted. -/
def finish (expected : Tally) (timeout : Rat) (checks : Nat) (produced : Counter) :
    Proc Simulator RunEnd := do
  match ← awaitConsumer expected timeout checks with
  | none => return .outOfBounds
  | some allConsumed => conclude expected produced allConsumed

/-- `run`, once the thread of the consumer has been started; an exception of the producer, and a
`KeyboardInterrupt`, sets the stop event. -/
def runStarted (args : SimulatorArgs) (scenarios : List ScriptScenario) (bounds : Bounds) :
    Proc Simulator RunEnd := do
  let expected := expectedTally scenarios args.iterations
  match ← produce (args.producer scenarios) bounds with
  | (.outOfPasses, _) => return .outOfBounds
  | (.ended, produced) => finish expected args.waitTimeout bounds.checks produced
  | (.raised _, produced) =>
      askMain .set
      finish expected args.waitTimeout bounds.checks produced

def run (args : SimulatorArgs) (scenarios : List ScriptScenario) (bounds : Bounds) :
    Proc Simulator RunEnd := do
  match ← connect .consumer bounds.attempts with
  | .raised err => return .raised err
  | .timedOut => return .noConsumer
  | .outOfAttempts => return .outOfBounds
  | .created =>
      askMain .start
      runStarted args scenarios bounds

end Simulator

/-! ## What the run may count on -/

/-- What the main thread has seen: whether the stop event is set, whether a message was not
acknowledged, a time that has passed, and the counters of the consumer. -/
structure Sight where
  stopped : Bool
  failed : Bool
  now : Rat
  read : Counter

/-- The stop event stays set, and neither time nor the counters run backwards. -/
def sightAllows (w : Sight) : (c : Simulator.Call) → Simulator.Reply c → Prop
  | .inl .isSet, set => w.stopped = true → set = true
  | .inl (.wait _), set => w.stopped = true → set = true
  | .inr .time, now => w.now ≤ now
  | .inr .snapshot, counters => ∀ type, w.read type ≤ counters.count type
  | _, _ => True

def Sight.next (w : Sight) : (c : Simulator.Call) → Simulator.Reply c → Sight
  | .inl .isSet, set => { w with stopped := w.stopped || set }
  | .inl (.wait _), set => { w with stopped := w.stopped || set }
  | .inl (.sleep seconds), _ => { w with now := w.now + seconds }
  | .inl (.send _ _ _), .error _ => { w with failed := true }
  | .inr .set, _ => { w with stopped := true }
  | .inr .time, now => { w with now := now }
  | .inr (.sleep seconds), _ => { w with now := w.now + seconds }
  | .inr .snapshot, counters => { w with read := counters.count }
  | _, _ => w

def observing : Contract Simulator Sight where
  obliges _ _ := True
  allows := sightAllows
  next := Sight.next

section Producer

variable {w w' : Sight} {t : List (Event Producer)} {service : ScriptProducerService}
  {old : Counter}

/-- A call that leaves the stop event unset, and all messages acknowledged. -/
theorem smooth_of_next {c : ProducerCall} {r : ProducerReply c}
    (unset : (w.next (.inl c) r).stopped = false) (kept : (w.next (.inl c) r).failed = false) :
    Smooth ⟨c, r⟩ ∧ w.stopped = false ∧ w.failed = false := by
  cases c with
  | isSet => exact ⟨(Bool.or_eq_false_iff.mp unset).2, (Bool.or_eq_false_iff.mp unset).1, kept⟩
  | wait seconds =>
      exact ⟨(Bool.or_eq_false_iff.mp unset).2, (Bool.or_eq_false_iff.mp unset).1, kept⟩
  | sleep seconds => exact ⟨trivial, unset, kept⟩
  | send topic key value =>
      cases r with
      | error err => cases kept
      | ok _ => exact ⟨rfl, unset, kept⟩
  | flush => exact ⟨trivial, unset, kept⟩
  | close => exact ⟨trivial, unset, kept⟩

theorem smooth_of_after (unset : (observing.left.after w t).stopped = false)
    (kept : (observing.left.after w t).failed = false) : ∀ e ∈ t, Smooth e := by
  have all : (∀ e ∈ t, Smooth e) ∧ w.stopped = false ∧ w.failed = false := by
    induction t generalizing w with
    | nil => exact ⟨nofun, unset, kept⟩
    | cons e t ih =>
        obtain ⟨later, unset, kept⟩ := ih unset kept
        obtain ⟨now, unset, kept⟩ := smooth_of_next unset kept
        exact ⟨List.forall_mem_cons.mpr ⟨now, later⟩, unset, kept⟩
  exact all.1

theorem meets_stopRequested :
    (stopRequested true).Meets observing.left w fun stop w' =>
      w'.failed = w.failed ∧ (stop = true → w'.stopped = true) :=
  ⟨trivial, fun _ _ => ⟨rfl, fun raised => Bool.or_eq_true_iff.mpr (Or.inr raised)⟩⟩

theorem meets_pause (interval : Rat) :
    (pause true interval).Meets observing.left w fun stop w' =>
      w'.failed = w.failed ∧ (stop = true → w'.stopped = true) := by
  unfold pause
  split
  · exact ⟨rfl, nofun⟩
  · exact ⟨trivial, fun _ _ => ⟨rfl, fun raised => Bool.or_eq_true_iff.mpr (Or.inr raised)⟩⟩

theorem meets_publish (b : Submission) :
    (service.publish old b).Meets observing.left w fun r w' =>
      ∀ new, r = .ok new → w'.failed = w.failed := by
  refine ⟨trivial, fun acknowledged _ => ?_⟩
  cases acknowledged with
  | error err => exact nofun
  | ok _ => exact fun _ _ => rfl

/-- A pass that no exception ends. -/
theorem meets_streamPass (iteration : Nat) (scenarios : List ScriptScenario) :
    (streamPass service.publish true iteration scenarios old).Meets observing.left w fun r w' =>
      (r.1 = .passed ∨ r.1 = .stopped → w'.failed = w.failed) ∧
        (r.1 = .stopped → w'.stopped = true) := by
  induction scenarios generalizing old w with
  | nil => exact ⟨fun _ => rfl, fun stopped => by cases stopped⟩
  | cons scenario scenarios ih =>
      unfold streamPass
      apply meets_stopRequested.bind
      rintro stop w₁ ⟨kept, raised⟩
      cases stop with
      | true => exact ⟨fun _ => kept, fun _ => raised rfl⟩
      | false =>
          apply (meets_publish _).bind
          intro r w₂ acknowledged
          cases r with
          | error err =>
              refine ⟨fun passed => ?_, fun stopped => by cases stopped⟩
              rcases passed with absurd | absurd
              · cases absurd
              · cases absurd
          | ok mid =>
              refine ih.mono fun r w₃ rest => ⟨fun passed => ?_, rest.2⟩
              rw [rest.1 passed, acknowledged mid rfl, kept]

/-- The generator ends without an exception: every message is acknowledged, and without a number of
iterations it is the stop event that ends it. -/
theorem meets_streamScripts (scenarios : List ScriptScenario) (interval : Rat)
    (maxIterations : Option Int) (allowed iteration : Nat) :
    (streamScripts service.publish true scenarios interval maxIterations allowed iteration
      old).Meets observing.left w fun r w' =>
        r.1 = .ended → w'.failed = w.failed ∧ (maxIterations = none → w'.stopped = true) := by
  induction allowed generalizing iteration old w with
  | zero =>
      intro ended
      cases ended
  | succ allowed ih =>
      unfold streamScripts
      apply (meets_streamPass iteration scenarios).bind
      rintro ⟨passEnd, mid⟩ w₁ ⟨kept, raised⟩
      cases passEnd with
      | stopped => exact fun _ => ⟨kept (Or.inr rfl), fun _ => raised rfl⟩
      | raised err =>
          intro ended
          cases ended
      | passed =>
          have kept := kept (Or.inl rfl)
          by_cases last : exhausted maxIterations (iteration + 1) = true
          · simp only [last, ↓reduceIte]
            refine fun _ => ⟨kept, fun unbounded => ?_⟩
            rw [unbounded] at last
            cases last
          · simp only [last, Bool.false_eq_true, ↓reduceIte]
            apply (meets_pause interval).bind
            rintro stop w₂ ⟨kept', raised⟩
            cases stop with
            | true => exact fun _ => ⟨kept'.trans kept, fun _ => raised rfl⟩
            | false =>
                refine (ih (iteration + 1)).mono fun r w₃ rest ended => ?_
                obtain ⟨same, unbounded⟩ := rest ended
                exact ⟨same.trans (kept'.trans kept), unbounded⟩

theorem meets_run (allowed : Nat) :
    (service.run true allowed).Meets observing.left w fun r w' =>
      r.1 = .ended → w'.failed = w.failed ∧ (service.maxIterations = none → w'.stopped = true) :=
  (meets_streamScripts _ _ _ allowed 1).deferring fun _ _ mid =>
    ⟨trivial, fun _ _ => ⟨trivial, fun _ _ => mid⟩⟩

end Producer

section Loops

variable {w : Sight}

/-- How long so many pauses of `connectLoop` are, from this one on. -/
def slept : Nat → Rat → Rat
  | 0, _ => 0
  | n + 1, backoff => backoff + slept n (min (backoff * (3 / 2)) 10)

theorem meets_time : (askMain .time).Meets observing w fun now w' =>
    w.now ≤ now ∧ w' = { w with now := now } :=
  ⟨trivial, fun _ later => ⟨later, rfl⟩⟩

theorem meets_sleep (seconds : Rat) : (askMain (.sleep seconds)).Meets observing w fun _ w' =>
    w' = { w with now := w.now + seconds } :=
  ⟨trivial, fun _ _ => rfl⟩

theorem meets_snapshot : (askMain .snapshot).Meets observing w fun counters w' =>
    w' = { w with read := counters.count } :=
  ⟨trivial, fun _ _ => rfl⟩

/-- The attempts are enough when their pauses reach the deadline. -/
theorem meets_connectLoop (client : Client) (deadline : Rat) {n allowed : Nat} (enough : n < allowed)
    {backoff : Rat} (reached : deadline ≤ w.now + slept n backoff) :
    (connectLoop client deadline allowed backoff).Meets observing w fun r w' =>
      r ≠ .outOfAttempts ∧ w'.stopped = w.stopped ∧ w'.failed = w.failed := by
  induction allowed generalizing n backoff w with
  | zero => exact absurd enough (Nat.not_lt_zero n)
  | succ allowed ih =>
      refine ⟨trivial, fun connection _ => ?_⟩
      cases connection with
      | connected => exact ⟨nofun, rfl, rfl⟩
      | raised err => exact ⟨nofun, rfl, rfl⟩
      | noBrokers =>
          apply meets_time.bind
          rintro now _ ⟨later, rfl⟩
          have later : w.now ≤ now := later
          by_cases late : deadline ≤ now
          · rw [if_pos late]
            exact ⟨nofun, rfl, rfl⟩
          · rw [if_neg late]
            apply (meets_sleep backoff).bind
            rintro _ _ rfl
            cases n with
            | zero =>
                unfold slept at reached
                exact absurd (by linarith) late
            | succ n =>
                refine ih (n := n) (by omega) ?_
                unfold slept at reached
                simp only
                linarith

/-- **Connecting.**  It is over after eleven attempts at most: their pauses are longer than 60
seconds. -/
theorem meets_connect (client : Client) {attempts : Nat} (enough : 11 ≤ attempts) :
    (connect client attempts).Meets observing w fun r w' =>
      r ≠ .outOfAttempts ∧ w'.stopped = w.stopped ∧ w'.failed = w.failed := by
  apply meets_time.bind
  rintro now _ ⟨-, rfl⟩
  have minute : (60 : Rat) ≤ slept 10 1 := by decide +kernel
  refine meets_connectLoop (w := { w with now := now }) client (now + 60) (n := 10) (by omega) ?_
  simp only
  linarith

/-- No count is behind the expected one. -/
def Covers (read : Counter) (expected : Tally) : Prop := ∀ type, expected.count type ≤ read type

theorem covers_of_keys {read : Counter} {expected : Tally}
    (all : ∀ key ∈ expected.keys, expected.count key ≤ read key) : Covers read expected := by
  intro type
  by_cases inside : type ∈ expected.keys
  · exact all type inside
  · rw [expected.mem_keys] at inside
    omega

/-- The checks are enough when their pauses, of a twentieth of a second at least, reach the
deadline. -/
theorem meets_waitLoop (expected : Tally) (deadline : Rat) {n allowed : Nat} (enough : n < allowed)
    (reached : deadline ≤ w.now + n / 20) :
    (waitLoop expected deadline allowed).Meets observing w fun r w' =>
      r ≠ none ∧ (r = some true → Covers w'.read expected) := by
  induction allowed generalizing n w with
  | zero => exact absurd enough (Nat.not_lt_zero n)
  | succ allowed ih =>
      apply meets_snapshot.bind
      rintro snapshot _ rfl
      split
      case isTrue all =>
        refine ⟨nofun, fun _ => covers_of_keys fun key member => ?_⟩
        exact of_decide_eq_true (List.all_eq_true.mp all key member)
      case isFalse =>
        apply meets_time.bind
        rintro now w' ⟨later, moved⟩
        have later : w.now ≤ now := later
        by_cases late : deadline ≤ now
        · rw [if_pos late, moved]
          exact ⟨nofun, nofun⟩
        · rw [if_neg late]
          apply (meets_sleep _).bind
          rintro _ _ rfl
          have pause : (1 / 20 : Rat) ≤ min (1 / 2) (max (1 / 20) (deadline - now)) :=
            le_min (by norm_num) (le_max_left _ _)
          subst moved
          cases n with
          | zero =>
              rw [Nat.cast_zero] at reached
              exact absurd (by linarith) late
          | succ n =>
              refine ih (n := n) (by omega) ?_
              rw [Nat.cast_succ] at reached
              simp only
              linarith

/-- When the wait says that everything was consumed, the stop event was not set before it, and the
counters were seen to cover what is expected. -/
theorem meets_awaitConsumer (expected : Tally) (timeout : Rat) {n checks : Nat}
    (enough : n < checks) (reached : timeout ≤ n / 20) :
    (Simulator.awaitConsumer expected timeout checks).Meets observing w fun r w' =>
      r ≠ none ∧ (r = some true → w.stopped = false ∧ Covers w'.read expected) := by
  refine ⟨trivial, fun set latched => ?_⟩
  cases set with
  | true => exact ⟨nofun, nofun⟩
  | false =>
      have unset : w.stopped = false := Bool.eq_false_iff.mpr fun stopped => nomatch latched stopped
      show (waitForCounts expected timeout checks).Meets observing _ _
      unfold waitForCounts
      split
      case isTrue none =>
        refine ⟨nofun, fun _ => ⟨unset, covers_of_keys fun key member => ?_⟩⟩
        rw [List.isEmpty_iff.mp none] at member
        cases member
      case isFalse =>
        apply meets_time.bind
        rintro now _ ⟨-, rfl⟩
        refine (meets_waitLoop expected (now + timeout) enough ?_).mono
          fun _ _ waited => ⟨waited.1, fun all => ⟨unset, waited.2 all⟩⟩
        simp only
        linarith

end Loops

/-! ## The report -/

section Report

variable {t : List (Event Simulator)}

/-- The calls are those of the main thread alone. -/
abbrev OnlyMain {α : Type} (p : Proc Simulator α) : Prop :=
  p.Meets (Contract.calls fun c : ProducerCall ⊕ MainCall => c.isRight = true) () fun _ _ => True

/-- Nothing is published. -/
theorem left_of_onlyMain {α : Type} {p : Proc Simulator α} {a : α} (only : OnlyMain p)
    (run : Exec p t a) : t.filterMap Event.left? = [] := by
  induction run with
  | ret a => rfl
  | @call c k r t a rest ih =>
      cases c with
      | inl c => cases only.1
      | inr c => exact ih (only.2 r trivial)

theorem connect_onlyMain (client : Client) (attempts : Nat) : OnlyMain (connect client attempts) := by
  refine ⟨rfl, fun now _ => ?_⟩
  have loop : ∀ backoff, OnlyMain (connectLoop client (now + 60) attempts backoff) := by
    induction attempts with
    | zero => exact fun _ => trivial
    | succ attempts ih =>
        refine fun backoff => ⟨rfl, fun connection _ => ?_⟩
        cases connection with
        | connected => trivial
        | raised err => trivial
        | noBrokers =>
            refine ⟨rfl, fun time _ => ?_⟩
            show OnlyMain (if _ then _ else _)
            split
            · trivial
            · exact ⟨rfl, fun _ _ => ih _⟩
  exact loop 1

theorem waitForCounts_onlyMain (expected : Tally) (timeout : Rat) (checks : Nat) :
    OnlyMain (waitForCounts expected timeout checks) := by
  have loop : ∀ deadline, OnlyMain (waitLoop expected deadline checks) := by
    intro deadline
    induction checks with
    | zero => trivial
    | succ checks ih =>
        refine ⟨rfl, fun snapshot _ => ?_⟩
        show OnlyMain (if _ then _ else _)
        split
        · trivial
        · refine ⟨rfl, fun now _ => ?_⟩
          show OnlyMain (if _ then _ else _)
          split
          · trivial
          · exact ⟨rfl, fun _ _ => ih⟩
  unfold waitForCounts
  split
  · trivial
  · exact ⟨rfl, fun now _ => loop _⟩

/-- What the main thread has done with the producer. -/
def sent (t : List (Event Simulator)) : List (Event Producer) := t.filterMap Event.left?

theorem sent_append (t t' : List (Event Simulator)) : sent (t ++ t') = sent t ++ sent t' :=
  List.filterMap_append

theorem exec_awaitConsumer {expected : Tally} {timeout : Rat} {checks : Nat} {r : Option Bool}
    (run : Exec (Simulator.awaitConsumer expected timeout checks) t r) :
    published (sent t) = [] := by
  obtain ⟨set, t', rfl, rest⟩ := exec_call.mp run
  cases set with
  | true =>
      obtain ⟨rfl, -⟩ := exec_ret.mp rest
      rfl
  | false =>
      have quiet := left_of_onlyMain (waitForCounts_onlyMain expected timeout checks) rest
      exact congrArg (fun es => published (⟨.isSet, false⟩ :: es)) quiet

/-- The counters are read behind everything else. -/
theorem exec_conclude {expected : Tally} {produced : Counter} {allConsumed : Bool} {r : RunEnd}
    (run : Exec (Simulator.conclude expected produced allConsumed) t r) :
    ∃ consumed errors, r = .ended ⟨expected, produced, consumed, errors, allConsumed⟩ ∧
      t = [⟨.inr .set, ()⟩, ⟨.inr (.join 5), ()⟩, ⟨.inr .close, ()⟩, ⟨.inr .snapshot, consumed⟩,
        ⟨.inr .errors, errors⟩] := by
  obtain ⟨_, t₁, rfl, r₁⟩ := exec_call.mp run
  obtain ⟨_, t₂, rfl, r₂⟩ := exec_call.mp r₁
  obtain ⟨_, t₃, rfl, r₃⟩ := exec_call.mp r₂
  obtain ⟨consumed, t₄, rfl, r₄⟩ := exec_call.mp r₃
  obtain ⟨errors, t₅, rfl, r₅⟩ := exec_call.mp r₄
  obtain ⟨rfl, rfl⟩ := exec_ret.mp r₅
  exact ⟨consumed, errors, rfl, rfl⟩

/-- The loops may go round as often as they need to. -/
structure Bounds.Enough (bounds : Bounds) (args : SimulatorArgs) : Prop where
  attempts : 11 ≤ bounds.attempts
  passes : args.iterations.toNat ≤ bounds.passes
  checks : ∃ n : Nat, n < bounds.checks ∧ args.waitTimeout ≤ n / 20

variable {args : SimulatorArgs} {scenarios : List ScriptScenario} {bounds : Bounds} {w : Sight}

/-- What is due. -/
def SimulatorArgs.due (args : SimulatorArgs) (scenarios : List ScriptScenario) : List Submission :=
  passes scenarios 1 args.iterations.toNat

theorem SimulatorArgs.producer_scenarios (some_scenario : scenarios ≠ []) :
    (args.producer scenarios).scenarios = scenarios := by
  cases scenarios with
  | nil => exact absurd rfl some_scenario
  | cons s scenarios => rfl

/-- With as many iterations, the producer makes as many passes. -/
theorem SimulatorArgs.producer_bound (finite : 0 < args.iterations) :
    (args.producer scenarios).maxIterations =
      some ((args.iterations.toNat - 1 + 1 : Nat) : Int) := by
  show (if args.iterations ≤ 0 then none else some args.iterations) = _
  rw [if_neg (by omega)]
  congr 1
  omega

/-- The producer ends without an exception, and the stop event is not set: everything is published
and counted. -/
theorem exec_produce (some_scenario : scenarios ≠ [])
    (distinct : (scenarios.map ScriptScenario.type).Nodup) (enough : bounds.Enough args)
    {streamEnd : StreamEnd} {produced : Counter} (fresh : w.failed = false)
    (run : Exec (Simulator.produce (args.producer scenarios) bounds) t (streamEnd, produced))
    (allowed : observing.Allowed w t) :
    (0 < args.iterations → streamEnd ≠ .outOfPasses) ∧
    (streamEnd = .ended → (observing.after w t).stopped = false →
      0 < args.iterations ∧
      published (sent t) = (args.due scenarios).map (submissionMessage args.scriptTopic) ∧
      produced = expectedCountsFromScenarios scenarios args.iterations) := by
  obtain ⟨t₁, t₂, r, rfl, connecting, run⟩ := exec_bind.mp run
  obtain ⟨allowed₁, allowed₂⟩ := (observing.allowed_append).mp allowed
  obtain ⟨-, inAttempts, -, kept⟩ :=
    (meets_connect .producer enough.attempts).sound connecting allowed₁
  have quiet : sent t₁ = [] := left_of_onlyMain (connect_onlyMain _ _) connecting
  rw [Contract.after_append, sent_append, quiet, List.nil_append]
  generalize observing.after w t₁ = w₁ at allowed₂ kept
  cases r with
  | outOfAttempts => exact absurd rfl inAttempts
  | timedOut =>
      obtain ⟨-, same⟩ := exec_ret.mp run
      cases same
      exact ⟨fun _ => nofun, nofun⟩
  | raised err =>
      obtain ⟨-, same⟩ := exec_ret.mp run
      cases same
      exact ⟨fun _ => nofun, nofun⟩
  | created =>
      obtain ⟨t', own, rfl, left⟩ := exec_inl run
      rw [Contract.after_left, show sent _ = t' from left]
      have ends := ((meets_run bounds.passes).sound own (Contract.allowed_left.mp allowed₂)).2
      by_cases finite : 0 < args.iterations
      · have passes := enough.passes
        have made := Scrc.exec_run (args.producer_bound finite) (by omega) own
        rw [args.producer_scenarios some_scenario,
          show args.iterations.toNat - 1 + 1 = args.iterations.toNat by omega] at made
        rcases made with ⟨ended, all⟩ | ⟨inPasses, rough, -⟩
        · refine ⟨fun _ late => ?_, fun _ _ => ⟨finite, all.messages, ?_⟩⟩
          · exact nomatch ended.symm.trans late
          · have expected := addAll_passes distinct (args.iterations.toNat - 1)
            rw [show args.iterations.toNat - 1 + 1 = args.iterations.toNat by omega,
              Int.toNat_of_nonneg (by omega)] at expected
            exact all.counters.trans expected
        · refine ⟨fun _ => inPasses, fun ended unset => absurd ?_ rough⟩
          exact smooth_of_after unset ((ends ended).1.trans (kept.trans fresh))
      · refine ⟨fun positive => absurd positive finite, fun ended unset => ?_⟩
        have unbounded : (args.producer scenarios).maxIterations = none := if_pos (by omega)
        rw [(ends ended).2 unbounded] at unset
        cases unset

/-- What a run that ends with a report has seen and done. -/
structure Reported (args : SimulatorArgs) (scenarios : List ScriptScenario)
    (report : SimulatorReport) (t : List (Event Simulator)) : Prop where
  expected : report.expected = expectedTally scenarios args.iterations
  consumed : ⟨.inr .snapshot, report.consumed⟩ ∈ t
  errors : ⟨.inr .errors, report.errors⟩ ∈ t
  waited : report.allConsumed = true →
    0 < args.iterations ∧
    published (sent t) = (args.due scenarios).map (submissionMessage args.scriptTopic) ∧
    report.produced = expectedCountsFromScenarios scenarios args.iterations ∧
    Covers report.consumed.count report.expected

/-- The end of the run, behind the producer. -/
theorem exec_finish {expected : Tally} {produced : Counter} {r : RunEnd} {k : Nat}
    (enough : k < bounds.checks) (reached : args.waitTimeout ≤ k / 20)
    (run : Exec (Simulator.finish expected args.waitTimeout bounds.checks produced) t r)
    (allowed : observing.Allowed w t) :
    published (sent t) = [] ∧ ∃ consumed errors allConsumed,
      r = .ended ⟨expected, produced, consumed, errors, allConsumed⟩ ∧
      ⟨.inr .snapshot, consumed⟩ ∈ t ∧ ⟨.inr .errors, errors⟩ ∈ t ∧
      (allConsumed = true → w.stopped = false ∧ Covers consumed.count expected) := by
  obtain ⟨t₁, t₂, waited, rfl, first, rest⟩ := exec_bind.mp run
  obtain ⟨allowed₁, allowed₂⟩ := (observing.allowed_append).mp allowed
  obtain ⟨-, inChecks, unset⟩ :=
    (meets_awaitConsumer expected args.waitTimeout enough reached).sound first allowed₁
  have quiet := exec_awaitConsumer first
  cases waited with
  | none => exact absurd rfl inChecks
  | some allConsumed =>
      obtain ⟨consumed, errors, rfl, rfl⟩ := exec_conclude rest
      have later : ∀ type, (observing.after w t₁).read type ≤ consumed.count type :=
        allowed₂.2.2.2.1
      refine ⟨?_, consumed, errors, allConsumed, rfl, ?_, ?_, fun all => ?_⟩
      · rw [sent_append, published_append, quiet]
        rfl
      · simp
      · simp
      · obtain ⟨unset, covered⟩ := unset (congrArg some all)
        exact ⟨unset, fun type => (covered type).trans (later type)⟩

/-- **The run.**  With a finite number of iterations the bounds are no matter, and a report says
what was seen. -/
theorem exec_simulator (some_scenario : scenarios ≠ [])
    (distinct : (scenarios.map ScriptScenario.type).Nodup) (enough : bounds.Enough args)
    {r : RunEnd} (fresh : w.failed = false)
    (run : Exec (Simulator.run args scenarios bounds) t r) (allowed : observing.Allowed w t) :
    (0 < args.iterations → r ≠ .outOfBounds) ∧
      ∀ report, r = .ended report → Reported args scenarios report t := by
  obtain ⟨t₁, t₂, made, rfl, connecting, run⟩ := exec_bind.mp run
  obtain ⟨allowed₁, allowed₂⟩ := (observing.allowed_append).mp allowed
  obtain ⟨-, inAttempts, -, kept⟩ :=
    (meets_connect .consumer enough.attempts).sound connecting allowed₁
  have quiet : sent t₁ = [] := left_of_onlyMain (connect_onlyMain _ _) connecting
  generalize observing.after w t₁ = w₁ at allowed₂ kept
  have fresh := kept.trans fresh
  cases made with
  | outOfAttempts => exact absurd rfl inAttempts
  | timedOut =>
      obtain ⟨-, rfl⟩ := exec_ret.mp run
      exact ⟨fun _ => nofun, nofun⟩
  | raised err =>
      obtain ⟨-, rfl⟩ := exec_ret.mp run
      exact ⟨fun _ => nofun, nofun⟩
  | created =>
      obtain ⟨_, t₃, rfl, rest⟩ := exec_call.mp run
      have started : Exec (Simulator.runStarted args scenarios bounds) t₃ r := rest
      obtain ⟨t₄, t₅, ⟨streamEnd, produced⟩, rfl, producing, rest⟩ := exec_bind.mp started
      have allowed₃ : observing.Allowed w₁ (t₄ ++ t₅) := allowed₂.2
      obtain ⟨allowed₄, allowed₅⟩ := (observing.allowed_append).mp allowed₃
      obtain ⟨inPasses, complete⟩ :=
        exec_produce some_scenario distinct enough fresh producing allowed₄
      obtain ⟨k, more, reached⟩ := enough.checks
      cases streamEnd with
      | outOfPasses =>
          refine ⟨fun finite => absurd rfl (inPasses finite), ?_⟩
          obtain ⟨-, rfl⟩ := exec_ret.mp rest
          exact nofun
      | ended =>
          obtain ⟨still, consumed, errors, allConsumed, rfl, read, counted, unset⟩ :=
            exec_finish more reached rest allowed₅
          refine ⟨fun _ => nofun, fun report same => ?_⟩
          cases same
          refine ⟨rfl, ?_, ?_, fun all => ?_⟩
          · exact List.mem_append_right _ (.tail _ (List.mem_append_right _ read))
          · exact List.mem_append_right _ (.tail _ (List.mem_append_right _ counted))
          · obtain ⟨unset, covered⟩ := unset all
            obtain ⟨finite, messages, counts⟩ := complete rfl unset
            refine ⟨finite, ?_, counts, covered⟩
            rw [sent_append, quiet, List.nil_append]
            show published (sent (t₄ ++ t₅)) = _
            rw [sent_append, published_append, messages, still, List.append_nil]
      | raised err =>
          obtain ⟨_, t₆, rfl, last⟩ := exec_call.mp rest
          obtain ⟨-, consumed, errors, allConsumed, rfl, read, counted, unset⟩ :=
            exec_finish more reached last allowed₅.2
          refine ⟨fun _ => nofun, fun report same => ?_⟩
          cases same
          refine ⟨rfl, ?_, ?_, fun all => ?_⟩
          · exact List.mem_append_right _ (.tail _ (List.mem_append_right _ (.tail _ read)))
          · exact List.mem_append_right _ (.tail _ (List.mem_append_right _ (.tail _ counted)))
          · exact nomatch (unset all).1

theorem SimulatorReport.exitCode_zero {report : SimulatorReport} :
    report.exitCode = 0 ↔ report.errors = 0 ∧ report.mismatches = [] ∧
      report.unexpectedConsumed = [] ∧ report.allConsumed = true := by
  unfold SimulatorReport.exitCode
  split
  case isTrue wrong =>
    refine ⟨nofun, fun ⟨errors, same, known, all⟩ => ?_⟩
    rcases wrong with h | h | h | h
    · exact absurd errors h
    · exact absurd same h
    · exact absurd known h
    · rw [all] at h
      cases h
  case isFalse right =>
    simp only [not_or, not_not, Bool.not_eq_false] at right
    exact ⟨fun _ => right, fun _ => rfl⟩

/-- **The exit code.**  It is zero when the wait was for all that is expected, the thread of the
consumer has not failed, and exactly what is expected was consumed. -/
theorem Reported.exitCode_zero {report : SimulatorReport}
    (reported : Reported args scenarios report t) :
    report.exitCode = 0 ↔ report.allConsumed = true ∧ report.errors = 0 ∧
      report.consumed.count = expectedCountsFromScenarios scenarios args.iterations := by
  have counts := count_expectedTally scenarios args.iterations
  rw [← reported.expected] at counts
  rw [SimulatorReport.exitCode_zero, ← counts]
  unfold SimulatorReport.mismatches SimulatorReport.unexpectedConsumed
  rw [List.map_eq_nil_iff, List.map_eq_nil_iff, List.filter_eq_nil_iff, List.filter_eq_nil_iff]
  constructor
  · rintro ⟨errors, same, known, all⟩
    refine ⟨all, errors, funext fun type => ?_⟩
    by_cases inside : type ∈ report.expected.keys
    · have own := same type inside
      simp only [Bool.or_eq_true, decide_eq_true_eq, not_or, not_not] at own
      exact own.2
    · have outside : type ∉ report.consumed.keys := fun member => by
        simpa [inside] using known type member
      rw [report.expected.mem_keys] at inside
      rw [report.consumed.mem_keys] at outside
      omega
  · rintro ⟨all, errors, same⟩
    obtain ⟨-, -, produced, -⟩ := reported.waited all
    refine ⟨errors, fun type _ => ?_, fun type member => ?_, all⟩
    · simp only [produced, ← counts, same, ne_eq, not_true_eq_false, decide_false, Bool.or_self,
        Bool.false_eq_true, not_false_eq_true]
    · rw [report.consumed.mem_keys, same, ← report.expected.mem_keys] at member
      simp only [member, not_true_eq_false, decide_false, Bool.false_eq_true, not_false_eq_true]

end Report

end Scrc
