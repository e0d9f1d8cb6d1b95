import Mathlib.Tactic.Positivity
import Mathlib.Tactic.GCongr
import Scrc.Simulator.Load

/-!
# A run of the benchmark

One run of `benchmarks/main.py`: the main thread starts the collector, generates load, sets the
window, waits, stops the collector and builds the table, while the thread of the collector handles
results.  The steps of the two interleave.

* `measure`: the main thread.
* `Measuring.Moves`: the steps of the thread of the collector.
* `BenchThreads.Inv`: what is left of the main thread meets its contract, and the collector is in a
  state that `Collecting` reaches.
* `measurement_rows`: what the table of a run has.
-/

namespace Scrc

open Interaction Transition

/-! ## The main thread -/

structure BenchmarkCase (α : Type) where
  name : String
  loadProfile : LoadProfile α
  durationSeconds : Nat
  warmupSeconds : Nat
  runnerParallelism : Int
  runnerReplicas : Nat := 1
  cooldownSeconds : Nat := 60
  numRuns : Nat := 3

/-- What a run leaves. -/
structure Measurement where
  stats : LoadStatistics
  benchmarkStartTs : Int
  benchmarkEndTs : Int
  df : List Row

/-- `completed_throughput` -/
def Measurement.completedThroughput (m : Measurement) : Rat :=
  if 0 < m.benchmarkEndTs - m.benchmarkStartTs ∧ 0 < m.df.length then
    perMinute m.df.length (m.benchmarkEndTs - m.benchmarkStartTs)
  else 0

/-- How a run ends; the last case is that of rounds that were not allowed for. -/
inductive MeasureEnd where
  | measured (m : Measurement)
  | raised (err : String)
  | outOfRounds

section Main

variable {α : Type} [PyFloat α]

/-- The loop of `wait_for_pending`, which says whether it has ended. -/
def waitForPending (deadline : Int) : Nat → Proc (Bench α) Bool
  | 0 => return false
  | allowed + 1 => do
      if deadline ≤ (← askBench .time) then
        return true
      if ← askBench .nothingPending then
        return true
      askBench (.sleep (nanosecondsPerSecond / 5))
      waitForPending deadline allowed

/-- `stop` of the collector. -/
def stopCollector : Proc (Bench α) Unit := do
  askBench .setStop
  let _ ← askBench (.join (5 * nanosecondsPerSecond))
  askBench .closeConsumer

/-- A run, from the end of the load on. -/
def concludeMeasurement (case : BenchmarkCase α) (checks : Nat) (benchmarkStartTs : Int)
    (stats : LoadStatistics) : Proc (Bench α) MeasureEnd := do
  let benchmarkEndTs ← askBench .time
  askBench (.setBenchmarkWindow benchmarkStartTs benchmarkEndTs)
  askBench (.sleep (case.cooldownSeconds * nanosecondsPerSecond))
  let now ← askBench .time
  if ← waitForPending (now + (case.cooldownSeconds + 30) * nanosecondsPerSecond) checks then
    stopCollector
    let df ← askBench (.buildDataframe true)
    return .measured ⟨stats, benchmarkStartTs, benchmarkEndTs, df⟩
  else
    return .outOfRounds

/-- A run; `built` is what `build_scenarios` returns. -/
def measure (scriptTopic : String) (case : BenchmarkCase α) (built : List ScriptScenario)
    (turns checks : Nat) : Proc (Bench α) MeasureEnd := do
  match ← askBench .createConsumer with
  | .error err => return .raised err
  | .ok _ =>
      askBench .startThread
      match newLoadGenerator scriptTopic case.loadProfile built with
      | .error err => return .raised err
      | .ok generator =>
          askBench (.sleep (case.warmupSeconds * nanosecondsPerSecond))
          let benchmarkStartTs ← askBench .time
          match ← generator.run (case.durationSeconds * nanosecondsPerSecond) turns with
          | .raised err => return .raised err
          | .outOfTurns => return .outOfRounds
          | .finished stats => concludeMeasurement case checks benchmarkStartTs stats

end Main

/-! ## The thread of the collector -/

/-- The fields of the collector that its lock protects, with the window. -/
structure WindowedCollector extends ResultCollector where
  window : Option (Int × Int) := none

/-- `build_dataframe` -/
def WindowedCollector.table (c : WindowedCollector) (filterWindow : Bool) : List Row :=
  c.completed.filter fun row => inWindow (if filterWindow then c.window else none) row.sentTs

/-- Where the thread is in `runner`. -/
inductive CollectorPc where
  | unstarted
  /-- at `_stop_event.is_set()` -/
  | checking
  | polling
  /-- These messages are next. -/
  | processing (messages : List CollectedResult)
  /-- The row of `_handle_result` is not appended yet. -/
  | appending (row : Row) (messages : List CollectedResult)
  | ended

/-- What the threads share, with the time and the records that were registered. -/
structure Measuring where
  collector : WindowedCollector := {}
  thread : CollectorPc := .unstarted
  stop : Bool := false
  clock : Int := 0
  registered : List SubmissionRecord := []

namespace Measuring

/-- The row that is made and not appended yet. -/
def handling (s : Measuring) : Option Row :=
  match s.thread with
  | .appending row _ => some row
  | _ => none

/-- A step of the thread of the collector, or of the time. -/
inductive Moves : Measuring → Measuring → Prop
  | stop {s : Measuring} (here : s.thread = .checking) (set : s.stop = true) :
      Moves s { s with thread := .ended }
  | proceed {s : Measuring} (here : s.thread = .checking) (unset : s.stop = false) :
      Moves s { s with thread := .polling }
  | poll {s : Measuring} (here : s.thread = .polling) (records : List (List CollectedResult)) :
      Moves s { s with thread := .processing records.flatten }
  /-- An exception of `poll` ends the thread. -/
  | raise {s : Measuring} (here : s.thread = .polling) : Moves s { s with thread := .ended }
  /-- A message that is no dictionary, or whose id cannot be a key, ends the thread behind the
  messages before it; those after it in the batch are lost. -/
  | abort {s : Measuring} (here : s.thread = .processing []) : Moves s { s with thread := .ended }
  | again {s : Measuring} (here : s.thread = .processing []) :
      Moves s { s with thread := .checking }
  /-- A message without an id. -/
  | skip {s : Measuring} {message : CollectedResult} {messages : List CollectedResult}
      (here : s.thread = .processing (message :: messages))
      (unnamed : message.scriptId = none ∨ message.scriptId = some "") :
      Moves s { s with thread := .processing messages }
  | unknown {s : Measuring} {message : CollectedResult} {messages : List CollectedResult}
      {scriptId : String} (here : s.thread = .processing (message :: messages))
      (named : message.scriptId = some scriptId) (nonempty : scriptId ≠ "")
      (absent : (s.collector.popPending scriptId).1 = none) :
      Moves s { s with thread := .processing messages }
  | pop {s : Measuring} {message : CollectedResult} {messages : List CollectedResult}
      {scriptId : String} {record : SubmissionRecord} {completedTs : Int}
      (here : s.thread = .processing (message :: messages))
      (named : message.scriptId = some scriptId) (nonempty : scriptId ≠ "")
      (found : (s.collector.popPending scriptId).1 = some record) (read : completedTs ≤ s.clock) :
      Moves s
        { s with
          collector := ⟨(s.collector.popPending scriptId).2, s.collector.window⟩
          thread := .appending (makeRow scriptId record message completedTs) messages }
  | append {s : Measuring} {row : Row} {messages : List CollectedResult}
      (here : s.thread = .appending row messages) :
      Moves s
        { s with
          collector := ⟨s.collector.appendCompleted row, s.collector.window⟩
          thread := .processing messages }
  | tick {s : Measuring} {clock : Int} (later : s.clock ≤ clock) : Moves s { s with clock := clock }

/-- The reply that the main thread gets to a call, and what it leaves. -/
inductive Answers {α : Type} (s : Measuring) :
    (c : BenchCall α) → BenchReply c → Measuring → Prop
  | createConsumer (r : Except String Unit) : Answers s .createConsumer r s
  | startThread (fresh : s.thread = .unstarted) :
      Answers s .startThread () { s with thread := .checking }
  | createProducer (r : Except String Unit) : Answers s .createProducer r s
  | time : Answers s .time s.clock s
  | sleep {nanoseconds clock : Int} (later : s.clock ≤ clock) :
      Answers s (.sleep nanoseconds) () { s with clock := clock }
  | random (u : α) : Answers s .random u s
  | isSet : Answers s .isSet false s
  | wait (remaining : α) : Answers s (.wait remaining) false s
  | register (record : SubmissionRecord) :
      Answers s (.register record) ()
        { s with
          collector := ⟨s.collector.registerSubmission record, s.collector.window⟩
          registered := s.registered ++ [record] }
  | send (topic key : String) (value : Json.Value) (r : Except String Unit) :
      Answers s (.send topic key value) r s
  | flush : Answers s .flush () s
  | closeProducer : Answers s .closeProducer () s
  | setBenchmarkWindow (startTs endTs : Int) :
      Answers s (.setBenchmarkWindow startTs endTs) ()
        { s with collector := ⟨s.collector.toResultCollector, some (startTs, endTs)⟩ }
  | nothingPending : Answers s .nothingPending s.collector.pending.isEmpty s
  | setStop : Answers s .setStop () { s with stop := true }
  | joined (nanoseconds : Int) (ended : s.thread = .ended) : Answers s (.join nanoseconds) true s
  | unjoined (nanoseconds : Int) : Answers s (.join nanoseconds) false s
  | closeConsumer : Answers s .closeConsumer () s
  | buildDataframe (filterWindow : Bool) :
      Answers s (.buildDataframe filterWindow) (s.collector.table filterWindow) s

end Measuring

/-- What is left of the main thread, what it has done, and what it shares. -/
structure BenchThreads (α : Type) where
  main : Proc (Bench α) MeasureEnd
  past : List (Event (Bench α)) := []
  shared : Measuring := {}

inductive BenchThreads.Step {α : Type} : BenchThreads α → BenchThreads α → Prop
  | main {c : BenchCall α} {k : BenchReply c → Proc (Bench α) MeasureEnd} {r : BenchReply c}
      {past : List (Event (Bench α))} {s s' : Measuring} (answered : s.Answers c r s') :
      Step ⟨.call c k, past, s⟩ ⟨k r, past ++ [⟨c, r⟩], s'⟩
  | collector {p : Proc (Bench α) MeasureEnd} {past : List (Event (Bench α))} {s s' : Measuring}
      (moved : s.Moves s') : Step ⟨p, past, s⟩ ⟨p, past, s'⟩

/-! ## The collector -/

namespace Measuring

variable {s s' : Measuring}

/-- Both threads of `Collecting`, whose main thread does nothing but register here. -/
def collecting (s : Measuring) : Collecting where
  collector := s.collector.toResultCollector
  handling := s.handling
  registered := s.registered.map SubmissionRecord.scriptId

/-- What holds of the collector, whatever the main thread does. -/
structure Sound (s : Measuring) : Prop where
  collecting : Reaches Collecting.AnyStep {} s.collecting
  pending : ∀ record ∈ s.collector.pending, record ∈ s.registered
  rows : ∀ row ∈ s.handling.toList ++ s.collector.completed,
    ∃ record ∈ s.registered, row.About record

/-- What a step of the other thread does to what the main thread has seen. -/
structure Frame (s s' : Measuring) : Prop where
  registered : s'.registered = s.registered
  window : s'.collector.window = s.collector.window
  clock : s.clock ≤ s'.clock
  emptied : s.collector.pending = [] → s'.collector.pending = []
  ended : s.thread = .ended → s'.thread = .ended

theorem Moves.frame (moved : s.Moves s') : s.Frame s' := by
  cases moved with
  | stop here set => exact ⟨rfl, rfl, le_refl _, id, fun _ => rfl⟩
  | raise here => exact ⟨rfl, rfl, le_refl _, id, fun _ => rfl⟩
  | abort here => exact ⟨rfl, rfl, le_refl _, id, fun _ => rfl⟩
  | tick later => exact ⟨rfl, rfl, later, id, id⟩
  | pop here named nonempty found read =>
      refine ⟨rfl, rfl, le_refl _, fun empty => ?_, fun ended => nomatch here.symm.trans ended⟩
      unfold ResultCollector.popPending at found
      rw [empty] at found
      cases found
  | proceed here _ => exact ⟨rfl, rfl, le_refl _, id, fun ended => nomatch here.symm.trans ended⟩
  | poll here _ => exact ⟨rfl, rfl, le_refl _, id, fun ended => nomatch here.symm.trans ended⟩
  | again here => exact ⟨rfl, rfl, le_refl _, id, fun ended => nomatch here.symm.trans ended⟩
  | skip here _ => exact ⟨rfl, rfl, le_refl _, id, fun ended => nomatch here.symm.trans ended⟩
  | unknown here _ _ _ =>
      exact ⟨rfl, rfl, le_refl _, id, fun ended => nomatch here.symm.trans ended⟩
  | append here => exact ⟨rfl, rfl, le_refl _, id, fun ended => nomatch here.symm.trans ended⟩

/-- The collector and the row at hand are what they were. -/
theorem Sound.same (sound : s.Sound) (collector : s'.collector.toResultCollector =
    s.collector.toResultCollector) (handling : s'.handling = s.handling)
    (registered : s'.registered = s.registered) : s'.Sound := by
  have collecting : s'.collecting = s.collecting := by
    unfold Measuring.collecting
    rw [collector, handling, registered]
  refine ⟨?_, ?_, ?_⟩
  · rw [collecting]
    exact sound.collecting
  · rw [collector, registered]
    exact sound.pending
  · rw [collector, handling, registered]
    exact sound.rows

/-- A thread that is neither before nor behind an append has no row at hand. -/
theorem handling_none {thread : CollectorPc} (here : s.thread = thread)
    (other : ∀ row messages, thread ≠ .appending row messages) : s.handling = none := by
  unfold handling
  rw [here]
  cases thread with
  | appending row messages => exact absurd rfl (other row messages)
  | _ => rfl

theorem Moves.sound (moved : s.Moves s') (sound : s.Sound) : s'.Sound := by
  cases moved with
  | stop here set => exact sound.same rfl (handling_none here nofun).symm rfl
  | proceed here unset => exact sound.same rfl (handling_none here nofun).symm rfl
  | poll here records => exact sound.same rfl (handling_none here nofun).symm rfl
  | raise here => exact sound.same rfl (handling_none here nofun).symm rfl
  | abort here => exact sound.same rfl (handling_none here nofun).symm rfl
  | again here => exact sound.same rfl (handling_none here nofun).symm rfl
  | skip here unnamed => exact sound.same rfl (handling_none here nofun).symm rfl
  | unknown here named nonempty absent =>
      exact sound.same rfl (handling_none here nofun).symm rfl
  | tick later => exact sound.same rfl rfl rfl
  | @pop message messages scriptId record completedTs here named nonempty found read =>
      obtain ⟨own, rest⟩ := ResultCollector.popPending_found found
      have idle := handling_none here nofun
      refine ⟨sound.collecting.tail ⟨_, .pop scriptId message completedTs idle found⟩,
        fun other member => ?_, fun row member => ?_⟩
      · exact sound.pending other (rest.mem_iff.mpr (List.mem_cons_of_mem _ member))
      · rcases List.mem_cons.mp member with rfl | completed
        · have known := sound.pending record (rest.mem_iff.mpr List.mem_cons_self)
          exact ⟨record, known, own.symm, rfl, rfl, rfl⟩
        · exact sound.rows row (List.mem_append_right _ completed)
  | @append row messages here =>
      have made : s.handling = some row := by
        unfold handling
        rw [here]
      refine ⟨sound.collecting.tail ⟨_, .append made⟩, sound.pending, fun other member => ?_⟩
      refine sound.rows other ?_
      rw [made]
      rcases List.mem_append.mp (show other ∈ s.collector.completed ++ [row] from member) with
        completed | new
      · exact List.mem_cons_of_mem _ completed
      · rw [List.mem_singleton.mp new]
        exact List.mem_cons_self

/-! ## The table -/

/-- What the main thread has seen is so. -/
structure Agrees (w : BenchSight) (s : Measuring) : Prop where
  now : w.now ≤ s.clock
  registered : w.registered = s.registered
  window : w.window = s.collector.window
  emptied : w.emptied = true → s.collector.pending = []
  joined : w.joined = true → s.thread = .ended

variable {w : BenchSight}

theorem Agrees.moves (agrees : Agrees w s) (moved : s.Moves s') : Agrees w s' := by
  have frame := moved.frame
  exact ⟨agrees.now.trans frame.clock, agrees.registered.trans frame.registered.symm,
    agrees.window.trans frame.window.symm, fun empty => frame.emptied (agrees.emptied empty),
    fun ended => frame.ended (agrees.joined ended)⟩

/-- All ids are completed once nothing is pending and the thread has ended. -/
theorem Sound.completed (sound : s.Sound) (empty : s.collector.pending = [])
    (ended : s.thread = .ended) :
    (s.collector.completed.map Row.scriptId).Perm
      (s.registered.map SubmissionRecord.scriptId) := by
  have completed := (Collecting.inv_of_reaches sound.collecting).completed empty
  have idle : s.collecting.handling = none := handling_none ended nofun
  rw [idle] at completed
  exact completed

/-- **The table.**  Its rows are those that the main thread may count on. -/
theorem Sound.tabulates (sound : s.Sound) (agrees : Agrees w s) (filterWindow : Bool) :
    Tabulates w (if filterWindow then w.window else none) (s.collector.table filterWindow) := by
  have inv := Collecting.inv_of_reaches sound.collecting
  have kept : (s.collector.table filterWindow).Sublist s.collector.completed :=
    List.filter_sublist
  rw [agrees.window]
  refine ⟨(kept.map Row.scriptId).nodup inv.accounted.once, fun row member => ?_,
    fun row member => (List.mem_filter.mp member).2, fun emptied joined record known inside => ?_⟩
  · rw [agrees.registered]
    exact sound.rows row (List.mem_append_right _ (kept.subset member))
  · rw [agrees.registered] at known
    -- the row of this id is about this record, so the filter keeps it
    have own : ∀ row ∈ s.collector.completed, row.scriptId = record.scriptId →
        row.sentTs = record.sentTs := by
      intro row member same
      obtain ⟨other, registered, about⟩ := sound.rows row (List.mem_append_right _ member)
      rw [List.inj_on_of_nodup_map inv.distinct registered known (about.scriptId.symm.trans same)]
        at about
      exact about.sentTs
    have once : s.collector.completed.countP (fun row => row.scriptId = record.scriptId) = 1 := by
      rw [Collecting.countP_scriptId,
        (sound.completed (agrees.emptied emptied) (agrees.joined joined)).count_eq]
      exact List.count_eq_one_of_mem inv.distinct (List.mem_map_of_mem known)
    unfold WindowedCollector.table
    rw [List.countP_filter, ← once]
    refine List.countP_congr fun row member => ?_
    simp only [Bool.and_eq_true, decide_eq_true_eq, and_iff_left_iff_imp]
    intro same
    rw [own row member same]
    exact inside

/-- A record with a new id is registered. -/
theorem Sound.register (sound : s.Sound) (record : SubmissionRecord)
    (fresh : record.scriptId ∉ s.registered.map SubmissionRecord.scriptId) :
    Sound { s with
      collector := ⟨s.collector.registerSubmission record, s.collector.window⟩
      registered := s.registered ++ [record] } := by
  have unknown : record.scriptId ∉ s.collector.pending.map SubmissionRecord.scriptId := by
    intro pending
    obtain ⟨other, member, same⟩ := List.mem_map.mp pending
    exact fresh (same ▸ List.mem_map_of_mem (sound.pending other member))
  refine ⟨?_, fun other member => ?_, fun row member => ?_⟩
  · have step := Collecting.Step.register (s := s.collecting) record rfl fresh
    have next := sound.collecting.tail ⟨_, step⟩
    unfold Measuring.collecting
    rw [List.map_append]
    exact next
  · rw [ResultCollector.registerSubmission_fresh unknown] at member
    rcases List.mem_append.mp member with old | new
    · exact List.mem_append_left _ (sound.pending other old)
    · exact List.mem_append_right _ new
  · rw [ResultCollector.registerSubmission_fresh unknown] at member
    obtain ⟨other, known, about⟩ := sound.rows row member
    exact ⟨other, List.mem_append_left _ known, about⟩

section Answers

variable {α : Type} {c : BenchCall α} {r : BenchReply c}

/-- The replies are those that `benching` allows. -/
theorem Answers.watched (answered : s.Answers c r s') (owed : benching.obliges w c)
    (agrees : Agrees w s) (sound : s.Sound) :
    benching.allows w c r ∧ Agrees (benching.next w c r) s' ∧ s'.Sound := by
  cases answered with
  | createConsumer r => exact ⟨trivial, agrees, sound⟩
  | startThread fresh =>
      refine ⟨trivial, ⟨agrees.now, agrees.registered, agrees.window, agrees.emptied,
        fun joined => ?_⟩, sound.same rfl (handling_none fresh nofun).symm rfl⟩
      exact nomatch fresh.symm.trans (agrees.joined joined)
  | createProducer r => exact ⟨trivial, agrees, sound⟩
  | time =>
      exact ⟨agrees.now, ⟨le_refl _, agrees.registered, agrees.window, agrees.emptied,
        agrees.joined⟩, sound⟩
  | sleep later =>
      exact ⟨trivial, ⟨agrees.now.trans later, agrees.registered, agrees.window, agrees.emptied,
        agrees.joined⟩, sound.same rfl rfl rfl⟩
  | random u => exact ⟨trivial, agrees, sound⟩
  | isSet => exact ⟨rfl, agrees, sound⟩
  | wait remaining => exact ⟨trivial, agrees, sound⟩
  | register record =>
      obtain ⟨waiting, fresh⟩ := owed
      rw [agrees.registered] at fresh
      refine ⟨trivial, ⟨agrees.now, congrArg (· ++ [record]) agrees.registered, agrees.window,
        fun emptied => ?_, agrees.joined⟩, sound.register record fresh⟩
      rw [show w.emptied = true from emptied] at waiting
      cases waiting
  | send topic key value r =>
      cases r with
      | error err => exact ⟨trivial, agrees, sound⟩
      | ok _ =>
          exact ⟨trivial, ⟨agrees.now, agrees.registered, agrees.window, agrees.emptied,
            agrees.joined⟩, sound⟩
  | flush => exact ⟨trivial, agrees, sound⟩
  | closeProducer => exact ⟨trivial, agrees, sound⟩
  | setBenchmarkWindow startTs endTs =>
      exact ⟨trivial, ⟨agrees.now, agrees.registered, rfl, agrees.emptied, agrees.joined⟩,
        sound.same rfl rfl rfl⟩
  | nothingPending =>
      refine ⟨trivial, ⟨agrees.now, agrees.registered, agrees.window, fun emptied => ?_,
        agrees.joined⟩, sound⟩
      rcases Bool.or_eq_true_iff.mp emptied with old | new
      · exact agrees.emptied old
      · exact List.isEmpty_iff.mp new
  | setStop =>
      exact ⟨trivial, ⟨agrees.now, agrees.registered, agrees.window, agrees.emptied,
        agrees.joined⟩, sound.same rfl rfl rfl⟩
  | joined nanoseconds ended =>
      exact ⟨trivial, ⟨agrees.now, agrees.registered, agrees.window, agrees.emptied,
        fun _ => ended⟩, sound⟩
  | unjoined nanoseconds =>
      refine ⟨trivial, ⟨agrees.now, agrees.registered, agrees.window, agrees.emptied,
        fun joined => ?_⟩, sound⟩
      rcases Bool.or_eq_true_iff.mp joined with old | new
      · exact agrees.joined old
      · cases new
  | closeConsumer => exact ⟨trivial, agrees, sound⟩
  | buildDataframe filterWindow => exact ⟨sound.tabulates agrees filterWindow, agrees, sound⟩

end Answers

end Measuring

/-! ## Runs -/

/-- What is left of the main thread meets the contract from what it has seen. -/
structure BenchThreads.Inv {α : Type} (Q : MeasureEnd → BenchSight → Prop) (s : BenchThreads α) :
    Prop where
  meets : s.main.Meets benching (benching.after {} s.past) Q
  agrees : Measuring.Agrees (benching.after {} s.past) s.shared
  sound : s.shared.Sound

section Runs

variable {α : Type} {Q : MeasureEnd → BenchSight → Prop} {s s' : BenchThreads α}

theorem BenchThreads.Inv.step (inv : BenchThreads.Inv Q s) (step : s.Step s') :
    BenchThreads.Inv Q s' := by
  cases step with
  | collector moved => exact ⟨inv.meets, inv.agrees.moves moved, moved.sound inv.sound⟩
  | main answered =>
      obtain ⟨owed, rest⟩ := inv.meets
      obtain ⟨allowed, agrees, sound⟩ := answered.watched owed inv.agrees inv.sound
      refine ⟨?_, ?_, sound⟩
      · rw [Contract.after_append]
        exact rest _ allowed
      · rw [Contract.after_append]
        exact agrees

/-- Where a run begins. -/
def BenchThreads.initial (program : Proc (Bench α) MeasureEnd) : BenchThreads α := ⟨program, [], {}⟩

theorem BenchThreads.inv_of_reaches {program : Proc (Bench α) MeasureEnd}
    (meets : program.Meets benching {} Q) (run : Reaches BenchThreads.Step (.initial program) s) :
    BenchThreads.Inv Q s := by
  refine run.invariant (P := BenchThreads.Inv Q) (fun _ _ inv step => inv.step step) ⟨meets, ?_, ?_⟩
  · exact ⟨le_refl _, rfl, rfl, nofun, nofun⟩
  · refine ⟨.refl, ?_, ?_⟩
    · intro record member
      cases member
    · intro row member
      cases member

end Runs

/-! ## What the main thread does -/

/-- What a run leaves of these submissions. -/
structure Measured {α : Type} [PyFloat α] (generator : LoadGenerator α) (m : Measurement)
    (bs : List TimedSubmission) (w : BenchSight) : Prop where
  generated : Generated generator m.stats.startedAt m.stats.finishedAt bs w
  produced : m.stats.produced = bs.length
  begun : m.benchmarkStartTs ≤ m.stats.startedAt
  ordered : m.stats.startedAt ≤ m.stats.finishedAt
  ended : m.stats.finishedAt ≤ m.benchmarkEndTs
  busy : bs ≠ [] → m.stats.startedAt < m.stats.finishedAt
  table : Tabulates w (some (m.benchmarkStartTs, m.benchmarkEndTs)) m.df

/-- The records, the messages and the window are what they were. -/
structure BenchSight.SameRecords (w w' : BenchSight) : Prop where
  registered : w'.registered = w.registered
  acknowledged : w'.acknowledged = w.acknowledged
  window : w'.window = w.window

section Main

variable {α : Type} {w : BenchSight}

theorem meets_waitForPending (deadline : Int) (allowed : Nat) :
    (waitForPending (α := α) deadline allowed).Meets benching w fun _ w' => w.SameRecords w' := by
  induction allowed generalizing w with
  | zero => exact ⟨rfl, rfl, rfl⟩
  | succ allowed ih =>
      unfold waitForPending
      refine ⟨trivial, fun now later => ?_⟩
      show Proc.Meets benching (if deadline ≤ now then _ else _) { w with now := now } _
      split
      · exact ⟨rfl, rfl, rfl⟩
      · refine ⟨trivial, fun empty _ => ?_⟩
        cases empty with
        | true => exact ⟨rfl, rfl, rfl⟩
        | false =>
            refine ⟨trivial, fun _ _ => ih.mono ?_⟩
            rintro _ w' same
            exact ⟨same.registered, same.acknowledged, same.window⟩

variable [PyFloat α] {generator : LoadGenerator α} {bs : List TimedSubmission}

theorem meets_concludeMeasurement (case : BenchmarkCase α) (checks : Nat) {benchmarkStartTs : Int}
    {stats : LoadStatistics} (loaded : Loaded generator stats bs w)
    (begun : benchmarkStartTs ≤ stats.startedAt) :
    (concludeMeasurement case checks benchmarkStartTs stats).Meets benching w
      fun r w' => ∀ m, r = .measured m → Measured generator m bs w' := by
  unfold concludeMeasurement
  refine ⟨trivial, fun benchmarkEndTs later => ⟨trivial, fun _ _ => ⟨trivial, fun _ _ =>
    ⟨trivial, fun now _ => ?_⟩⟩⟩⟩
  have ended : stats.finishedAt ≤ benchmarkEndTs := loaded.now ▸ later
  refine (meets_waitForPending _ checks).bind ?_
  rintro waited w' same
  cases waited with
  | false =>
      intro m absurd
      cases absurd
  | true =>
      refine ⟨trivial, fun _ _ => ⟨trivial, fun joined _ => ⟨trivial, fun _ _ =>
        ⟨trivial, fun df table => ?_⟩⟩⟩⟩
      intro m own
      cases own
      have window : w'.window = some (benchmarkStartTs, benchmarkEndTs) := same.window
      have table : Tabulates _ w'.window df := table
      rw [window] at table
      exact ⟨loaded.generated.later (le_refl _) same.registered same.acknowledged, loaded.produced,
        begun, loaded.ordered, ended, loaded.busy, table⟩

/-- **The main thread.** -/
theorem meets_measure [LawfulPyFloat α] {scriptTopic : String} (case : BenchmarkCase α)
    {built : List ScriptScenario} (complete : Complete built) (turns checks : Nat) :
    (measure scriptTopic case built turns checks).Meets benching {} fun r w' =>
      ∀ m, r = .measured m → ∃ generator bs,
        newLoadGenerator scriptTopic case.loadProfile built = .ok generator ∧
          Measured generator m bs w' := by
  unfold measure
  refine ⟨trivial, fun created _ => ?_⟩
  cases created with
  | error err =>
      intro m absurd
      cases absurd
  | ok _ =>
      refine ⟨trivial, fun _ _ => ?_⟩
      cases new : newLoadGenerator scriptTopic case.loadProfile built with
      | error err =>
          intro m absurd
          cases absurd
      | ok generator =>
          obtain ⟨sound, -, -, -⟩ := LoadGenerator.sound_of_new complete new
          refine ⟨trivial, fun _ _ => ⟨trivial, fun benchmarkStartTs _ => ?_⟩⟩
          refine (meets_load sound _ turns rfl rfl rfl).bind ?_
          intro ended w' loaded
          cases ended with
          | raised err =>
              intro m absurd
              cases absurd
          | outOfTurns =>
              intro m absurd
              cases absurd
          | finished stats =>
              obtain ⟨begun, bs, loaded⟩ := loaded stats rfl
              refine (meets_concludeMeasurement case checks loaded begun).mono ?_
              intro r w' measured m same
              exact ⟨generator, bs, rfl, measured m same⟩

end Main

/-! ## What has been done -/

/-- The message that an event puts on a topic. -/
def acknowledgedBy {α : Type} : Event (Bench α) → Option (String × String × Json.Value)
  | ⟨.send topic key value, .ok _⟩ => some (topic, key, value)
  | _ => none

section Past

variable {α : Type} {w : BenchSight} {t : List (Event (Bench α))}

theorem acknowledged_next (c : BenchCall α) (r : BenchReply c) :
    (BenchSight.next w c r).acknowledged =
      w.acknowledged ++ (acknowledgedBy ⟨c, r⟩).toList := by
  cases c with
  | send topic key value =>
      cases r with
      | error err => exact (List.append_nil _).symm
      | ok _ => rfl
  | _ => exact (List.append_nil _).symm

theorem acknowledged_after :
    (benching.after w t).acknowledged = w.acknowledged ++ t.filterMap acknowledgedBy := by
  induction t generalizing w with
  | nil => exact (List.append_nil _).symm
  | cons e t ih =>
      have later := ih (w := BenchSight.next w e.call e.reply)
      rw [acknowledged_next, List.append_assoc, ← filterMap_event] at later
      exact later

/-- What was found stays found. -/
theorem latched_next (c : BenchCall α) (r : BenchReply c) :
    (w.emptied = true → (BenchSight.next w c r).emptied = true) ∧
      (w.joined = true → (BenchSight.next w c r).joined = true) := by
  cases c with
  | send topic key value => cases r <;> exact ⟨id, id⟩
  | nothingPending => exact ⟨fun old => Bool.or_eq_true_iff.mpr (Or.inl old), id⟩
  | join nanoseconds => exact ⟨id, fun old => Bool.or_eq_true_iff.mpr (Or.inl old)⟩
  | _ => exact ⟨id, id⟩

theorem latched_after :
    (w.emptied = true ∨ ⟨.nothingPending, true⟩ ∈ t → (benching.after w t).emptied = true) ∧
      (w.joined = true ∨ (∃ nanoseconds, ⟨.join nanoseconds, true⟩ ∈ t) →
        (benching.after w t).joined = true) := by
  induction t generalizing w with
  | nil => simp [Contract.after]
  | cons e t ih =>
      obtain ⟨emptied, joined⟩ := ih (w := BenchSight.next w e.call e.reply)
      have kept := latched_next (w := w) e.call e.reply
      refine ⟨fun found => emptied ?_, fun found => joined ?_⟩
      · rcases found with old | now
        · exact Or.inl (kept.1 old)
        · rcases List.mem_cons.mp now with rfl | later
          · exact Or.inl (Bool.or_true _)
          · exact Or.inr later
      · rcases found with old | ⟨nanoseconds, now⟩
        · exact Or.inl (kept.2 old)
        · rcases List.mem_cons.mp now with rfl | later
          · exact Or.inl (Bool.or_true _)
          · exact Or.inr ⟨nanoseconds, later⟩

end Past

/-! ## Throughput -/

theorem perMinute_nonneg (count : Nat) {nanoseconds : Int} (positive : 0 < nanoseconds) :
    0 ≤ perMinute count nanoseconds := by
  have time : (0 : Rat) < nanoseconds := Int.cast_pos.mpr positive
  unfold perMinute nanosecondsPerSecond
  positivity

/-- Fewer in a longer time. -/
theorem perMinute_le {count count' : Nat} {nanoseconds nanoseconds' : Int} (fewer : count ≤ count')
    (positive : 0 < nanoseconds') (longer : nanoseconds' ≤ nanoseconds) :
    perMinute count nanoseconds ≤ perMinute count' nanoseconds' := by
  have time : (0 : Rat) < nanoseconds' := Int.cast_pos.mpr positive
  have longer : (nanoseconds' : Rat) ≤ nanoseconds := Int.cast_le.mpr longer
  have fewer : (count : Rat) ≤ count' := Nat.cast_le.mpr fewer
  unfold perMinute nanosecondsPerSecond
  gcongr

namespace Measured

variable {α : Type} [PyFloat α] {generator : LoadGenerator α} {m : Measurement}
  {bs : List TimedSubmission} {w : BenchSight}

/-- The ids that were registered. -/
theorem registered_ids (measured : Measured generator m bs w) :
    w.registered.map SubmissionRecord.scriptId = bs.map fun b => b.submission.id := by
  rw [measured.generated.registered, List.map_map]
  rfl

theorem rows_le (measured : Measured generator m bs w) : m.df.length ≤ bs.length := by
  have inside : m.df.map Row.scriptId ⊆ w.registered.map SubmissionRecord.scriptId := by
    intro id member
    obtain ⟨row, here, rfl⟩ := List.mem_map.mp member
    obtain ⟨record, known, about⟩ := measured.table.registered row here
    rw [about.scriptId]
    exact List.mem_map_of_mem known
  have fewer := (measured.table.distinct.subperm inside).length_le
  rw [measured.registered_ids, List.length_map, List.length_map] at fewer
  exact fewer

/-- What is completed is not more than what was sent, and the window is not shorter. -/
theorem throughput (measured : Measured generator m bs w) :
    m.completedThroughput ≤ m.stats.throughputPerMinute := by
  have rows := measured.rows_le
  have ordered := measured.ordered
  have begun := measured.begun
  have ended := measured.ended
  have duration : m.stats.duration = m.stats.finishedAt - m.stats.startedAt :=
    max_eq_left (by omega)
  unfold Measurement.completedThroughput LoadStatistics.throughputPerMinute
  rw [duration, measured.produced]
  split
  · next some =>
      have busy := measured.busy (List.ne_nil_of_length_pos (by omega))
      rw [if_neg (by omega)]
      exact perMinute_le rows (by omega) (by omega)
  · split
    · exact le_refl _
    · exact perMinute_nonneg _ (by omega)

end Measured

/-- **The rows of a run.**  In every run of the two threads that ends with a table: the messages
that were acknowledged are submissions with distinct ids, whose languages and outcomes have weight
or are the first, and `produced` counts them.  The table has rows about these, one for each at most,
and the completed throughput is not above that of the sending.  The window leaves out only what was
sent at its very end: when nothing was pending and the thread of the collector has been joined,
every other submission has its row.  The two throughputs are exact quotients here, which the source
rounds to floats in the same way. -/
theorem measurement_rows {α : Type} [PyFloat α] [LawfulPyFloat α] (scriptTopic : String)
    (case : BenchmarkCase α) {readText : String → String → String} {built : List ScriptScenario}
    (scenarios : buildScenarios readText = some built) (turns checks : Nat) {s : BenchThreads α}
    {m : Measurement}
    (run : Reaches BenchThreads.Step (.initial (measure scriptTopic case built turns checks)) s)
    (returned : s.main = .ret (.measured m)) :
    ∃ bs : List TimedSubmission,
      s.past.filterMap acknowledgedBy =
        bs.map (fun b => submissionMessage scriptTopic b.submission) ∧
      m.stats.produced = bs.length ∧ (bs.map fun b => b.submission.id).Nodup ∧
      (∀ b ∈ bs, Drawn case.loadProfile built b.submission.scenario ∧
        m.benchmarkStartTs ≤ b.sentTs ∧ b.sentTs ≤ m.benchmarkEndTs) ∧
      (m.df.map Row.scriptId).Nodup ∧
      (∀ row ∈ m.df, ∃ b ∈ bs, row.About b.record ∧ b.sentTs < m.benchmarkEndTs) ∧
      m.completedThroughput ≤ m.stats.throughputPerMinute ∧
      (⟨.nothingPending, true⟩ ∈ s.past →
        ⟨.join (5 * nanosecondsPerSecond), true⟩ ∈ s.past →
          ∀ b ∈ bs, b.sentTs < m.benchmarkEndTs →
            m.df.countP (fun row => row.scriptId = b.submission.id) = 1) := by
  have complete := buildScenarios_complete scenarios
  have inv := BenchThreads.inv_of_reaches (meets_measure case complete turns checks) run
  have post := inv.meets
  rw [returned] at post
  obtain ⟨generator, bs, new, measured⟩ := post m rfl
  obtain ⟨-, topic, profile, known⟩ := LoadGenerator.sound_of_new complete new
  have acknowledged := measured.generated.acknowledged
  rw [acknowledged_after, topic] at acknowledged
  have within : ∀ b ∈ bs, m.benchmarkStartTs ≤ b.sentTs ∧ b.sentTs ≤ m.benchmarkEndTs :=
    fun b member => ⟨measured.begun.trans (measured.generated.sent b member).1,
      (measured.generated.sent b member).2.trans measured.ended⟩
  refine ⟨bs, acknowledged, measured.produced, ids_nodup measured.generated.numbered,
    fun b member => ⟨?_, within b member⟩, measured.table.distinct, fun row member => ?_,
    measured.throughput, fun empty ended b member before => ?_⟩
  · have drawn := measured.generated.drawn b member
    rw [profile, known] at drawn
    exact drawn
  · obtain ⟨record, registered, about⟩ := measured.table.registered row member
    rw [measured.generated.registered] at registered
    obtain ⟨b, sent, rfl⟩ := List.mem_map.mp registered
    have inside := measured.table.within row member
    rw [about.sentTs] at inside
    exact ⟨b, sent, about, of_decide_eq_true (Bool.and_eq_true_iff.mp inside).2⟩
  · have found := latched_after (w := {}) (t := s.past)
    refine measured.table.complete (found.1 (Or.inr empty)) (found.2 (Or.inr ⟨_, ended⟩))
      b.record ?_ ?_
    · rw [measured.generated.registered]
      exact List.mem_map_of_mem member
    · exact Bool.and_eq_true_iff.mpr
        ⟨decide_eq_true (within b member).1, decide_eq_true before⟩

/-- The floats that are whole numbers, where no division leaves a remainder; the logarithm is that
of 1. -/
instance wholeFloat : PyFloat Int where
  sum := List.sum
  log x := x - 1
  decidableLE := inferInstance
  decidableLT := inferInstance
  decidableEq := inferInstance

instance wholeFloat_lawful : LawfulPyFloat Int where
  add_zero := Int.add_zero
  zero_div _ := Int.zero_ediv _
  sum_positive _ some := Int.not_le.mp some
  max_zero := max_eq_right

/-- One language and one outcome, for a second. -/
def pythonCase : BenchmarkCase Int where
  name := "python"
  loadProfile := ⟨"python", 60, [("python", 1)], [("ok", 1)], 1⟩
  durationSeconds := 1
  warmupSeconds := 0
  runnerParallelism := 1
  cooldownSeconds := 0

/-- The scenarios of empty sources. -/
def emptyScenarios : List ScriptScenario := (buildScenarios fun _ _ => "").getD []

theorem buildScenarios_empty : buildScenarios (fun _ _ => "") = some emptyScenarios := rfl

/-- The run of one submission, whose result is handled before the load ends. -/
theorem measurement_rows_one :
    ∃ s m,
      Reaches BenchThreads.Step (.initial (measure "scripts" pythonCase emptyScenarios 2 1)) s ∧
      s.main = .ret (.measured m) ∧ m.stats.produced = 1 ∧ m.df.length = 1 ∧
      m.completedThroughput ≤ m.stats.throughputPerMinute := by
  have nonempty : "python-ok-1" ≠ "" := by decide
  have later : 0 ≤ nanosecondsPerSecond := by decide
  have run : Reaches BenchThreads.Step
      (.initial (measure "scripts" pythonCase emptyScenarios 2 1)) _ :=
    .head (.main (.createConsumer (.ok ()))) <| .head (.main (.startThread rfl)) <|
    .head (.main (.sleep (le_refl 0))) <| .head (.main .time) <|
    .head (.main (.createProducer (.ok ()))) <| .head (.main .time) <|
    .head (.main .time) <| .head (.main .isSet) <| .head (.main (.random (0 : Int))) <|
    .head (.main (.random (0 : Int))) <| .head (.main .time) <| .head (.main (.register _)) <|
    .head (.main (.send _ _ _ (.ok ()))) <| .head (.main (.random (0 : Int))) <|
    .head (.main (.wait _)) <| .head (.collector (.proceed rfl rfl)) <|
    .head (.collector (.poll rfl [[Collecting.onlyResult]])) <|
    .head (.collector (.pop rfl rfl nonempty rfl (le_refl 0))) <|
    .head (.collector (.append rfl)) <|
    .head (.collector (.tick later)) <| .head (.main .time) <| .head (.main .flush) <|
    .head (.main .closeProducer) <| .head (.main .time) <| .head (.main .time) <|
    .head (.main (.setBenchmarkWindow _ _)) <|
    .head (.main (.sleep (le_refl nanosecondsPerSecond))) <|
    .head (.main .time) <| .head (.main .time) <| .head (.main .nothingPending) <|
    .head (.main .setStop) <| .head (.collector (.again rfl)) <|
    .head (.collector (.stop rfl rfl)) <| .head (.main (.joined _ rfl)) <|
    .head (.main .closeConsumer) <| .head (.main (.buildDataframe true)) .refl
  obtain ⟨bs, -, -, -, -, -, -, throughput, -⟩ :=
    measurement_rows "scripts" pythonCase buildScenarios_empty 2 1 run rfl
  exact ⟨_, _, run, rfl, rfl, rfl, throughput⟩

end Scrc
