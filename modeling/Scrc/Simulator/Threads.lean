import Scrc.Lib.Transition
import Scrc.Simulator.Run

/-!
# The threads of the simulator

The main thread and the thread of the consumer, whose steps interleave.  They share the stop event,
the counters of the consumer and `consumer_errors`.

* `Shared.Moves`: the steps of the thread of the consumer; `Shared.Follows`: they are those of the
  loop of `consume`, in every interleaving by `Threads.follows`.
* `Shared.Answers`: what the main thread gets as replies.
* `Threads.Inv`: the main thread is in an execution that `observing` allows, and what it has read of
  the counters belongs to the first of the messages that have been processed.
* `simulator_verdict`: what exit code zero means.
-/

namespace Scrc

open Interaction Transition

/-! ## The thread of the consumer -/

/-- Where the thread is in `consumer_runner`. -/
inductive ConsumerPc where
  | unstarted
  /-- at `stop_event.is_set()` -/
  | checking
  | polling
  /-- These messages are next. -/
  | processing (messages : List ConsumedMessage)
  /-- The error is in `consumer_errors`, and the stop event is not set yet. -/
  | failing
  | ended

/-- What the threads share, with the time and the messages that have been processed. -/
structure Shared where
  consumer : ConsumerPc := .unstarted
  stop : Bool := false
  counters : Tally := .empty
  errors : Nat := 0
  clock : Rat := 0
  processed : List ConsumedMessage := []

/-- `countMessage`, on the counters with their keys. -/
def tallyMessage (P : PyText) (counters : Tally) (message : ConsumedMessage) : Tally :=
  match message.summary P, message.scriptType with
  | some _, .ok (some type) => if type = "" then counters else counters.add type
  | _, _ => counters

theorem count_tallyMessage (P : PyText) (counters : Tally) (message : ConsumedMessage) :
    (tallyMessage P counters message).count = countMessage P counters.count message := by
  unfold tallyMessage countMessage
  cases message.summary P with
  | none => rfl
  | some summary =>
      cases message.scriptType with
      | error err => rfl
      | ok found =>
          cases found with
          | none => rfl
          | some type =>
              by_cases empty : type = ""
              · simp only [empty, ↓reduceIte]
              · simp only [empty, ↓reduceIte, Tally.count_add]

/-- A step of the thread of the consumer, or of the time. -/
inductive Shared.Moves (P : PyText) : Shared → Shared → Prop
  | stop {s : Shared} (here : s.consumer = .checking) (set : s.stop = true) :
      Moves P s { s with consumer := .ended }
  | proceed {s : Shared} (here : s.consumer = .checking) (unset : s.stop = false) :
      Moves P s { s with consumer := .polling }
  | poll {s : Shared} (here : s.consumer = .polling) (records : List (List ConsumedMessage)) :
      Moves P s { s with consumer := .processing records.flatten }
  /-- `consumer_errors.append(exc)` -/
  | raise {s : Shared} (here : s.consumer = .polling) :
      Moves P s { s with consumer := .failing, errors := s.errors + 1 }
  | process {s : Shared} {message : ConsumedMessage} {messages : List ConsumedMessage}
      (here : s.consumer = .processing (message :: messages)) :
      Moves P s
        { s with
          consumer := .processing messages
          counters := tallyMessage P s.counters message
          processed := s.processed ++ [message] }
  | again {s : Shared} (here : s.consumer = .processing []) :
      Moves P s { s with consumer := .checking }
  /-- `stop_event.set()` -/
  | fail {s : Shared} (here : s.consumer = .failing) :
      Moves P s { s with consumer := .ended, stop := true }
  | tick {s : Shared} {clock : Rat} (later : s.clock ≤ clock) : Moves P s { s with clock := clock }

/-! ## The main thread -/

/-- The reply that the main thread gets to a call, and what it leaves. -/
inductive Shared.Answers (s : Shared) : (c : Simulator.Call) → Simulator.Reply c → Shared → Prop
  | isSet : Answers s (.inl .isSet) s.stop s
  | wait (seconds : Rat) : Answers s (.inl (.wait seconds)) s.stop s
  | pause {seconds clock : Rat} (later : s.clock + seconds ≤ clock) :
      Answers s (.inl (.sleep seconds)) () { s with clock := clock }
  | send (topic key : String) (value : Json.Value) (r : Except String Unit) :
      Answers s (.inl (.send topic key value)) r s
  | flush : Answers s (.inl .flush) () s
  | closeProducer : Answers s (.inl .close) () s
  | connect (client : Client) (r : Connection) : Answers s (.inr (.connect client)) r s
  | start (fresh : s.consumer = .unstarted) :
      Answers s (.inr .start) () { s with consumer := .checking }
  | set : Answers s (.inr .set) () { s with stop := true }
  | snapshot : Answers s (.inr .snapshot) s.counters s
  | errors : Answers s (.inr .errors) s.errors s
  | time : Answers s (.inr .time) s.clock s
  | sleep {seconds clock : Rat} (later : s.clock + seconds ≤ clock) :
      Answers s (.inr (.sleep seconds)) () { s with clock := clock }
  | join (seconds : Rat) : Answers s (.inr (.join seconds)) () s
  | close : Answers s (.inr .close) () s

/-- What is left of the main thread, what it has done, and what it shares. -/
structure Threads where
  main : Proc Simulator RunEnd
  past : List (Event Simulator) := []
  shared : Shared := {}

inductive Threads.Step (P : PyText) : Threads → Threads → Prop
  | main {c : Simulator.Call} {k : Simulator.Reply c → Proc Simulator RunEnd}
      {r : Simulator.Reply c} {past : List (Event Simulator)} {s s' : Shared}
      (answered : s.Answers c r s') : Step P ⟨.call c k, past, s⟩ ⟨k r, past ++ [⟨c, r⟩], s'⟩
  | consumer {p : Proc Simulator RunEnd} {past : List (Event Simulator)} {s s' : Shared}
      (moved : s.Moves P s') : Step P ⟨p, past, s⟩ ⟨p, past, s'⟩

/-! ## Invariants -/

/-- Before anything is done. -/
def Sight.fresh : Sight := ⟨false, false, 0, fun _ => 0⟩

/-- The counters when these messages have been processed. -/
def countMessages (P : PyText) (messages : List ConsumedMessage) : Counter :=
  messages.foldl (countMessage P) fun _ => 0

/-- The event reads counters that belong to the first of the messages, and no more errors than
there are. -/
def ReadsOf (P : PyText) (s : Shared) : Event Simulator → Prop
  | ⟨.inr .snapshot, counters⟩ =>
      ∃ seen, seen <+: s.processed ∧ counters.count = countMessages P seen
  | ⟨.inr .errors, errors⟩ => errors ≤ s.errors
  | _ => True

structure Threads.Inv (P : PyText) (program : Proc Simulator RunEnd) (s : Threads) : Prop where
  rest : ∀ t a, Exec s.main t a → Exec program (s.past ++ t) a
  allowed : observing.Allowed .fresh s.past
  stopped : (observing.after .fresh s.past).stopped = true → s.shared.stop = true
  clock : (observing.after .fresh s.past).now ≤ s.shared.clock
  read : ∀ type, (observing.after .fresh s.past).read type ≤ s.shared.counters.count type
  counters : s.shared.counters.count = countMessages P s.shared.processed
  reads : ∀ e ∈ s.past, ReadsOf P s.shared e

section Invariants

variable {P : PyText} {program : Proc Simulator RunEnd} {s s' : Threads} {sh sh' : Shared}

/-- What can be read later includes what could be read before. -/
theorem ReadsOf.mono {e : Event Simulator} (reads : ReadsOf P sh e)
    (processed : sh.processed <+: sh'.processed) (errors : sh.errors ≤ sh'.errors) :
    ReadsOf P sh' e := by
  rcases e with ⟨c | c, r⟩
  · trivial
  · cases c with
    | snapshot =>
        obtain ⟨seen, before, counted⟩ := reads
        exact ⟨seen, before.trans processed, counted⟩
    | errors => exact Nat.le_trans reads errors
    | _ => trivial

/-- No count is taken back. -/
theorem countMessage_le (P : PyText) (counters : Counter) (message : ConsumedMessage)
    (type : String) : counters type ≤ countMessage P counters message type := by
  unfold countMessage
  cases message.summary P with
  | none => exact Nat.le_refl _
  | some summary =>
      cases message.scriptType with
      | error err => exact Nat.le_refl _
      | ok found =>
          cases found with
          | none => exact Nat.le_refl _
          | some found =>
              by_cases empty : found = ""
              · simp only [empty, ↓reduceIte, Nat.le_refl]
              · simp only [empty, ↓reduceIte, Counter.add]
                by_cases here : type = found
                · rw [here, Function.update_self]
                  exact Nat.le_succ _
                · rw [Function.update_of_ne here]

/-- A step of the consumer adds messages and errors, and unsets nothing. -/
structure Shared.Grows (P : PyText) (s s' : Shared) : Prop where
  processed : s.processed <+: s'.processed
  errors : s.errors ≤ s'.errors
  stop : s.stop = true → s'.stop = true
  clock : s.clock ≤ s'.clock
  read : ∀ type, s.counters.count type ≤ s'.counters.count type
  counters : s.counters.count = countMessages P s.processed →
    s'.counters.count = countMessages P s'.processed

theorem Shared.Moves.grows (moved : sh.Moves P sh') : sh.Grows P sh' := by
  cases moved with
  | stop _ _ => exact ⟨List.prefix_rfl, Nat.le_refl _, id, le_refl _, fun _ => Nat.le_refl _, id⟩
  | proceed _ _ => exact ⟨List.prefix_rfl, Nat.le_refl _, id, le_refl _, fun _ => Nat.le_refl _, id⟩
  | poll _ _ => exact ⟨List.prefix_rfl, Nat.le_refl _, id, le_refl _, fun _ => Nat.le_refl _, id⟩
  | raise _ => exact ⟨List.prefix_rfl, Nat.le_succ _, id, le_refl _, fun _ => Nat.le_refl _, id⟩
  | again _ => exact ⟨List.prefix_rfl, Nat.le_refl _, id, le_refl _, fun _ => Nat.le_refl _, id⟩
  | fail _ => exact ⟨List.prefix_rfl, Nat.le_refl _, fun _ => rfl, le_refl _, fun _ => Nat.le_refl _, id⟩
  | tick later => exact ⟨List.prefix_rfl, Nat.le_refl _, id, later, fun _ => Nat.le_refl _, id⟩
  | @process message messages here =>
      refine ⟨List.prefix_append _ _, Nat.le_refl _, id, le_refl _, fun type => ?_, fun counted => ?_⟩
      · show _ ≤ (tallyMessage P sh.counters message).count type
        rw [count_tallyMessage]
        exact countMessage_le P _ message type
      · show (tallyMessage P sh.counters message).count = _
        rw [count_tallyMessage, counted]
        unfold countMessages
        rw [List.foldl_append]
        rfl

/-- A call of the main thread leaves the counters and errors as they are. -/
theorem Shared.Answers.keeps {c : Simulator.Call} {r : Simulator.Reply c}
    (answered : sh.Answers c r sh') :
    sh'.processed = sh.processed ∧ sh'.counters = sh.counters ∧ sh'.errors = sh.errors := by
  cases answered <;> exact ⟨rfl, rfl, rfl⟩

/-- The replies are those that `observing` allows. -/
theorem Shared.Answers.watched {c : Simulator.Call} {r : Simulator.Reply c} {w : Sight}
    (answered : sh.Answers c r sh') (latched : w.stopped = true → sh.stop = true)
    (before : w.now ≤ sh.clock) (read : ∀ type, w.read type ≤ sh.counters.count type) :
    observing.allows w c r ∧ ((observing.next w c r).stopped = true → sh'.stop = true) ∧
      (observing.next w c r).now ≤ sh'.clock ∧
      ∀ type, (observing.next w c r).read type ≤ sh'.counters.count type := by
  cases answered with
  | isSet =>
      refine ⟨latched, fun seen => ?_, before, read⟩
      rcases Bool.or_eq_true_iff.mp seen with old | new
      · exact latched old
      · exact new
  | wait seconds =>
      refine ⟨latched, fun seen => ?_, before, read⟩
      rcases Bool.or_eq_true_iff.mp seen with old | new
      · exact latched old
      · exact new
  | pause later => exact ⟨trivial, latched, le_trans (add_le_add_left before _) later, read⟩
  | send topic key value r =>
      cases r with
      | error err => exact ⟨trivial, latched, before, read⟩
      | ok _ => exact ⟨trivial, latched, before, read⟩
  | set => exact ⟨trivial, fun _ => rfl, before, read⟩
  | time => exact ⟨before, latched, le_refl _, read⟩
  | sleep later => exact ⟨trivial, latched, le_trans (add_le_add_left before _) later, read⟩
  | flush => exact ⟨trivial, latched, before, read⟩
  | closeProducer => exact ⟨trivial, latched, before, read⟩
  | connect client r => exact ⟨trivial, latched, before, read⟩
  | start fresh => exact ⟨trivial, latched, before, read⟩
  | snapshot => exact ⟨read, latched, before, fun _ => Nat.le_refl _⟩
  | errors => exact ⟨trivial, latched, before, read⟩
  | join seconds => exact ⟨trivial, latched, before, read⟩
  | close => exact ⟨trivial, latched, before, read⟩

/-- What is read is what there is. -/
theorem Shared.Answers.reads {c : Simulator.Call} {r : Simulator.Reply c}
    (answered : sh.Answers c r sh') (counted : sh.counters.count = countMessages P sh.processed) :
    ReadsOf P sh' ⟨c, r⟩ := by
  cases answered with
  | snapshot => exact ⟨sh.processed, List.prefix_rfl, counted⟩
  | errors => exact Nat.le_refl _
  | _ => trivial

theorem Threads.Inv.step (inv : Threads.Inv P program s) (step : s.Step P s') :
    Threads.Inv P program s' := by
  cases step with
  | consumer moved =>
      have grows := moved.grows
      exact ⟨inv.rest, inv.allowed, fun seen => grows.stop (inv.stopped seen),
        le_trans inv.clock grows.clock, fun type => (inv.read type).trans (grows.read type),
        grows.counters inv.counters,
        fun e member => (inv.reads e member).mono grows.processed grows.errors⟩
  | @main c k r past sh sh' answered =>
      obtain ⟨processed, counters, errors⟩ := answered.keeps
      obtain ⟨allowed, stopped, clock, read⟩ := answered.watched inv.stopped inv.clock inv.read
      refine ⟨fun t a run => ?_, ?_, ?_, ?_, ?_, ?_, fun e member => ?_⟩
      · have before := inv.rest (⟨c, r⟩ :: t) a (.call run)
        rw [List.append_assoc]
        exact before
      · exact (observing.allowed_append).mpr ⟨inv.allowed, allowed, trivial⟩
      · rw [Contract.after_append]
        exact stopped
      · rw [Contract.after_append]
        exact clock
      · rw [Contract.after_append]
        exact read
      · rw [counters, processed]
        exact inv.counters
      · rcases List.mem_append.mp member with old | new
        · exact (inv.reads e old).mono (processed ▸ List.prefix_rfl) (Nat.le_of_eq errors.symm)
        · rw [List.mem_singleton.mp new]
          exact answered.reads inv.counters

/-- Where a run begins. -/
def Threads.initial (program : Proc Simulator RunEnd) : Threads := ⟨program, [], {}⟩

theorem Threads.inv_of_reaches (run : Reaches (Threads.Step P) (.initial program) s) :
    Threads.Inv P program s :=
  run.invariant (P := Threads.Inv P program) (fun _ _ inv step => inv.step step)
    ⟨fun _ _ run => run, trivial, nofun, le_refl _, fun _ => Nat.le_refl _, rfl, nofun⟩

end Invariants

/-! ## The loop of the consumer -/

section Loop

variable {P : PyText} {timeoutMs : Int} {s s' : Shared}

/-- What is left of `consume` here, when so many polls are allowed for. -/
def ConsumerPc.rest (P : PyText) (timeoutMs : Int) (allowed : Nat) (counters : Counter) :
    ConsumerPc → Proc ResultConsumer (ConsumeEnd × Counter)
  | .polling => do
      match ← askConsumer (.poll timeoutMs) with
      | .error err => return (.raised err, counters)
      | .ok records =>
          let counters ← records.flatten.foldlM (processMessage P) counters
          consumeLoop P true timeoutMs allowed counters
  | .processing messages => do
      let counters ← messages.foldlM (processMessage P) counters
      consumeLoop P true timeoutMs allowed counters
  | _ => consumeLoop P true timeoutMs allowed counters

/-- The thread is where the loop of `consume` gets, or where it returns. -/
def Shared.Follows (P : PyText) (timeoutMs : Int) (s : Shared) : Prop :=
  match s.consumer with
  | .unstarted => s.counters = .empty
  | .failing => ∃ allowed err, (consumeLoop P true timeoutMs allowed fun _ => 0).LeadsTo
      (.ret (.raised err, s.counters.count))
  | .ended => ∃ allowed outcome, (consumeLoop P true timeoutMs allowed fun _ => 0).LeadsTo
      (.ret (outcome, s.counters.count))
  | pc => ∀ left, ∃ allowed, (consumeLoop P true timeoutMs allowed fun _ => 0).LeadsTo
      (pc.rest P timeoutMs left s.counters.count)

theorem Shared.Follows.moves (follows : s.Follows P timeoutMs) (moved : s.Moves P s') :
    s'.Follows P timeoutMs := by
  cases moved with
  | stop here set =>
      simp only [Follows, here] at follows ⊢
      obtain ⟨allowed, leads⟩ := follows 1
      exact ⟨allowed, _, leads.call true⟩
  | proceed here unset =>
      simp only [Follows, here] at follows ⊢
      intro left
      obtain ⟨allowed, leads⟩ := follows (left + 1)
      exact ⟨allowed, leads.call false⟩
  | poll here records =>
      simp only [Follows, here] at follows ⊢
      intro left
      obtain ⟨allowed, leads⟩ := follows left
      exact ⟨allowed, leads.call (.ok records)⟩
  | raise here =>
      simp only [Follows, here] at follows ⊢
      obtain ⟨allowed, leads⟩ := follows 0
      exact ⟨allowed, "", leads.call (.error "")⟩
  | @process message messages here =>
      simp only [Follows, here] at follows ⊢
      intro left
      obtain ⟨allowed, leads⟩ := follows left
      have processed := exec_answered noMore (processMessage P s.counters.count message) []
      have counted := (exec_processMessage processed).1.counters
      refine ⟨allowed, leads.trans ?_⟩
      simp only [ConsumerPc.rest]
      rw [List.foldlM_cons, Proc.bind_assoc, count_tallyMessage]
      have next := Proc.LeadsTo.bind (f := fun counters =>
        messages.foldlM (processMessage P) counters >>= fun counters =>
          consumeLoop P true timeoutMs left counters) processed
      rw [counted] at next
      exact next
  | again here =>
      simp only [Follows, here] at follows ⊢
      exact follows
  | fail here =>
      simp only [Follows, here] at follows ⊢
      obtain ⟨allowed, err, leads⟩ := follows
      exact ⟨allowed, _, leads⟩
  | tick later => exact follows

theorem Shared.Follows.answers {c : Simulator.Call} {r : Simulator.Reply c}
    (follows : s.Follows P timeoutMs) (answered : s.Answers c r s') : s'.Follows P timeoutMs := by
  cases answered with
  | start fresh =>
      simp only [Follows, fresh] at follows ⊢
      rw [follows]
      exact fun left => ⟨left, .refl _⟩
  | _ => exact follows

/-- **The consumer.**  Whatever the main thread does meanwhile, the thread of the consumer is in the
loop of `consume`, with the counters of the messages that it has processed. -/
theorem Threads.follows {program : Proc Simulator RunEnd} {threads : Threads}
    (run : Reaches (Threads.Step P) (.initial program) threads) :
    threads.shared.Follows P timeoutMs := by
  refine run.invariant (P := fun threads => threads.shared.Follows P timeoutMs) ?_ rfl
  intro s s' follows step
  cases step with
  | main answered => exact follows.answers answered
  | consumer moved => exact follows.moves moved

end Loop

/-! ## The verdict -/

/-- What has been done is an execution, and the report says what was seen. -/
theorem Threads.reported {P : PyText} {args : SimulatorArgs} {scenarios : List ScriptScenario}
    (some_scenario : scenarios ≠ []) (distinct : (scenarios.map ScriptScenario.type).Nodup)
    {bounds : Bounds} (enough : bounds.Enough args) {s : Threads} {r : RunEnd}
    (run : Reaches (Threads.Step P) (.initial (Simulator.run args scenarios bounds)) s)
    (returned : s.main = .ret r) :
    (0 < args.iterations → r ≠ .outOfBounds) ∧
      ∀ report, r = .ended report → Reported args scenarios report s.past := by
  have inv := Threads.inv_of_reaches run
  have whole : Exec (Simulator.run args scenarios bounds) s.past r := by
    have exec := inv.rest [] r (by rw [returned]; exact .ret r)
    rw [List.append_nil] at exec
    exact exec
  exact exec_simulator some_scenario distinct enough rfl whole inv.allowed

/-- **Exit code zero.**  In every run of the two threads that has ended: with a finite number
of iterations the bounds of the loops are no matter.  The exit code of a report is zero exactly when
the wait was for everything, no error of the consumer was read, and the counters read at the end are
the expected ones.  Exit code zero then says that iterations were limited, that the submissions of
all of them were published and acknowledged, each once, and that the first of the processed messages
are so many of each type as were expected, and no others. -/
theorem simulator_verdict (P : PyText) (args : SimulatorArgs) {scenarios : List ScriptScenario}
    (some_scenario : scenarios ≠ []) (distinct : (scenarios.map ScriptScenario.type).Nodup)
    {bounds : Bounds} (enough : bounds.Enough args) {s : Threads} {r : RunEnd}
    (run : Reaches (Threads.Step P) (.initial (Simulator.run args scenarios bounds)) s)
    (returned : s.main = .ret r) :
    (0 < args.iterations → r ≠ .outOfBounds) ∧
    (∀ report, r = .ended report →
      (report.exitCode = 0 ↔ report.allConsumed = true ∧ report.errors = 0 ∧
        report.consumed.count = expectedCountsFromScenarios scenarios args.iterations)) ∧
    (r.exitCode = some 0 →
      0 < args.iterations ∧
      published (sent s.past) = (args.due scenarios).map (submissionMessage args.scriptTopic) ∧
      ∃ seen, seen <+: s.shared.processed ∧
        countMessages P seen = expectedCountsFromScenarios scenarios args.iterations) := by
  obtain ⟨inBounds, reported⟩ := Threads.reported some_scenario distinct enough run returned
  refine ⟨inBounds, fun report same => (reported report same).exitCode_zero, fun zero => ?_⟩
  cases r with
  | raised err => cases zero
  | noConsumer => cases zero
  | outOfBounds => cases zero
  | ended report =>
      have facts := reported report rfl
      obtain ⟨all, -, same⟩ := facts.exitCode_zero.mp (Option.some.inj zero)
      obtain ⟨finite, messages, -, -⟩ := facts.waited all
      obtain ⟨seen, before, counted⟩ := (Threads.inv_of_reaches run).reads _ facts.consumed
      exact ⟨finite, messages, seen, before, counted.symm.trans same⟩

/-- One scenario, twice. -/
def twiceArgs : SimulatorArgs := ⟨"scripts", 0, 2, 0⟩

theorem twiceArgs_enough : Bounds.Enough ⟨11, 2, 1⟩ twiceArgs :=
  ⟨Nat.le_refl 11, Nat.le_refl 2, 0, Nat.one_pos, by decide +kernel⟩

/-- A run in which a result is processed between the two submissions, and another one before the
main thread looks at the counters. -/
theorem reaches_twice (P : PyText) (first second : ConsumedMessage)
    (counted : ∀ message ∈ [first, second], ∀ counters,
      tallyMessage P counters message = counters.add "python-ok") :
    ∃ s report, Reaches (Threads.Step P)
      (.initial (Simulator.run twiceArgs [(printOneSubmission 2000).scenario] ⟨11, 2, 1⟩)) s ∧
      s.main = .ret (.ended report) ∧ s.shared.processed = [first, second] ∧
      report.allConsumed = true ∧ report.errors = 0 ∧
      report.consumed = (Tally.empty.add "python-ok").add "python-ok" := by
  have process : Shared.Moves P ⟨.processing [first], false, .empty, 0, 0, []⟩
      ⟨.processing [], false, Tally.empty.add "python-ok", 0, 0, [first]⟩ := by
    rw [← counted first List.mem_cons_self]
    exact .process rfl
  have process_second : Shared.Moves P
      ⟨.processing [second], false, Tally.empty.add "python-ok", 0, 0, [first]⟩
      ⟨.processing [], false, (Tally.empty.add "python-ok").add "python-ok", 0, 0,
        [first, second]⟩ := by
    rw [← counted second (List.mem_cons_of_mem _ List.mem_cons_self) (Tally.empty.add _)]
    exact .process rfl
  have run : Reaches (Threads.Step P)
      (.initial (Simulator.run twiceArgs [(printOneSubmission 2000).scenario] ⟨11, 2, 1⟩)) _ :=
    .head (.main .time) <| .head (.main (.connect _ .connected)) <| .head (.main (.start rfl)) <|
    .head (.main .time) <| .head (.main (.connect _ .connected)) <| .head (.main .isSet) <|
    .head (.main (.send _ _ _ (.ok ()))) <|
    .head (.consumer (.proceed rfl rfl)) <| .head (.consumer (.poll rfl [[first]])) <|
    .head (.consumer process) <| .head (.consumer (.again rfl)) <|
    .head (.main .isSet) <|
    .head (.main (.send _ _ _ (.ok ()))) <| .head (.main .flush) <| .head (.main .closeProducer) <|
    .head (.consumer (.proceed rfl rfl)) <| .head (.consumer (.poll rfl [[second]])) <|
    .head (.consumer process_second) <|
    .head (.main .isSet) <| .head (.main .time) <| .head (.main .snapshot) <|
    .head (.main .set) <| .head (.main (.join _)) <| .head (.main .close) <|
    .head (.main .snapshot) <| .head (.main .errors) .refl
  exact ⟨_, _, run, rfl, rfl, rfl, rfl, rfl⟩

/-- The run over two results of the scenario. -/
theorem simulator_verdict_twice :
    ∃ s report, Reaches (Threads.Step plainText)
      (.initial (Simulator.run twiceArgs [(printOneSubmission 2000).scenario] ⟨11, 2, 1⟩)) s ∧
      s.main = .ret (.ended report) ∧ report.exitCode = 0 := by
  have counted : ∀ id ∈ ["python-ok-1", "python-ok-2"], ∀ counters : Tally,
      tallyMessage plainText counters ⟨some id, .dict [("id", .str id), ("status", .str "OK")]⟩ =
        counters.add "python-ok" :=
    List.forall_mem_cons.mpr ⟨fun _ => rfl, List.forall_mem_singleton.mpr fun _ => rfl⟩
  obtain ⟨s, report, run, returned, -, all, errors, consumed⟩ := reaches_twice plainText _ _
    (List.forall_mem_cons.mpr ⟨counted _ List.mem_cons_self,
      List.forall_mem_singleton.mpr (counted _ (List.mem_cons_of_mem _ List.mem_cons_self))⟩)
  have verdict := simulator_verdict plainText twiceArgs (List.cons_ne_nil _ [])
    (List.nodup_singleton _) twiceArgs_enough run returned
  have both : ((Tally.empty.add "python-ok").add "python-ok").count =
      Function.update (fun _ => 0) "python-ok" 2 := by
    rw [Tally.count_add, Tally.count_add, Counter.add, Counter.add, Function.update_idem,
      Function.update_self]
    rfl
  refine ⟨s, report, run, returned, (verdict.2.1 report rfl).mpr ⟨all, errors, ?_⟩⟩
  rw [consumed, both]
  rfl

end Scrc
