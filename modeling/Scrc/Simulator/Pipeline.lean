import Mathlib.Data.List.Perm.Subperm
import Scrc.Executor.Workers
import Scrc.Simulator.Threads
import Scrc.Simulator.Wire

/-!
# From the producer to the exit code

The simulator and the service together: the submissions that the producer publishes are the stream
that the service reads, and what the consumer processes are results that the service has reported,
none of them twice.

* `reported_subperm`: at any moment the service has reported on some of the scripts of its stream.
* `countMessages_results`: what results count for.
* `pipeline_verdict`: the simulator counts nothing that it does not expect, and exit code zero means
  that every submission was judged.
-/

namespace Scrc

open Interaction Transition

/-! ## What the service reports -/

section Service

variable {I : Interface} {engine : Engine I} {maxScripts maxParallel : Int} {msgs : List Message}
  {d : Dispatch (List Message)}

/-- The scripts of the messages that have one. -/
def decodedScripts (msgs : List Message) : List Script :=
  (msgs.map decodeScriptMessage).filterMap Except.toOption

theorem filterMap_sublist_map {α β : Type} {f : α → Option β} {g : α → β}
    (same : ∀ a b, f a = some b → b = g a) (l : List α) : (l.filterMap f).Sublist (l.map g) := by
  induction l with
  | nil => exact .slnil
  | cons a l ih =>
      cases found : f a with
      | none =>
          rw [List.filterMap_cons_none found]
          exact ih.cons _
      | some b =>
          rw [List.filterMap_cons_some found, same a b found]
          exact ih.cons_cons _

/-- What has been reported is about scripts of the stream, one report for each. -/
theorem reported_subperm (reachable : Dispatch.Reachable stream engine maxScripts maxParallel msgs d) :
    (d.reported.map RunReport.script).Subperm (decodedScripts msgs) := by
  have inv := Dispatch.reachable_inv reachable
  have fetched : d.fetched <+: decodedScripts msgs := by
    unfold Dispatch.fetched decodedScripts
    obtain ⟨read, rfl, answers | ⟨-, -, err, -, answers⟩⟩ := reachable_reading reachable
    · rw [answers, List.map_append, List.filterMap_append]
      exact List.prefix_append _ _
    · rw [answers, List.map_append, List.filterMap_append, List.filterMap_append]
      exact (List.append_nil _).symm ▸ List.prefix_append _ _
  have started : (d.workers.map Worker.script) <+: d.fetched := by
    rw [inv.fetched]
    exact List.prefix_append _ _
  have finished : (d.workers.filterMap Worker.finished).Sublist (d.workers.map Worker.script) := by
    refine filterMap_sublist_map (fun w script ended => ?_) d.workers
    unfold Worker.finished at ended
    cases pc : w.pc with
    | spawned => simp only [pc, reduceCtorEq] at ended
    | running => simp only [pc, reduceCtorEq] at ended
    | _ =>
        simp only [pc] at ended
        exact (Option.some.inj ended).symm
  refine (inv.reported nofun).subperm.trans ?_
  exact (finished.trans (started.sublist.trans fetched.sublist)).subperm

end Service

/-! ## The stream of the producer -/

/-- The service accepts the submissions of the scenario. -/
structure ScriptScenario.Accepted (s : ScriptScenario) : Prop where
  language : s.language ≠ ""
  source : s.source ≠ ""
  fits : s.Fits

/-- The messages of these submissions, wherever the broker puts them. -/
def SubmittedAs (topic : String) (bs : List Submission) (msgs : List Message) : Prop :=
  List.Forall₂ (fun b m => ∃ offset, m = b.message topic offset) bs msgs

/-- The script of a submission. -/
def Submission.script (b : Submission) : Script := b.scenario.script b.iteration

theorem decode_accepted {b : Submission} (accepted : b.scenario.Accepted) (topic : String)
    (offset : Int64) : decodeScriptMessage (b.message topic offset) = .ok b.script := by
  have payload := parse_payload b.scenario b.iteration
  exact (decodeScriptMessage_toPayload accepted.language accepted.source payload).mpr
    ⟨accepted.fits, rfl⟩

theorem decodedScripts_submitted {topic : String} {bs : List Submission} {msgs : List Message}
    (accepted : ∀ b ∈ bs, b.scenario.Accepted) (submitted : SubmittedAs topic bs msgs) :
    decodedScripts msgs = bs.map Submission.script := by
  induction submitted with
  | nil => rfl
  | @cons b m bs msgs same _ ih =>
      obtain ⟨own, others⟩ := List.forall_mem_cons.mp accepted
      obtain ⟨offset, rfl⟩ := same
      have rest := ih others
      unfold decodedScripts at rest ⊢
      rw [List.map_cons, decode_accepted own, List.map_cons, ← rest]
      rfl

theorem mem_passes {scenarios : List ScriptScenario} {first count : Nat} {b : Submission}
    (member : b ∈ passes scenarios first count) : b.scenario ∈ scenarios := by
  induction count generalizing first with
  | zero => cases member
  | succ count ih =>
      rcases List.mem_append.mp member with now | later
      · obtain ⟨s, inside, rfl⟩ := List.mem_map.mp now
        exact inside
      · exact ih later

/-! ## What results count for -/

/-- The message is a result of this report: its bytes, published at some time, deserialized. -/
def ResultOf (report : RunReport) (message : ConsumedMessage) : Prop :=
  ∃ now payload, encodeRunReport now report = .ok payload ∧
    Deserialized report.script.id payload message

section Counting

variable {P : PyText} {bs : List Submission} {reports : List RunReport}
  {messages : List ConsumedMessage} {type : String}

/-- A result counts for the submission whose script it is about. -/
theorem countMessage_result {b : Submission} {report : RunReport} {message : ConsumedMessage}
    (language : b.scenario.language ≠ "") (own : report.script = b.script)
    (result : ResultOf report message) (counters : Counter) :
    countMessage P counters message = counters.add b.scenario.type := by
  obtain ⟨now, payload, encoded, deserialized⟩ := result
  obtain ⟨received, delivered, -, -, counted⟩ := deserialized_counted P encoded deserialized
  have id : report.script.id = lit b.id := by
    rw [own]
    rfl
  rw [counted, consumeMessage_scriptId language (delivered.scriptId id)]

/-- The script is of a submission of this type. -/
def OfType (bs : List Submission) (type : String) (script : Script) : Bool :=
  bs.any fun b => b.scenario.type = type && b.script.id = script.id

/-- The id of a script says which type its submission has. -/
theorem ofType_script {b : Submission} (member : b ∈ bs) :
    OfType bs type b.script = decide (b.scenario.type = type) := by
  by_cases own : b.scenario.type = type
  · rw [decide_eq_true own]
    refine List.any_eq_true.mpr ⟨b, member, ?_⟩
    simp [own]
  · rw [decide_eq_false own]
    refine List.any_eq_false.mpr fun b' _ both => ?_
    simp only [Bool.and_eq_true, decide_eq_true_eq] at both
    obtain ⟨other, same⟩ := both
    have ids : b'.id = b.id := lit_injective same
    exact own ((Submission.parts_of_id ids).1 ▸ other)

/-- Results of submissions count for their types. -/
theorem countMessages_results (language : ∀ b ∈ bs, b.scenario.language ≠ "")
    (of : ∀ report ∈ reports, ∃ b ∈ bs, report.script = b.script)
    (results : List.Forall₂ ResultOf reports messages) (old : Counter) :
    messages.foldl (countMessage P) old type =
      old type + (reports.map RunReport.script).countP (OfType bs type) := by
  induction results generalizing old with
  | nil => rfl
  | @cons report message reports messages result _ ih =>
      obtain ⟨⟨b, member, own⟩, others⟩ := List.forall_mem_cons.mp of
      rw [List.foldl_cons, countMessage_result (language b member) own result, ih others,
        List.map_cons, List.countP_cons, own, ofType_script member, Counter.add]
      by_cases here : b.scenario.type = type
      · simp only [here, Function.update_self, decide_true, ↓reduceIte]
        omega
      · simp only [Function.update_of_ne (Ne.symm here), here, decide_false, Bool.false_eq_true,
          ↓reduceIte, Nat.add_zero]

end Counting

/-! ## The verdict -/

theorem countMessages_prefix (P : PyText) {seen messages : List ConsumedMessage}
    (first : seen <+: messages) (type : String) :
    countMessages P seen type ≤ countMessages P messages type := by
  obtain ⟨rest, rfl⟩ := first
  unfold countMessages
  rw [List.foldl_append]
  generalize seen.foldl (countMessage P) (fun _ => 0) = counters
  induction rest generalizing counters with
  | nil => exact Nat.le_refl _
  | cons message rest ih =>
      exact (countMessage_le P counters message type).trans (ih (countMessage P counters message))

/-- What is expected of a type are the submissions of the type that are due. -/
theorem expected_eq_due {args : SimulatorArgs} {scenarios : List ScriptScenario}
    (distinct : (scenarios.map ScriptScenario.type).Nodup) (type : String) :
    expectedCountsFromScenarios scenarios args.iterations type =
      ((args.due scenarios).map Submission.script).countP (OfType (args.due scenarios) type) := by
  have counted : ((args.due scenarios).map Submission.script).countP
      (OfType (args.due scenarios) type) =
        (args.due scenarios).countP fun b => b.scenario.type = type := by
    rw [List.countP_map]
    exact List.countP_congr fun b member => by
      rw [Function.comp_apply, ofType_script member]
  rw [counted]
  unfold SimulatorArgs.due
  by_cases finite : 0 < args.iterations
  · have whole := addAll_passes distinct (args.iterations.toNat - 1)
    rw [show args.iterations.toNat - 1 + 1 = args.iterations.toNat by omega,
      Int.toNat_of_nonneg (by omega)] at whole
    rw [← whole, Counter.addAll_apply, Nat.zero_add]
  · rw [show args.iterations.toNat = 0 by omega]
    unfold expectedCountsFromScenarios
    rw [if_pos (by omega)]
    rfl

/-- As many scripts of each type are all of them. -/
theorem perm_of_types {bs : List Submission} {scripts : List Script}
    (some_of : scripts.Subperm (bs.map Submission.script))
    (all : ∀ type, (bs.map Submission.script).countP (OfType bs type) ≤
      scripts.countP (OfType bs type)) : scripts.Perm (bs.map Submission.script) := by
  refine some_of.perm_of_length_le (Nat.not_lt.mp fun fewer => ?_)
  obtain ⟨script, more⟩ := some_of.exists_of_length_lt fewer
  obtain ⟨b, member, rfl⟩ := List.mem_map.mp (more.subset List.mem_cons_self)
  have counted := more.countP_le (OfType bs b.scenario.type)
  have own := all b.scenario.type
  rw [List.countP_cons, ofType_script member, decide_eq_true rfl, if_pos rfl] at counted
  omega

/-- **From the producer to the exit code.**  The service reads a part of the submissions that are
due, with any parallelism on one daemon, and what the consumer processes are results that it has
reported, none of them twice.  Then the simulator counts no more than it expects of any type.  It
ends with exit code zero exactly when the wait was for everything and no error of the consumer was
read.  And exit code zero says that every submission that is due has its one result, which reports
the judgement on its script. -/
theorem pipeline_verdict (P : PyText) (args : SimulatorArgs) {scenarios : List ScriptScenario}
    (some_scenario : scenarios ≠ []) (distinct : (scenarios.map ScriptScenario.type).Nodup)
    (accepted : ∀ s ∈ scenarios, s.Accepted) {bounds : Bounds} (enough : bounds.Enough args)
    {s : Threads} {report : SimulatorReport}
    (run : Reaches (Threads.Step P) (.initial (Simulator.run args scenarios bounds)) s)
    (returned : s.main = .ret (.ended report))
    {cfg : DockerConfig} {engine : Engine Docker} (built : newEngineWithClient cfg = .ok engine)
    {B : Behaviour} {artifact : Workload → GoString → List TarEntry} {maxParallel : Int}
    {done : List Submission} (begun : done <+: args.due scenarios) {msgs : List Message}
    (submitted : SubmittedAs args.scriptTopic done msgs)
    {w : Workers Docker (List Message) SharedDaemon}
    (served : Reaches (Workers.Step stream engine 0 maxParallel (SharedDaemon.answers B artifact))
      (Workers.initial msgs {}) w)
    {reports : List RunReport} (once : reports.Subperm w.dispatch.reported)
    (results : List.Forall₂ ResultOf reports s.shared.processed) :
    (∀ type, report.consumed.count type ≤
      expectedCountsFromScenarios scenarios args.iterations type) ∧
    (report.exitCode = 0 ↔ report.allConsumed = true ∧ report.errors = 0) ∧
    (report.exitCode = 0 →
      (reports.map fun report => (report.script, report.judgement)).Perm
        ((args.due scenarios).map fun b => (b.script, cfg.judge B artifact b.script))) := by
  have facts := (Threads.reported some_scenario distinct enough run returned).2 report rfl
  have due_accepted : ∀ b ∈ args.due scenarios, b.scenario.Accepted :=
    fun b member => accepted _ (mem_passes member)
  have some_of : (reports.map RunReport.script).Subperm
      ((args.due scenarios).map Submission.script) := by
    obtain ⟨l, perm, inside⟩ := once
    have served := reported_subperm (Workers.refines served)
    rw [decodedScripts_submitted (fun b member => due_accepted b (begun.subset member)) submitted]
      at served
    have reported : (reports.map RunReport.script).Subperm
        (w.dispatch.reported.map RunReport.script) := ⟨_, perm.map _, inside.map _⟩
    exact reported.trans (served.trans (begun.sublist.map _).subperm)
  have counted : ∀ type, countMessages P s.shared.processed type =
      (reports.map RunReport.script).countP (OfType (args.due scenarios) type) := by
    intro type
    refine (countMessages_results (fun b member => (due_accepted b member).language) ?_ results
      fun _ => 0).trans (Nat.zero_add _)
    intro report member
    obtain ⟨b, inside, same⟩ := List.mem_map.mp (some_of.subset (List.mem_map_of_mem member))
    exact ⟨b, inside, same.symm⟩
  have consumed : ∀ type, report.consumed.count type ≤ countMessages P s.shared.processed type := by
    intro type
    obtain ⟨seen, first, same⟩ := (Threads.inv_of_reaches run).reads _ facts.consumed
    rw [same]
    exact countMessages_prefix P first type
  have bounded : ∀ type, countMessages P s.shared.processed type ≤
      expectedCountsFromScenarios scenarios args.iterations type := by
    intro type
    rw [counted, expected_eq_due distinct]
    exact some_of.countP_le _
  have below := fun type => (consumed type).trans (bounded type)
  refine ⟨below, ?_, fun zero => ?_⟩
  · rw [facts.exitCode_zero]
    refine ⟨fun ⟨all, errors, _⟩ => ⟨all, errors⟩, fun ⟨all, errors⟩ => ⟨all, errors, ?_⟩⟩
    obtain ⟨-, -, -, covered⟩ := facts.waited all
    funext type
    refine Nat.le_antisymm (below type) ?_
    have own := covered type
    rw [facts.expected, count_expectedTally] at own
    exact own
  · obtain ⟨-, -, same⟩ := facts.exitCode_zero.mp zero
    have whole := perm_of_types some_of fun type => by
      rw [← counted, ← expected_eq_due distinct, ← same]
      exact consumed type
    have judged : (reports.map fun report => (report.script, report.judgement)) =
        (reports.map RunReport.script).map fun script =>
          (script, cfg.judge B artifact script) := by
      rw [List.map_map]
      refine List.map_congr_left fun report member => ?_
      have own := reported_judged built served report (once.subset member)
      exact congrArg (Prod.mk report.script) own
    rw [judged]
    refine (whole.map _).trans (List.Perm.of_eq ?_)
    rw [List.map_map]
    rfl

/-- A message that counts for a type. -/
theorem tallyMessage_add {P : PyText} {message : ConsumedMessage} {name : String}
    (counted : countMessage P (fun _ => 0) message = Counter.add (fun _ => 0) name)
    (counters : Tally) : tallyMessage P counters message = counters.add name := by
  have once : countMessage P (fun _ => 0) message name = 1 := by
    rw [counted]
    exact Function.update_self ..
  unfold countMessage at once
  unfold tallyMessage
  cases summary : message.summary P with
  | none => simp only [summary, Nat.zero_ne_one] at once
  | some summary =>
      cases type : message.scriptType with
      | error err => simp only [summary, type, Nat.zero_ne_one] at once
      | ok found =>
          cases found with
          | none => simp only [summary, type, Nat.zero_ne_one] at once
          | some found =>
              simp only [summary, type] at once ⊢
              by_cases empty : found = ""
              · simp only [empty, ↓reduceIte, Nat.zero_ne_one] at once
              · simp only [empty, ↓reduceIte] at once ⊢
                by_cases here : name = found
                · rw [here]
                · rw [Counter.add, Function.update_of_ne here] at once
                  exact absurd once Nat.zero_ne_one

/-- A result of a submission can be written, and is received. -/
theorem exists_result {b : Submission} {report : RunReport} (own : report.script = b.script) :
    ∃ message, ResultOf report message := by
  have encoded := encodeRunReport_ok.mpr ⟨show newYear.year ≤ 9999 by decide,
    Eq.refl (Json.print (makeResultEnvelope newYear.text report).toJson)⟩
  have id : Json.wellFormed report.script.id = true := by
    rw [own]
    exact Json.wellFormed_iff_string.mpr ⟨b.id, rfl⟩
  obtain ⟨message, deserialized⟩ := (deserialized_iff encoded).mpr id
  exact ⟨message, _, _, encoded, deserialized⟩

/-- The scenario of the witness, and its first two submissions. -/
def printOneTwice : List Message :=
  [(⟨(printOneSubmission 2000).scenario, 1⟩ : Submission).message "scripts" 0,
    (⟨(printOneSubmission 2000).scenario, 2⟩ : Submission).message "scripts" 1]

theorem printOne_accepted : (printOneSubmission 2000).scenario.Accepted :=
  ⟨by decide, by decide, by decide, by decide, by decide⟩

/-- The service reports on both submissions, in one order or the other. -/
theorem printOneTwice_reported {w : Workers Docker (List Message) SharedDaemon}
    (reachable : Dispatch.Reachable stream pythonEngine 0 2 printOneTwice w.dispatch)
    {err : Option GoError} (back : w.dispatch.loop = .returned err) :
    ∃ first second n m, w.dispatch.reported = [first, second] ∧
      first.script = (⟨(printOneSubmission 2000).scenario, n⟩ : Submission).script ∧
      second.script = (⟨(printOneSubmission 2000).scenario, m⟩ : Submission).script := by
  let scenario := (printOneSubmission 2000).scenario
  have executed : executedScripts 0 printOneTwice = [(⟨scenario, 1⟩ : Submission).script,
      (⟨scenario, 2⟩ : Submission).script] := by
    unfold executedScripts printOneTwice
    rw [List.map_cons, List.map_singleton,
      decode_accepted (b := ⟨scenario, 1⟩) printOne_accepted,
      decode_accepted (b := ⟨scenario, 2⟩) printOne_accepted]
    rfl
  have reported := (Dispatch.reachable_inv reachable).reported_fetched back nofun
  rw [(fetched_of_stream reachable back).1, executed] at reported
  have own : ∀ report ∈ w.dispatch.reported,
      ∃ n, report.script = (⟨scenario, n⟩ : Submission).script := by
    intro report member
    rcases List.mem_cons.mp (reported.subset (List.mem_map_of_mem member)) with same | later
    · exact ⟨1, same⟩
    · exact ⟨2, List.mem_singleton.mp later⟩
  obtain ⟨first, second, here⟩ := List.length_eq_two.mp
    ((List.length_map RunReport.script).symm.trans reported.length_eq)
  rw [here] at own
  obtain ⟨n, ownFirst⟩ := own first List.mem_cons_self
  obtain ⟨m, ownSecond⟩ := own second (List.mem_cons_of_mem _ List.mem_cons_self)
  exact ⟨first, second, n, m, here, ownFirst, ownSecond⟩

/-- Two submissions of the scenario on their way through service and simulator: the service runs
them side by side, and what was reported first is received first. -/
theorem pipeline_verdict_twice :
    ∃ s report reports, Reaches (Threads.Step plainText)
      (.initial (Simulator.run twiceArgs [(printOneSubmission 2000).scenario] ⟨11, 2, 1⟩)) s ∧
      s.main = .ret (.ended report) ∧ report.exitCode = 0 ∧
      List.Forall₂ ResultOf reports s.shared.processed ∧
      (reports.map fun report => (report.script, report.judgement)).Perm
        ((twiceArgs.due [(printOneSubmission 2000).scenario]).map fun b =>
          (b.script, pythonConfig.judge echo (leaves []) b.script)) := by
  have submitted : SubmittedAs "scripts" (twiceArgs.due [(printOneSubmission 2000).scenario])
      printOneTwice := .cons ⟨0, rfl⟩ (.cons ⟨1, rfl⟩ .nil)
  -- the service
  obtain ⟨w, err, served, back⟩ := Workers.returns stream_finite (stream_responsive pythonEngine)
    (SharedDaemon.answering (fun _ => Option.some_ne_none 0) (leaves []))
    (.refl : Reaches (Workers.Step stream pythonEngine 0 2 (SharedDaemon.answers echo (leaves [])))
      (Workers.initial printOneTwice {}) _)
  obtain ⟨first, second, n, m, here, ownFirst, ownSecond⟩ :=
    printOneTwice_reported (Workers.refines served) back
  -- its results
  obtain ⟨result, ofFirst⟩ := exists_result ownFirst
  obtain ⟨result', ofSecond⟩ := exists_result ownSecond
  -- the simulator
  have language := printOne_accepted.language
  obtain ⟨s, verdict, run, returned, processed, all, errors, -⟩ := reaches_twice plainText
    result result' (List.forall_mem_cons.mpr
      ⟨tallyMessage_add (countMessage_result (b := ⟨_, n⟩) language ownFirst ofFirst _),
        List.forall_mem_singleton.mpr <|
          tallyMessage_add (countMessage_result (b := ⟨_, m⟩) language ownSecond ofSecond _)⟩)
  have received : List.Forall₂ ResultOf [first, second] s.shared.processed := by
    rw [processed]
    exact .cons ofFirst (.cons ofSecond .nil)
  obtain ⟨-, zero, judged⟩ := pipeline_verdict plainText twiceArgs (List.cons_ne_nil _ [])
    (List.nodup_singleton _) (List.forall_mem_singleton.mpr printOne_accepted) twiceArgs_enough run
    returned pythonEngine_built (List.prefix_refl _) submitted served
    (show [first, second].Subperm w.dispatch.reported by rw [here]) received
  exact ⟨s, verdict, _, run, returned, zero.mpr ⟨all, errors⟩, received,
    judged (zero.mpr ⟨all, errors⟩)⟩

end Scrc
