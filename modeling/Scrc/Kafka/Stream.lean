import Scrc.Docker.Preparation
import Scrc.Executor.DispatchProgress
import Scrc.Executor.DispatchSafety
import Scrc.Kafka.Decode

/-!
# A stream of messages through consumer and executor

`ExecuteFromProducer` over a `Consumer` that is given a finite stream of messages.  The consumer
returns a decoding failure in the place where it returns the end of the input, and the executor
stops at both: at a done message without an error, at a malformed message with one.

* `done_or_malformed`: the two kinds of messages that carry no script.
* `Reading`: what has been read of the stream, as an invariant of the dispatch loop.
* `fetched_of_stream`, `unread_of_stream`: what a call has fetched at its return, and what it has
  left.
* `stream_executed`: what a call has executed, reported and read at its return, and what it returns.
-/

namespace Scrc

open Interaction Transition

/-! ## Decoded messages -/

/-- A message with a script. -/
def WellFormed (msg : Message) : Prop := ∃ script, decodeScriptMessage msg = .ok script

/-- A message that ends the input. -/
def Done (msg : Message) : Prop := decodeScriptMessage msg = .error .eof

/-- A message that cannot be decoded: its error is none of the sentinels. -/
def Malformed (msg : Message) (err : GoError) : Prop :=
  decodeScriptMessage msg = .error err ∧ err.chain = []

theorem unmarshalEnvelope_error {data : GoString} {err : GoError}
    (h : unmarshalEnvelope data = .error err) : err.chain = [] := by
  unfold unmarshalEnvelope at h
  cases parsed : Json.parse data with
  | error cause =>
      rw [parsed] at h
      cases h
      rfl
  | ok v =>
      rw [parsed] at h
      cases decoded : decodeEnvelope v with
      | error cause =>
          simp only [decoded] at h
          cases h
          rfl
      | ok envelope =>
          simp only [decoded] at h
          cases h

theorem toScript_error {e : ScriptEnvelope} {msg : Message} {err : GoError}
    (h : e.toScript msg = .error err) : err.chain = [] := by
  unfold ScriptEnvelope.toScript at h
  by_cases noSource : e.source = []
  · rw [if_pos noSource] at h
    cases h
    rfl
  · by_cases noLanguage : e.language = []
    · rw [if_neg noSource, if_pos noLanguage] at h
      cases h
      rfl
    · rw [if_neg noSource, if_neg noLanguage] at h
      cases h

theorem dispatch_error {e : ScriptEnvelope} {msg : Message} {err : GoError}
    (h : e.dispatch msg = .error err) : err = .eof ∨ err.chain = [] := by
  unfold ScriptEnvelope.dispatch at h
  generalize (if e.type = [] then lit "script" else e.type) = type at h
  by_cases script : type = lit "script"
  · simp only [if_pos script] at h
    exact Or.inr (toScript_error h)
  · by_cases done : type = lit "done"
    · simp only [if_neg script, if_pos done] at h
      cases h
      exact Or.inl rfl
    · simp only [if_neg script, if_neg done] at h
      cases h
      exact Or.inr rfl

/-- Decoding fails with the error of a done message, or with one that has no sentinel. -/
theorem decode_error {msg : Message} {err : GoError} (h : decodeScriptMessage msg = .error err) :
    err = .eof ∨ err.chain = [] := by
  unfold decodeScriptMessage at h
  cases unmarshalled : unmarshalEnvelope msg.value with
  | error cause =>
      simp only [unmarshalled] at h
      cases h
      have plain : cause.chain = [] := unmarshalEnvelope_error unmarshalled
      exact Or.inr plain
  | ok envelope =>
      simp only [unmarshalled] at h
      exact dispatch_error h

theorem stopError_malformed {err : GoError} (h : err.chain = []) :
    stopError err = some (.wrap "get next script" err) := by
  simp only [stopError, GoError.is, h, List.not_mem_nil, decide_false, Bool.false_eq_true, or_self,
    ↓reduceIte]

/-! ## What a stream holds -/

/-- The scripts before the first answer that is none. -/
def leading : List (Except GoError Script) → List Script
  | .ok script :: rest => script :: leading rest
  | _ => []

/-- The first answer that is no script. -/
def firstError : List (Except GoError Script) → Option GoError
  | [] => none
  | .ok _ :: rest => firstError rest
  | .error err :: _ => some err

/-- The scripts that are executed: those before the first message without one, within the limit. -/
def executedScripts (maxScripts : Int) (msgs : List Message) : List Script :=
  let scripts := leading (msgs.map decodeScriptMessage)
  if maxScripts > 0 then scripts.take maxScripts.toNat else scripts

/-- What `ExecuteFromProducer` returns: the error of the first message without a script, when it is
reached within the limit and not a done message. -/
def returnedError (maxScripts : Int) (msgs : List Message) : Option GoError :=
  let answers := msgs.map decodeScriptMessage
  if maxScripts > 0 ∧ (leading answers).length ≥ maxScripts then none
  else (firstError answers).bind stopError

/-- A consumer over the messages not read yet.  Past the last one reading ends with the context or
the input.  The callback leaves the stream alone, and nothing else happens to it. -/
def stream : Surroundings (List Message) where
  nextScript unread answer unread' :=
    match unread with
    | msg :: rest => answer = Consumer.nextScript (.ok msg) ∧ unread' = rest
    | [] => unread' = [] ∧ ∃ err, stopError err = none ∧ answer = Consumer.nextScript (.error err)
  onReport := some fun unread _ unread' => unread' = unread
  elsewhere _ _ := False

theorem stream_finite : Dispatch.Finite stream List.length where
  script := by
    intro unread script unread' answer
    cases unread with
    | nil =>
        obtain ⟨-, err, -, absurd⟩ := answer
        cases absurd
    | cons msg rest =>
        obtain ⟨-, rfl⟩ := answer
        exact Nat.lt_succ_self _
  error := by
    intro unread err unread' answer
    cases unread with
    | nil =>
        obtain ⟨rfl, -⟩ := answer
        exact Nat.le_refl _
    | cons msg rest =>
        obtain ⟨-, rfl⟩ := answer
        exact Nat.le_succ _
  callback := by
    intro f unread report unread' present effect
    cases present
    exact Nat.le_of_eq (congrArg List.length effect)
  elsewhere := id

theorem stream_responsive (engine : Engine Docker) : Dispatch.Responsive stream engine where
  producer := by
    intro unread
    cases unread with
    | nil => exact ⟨_, [], rfl, .eof, rfl, rfl⟩
    | cons msg rest => exact ⟨_, rest, rfl, rfl⟩
  runtime script :=
    ⟨_, _, exec_answered servingDaemon (SuiteRunner.run engine script) []⟩
  callback := by
    intro f present unread report
    cases present
    exact ⟨unread, rfl⟩

/-! ## Reading the stream -/

/-- The loop has left its body. -/
def LoopPc.ending : LoopPc → Bool
  | .waiting _ => true
  | .returned _ => true
  | _ => false

/-- The answers are those to a part of the stream that has been read; when reading has ended, to
all of it, and one more. -/
def Reading (msgs : List Message) (s : Dispatch (List Message)) : Prop :=
  ∃ read, read ++ s.around = msgs ∧
    (s.answers = read.map decodeScriptMessage ∨
      s.loop.ending = true ∧ s.around = [] ∧ ∃ err, stopError err = none ∧
        s.answers = read.map decodeScriptMessage ++ [.error err])

section Reading

variable {I : Interface} {engine : Engine I} {maxScripts maxParallel : Int} {msgs : List Message}
  {s s' : Dispatch (List Message)}

/-- A step that reads nothing. -/
theorem Reading.keep (reading : Reading msgs s) (around : s'.around = s.around)
    (answers : s'.answers = s.answers) (loop : s.loop.ending = true → s'.loop.ending = true) :
    Reading msgs s' := by
  obtain ⟨read, split, stillReading | ⟨ending, empty, err, stops, same⟩⟩ := reading
  · exact ⟨read, by rw [around, split], Or.inl (answers.trans stillReading)⟩
  · exact ⟨read, by rw [around, split],
      Or.inr ⟨loop ending, around.trans empty, err, stops, answers.trans same⟩⟩

theorem Reading.step (reading : Reading msgs s)
    (step : Dispatch.Step stream engine maxScripts maxParallel s s') : Reading msgs s' := by
  have before : ∀ pc, s.loop = pc → pc.ending = false →
      ∃ read, read ++ s.around = msgs ∧ s.answers = read.map decodeScriptMessage := by
    intro pc here body
    obtain ⟨read, split, stillReading | ⟨ending, -⟩⟩ := reading
    · exact ⟨read, split, stillReading⟩
    · rw [here, body] at ending
      cases ending
  -- reading a message moves it to those that were read
  have next : ∀ {read : List Message} {msg : Message} {rest : List Message},
      read ++ msg :: rest = msgs → ∃ read', read' ++ rest = msgs ∧
        read'.map decodeScriptMessage = read.map decodeScriptMessage ++ [decodeScriptMessage msg] := by
    intro read msg rest split
    refine ⟨read ++ [msg], ?_, List.map_append⟩
    rw [List.append_assoc]
    exact split
  cases step with
  | limit here reached => exact reading.keep rfl rfl fun _ => rfl
  | fetch here below => exact reading.keep rfl rfl fun ending => by rw [here] at ending; cases ending
  | @failed err unread' here answer =>
      obtain ⟨read, split, answers⟩ := before _ here rfl
      cases unread : s.around with
      | nil =>
          rw [unread] at answer split
          obtain ⟨rfl, err', stops, same⟩ := answer
          cases same
          exact ⟨read, split, Or.inr ⟨rfl, rfl, err, stops, by rw [answers]⟩⟩
      | cons msg rest =>
          rw [unread] at answer split
          obtain ⟨same, rfl⟩ := answer
          obtain ⟨read', split', decoded⟩ := next split
          refine ⟨read', split', Or.inl ?_⟩
          rw [answers, decoded, same]
          rfl
  | @script script unread' here answer =>
      obtain ⟨read, split, answers⟩ := before _ here rfl
      cases unread : s.around with
      | nil =>
          rw [unread] at answer
          obtain ⟨-, err, -, absurd⟩ := answer
          cases absurd
      | cons msg rest =>
          rw [unread] at answer split
          obtain ⟨same, rfl⟩ := answer
          obtain ⟨read', split', decoded⟩ := next split
          refine ⟨read', split', Or.inl ?_⟩
          rw [answers, decoded, same]
          rfl
  | acquire here room =>
      exact reading.keep rfl rfl fun ending => by rw [here] at ending; cases ending
  | add here => exact reading.keep rfl rfl fun ending => by rw [here] at ending; cases ending
  | count here => exact reading.keep rfl rfl fun ending => by rw [here] at ending; cases ending
  | spawn here => exact reading.keep rfl rfl fun ending => by rw [here] at ending; cases ending
  | wait here zero => exact reading.keep rfl rfl fun _ => rfl
  | run here => exact reading.keep rfl rfl id
  | finish here returns silent => exact reading.keep rfl rfl id
  | announce here returns called => exact reading.keep rfl rfl id
  | report here effect =>
      obtain ⟨f, present, effect⟩ := effect
      cases present
      exact reading.keep effect rfl id
  | release here held => exact reading.keep rfl rfl id
  | done here => exact reading.keep rfl rfl id
  | elsewhere moves => exact absurd moves id

theorem reachable_reading
    (reachable : Dispatch.Reachable stream engine maxScripts maxParallel msgs s) :
    Reading msgs s :=
  reachable.invariant (fun _ _ reading step => reading.step step) ⟨[], rfl, Or.inl rfl⟩

end Reading

/-! ## Lists of answers -/

open Dispatch

theorem leading_append {answers : List (Except GoError Script)} (all : AllScripts answers)
    (rest : List (Except GoError Script)) :
    leading (answers ++ rest) = answers.filterMap Except.toOption ++ leading rest := by
  induction answers with
  | nil => rfl
  | cons a answers ih =>
      obtain ⟨script, rfl⟩ := all a List.mem_cons_self
      have later := ih fun b member => all b (List.mem_cons_of_mem _ member)
      exact congrArg (script :: ·) later

theorem firstError_append {answers : List (Except GoError Script)} (all : AllScripts answers)
    (rest : List (Except GoError Script)) : firstError (answers ++ rest) = firstError rest := by
  induction answers with
  | nil => rfl
  | cons a answers ih =>
      obtain ⟨script, rfl⟩ := all a List.mem_cons_self
      exact ih fun b member => all b (List.mem_cons_of_mem _ member)

theorem not_allScripts_error {answers : List (Except GoError Script)} {err : GoError} :
    ¬ AllScripts (answers ++ [.error err]) := by
  intro all
  obtain ⟨script, absurd⟩ := all (.error err) (List.mem_append_right _ List.mem_cons_self)
  cases absurd

/-- Fewer scripts than the limit are all executed. -/
theorem take_below {scripts : List Script} {maxScripts : Int}
    (below : maxScripts > 0 → (scripts.length : Int) < maxScripts) :
    (if maxScripts > 0 then scripts.take maxScripts.toNat else scripts) = scripts := by
  split
  · rename_i positive
    have bound := below positive
    exact List.take_of_length_le (by omega)
  · rfl

/-- The answers to messages are scripts when the messages are well-formed. -/
theorem allScripts_decoded {read : List Message} :
    AllScripts (read.map decodeScriptMessage) ↔ ∀ m ∈ read, WellFormed m :=
  List.forall_mem_map

/-- There is one first element without the property. -/
theorem split_first {α : Type} {P : α → Prop} {l l' r r' : List α} {a a' : α}
    (same : l ++ a :: r = l' ++ a' :: r') (all : ∀ b ∈ l, P b) (all' : ∀ b ∈ l', P b)
    (here : ¬ P a) (here' : ¬ P a') : l = l' ∧ a = a' ∧ r = r' := by
  induction l generalizing l' with
  | nil =>
      cases l' with
      | nil =>
          obtain ⟨rfl, rfl⟩ := List.cons.inj same
          exact ⟨rfl, rfl, rfl⟩
      | cons b l' =>
          obtain ⟨rfl, -⟩ := List.cons.inj same
          exact absurd (all' a List.mem_cons_self) here
  | cons b l ih =>
      cases l' with
      | nil =>
          obtain ⟨rfl, -⟩ := List.cons.inj same
          exact absurd (all b List.mem_cons_self) here'
      | cons b' l' =>
          obtain ⟨rfl, rest⟩ := List.cons.inj same
          obtain ⟨rfl, rfl, rfl⟩ := ih rest (fun b member => all b (List.mem_cons_of_mem _ member))
            fun b member => all' b (List.mem_cons_of_mem _ member)
          exact ⟨rfl, rfl, rfl⟩

/-! ## A first message without a script -/

section Split

variable {maxScripts : Int} {msgs before after : List Message} {msg : Message} {cause : GoError}

theorem not_wellFormed_iff : ¬ WellFormed msg ↔ ∃ cause, decodeScriptMessage msg = .error cause := by
  unfold WellFormed
  cases decodeScriptMessage msg with
  | error cause => exact ⟨fun _ => ⟨cause, rfl⟩, fun _ ⟨_, absurd⟩ => nomatch absurd⟩
  | ok script => exact ⟨fun none => absurd ⟨script, rfl⟩ none, fun ⟨_, absurd⟩ => nomatch absurd⟩

/-- There is no third kind of message without a script. -/
theorem done_or_malformed (failed : decodeScriptMessage msg = .error cause) :
    Done msg ∨ ∃ cause, Malformed msg cause := by
  rcases decode_error failed with rfl | plain
  · exact Or.inl failed
  · exact Or.inr ⟨cause, failed, plain⟩

theorem answers_split (split : msgs = before ++ msg :: after)
    (failed : decodeScriptMessage msg = .error cause) :
    msgs.map decodeScriptMessage =
      before.map decodeScriptMessage ++ .error cause :: after.map decodeScriptMessage := by
  rw [split, List.map_append, List.map_cons, failed]

/-- Only the scripts before the message count, as if the stream had ended there. -/
theorem leading_split (split : msgs = before ++ msg :: after) (all : ∀ m ∈ before, WellFormed m)
    (failed : decodeScriptMessage msg = .error cause) :
    leading (msgs.map decodeScriptMessage) = leading (before.map decodeScriptMessage) := by
  have scripts := allScripts_decoded.mpr all
  have whole := leading_append scripts []
  rw [List.append_nil] at whole
  rw [answers_split split failed, leading_append scripts, whole]
  rfl

/-- Within the limit the error of the message is the first one, and the loop ends with what it makes
of it. -/
theorem returnedError_split (split : msgs = before ++ msg :: after)
    (all : ∀ m ∈ before, WellFormed m) (failed : decodeScriptMessage msg = .error cause)
    (below : maxScripts > 0 → (before.length : Int) < maxScripts) :
    returnedError maxScripts msgs = stopError cause := by
  have scripts := allScripts_decoded.mpr all
  have count := scripts.length_fetched
  rw [List.length_map] at count
  have whole := leading_append scripts []
  rw [List.append_nil] at whole
  unfold returnedError
  simp only [leading_split split all failed, whole, leading, List.append_nil]
  rw [if_neg (by omega), answers_split split failed, firstError_append scripts]
  rfl

end Split

/-! ## At the return -/

section Return

variable {I : Interface} {engine : Engine I} {maxScripts maxParallel : Int} {msgs : List Message}
  {s : Dispatch (List Message)}

/-- At the return the scripts fetched and the error are those that the stream determines. -/
theorem fetched_of_stream
    (reachable : Dispatch.Reachable stream engine maxScripts maxParallel msgs s)
    {err : Option GoError} (returned : s.loop = .returned err) :
    s.fetched = executedScripts maxScripts msgs ∧ err = returnedError maxScripts msgs := by
  have ended := reachable_sequence reachable
  unfold Sequence at ended
  rw [returned] at ended
  obtain ⟨read, rfl, answers | ⟨-, empty, stop, stops, answers⟩⟩ := reachable_reading reachable
  · have split : (read ++ s.around).map decodeScriptMessage =
        s.answers ++ s.around.map decodeScriptMessage := by
      rw [List.map_append, answers]
    unfold executedScripts returnedError
    rcases ended with ⟨positive, scripts, length, rfl⟩ | ⟨before, cause, same, scripts, below, rfl⟩
    · -- the limit was reached
      have count := scripts.length_fetched
      simp only [split, leading_append scripts, positive, ↓reduceIte, List.length_append, true_and]
      constructor
      · rw [List.take_append_of_le_length (by omega), List.take_of_length_le (by omega)]
        rfl
      · rw [if_pos (by omega)]
    · -- a message without a script was read
      have count := scripts.length_fetched
      have fetched : s.fetched = before.filterMap Except.toOption := by
        unfold Dispatch.fetched
        rw [same, fetched_failed]
      rw [same, List.append_assoc] at split
      simp only [split, leading_append scripts, firstError_append scripts, List.singleton_append,
        leading, firstError, List.append_nil, Option.bind_some]
      constructor
      · rw [take_below (by omega)]
        exact fetched
      · rw [if_neg (by omega)]
  · -- the stream was read to its end
    rw [empty, List.append_nil]
    rcases ended with ⟨-, scripts, -, -⟩ | ⟨before, cause, same, scripts, below, rfl⟩
    · rw [answers] at scripts
      exact absurd scripts not_allScripts_error
    · rw [answers] at same
      obtain ⟨rfl, last⟩ := List.append_inj' same rfl
      cases last
      have count := scripts.length_fetched
      have fetched : s.fetched = (read.map decodeScriptMessage).filterMap Except.toOption := by
        unfold Dispatch.fetched
        rw [answers, fetched_failed]
      have all := leading_append scripts []
      have none := firstError_append scripts []
      rw [List.append_nil] at all none
      unfold executedScripts returnedError
      simp only [all, none, leading, firstError, List.append_nil, Option.bind_none]
      constructor
      · rw [take_below (by omega)]
        exact fetched
      · rw [if_neg (by omega)]
        exact stops

/-- A message without a script that is reached within the limit is the last one that is read. -/
theorem unread_of_stream
    (reachable : Dispatch.Reachable stream engine maxScripts maxParallel msgs s)
    {err : Option GoError} (returned : s.loop = .returned err) {before after : List Message}
    {msg : Message} (split : msgs = before ++ msg :: after) (all : ∀ m ∈ before, WellFormed m)
    (noScript : ¬ WellFormed msg) (reached : maxScripts > 0 → (before.length : Int) < maxScripts) :
    s.around = after := by
  have ended := reachable_sequence reachable
  unfold Sequence at ended
  rw [returned] at ended
  obtain ⟨read, whole, answers | ⟨-, empty, stop, stops, answers⟩⟩ := reachable_reading reachable
  · rw [split] at whole
    rcases ended with ⟨positive, scripts, length, -⟩ | ⟨fetched, cause, same, scripts, -, -⟩
    · -- the limit would have been reached with the message among those that were read
      rw [answers] at scripts length
      rw [List.length_map] at length
      have short := reached positive
      have inside : msg ∈ read := by
        have longer : before.length < read.length := by omega
        have front : (read ++ s.around)[before.length]? = read[before.length]? :=
          List.getElem?_append_left longer
        have there : read[before.length]? = some msg := by
          rw [← front, whole, List.getElem?_append_right (Nat.le_refl _), Nat.sub_self]
          rfl
        exact List.mem_of_getElem? there
      exact absurd (allScripts_decoded.mp scripts msg inside) noScript
    · -- the last message that was read is the first without a script
      rw [answers] at same
      obtain ⟨read', last, rfl, earlier, final⟩ := List.map_eq_append_iff.mp same
      obtain ⟨msg', nothing, rfl, failed, none⟩ := List.map_eq_cons_iff.mp final
      obtain rfl := List.map_eq_nil_iff.mp none
      rw [← earlier] at scripts
      have noScript' : ¬ WellFormed msg' := not_wellFormed_iff.mpr ⟨_, failed⟩
      rw [List.append_assoc] at whole
      exact (split_first whole (allScripts_decoded.mp scripts) all noScript' noScript).2.2
  · -- all messages would have been scripts
    rcases ended with ⟨-, scripts, -, -⟩ | ⟨fetched, cause, same, scripts, -, -⟩
    · rw [answers] at scripts
      exact absurd scripts not_allScripts_error
    · rw [answers] at same
      obtain ⟨rfl, -⟩ := List.append_inj' same rfl
      rw [empty, List.append_nil, split] at whole
      have inside : msg ∈ read := by
        rw [whole]
        exact List.mem_append_right _ List.mem_cons_self
      exact absurd (allScripts_decoded.mp scripts msg inside) noScript

end Return

/-! ## What a stream comes to -/

/-- **What a stream comes to.**  Over a finite stream of messages `ExecuteFromProducer` returns,
and at its return it has executed and reported the scripts of the well-formed messages before the
first done or malformed one, within the limit: as if the stream had ended there.  Such a message
that is reached within the limit is the last one that is read: a malformed one makes the call return
its decoding error, a done one makes it return no error.  There is no third kind of message without
a script. -/
theorem stream_executed (engine : Engine Docker) (maxScripts maxParallel : Int)
    (msgs : List Message) :
    (∀ s, Reachable stream engine maxScripts maxParallel msgs s →
      ∃ s' err, Reaches (Step stream engine maxScripts maxParallel) s s' ∧
        s'.loop = .returned err) ∧
    ∀ s err, Reachable stream engine maxScripts maxParallel msgs s → s.loop = .returned err →
      s.ran.Perm (executedScripts maxScripts msgs) ∧
      (s.reported.map RunReport.script).Perm (executedScripts maxScripts msgs) ∧
      ∀ before msg after, msgs = before ++ msg :: after → (∀ m ∈ before, WellFormed m) →
        ¬ WellFormed msg →
        (Done msg ∨ ∃ cause, Malformed msg cause) ∧
        executedScripts maxScripts msgs = executedScripts maxScripts before ∧
        ((maxScripts > 0 → (before.length : Int) < maxScripts) → s.around = after ∧
          (∀ cause, Malformed msg cause → err = some (.wrap "get next script" cause)) ∧
          (Done msg → err = none)) := by
  refine ⟨fun s reachable => returns stream_finite (stream_responsive engine) reachable, ?_⟩
  intro s err reachable returned
  have inv := reachable_inv reachable
  obtain ⟨fetched, error⟩ := fetched_of_stream reachable returned
  have ran := inv.ran_fetched returned
  have reported := inv.reported_fetched returned nofun
  rw [fetched] at ran reported
  refine ⟨ran, reported, ?_⟩
  intro before msg after split all noScript
  obtain ⟨cause, failed⟩ := not_wellFormed_iff.mp noScript
  refine ⟨done_or_malformed failed, ?_, fun below => ?_⟩
  · unfold executedScripts
    rw [leading_split split all failed]
  have stop : err = stopError cause := error.trans (returnedError_split split all failed below)
  refine ⟨unread_of_stream reachable returned split all noScript below, ?_, ?_⟩
  · intro cause' malformed
    have same : cause' = cause := Except.error.inj (malformed.1.symm.trans failed)
    rw [stop, ← same]
    exact stopError_malformed malformed.2
  · intro done
    have same : cause = .eof := Except.error.inj (failed.symm.trans done)
    rw [stop, same]
    rfl

/-- The scripts of the well-formed messages before the first done message, malformed messages
passed over. -/
def submittedScripts : List Message → List Script
  | [] => []
  | msg :: rest =>
      match decodeScriptMessage msg with
      | .ok script => script :: submittedScripts rest
      | .error err => if err = .eof then [] else submittedScripts rest

/-- A malformed message and a script behind it. -/
def poisonedStream : List Message :=
  [⟨"scripts", 0, [], "\x7bnot json"⟩,
    ⟨"scripts", 1, "s1", "\x7b\"language\":\"python\",\"source\":\"print(1)\"\x7d"⟩]

/-- The script behind a malformed message is not reported. -/
theorem poisonedStream_stops :
    ¬ ∀ s err, Reachable stream pythonEngine 0 1 poisonedStream s → s.loop = .returned err →
      (s.reported.map RunReport.script).Perm (submittedScripts poisonedStream) := by
  intro reported
  have start : Reachable stream pythonEngine 0 1 poisonedStream (initial poisonedStream) := .refl
  obtain ⟨s, err, run, returned⟩ := returns stream_finite (stream_responsive pythonEngine) start
  have promised := (reported s err run returned).length_eq
  have inv := reachable_inv run
  have actual := (inv.reported_fetched returned nofun).length_eq
  rw [(fetched_of_stream run returned).1] at actual
  have none : (executedScripts 0 poisonedStream).length = 0 := by decide
  have one : (submittedScripts poisonedStream).length = 1 := by decide
  omega

end Scrc
