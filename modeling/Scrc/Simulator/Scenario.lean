import Scrc.Executor.Dispatch
import Scrc.Kafka.Decode
import Scrc.Kafka.Publisher

/-!
# Scenarios of the simulator

The load generator of the simulator is written in Python.  `ScriptScenario.to_payload` puts the type
of a scenario and the number of the iteration into the id of a submission, the service carries the
id to the result, and `infer_script_type` takes the type out of it again.

* `decodeEnvelope_toPayload`: what the decoder makes of a payload.
* `inferScriptType_id`: the type in an id.
* `submission_classified`: a payload is accepted when its numbers fit in 64 bits, and then every
  result counts for the scenario that was submitted.
* `consume_results`: the counters after any number of results.

A Python string without lone surrogates is a Lean `String`, an `int` an `Int`.
-/

namespace Scrc

open Interaction

/-! ## Payloads -/

/-- The `limits` of a scenario. -/
structure ScenarioLimits where
  timeLimitMs : Int
  memoryLimitBytes : Int
  deriving DecidableEq

/-- One of the `tests` of a scenario. -/
structure ScenarioTest where
  number : Int
  input : String
  expectedOutput : String
  deriving DecidableEq

structure ScriptScenario where
  language : String
  outcome : String
  source : String
  limits : ScenarioLimits
  tests : List ScenarioTest
  deriving DecidableEq

namespace ScriptScenario

/-- `f"{self.language}-{self.outcome}"` -/
def type (s : ScriptScenario) : String := s.language ++ "-" ++ s.outcome

/-- `f"{self.type}-{iteration}"` -/
def id (s : ScriptScenario) (iteration : Nat) : String := s.type ++ "-" ++ toString iteration

end ScriptScenario

/-- A Python string in a JSON text. -/
def jsonString (s : String) : Json.Value := .string (lit s)

/-- A Python integer in a JSON text. -/
def jsonInt (n : Int) : Json.Value := .number (intText n)

def ScenarioLimits.toJson (l : ScenarioLimits) : Json.Value :=
  .object [(lit "time_limit_ms", jsonInt l.timeLimitMs),
    (lit "memory_limit_bytes", jsonInt l.memoryLimitBytes)]

def ScenarioTest.toJson (t : ScenarioTest) : Json.Value :=
  .object [(lit "number", jsonInt t.number), (lit "input", jsonString t.input),
    (lit "expected_output", jsonString t.expectedOutput)]

/-- `to_payload`. -/
def ScriptScenario.toPayload (s : ScriptScenario) (iteration : Nat) : Json.Value :=
  .object [(lit "type", jsonString "script"), (lit "id", jsonString (s.id iteration)),
    (lit "language", jsonString s.language), (lit "source", jsonString s.source),
    (lit "limits", s.limits.toJson), (lit "tests", .array (s.tests.map ScenarioTest.toJson))]

/-! ## What the decoder makes of a payload -/

/-- The numbers of a scenario fit in 64 bits. -/
structure ScriptScenario.Fits (s : ScriptScenario) : Prop where
  timeLimitMs : Scrc.Fits s.limits.timeLimitMs
  memoryLimitBytes : Scrc.Fits s.limits.memoryLimitBytes
  tests : ∀ t ∈ s.tests, Scrc.Fits t.number

theorem decodeInt_ok {type : GoString} {field : FieldPath} {old n v : Int} :
    decodeInt type field old (jsonInt n) = .ok v ↔ Fits n ∧ v = n := by
  unfold decodeInt jsonInt
  simp only [parseInt_intText]
  by_cases fits : Fits n
  · simp only [fits, ↓reduceIte, true_and]
    exact ⟨fun same => (Except.ok.inj same).symm, fun same => congrArg Except.ok same.symm⟩
  · simp only [fits, ↓reduceIte, false_and, iff_false]
    exact nofun

/-- A number that is decoded and put in its place. -/
theorem decodeInt_into {α : Type} {type : GoString} {field : FieldPath} {old n : Int}
    {put : Int → α} {r : α} :
    (decodeInt type field old (jsonInt n) >>= fun v => pure (put v)) = Except.ok r ↔
      Fits n ∧ r = put n := by
  refine bind_ok.trans ?_
  simp only [decodeInt_ok]
  constructor
  · rintro ⟨v, ⟨fits, rfl⟩, same⟩
    exact ⟨fits, (Except.ok.inj same).symm⟩
  · rintro ⟨fits, rfl⟩
    exact ⟨n, ⟨fits, rfl⟩, rfl⟩

/-- The limits in the envelope. -/
def ScenarioLimits.toScript (l : ScenarioLimits) : ScriptLimits :=
  ⟨Int64.ofInt l.timeLimitMs, Int64.ofInt l.memoryLimitBytes⟩

/-- A test in the envelope. -/
def ScenarioTest.toScript (t : ScenarioTest) : ScriptTestCase :=
  ⟨t.number, lit t.input, lit t.expectedOutput⟩

/-- The envelope of a scenario. -/
def ScriptScenario.envelope (s : ScriptScenario) (iteration : Nat) : ScriptEnvelope where
  type := lit "script"
  id := lit (s.id iteration)
  language := lit s.language
  source := lit s.source
  limits := some s.limits.toScript
  tests := s.tests.map ScenarioTest.toScript

theorem decodeLimits_ok {l : ScenarioLimits} {r : Option ScriptLimits} :
    decodeLimits none l.toJson = .ok r ↔
      (Fits l.timeLimitMs ∧ Fits l.memoryLimitBytes) ∧ r = some l.toScript := by
  have timeLimit : ∀ limits r,
      decodeLimitsField limits (lit "time_limit_ms", jsonInt l.timeLimitMs) = .ok r ↔
        Fits l.timeLimitMs ∧ r = { limits with timeLimitMs := Int64.ofInt l.timeLimitMs } :=
    fun _ _ => decodeInt_into
  have memoryLimit : ∀ limits r,
      decodeLimitsField limits (lit "memory_limit_bytes", jsonInt l.memoryLimitBytes) = .ok r ↔
        Fits l.memoryLimitBytes ∧
          r = { limits with memoryLimitBytes := Int64.ofInt l.memoryLimitBytes } :=
    fun _ _ => decodeInt_into
  unfold ScenarioLimits.toJson decodeLimits
  refine bind_ok.trans ?_
  simp only [List.foldlM_cons, List.foldlM_nil, bind_ok, timeLimit, memoryLimit]
  constructor
  · rintro ⟨_, ⟨_, ⟨time, rfl⟩, _, ⟨memory, rfl⟩, same⟩, whole⟩
    cases same
    exact ⟨⟨time, memory⟩, (Except.ok.inj whole).symm⟩
  · rintro ⟨⟨time, memory⟩, rfl⟩
    exact ⟨_, ⟨_, ⟨time, rfl⟩, _, ⟨memory, rfl⟩, rfl⟩, rfl⟩

theorem decodeTest_ok {t : ScenarioTest} {r : ScriptTestCase} :
    decodeTest {} t.toJson = .ok r ↔ Fits t.number ∧ r = t.toScript := by
  have number : ∀ test r, decodeTestField test (lit "number", jsonInt t.number) = .ok r ↔
      Fits t.number ∧ r = { test with number := t.number } := fun _ _ => decodeInt_into
  have input : ∀ test, decodeTestField test (lit "input", jsonString t.input) =
      .ok { test with input := lit t.input } := fun _ => rfl
  have expected : ∀ test,
      decodeTestField test (lit "expected_output", jsonString t.expectedOutput) =
        .ok { test with expectedOutput := lit t.expectedOutput } := fun _ => rfl
  unfold ScenarioTest.toJson decodeTest
  simp only [List.foldlM_cons, List.foldlM_nil, bind_ok, number, input, expected]
  constructor
  · rintro ⟨_, ⟨fits, rfl⟩, _, same, _, same', whole⟩
    cases same
    cases same'
    exact ⟨fits, (Except.ok.inj whole).symm⟩
  · rintro ⟨fits, rfl⟩
    exact ⟨_, ⟨fits, rfl⟩, _, rfl, _, rfl, rfl⟩

/-- Induction on the tests: the memory past an empty slice is empty all the way. -/
theorem decodeItems_ok {ts : List ScenarioTest} {r : List ScriptTestCase × List ScriptTestCase} :
    decodeItems [] (ts.map ScenarioTest.toJson) = .ok r ↔
      (∀ t ∈ ts, Fits t.number) ∧ r = (ts.map ScenarioTest.toScript, []) := by
  induction ts generalizing r with
  | nil =>
      refine ⟨fun same => ⟨nofun, (Except.ok.inj same).symm⟩, fun all => ?_⟩
      rw [all.2]
      rfl
  | cons t ts ih =>
      refine bind_ok.trans ?_
      simp only [List.headD_nil, List.tail_nil, decodeTest_ok, bind_ok, ih, List.forall_mem_cons]
      constructor
      · rintro ⟨_, ⟨first, rfl⟩, _, ⟨rest, rfl⟩, same⟩
        exact ⟨⟨first, rest⟩, (Except.ok.inj same).symm⟩
      · rintro ⟨⟨first, rest⟩, rfl⟩
        exact ⟨_, ⟨first, rfl⟩, _, ⟨rest, rfl⟩, rfl⟩

theorem decodeTests_ok {e r : EnvelopeBuffer} {ts : List ScenarioTest} (fresh : e.tests = [])
    (noSpare : e.spare = []) :
    decodeTests e (.array (ts.map ScenarioTest.toJson)) = .ok r ↔
      (∀ t ∈ ts, Fits t.number) ∧
        r = { e with tests := ts.map ScenarioTest.toScript, spare := [] } := by
  cases ts with
  | nil =>
      refine ⟨fun same => ⟨nofun, (Except.ok.inj same).symm⟩, fun all => ?_⟩
      rw [all.2]
      rfl
  | cons t ts =>
      have items := @decodeItems_ok (t :: ts)
      rw [List.map_cons] at items ⊢
      unfold decodeTests
      rw [fresh, noSpare]
      refine bind_ok.trans ?_
      simp only [List.append_nil, items]
      constructor
      · rintro ⟨_, ⟨all, rfl⟩, same⟩
        exact ⟨all, (Except.ok.inj same).symm⟩
      · rintro ⟨all, rfl⟩
        exact ⟨_, ⟨all, rfl⟩, rfl⟩

/-- **Payloads.**  A payload decodes exactly when its numbers fit in 64 bits, into the envelope of
its scenario. -/
theorem decodeEnvelope_toPayload {s : ScriptScenario} {n : Nat} {r : ScriptEnvelope} :
    decodeEnvelope (s.toPayload n) = .ok r ↔ s.Fits ∧ r = s.envelope n := by
  have string : ∀ e, decodeField e (lit "type", jsonString "script") =
        pure { e with type := lit "script" } ∧
      decodeField e (lit "id", jsonString (s.id n)) = pure { e with id := lit (s.id n) } ∧
      decodeField e (lit "language", jsonString s.language) =
        pure { e with language := lit s.language } ∧
      decodeField e (lit "source", jsonString s.source) = pure { e with source := lit s.source } :=
    fun _ => ⟨rfl, rfl, rfl, rfl⟩
  have limits : ∀ e v, decodeField e (lit "limits", v) =
      decodeLimits e.limits v >>= fun l => pure { e with limits := l } := fun _ _ => rfl
  have tests : ∀ e v, decodeField e (lit "tests", v) = decodeTests e v := fun _ _ => rfl
  unfold ScriptScenario.toPayload decodeEnvelope
  simp only [List.foldlM_cons, List.foldlM_nil, string, limits, tests, pure_bind, bind_assoc, bind_ok,
    decodeLimits_ok, decodeTests_ok]
  constructor
  · rintro ⟨_, ⟨⟨time, memory⟩, rfl⟩, _, ⟨numbers, rfl⟩, same⟩
    exact ⟨⟨time, memory, numbers⟩, (Except.ok.inj same).symm⟩
  · rintro ⟨fits, rfl⟩
    exact ⟨_, ⟨⟨fits.timeLimitMs, fits.memoryLimitBytes⟩, rfl⟩, _, ⟨fits.tests, rfl⟩, rfl⟩

/-- The script of a scenario, with the id of the payload.  A limit that is not positive is none, and
a test whose number is not positive gets its position.  The time limit is counted in nanoseconds,
modulo 2^64. -/
def ScriptScenario.script (s : ScriptScenario) (iteration : Nat) : Script where
  id := lit (s.id iteration)
  language := ⟨lit s.language⟩
  source := lit s.source
  limits :=
    { timeLimit :=
        if 0 < s.limits.timeLimitMs then Int64.ofInt (s.limits.timeLimitMs * 1000000) else 0
      memoryLimitBytes :=
        if 0 < s.limits.memoryLimitBytes then Int64.ofInt s.limits.memoryLimitBytes else 0 }
  tests := s.tests.mapIdx fun idx test =>
    ⟨if test.number ≤ 0 then idx + 1 else test.number, lit test.input, lit test.expectedOutput⟩

/-- A number that fits is positive as a 64-bit number when it is positive. -/
theorem ofInt_pos {n : Int} (fits : Fits n) : 0 < Int64.ofInt n ↔ 0 < n := by
  rw [Int64.lt_iff_toInt_lt, Int64.toInt_ofInt_of_le fits.1 (Int.lt_add_one_of_le fits.2)]
  rfl

/-- The limits that the service makes of the envelope. -/
theorem envelope_toLimits {s : ScriptScenario} {n : Nat} (fits : s.Fits) :
    (s.envelope n).toLimits = (s.script n).limits := by
  unfold ScriptScenario.envelope ScriptEnvelope.toLimits ScenarioLimits.toScript
    ScriptScenario.script
  simp only [gt_iff_lt, ofInt_pos fits.timeLimitMs, ofInt_pos fits.memoryLimitBytes,
    Int64.ofInt_mul]
  rfl

/-- The tests that it makes of the envelope. -/
theorem envelope_toTests (s : ScriptScenario) (n : Nat) :
    (s.envelope n).toTests = (s.script n).tests := by
  unfold ScriptScenario.envelope ScriptEnvelope.toTests ScriptScenario.script
  refine List.ext_getElem? fun i => ?_
  rw [List.getElem?_mapIdx, List.getElem?_map, List.getElem?_mapIdx]
  cases s.tests[i]? with
  | none => rfl
  | some test => rfl

theorem ScriptScenario.id_ne_empty (s : ScriptScenario) (n : Nat) : s.id n ≠ "" := by
  intro empty
  have hyphen : '-' ∈ (s.id n).toList := by
    simp only [ScriptScenario.id, String.toList_append]
    exact List.mem_append_left _ (List.mem_append_right _ List.mem_cons_self)
  rw [empty] at hyphen
  exact nomatch hyphen

/-- A payload is accepted exactly when its numbers fit, under its own id. -/
theorem decodeScriptMessage_toPayload {s : ScriptScenario} {n : Nat} {m : Message} {script : Script}
    (language : s.language ≠ "") (source : s.source ≠ "")
    (payload : Json.parse m.value = .ok (s.toPayload n)) :
    decodeScriptMessage m = .ok script ↔ s.Fits ∧ script = s.script n := by
  have unmarshalled : ∀ e, unmarshalEnvelope m.value = .ok e ↔ s.Fits ∧ e = s.envelope n := by
    intro e
    unfold unmarshalEnvelope
    simp only [payload, ← decodeEnvelope_toPayload]
    cases decodeEnvelope (s.toPayload n) with
    | error err => simp only [reduceCtorEq]
    | ok e' => simp only [Except.ok.injEq]
  have id : (s.envelope n).scriptID m = lit (s.id n) := by
    have own : (s.envelope n).id ≠ [] := lit_ne_nil (s.id_ne_empty n)
    unfold ScriptEnvelope.scriptID
    simp only [own, ↓reduceIte]
    rfl
  have dispatched (fits : s.Fits) : (s.envelope n).dispatch m = .ok script ↔ script = s.script n := by
    rw [ScriptEnvelope.dispatch_ok, ScriptEnvelope.toScript_ok, id, envelope_toLimits fits,
      envelope_toTests]
    exact ⟨fun all => all.2.2.2, fun same =>
      ⟨Or.inr rfl, lit_ne_nil source, lit_ne_nil language, same⟩⟩
  rw [decodeScriptMessage_ok]
  simp only [unmarshalled, and_assoc, exists_and_left, exists_eq_left]
  exact and_congr_right dispatched

/-! ## The type in an id -/

/-- `s.rpartition("-")`, without the hyphen: what is before the last one and what is after it. -/
def rpartition (s : String) : String × String :=
  let reversed := s.toList.reverse
  (String.ofList (reversed.dropWhile (· ≠ '-')).tail.reverse,
    String.ofList (reversed.takeWhile (· ≠ '-')).reverse)

def inferScriptType (scriptId : Option String) : Option String :=
  match scriptId with
  | none => none
  | some id =>
      if id = "" then none
      else if '-' ∉ id.toList then none
      else
        let (front, suffix) := rpartition id
        if front = "" ∨ suffix = "" then none else some front

/-- The last hyphen is the one before a part without any. -/
theorem rpartition_append {front suffix : String} (plain : '-' ∉ suffix.toList) :
    rpartition (front ++ "-" ++ suffix) = (front, suffix) := by
  have before : ∀ c ∈ suffix.toList.reverse, decide (c ≠ '-') = true := by
    intro c member
    refine decide_eq_true fun hyphen => plain ?_
    exact hyphen ▸ List.mem_reverse.mp member
  have reversed : (front ++ "-" ++ suffix).toList.reverse =
      suffix.toList.reverse ++ '-' :: front.toList.reverse := by
    simp only [String.toList_append, List.reverse_append]
    rfl
  unfold rpartition
  simp only [reversed, List.takeWhile_append_of_pos before, List.dropWhile_append_of_pos before]
  simp only [ne_eq, not_true_eq_false, decide_false, Bool.false_eq_true, not_false_eq_true,
    List.takeWhile_cons_of_neg, List.dropWhile_cons_of_neg, List.tail_cons, List.append_nil,
    List.reverse_reverse, String.ofList_toList]

theorem hyphen_not_mem_toString (n : Nat) : '-' ∉ (toString n).toList := by
  rw [Nat.toString_eq_ofList_toDigits, String.toList_ofList]
  intro member
  exact absurd (Nat.isDigit_of_mem_toDigits (by decide) (by decide) member) (by decide)

theorem ScriptScenario.type_ne_empty {s : ScriptScenario} (language : s.language ≠ "") :
    s.type ≠ "" := by
  intro empty
  exact language (String.append_eq_empty_iff.mp (String.append_eq_empty_iff.mp empty).1).1

/-- **The type in an id.**  Whatever hyphens the type contains, the last one of an id is the one
before the iteration. -/
theorem inferScriptType_id {s : ScriptScenario} (language : s.language ≠ "") (n : Nat) :
    inferScriptType (some (s.id n)) = some s.type := by
  have hyphen : '-' ∈ (s.id n).toList := by
    simp only [ScriptScenario.id, String.toList_append]
    exact List.mem_append_left _ (List.mem_append_right _ List.mem_cons_self)
  have parts : rpartition (s.id n) = (s.type, toString n) :=
    rpartition_append (hyphen_not_mem_toString n)
  have type : s.type ≠ "" := s.type_ne_empty language
  have numeral : toString n ≠ "" := by
    intro empty
    exact Decimal.digits_ne_nil n ((natText_eq n).symm.trans (congrArg lit empty))
  unfold inferScriptType
  simp only [s.id_ne_empty n, hyphen, parts, type, numeral, ↓reduceIte, not_true_eq_false, or_self]

/-! ## Results -/

/-- A message of the results topic as the consumer deserializes it: its key, and the `id` of its
payload. -/
structure ReceivedResult where
  key : Option String
  id : Option String
  deriving DecidableEq

/-- The consumer's copy of a published message: JSON and UTF-8 keep the strings of Go, and a message
without a key has the key `None`. -/
structure Delivered (msg : ResultMessage) (result : ReceivedResult) : Prop where
  id : result.id.map lit = some msg.value.id
  key : result.key.map lit = if msg.key = [] then none else some msg.key

/-- `message.value.get("id") or message.key` -/
def ReceivedResult.scriptId (r : ReceivedResult) : Option String :=
  match r.id with
  | some id => if id = "" then r.key else some id
  | none => r.key

/-- `collections.Counter[str]`. -/
abbrev Counter := String → Nat

/-- `counters[type] += 1` -/
def Counter.add (counters : Counter) (type : String) : Counter :=
  Function.update counters type (counters type + 1)

/-- `ResultConsumerService.consume`, one message. -/
def consumeMessage (counters : Counter) (result : ReceivedResult) : Counter :=
  match inferScriptType result.scriptId with
  | some type => if type = "" then counters else counters.add type
  | none => counters

/-- The counters after all the messages of a run. -/
def consume (counters : Counter) (results : List ReceivedResult) : Counter :=
  results.foldl consumeMessage counters

/-- A submission: a scenario and its iteration. -/
structure Submission where
  scenario : ScriptScenario
  iteration : Nat
  deriving DecidableEq

/-- The id of the payload of a submission. -/
def Submission.id (s : Submission) : String := s.scenario.id s.iteration

/-- An id is made of a type and an iteration in one way only. -/
theorem Submission.parts_of_id {b b' : Submission} (same : b.id = b'.id) :
    b.scenario.type = b'.scenario.type ∧ b.iteration = b'.iteration := by
  have parts := congrArg rpartition same
  unfold Submission.id ScriptScenario.id at parts
  rw [rpartition_append (hyphen_not_mem_toString _),
    rpartition_append (hyphen_not_mem_toString _)] at parts
  have digits : Decimal.digits b.iteration = Decimal.digits b'.iteration := by
    rw [← natText_eq, ← natText_eq]
    exact congrArg lit (Prod.mk.inj parts).2
  exact ⟨(Prod.mk.inj parts).1, Decimal.digits_injective digits⟩

/-- The message is the one the producer sent for the submission. -/
structure Submission.Sent (s : Submission) (m : Message) : Prop where
  language : s.scenario.language ≠ ""
  source : s.scenario.source ≠ ""
  payload : Json.parse m.value = .ok (s.scenario.toPayload s.iteration)

/-- The received result is of a submission: its message was sent and accepted, some runtime made a
report on the script, and a publisher wrote it. -/
def Submission.Answered (s : Submission) (result : ReceivedResult) : Prop :=
  ∃ m script, s.Sent m ∧ decodeScriptMessage m = .ok script ∧
    ∃ (I : Interface) (engine : Engine I) (t : List (Event I)) (report : RunReport),
      Exec (SuiteRunner.run engine script) t report ∧
      ∃ timestamp ctx written err, Exec (publishRunReport timestamp ctx report) written err ∧
        ∃ e ∈ written, Delivered e.call.msg result

theorem publishRunReport_writes {timestamp : GoString} {ctx : Ctx} {report : RunReport}
    {t : List (Event Writer)} {err : Option GoError}
    (run : Exec (publishRunReport timestamp ctx report) t err) :
    ∃ e, t = [e] ∧ e.call = ⟨ctx, resultMessage timestamp report⟩ := by
  obtain ⟨r, t', rfl, rest⟩ := exec_call.mp run
  have last : t' = [] := by
    cases r with
    | error err => exact (exec_ret.mp rest).1
    | ok u => exact (exec_ret.mp rest).1
  exact ⟨_, congrArg (List.cons _) last, rfl⟩

/-- A delivered message is of the submission whose id it carries. -/
theorem Delivered.scriptId {msg : ResultMessage} {result : ReceivedResult} {s : Submission}
    (delivered : Delivered msg result) (id : msg.value.id = lit s.id) :
    result.scriptId = some s.id := by
  have carried : result.id = some s.id := by
    obtain ⟨read, here, same⟩ := Option.map_eq_some_iff.mp (delivered.id.trans (congrArg some id))
    rw [here, lit_injective same]
  unfold ReceivedResult.scriptId
  simp only [carried]
  exact if_neg (s.scenario.id_ne_empty s.iteration)

/-- The counter that a result of a submission increments. -/
theorem consumeMessage_scriptId {s : Submission} {result : ReceivedResult}
    (language : s.scenario.language ≠ "") (id : result.scriptId = some s.id) (counters : Counter) :
    consumeMessage counters result = counters.add s.scenario.type := by
  unfold consumeMessage
  rw [id, Submission.id, inferScriptType_id language]
  exact if_neg (s.scenario.type_ne_empty language)

/-- Every report on the script of a submission carries the submission's id. -/
theorem Submission.Sent.report_id {s : Submission} {m : Message} {script : Script} (sent : s.Sent m)
    (accepted : decodeScriptMessage m = .ok script) {I : Interface} {engine : Engine I}
    {t : List (Event I)} {report : RunReport} (run : Exec (SuiteRunner.run engine script) t report) :
    report.script.id = lit s.id := by
  have own := (decodeScriptMessage_toPayload sent.language sent.source sent.payload).mp accepted
  rw [suiteRunner_script run, own.2]
  rfl

theorem Submission.Answered.scriptId {s : Submission} {result : ReceivedResult}
    (answered : s.Answered result) :
    s.scenario.language ≠ "" ∧ result.scriptId = some s.id := by
  obtain ⟨m, script, sent, accepted, I, engine, t, report, run, timestamp, ctx, written, err,
    published, e, member, delivered⟩ := answered
  obtain ⟨e', rfl, call⟩ := publishRunReport_writes published
  rw [List.mem_singleton.mp member, call] at delivered
  exact ⟨sent.language, delivered.scriptId (sent.report_id accepted run)⟩

/-- The results of a run count for the scenarios that were submitted, whatever their order. -/
theorem consume_results (batch : List (Submission × ReceivedResult))
    (answered : ∀ b ∈ batch, b.1.Answered b.2) (counters : Counter) (type : String) :
    consume counters (batch.map Prod.snd) type =
      counters type + batch.countP fun b => b.1.scenario.type = type := by
  induction batch generalizing counters with
  | nil => rfl
  | cons b batch ih =>
      obtain ⟨language, id⟩ := Submission.Answered.scriptId (answered b List.mem_cons_self)
      have rest := ih (fun b later => answered b (List.mem_cons_of_mem _ later))
        (counters.add b.1.scenario.type)
      rw [List.map_cons, consume, List.foldl_cons, consumeMessage_scriptId language id]
      refine rest.trans ?_
      rw [List.countP_cons, Counter.add]
      by_cases here : b.1.scenario.type = type
      · simp only [here, Function.update_self, decide_true, ↓reduceIte]
        omega
      · simp only [Function.update_of_ne (Ne.symm here), here, decide_false, Bool.false_eq_true,
          ↓reduceIte, Nat.add_zero]

/-- **Ids of submissions.**  A payload is accepted exactly when its numbers fit in 64 bits.  Then
the script has the id of the payload, the one message about any report on it has this id as its key
and in its envelope, and the result counts for the scenario that was submitted. -/
theorem submission_classified (s : Submission) (m : Message) (sent : s.Sent m) :
    ((∃ script, decodeScriptMessage m = .ok script) ↔ s.scenario.Fits) ∧
    ∀ script, decodeScriptMessage m = .ok script →
      script.id = lit s.id ∧
      ∀ {I : Interface} (engine : Engine I) (t : List (Event I)) (report : RunReport),
        Exec (SuiteRunner.run engine script) t report →
        ∀ timestamp ctx written err, Exec (publishRunReport timestamp ctx report) written err →
          ∃ e, written = [e] ∧ e.call.msg.key = lit s.id ∧ e.call.msg.value.id = lit s.id ∧
            ∀ result, Delivered e.call.msg result →
              inferScriptType result.scriptId = some s.scenario.type ∧
              ∀ counters, consumeMessage counters result = counters.add s.scenario.type := by
  have accepts : ∀ script, decodeScriptMessage m = .ok script ↔
      s.scenario.Fits ∧ script = s.scenario.script s.iteration := fun script =>
    decodeScriptMessage_toPayload sent.language sent.source sent.payload
  refine ⟨⟨fun ⟨script, accepted⟩ => ((accepts script).mp accepted).1,
    fun fits => ⟨_, (accepts _).mpr ⟨fits, rfl⟩⟩⟩, fun script accepted => ⟨?_, ?_⟩⟩
  · rw [((accepts script).mp accepted).2]
    rfl
  · intro I engine t report run timestamp ctx written err published
    obtain ⟨e, rfl, call⟩ := publishRunReport_writes published
    have id : report.script.id = lit s.id := sent.report_id accepted run
    have key : e.call.msg.key = lit s.id := by
      rw [call]
      exact id
    have envelope : e.call.msg.value.id = lit s.id := by
      rw [call]
      exact id
    refine ⟨e, rfl, key, envelope, fun result delivered => ?_⟩
    have scriptId := delivered.scriptId envelope
    refine ⟨?_, consumeMessage_scriptId sent.language scriptId⟩
    rw [scriptId]
    exact inferScriptType_id sent.language s.iteration

/-- The first submission of a scenario in Python that prints a number. -/
def printOneSubmission (timeLimitMs : Int) : Submission where
  scenario :=
    { language := "python", outcome := "ok", source := "print(1)"
      limits := ⟨timeLimitMs, 268435456⟩
      tests := [⟨1, "", "1\n"⟩] }
  iteration := 1

/-- Its message. -/
def printOneMessage (timeLimitMs : String) : Message where
  topic := "scripts"
  offset := 0
  key := "python-ok-1"
  value := lit "\x7b\"type\": \"script\", \"id\": \"python-ok-1\", \"language\": \"python\", " ++
    lit "\"source\": \"print(1)\", \"limits\": \x7b\"time_limit_ms\": " ++ lit timeLimitMs ++
    lit ", \"memory_limit_bytes\": 268435456\x7d, \"tests\": [\x7b\"number\": 1, \"input\": \"\", " ++
    lit "\"expected_output\": \"1\\n\"\x7d]\x7d"

section

set_option maxRecDepth 8000

theorem printOneSubmission_sent : (printOneSubmission 2000).Sent (printOneMessage "2000") where
  language := by decide
  source := by decide
  payload := by rfl

theorem overlongSubmission_sent : (printOneSubmission 9223372036854775808).Sent
    (printOneMessage "9223372036854775808") where
  language := by decide
  source := by decide
  payload := by rfl

end

/-- A runtime that prepares no script. -/
def failingEngine : Engine Writer where
  prepare _ := return { err := some (.new "no runtime") }

/-- The report when the runtime fails. -/
def unpreparedReport : RunReport where
  script := (printOneSubmission 2000).scenario.script 1
  err := some (.new "no runtime")

theorem unpreparedReport_returned :
    Exec (SuiteRunner.run failingEngine ((printOneSubmission 2000).scenario.script 1)) []
      unpreparedReport := .ret _

theorem unpreparedReport_published :
    Exec (publishRunReport [] .caller unpreparedReport)
      [⟨⟨.caller, resultMessage [] unpreparedReport⟩, .ok ()⟩] none := .call (.ret _)

/-- What the consumer receives of it. -/
theorem unpreparedReport_delivered :
    Delivered (resultMessage [] unpreparedReport) ⟨some "python-ok-1", some "python-ok-1"⟩ where
  id := by decide
  key := by decide

/-- The submission is accepted, and the report of a runtime that fails counts for its scenario. -/
theorem submission_classified_printOne :
    ∃ script, decodeScriptMessage (printOneMessage "2000") = .ok script ∧
      script.id = "python-ok-1" ∧
      (resultMessage [] unpreparedReport).key = "python-ok-1" ∧
      inferScriptType (some "python-ok-1") = some "python-ok" ∧
      ∀ counters, consumeMessage counters ⟨some "python-ok-1", some "python-ok-1"⟩ =
        counters.add "python-ok" := by
  have sent := printOneSubmission_sent
  obtain ⟨accepts, classified⟩ :=
    submission_classified (printOneSubmission 2000) (printOneMessage "2000") sent
  obtain ⟨script, accepted⟩ := accepts.mpr ⟨by decide, by decide, by decide⟩
  obtain ⟨-, rfl⟩ :=
    (decodeScriptMessage_toPayload sent.language sent.source sent.payload).mp accepted
  obtain ⟨id, reports⟩ := classified _ accepted
  obtain ⟨e, written, key, -, counts⟩ := reports failingEngine _ _ unpreparedReport_returned
    _ _ _ _ unpreparedReport_published
  cases List.singleton_inj.mp written
  obtain ⟨type, counted⟩ := counts _ unpreparedReport_delivered
  exact ⟨_, accepted, id, key, type, counted⟩

/-- The result when the runtime fails. -/
theorem printOneSubmission_answered :
    (printOneSubmission 2000).Answered ⟨some "python-ok-1", some "python-ok-1"⟩ := by
  have sent := printOneSubmission_sent
  exact ⟨_, _, sent,
    (decodeScriptMessage_toPayload sent.language sent.source sent.payload).mpr
      ⟨⟨by decide, by decide, by decide⟩, rfl⟩,
    Writer, failingEngine, _, _, unpreparedReport_returned, _, _, _, _, unpreparedReport_published,
    _, List.mem_cons_self, unpreparedReport_delivered⟩

/-- A time limit of 2^63 milliseconds is a number in Python and in JSON, but no `int64`. -/
theorem overlongSubmission_rejected :
    ¬ ∀ (s : Submission) (m : Message), 1 ≤ s.iteration → s.Sent m →
        ∃ script, decodeScriptMessage m = .ok script := by
  intro accepted
  have sent := overlongSubmission_sent
  obtain ⟨script, decoded⟩ := accepted _ _ (by decide) sent
  have fits := ((decodeScriptMessage_toPayload sent.language sent.source sent.payload).mp decoded).1
  exact absurd fits.timeLimitMs (by decide)

end Scrc
