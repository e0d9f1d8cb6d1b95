import Scrc.Lib.JsonDumps
import Scrc.Simulator.Producer

/-!
# Submissions on the wire

The bytes of a submission, as the serializers of `create_producer` make them of what `send` is
given, and what the service reads in them.

* `payload_toValue`: the payload is the one of `Scrc.Simulator.Scenario`.
* `decode_submission`: the submissions that the service accepts, and the script that it makes of
  each.
* `payload_injective`: no two submissions have the same bytes.
-/

namespace Scrc

open Json (PyValue)

/-! ## Serializing -/

def ScenarioLimits.payload (l : ScenarioLimits) : PyValue :=
  .dict [("time_limit_ms", .int l.timeLimitMs), ("memory_limit_bytes", .int l.memoryLimitBytes)]

def ScenarioTest.payload (t : ScenarioTest) : PyValue :=
  .dict [("number", .int t.number), ("input", .str t.input),
    ("expected_output", .str t.expectedOutput)]

/-- `to_payload`, as the dictionary that it is. -/
def ScriptScenario.payload (s : ScriptScenario) (iteration : Nat) : PyValue :=
  .dict [("type", .str "script"), ("id", .str (s.id iteration)), ("language", .str s.language),
    ("source", .str s.source), ("limits", s.limits.payload),
    ("tests", .list (s.tests.map ScenarioTest.payload))]

/-- `key_serializer`: no key for the empty string. -/
def keySerializer (key : String) : Option GoString := if key = "" then none else some (lit key)

/-- `value_serializer`. -/
def valueSerializer (value : PyValue) : GoString := Json.dumps value

/-- The message that `send` makes of a submission, where the broker puts it; a missing key is read
as an empty one. -/
def Submission.message (topic : String) (offset : Int64) (b : Submission) : Message where
  topic := topic
  offset := offset
  key := (keySerializer b.id).getD []
  value := valueSerializer (b.scenario.payload b.iteration)

/-- A number of the payload, as the numeral that `json.dumps` writes. -/
theorem jsonInt_eq (n : Int) : jsonInt n = .number (Decimal.numeral n) :=
  congrArg Json.Value.number (intText_eq n)

/-- The dictionary of the limits is a value of JSON, since it has string keys and integers only. -/
theorem ScenarioLimits.payload_toValue (l : ScenarioLimits) : l.payload.toValue = l.toJson := by
  unfold ScenarioLimits.payload ScenarioLimits.toJson
  simp only [PyValue.toValue, PyValue.toMembers, jsonInt_eq]
  rfl

/-- The same for the dictionary of a test. -/
theorem ScenarioTest.payload_toValue (t : ScenarioTest) : t.payload.toValue = t.toJson := by
  unfold ScenarioTest.payload ScenarioTest.toJson
  simp only [PyValue.toValue, PyValue.toMembers, jsonInt_eq]
  rfl

/-- The dictionary that `to_payload` returns is the value that the messages were modelled by. -/
theorem ScriptScenario.payload_toValue (s : ScriptScenario) (n : Nat) :
    (s.payload n).toValue = s.toPayload n := by
  have tests : PyValue.toItems (s.tests.map ScenarioTest.payload) =
      s.tests.map ScenarioTest.toJson := by
    rw [PyValue.toItems_eq, List.map_map]
    exact List.map_congr_left fun t _ => t.payload_toValue
  unfold ScriptScenario.payload ScriptScenario.toPayload
  simp only [PyValue.toValue, PyValue.toMembers, s.limits.payload_toValue, tests]
  rfl

/-- A payload nests three levels deep: the object, the list of tests, and a test.  The reader allows
many more. -/
theorem ScriptScenario.payload_nested (s : ScriptScenario) (n : Nat) : (s.payload n).Nested 3 := by
  have test : ∀ v ∈ s.tests.map ScenarioTest.payload, v.Nested 1 := by
    intro v member
    obtain ⟨t, _, rfl⟩ := List.mem_map.mp member
    refine .dict ?_
    simp only [List.forall_mem_cons]
    exact ⟨.int 0 _, .str 0 _, .str 0 _, nofun⟩
  have limits : s.limits.payload.Nested 2 := by
    refine .dict ?_
    simp only [List.forall_mem_cons]
    exact ⟨.int 1 _, .int 1 _, nofun⟩
  refine .dict ?_
  simp only [List.forall_mem_cons]
  exact ⟨.str 2 _, .str 2 _, .str 2 _, .str 2 _, limits, .list test, nofun⟩

/-- The bytes are read as the payload. -/
theorem parse_payload (s : ScriptScenario) (n : Nat) :
    Json.parse (valueSerializer (s.payload n)) = .ok (s.toPayload n) := by
  rw [← s.payload_toValue]
  exact Json.parse_dumps (s.payload_nested n) (by decide)

/-- A message made by the serializers is one that the submission may be sent by. -/
theorem Submission.sent {b : Submission} (language : b.scenario.language ≠ "")
    (source : b.scenario.source ≠ "") (topic : String) (offset : Int64) :
    b.Sent (b.message topic offset) :=
  ⟨language, source, parse_payload b.scenario b.iteration⟩

/-! ## What the service reads -/

/-- **Submissions.**  The service accepts the bytes of a submission exactly when its language and
its source are not empty and its numbers fit in 64 bits, and it reads the strings and numbers of the
scenario. -/
theorem decode_submission (b : Submission) (topic : String) (offset : Int64) (script : Script) :
    decodeScriptMessage (b.message topic offset) = .ok script ↔
      b.scenario.language ≠ "" ∧ b.scenario.source ≠ "" ∧ b.scenario.Fits ∧
        script = b.scenario.script b.iteration := by
  have parsed : Json.parse (b.message topic offset).value = .ok (b.scenario.toPayload b.iteration) :=
    parse_payload b.scenario b.iteration
  constructor
  · intro accepted
    obtain ⟨e, unmarshalled, dispatched⟩ := decodeScriptMessage_ok.mp accepted
    have own : e = b.scenario.envelope b.iteration := by
      unfold unmarshalEnvelope at unmarshalled
      rw [parsed] at unmarshalled
      cases decoded : decodeEnvelope (b.scenario.toPayload b.iteration) with
      | error err =>
          simp only [decoded] at unmarshalled
          cases unmarshalled
      | ok e' =>
          simp only [decoded] at unmarshalled
          rw [← Except.ok.inj unmarshalled]
          exact (decodeEnvelope_toPayload.mp decoded).2
    rw [own] at dispatched
    obtain ⟨hasSource, hasLanguage, -⟩ :=
      ScriptEnvelope.toScript_ok.mp (ScriptEnvelope.dispatch_ok.mp dispatched).2
    have source : b.scenario.source ≠ "" := fun empty => hasSource (congrArg lit empty)
    have language : b.scenario.language ≠ "" := fun empty => hasLanguage (congrArg lit empty)
    exact ⟨language, source, (decodeScriptMessage_toPayload language source parsed).mp accepted⟩
  · rintro ⟨language, source, accepted⟩
    exact (decodeScriptMessage_toPayload language source parsed).mpr accepted

/-! ## No two submissions alike -/

/-- Integers are told apart on the wire, however large they are. -/
theorem jsonInt_injective {m n : Int} (same : jsonInt m = jsonInt n) : m = n := by
  rw [jsonInt_eq, jsonInt_eq] at same
  exact Decimal.numeral_injective (Json.Value.number.inj same)

/-- So are strings, which Python has as sequences of characters. -/
theorem jsonString_injective {s t : String} (same : jsonString s = jsonString t) : s = t :=
  lit_injective (Json.Value.string.inj same)

/-- Limits are told apart by their two numbers. -/
theorem ScenarioLimits.toJson_injective {l l' : ScenarioLimits} (same : l.toJson = l'.toJson) :
    l = l' := by
  have members := Json.Value.object.inj same
  simp only [List.cons.injEq, Prod.mk.injEq, true_and, and_true] at members
  rcases l with ⟨time, memory⟩
  rcases l' with ⟨time', memory'⟩
  rw [ScenarioLimits.mk.injEq]
  exact ⟨jsonInt_injective members.1, jsonInt_injective members.2⟩

/-- Tests are told apart by number, input and expected output. -/
theorem ScenarioTest.toJson_injective {t t' : ScenarioTest} (same : t.toJson = t'.toJson) :
    t = t' := by
  have members := Json.Value.object.inj same
  simp only [List.cons.injEq, Prod.mk.injEq, true_and, and_true] at members
  rcases t with ⟨number, input, expected⟩
  rcases t' with ⟨number', input', expected'⟩
  rw [ScenarioTest.mk.injEq]
  exact ⟨jsonInt_injective members.1, jsonString_injective members.2.1,
    jsonString_injective members.2.2⟩

/-- **No two submissions alike.**  The bytes of a submission say which scenario and which iteration
it is of. -/
theorem payload_injective (b b' : Submission) :
    valueSerializer (b.scenario.payload b.iteration) =
      valueSerializer (b'.scenario.payload b'.iteration) ↔ b = b' := by
  refine ⟨fun same => ?_, fun same => by rw [same]⟩
  have values : b.scenario.toPayload b.iteration = b'.scenario.toPayload b'.iteration := by
    have parsed := parse_payload b.scenario b.iteration
    rw [same, parse_payload] at parsed
    exact (Except.ok.inj parsed).symm
  have members := Json.Value.object.inj values
  simp only [List.cons.injEq, Prod.mk.injEq, true_and, and_true] at members
  obtain ⟨id, language, source, limits, tests⟩ := members
  obtain ⟨type, iteration⟩ := Submission.parts_of_id (jsonString_injective id)
  have language := jsonString_injective language
  have outcome : b.scenario.outcome = b'.scenario.outcome := by
    unfold ScriptScenario.type at type
    rw [language] at type
    exact (String.append_right_inj _).mp type
  have tests := List.map_injective_iff.mpr (fun _ _ => ScenarioTest.toJson_injective)
    (Json.Value.array.inj tests)
  rcases b with ⟨⟨l, o, s, m, t⟩, n⟩
  rcases b' with ⟨⟨l', o', s', m', t'⟩, n'⟩
  rw [Submission.mk.injEq, ScriptScenario.mk.injEq]
  exact ⟨⟨language, outcome, jsonString_injective source, ScenarioLimits.toJson_injective limits,
    tests⟩, iteration⟩

end Scrc
