import Scrc.Docker.Preparation
import Scrc.Executor.Dispatch
import Scrc.Kafka.Encode
import Scrc.Lib.JsonUtf8

/-!
# What a result repeats of its script

The id of a script and the input, the expected output and the number of each test go from the
message into the result.  Strings of a JSON text are valid UTF-8 whatever its bytes are, and valid
strings survive in the result; only the key of a message, which stands in for a missing id, is not
read as JSON.

* `unmarshalEnvelope_valid`: the strings of an envelope are valid, and its numbers fit.
* `returns_suiteRunner`: a report has either no test entries or one for each test.
* `result_repeats`: what is read of the published bytes.
-/

namespace Scrc

open Interaction SuiteReference

/-! ## Envelopes -/

/-- Strings in UTF-8, a number of 64 bits. -/
structure ScriptTestCase.Valid (t : ScriptTestCase) : Prop where
  number : Fits t.number
  input : Json.wellFormed t.input = true
  expectedOutput : Json.wellFormed t.expectedOutput = true

structure ScriptEnvelope.Valid (e : ScriptEnvelope) : Prop where
  type : Json.wellFormed e.type = true
  id : Json.wellFormed e.id = true
  language : Json.wellFormed e.language = true
  source : Json.wellFormed e.source = true
  tests : ∀ t ∈ e.tests, t.Valid

/-- Also in the memory past the tests. -/
structure EnvelopeBuffer.Valid (e : EnvelopeBuffer) : Prop where
  envelope : e.toScriptEnvelope.Valid
  spare : ∀ t ∈ e.spare, t.Valid

section Decoding

variable {v : Json.Value}

theorem decodeString_valid {field : FieldPath} {old s : GoString} (utf8 : v.Utf8)
    (valid : Json.wellFormed old = true) (decoded : decodeString field old v = .ok s) :
    Json.wellFormed s = true := by
  unfold decodeString at decoded
  split at decoded
  · rw [← Except.ok.inj decoded]
    exact valid
  · rw [← Except.ok.inj decoded]
    cases utf8 with
    | string valid => exact valid
  · cases decoded

theorem decodeInt_fits {type : GoString} {field : FieldPath} {old n : Int} (fits : Fits old)
    (decoded : decodeInt type field old v = .ok n) : Fits n := by
  unfold decodeInt at decoded
  split at decoded
  · rw [← Except.ok.inj decoded]
    exact fits
  · split at decoded
    · rw [← Except.ok.inj decoded]
      exact parseInt_fits ‹_›
    · cases decoded
  · cases decoded

theorem decodeTestField_valid {t t' : ScriptTestCase} {member : GoString × Json.Value}
    (utf8 : member.2.Utf8) (valid : t.Valid) (decoded : decodeTestField t member = .ok t') :
    t'.Valid := by
  unfold decodeTestField at decoded
  split_ifs at decoded
  · obtain ⟨n, read, same⟩ := bind_ok.mp decoded
    cases same
    exact { valid with number := decodeInt_fits valid.number read }
  · obtain ⟨s, read, same⟩ := bind_ok.mp decoded
    cases same
    exact { valid with input := decodeString_valid utf8 valid.input read }
  · obtain ⟨s, read, same⟩ := bind_ok.mp decoded
    cases same
    exact { valid with expectedOutput := decodeString_valid utf8 valid.expectedOutput read }
  · cases decoded
    exact valid

/-- A fold over members keeps what each of them keeps. -/
theorem foldlM_keeps {α ε : Type} {P : α → Prop} {f : α → GoString × Json.Value → Except ε α}
    {members : List (GoString × Json.Value)} (utf8 : ∀ m ∈ members, m.2.Utf8)
    (step : ∀ a a' m, m.2.Utf8 → P a → f a m = .ok a' → P a') {a a' : α} (start : P a)
    (run : members.foldlM f a = .ok a') : P a' := by
  induction members generalizing a with
  | nil =>
      cases run
      exact start
  | cons m members ih =>
      rw [List.foldlM_cons] at run
      obtain ⟨next, first, rest⟩ := bind_ok.mp run
      obtain ⟨own, others⟩ := List.forall_mem_cons.mp utf8
      exact ih others (step a next m own start first) rest

theorem decodeTest_valid {t t' : ScriptTestCase} (utf8 : v.Utf8) (valid : t.Valid)
    (decoded : decodeTest t v = .ok t') : t'.Valid := by
  unfold decodeTest at decoded
  split at decoded
  · cases decoded
    exact valid
  · cases utf8 with
    | object keys each =>
        exact foldlM_keeps each (fun _ _ _ => decodeTestField_valid) valid decoded
  · cases decoded

theorem ScriptTestCase.zero_valid : ({} : ScriptTestCase).Valid := ⟨by decide, rfl, rfl⟩

/-- Induction on the items; the memory is used up from its head. -/
theorem decodeItems_valid {items : List Json.Value} {memory : List ScriptTestCase}
    {r : List ScriptTestCase × List ScriptTestCase} (utf8 : ∀ v ∈ items, v.Utf8)
    (valid : ∀ t ∈ memory, t.Valid) (decoded : decodeItems memory items = .ok r) :
    (∀ t ∈ r.1, t.Valid) ∧ ∀ t ∈ r.2, t.Valid := by
  induction items generalizing memory r with
  | nil =>
      cases decoded
      exact ⟨nofun, valid⟩
  | cons v items ih =>
      obtain ⟨own, others⟩ := List.forall_mem_cons.mp utf8
      obtain ⟨t, first, rest⟩ := bind_ok.mp decoded
      obtain ⟨r', later, same⟩ := bind_ok.mp rest
      cases same
      have old : (memory.headD {}).Valid := by
        cases memory with
        | nil => exact ScriptTestCase.zero_valid
        | cons t memory => exact valid t List.mem_cons_self
      obtain ⟨tests, left⟩ := ih others (fun t member => valid t (List.mem_of_mem_tail member)) later
      exact ⟨List.forall_mem_cons.mpr ⟨decodeTest_valid own old first, tests⟩, left⟩

theorem decodeTests_valid {e e' : EnvelopeBuffer} (utf8 : v.Utf8) (valid : e.Valid)
    (decoded : decodeTests e v = .ok e') : e'.Valid := by
  obtain ⟨envelope, spare⟩ := valid
  unfold decodeTests at decoded
  split at decoded
  · cases decoded
    exact ⟨{ envelope with tests := nofun }, nofun⟩
  · cases decoded
    exact ⟨{ envelope with tests := nofun }, nofun⟩
  · obtain ⟨r, items, same⟩ := bind_ok.mp decoded
    cases same
    cases utf8 with
    | array each =>
        have memory : ∀ t ∈ e.tests ++ e.spare, t.Valid :=
          List.forall_mem_append.mpr ⟨envelope.tests, spare⟩
        obtain ⟨tests, left⟩ := decodeItems_valid each memory items
        exact ⟨{ envelope with tests := tests }, left⟩
  · cases decoded

theorem decodeField_valid {e e' : EnvelopeBuffer} {member : GoString × Json.Value}
    (utf8 : member.2.Utf8) (valid : e.Valid) (decoded : decodeField e member = .ok e') :
    e'.Valid := by
  obtain ⟨envelope, spare⟩ := valid
  unfold decodeField at decoded
  split_ifs at decoded
  · obtain ⟨s, read, same⟩ := bind_ok.mp decoded
    cases same
    exact ⟨{ envelope with type := decodeString_valid utf8 envelope.type read }, spare⟩
  · obtain ⟨s, read, same⟩ := bind_ok.mp decoded
    cases same
    exact ⟨{ envelope with id := decodeString_valid utf8 envelope.id read }, spare⟩
  · obtain ⟨s, read, same⟩ := bind_ok.mp decoded
    cases same
    exact ⟨{ envelope with language := decodeString_valid utf8 envelope.language read }, spare⟩
  · obtain ⟨s, read, same⟩ := bind_ok.mp decoded
    cases same
    exact ⟨{ envelope with source := decodeString_valid utf8 envelope.source read }, spare⟩
  · obtain ⟨s, read, same⟩ := bind_ok.mp decoded
    cases same
    exact ⟨{ envelope with tests := envelope.tests }, spare⟩
  · exact decodeTests_valid utf8 ⟨envelope, spare⟩ decoded
  · cases decoded
    exact ⟨envelope, spare⟩

/-- **Envelopes.**  Whatever the bytes of a message are, the strings of its envelope are valid UTF-8
and the numbers of its tests fit in 64 bits. -/
theorem unmarshalEnvelope_valid {data : GoString} {e : ScriptEnvelope}
    (unmarshalled : unmarshalEnvelope data = .ok e) : e.Valid := by
  have zero : ({} : EnvelopeBuffer).Valid := ⟨⟨rfl, rfl, rfl, rfl, nofun⟩, nofun⟩
  unfold unmarshalEnvelope at unmarshalled
  cases parsed : Json.parse data with
  | error err =>
      simp only [parsed] at unmarshalled
      cases unmarshalled
  | ok v =>
      simp only [parsed] at unmarshalled
      have utf8 := Json.parse_utf8 parsed
      cases decoded : decodeEnvelope v with
      | error err =>
          simp only [decoded] at unmarshalled
          cases unmarshalled
      | ok e' =>
          simp only [decoded] at unmarshalled
          cases unmarshalled
          unfold decodeEnvelope at decoded
          split at decoded
          · cases decoded
            exact zero.envelope
          · obtain ⟨e', run, same⟩ := bind_ok.mp decoded
            cases same
            cases utf8 with
            | object keys each =>
                exact (foldlM_keeps each (fun _ _ _ => decodeField_valid) zero run).envelope
          · cases decoded

end Decoding

/-! ## Reports -/

/-- The test entries of a report: none, or those of the tests of its script in their order. -/
def RunReport.Entries (report : RunReport) : Prop :=
  ∀ result, report.result = some result →
    result.tests = [] ∨ result.tests.map TestResult.case = report.script.tests

/-- A run has no test entries. -/
theorem returns_runProgram (lang : LanguageRuntime) (limits : RunLimits) (command : List GoString)
    (files : List FileSpec) (stdin : GoString) (attachStdin : Bool) :
    (runProgram lang limits command files stdin attachStdin).Returns
      fun o => ∀ r, o.result = some r → r.tests = [] := by
  have failed : ∀ err : GoError, (Proc.ret (RunOutcome.failed err) : Proc Docker RunOutcome).Returns
      fun o => ∀ r, o.result = some r → r.tests = [] := fun _ r absurd => nomatch absurd
  have started : ∀ limits id start, (runStarted limits id start).Returns
      fun o => ∀ r, o.result = some r → r.tests = [] := by
    intro limits id start
    unfold runStarted
    apply (Proc.Returns.any _).bind
    intro awaited _ _
    cases awaited with
    | failed err => exact failed err
    | timeLimit => exact returns_handleTimeLimit id start
    | exited status =>
        apply (returns_collectResult id start status).bind
        intro r _ untested
        cases r with
        | error err => exact failed err
        | ok result =>
            intro r present
            cases present
            exact untested result rfl
  have attached : ∀ limits id stdin attachStdin, (runAttached limits id stdin attachStdin).Returns
      fun o => ∀ r, o.result = some r → r.tests = [] := by
    intro limits id stdin attachStdin
    unfold runAttached
    apply Proc.Returns.ask
    intro start
    apply Proc.Returns.ask
    intro r
    cases r with
    | error err => exact failed _
    | ok =>
        cases attachStdin with
        | false => exact started limits id start
        | true =>
            apply Proc.Returns.ask
            intro r
            cases r with
            | error err => exact failed _
            | ok =>
                apply Proc.Returns.ask
                intro _
                exact started limits id start
  unfold runProgram
  apply (Proc.Returns.any _).bind
  intro created _ _
  cases created with
  | error err => exact failed err
  | ok id =>
      refine Proc.Meets.deferring ?_ fun o _ untested =>
        (Proc.Returns.any (cleanup id)).mono fun _ _ _ => untested
      unfold runCreated
      apply (Proc.Returns.any _).bind
      intro copied _ _
      cases copied with
      | error err => exact failed _
      | ok =>
          cases attachStdin with
          | false => exact attached _ id stdin false
          | true =>
              apply (Proc.Returns.any _).bind
              intro ctx _ _
              apply Proc.Returns.ask
              intro r
              cases r with
              | error err => exact failed _
              | ok =>
                  refine Proc.Meets.deferring (attached _ id stdin true) fun o _ untested => ?_
                  exact (Proc.Returns.any _).mono fun _ _ _ => untested

/-- The reference has an entry for each test. -/
theorem referenceReport_entries (script : Script) (outs : Nat → RunOutcome) :
    (referenceReport script outs).Entries := by
  intro result present
  cases present
  refine Or.inr ?_
  rw [List.map_map]
  apply List.ext_getElem
  · rw [List.length_map, List.length_range]
    rfl
  · intro i inside bound
    have bound : i < script.tests.length := bound
    have case : (entry script.tests outs i).case = script.tests[i]! := by
      unfold entry
      split
      · rfl
      · rfl
    rw [List.getElem_map, List.getElem_range, Function.comp_apply, case]
    exact getElem!_pos script.tests i bound

/-- **Entries of a report.**  On every engine that can be built, whatever the daemon replies. -/
theorem returns_suiteRunner {cfg : DockerConfig} {engine : Engine Docker}
    (built : newEngineWithClient cfg = .ok engine) (script : Script) :
    (SuiteRunner.run engine script).Returns RunReport.Entries := by
  unfold SuiteRunner.run
  apply (returns_engine built script).bind
  intro o _ yields
  cases yields with
  | failed err => exact fun result absurd => nomatch absurd
  | unbuilt result untested =>
      cases result with
      | none => exact fun result absurd => nomatch absurd
      | some r =>
          intro result present
          cases present
          exact Or.inl (untested _ rfl)
  | prepared p runs =>
      obtain ⟨lang, -, limits, command, files, -, run⟩ := runs
      refine Proc.Meets.deferring ?_ fun report _ entries =>
        (Proc.Returns.any p.close).mono fun _ _ _ => entries
      unfold SuiteRunner.runPrepared
      simp only
      split
      · unfold SuiteRunner.runSingle
        rw [run]
        apply (returns_runProgram lang limits command files [] true).bind
        intro o _ untested result present
        exact Or.inl (untested result present)
      · have runs : ∀ stdin (s : Unit), True → (p.run stdin).Meets (Contract.calls fun _ => True) s
            fun _ _ => True ∧ True := fun stdin s _ =>
          (Proc.Returns.any (p.run stdin)).mono fun _ _ _ => ⟨trivial, trivial⟩
        refine (meets_runSuite runs trivial).mono fun report _ reached => ?_
        obtain ⟨-, outs, -, rfl⟩ := reached
        exact referenceReport_entries script outs

/-! ## Scripts in their results -/

/-- The entry carries what was submitted about the test. -/
structure TestResultEnvelope.Repeats (t : TestResultEnvelope) (test : TestCase) : Prop where
  number : t.number = test.number
  input : t.input = test.input
  expectedOutput : t.expectedOutput = test.expectedOutput

/-- The number of a test is the one in the message, or its position. -/
theorem toTests_valid {e : ScriptEnvelope} (valid : e.Valid) (small : e.tests.length < 9223372036854775808) :
    ∀ test ∈ e.toTests, Fits test.number ∧ Json.wellFormed test.input = true ∧
      Json.wellFormed test.expectedOutput = true := by
  intro test member
  obtain ⟨i, inside, rfl⟩ := List.getElem_of_mem member
  have bound : i < e.tests.length := by
    unfold ScriptEnvelope.toTests at inside
    rwa [List.length_mapIdx] at inside
  have own := valid.tests e.tests[i] (List.getElem_mem bound)
  have here : e.toTests[i] = e.tests[i].toTest i := List.getElem_mapIdx
  rw [here]
  refine ⟨?_, own.input, own.expectedOutput⟩
  unfold ScriptTestCase.toTest
  split
  · unfold Fits
    simp only
    omega
  · exact own.number

theorem accepted_valid {msg : Message} {script : Script}
    (accepted : decodeScriptMessage msg = .ok script) :
    ∃ e : ScriptEnvelope, e.Valid ∧ unmarshalEnvelope msg.value = .ok e ∧
      script.id = e.scriptID msg ∧ script.tests = e.toTests := by
  obtain ⟨e, unmarshalled, dispatched⟩ := decodeScriptMessage_ok.mp accepted
  obtain ⟨-, -, rfl⟩ := ScriptEnvelope.toScript_ok.mp (ScriptEnvelope.dispatch_ok.mp dispatched).2
  exact ⟨e, unmarshalEnvelope_valid unmarshalled, unmarshalled, rfl, rfl⟩

/-- The entries that are read repeat the tests. -/
theorem coerced_repeats {tests : List TestResult}
    (valid : ∀ test ∈ tests.map TestResult.case, Json.wellFormed test.input = true ∧
      Json.wellFormed test.expectedOutput = true) :
    List.Forall₂ TestResultEnvelope.Repeats
      ((tests.map makeTestResultEnvelope).map TestResultEnvelope.coerced)
      (tests.map TestResult.case) := by
  rw [List.map_map, List.forall₂_map_left_iff, List.forall₂_map_right_iff, List.forall₂_same]
  intro test member
  obtain ⟨input, expectedOutput⟩ := valid _ (List.mem_map_of_mem member)
  exact ⟨rfl, Json.coerce_eq_iff.mpr input, Json.coerce_eq_iff.mpr expectedOutput⟩

/-- **What a result repeats.**  Whatever the runtime does with an accepted script, the published
bytes are read as a result of this script: the numbers, inputs and expected outputs of its tests
are there byte by byte, or none of its tests is, and so is its id, if the message has an id of its
own or a key in UTF-8 to take its place. -/
theorem result_repeats {cfg : DockerConfig} {engine : Engine Docker}
    (built : newEngineWithClient cfg = .ok engine) {msg : Message} {script : Script}
    (accepted : decodeScriptMessage msg = .ok script) (small : script.tests.length < 9223372036854775808)
    {t : List (Event Docker)} {report : RunReport}
    (run : Exec (SuiteRunner.run engine script) t report) {now : Rfc3339.Time} {payload : GoString}
    (encoded : encodeRunReport now report = .ok payload) :
    ∃ e, unmarshalResult payload = some e ∧
      (e.id = script.id ↔ Json.wellFormed script.id = true) ∧
      ((∃ sent, unmarshalEnvelope msg.value = .ok sent ∧ sent.id ≠ []) → e.id = script.id) ∧
      (e.tests = [] ∨ List.Forall₂ TestResultEnvelope.Repeats e.tests script.tests) := by
  obtain ⟨sent, valid, unmarshalled, id, tests⟩ := accepted_valid accepted
  have own : report.script = script := suiteRunner_script run
  have entries := (returns_suiteRunner built script).sound run
  have length : sent.toTests.length = sent.tests.length := List.length_mapIdx
  have texts := toTests_valid valid (by rw [← length, ← tests]; exact small)
  rw [← tests] at texts
  have typed : report.Typed := by
    intro result present test member
    rcases entries result present with none | same
    · rw [none] at member
      exact nomatch member
    · rw [own] at same
      exact (texts _ (same ▸ List.mem_map_of_mem member)).1
  have repeated : (makeResultEnvelope now.text report).coerced.id = script.id ↔
      Json.wellFormed script.id = true := by
    rw [← own]
    exact Json.coerce_eq_iff
  refine ⟨_, unmarshalResult_encodeRunReport typed encoded, repeated, ?_, ?_⟩
  · rintro ⟨sent', same, named⟩
    rw [unmarshalled] at same
    cases same
    refine repeated.mpr ?_
    have first : sent.scriptID msg = sent.id := by
      unfold ScriptEnvelope.scriptID
      simp only [named, ↓reduceIte]
    rw [id, first]
    exact valid.id
  · obtain ⟨script', result, err⟩ := report
    cases result with
    | none => exact Or.inl rfl
    | some result =>
        rcases entries result rfl with none | same
        · refine Or.inl ?_
          simp only [makeResultEnvelope, ResultEnvelope.coerced, none, List.map_nil]
        · refine Or.inr ?_
          rw [own] at same
          have read := @coerced_repeats result.tests fun test member =>
            (texts test (same ▸ member)).2
          rw [same] at read
          exact read

/-- A message whose test has a byte for input that is no UTF-8. -/
def strayByte : Message :=
  ⟨"scripts", 0, "s1",
    lit "\x7b\"id\":\"s-\\u00e9\",\"language\":\"python\",\"source\":\"print(1)\"," ++
      lit "\"tests\":[\x7b\"input\":\"" ++ [0xFF] ++ lit "\",\"expected_output\":\"1\"\x7d]\x7d"⟩

/-- Its script: the byte is U+FFFD. -/
def strayByteScript : Script :=
  { id := "s-é", language := .python, source := "print(1)", tests := [⟨1, "\uFFFD", "1"⟩] }

theorem strayByte_accepted : decodeScriptMessage strayByte = .ok strayByteScript := by rfl

theorem result_repeats_strayByte :
    ∃ t report payload e, Exec (SuiteRunner.run pythonEngine strayByteScript) t report ∧
      encodeRunReport newYear report = .ok payload ∧ unmarshalResult payload = some e ∧
      e.id = lit "s-é" := by
  have run := exec_answered servingDaemon (SuiteRunner.run pythonEngine strayByteScript) []
  have encoded := encodeRunReport_ok.mpr ⟨show newYear.year ≤ 9999 by decide, Eq.refl (Json.print
    (makeResultEnvelope newYear.text
      ((SuiteRunner.run pythonEngine strayByteScript).answered servingDaemon []).2).toJson)⟩
  obtain ⟨e, read, id, -, -⟩ := result_repeats pythonEngine_built strayByte_accepted (by decide) run
    encoded
  exact ⟨_, _, _, e, run, encoded, read, id.mpr rfl⟩

end Scrc
