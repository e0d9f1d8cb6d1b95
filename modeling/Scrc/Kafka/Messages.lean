import Scrc.Execution

/-!
# Message envelopes

The envelopes of package `kafka`: how the fields of a decoded script message become a `Script`,
and how a report becomes the envelope that is published.  The bytes on the wire are the business
of `Scrc.Kafka.Decode` and `Scrc.Kafka.Encode`.
-/

namespace Scrc

/-! ## Scripts -/

structure ScriptLimits where
  timeLimitMs : Int64 := 0
  memoryLimitBytes : Int64 := 0
  deriving DecidableEq, Inhabited

structure ScriptTestCase where
  number : Int := 0
  input : GoString := []
  expectedOutput : GoString := []
  deriving DecidableEq, Inhabited

/-- `scriptEnvelope`; the default value is Go's zero value. -/
structure ScriptEnvelope where
  type : GoString := []
  id : GoString := []
  language : GoString := []
  source : GoString := []
  limits : Option ScriptLimits := none
  tests : List ScriptTestCase := []
  deriving DecidableEq, Inhabited

/-- `kafkago.Message`, the fields that are read. -/
structure Message where
  topic : GoString
  offset : Int64
  key : GoString
  value : GoString
  deriving DecidableEq, Inhabited

def ScriptEnvelope.toLimits (e : ScriptEnvelope) : RunLimits :=
  match e.limits with
  | none => ⟨0, 0⟩
  | some limits =>
      { timeLimit := if limits.timeLimitMs > 0 then limits.timeLimitMs * Duration.millisecond else 0
        memoryLimitBytes := if limits.memoryLimitBytes > 0 then limits.memoryLimitBytes else 0 }

/-- One step of the loop of `toTests`: a number that is not positive becomes the position. -/
def ScriptTestCase.toTest (idx : Nat) (test : ScriptTestCase) : TestCase where
  number := if test.number ≤ 0 then idx + 1 else test.number
  input := test.input
  expectedOutput := test.expectedOutput

def ScriptEnvelope.toTests (e : ScriptEnvelope) : List TestCase :=
  e.tests.mapIdx fun idx test => test.toTest idx

/-- The id of the envelope, or else the key of the message, or else its topic and offset. -/
def ScriptEnvelope.scriptID (e : ScriptEnvelope) (msg : Message) : GoString :=
  let scriptID := e.id
  let scriptID := if scriptID = [] then msg.key else scriptID
  if scriptID = [] then msg.topic ++ lit ":" ++ intText msg.offset.toInt else scriptID

def ScriptEnvelope.toScript (e : ScriptEnvelope) (msg : Message) : Except GoError Script :=
  if e.source = [] then .error (.new "script message missing source")
  else if e.language = [] then .error (.new "script message missing language")
  else
    .ok {
      id := e.scriptID msg
      language := ⟨e.language⟩
      source := e.source
      limits := e.toLimits
      tests := e.toTests }

/-- `decodeScriptMessage` past `json.Unmarshal`. -/
def ScriptEnvelope.dispatch (e : ScriptEnvelope) (msg : Message) : Except GoError Script :=
  let msgType := if e.type = [] then lit "script" else e.type
  if msgType = lit "script" then e.toScript msg
  else if msgType = lit "done" then .error .eof
  else .error (.new (lit "unknown message type " ++ quote msgType))

/-- The script of an envelope, when it has a source and a language. -/
theorem ScriptEnvelope.toScript_ok {e : ScriptEnvelope} {msg : Message} {script : Script} :
    e.toScript msg = .ok script ↔
      e.source ≠ [] ∧ e.language ≠ [] ∧
        script = { id := e.scriptID msg, language := ⟨e.language⟩, source := e.source,
                   limits := e.toLimits, tests := e.toTests } := by
  unfold ScriptEnvelope.toScript
  by_cases source : e.source = []
  · rw [if_pos source]
    exact ⟨nofun, fun all => absurd source all.1⟩
  · by_cases language : e.language = []
    · rw [if_neg source, if_pos language]
      exact ⟨nofun, fun all => absurd language all.2.1⟩
    · rw [if_neg source, if_neg language]
      exact ⟨fun same => ⟨source, language, (Except.ok.inj same).symm⟩,
        fun all => congrArg Except.ok all.2.2.symm⟩

/-- Only messages of the type of scripts, which is the default, yield one. -/
theorem ScriptEnvelope.dispatch_ok {e : ScriptEnvelope} {msg : Message} {script : Script} :
    e.dispatch msg = .ok script ↔
      (e.type = [] ∨ e.type = lit "script") ∧ e.toScript msg = .ok script := by
  unfold ScriptEnvelope.dispatch
  by_cases unset : e.type = []
  · simp only [unset, ↓reduceIte, true_or, true_and]
  · by_cases named : e.type = lit "script"
    · simp only [named, ↓reduceIte, ite_self, or_true, true_and]
    · simp only [unset, named, ↓reduceIte, or_self, false_and, iff_false]
      split
      · exact nofun
      · exact nofun

/-! ## Results -/

/-- `testResultEnvelope`; the optional fields are pointers. -/
structure TestResultEnvelope where
  number : Int
  status : Status
  exitCode : Option Int64
  durationMs : Option Int64
  stdout : GoString
  stderr : GoString
  input : GoString
  expectedOutput : GoString
  error : GoString
  deriving DecidableEq, Inhabited

/-- `resultEnvelope`; the optional fields are pointers, the timestamp is text. -/
structure ResultEnvelope where
  id : GoString
  status : Status
  exitCode : Option Int64
  stdout : GoString
  stderr : GoString
  durationMs : Option Int64
  error : GoString
  tests : List TestResultEnvelope
  timestamp : GoString
  deriving DecidableEq, Inhabited

def makeTestResultEnvelope (test : TestResult) : TestResultEnvelope where
  number := test.case.number
  status := test.status
  exitCode := some test.exitCode
  durationMs := some test.duration.milliseconds
  stdout := test.stdout
  stderr := test.stderr
  input := test.case.input
  expectedOutput := test.case.expectedOutput
  error := test.error

/-- `makeResultEnvelope`, which stamps the envelope with the time `timestamp` it is made. -/
def makeResultEnvelope (timestamp : GoString) (report : RunReport) : ResultEnvelope where
  id := report.script.id
  status := match report.result with | some r => r.status | none => .unset
  exitCode := report.result.map Result.exitCode
  stdout := match report.result with | some r => r.stdout | none => []
  stderr := match report.result with | some r => r.stderr | none => []
  durationMs := report.result.map fun r => r.duration.milliseconds
  error := match report.err with | some err => err.text | none => []
  tests := match report.result with | some r => r.tests.map makeTestResultEnvelope | none => []
  timestamp := timestamp

end Scrc
