import Scrc.Kafka.Encode
import Scrc.Lib.JsonDumps
import Scrc.Simulator.Scenario

/-!
# The result consumer of the simulator

`ResultConsumerService.consume` polls for results, writes a summary of each to its log and counts it.
The messages are values that `json.loads` returns, so that every access can fail; a message that
makes one fail is logged and not counted.

* `Deserialized`: what the deserializers of `create_consumer` make of the bytes of a message.
* `exec_consumeLoop`: what any run of the loop counts and logs.
* `formatResult_ok`: the summary of a message that has the members of an envelope.
* `results_counted`: every result that the service publishes is deserialized, unless the id of its
  script is no UTF-8, and is counted.

What `str`, `repr` and `splitlines` return is a parameter.
-/

namespace Json.PyValue

/-- The exceptions of Python that are met here. -/
inductive Error where
  /-- `AttributeError` -/
  | attribute
  /-- `TypeError` -/
  | type
  deriving DecidableEq

/-- `v.get(key, default)` -/
def getOr (v : PyValue) (key : String) (default : PyValue) : Except Error PyValue :=
  match v with
  | .dict members => .ok ((members.lookup key).getD default)
  | _ => .error .attribute

/-- `v.get(key)` -/
def get (v : PyValue) (key : String) : Except Error PyValue := v.getOr key .none

/-- `bool(v)` -/
def truthy : PyValue → Bool
  | .none => false
  | .bool b => b
  | .int n => n ≠ 0
  | .str s => s ≠ ""
  | .list items => !items.isEmpty
  | .dict members => !members.isEmpty

/-- `v or w` -/
def orElse (v w : PyValue) : PyValue := if v.truthy then v else w

/-- `v is not None` -/
def present : PyValue → Bool
  | .none => false
  | _ => true

/-- `v.rstrip(...)`, from what it strips. -/
def rstrip (stripped : Char → Bool) : PyValue → Except Error String
  | .str s => .ok (String.ofList (s.toList.reverse.dropWhile stripped).reverse)
  | _ => .error .attribute

/-- `iter(v)` -/
def iter : PyValue → Except Error (List PyValue)
  | .list items => .ok items
  | .str s => .ok (s.toList.map fun c => .str (String.ofList [c]))
  | .dict members => .ok (members.map fun m => .str m.1)
  | _ => .error .type

/-- An optional string. -/
def ofOption (s : Option String) : PyValue := s.elim .none .str

end Json.PyValue

namespace Scrc

open Interaction
open Json (PyValue)

/-! ## Summaries -/

/-- The texts that Python makes of a value, and what it takes for space. -/
structure PyText where
  /-- `f"{v}"` -/
  str : PyValue → String
  /-- `f"{v!r}"` -/
  repr : PyValue → String
  /-- `str.isspace` of a character -/
  isSpace : Char → Bool
  splitlines : String → List String

/-- A line, if there is one. -/
def lineIf (condition : Bool) (line : String) : List String := if condition then [line] else []

/-- The lines of `format_result` about one of the tests. -/
def formatTest (P : PyText) (test : PyValue) : Except PyValue.Error (List String) := do
  let newline (c : Char) : Bool := c = '\n'
  let number ← test.get "number"
  let status ← test.get "status"
  let exitCode ← test.get "exit_code"
  let duration ← test.get "duration_ms"
  let input ← ((← test.get "input").orElse (.str "")).rstrip newline
  let expected ← ((← test.get "expected_output").orElse (.str "")).rstrip newline
  let stdout ← ((← test.get "stdout").orElse (.str "")).rstrip newline
  let stderr ← ((← test.get "stderr").orElse (.str "")).rstrip newline
  let error ← test.get "error"
  let headerParts :=
    (if number.present then ["test " ++ P.str number] else ["test"]) ++
      lineIf status.truthy ("status=" ++ P.str status) ++
      lineIf duration.present ("duration_ms=" ++ P.str duration) ++
      lineIf exitCode.present ("exit_code=" ++ P.str exitCode)
  return ["    " ++ " ".intercalate headerParts] ++
    lineIf (input ≠ "") ("      input: " ++ P.repr (.str input)) ++
    lineIf (expected ≠ "") ("      expected: " ++ P.repr (.str expected)) ++
    lineIf (stdout ≠ "") ("      stdout: " ++ P.repr (.str stdout)) ++
    lineIf (stderr ≠ "") ("      stderr: " ++ P.repr (.str stderr)) ++
    lineIf error.truthy ("      error: " ++ P.str error)

/-- The lines of `format_result` about the tests. -/
def formatTests (P : PyText) (tests : PyValue) : Except PyValue.Error (List String) :=
  if tests.truthy then do
    let lines ← (← tests.iter).mapM (formatTest P)
    return "  tests:" :: lines.flatten
  else return []

def formatResult (P : PyText) (recordKey : Option String) (payload : PyValue) :
    Except PyValue.Error String := do
  let scriptId := ((← payload.get "id").orElse (.ofOption recordKey)).orElse (.str "<unknown>")
  let status ← payload.get "status"
  let exitCode ← payload.get "exit_code"
  let durationMs ← payload.get "duration_ms"
  let stdout ← (← payload.getOr "stdout" (.str "")).rstrip P.isSpace
  let stderr ← (← payload.getOr "stderr" (.str "")).rstrip P.isSpace
  let error ← payload.get "error"
  let timestamp ← payload.get "timestamp"
  let testLines ← formatTests P ((← payload.get "tests").orElse (.list []))
  return "\n".intercalate
    (["[" ++ P.str timestamp ++ "] script " ++ P.repr scriptId] ++
      lineIf status.truthy ("  status: " ++ P.str status) ++
      lineIf exitCode.present ("  exit_code: " ++ P.str exitCode) ++
      lineIf durationMs.present ("  duration_ms: " ++ P.str durationMs) ++
      lineIf error.truthy ("  error: " ++ P.str error) ++
      (if stdout ≠ "" then "  stdout:" :: (P.splitlines stdout).map ("    " ++ ·) else []) ++
      (if stderr ≠ "" then "  stderr:" :: (P.splitlines stderr).map ("    " ++ ·) else []) ++
      testLines)

/-! ## Counting -/

/-- `infer_script_type` of any value: `"-" not in script_id` fails for a number, and only a string
has `rpartition`. -/
def inferType (scriptId : PyValue) : Except PyValue.Error (Option String) :=
  if ¬ scriptId.truthy then .ok none
  else
    match scriptId with
    | .str id => .ok (inferScriptType (some id))
    | .list items =>
        if items.any fun v => match v with | .str s => s = "-" | _ => false then
          .error .attribute
        else .ok none
    | .dict members => if (members.lookup "-").isSome then .error .attribute else .ok none
    | _ => .error .type

/-- A message of the results topic, deserialized. -/
structure ConsumedMessage where
  key : Option String
  value : PyValue

/-- `infer_script_type(message.value.get("id") or message.key)` -/
def ConsumedMessage.scriptType (message : ConsumedMessage) :
    Except PyValue.Error (Option String) := do
  inferType ((← message.value.get "id").orElse (.ofOption message.key))

/-- The calls of the consumer. -/
inductive ConsumerCall where
  /-- `stop_event.is_set()` -/
  | isSet
  /-- `consumer.poll(timeout_ms=...)`, which deserializes -/
  | poll (timeoutMs : Int)
  /-- `logger.info(summary)` -/
  | info (summary : String)
  /-- `logger.exception("failed to process message")` -/
  | exception

/-- What `poll` returns are the batches of the partitions; an exception is its text. -/
@[reducible]
def ConsumerReply : ConsumerCall → Type
  | .isSet => Bool
  | .poll _ => Except String (List (List ConsumedMessage))
  | .info _ => Unit
  | .exception => Unit

abbrev ResultConsumer : Interface := ⟨ConsumerCall, ConsumerReply⟩

abbrev askConsumer (c : ConsumerCall) : Proc ResultConsumer (ConsumerReply c) :=
  Proc.ask (I := ResultConsumer) c

/-- The body of the loop over a batch. -/
def processMessage (P : PyText) (counters : Counter) (message : ConsumedMessage) :
    Proc ResultConsumer Counter := do
  match formatResult P message.key message.value with
  | .error _ =>
      askConsumer .exception
      return counters
  | .ok summary =>
      askConsumer (.info summary)
      match message.scriptType with
      | .error _ =>
          askConsumer .exception
          return counters
      | .ok none => return counters
      | .ok (some type) => return if type = "" then counters else counters.add type

/-- How the loop of `consume` ends; the last case is that of polls that were not allowed for. -/
inductive ConsumeEnd where
  | stopped
  | raised (err : String)
  | outOfPolls
  deriving DecidableEq

/-- `stop_event is not None and stop_event.is_set()` -/
def stopSet (stopEvent : Bool) : Proc ResultConsumer Bool :=
  if stopEvent then askConsumer .isSet else return false

/-- `consume`; the loop is given a number of polls that it may make at most. -/
def consumeLoop (P : PyText) (stopEvent : Bool) (pollTimeoutMs : Int) :
    Nat → Counter → Proc ResultConsumer (ConsumeEnd × Counter)
  | 0, counters => return (.outOfPolls, counters)
  | allowed + 1, counters => do
      if ← stopSet stopEvent then
        return (.stopped, counters)
      match ← askConsumer (.poll pollTimeoutMs) with
      | .error err => return (.raised err, counters)
      | .ok records =>
          let counters ← records.flatten.foldlM (processMessage P) counters
          consumeLoop P stopEvent pollTimeoutMs allowed counters

/-! ## Runs of the loop -/

/-- The summary of a message. -/
def ConsumedMessage.summary (P : PyText) (message : ConsumedMessage) : Option String :=
  (formatResult P message.key message.value).toOption

/-- Whether the message makes the loop body raise an exception. -/
def ConsumedMessage.raises (P : PyText) (message : ConsumedMessage) : Bool :=
  match message.summary P, message.scriptType with
  | some _, .ok _ => false
  | _, _ => true

/-- The counters behind a message. -/
def countMessage (P : PyText) (counters : Counter) (message : ConsumedMessage) : Counter :=
  match message.summary P, message.scriptType with
  | some _, .ok (some type) => if type = "" then counters else counters.add type
  | _, _ => counters

/-- The messages that an event brings. -/
def consumedBy : Event ResultConsumer → List ConsumedMessage
  | ⟨.poll _, .ok records⟩ => records.flatten
  | _ => []

/-- The messages of a run, in their order. -/
def consumed (t : List (Event ResultConsumer)) : List ConsumedMessage := t.flatMap consumedBy

/-- The summaries in the log. -/
def logged (t : List (Event ResultConsumer)) : List String :=
  t.filterMap fun
    | ⟨.info summary, _⟩ => some summary
    | _ => none

/-- The event logs an exception. -/
def IsException : Event ResultConsumer → Bool
  | ⟨.exception, _⟩ => true
  | _ => false

/-- What happens in `t` from the counters `old` to `new`: these messages are processed. -/
structure Processes (P : PyText) (messages : List ConsumedMessage) (old : Counter)
    (t : List (Event ResultConsumer)) (new : Counter) : Prop where
  counters : new = messages.foldl (countMessage P) old
  logged : logged t = messages.filterMap (ConsumedMessage.summary P)
  exceptions : t.countP IsException = messages.countP (ConsumedMessage.raises P)

section Runs

variable {P : PyText} {t t' : List (Event ResultConsumer)} {ms ms' : List ConsumedMessage}
  {old mid new : Counter}

/-- Processing one batch and then another is processing both together, with the counters handed on.
-/
theorem Processes.append (first : Processes P ms old t mid) (second : Processes P ms' mid t' new) :
    Processes P (ms ++ ms') old (t ++ t') new := by
  refine ⟨?_, ?_, ?_⟩
  · rw [List.foldl_append, ← first.counters]
    exact second.counters
  · rw [List.filterMap_append, ← first.logged, ← second.logged]
    exact List.filterMap_append
  · rw [List.countP_append, List.countP_append, first.exceptions, second.exceptions]

theorem consumed_append (t t' : List (Event ResultConsumer)) :
    consumed (t ++ t') = consumed t ++ consumed t' := List.flatMap_append

/-- One message, which brings no others. -/
theorem exec_processMessage {message : ConsumedMessage}
    (run : Exec (processMessage P old message) t new) :
    Processes P [message] old t new ∧ consumed t = [] := by
  unfold processMessage at run
  cases summary : formatResult P message.key message.value with
  | error err =>
      have none : message.summary P = none := congrArg Except.toOption summary
      rw [summary] at run
      obtain ⟨_, t', rfl, rest⟩ := exec_call.mp run
      obtain ⟨rfl, rfl⟩ := exec_ret.mp rest
      refine ⟨⟨?_, ?_, ?_⟩, rfl⟩
      · simp only [List.foldl_cons, List.foldl_nil, countMessage, none]
      · simp only [List.filterMap_cons, none]
        rfl
      · simp only [List.countP_singleton, ConsumedMessage.raises, none]
        rfl
  | ok text =>
      have some_text : message.summary P = some text := congrArg Except.toOption summary
      rw [summary] at run
      obtain ⟨_, t', rfl, rest⟩ := exec_call.mp run
      cases type : message.scriptType with
      | error err =>
          simp only [type] at rest
          obtain ⟨_, t'', rfl, last⟩ := exec_call.mp rest
          obtain ⟨rfl, rfl⟩ := exec_ret.mp last
          refine ⟨⟨?_, ?_, ?_⟩, rfl⟩
          · simp only [List.foldl_cons, List.foldl_nil, countMessage, some_text, type]
          · simp only [List.filterMap_cons, some_text]
            rfl
          · simp only [List.countP_singleton, ConsumedMessage.raises, some_text, type]
            rfl
      | ok found =>
          cases found with
          | none =>
              simp only [type] at rest
              obtain ⟨rfl, rfl⟩ := exec_ret.mp rest
              refine ⟨⟨?_, ?_, ?_⟩, rfl⟩
              · simp only [List.foldl_cons, List.foldl_nil, countMessage, some_text, type]
              · simp only [List.filterMap_cons, some_text]
                rfl
              · simp only [List.countP_singleton, ConsumedMessage.raises, some_text, type]
                rfl
          | some name =>
              simp only [type] at rest
              obtain ⟨rfl, rfl⟩ := exec_ret.mp rest
              refine ⟨⟨?_, ?_, ?_⟩, rfl⟩
              · simp only [List.foldl_cons, List.foldl_nil, countMessage, some_text, type]
              · simp only [List.filterMap_cons, some_text]
                rfl
              · simp only [List.countP_singleton, ConsumedMessage.raises, some_text, type]
                rfl

/-- The messages of one poll. -/
theorem exec_batch (run : Exec (ms.foldlM (processMessage P) old) t new) :
    Processes P ms old t new ∧ consumed t = [] := by
  induction ms generalizing old t with
  | nil =>
      obtain ⟨rfl, rfl⟩ := exec_ret.mp run
      exact ⟨⟨rfl, rfl, rfl⟩, rfl⟩
  | cons m ms ih =>
      rw [List.foldlM_cons] at run
      obtain ⟨t₁, t₂, mid, rfl, first, rest⟩ := exec_bind.mp run
      obtain ⟨one, quiet⟩ := exec_processMessage first
      obtain ⟨others, quiet'⟩ := ih rest
      exact ⟨one.append others, by rw [consumed_append, quiet, quiet']; rfl⟩

/-- **The loop.**  Whatever is polled and however the loop ends: each message is processed once, in
the order of the polls, and one that raises an exception only leaves a line in the log. -/
theorem exec_consumeLoop {stopEvent : Bool} {pollTimeoutMs : Int} {allowed : Nat}
    {r : ConsumeEnd × Counter}
    (run : Exec (consumeLoop P stopEvent pollTimeoutMs allowed old) t r) :
    Processes P (consumed t) old t r.2 := by
  induction allowed generalizing old t with
  | zero =>
      obtain ⟨rfl, rfl⟩ := exec_ret.mp run
      exact ⟨rfl, rfl, rfl⟩
  | succ allowed ih =>
      unfold consumeLoop at run
      obtain ⟨t₁, t₂, stop, rfl, asked, rest⟩ := exec_bind.mp run
      have silent : consumed t₁ = [] ∧ Processes P [] old t₁ old := by
        cases stopEvent with
        | false =>
            obtain ⟨rfl, -⟩ := exec_ret.mp asked
            exact ⟨rfl, rfl, rfl, rfl⟩
        | true =>
            obtain ⟨set, t', rfl, ended⟩ := exec_call.mp asked
            obtain ⟨rfl, -⟩ := exec_ret.mp ended
            exact ⟨rfl, rfl, rfl, rfl⟩
      rw [consumed_append, silent.1, List.nil_append]
      suffices later : Processes P (consumed t₂) old t₂ r.2 from silent.2.append later
      cases stop with
      | true =>
          obtain ⟨rfl, rfl⟩ := exec_ret.mp rest
          exact ⟨rfl, rfl, rfl⟩
      | false =>
          obtain ⟨records, t', rfl, polled⟩ := exec_call.mp rest
          cases records with
          | error err =>
              obtain ⟨rfl, rfl⟩ := exec_ret.mp polled
              exact ⟨rfl, rfl, rfl⟩
          | ok records =>
              have polled : Exec (records.flatten.foldlM (processMessage P) old >>= fun counters =>
                  consumeLoop P stopEvent pollTimeoutMs allowed counters) t' r := polled
              obtain ⟨t₃, t₄, mid, rfl, batch, further⟩ := exec_bind.mp polled
              obtain ⟨processed, quiet⟩ := exec_batch batch
              have more := processed.append (ih further)
              have all : consumed (⟨.poll pollTimeoutMs, .ok records⟩ :: (t₃ ++ t₄)) =
                  records.flatten ++ consumed t₄ := by
                refine congrArg (records.flatten ++ ·) ?_
                exact (consumed_append t₃ t₄).trans (by rw [quiet, List.nil_append])
              rw [all]
              exact ⟨more.counters, more.logged, more.exceptions⟩

end Runs

/-! ## Messages with the members of an envelope -/

/-- The values under these keys are strings. -/
def HasStrings (keys : List String) (members : List (GoString × Json.Value)) : Prop :=
  ∀ m ∈ members, ∀ key ∈ keys, m.1 = lit key → ∃ s, m.2 = .string s

/-- The keys under which `format_result` takes a string for granted in a test. -/
def testStrings : List String := ["input", "expected_output", "stdout", "stderr"]

/-- The members that `format_result` takes for granted: strings for the output, and tests that are
objects with strings. -/
structure Formattable (members : List (GoString × Json.Value)) : Prop where
  strings : HasStrings ["stdout", "stderr"] members
  tests : ∀ m ∈ members, m.1 = lit "tests" → ∃ items, m.2 = .array items ∧
    ∀ item ∈ items, ∃ own, item = .object own ∧ HasStrings testStrings own

section Formatting

variable {v : PyValue} {members : List (GoString × Json.Value)}

/-- An object of JSON is a dictionary of Python, and nothing else is. -/
theorem toValue_object (same : v.toValue = .object members) :
    ∃ ms, v = .dict ms ∧ PyValue.toMembers ms = members := by
  cases v with
  | dict ms => exact ⟨ms, rfl, Json.Value.object.inj same⟩
  | _ => cases same

/-- An array is a list. -/
theorem toValue_array {items : List Json.Value} (same : v.toValue = .array items) :
    ∃ vs, v = .list vs ∧ PyValue.toItems vs = items := by
  cases v with
  | list vs => exact ⟨vs, rfl, Json.Value.array.inj same⟩
  | _ => cases same

/-- A string of JSON that is valid UTF-8 is a `str` with these bytes. -/
theorem toValue_string {s : GoString} (same : v.toValue = .string s) :
    ∃ t, v = .str t ∧ lit t = s := by
  cases v with
  | str t => exact ⟨t, rfl, Json.Value.string.inj same⟩
  | _ => cases same

/-- An access returns the value of a member, or the default. -/
theorem getOr_ok (same : v.toValue = .object members) (key : String) (default : PyValue) :
    ∃ w, v.getOr key default = .ok w ∧
      (members.lookup (lit key) = none ∧ w = default ∨
        members.lookup (lit key) = some w.toValue) := by
  obtain ⟨ms, rfl, rfl⟩ := toValue_object same
  have found := Json.lookup_toMembers key ms
  refine ⟨_, rfl, ?_⟩
  cases here : ms.lookup key with
  | none =>
      rw [here] at found
      exact Or.inl ⟨found.symm, rfl⟩
  | some w =>
      rw [here] at found
      exact Or.inr found.symm

theorem mem_of_lookup {key : GoString} {w : Json.Value}
    (found : members.lookup key = some w) : (key, w) ∈ members := by
  induction members with
  | nil => cases found
  | cons m members ih =>
      rw [List.lookup_cons] at found
      by_cases here : key = m.1
      · rw [here, beq_self_eq_true] at found
        cases found
        rw [here]
        exact List.mem_cons_self
      · rw [beq_eq_false_iff_ne.mpr here] at found
        exact List.mem_cons_of_mem m (ih found)

/-- `get` of a dictionary does not raise; a missing key is `None`. -/
theorem get_ok (same : v.toValue = .object members) (key : String) : ∃ w, v.get key = .ok w := by
  obtain ⟨w, got, -⟩ := getOr_ok same key .none
  exact ⟨w, got⟩

/-- An access to a string, with a string for default. -/
theorem getOr_string (same : v.toValue = .object members) {keys : List String}
    (strings : HasStrings keys members) (key : String) (listed : key ∈ keys) (default : String) :
    ∃ s, v.getOr key (.str default) = .ok (.str s) := by
  obtain ⟨w, got, ⟨-, rfl⟩ | found⟩ := getOr_ok same key (.str default)
  · exact ⟨default, got⟩
  · obtain ⟨s, string⟩ := strings _ (mem_of_lookup found) key listed rfl
    obtain ⟨t, rfl, -⟩ := toValue_string string
    exact ⟨t, got⟩

/-- `(v.get(key) or "").rstrip(...)` -/
theorem rstrip_get_ok (same : v.toValue = .object members) {keys : List String}
    (strings : HasStrings keys members) (key : String) (listed : key ∈ keys)
    (stripped : Char → Bool) :
    ∃ w s, v.get key = .ok w ∧ (w.orElse (.str "")).rstrip stripped = .ok s := by
  obtain ⟨w, got, ⟨-, rfl⟩ | found⟩ := getOr_ok same key .none
  · exact ⟨_, _, got, rfl⟩
  · obtain ⟨s, string⟩ := strings _ (mem_of_lookup found) key listed rfl
    obtain ⟨t, rfl, -⟩ := toValue_string string
    by_cases empty : t = ""
    · subst empty
      exact ⟨_, _, got, rfl⟩
    · have kept : (PyValue.str t).orElse (.str "") = .str t := by
        unfold PyValue.orElse PyValue.truthy
        simp only [empty, ne_eq, not_false_eq_true, decide_true, ↓reduceIte]
      exact ⟨_, _, got, congrArg (PyValue.rstrip stripped) kept⟩

/-- A test with strings where strings are expected is formatted without an exception. -/
theorem formatTest_ok (P : PyText) (same : v.toValue = .object members)
    (strings : HasStrings testStrings members) : ∃ lines, formatTest P v = .ok lines := by
  obtain ⟨number, gotNumber⟩ := get_ok same "number"
  obtain ⟨status, gotStatus⟩ := get_ok same "status"
  obtain ⟨exitCode, gotExit⟩ := get_ok same "exit_code"
  obtain ⟨duration, gotDuration⟩ := get_ok same "duration_ms"
  obtain ⟨error, gotError⟩ := get_ok same "error"
  obtain ⟨input, inputText, gotInput, inputStripped⟩ :=
    rstrip_get_ok same strings "input" (by decide) fun c => c = '\n'
  obtain ⟨expected, expectedText, gotExpected, expectedStripped⟩ :=
    rstrip_get_ok same strings "expected_output" (by decide) fun c => c = '\n'
  obtain ⟨stdout, stdoutText, gotStdout, stdoutStripped⟩ :=
    rstrip_get_ok same strings "stdout" (by decide) fun c => c = '\n'
  obtain ⟨stderr, stderrText, gotStderr, stderrStripped⟩ :=
    rstrip_get_ok same strings "stderr" (by decide) fun c => c = '\n'
  unfold formatTest
  simp only [gotNumber, gotStatus, gotExit, gotDuration, gotError, gotInput, inputStripped,
    gotExpected, expectedStripped, gotStdout, stdoutStripped, gotStderr, stderrStripped, bind,
    Except.bind, pure, Except.pure]
  exact ⟨_, rfl⟩

/-- So is a list of them. -/
theorem mapM_ok {α β ε : Type} {f : α → Except ε β} {items : List α}
    (each : ∀ a ∈ items, ∃ b, f a = .ok b) : ∃ results, items.mapM f = .ok results := by
  induction items with
  | nil => exact ⟨[], rfl⟩
  | cons a items ih =>
      obtain ⟨own, others⟩ := List.forall_mem_cons.mp each
      obtain ⟨b, first⟩ := own
      obtain ⟨results, rest⟩ := ih others
      refine ⟨b :: results, ?_⟩
      rw [List.mapM_cons, first, rest]
      rfl

/-- **Summaries.**  Formatting such a message raises no exception. -/
theorem formatResult_ok (P : PyText) (recordKey : Option String)
    (same : v.toValue = .object members) (formattable : Formattable members) :
    ∃ summary, formatResult P recordKey v = .ok summary := by
  obtain ⟨id, gotId⟩ := get_ok same "id"
  obtain ⟨status, gotStatus⟩ := get_ok same "status"
  obtain ⟨exitCode, gotExit⟩ := get_ok same "exit_code"
  obtain ⟨durationMs, gotDuration⟩ := get_ok same "duration_ms"
  obtain ⟨error, gotError⟩ := get_ok same "error"
  obtain ⟨timestamp, gotTimestamp⟩ := get_ok same "timestamp"
  obtain ⟨stdout, gotStdout⟩ := getOr_string same formattable.strings "stdout"
    (by decide) ""
  obtain ⟨stderr, gotStderr⟩ := getOr_string same formattable.strings "stderr"
    (by decide) ""
  obtain ⟨tests, gotTests, found⟩ := getOr_ok same "tests" .none
  obtain ⟨lines, formatted⟩ : ∃ lines, formatTests P (tests.orElse (.list [])) = .ok lines := by
    rcases found with ⟨-, rfl⟩ | found
    · exact ⟨[], rfl⟩
    · obtain ⟨items, array, each⟩ := formattable.tests _ (mem_of_lookup found) rfl
      obtain ⟨vs, rfl, rfl⟩ := toValue_array array
      cases vs with
      | nil => exact ⟨[], rfl⟩
      | cons first others =>
          obtain ⟨lines, all⟩ := @mapM_ok _ _ _ (formatTest P) (first :: others) fun test member => by
            rw [PyValue.toItems_eq] at each
            obtain ⟨own, object, strings⟩ := each _ (List.mem_map_of_mem member)
            exact formatTest_ok P object strings
          refine ⟨"  tests:" :: lines.flatten, ?_⟩
          change ((first :: others).mapM (formatTest P) >>= fun lines =>
            pure ("  tests:" :: lines.flatten)) = _
          rw [all]
          rfl
  have gotTests : v.get "tests" = .ok tests := gotTests
  unfold formatResult
  simp only [gotId, gotStatus, gotExit, gotDuration, gotError, gotTimestamp, gotStdout, gotStderr,
    PyValue.rstrip, gotTests, formatted, bind, Except.bind, pure, Except.pure]
  exact ⟨_, rfl⟩

end Formatting

/-! ## Results of the service -/

/-- The key and the value of a Kafka message as `key_deserializer` and `value_deserializer` return
them: a key of no bytes is none, and the text is decoded and read.  For texts with integers alone,
and with surrogates in pairs, `json.loads` reads what every reader of JSON does. -/
structure Deserialized (key value : GoString) (message : ConsumedMessage) : Prop where
  key : message.key.map lit = if key = [] then none else some key
  utf8 : Json.wellFormed value = true
  value : Json.parse value = .ok message.value.toValue

section Envelopes

variable {keys : List String} {name : String}

/-- Members may be added that are strings or have another key. -/
theorem HasStrings.append {ms ms' : List (GoString × Json.Value)} (first : HasStrings keys ms)
    (next : HasStrings keys ms') : HasStrings keys (ms ++ ms') :=
  List.forall_mem_append.mpr ⟨first, next⟩

theorem hasStrings_stringMember (s : GoString) : HasStrings keys (stringMember name s) := by
  intro m member key listed here
  unfold stringMember at member
  split_ifs at member
  · exact nomatch member
  · rw [List.mem_singleton.mp member]
    exact ⟨s, rfl⟩

/-- A member whose key is not among these may have any value. -/
theorem hasStrings_one {v : Json.Value} (apart : name ∉ keys) :
    HasStrings keys [(lit name, v)] := by
  intro m member key listed here
  rw [List.mem_singleton.mp member] at here
  exact absurd (lit_injective here ▸ listed) apart

theorem hasStrings_intMember (apart : name ∉ keys) (n : Option Int64) :
    HasStrings keys (intMember name n) := by
  cases n with
  | none => exact nofun
  | some n => exact hasStrings_one apart

theorem stringMember_key (s : GoString) : ∀ m ∈ stringMember name s, m.1 = lit name := by
  intro m member
  unfold stringMember at member
  split_ifs at member
  · exact nomatch member
  · exact congrArg Prod.fst (List.mem_singleton.mp member)

theorem intMember_key (n : Option Int64) : ∀ m ∈ intMember name n, m.1 = lit name := by
  cases n with
  | none => exact nofun
  | some n => exact fun m member => congrArg Prod.fst (List.mem_singleton.mp member)

/-- The tests that the service writes have strings there, or leave the member out. -/
theorem TestResultEnvelope.hasStrings (t : TestResultEnvelope) :
    ∃ own, t.toJson = .object own ∧ HasStrings testStrings own := by
  have strings := @hasStrings_stringMember testStrings
  refine ⟨_, rfl, @HasStrings.append _ [_] _ (hasStrings_one (by decide)) ?_⟩
  exact ((((((((strings _).append (hasStrings_intMember (by decide) _)).append
    (hasStrings_intMember (by decide) _)).append (strings _)).append (strings _)).append
      (strings _)).append (strings _)).append (strings _))

/-- The members of an envelope. -/
theorem ResultEnvelope.formattable (e : ResultEnvelope) :
    ∃ members, e.toJson = .object members ∧ Formattable members ∧
      members.lookup (lit "id") = some (.string e.id) := by
  refine ⟨_, rfl, ⟨?_, ?_⟩, List.lookup_cons_self⟩
  · have strings := @hasStrings_stringMember ["stdout", "stderr"]
    have tests : HasStrings ["stdout", "stderr"] (testsMember e.tests) := by
      unfold testsMember
      split_ifs
      · exact nofun
      · exact hasStrings_one (by decide)
    refine @HasStrings.append _ [_] _ (hasStrings_one (by decide)) ?_
    exact ((((((((strings _).append (hasStrings_intMember (by decide) _)).append
      (strings _)).append (strings _)).append (hasStrings_intMember (by decide) _)).append
        (strings _)).append tests).append (hasStrings_one (by decide)))
  · have other : ∀ {name : String} {ms : List (GoString × Json.Value)}, name ≠ "tests" →
        (∀ m ∈ ms, m.1 = lit name) → ∀ m ∈ ms, m.1 = lit "tests" →
          ∃ items, m.2 = .array items ∧
            ∀ item ∈ items, ∃ own, item = .object own ∧ HasStrings testStrings own :=
      fun apart own m member here =>
        absurd (lit_injective ((own m member).symm.trans here)) apart
    have tests : ∀ m ∈ testsMember e.tests, m.1 = lit "tests" → ∃ items, m.2 = .array items ∧
        ∀ item ∈ items, ∃ own, item = .object own ∧ HasStrings testStrings own := by
      intro m member _
      unfold testsMember at member
      split_ifs at member
      · exact nomatch member
      · rw [List.mem_singleton.mp member]
        refine ⟨_, rfl, fun item inside => ?_⟩
        obtain ⟨t, _, rfl⟩ := List.mem_map.mp inside
        exact t.hasStrings
    simp only [List.forall_mem_cons, List.forall_mem_append]
    exact ⟨fun here => absurd (lit_injective here) (by decide),
      ⟨⟨⟨⟨⟨⟨⟨other (by decide) (stringMember_key _), other (by decide) (intMember_key _)⟩,
        other (by decide) (stringMember_key _)⟩, other (by decide) (stringMember_key _)⟩,
        other (by decide) (intMember_key _)⟩, other (by decide) (stringMember_key _)⟩, tests⟩,
      fun here => absurd (lit_injective here) (by decide), nofun⟩⟩

/-! ### Texts of envelopes -/

/-- The numbers of an envelope are integers, so Python reads an `int` for each and never a `float`.
-/
theorem intValue_integral (n : Int) : (intValue n).Integral := by
  unfold intValue
  rw [intText_eq]
  exact .number n

theorem stringMember_integral (s : GoString) : ∀ m ∈ stringMember name s, m.2.Integral := by
  intro m member
  unfold stringMember at member
  split_ifs at member
  · exact nomatch member
  · rw [List.mem_singleton.mp member]
    exact .string s

theorem intMember_integral (n : Option Int64) : ∀ m ∈ intMember name n, m.2.Integral := by
  intro m member
  cases n with
  | none => exact nomatch member
  | some n =>
      rw [List.mem_singleton.mp member]
      exact intValue_integral n.toInt

theorem TestResultEnvelope.integral (t : TestResultEnvelope) : t.toJson.Integral := by
  refine .object ?_
  simp only [List.forall_mem_cons, List.forall_mem_append]
  have strings := @stringMember_integral
  have ints := @intMember_integral
  exact ⟨intValue_integral t.number, ⟨⟨⟨⟨⟨⟨⟨strings _, ints _⟩, ints _⟩, strings _⟩, strings _⟩,
    strings _⟩, strings _⟩, strings _⟩⟩

/-- The same for the whole envelope, its members taken one by one. -/
theorem ResultEnvelope.integral (e : ResultEnvelope) : e.toJson.Integral := by
  refine .object ?_
  simp only [List.forall_mem_cons, List.forall_mem_append]
  have strings := @stringMember_integral
  have ints := @intMember_integral
  have tests : ∀ m ∈ testsMember e.tests, m.2.Integral := by
    intro m member
    unfold testsMember at member
    split_ifs at member
    · exact nomatch member
    · rw [List.mem_singleton.mp member]
      refine .array fun v inside => ?_
      obtain ⟨t, _, rfl⟩ := List.mem_map.mp inside
      exact t.integral
  exact ⟨.string e.id, ⟨⟨⟨⟨⟨⟨⟨strings _, ints _⟩, strings _⟩, strings _⟩, ints _⟩, strings _⟩, tests⟩,
    .string e.timestamp, nofun⟩⟩

end Envelopes

section Counting

variable {now : Rfc3339.Time} {report : RunReport} {payload : GoString} {message : ConsumedMessage}

/-- The bytes of a report are UTF-8, and are read as its envelope with the strings coerced. -/
theorem encoded_text (encoded : encodeRunReport now report = .ok payload) :
    Json.wellFormed payload = true ∧
      Json.parse payload = .ok (makeResultEnvelope now.text report).coerced.toJson := by
  obtain ⟨-, rfl⟩ := encodeRunReport_ok.mp encoded
  have parsed := Json.parse_print (makeResultEnvelope now.text report).printable (by decide)
  rw [ResultEnvelope.coerce_toJson fun _ => Rfc3339.text_ascii] at parsed
  exact ⟨Json.wellFormed_print (makeResultEnvelope now.text report).integral, parsed⟩

/-- A message reaches the loop only when its key can be decoded. -/
theorem deserialized_key {key value : GoString} (deserialized : Deserialized key value message) :
    Json.wellFormed key = true := by
  have own := deserialized.key
  split_ifs at own with empty
  · rw [empty]
    rfl
  · obtain ⟨s, -, rfl⟩ := Option.map_eq_some_iff.mp own
    exact Json.wellFormed_iff_string.mpr ⟨s, rfl⟩

/-- The message of a report is deserialized, unless its key is no UTF-8. -/
theorem deserialized_iff (encoded : encodeRunReport now report = .ok payload) :
    (∃ message, Deserialized report.script.id payload message) ↔
      Json.wellFormed report.script.id = true := by
  obtain ⟨utf8, parsed⟩ := encoded_text encoded
  constructor
  · rintro ⟨message, deserialized⟩
    exact deserialized_key deserialized
  · intro valid
    obtain ⟨v, value⟩ := Json.exists_pyValue (ResultEnvelope.integral _) (Json.parse_utf8 parsed)
    obtain ⟨t, id⟩ := Json.wellFormed_iff_string.mp valid
    rw [← value] at parsed
    by_cases empty : report.script.id = []
    · exact ⟨⟨none, v⟩, (if_pos empty).symm, utf8, parsed⟩
    · refine ⟨⟨some t, v⟩, ?_, utf8, parsed⟩
      rw [if_neg empty]
      exact congrArg some id

/-- For a string `infer_script_type` is the function of the scenarios; it raises for a value of
another type. -/
theorem inferType_str (s : String) : inferType (.str s) = .ok (inferScriptType (some s)) := by
  unfold inferType PyValue.truthy
  by_cases empty : s = ""
  · subst empty
    rfl
  · simp only [empty, ne_eq, not_false_eq_true, decide_true, not_true_eq_false, ↓reduceIte]

/-- An id that is empty falls back to the key, which is the id of the script again. -/
theorem inferType_orElse (id : String) (key : Option String) :
    inferType ((PyValue.str id).orElse (.ofOption key)) =
      .ok (inferScriptType (ReceivedResult.scriptId ⟨key, some id⟩)) := by
  unfold PyValue.orElse PyValue.truthy ReceivedResult.scriptId
  by_cases empty : id = ""
  · subst empty
    cases key with
    | none => rfl
    | some key => exact inferType_str key
  · simp only [empty, ne_eq, not_false_eq_true, decide_true, ↓reduceIte]
    exact inferType_str id

/-- A message of a report is summarized, and counted by its id. -/
theorem deserialized_counted (P : PyText) (encoded : encodeRunReport now report = .ok payload)
    (deserialized : Deserialized report.script.id payload message) :
    ∃ result, Delivered (resultMessage now.text report) result ∧ result.key = message.key ∧
      message.raises P = false ∧
      ∀ counters, countMessage P counters message = consumeMessage counters result := by
  obtain ⟨-, parsed⟩ := encoded_text encoded
  rw [deserialized.value] at parsed
  obtain ⟨members, object, formattable, found⟩ :=
    (makeResultEnvelope now.text report).coerced.formattable
  have same : message.value.toValue = .object members := (Except.ok.inj parsed).trans object
  obtain ⟨summary, formatted⟩ := formatResult_ok P message.key same formattable
  have summarized : message.summary P = some summary := congrArg Except.toOption formatted
  obtain ⟨w, got, ⟨absent, -⟩ | read⟩ := getOr_ok same "id" .none
  · rw [found] at absent
    cases absent
  · rw [found] at read
    obtain ⟨id, rfl, carried⟩ := toValue_string (Option.some.inj read).symm
    have got : message.value.get "id" = .ok (.str id) := got
    have valid := deserialized_key deserialized
    have own : lit id = report.script.id := carried.trans (Json.coerce_eq_iff.mpr valid)
    have type : message.scriptType =
        .ok (inferScriptType (ReceivedResult.scriptId ⟨message.key, some id⟩)) := by
      unfold ConsumedMessage.scriptType
      rw [got]
      exact inferType_orElse id message.key
    refine ⟨⟨message.key, some id⟩, ⟨congrArg some own, deserialized.key⟩, rfl, ?_, fun counters => ?_⟩
    · simp only [ConsumedMessage.raises, summarized, type]
    · simp only [countMessage, summarized, type, consumeMessage]
      cases inferScriptType (ReceivedResult.scriptId ⟨message.key, some id⟩) with
      | none => rfl
      | some type => rfl

end Counting

/-- The message brings a result that the service published, under the key of its script. -/
def ConsumedMessage.Brings (message : ConsumedMessage) (result : ReceivedResult) : Prop :=
  ∃ now report payload, encodeRunReport now report = .ok payload ∧
    Deserialized report.script.id payload message ∧ Delivered (resultMessage now.text report) result

/-- **Every result is counted.**  The bytes of a report are deserialized exactly when the id of its
script is UTF-8.  In a run over messages with such bytes, however many polls bring them and in
whatever batches, no exception is logged, each message has its summary in the log, and the counters
are those of their ids. -/
theorem results_counted (P : PyText) (stopEvent : Bool) (pollTimeoutMs : Int) (allowed : Nat)
    (old : Counter) :
    (∀ now report payload, encodeRunReport now report = .ok payload →
      ((∃ message, Deserialized report.script.id payload message) ↔
        Json.wellFormed report.script.id = true)) ∧
    ∀ t r, Exec (consumeLoop P stopEvent pollTimeoutMs allowed old) t r →
      (∀ message ∈ consumed t, ∃ now report payload, encodeRunReport now report = .ok payload ∧
        Deserialized report.script.id payload message) →
      t.countP IsException = 0 ∧ (logged t).length = (consumed t).length ∧
      ∃ results, List.Forall₂ ConsumedMessage.Brings (consumed t) results ∧
        r.2 = consume old results := by
  refine ⟨fun now report payload encoded => deserialized_iff encoded, fun t r run published => ?_⟩
  have processed := exec_consumeLoop run
  generalize consumed t = messages at processed published
  have quiet : ∀ message ∈ messages, message.raises P = false := by
    intro message member
    obtain ⟨now, report, payload, encoded, deserialized⟩ := published message member
    obtain ⟨result, -, -, quiet, -⟩ := deserialized_counted P encoded deserialized
    exact quiet
  refine ⟨?_, ?_, ?_⟩
  · rw [processed.exceptions, List.countP_eq_zero]
    exact fun message member => Bool.eq_false_iff.mp (quiet message member)
  · rw [processed.logged, List.length_filterMap_eq_countP, List.countP_eq_length]
    intro message member
    have own := quiet message member
    unfold ConsumedMessage.raises at own
    cases summary : message.summary P with
    | none =>
        rw [summary] at own
        cases own
    | some summary => rfl
  · rw [processed.counters]
    clear run processed quiet
    induction messages generalizing old with
    | nil => exact ⟨[], .nil, rfl⟩
    | cons message messages ih =>
        obtain ⟨own, others⟩ := List.forall_mem_cons.mp published
        obtain ⟨now, report, payload, encoded, deserialized⟩ := own
        obtain ⟨result, delivered, -, -, counted⟩ := deserialized_counted P encoded deserialized
        obtain ⟨results, brought, rest⟩ := ih (countMessage P old message) others
        refine ⟨result :: results,
          .cons ⟨now, report, payload, encoded, deserialized, delivered⟩ brought, ?_⟩
        rw [List.foldl_cons, rest, counted]
        rfl

/-- No exception is raised, and nothing more is polled. -/
def noMore (_ : List (Event ResultConsumer)) : (c : ConsumerCall) → ConsumerReply c
  | .isSet => false
  | .poll _ => .ok []
  | .info _ => ()
  | .exception => ()

/-- What Python makes of values that are no lists or dictionaries, in texts without escapes. -/
def plainText : PyText where
  str
    | .none => "None"
    | .bool b => if b then "True" else "False"
    | .int n => toString n
    | .str s => s
    | _ => ""
  repr
    | .str s => "'" ++ s ++ "'"
    | .int n => toString n
    | _ => ""
  isSpace c := c.isWhitespace
  splitlines s := s.splitOn "\n"

/-- A run over the result of a script that wrote one byte. -/
theorem results_counted_oneByte :
    ∃ message t r, Exec (consumeLoop plainText true 1000 1 fun _ => 0) t r ∧ consumed t = [message] ∧
      t.countP IsException = 0 := by
  have counted := results_counted plainText true 1000 1 fun _ => 0
  have encoded := encodeRunReport_ok.mpr ⟨show newYear.year ≤ 9999 by decide,
    Eq.refl (Json.print (makeResultEnvelope newYear.text (oneByteReport 49)).toJson)⟩
  obtain ⟨message, deserialized⟩ := (counted.1 _ _ _ encoded).mpr (by decide)
  have batch := exec_answered noMore ([message].foldlM (processMessage plainText) fun _ => 0) []
  generalize ([message].foldlM (processMessage plainText) fun _ => 0).answered noMore [] = ended at batch
  have run : Exec (consumeLoop plainText true 1000 1 fun _ => 0)
      (⟨.isSet, false⟩ :: ⟨.poll 1000, .ok [[message]]⟩ :: ended.1) (.outOfPolls, ended.2) := by
    have rest : Exec ([message].foldlM (processMessage plainText) (fun _ => 0) >>= fun counters =>
        consumeLoop plainText true 1000 0 counters) ended.1 (.outOfPolls, ended.2) :=
      exec_bind.mpr ⟨_, [], _, (List.append_nil _).symm, batch, .ret _⟩
    exact .call (.call rest)
  have brought : consumed (⟨.isSet, false⟩ :: ⟨.poll 1000, .ok [[message]]⟩ :: ended.1) =
      [message] := congrArg (message :: ·) (exec_batch batch).2
  refine ⟨message, _, _, run, brought, (counted.2 _ _ run fun m member => ?_).1⟩
  rw [brought] at member
  rw [List.mem_singleton.mp member]
  exact ⟨_, _, _, encoded, deserialized⟩

end Scrc
