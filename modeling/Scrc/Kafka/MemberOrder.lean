import Scrc.Kafka.Stream
import Scrc.Lib.JsonRecord

/-!
# The order of members in a message

The structs that a message is decoded into, as records whose fields are read one by one.

* `limitsRecord`, `testRecord`, `envelopeRecord`: the structs; `decodeLimitsField_step` and its like
  say that decoding a member is a step of them.
* `memberOrder_irrelevant`: in messages without repeated keys the order of the members is no matter
  to what the service executes.
-/

namespace Scrc

open Interaction Transition
open Json (Value Record)

/-! ## Fields by their names -/

/-- The field that a key names. -/
def fieldOf {F : Type} (names : List (String × F)) (key : GoString) : Option F :=
  (names.find? fun n => isField n.1 key).map Prod.snd

section Names

variable {F : Type} {names : List (String × F)} {key : GoString}

/-- The fields are tried in their order, and the first whose name is equal under folding is the one.
-/
theorem fieldOf_cons (n : String × F) :
    fieldOf (n :: names) key = if isField n.1 key then some n.2 else fieldOf names key := by
  unfold fieldOf
  rw [List.find?_cons]
  cases isField n.1 key <;> rfl

/-- Two keys that name one field are the same, up to case. -/
theorem fieldOf_folded (distinct : (names.map Prod.snd).Nodup) (k k' : GoString)
    (same : fieldOf names k = fieldOf names k') (known : fieldOf names k ≠ none) :
    foldName k = foldName k' := by
  obtain ⟨f, named⟩ := Option.ne_none_iff_exists'.mp known
  rw [named] at same
  obtain ⟨n, found, rfl⟩ := Option.map_eq_some_iff.mp named
  obtain ⟨n', found', own⟩ := Option.map_eq_some_iff.mp same.symm
  have one : n' = n := List.inj_on_of_nodup_map distinct (List.mem_of_find?_eq_some found')
    (List.mem_of_find?_eq_some found) own
  have hit : isField n.1 k = true := by simpa using List.find?_some found
  have hit' : isField n'.1 k' = true := by simpa using List.find?_some found'
  rw [of_decide_eq_true hit, of_decide_eq_true hit', one]

/-- Which error it was is forgotten from here on, since another order of the members can bring
another error first. -/
theorem toOption_bind {ε α β : Type} (x : Except ε α) (f : α → Except ε β) :
    (x >>= f).toOption = x.toOption.bind fun a => (f a).toOption := by
  cases x <;> rfl

/-- A field of a struct that is set to what a value decodes to. -/
theorem toOption_set {ε α β : Type} (x : Except ε α) (f : α → β) :
    (x >>= fun a => pure (f a)).toOption = x.toOption.map f := by
  cases x <;> rfl

end Names

/-! ## Limits -/

inductive LimitsField where
  | timeLimitMs
  | memoryLimitBytes
  deriving DecidableEq

def limitsFields : List (String × LimitsField) :=
  [("time_limit_ms", .timeLimitMs), ("memory_limit_bytes", .memoryLimitBytes)]

def limitsRecord : Record ScriptLimits where
  Field := LimitsField
  Content _ := Int64
  get
    | .timeLimitMs, l => l.timeLimitMs
    | .memoryLimitBytes, l => l.memoryLimitBytes
  set
    | .timeLimitMs, l, n => { l with timeLimitMs := n }
    | .memoryLimitBytes, l, n => { l with memoryLimitBytes := n }
  frame {f g} s x different := by
    cases f <;> cases g <;> first | exact absurd rfl different | rfl
  comm {f g} s x y different := by
    cases f <;> cases g <;> first | exact absurd rfl different | rfl
  field := fieldOf limitsFields
  decode
    | .timeLimitMs, old, v =>
        (decodeInt "int64" ⟨"scriptLimits", "limits.time_limit_ms"⟩ old.toInt v).toOption.map
          Int64.ofInt
    | .memoryLimitBytes, old, v =>
        (decodeInt "int64" ⟨"scriptLimits", "limits.memory_limit_bytes"⟩ old.toInt v).toOption.map
          Int64.ofInt

/-- A member of the limits is a step of `limitsRecord`: it decodes into one field, or is passed
over. -/
theorem decodeLimitsField_step (limits : ScriptLimits) (m : GoString × Value) :
    (decodeLimitsField limits m).toOption = limitsRecord.step limits m := by
  have named : limitsRecord.field m.1 = fieldOf limitsFields m.1 := rfl
  rw [limitsFields, fieldOf_cons, fieldOf_cons] at named
  unfold decodeLimitsField
  by_cases time : isField "time_limit_ms" m.1 = true
  · rw [if_pos time] at named ⊢
    rw [Record.step_field named, toOption_set]
    exact (Option.map_map (fun n => { limits with timeLimitMs := n }) Int64.ofInt _).symm
  · rw [if_neg time] at named ⊢
    by_cases memory : isField "memory_limit_bytes" m.1 = true
    · rw [if_pos memory] at named ⊢
      rw [Record.step_field named, toOption_set]
      exact (Option.map_map (fun n => { limits with memoryLimitBytes := n }) Int64.ofInt _).symm
    · rw [if_neg memory] at named ⊢
      exact (Record.step_unknown named).symm

/-- A scalar is not read from an object or an array. -/
theorem scalar_shuffled {α : Type} {n : Nat} {decode : Value → Option α} {v w : Value}
    (objects : ∀ ms, decode (.object ms) = none) (arrays : ∀ vs, decode (.array vs) = none)
    (shuffled : v.Shuffled foldName n w) : decode v = decode w := by
  cases n with
  | zero => exact congrArg decode shuffled
  | succ n =>
      rcases shuffled with same | ⟨ms, _, ms', rfl, rfl, -⟩ | ⟨vs, ws, rfl, rfl, -⟩
      · exact congrArg decode same
      · rw [objects, objects]
      · rw [arrays, arrays]

/-- Limits are numbers: a value that is shuffled is the same number, or no number on either side. -/
theorem limitsRecord_respects (n : Nat) : limitsRecord.Respects (Value.Shuffled foldName n) := by
  intro f x v w shuffled
  cases f with
  | timeLimitMs => exact scalar_shuffled (fun _ => rfl) (fun _ => rfl) shuffled
  | memoryLimitBytes => exact scalar_shuffled (fun _ => rfl) (fun _ => rfl) shuffled

/-- Limits decode alike, over whatever limits a repeated key has left. -/
theorem decodeLimits_shuffled {n : Nat} {v w : Value} (old : Option ScriptLimits)
    (shuffled : v.Shuffled foldName n w) :
    (decodeLimits old v).toOption = (decodeLimits old w).toOption := by
  cases n with
  | zero => exact congrArg (fun v => (decodeLimits old v).toOption) shuffled
  | succ n =>
      rcases shuffled with same | ⟨ms, ns, ms', rfl, rfl, distinct, perm, related⟩ |
        ⟨vs, ws, rfl, rfl, -⟩
      · exact congrArg (fun v => (decodeLimits old v).toOption) same
      · have alike := Record.read_shuffled (fieldOf_folded (by decide)) (limitsRecord_respects n)
          distinct perm related (old.getD {})
        rw [decodeLimits, decodeLimits, toOption_set, toOption_set,
          Record.read_toOption decodeLimitsField_step, Record.read_toOption decodeLimitsField_step,
          alike]
      · rfl

/-! ## Tests -/

inductive TestField where
  | number
  | input
  | expectedOutput
  deriving DecidableEq

def testFields : List (String × TestField) :=
  [("number", .number), ("input", .input), ("expected_output", .expectedOutput)]

def TestField.Content : TestField → Type
  | .number => Int
  | .input => GoString
  | .expectedOutput => GoString

def testRecord : Record ScriptTestCase where
  Field := TestField
  Content := TestField.Content
  get
    | .number, t => t.number
    | .input, t => t.input
    | .expectedOutput, t => t.expectedOutput
  set
    | .number, t, n => { t with number := n }
    | .input, t, s => { t with input := s }
    | .expectedOutput, t, s => { t with expectedOutput := s }
  frame {f g} s x different := by
    cases f <;> cases g <;> first | exact absurd rfl different | rfl
  comm {f g} s x y different := by
    cases f <;> cases g <;> first | exact absurd rfl different | rfl
  field := fieldOf testFields
  decode
    | .number, old, v => (decodeInt "int" ⟨"scriptTestCase", "tests.number"⟩ old v).toOption
    | .input, old, v => (decodeString ⟨"scriptTestCase", "tests.input"⟩ old v).toOption
    | .expectedOutput, old, v =>
        (decodeString ⟨"scriptTestCase", "tests.expected_output"⟩ old v).toOption

/-- A member of a test is a step of `testRecord`. -/
theorem decodeTestField_step (test : ScriptTestCase) (m : GoString × Value) :
    (decodeTestField test m).toOption = testRecord.step test m := by
  have named : testRecord.field m.1 = fieldOf testFields m.1 := rfl
  rw [testFields, fieldOf_cons, fieldOf_cons, fieldOf_cons] at named
  unfold decodeTestField
  by_cases number : isField "number" m.1 = true
  · rw [if_pos number] at named ⊢
    rw [Record.step_field named, toOption_set]
    rfl
  · rw [if_neg number] at named ⊢
    by_cases input : isField "input" m.1 = true
    · rw [if_pos input] at named ⊢
      rw [Record.step_field named, toOption_set]
      rfl
    · rw [if_neg input] at named ⊢
      by_cases expected : isField "expected_output" m.1 = true
      · rw [if_pos expected] at named ⊢
        rw [Record.step_field named, toOption_set]
        rfl
      · rw [if_neg expected] at named ⊢
        exact (Record.step_unknown named).symm

/-- The fields of a test are strings and a number, like those of the limits. -/
theorem testRecord_respects (n : Nat) : testRecord.Respects (Value.Shuffled foldName n) := by
  intro f x v w shuffled
  cases f with
  | number => exact scalar_shuffled (fun _ => rfl) (fun _ => rfl) shuffled
  | input => exact scalar_shuffled (fun _ => rfl) (fun _ => rfl) shuffled
  | expectedOutput => exact scalar_shuffled (fun _ => rfl) (fun _ => rfl) shuffled

/-- A test decodes alike over the same old element of the slice. -/
theorem decodeTest_shuffled {n : Nat} {v w : Value} (old : ScriptTestCase)
    (shuffled : v.Shuffled foldName n w) :
    (decodeTest old v).toOption = (decodeTest old w).toOption := by
  cases n with
  | zero => exact congrArg (fun v => (decodeTest old v).toOption) shuffled
  | succ n =>
      rcases shuffled with same | ⟨ms, ns, ms', rfl, rfl, distinct, perm, related⟩ |
        ⟨vs, ws, rfl, rfl, -⟩
      · exact congrArg (fun v => (decodeTest old v).toOption) same
      · have alike := Record.read_shuffled (fieldOf_folded (by decide)) (testRecord_respects n)
          distinct perm related old
        rw [decodeTest, decodeTest, Record.read_toOption decodeTestField_step,
          Record.read_toOption decodeTestField_step, alike]
      · rfl

/-- The elements of two slices, read over the same memory. -/
theorem decodeItems_shuffled {n : Nat} {vs ws : List Value}
    (related : List.Forall₂ (Value.Shuffled foldName n) vs ws) (memory : List ScriptTestCase) :
    (decodeItems memory vs).toOption = (decodeItems memory ws).toOption := by
  induction related generalizing memory with
  | nil => rfl
  | cons head _ ih =>
      unfold decodeItems
      rw [toOption_bind, toOption_bind, decodeTest_shuffled _ head]
      refine Option.bind_congr fun test _ => ?_
      rw [toOption_bind, toOption_bind, ih]

/-! ## The envelope -/

inductive EnvelopeField where
  | type
  | id
  | language
  | source
  | limits
  | tests
  deriving DecidableEq

def envelopeFields : List (String × EnvelopeField) :=
  [("type", .type), ("id", .id), ("language", .language), ("source", .source), ("limits", .limits),
    ("tests", .tests)]

/-- The content of the field `tests` is a slice and the memory past it. -/
def EnvelopeField.Content : EnvelopeField → Type
  | .type => GoString
  | .id => GoString
  | .language => GoString
  | .source => GoString
  | .limits => Option ScriptLimits
  | .tests => List ScriptTestCase × List ScriptTestCase

def envelopeRecord : Record EnvelopeBuffer where
  Field := EnvelopeField
  Content := EnvelopeField.Content
  get
    | .type, e => e.type
    | .id, e => e.id
    | .language, e => e.language
    | .source, e => e.source
    | .limits, e => e.limits
    | .tests, e => (e.tests, e.spare)
  set
    | .type, e, s => { e with type := s }
    | .id, e, s => { e with id := s }
    | .language, e, s => { e with language := s }
    | .source, e, s => { e with source := s }
    | .limits, e, limits => { e with limits := limits }
    | .tests, e, memory => { e with tests := memory.1, spare := memory.2 }
  frame {f g} s x different := by
    cases f <;> cases g <;> first | exact absurd rfl different | rfl
  comm {f g} s x y different := by
    cases f <;> cases g <;> first | exact absurd rfl different | rfl
  field := fieldOf envelopeFields
  decode
    | .type, old, v => (decodeString ⟨"scriptEnvelope", "type"⟩ old v).toOption
    | .id, old, v => (decodeString ⟨"scriptEnvelope", "id"⟩ old v).toOption
    | .language, old, v => (decodeString ⟨"scriptEnvelope", "language"⟩ old v).toOption
    | .source, old, v => (decodeString ⟨"scriptEnvelope", "source"⟩ old v).toOption
    | .limits, old, v => (decodeLimits old v).toOption
    | .tests, old, v =>
        (decodeTests { tests := old.1, spare := old.2 } v).toOption.map fun e => (e.tests, e.spare)

/-- Only the slice of the envelope and the memory past it are read and set. -/
theorem decodeTests_framed (e : EnvelopeBuffer) (v : Value) :
    decodeTests e v =
      (decodeTests { tests := e.tests, spare := e.spare } v).map fun read =>
        { e with tests := read.tests, spare := read.spare } := by
  unfold decodeTests
  split
  · rfl
  · rfl
  · dsimp only
    cases decodeItems (e.tests ++ e.spare) _ <;> rfl
  · rfl

/-- A member of the envelope is a step of `envelopeRecord`.  This is the one struct with structs
inside. -/
theorem decodeField_step (e : EnvelopeBuffer) (m : GoString × Value) :
    (decodeField e m).toOption = envelopeRecord.step e m := by
  have named : envelopeRecord.field m.1 = fieldOf envelopeFields m.1 := rfl
  rw [envelopeFields] at named
  simp only [fieldOf_cons] at named
  unfold decodeField
  by_cases type : isField "type" m.1 = true
  · rw [if_pos type] at named ⊢
    rw [Record.step_field named, toOption_set]
    rfl
  rw [if_neg type] at named ⊢
  by_cases id : isField "id" m.1 = true
  · rw [if_pos id] at named ⊢
    rw [Record.step_field named, toOption_set]
    rfl
  rw [if_neg id] at named ⊢
  by_cases language : isField "language" m.1 = true
  · rw [if_pos language] at named ⊢
    rw [Record.step_field named, toOption_set]
    rfl
  rw [if_neg language] at named ⊢
  by_cases source : isField "source" m.1 = true
  · rw [if_pos source] at named ⊢
    rw [Record.step_field named, toOption_set]
    rfl
  rw [if_neg source] at named ⊢
  by_cases limits : isField "limits" m.1 = true
  · rw [if_pos limits] at named ⊢
    rw [Record.step_field named, toOption_set]
    rfl
  rw [if_neg limits] at named ⊢
  by_cases tests : isField "tests" m.1 = true
  · rw [if_pos tests] at named ⊢
    rw [Record.step_field named, decodeTests_framed]
    cases read : decodeTests { tests := e.tests, spare := e.spare } m.2 <;>
      simp only [envelopeRecord, read] <;> rfl
  · rw [if_neg tests] at named ⊢
    exact (Record.step_unknown named).symm

/-- The tests decode alike, one by one.  Each decodes over the element that an earlier `tests` of
the same message may have left in the buffer. -/
theorem decodeTests_shuffled {n : Nat} {v w : Value} (e : EnvelopeBuffer)
    (shuffled : v.Shuffled foldName n w) :
    (decodeTests e v).toOption = (decodeTests e w).toOption := by
  cases n with
  | zero => exact congrArg (fun v => (decodeTests e v).toOption) shuffled
  | succ n =>
      rcases shuffled with same | ⟨ms, ns, ms', rfl, rfl, -⟩ | ⟨vs, ws, rfl, rfl, related⟩
      · exact congrArg (fun v => (decodeTests e v).toOption) same
      · rfl
      · cases related with
        | nil => rfl
        | cons head rest =>
            rw [decodeTests, decodeTests, toOption_bind, toOption_bind,
              decodeItems_shuffled (.cons head rest)]
            · exact nofun
            · exact nofun

/-- The fields of the envelope, each by its own kind: scalars, the limits and the tests.  The values
are shuffled to one level less than the envelope. -/
theorem envelopeRecord_respects (n : Nat) :
    envelopeRecord.Respects (Value.Shuffled foldName n) := by
  intro f x v w shuffled
  cases f with
  | type => exact scalar_shuffled (fun _ => rfl) (fun _ => rfl) shuffled
  | id => exact scalar_shuffled (fun _ => rfl) (fun _ => rfl) shuffled
  | language => exact scalar_shuffled (fun _ => rfl) (fun _ => rfl) shuffled
  | source => exact scalar_shuffled (fun _ => rfl) (fun _ => rfl) shuffled
  | limits => exact decodeLimits_shuffled _ shuffled
  | tests => exact congrArg (Option.map _) (decodeTests_shuffled _ shuffled)

/-- An envelope decodes alike, or fails on both sides. -/
theorem decodeEnvelope_shuffled {n : Nat} {v w : Value} (shuffled : v.Shuffled foldName n w) :
    (decodeEnvelope v).toOption = (decodeEnvelope w).toOption := by
  cases n with
  | zero => exact congrArg (fun v => (decodeEnvelope v).toOption) shuffled
  | succ n =>
      rcases shuffled with same | ⟨ms, ns, ms', rfl, rfl, distinct, perm, related⟩ |
        ⟨vs, ws, rfl, rfl, -⟩
      · exact congrArg (fun v => (decodeEnvelope v).toOption) same
      · have alike := Record.read_shuffled (fieldOf_folded (by decide)) (envelopeRecord_respects n)
          distinct perm related {}
        rw [decodeEnvelope, decodeEnvelope, toOption_set, toOption_set,
          Record.read_toOption decodeField_step, Record.read_toOption decodeField_step, alike]
      · rfl

/-! ## Messages -/

/-- Two messages that carry one value, up to the order of the members of its objects, which have no
two members of one name. -/
structure Reordered (msg msg' : Message) : Prop where
  topic : msg'.topic = msg.topic
  offset : msg'.offset = msg.offset
  key : msg'.key = msg.key
  value : ∃ n v w, Json.parse msg.value = .ok v ∧ Json.parse msg'.value = .ok w ∧
    v.Shuffled foldName n w

/-- A message that is JSON, but no envelope, is malformed, with the text of the type error. -/
theorem malformed_of_value {msg : Message} {v : Value} {err : TypeError}
    (parsed : Json.parse msg.value = .ok v) (failed : decodeEnvelope v = .error err) :
    Malformed msg (.wrap "decode message" err.toError) := by
  unfold Malformed decodeScriptMessage unmarshalEnvelope
  simp only [parsed, failed, true_and]
  rfl

/-- The script of a message depends on its bytes through the envelope alone; topic, offset and key
are those of the dispatch. -/
theorem decode_of_value {msg : Message} {v : Value} {e : ScriptEnvelope}
    (parsed : Json.parse msg.value = .ok v) (decoded : decodeEnvelope v = .ok e) :
    decodeScriptMessage msg = e.dispatch msg := by
  unfold decodeScriptMessage unmarshalEnvelope
  simp only [parsed, decoded]

/-- They yield the same script, or the same error, or neither can be decoded. -/
theorem Reordered.decoded {msg msg' : Message} (reordered : Reordered msg msg') :
    decodeScriptMessage msg' = decodeScriptMessage msg ∨
      ∃ err err', Malformed msg err ∧ Malformed msg' err' := by
  obtain ⟨n, v, w, first, second, shuffled⟩ := reordered.value
  have alike := decodeEnvelope_shuffled shuffled
  cases decoded : decodeEnvelope v with
  | error err =>
      cases decoded' : decodeEnvelope w with
      | error err' =>
          exact Or.inr ⟨_, _, malformed_of_value first decoded, malformed_of_value second decoded'⟩
      | ok e => rw [decoded, decoded'] at alike; cases alike
  | ok e =>
      cases decoded' : decodeEnvelope w with
      | error err => rw [decoded, decoded'] at alike; cases alike
      | ok e' =>
          rw [decoded, decoded'] at alike
          cases alike
          left
          rw [decode_of_value first decoded, decode_of_value second decoded']
          simp only [ScriptEnvelope.dispatch, ScriptEnvelope.toScript, ScriptEnvelope.scriptID,
            reordered.topic, reordered.offset, reordered.key]

/-- Answers that are alike: equal, or both errors that stop the service with an error. -/
def Alike (a a' : Except GoError Script) : Prop :=
  a' = a ∨ ∃ err err', a = .error err ∧ a' = .error err' ∧ err.chain = [] ∧ err'.chain = []

section Alike

variable {as as' : List (Except GoError Script)}

/-- The scripts before the first error are the same, when the answers of the two producers are so
one by one. -/
theorem leading_alike (alike : List.Forall₂ Alike as as') : leading as' = leading as := by
  induction alike with
  | nil => rfl
  | @cons _ a _ _ head _ ih =>
      rcases head with rfl | ⟨err, err', rfl, rfl, -⟩
      · cases a with
        | error err => rfl
        | ok script => exact congrArg (script :: ·) ih
      · rfl

/-- Whether the call ends with an error is the same, too, even if the text of the error is another.
-/
theorem firstError_alike (alike : List.Forall₂ Alike as as') :
    ((firstError as').bind stopError).isSome = ((firstError as).bind stopError).isSome := by
  induction alike with
  | nil => rfl
  | @cons _ a _ _ head _ ih =>
      rcases head with rfl | ⟨err, err', rfl, rfl, plain, plain'⟩
      · cases a with
        | error err => rfl
        | ok script => exact ih
      · rw [firstError, firstError, Option.bind_some, Option.bind_some, stopError_malformed plain,
          stopError_malformed plain']
        rfl

end Alike

/-- **Order of members.**  Of two streams whose messages carry the same values, up to the order of
the members of their objects, the service executes and reports the same scripts, in any order, and
one call returns an error exactly when the other does; the engines and the bounds on parallel runs
may be different. -/
theorem memberOrder_irrelevant {I I' : Interface} (engine : Engine I) (engine' : Engine I')
    (maxScripts maxParallel maxParallel' : Int) {msgs msgs' : List Message}
    (reordered : List.Forall₂ Reordered msgs msgs') :
    ∀ s s' err err', Dispatch.Reachable stream engine maxScripts maxParallel msgs s →
      s.loop = .returned err →
      Dispatch.Reachable stream engine' maxScripts maxParallel' msgs' s' →
      s'.loop = .returned err' →
      s'.ran.Perm s.ran ∧
      (s'.reported.map RunReport.script).Perm (s.reported.map RunReport.script) ∧
      err'.isSome = err.isSome := by
  intro s s' err err' run returned run' returned'
  have alike : List.Forall₂ Alike (msgs.map decodeScriptMessage)
      (msgs'.map decodeScriptMessage) := by
    refine List.forall₂_map_left_iff.mpr (List.forall₂_map_right_iff.mpr (reordered.imp ?_))
    intro msg msg' one
    rcases one.decoded with same | ⟨err, err', malformed, malformed'⟩
    · exact Or.inl same
    · exact Or.inr ⟨err, err', malformed.1, malformed'.1, malformed.2, malformed'.2⟩
  have scripts : executedScripts maxScripts msgs' = executedScripts maxScripts msgs := by
    unfold executedScripts
    rw [leading_alike alike]
  have errors : (returnedError maxScripts msgs').isSome = (returnedError maxScripts msgs).isSome := by
    unfold returnedError
    simp only [leading_alike alike]
    split
    · rfl
    · exact firstError_alike alike
  obtain ⟨fetched, rfl⟩ := fetched_of_stream run returned
  obtain ⟨fetched', rfl⟩ := fetched_of_stream run' returned'
  have inv := Dispatch.reachable_inv run
  have inv' := Dispatch.reachable_inv run'
  have ran := inv.ran_fetched returned
  have ran' := inv'.ran_fetched returned'
  have reported := inv.reported_fetched returned nofun
  have reported' := inv'.reported_fetched returned' nofun
  rw [fetched] at ran reported
  rw [fetched', scripts] at ran' reported'
  exact ⟨ran'.trans ran.symm, reported'.trans reported.symm, errors⟩

/-- A message, and one that carries its value with the members of both objects swapped. -/
def limitedMessage : Message where
  topic := "scripts"
  offset := 0
  key := "s1"
  value := lit "\x7b\"language\":\"python\",\"source\":\"print(1)\"," ++
    lit "\"limits\":\x7b\"time_limit_ms\":1,\"memory_limit_bytes\":2\x7d\x7d"

def swappedMessage : Message where
  topic := "scripts"
  offset := 0
  key := "s1"
  value := lit "\x7b\"limits\":\x7b\"memory_limit_bytes\":2,\"time_limit_ms\":1\x7d," ++
    lit "\"source\":\"print(1)\",\"language\":\"python\"\x7d"

theorem swappedMessage_reordered : Reordered limitedMessage swappedMessage where
  topic := rfl
  offset := rfl
  key := rfl
  value := by
    let time : GoString × Value := (lit "time_limit_ms", .number (lit "1"))
    let memory : GoString × Value := (lit "memory_limit_bytes", .number (lit "2"))
    let language : GoString × Value := (lit "language", .string (lit "python"))
    let source : GoString × Value := (lit "source", .string (lit "print(1)"))
    have limits : Value.Shuffled foldName 1 (.object [time, memory]) (.object [memory, time]) :=
      .inr (.inl ⟨_, [memory, time], _, rfl, rfl, by decide, .swap memory time [],
        .cons ⟨rfl, rfl⟩ (.cons ⟨rfl, rfl⟩ .nil)⟩)
    refine ⟨2, .object [language, source, (lit "limits", .object [time, memory])],
      .object [(lit "limits", .object [memory, time]), source, language], rfl, rfl, ?_⟩
    refine .inr (.inl ⟨_, [(lit "limits", .object [time, memory]), source, language], _, rfl, rfl,
      by decide, (List.reverse_perm _).symm, ?_⟩)
    exact .cons ⟨rfl, limits⟩ (.cons ⟨rfl, .inl rfl⟩ (.cons ⟨rfl, .inl rfl⟩ .nil))

theorem memberOrder_irrelevant_swapped :
    ∃ (s s' : Dispatch (List Message)) (err err' : Option GoError),
      Dispatch.Reachable stream pythonEngine 0 1 [limitedMessage] s ∧ s.loop = .returned err ∧
      Dispatch.Reachable stream pythonEngine 0 4 [swappedMessage] s' ∧ s'.loop = .returned err' ∧
      s'.ran.Perm s.ran ∧
      (s'.reported.map RunReport.script).Perm (s.reported.map RunReport.script) ∧
      err'.isSome = err.isSome := by
  have start : Dispatch.Reachable stream pythonEngine 0 1 [limitedMessage]
    (.initial [limitedMessage]) := .refl
  have start' : Dispatch.Reachable stream pythonEngine 0 4 [swappedMessage]
    (.initial [swappedMessage]) := .refl
  obtain ⟨s, err, run, returned⟩ :=
    Dispatch.returns stream_finite (stream_responsive pythonEngine) start
  obtain ⟨s', err', run', returned'⟩ :=
    Dispatch.returns stream_finite (stream_responsive pythonEngine) start'
  exact ⟨s, s', err, err', run, returned, run', returned',
    memberOrder_irrelevant pythonEngine pythonEngine 0 1 4 (.cons swappedMessage_reordered .nil)
      s s' err err' run returned run' returned'⟩

end Scrc
