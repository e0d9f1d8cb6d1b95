import Scrc.Kafka.Messages
import Scrc.Lib.Json

/-!
# Decoding script messages

`decodeScriptMessage` from the bytes of a message: `json.Unmarshal` into a `scriptEnvelope`, then
the dispatch on its type.

The decoder keeps to what `encoding/json` does with a struct.  Keys are matched without regard to
case and unknown keys are ignored; `null` leaves a string, a number or a struct as it was and makes
a pointer or a slice nil; a repeated key decodes over the earlier value; the first value of a wrong
type is the error.
-/

namespace Scrc

/-! ## Errors -/

/-- The character of a syntax error, between single quotes. -/
def quoteChar (b : UInt8) : GoString :=
  if b = 39 then lit "'\\''"
  else if b = 34 then lit "'\"'"
  else if b < 0x80 then lit "'" ++ ((quote [b]).drop 1).dropLast ++ lit "'"
  else if b ≤ 0xA0 ∨ b = 0xAD then
    let hex (n : UInt8) : UInt8 := if n < 10 then 48 + n else 87 + n
    lit "'\\u00" ++ [hex (b / 16), hex (b % 16)] ++ lit "'"
  else lit "'" ++ Json.encodeRune b.toNat ++ lit "'"

/-- The text of a `json.SyntaxError`. -/
def syntaxText : Json.SyntaxError → GoString
  | .unexpected b context => lit "invalid character " ++ quoteChar b ++ lit " " ++ context
  | .endOfInput => "unexpected end of JSON input"

/-- Where a value is decoded: the Go struct and the path of the field, if there is one. -/
structure FieldPath where
  struct : GoString
  path : GoString

/-- A `json.UnmarshalTypeError`. -/
structure TypeError where
  value : GoString
  field : Option FieldPath
  type : GoString

def TypeError.toError (err : TypeError) : GoError :=
  .new (lit "json: cannot unmarshal " ++ err.value ++
    (match err.field with
      | none => lit " into Go value of type "
      | some field => lit " into Go struct field " ++ field.struct ++ lit "." ++ field.path ++
          lit " of type ") ++ err.type)

/-- What an error message calls a value. -/
def valueName : Json.Value → GoString
  | .null => "null"
  | .bool _ => "bool"
  | .number _ => "number"
  | .string _ => "string"
  | .array _ => "array"
  | .object _ => "object"

/-! ## Scalars -/

/-- `strconv.ParseInt(literal, 10, 64)` on a JSON number: an integer in the range of `int64`. -/
def parseInt (literal : GoString) : Option Int :=
  let negative := literal.head? = some 45
  let digits := if negative then literal.tail else literal
  if digits ≠ [] ∧ digits.all Json.isDigit then
    let magnitude : Nat := digits.foldl (fun n b => n * 10 + (b.toNat - 48)) 0
    let n : Int := if negative then -magnitude else magnitude
    if -9223372036854775808 ≤ n ∧ n ≤ 9223372036854775807 then some n else none
  else none

/-- The integer fits in 64 bits. -/
def Fits (n : Int) : Prop := -9223372036854775808 ≤ n ∧ n ≤ 9223372036854775807

instance (n : Int) : Decidable (Fits n) := inferInstanceAs (Decidable (_ ∧ _))

theorem parseInt_intText (n : Int) : parseInt (intText n) = if Fits n then some n else none := by
  rw [intText_eq]
  have isDigits : ∀ m : Nat, (Decimal.digits m).all Json.isDigit = true := by
    intro m
    refine List.all_eq_true.mpr fun b member => ?_
    exact decide_eq_true (Decimal.mem_digits member)
  have read : ∀ m : Nat,
      (Decimal.digits m).foldl (fun n b => n * 10 + (b.toNat - 48)) 0 = m := Decimal.value_digits
  cases n with
  | ofNat m =>
      have plain : (Decimal.digits m).head? ≠ some 45 := by
        intro minus
        exact Decimal.minus_not_mem_digits m (List.mem_of_head? minus)
      unfold parseInt
      simp only [Decimal.numeral, plain, ↓reduceIte, Decimal.digits_ne_nil, ne_eq,
        not_false_eq_true, isDigits, and_self, read]
      rfl
  | negSucc m =>
      unfold parseInt
      simp only [Decimal.numeral, List.head?_cons, ↓reduceIte, List.tail_cons,
        Decimal.digits_ne_nil, ne_eq, not_false_eq_true, isDigits, and_self, read]
      rfl

theorem parseInt_fits {text : GoString} {n : Int} (read : parseInt text = some n) : Fits n := by
  unfold parseInt at read
  simp only [Option.ite_none_right_eq_some, Option.some.injEq] at read
  rw [← read.2.2]
  exact read.2.1

def decodeString (field : FieldPath) (old : GoString) : Json.Value → Except TypeError GoString
  | .null => .ok old
  | .string s => .ok s
  | v => .error ⟨valueName v, some field, "string"⟩

/-- A 64-bit integer; `type` is the name of its Go type. -/
def decodeInt (type : GoString) (field : FieldPath) (old : Int) : Json.Value → Except TypeError Int
  | .null => .ok old
  | .number literal =>
      match parseInt literal with
      | some n => .ok n
      | none => .error ⟨lit "number " ++ literal, some field, type⟩
  | v => .error ⟨valueName v, some field, type⟩

theorem bind_ok {ε α β : Type} {x : Except ε α} {f : α → Except ε β} {b : β} :
    (x >>= f) = .ok b ↔ ∃ a, x = .ok a ∧ f a = .ok b := by
  cases x with
  | error err => exact ⟨nofun, fun ⟨_, absurd, _⟩ => nomatch absurd⟩
  | ok a => exact ⟨fun same => ⟨a, rfl, same⟩, fun ⟨_, same, rest⟩ => Except.ok.inj same ▸ rest⟩

/-! ## Structs -/

/-- `foldName`, as far as it decides whether a key is an ASCII name: letters in upper case, and the
two letters beyond ASCII that fold to one of it. -/
def foldName : GoString → GoString
  | [] => []
  | 0xC5 :: 0xBF :: rest => 83 :: foldName rest
  | 0xE2 :: 0x84 :: 0xAA :: rest => 75 :: foldName rest
  | b :: rest => (if 97 ≤ b ∧ b ≤ 122 then b - 32 else b) :: foldName rest

/-- The key names the field. -/
def isField (name : String) (key : GoString) : Bool := foldName key = foldName (lit name)

def decodeLimitsField (limits : ScriptLimits) (member : GoString × Json.Value) :
    Except TypeError ScriptLimits :=
  if isField "time_limit_ms" member.1 then do
    let n ← decodeInt "int64" ⟨"scriptLimits", "limits.time_limit_ms"⟩ limits.timeLimitMs.toInt
      member.2
    return { limits with timeLimitMs := Int64.ofInt n }
  else if isField "memory_limit_bytes" member.1 then do
    let n ← decodeInt "int64" ⟨"scriptLimits", "limits.memory_limit_bytes"⟩
      limits.memoryLimitBytes.toInt member.2
    return { limits with memoryLimitBytes := Int64.ofInt n }
  else return limits

def decodeLimits (old : Option ScriptLimits) : Json.Value → Except TypeError (Option ScriptLimits)
  | .null => .ok none
  | .object members => do
      let limits ← members.foldlM decodeLimitsField (old.getD {})
      return some limits
  | v => .error ⟨valueName v, some ⟨"scriptEnvelope", "limits"⟩, "kafka.scriptLimits"⟩

def decodeTestField (test : ScriptTestCase) (member : GoString × Json.Value) :
    Except TypeError ScriptTestCase :=
  if isField "number" member.1 then do
    let n ← decodeInt "int" ⟨"scriptTestCase", "tests.number"⟩ test.number member.2
    return { test with number := n }
  else if isField "input" member.1 then do
    let s ← decodeString ⟨"scriptTestCase", "tests.input"⟩ test.input member.2
    return { test with input := s }
  else if isField "expected_output" member.1 then do
    let s ← decodeString ⟨"scriptTestCase", "tests.expected_output"⟩ test.expectedOutput member.2
    return { test with expectedOutput := s }
  else return test

def decodeTest (old : ScriptTestCase) : Json.Value → Except TypeError ScriptTestCase
  | .null => .ok old
  | .object members => members.foldlM decodeTestField old
  | v => .error ⟨valueName v, some ⟨"scriptEnvelope", "tests"⟩, "kafka.scriptTestCase"⟩

/-- The elements of a slice over the memory of an earlier one: the slice and the memory past it. -/
def decodeItems : List ScriptTestCase → List Json.Value →
    Except TypeError (List ScriptTestCase × List ScriptTestCase)
  | memory, [] => .ok ([], memory)
  | memory, v :: rest => do
      let test ← decodeTest (memory.headD {}) v
      let (tests, left) ← decodeItems memory.tail rest
      return (test :: tests, left)

/-- An envelope being decoded, with the memory past the end of its slice of tests. -/
structure EnvelopeBuffer extends ScriptEnvelope where
  spare : List ScriptTestCase := []

def decodeTests (e : EnvelopeBuffer) : Json.Value → Except TypeError EnvelopeBuffer
  | .null => .ok { e with tests := [], spare := [] }
  | .array [] => .ok { e with tests := [], spare := [] }
  | .array items => do
      let (tests, left) ← decodeItems (e.tests ++ e.spare) items
      return { e with tests := tests, spare := left }
  | v => .error ⟨valueName v, some ⟨"scriptEnvelope", "tests"⟩, "[]kafka.scriptTestCase"⟩

def decodeField (e : EnvelopeBuffer) (member : GoString × Json.Value) :
    Except TypeError EnvelopeBuffer :=
  if isField "type" member.1 then do
    let s ← decodeString ⟨"scriptEnvelope", "type"⟩ e.type member.2
    return { e with type := s }
  else if isField "id" member.1 then do
    let s ← decodeString ⟨"scriptEnvelope", "id"⟩ e.id member.2
    return { e with id := s }
  else if isField "language" member.1 then do
    let s ← decodeString ⟨"scriptEnvelope", "language"⟩ e.language member.2
    return { e with language := s }
  else if isField "source" member.1 then do
    let s ← decodeString ⟨"scriptEnvelope", "source"⟩ e.source member.2
    return { e with source := s }
  else if isField "limits" member.1 then do
    let limits ← decodeLimits e.limits member.2
    return { e with limits := limits }
  else if isField "tests" member.1 then decodeTests e member.2
  else return e

def decodeEnvelope : Json.Value → Except TypeError ScriptEnvelope
  | .null => .ok {}
  | .object members => do
      let e ← members.foldlM decodeField {}
      return e.toScriptEnvelope
  | v => .error ⟨valueName v, none, "kafka.scriptEnvelope"⟩

/-- `json.Unmarshal(data, &envelope)`. -/
def unmarshalEnvelope (data : GoString) : Except GoError ScriptEnvelope :=
  match Json.parse data with
  | .error err => .error (.new (syntaxText err))
  | .ok v =>
      match decodeEnvelope v with
      | .error err => .error err.toError
      | .ok envelope => .ok envelope

/-! ## Messages -/

def decodeScriptMessage (msg : Message) : Except GoError Script :=
  match unmarshalEnvelope msg.value with
  | .error err => .error (.wrap "decode message" err)
  | .ok envelope => envelope.dispatch msg

theorem decodeScriptMessage_ok {msg : Message} {script : Script} :
    decodeScriptMessage msg = .ok script ↔
      ∃ e, unmarshalEnvelope msg.value = .ok e ∧ e.dispatch msg = .ok script := by
  unfold decodeScriptMessage
  cases unmarshalEnvelope msg.value with
  | error err => exact ⟨nofun, fun ⟨_, absurd, _⟩ => nomatch absurd⟩
  | ok e => exact ⟨fun dispatched => ⟨e, rfl, dispatched⟩, fun ⟨_, same, dispatched⟩ =>
      Except.ok.inj same ▸ dispatched⟩

/-- `Consumer.NextScript`, from what `ReadMessage` returned. -/
def Consumer.nextScript (read : Except GoError Message) : Except GoError Script :=
  match read with
  | .error err => .error err
  | .ok msg => decodeScriptMessage msg

/-! ## The connection -/

/-- `kafka.Config`. -/
structure ConsumerConfig where
  brokers : List GoString
  topic : GoString
  groupID : GoString := []
  minBytes : Int := 0
  maxBytes : Int := 0
  maxWait : Duration := 0
  deriving DecidableEq

/-- `NewConsumer`, up to the configuration that `kafkago.NewReader` is called with. -/
def newConsumer (cfg : ConsumerConfig) : Except GoError ConsumerConfig :=
  if cfg.brokers = [] then .error (.new "at least one broker must be provided")
  else if cfg.topic = [] then .error (.new "topic must be provided")
  else
    .ok {
      brokers := cfg.brokers
      topic := cfg.topic
      groupID := if cfg.groupID = [] then lit "scrc-runner" else cfg.groupID
      minBytes := if cfg.minBytes = 0 then 1 else cfg.minBytes
      maxBytes := if cfg.maxBytes = 0 then 10 * 1024 * 1024 else cfg.maxBytes
      maxWait := if cfg.maxWait = 0 then Duration.second else cfg.maxWait }

end Scrc
