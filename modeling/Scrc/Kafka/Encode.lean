import Mathlib.Data.List.Forall2
import Scrc.Kafka.Decode
import Scrc.Lib.JsonPrint
import Scrc.Lib.Rfc3339

/-!
# Encoding results

`encodeRunReport`: the envelope of a report and its bytes, as `json.Marshal` writes a
`resultEnvelope`, and `json.Unmarshal` of such bytes.

The members of a struct are in the order of its fields.  With `omitempty` an empty string, a nil
pointer and an empty slice have no member; a pointer to zero has one.

* `unmarshalResult_toJson`: an envelope that was written is read back with its strings coerced.
* `encodeRunReport_faithful`: what the bytes of a report say about it.
-/

namespace Scrc

/-! ## Marshal -/

/-- A string with `omitempty`. -/
def stringMember (name : String) (s : GoString) : List (GoString × Json.Value) :=
  if s = [] then [] else [(lit name, .string s)]

/-- An integer in a JSON text. -/
def intValue (n : Int) : Json.Value := .number (intText n)

/-- A pointer to an `int64` with `omitempty`. -/
def intMember (name : String) (n : Option Int64) : List (GoString × Json.Value) :=
  match n with
  | none => []
  | some n => [(lit name, intValue n.toInt)]

def TestResultEnvelope.toJson (t : TestResultEnvelope) : Json.Value :=
  .object ((lit "number", intValue t.number) ::
    (stringMember "status" t.status.text ++ intMember "exit_code" t.exitCode ++
      intMember "duration_ms" t.durationMs ++ stringMember "stdout" t.stdout ++
      stringMember "stderr" t.stderr ++ stringMember "input" t.input ++
      stringMember "expected_output" t.expectedOutput ++ stringMember "error" t.error))

/-- The tests with `omitempty`. -/
def testsMember (tests : List TestResultEnvelope) : List (GoString × Json.Value) :=
  if tests = [] then [] else [(lit "tests", .array (tests.map TestResultEnvelope.toJson))]

/-- The object that is written for an envelope.  The text of a time has no character that is escaped
in a string. -/
def ResultEnvelope.toJson (e : ResultEnvelope) : Json.Value :=
  .object ((lit "id", .string e.id) ::
    (stringMember "status" e.status.text ++ intMember "exit_code" e.exitCode ++
      stringMember "stdout" e.stdout ++ stringMember "stderr" e.stderr ++
      intMember "duration_ms" e.durationMs ++ stringMember "error" e.error ++
      testsMember e.tests ++ [(lit "timestamp", .string e.timestamp)]))

/-- `json.Marshal(envelope)`.  `Time.MarshalJSON` looks for the separator behind the year, and fails
for a year of more than four digits. -/
def marshalResult (e : ResultEnvelope) : Except GoError GoString :=
  if e.timestamp[4]? = some 45 then .ok (Json.print e.toJson)
  else .error (.new (lit "json: error calling MarshalJSON for type time.Time: " ++
    lit "Time.MarshalJSON: year outside of range [0,9999]"))

/-- `encodeRunReport`, when `time.Now().UTC()` is `now`. -/
def encodeRunReport (now : Rfc3339.Time) (report : RunReport) : Except GoError GoString :=
  match marshalResult (makeResultEnvelope now.text report) with
  | .error err => .error (.wrap "marshal result" err)
  | .ok payload => .ok payload

/-! ## Unmarshal -/

def readString (old : GoString) : Json.Value → Option GoString
  | .null => some old
  | .string s => some s
  | _ => none

def readInt (old : Int) : Json.Value → Option Int
  | .null => some old
  | .number literal => parseInt literal
  | _ => none

/-- A pointer to an `int64`. -/
def readPointer : Json.Value → Option (Option Int64)
  | .null => some none
  | .number literal => (parseInt literal).map fun n => some (Int64.ofInt n)
  | _ => none

/-- `Time.UnmarshalJSON`, which asks for a text of RFC 3339; what it lets pass beyond that is left
out. -/
def readTime (old : GoString) : Json.Value → Option GoString
  | .null => some old
  | .string s => if Rfc3339.isTimestamp s then some s else none
  | _ => none

/-- The zero value of `testResultEnvelope`. -/
def TestResultEnvelope.zero : TestResultEnvelope where
  number := 0
  status := .unset
  exitCode := none
  durationMs := none
  stdout := []
  stderr := []
  input := []
  expectedOutput := []
  error := []

/-- The zero value of `resultEnvelope`. -/
def ResultEnvelope.zero : ResultEnvelope where
  id := []
  status := .unset
  exitCode := none
  stdout := []
  stderr := []
  durationMs := none
  error := []
  tests := []
  timestamp := lit "0001-01-01T00:00:00Z"

def readTestField (t : TestResultEnvelope) (member : GoString × Json.Value) :
    Option TestResultEnvelope :=
  if isField "number" member.1 then
    (readInt t.number member.2).map fun n => { t with number := n }
  else if isField "status" member.1 then
    (readString t.status.text member.2).map fun s => { t with status := ⟨s⟩ }
  else if isField "exit_code" member.1 then
    (readPointer member.2).map fun n => { t with exitCode := n }
  else if isField "duration_ms" member.1 then
    (readPointer member.2).map fun n => { t with durationMs := n }
  else if isField "stdout" member.1 then
    (readString t.stdout member.2).map fun s => { t with stdout := s }
  else if isField "stderr" member.1 then
    (readString t.stderr member.2).map fun s => { t with stderr := s }
  else if isField "input" member.1 then
    (readString t.input member.2).map fun s => { t with input := s }
  else if isField "expected_output" member.1 then
    (readString t.expectedOutput member.2).map fun s => { t with expectedOutput := s }
  else if isField "error" member.1 then
    (readString t.error member.2).map fun s => { t with error := s }
  else some t

def readTest (old : TestResultEnvelope) : Json.Value → Option TestResultEnvelope
  | .null => some old
  | .object members => members.foldlM readTestField old
  | _ => none

/-- The elements of a slice over the memory of an earlier one, as in `decodeItems`. -/
def readItems : List TestResultEnvelope → List Json.Value →
    Option (List TestResultEnvelope × List TestResultEnvelope)
  | memory, [] => some ([], memory)
  | memory, v :: rest => do
      let test ← readTest (memory.headD .zero) v
      let (tests, left) ← readItems memory.tail rest
      return (test :: tests, left)

/-- An envelope being decoded, with the memory past the end of its slice of tests. -/
structure ResultBuffer extends ResultEnvelope where
  spare : List TestResultEnvelope

def readTests (e : ResultBuffer) : Json.Value → Option ResultBuffer
  | .null => some { e with tests := [], spare := [] }
  | .array [] => some { e with tests := [], spare := [] }
  | .array items => do
      let (tests, left) ← readItems (e.tests ++ e.spare) items
      return { e with tests := tests, spare := left }
  | _ => none

def readResultField (e : ResultBuffer) (member : GoString × Json.Value) : Option ResultBuffer :=
  if isField "id" member.1 then
    (readString e.id member.2).map fun s => { e with id := s }
  else if isField "status" member.1 then
    (readString e.status.text member.2).map fun s => { e with status := ⟨s⟩ }
  else if isField "exit_code" member.1 then
    (readPointer member.2).map fun n => { e with exitCode := n }
  else if isField "stdout" member.1 then
    (readString e.stdout member.2).map fun s => { e with stdout := s }
  else if isField "stderr" member.1 then
    (readString e.stderr member.2).map fun s => { e with stderr := s }
  else if isField "duration_ms" member.1 then
    (readPointer member.2).map fun n => { e with durationMs := n }
  else if isField "error" member.1 then
    (readString e.error member.2).map fun s => { e with error := s }
  else if isField "tests" member.1 then readTests e member.2
  else if isField "timestamp" member.1 then
    (readTime e.timestamp member.2).map fun s => { e with timestamp := s }
  else some e

def readResult : Json.Value → Option ResultEnvelope
  | .null => some .zero
  | .object members =>
      (members.foldlM readResultField ⟨.zero, []⟩).map ResultBuffer.toResultEnvelope
  | _ => none

/-- `json.Unmarshal(data, &envelope)`; `none` when it returns an error. -/
def unmarshalResult (data : GoString) : Option ResultEnvelope :=
  match Json.parse data with
  | .error _ => none
  | .ok v => readResult v

/-! ## What is read back -/

/-- The test as it is read back. -/
def TestResultEnvelope.coerced (t : TestResultEnvelope) : TestResultEnvelope :=
  { t with
    status := ⟨Json.coerce t.status.text⟩
    stdout := Json.coerce t.stdout
    stderr := Json.coerce t.stderr
    input := Json.coerce t.input
    expectedOutput := Json.coerce t.expectedOutput
    error := Json.coerce t.error }

/-- The envelope as it is read back. -/
def ResultEnvelope.coerced (e : ResultEnvelope) : ResultEnvelope :=
  { e with
    id := Json.coerce e.id
    status := ⟨Json.coerce e.status.text⟩
    stdout := Json.coerce e.stdout
    stderr := Json.coerce e.stderr
    error := Json.coerce e.error
    tests := e.tests.map TestResultEnvelope.coerced }

/-! ### Coercing what is written -/

/-- A member with its key and its value coerced. -/
def coerceMember (m : GoString × Json.Value) : GoString × Json.Value :=
  (Json.coerce m.1, Json.coerceValue m.2)

section

variable (name : String) (plain : Json.coerce (lit name) = lit name)

include plain

/-- The keys of the envelope are ASCII, so coercion changes nothing but values. -/
theorem coerceMember_of_plain (v : Json.Value) :
    coerceMember (lit name, v) = (lit name, Json.coerceValue v) :=
  congrArg (Prod.mk · _) plain

/-- A string is left out when it is empty, which coercion neither causes nor undoes. -/
theorem map_stringMember (s : GoString) :
    (stringMember name s).map coerceMember = stringMember name (Json.coerce s) := by
  unfold stringMember
  by_cases empty : s = []
  · rw [if_pos empty, if_pos (Json.coerce_eq_nil.mpr empty)]
    rfl
  · rw [if_neg empty, if_neg (mt Json.coerce_eq_nil.mp empty), List.map_singleton,
      coerceMember_of_plain name plain, Json.coerceValue]

/-- Numbers are not affected. -/
theorem map_intMember (n : Option Int64) :
    (intMember name n).map coerceMember = intMember name n := by
  cases n with
  | none => rfl
  | some n =>
      unfold intMember
      rw [List.map_singleton, coerceMember_of_plain name plain, intValue, Json.coerceValue]
      rfl

end

/-- An object is coerced member by member. -/
theorem coerceValue_object (members : List (GoString × Json.Value)) :
    Json.coerceValue (.object members) = .object (members.map coerceMember) := by
  rw [Json.coerceValue, Json.coerceMembers_eq]
  rfl

/-- Coercing the JSON of a test is coercing its strings first. -/
theorem TestResultEnvelope.coerce_toJson (t : TestResultEnvelope) :
    Json.coerceValue t.toJson = t.coerced.toJson := by
  have number : coerceMember (lit "number", intValue t.number) =
      (lit "number", intValue t.number) := by
    rw [coerceMember_of_plain "number" (by decide), intValue, Json.coerceValue]
  unfold TestResultEnvelope.toJson
  rw [coerceValue_object]
  simp only [List.map_cons, List.map_append, number, map_stringMember "status" (by decide),
    map_intMember "exit_code" (by decide), map_intMember "duration_ms" (by decide),
    map_stringMember "stdout" (by decide), map_stringMember "stderr" (by decide),
    map_stringMember "input" (by decide), map_stringMember "expected_output" (by decide),
    map_stringMember "error" (by decide), TestResultEnvelope.coerced]

/-- The list of tests is left out when it is empty, which is so before and after. -/
theorem map_testsMember (tests : List TestResultEnvelope) :
    (testsMember tests).map coerceMember = testsMember (tests.map TestResultEnvelope.coerced) := by
  unfold testsMember
  by_cases empty : tests = []
  · subst empty
    rfl
  · have items : (tests.map TestResultEnvelope.toJson).map Json.coerceValue =
        (tests.map TestResultEnvelope.coerced).map TestResultEnvelope.toJson := by
      rw [List.map_map, List.map_map]
      exact List.map_congr_left fun t _ => t.coerce_toJson
    rw [if_neg empty, if_neg (mt List.map_eq_nil_iff.mp empty), List.map_singleton,
      coerceMember_of_plain "tests" (by decide), Json.coerceValue, Json.coerceItems_eq, items]

/-- The same for the whole envelope.  The timestamp is ASCII and stays as it is. -/
theorem ResultEnvelope.coerce_toJson {e : ResultEnvelope} (ascii : ∀ b ∈ e.timestamp, b < 0x80) :
    Json.coerceValue e.toJson = e.coerced.toJson := by
  have id : coerceMember (lit "id", .string e.id) = (lit "id", .string (Json.coerce e.id)) := by
    rw [coerceMember_of_plain "id" (by decide), Json.coerceValue]
  have timestamp : coerceMember (lit "timestamp", .string e.timestamp) =
      (lit "timestamp", .string e.timestamp) := by
    rw [coerceMember_of_plain "timestamp" (by decide), Json.coerceValue,
      Json.coerce_of_ascii ascii]
  unfold ResultEnvelope.toJson
  rw [coerceValue_object]
  simp only [List.map_cons, List.map_append, List.map_nil, id, timestamp,
    map_stringMember "status" (by decide), map_intMember "exit_code" (by decide),
    map_stringMember "stdout" (by decide), map_stringMember "stderr" (by decide),
    map_intMember "duration_ms" (by decide), map_stringMember "error" (by decide),
    map_testsMember, ResultEnvelope.coerced]

/-! ### Texts of envelopes -/

/-- A number does not nest, so it can be printed at any depth. -/
theorem intValue_printable (depth : Nat) (n : Int) : Json.Printable depth (intValue n) := by
  refine .number depth ?_
  rw [intText_eq]
  exact Json.isNumber_numeral n

/-- Nor does a string. -/
theorem stringMember_printable {name : String} {s : GoString} (depth : Nat) :
    ∀ m ∈ stringMember name s, Json.Printable depth m.2 := by
  intro m member
  unfold stringMember at member
  split_ifs at member with empty
  · exact nomatch member
  · rw [List.mem_singleton.mp member]
    exact .string depth s

/-- Whether the member is there or not. -/
theorem intMember_printable {name : String} {n : Option Int64} (depth : Nat) :
    ∀ m ∈ intMember name n, Json.Printable depth m.2 := by
  intro m member
  cases n with
  | none => exact nomatch member
  | some n =>
      rw [List.mem_singleton.mp member]
      exact intValue_printable depth n.toInt

/-- A test is an object of scalars, one level deep. -/
theorem TestResultEnvelope.printable (t : TestResultEnvelope) : Json.Printable 1 t.toJson := by
  refine .object ?_
  simp only [List.forall_mem_cons, List.forall_mem_append]
  have strings := @stringMember_printable
  have ints := @intMember_printable
  exact ⟨intValue_printable 0 t.number, ⟨⟨⟨⟨⟨⟨⟨strings 0, ints 0⟩, ints 0⟩, strings 0⟩, strings 0⟩,
    strings 0⟩, strings 0⟩, strings 0⟩⟩

/-- The list of them is one level deeper. -/
theorem testsMember_printable {tests : List TestResultEnvelope} :
    ∀ m ∈ testsMember tests, Json.Printable 2 m.2 := by
  intro m member
  unfold testsMember at member
  split_ifs at member with empty
  · exact nomatch member
  · rw [List.mem_singleton.mp member]
    refine .array fun v inside => ?_
    obtain ⟨t, _, rfl⟩ := List.mem_map.mp inside
    exact t.printable

/-- An envelope nests three levels deep, far less than what the decoder allows. -/
theorem ResultEnvelope.printable (e : ResultEnvelope) : Json.Printable 3 e.toJson := by
  refine .object ?_
  simp only [List.forall_mem_cons, List.forall_mem_append]
  have strings := @stringMember_printable
  have ints := @intMember_printable
  exact ⟨.string 2 e.id, ⟨⟨⟨⟨⟨⟨⟨strings 2, ints 2⟩, strings 2⟩, strings 2⟩, ints 2⟩, strings 2⟩,
    testsMember_printable⟩, .string 2 e.timestamp, nofun⟩⟩

/-! ### Reading members -/

/-- What an `int64` holds fits in 64 bits. -/
theorem fits_toInt (n : Int64) : Fits n.toInt := ⟨n.le_toInt, Int.le_of_lt_add_one n.toInt_lt⟩

/-- So a printed `int64` is parsed back to the same number. -/
theorem parseInt_toInt (n : Int64) : parseInt (intText n.toInt) = some n.toInt := by
  rw [parseInt_intText, if_pos (fits_toInt n)]

/-- A pointer to a number is read as the number; `null` would make it nil. -/
theorem readPointer_intValue (n : Int64) : readPointer (intValue n.toInt) = some (some n) := by
  unfold readPointer intValue
  simp only [parseInt_toInt, Option.map_some, Int64.ofInt_toInt]

section

variable {α : Type} {f : α → GoString × Json.Value → Option α} {e : α} {name : String}

/-- A string that is left out is the zero value that its field has anyway. -/
theorem foldlM_stringMember {put : GoString → α} (zero : e = put [])
    (reads : ∀ s, f e (lit name, .string s) = some (put s)) (s : GoString) :
    (stringMember name s).foldlM f e = some (put s) := by
  unfold stringMember
  split_ifs with empty
  · rw [empty, ← zero]
    rfl
  · rw [List.foldlM_cons, reads s]
    rfl

/-- A member that may be left out is read back as it was: when it is absent, the field keeps its
zero, which is what absence stands for. -/
theorem foldlM_intMember {put : Option Int64 → α} (zero : e = put none)
    (reads : ∀ n : Int64, f e (lit name, intValue n.toInt) = some (put (some n)))
    (n : Option Int64) : (intMember name n).foldlM f e = some (put n) := by
  cases n with
  | none =>
      rw [← zero]
      rfl
  | some n =>
      unfold intMember
      rw [List.foldlM_cons, reads n]
      rfl

end

/-- A pointer that is read and put in its place. -/
theorem map_readPointer {α : Type} (put : Option Int64 → α) (n : Int64) :
    (readPointer (intValue n.toInt)).map put = some (put (some n)) :=
  congrArg (Option.map put) (readPointer_intValue n)

/-- A test that was written, field by field. -/
theorem readTest_toJson {t : TestResultEnvelope} (fits : Fits t.number) :
    readTest .zero t.toJson = some t := by
  have number : readTestField .zero (lit "number", intValue t.number) =
      some ⟨t.number, ⟨[]⟩, none, none, [], [], [], [], []⟩ := by
    have read : readInt 0 (intValue t.number) = some t.number := by
      unfold readInt intValue
      simp only [parseInt_intText, if_pos fits]
    exact congrArg (Option.map _) read
  have status : ∀ e : TestResultEnvelope, e.status = ⟨[]⟩ → ∀ s,
      (stringMember "status" s).foldlM readTestField e = some { e with status := ⟨s⟩ } :=
    fun e zero => foldlM_stringMember (by rw [← zero]) fun _ => rfl
  have exitCode : ∀ e : TestResultEnvelope, e.exitCode = none → ∀ n,
      (intMember "exit_code" n).foldlM readTestField e = some { e with exitCode := n } :=
    fun e zero => foldlM_intMember (by rw [← zero]) (map_readPointer _)
  have durationMs : ∀ e : TestResultEnvelope, e.durationMs = none → ∀ n,
      (intMember "duration_ms" n).foldlM readTestField e = some { e with durationMs := n } :=
    fun e zero => foldlM_intMember (by rw [← zero]) (map_readPointer _)
  have stdout : ∀ e : TestResultEnvelope, e.stdout = [] → ∀ s,
      (stringMember "stdout" s).foldlM readTestField e = some { e with stdout := s } :=
    fun e zero => foldlM_stringMember (by rw [← zero]) fun _ => rfl
  have stderr : ∀ e : TestResultEnvelope, e.stderr = [] → ∀ s,
      (stringMember "stderr" s).foldlM readTestField e = some { e with stderr := s } :=
    fun e zero => foldlM_stringMember (by rw [← zero]) fun _ => rfl
  have input : ∀ e : TestResultEnvelope, e.input = [] → ∀ s,
      (stringMember "input" s).foldlM readTestField e = some { e with input := s } :=
    fun e zero => foldlM_stringMember (by rw [← zero]) fun _ => rfl
  have expectedOutput : ∀ e : TestResultEnvelope, e.expectedOutput = [] → ∀ s,
      (stringMember "expected_output" s).foldlM readTestField e =
        some { e with expectedOutput := s } :=
    fun e zero => foldlM_stringMember (by rw [← zero]) fun _ => rfl
  have error : ∀ e : TestResultEnvelope, e.error = [] → ∀ s,
      (stringMember "error" s).foldlM readTestField e = some { e with error := s } :=
    fun e zero => foldlM_stringMember (by rw [← zero]) fun _ => rfl
  unfold TestResultEnvelope.toJson
  simp only [readTest, List.foldlM_cons, List.foldlM_append, number, status, exitCode, durationMs,
    stdout, stderr, input, expectedOutput, error, Option.bind_eq_bind, Option.bind_some]

/-- Induction on the tests: the memory past an empty slice is empty all the way. -/
theorem readItems_toJson {ts : List TestResultEnvelope} (fits : ∀ t ∈ ts, Fits t.number) :
    readItems [] (ts.map TestResultEnvelope.toJson) = some (ts, []) := by
  induction ts with
  | nil => rfl
  | cons t ts ih =>
      have first := readTest_toJson (fits t List.mem_cons_self)
      have rest := ih fun t' later => fits t' (List.mem_cons_of_mem _ later)
      simp only [List.map_cons, readItems, List.headD_nil, List.tail_nil, first, rest,
        Option.bind_eq_bind, Option.bind_some, Option.pure_def]

/-- The tests are read back one by one, into a buffer without elements of an earlier `tests`. -/
theorem foldlM_testsMember {e : ResultBuffer} (fresh : e.tests = []) (noSpare : e.spare = [])
    {ts : List TestResultEnvelope} (fits : ∀ t ∈ ts, Fits t.number) :
    (testsMember ts).foldlM readResultField e = some { e with tests := ts, spare := [] } := by
  obtain ⟨⟨id, status, exitCode, stdout, stderr, durationMs, error, tests, timestamp⟩, spare⟩ := e
  cases fresh
  cases noSpare
  cases ts with
  | nil => rfl
  | cons t ts =>
      have items := readItems_toJson fits
      unfold testsMember
      rw [if_neg (List.cons_ne_nil t ts)]
      simp only [List.foldlM_cons, List.foldlM_nil, bind_pure]
      exact congrArg (· >>= _) items

/-- An envelope that was written, field by field. -/
theorem readResult_toJson {e : ResultEnvelope} (fits : ∀ t ∈ e.tests, Fits t.number)
    (time : Rfc3339.isTimestamp e.timestamp = true) : readResult e.toJson = some e := by
  have id : readResultField ⟨.zero, []⟩ (lit "id", .string e.id) =
      some ⟨⟨e.id, ⟨[]⟩, none, [], [], none, [], [], lit "0001-01-01T00:00:00Z"⟩, []⟩ := rfl
  have status : ∀ b : ResultBuffer, b.status = ⟨[]⟩ → ∀ s,
      (stringMember "status" s).foldlM readResultField b = some { b with status := ⟨s⟩ } :=
    fun b zero => foldlM_stringMember (by rw [← zero]) fun _ => rfl
  have exitCode : ∀ b : ResultBuffer, b.exitCode = none → ∀ n,
      (intMember "exit_code" n).foldlM readResultField b = some { b with exitCode := n } :=
    fun b zero => foldlM_intMember (by rw [← zero]) (map_readPointer _)
  have stdout : ∀ b : ResultBuffer, b.stdout = [] → ∀ s,
      (stringMember "stdout" s).foldlM readResultField b = some { b with stdout := s } :=
    fun b zero => foldlM_stringMember (by rw [← zero]) fun _ => rfl
  have stderr : ∀ b : ResultBuffer, b.stderr = [] → ∀ s,
      (stringMember "stderr" s).foldlM readResultField b = some { b with stderr := s } :=
    fun b zero => foldlM_stringMember (by rw [← zero]) fun _ => rfl
  have durationMs : ∀ b : ResultBuffer, b.durationMs = none → ∀ n,
      (intMember "duration_ms" n).foldlM readResultField b = some { b with durationMs := n } :=
    fun b zero => foldlM_intMember (by rw [← zero]) (map_readPointer _)
  have error : ∀ b : ResultBuffer, b.error = [] → ∀ s,
      (stringMember "error" s).foldlM readResultField b = some { b with error := s } :=
    fun b zero => foldlM_stringMember (by rw [← zero]) fun _ => rfl
  have tests : ∀ b : ResultBuffer, b.tests = [] → b.spare = [] →
      (testsMember e.tests).foldlM readResultField b =
        some { b with tests := e.tests, spare := [] } :=
    fun b fresh noSpare => foldlM_testsMember fresh noSpare fits
  have timestamp : ∀ b : ResultBuffer,
      readResultField b (lit "timestamp", .string e.timestamp) =
        some { b with timestamp := e.timestamp } := by
    intro b
    have read : readTime b.timestamp (.string e.timestamp) = some e.timestamp := if_pos time
    exact congrArg (Option.map _) read
  unfold ResultEnvelope.toJson
  simp only [readResult, List.foldlM_cons, List.foldlM_nil, List.foldlM_append, id, status,
    exitCode, stdout, stderr, durationMs, error, tests, timestamp, Option.bind_eq_bind,
    Option.bind_some, Option.pure_def, Option.map_some]

/-! ## Round trip -/

/-- **Envelopes.**  An envelope that was written is read back with its strings coerced. -/
theorem unmarshalResult_toJson {e : ResultEnvelope} (fits : ∀ t ∈ e.tests, Fits t.number)
    (ascii : ∀ b ∈ e.timestamp, b < 0x80) (time : Rfc3339.isTimestamp e.timestamp = true) :
    unmarshalResult (Json.print e.toJson) = some e.coerced := by
  have coercedFits : ∀ t ∈ e.coerced.tests, Fits t.number := by
    intro t member
    obtain ⟨t', inside, rfl⟩ := List.mem_map.mp member
    exact fits t' inside
  have parsed := Json.parse_print e.printable (by decide)
  rw [ResultEnvelope.coerce_toJson ascii] at parsed
  unfold unmarshalResult
  rw [parsed]
  exact readResult_toJson coercedFits time

/-- What became of a string: each byte outside well-formed UTF-8 is replaced by U+FFFD, and so the
string is the same exactly when it is valid. -/
structure Carried (s read : GoString) : Prop where
  coerced : read = Json.coerce s
  same : read = s ↔ Json.wellFormed s = true

/-- A string that is carried is coerced, and unchanged exactly when it is valid UTF-8. -/
theorem carried_coerce (s : GoString) : Carried s (Json.coerce s) := ⟨rfl, Json.coerce_eq_iff⟩

/-- The test of an envelope is about the result of a test. -/
structure TestResultEnvelope.Describes (t : TestResultEnvelope) (test : TestResult) : Prop where
  number : t.number = test.case.number
  status : Carried test.status.text t.status.text
  exitCode : t.exitCode = some test.exitCode
  durationMs : t.durationMs.map Int64.toInt = some (test.duration.toInt.tdiv 1000000)
  stdout : Carried test.stdout t.stdout
  stderr : Carried test.stderr t.stderr
  input : Carried test.case.input t.input
  expectedOutput : Carried test.case.expectedOutput t.expectedOutput
  error : Carried test.error t.error

/-- The envelope is about the report: the exit code and the duration, in whole milliseconds, are
there when there is a result, and the tests are in order. -/
structure ResultEnvelope.Describes (e : ResultEnvelope) (report : RunReport) : Prop where
  id : Carried report.script.id e.id
  status : Carried (report.result.elim [] fun r => r.status.text) e.status.text
  exitCode : e.exitCode = report.result.map Result.exitCode
  stdout : Carried (report.result.elim [] Result.stdout) e.stdout
  stderr : Carried (report.result.elim [] Result.stderr) e.stderr
  durationMs : e.durationMs.map Int64.toInt =
    report.result.map fun r => r.duration.toInt.tdiv 1000000
  error : Carried (report.err.elim [] GoError.text) e.error
  tests : List.Forall₂ TestResultEnvelope.Describes e.tests
    (report.result.elim [] Result.tests)

/-- `Milliseconds` truncates toward zero, for negative durations as well; the divisor excludes the
one quotient that would overflow. -/
theorem toInt_milliseconds (d : Duration) : d.milliseconds.toInt = d.toInt.tdiv 1000000 :=
  Int64.toInt_div_of_ne_right d Duration.millisecond (by decide)

/-- The envelope of a test, once its strings are coerced, says of the test what is claimed. -/
theorem makeTestResultEnvelope_describes (test : TestResult) :
    (makeTestResultEnvelope test).coerced.Describes test where
  number := rfl
  status := carried_coerce _
  exitCode := rfl
  durationMs := congrArg some (toInt_milliseconds test.duration)
  stdout := carried_coerce _
  stderr := carried_coerce _
  input := carried_coerce _
  expectedOutput := carried_coerce _
  error := carried_coerce _

/-- The same for the report.  The cases are those of the code: with and without an error, with and
without a result. -/
theorem makeResultEnvelope_describes (timestamp : GoString) (report : RunReport) :
    (makeResultEnvelope timestamp report).coerced.Describes report := by
  obtain ⟨script, result, err⟩ := report
  have error : Carried (err.elim [] GoError.text)
      (makeResultEnvelope timestamp ⟨script, result, err⟩).coerced.error := by
    cases err with
    | none => exact carried_coerce _
    | some err => exact carried_coerce _
  cases result with
  | none =>
      exact {
        id := carried_coerce _
        status := carried_coerce _
        exitCode := rfl
        stdout := carried_coerce _
        stderr := carried_coerce _
        durationMs := rfl
        error := error
        tests := .nil }
  | some r =>
      have tests : List.Forall₂ TestResultEnvelope.Describes
          ((r.tests.map makeTestResultEnvelope).map TestResultEnvelope.coerced) r.tests := by
        rw [List.map_map, List.forall₂_map_left_iff, List.forall₂_same]
        exact fun test _ => makeTestResultEnvelope_describes test
      exact {
        id := carried_coerce _
        status := carried_coerce _
        exitCode := rfl
        stdout := carried_coerce _
        stderr := carried_coerce _
        durationMs := congrArg some (toInt_milliseconds r.duration)
        error := error
        tests := tests }

/-- The numbers of the tests, which are of type `int` in Go, in 64 bits. -/
def RunReport.Typed (report : RunReport) : Prop :=
  ∀ result, report.result = some result → ∀ test ∈ result.tests, Fits test.case.number

/-- The numbers in the envelope are those of the report. -/
theorem makeResultEnvelope_fits {timestamp : GoString} {report : RunReport} (typed : report.Typed) :
    ∀ t ∈ (makeResultEnvelope timestamp report).tests, Fits t.number := by
  obtain ⟨script, result, err⟩ := report
  cases result with
  | none => exact nofun
  | some r =>
      intro t member
      obtain ⟨test, inside, rfl⟩ := List.mem_map.mp member
      exact typed r rfl test inside

/-- Encoding fails for a timestamp alone: `MarshalJSON` of a time refuses a year with more than four
digits. -/
theorem encodeRunReport_ok {now : Rfc3339.Time} {report : RunReport} {payload : GoString} :
    encodeRunReport now report = .ok payload ↔
      now.year ≤ 9999 ∧ payload = Json.print (makeResultEnvelope now.text report).toJson := by
  have year : (makeResultEnvelope now.text report).timestamp[4]? = some 45 ↔ now.year ≤ 9999 :=
    Rfc3339.text_separator now
  unfold encodeRunReport marshalResult
  by_cases fits : now.year ≤ 9999
  · rw [if_pos (year.mpr fits)]
    exact ⟨fun same => ⟨fits, (Except.ok.inj same).symm⟩, fun all => congrArg Except.ok all.2.symm⟩
  · rw [if_neg (mt year.mp fits)]
    exact ⟨nofun, fun all => absurd all.1 fits⟩

/-- What is read back of a report is its envelope, coerced. -/
theorem unmarshalResult_encodeRunReport {now : Rfc3339.Time} {report : RunReport}
    {payload : GoString} (typed : report.Typed) (encoded : encodeRunReport now report = .ok payload) :
    unmarshalResult payload = some (makeResultEnvelope now.text report).coerced := by
  obtain ⟨year, rfl⟩ := encodeRunReport_ok.mp encoded
  exact unmarshalResult_toJson (makeResultEnvelope_fits typed) (fun _ => Rfc3339.text_ascii)
    (Rfc3339.isTimestamp_text year)

/-- **Results on the wire.**  A report is encoded while the year has four digits.  Decoding the
bytes gives an envelope about the report: everything but invalid UTF-8 is recovered. -/
theorem encodeRunReport_faithful (now : Rfc3339.Time) (report : RunReport) (typed : report.Typed) :
    ((∃ payload, encodeRunReport now report = .ok payload) ↔ now.year ≤ 9999) ∧
    ∀ payload, encodeRunReport now report = .ok payload →
      ∃ e, unmarshalResult payload = some e ∧ e.Describes report := by
  refine ⟨⟨?_, ?_⟩, fun payload encoded => ?_⟩
  · rintro ⟨payload, encoded⟩
    exact (encodeRunReport_ok.mp encoded).1
  · intro year
    exact ⟨_, encodeRunReport_ok.mpr ⟨year, rfl⟩⟩
  · exact ⟨_, unmarshalResult_encodeRunReport typed encoded,
      makeResultEnvelope_describes now.text report⟩

/-- New Year 2025, UTC. -/
def newYear : Rfc3339.Time where
  year := 2025
  month := 1
  day := 1
  hour := 0
  minute := 0
  second := 0
  nanosecond := 0
  month_valid := by decide
  day_valid := by decide
  hour_valid := by decide
  minute_valid := by decide
  second_valid := by decide
  nanosecond_valid := by decide

/-- A script that writes one byte, and passes a test. -/
def oneByteReport (b : UInt8) : RunReport where
  script := { id := "script-42", language := .python, source := "print(1)" }
  result := some {
    status := .ok
    stdout := [b]
    duration := 1500000
    tests := [{ case := ⟨1, [], [b]⟩, status := .ok, stdout := [b], duration := 1500000 }] }

theorem oneByteReport_typed (b : UInt8) : (oneByteReport b).Typed := by
  rintro result same test member
  cases same
  rw [List.mem_singleton.mp member]
  exact (by decide : Fits 1)

/-- Of a script that writes `1`, the output, the exit code and the duration are read back. -/
theorem encodeRunReport_faithful_oneByte :
    ∃ payload e, encodeRunReport newYear (oneByteReport 49) = .ok payload ∧
      unmarshalResult payload = some e ∧ e.id = "script-42" ∧ e.stdout = "1" ∧
      e.exitCode = some 0 ∧ e.durationMs.map Int64.toInt = some 1 ∧ e.tests.length = 1 := by
  obtain ⟨exists_bytes, read⟩ :=
    encodeRunReport_faithful newYear (oneByteReport 49) (oneByteReport_typed 49)
  obtain ⟨payload, encoded⟩ := exists_bytes.mpr (by decide)
  obtain ⟨e, found, describes⟩ := read payload encoded
  exact ⟨payload, e, encoded, found, describes.id.same.mpr (by decide),
    describes.stdout.same.mpr (by decide), describes.exitCode, describes.durationMs,
    describes.tests.length_eq⟩

/-- The byte 0xFF is written as U+FFFD. -/
theorem encodeRunReport_lossy :
    ¬ ∀ (now : Rfc3339.Time) (report : RunReport) (result : Result) (payload : GoString),
        report.Typed → report.result = some result → encodeRunReport now report = .ok payload →
          ∃ e, unmarshalResult payload = some e ∧ e.stdout = result.stdout := by
  intro faithful
  have typed := oneByteReport_typed 0xFF
  have encoded := encodeRunReport_ok.mpr
    ⟨show newYear.year ≤ 9999 by decide, Eq.refl (Json.print
      (makeResultEnvelope newYear.text (oneByteReport 0xFF)).toJson)⟩
  obtain ⟨e, read, same⟩ := faithful newYear (oneByteReport 0xFF) _ _ typed rfl encoded
  rw [unmarshalResult_encodeRunReport typed encoded] at read
  rw [← Option.some.inj read] at same
  exact absurd same (by decide)

end Scrc
