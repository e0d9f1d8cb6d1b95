import Mathlib.Data.List.Basic

/-!
# JSON texts

Reading JSON byte by byte, as the scanner of Go's `encoding/json` does: a machine with a stack of
open arrays and objects takes one byte at a time and either goes on or names the error.  The value
is built on the way, so that reading is a fold over the input and needs no bound on its length.

Strings are byte sequences.  A string literal stands for well-formed UTF-8: an ill-formed byte and
half of a surrogate pair become U+FFFD.
-/

namespace Json

abbrev Bytes := List UInt8

/-- The bytes of an ASCII string. -/
def ascii (s : String) : Bytes := s.toUTF8.data.toList

/-- A JSON value: numbers as they are written, objects with their members in order. -/
inductive Value where
  | null
  | bool (b : Bool)
  | number (literal : Bytes)
  | string (s : Bytes)
  | array (items : List Value)
  | object (members : List (Bytes × Value))
  deriving Inhabited

/-! ## UTF-8 -/

def isTail (b : UInt8) : Bool := 0x80 ≤ b ∧ b ≤ 0xBF

/-- The length of the well-formed UTF-8 sequence at the head, and 0 when there is none. -/
def runeLength : Bytes → Nat
  | [] => 0
  | b :: rest =>
      let second (low high : UInt8) : Bool := rest[0]?.any fun c => low ≤ c ∧ c ≤ high
      let tail (i : Nat) : Bool := rest[i]?.any isTail
      if b < 0x80 then 1
      else if 0xC2 ≤ b ∧ b ≤ 0xDF then if tail 0 then 2 else 0
      else if b = 0xE0 then if second 0xA0 0xBF ∧ tail 1 then 3 else 0
      else if b = 0xED then if second 0x80 0x9F ∧ tail 1 then 3 else 0
      else if 0xE1 ≤ b ∧ b ≤ 0xEF then if tail 0 ∧ tail 1 then 3 else 0
      else if b = 0xF0 then if second 0x90 0xBF ∧ tail 1 ∧ tail 2 then 4 else 0
      else if b = 0xF4 then if second 0x80 0x8F ∧ tail 1 ∧ tail 2 then 4 else 0
      else if 0xF1 ≤ b ∧ b ≤ 0xF3 then if tail 0 ∧ tail 1 ∧ tail 2 then 4 else 0
      else 0

/-- U+FFFD. -/
def replacement : Bytes := [0xEF, 0xBF, 0xBD]

/-- The UTF-8 sequence of a code point that is not a surrogate. -/
def encodeRune (r : Nat) : Bytes :=
  if r < 0x80 then [r.toUInt8]
  else if r < 0x800 then [(0xC0 + r / 64).toUInt8, (0x80 + r % 64).toUInt8]
  else if r < 0x10000 then
    [(0xE0 + r / 4096).toUInt8, (0x80 + r / 64 % 64).toUInt8, (0x80 + r % 64).toUInt8]
  else
    [(0xF0 + r / 262144).toUInt8, (0x80 + r / 4096 % 64).toUInt8, (0x80 + r / 64 % 64).toUInt8,
      (0x80 + r % 64).toUInt8]

/-! ## String literals -/

def hexDigit (b : UInt8) : Option Nat :=
  if 48 ≤ b ∧ b ≤ 57 then some (b.toNat - 48)
  else if 97 ≤ b ∧ b ≤ 102 then some (b.toNat - 87)
  else if 65 ≤ b ∧ b ≤ 70 then some (b.toNat - 55)
  else none

/-- The value of four hexadecimal digits at the head. -/
def hex4 : Bytes → Option Nat
  | a :: b :: c :: d :: _ => do
      let a ← hexDigit a
      let b ← hexDigit b
      let c ← hexDigit c
      let d ← hexDigit d
      return ((a * 16 + b) * 16 + c) * 16 + d
  | _ => none

/-- The code unit of a `\u` escape at the head. -/
def escapedUnit : Bytes → Option Nat
  | 92 :: 117 :: rest => hex4 rest
  | _ => none

/-- What an escape stands for, from what follows its backslash, and how many bytes it takes up
after the backslash.  Surrogates count in pairs only. -/
def escape : Bytes → Bytes × Nat
  | 98 :: _ => ([8], 1)
  | 102 :: _ => ([12], 1)
  | 110 :: _ => ([10], 1)
  | 114 :: _ => ([13], 1)
  | 116 :: _ => ([9], 1)
  | 117 :: rest =>
      match hex4 rest with
      | none => (replacement, 5)
      | some unit =>
          if unit < 0xD800 ∨ 0xE000 ≤ unit then (encodeRune unit, 5)
          else
            match escapedUnit (rest.drop 4) with
            | none => (replacement, 5)
            | some low =>
                if unit < 0xDC00 ∧ 0xDC00 ≤ low ∧ low < 0xE000 then
                  (encodeRune ((unit - 0xD800) * 0x400 + (low - 0xDC00) + 0x10000), 11)
                else (replacement, 5)
  | b :: _ => ([b], 1)
  | [] => ([], 0)

/-- The string that the text between two quotation marks stands for; `skip` bytes belong to an
escape that was read, `copy` bytes to a UTF-8 sequence that was begun. -/
def unquote : (skip copy : Nat) → Bytes → Bytes
  | _, _, [] => []
  | skip + 1, copy, _ :: rest => unquote skip copy rest
  | 0, copy + 1, b :: rest => b :: unquote 0 copy rest
  | 0, 0, b :: rest =>
      if b = 92 then (escape rest).1 ++ unquote (escape rest).2 0 rest
      else
        match runeLength (b :: rest) with
        | 0 => replacement ++ unquote 0 0 rest
        | n + 1 => b :: unquote 0 n rest

/-! ## The machine -/

/-- A syntax error: the offending byte and what is wrong with it, or that there is none. -/
inductive SyntaxError where
  | unexpected (b : UInt8) (context : Bytes)
  | endOfInput
  deriving DecidableEq

/-- An array or an object that is not closed yet: its items in reverse; its members in reverse and
the key whose value is being read. -/
inductive Frame where
  | array (items : List Value)
  | object (members : List (Bytes × Value)) (key : Bytes)

/-- How far a number has been read. -/
inductive NumberState where
  | minus
  | zero
  | integer
  | point
  | fraction
  | exponent
  | exponentSign
  | exponentDigits
  deriving DecidableEq

/-- What the machine expects next.  Texts of strings and numbers are kept in reverse. -/
inductive Mode where
  /-- A value; after an opening bracket also the closing one. -/
  | value (orEnd : Bool)
  /-- The key of a member; after an opening brace also the closing one. -/
  | key (members : List (Bytes × Value)) (orEnd : Bool)
  /-- The rest of a string, which is the key after these members or a value. -/
  | string (members : Option (List (Bytes × Value))) (text : Bytes)
  | escape (members : Option (List (Bytes × Value))) (text : Bytes)
  | hex (members : Option (List (Bytes × Value))) (text : Bytes) (digits : Nat)
  | number (text : Bytes) (state : NumberState)
  /-- The rest of `true`, `false` or `null`. -/
  | word (name : Bytes) (rest : Bytes) (value : Value)
  /-- The colon after a key. -/
  | colon (members : List (Bytes × Value)) (key : Bytes)
  /-- A separator or the end of what encloses the value just read. -/
  | after
  /-- Nothing: this is the value of the text. -/
  | done (value : Value)

structure State where
  stack : List Frame
  mode : Mode

def isSpace (b : UInt8) : Bool := b = 32 ∨ b = 9 ∨ b = 10 ∨ b = 13

def isDigit (b : UInt8) : Bool := 48 ≤ b ∧ b ≤ 57

/-- The deepest nesting that is read. -/
def maxNestingDepth : Nat := 10000

/-- Put a value that is complete where it belongs. -/
def deliver (stack : List Frame) (v : Value) : State :=
  match stack with
  | [] => ⟨[], .done v⟩
  | .array items :: rest => ⟨.array (v :: items) :: rest, .after⟩
  | .object members key :: rest => ⟨.object ((key, v) :: members) [] :: rest, .after⟩

/-- A byte where a value begins. -/
def beginValue (stack : List Frame) (b : UInt8) : Except SyntaxError State :=
  if b = 123 then
    if stack.length ≥ maxNestingDepth then .error (.unexpected b (ascii "exceeded max depth"))
    else .ok ⟨stack, .key [] true⟩
  else if b = 91 then
    if stack.length ≥ maxNestingDepth then .error (.unexpected b (ascii "exceeded max depth"))
    else .ok ⟨.array [] :: stack, .value true⟩
  else if b = 34 then .ok ⟨stack, .string none []⟩
  else if b = 45 then .ok ⟨stack, .number [b] .minus⟩
  else if b = 48 then .ok ⟨stack, .number [b] .zero⟩
  else if isDigit b then .ok ⟨stack, .number [b] .integer⟩
  else if b = 116 then .ok ⟨stack, .word (ascii "true") (ascii "rue") (.bool true)⟩
  else if b = 102 then .ok ⟨stack, .word (ascii "false") (ascii "alse") (.bool false)⟩
  else if b = 110 then .ok ⟨stack, .word (ascii "null") (ascii "ull") .null⟩
  else .error (.unexpected b (ascii "looking for beginning of value"))

/-- A byte after a value that is complete and delivered. -/
def afterValue (s : State) (b : UInt8) : Except SyntaxError State :=
  if isSpace b then .ok s
  else
    match s.stack with
    | [] => .error (.unexpected b (ascii "after top-level value"))
    | .array items :: rest =>
        if b = 44 then .ok ⟨.array items :: rest, .value false⟩
        else if b = 93 then .ok (deliver rest (.array items.reverse))
        else .error (.unexpected b (ascii "after array element"))
    | .object members _ :: rest =>
        if b = 44 then .ok ⟨rest, .key members false⟩
        else if b = 125 then .ok (deliver rest (.object members.reverse))
        else .error (.unexpected b (ascii "after object key:value pair"))

/-- A byte of a number: the number goes on, or it ends before this byte. -/
def numberStep (state : NumberState) (b : UInt8) : Except SyntaxError (Option NumberState) :=
  match state with
  | .minus =>
      if b = 48 then .ok (some .zero)
      else if isDigit b then .ok (some .integer)
      else .error (.unexpected b (ascii "in numeric literal"))
  | .zero =>
      if b = 46 then .ok (some .point)
      else if b = 101 ∨ b = 69 then .ok (some .exponent)
      else .ok none
  | .integer =>
      if isDigit b then .ok (some .integer)
      else if b = 46 then .ok (some .point)
      else if b = 101 ∨ b = 69 then .ok (some .exponent)
      else .ok none
  | .point =>
      if isDigit b then .ok (some .fraction)
      else .error (.unexpected b (ascii "after decimal point in numeric literal"))
  | .fraction =>
      if isDigit b then .ok (some .fraction)
      else if b = 101 ∨ b = 69 then .ok (some .exponent)
      else .ok none
  | .exponent =>
      if b = 43 ∨ b = 45 then .ok (some .exponentSign)
      else if isDigit b then .ok (some .exponentDigits)
      else .error (.unexpected b (ascii "in exponent of numeric literal"))
  | .exponentSign =>
      if isDigit b then .ok (some .exponentDigits)
      else .error (.unexpected b (ascii "in exponent of numeric literal"))
  | .exponentDigits => if isDigit b then .ok (some .exponentDigits) else .ok none

/-- One byte of the input. -/
def step (s : State) (b : UInt8) : Except SyntaxError State :=
  match s.mode with
  | .value orEnd =>
      if isSpace b then .ok s
      else if orEnd ∧ b = 93 then
        match s.stack with
        | .array items :: rest => .ok (deliver rest (.array items.reverse))
        | _ => .error (.unexpected b (ascii "looking for beginning of value"))
      else beginValue s.stack b
  | .key members orEnd =>
      if isSpace b then .ok s
      else if orEnd ∧ b = 125 then .ok (deliver s.stack (.object members.reverse))
      else if b = 34 then .ok { s with mode := .string (some members) [] }
      else .error (.unexpected b (ascii "looking for beginning of object key string"))
  | .string members text =>
      if b = 34 then
        let value := unquote 0 0 text.reverse
        match members with
        | some members => .ok { s with mode := .colon members value }
        | none => .ok (deliver s.stack (.string value))
      else if b = 92 then .ok { s with mode := .escape members (b :: text) }
      else if b < 32 then .error (.unexpected b (ascii "in string literal"))
      else .ok { s with mode := .string members (b :: text) }
  | .escape members text =>
      if b = 117 then .ok { s with mode := .hex members (b :: text) 4 }
      else if b ∈ [98, 102, 110, 114, 116, 92, 47, 34] then
        .ok { s with mode := .string members (b :: text) }
      else .error (.unexpected b (ascii "in string escape code"))
  | .hex members text digits =>
      if (hexDigit b).isSome then
        if digits ≤ 1 then .ok { s with mode := .string members (b :: text) }
        else .ok { s with mode := .hex members (b :: text) (digits - 1) }
      else .error (.unexpected b (ascii "in \\u hexadecimal character escape"))
  | .number text state =>
      match numberStep state b with
      | .error err => .error err
      | .ok (some state) => .ok { s with mode := .number (b :: text) state }
      | .ok none => afterValue (deliver s.stack (.number text.reverse)) b
  | .word name rest value =>
      match rest with
      | [] => afterValue (deliver s.stack value) b
      | [expected] =>
          if b = expected then .ok (deliver s.stack value)
          else .error (.unexpected b (ascii "in literal " ++ name ++ ascii " (expecting '" ++
            [expected] ++ ascii "')"))
      | expected :: rest =>
          if b = expected then .ok { s with mode := .word name rest value }
          else .error (.unexpected b (ascii "in literal " ++ name ++ ascii " (expecting '" ++
            [expected] ++ ascii "')"))
  | .colon members key =>
      if isSpace b then .ok s
      else if b = 58 then .ok ⟨.object members key :: s.stack, .value false⟩
      else .error (.unexpected b (ascii "after object key"))
  | .after => afterValue s b
  | .done _ => afterValue s b

/-- The end of the input counts as a space, and nothing may be open after it. -/
def finish (s : State) : Except SyntaxError Value :=
  match s.mode with
  | .done v => .ok v
  | _ =>
      match step s 32 with
      | .error err => .error err
      | .ok s =>
          match s.mode with
          | .done v => .ok v
          | _ => .error .endOfInput

/-- Read a JSON text. -/
def parse (input : Bytes) : Except SyntaxError Value :=
  match input.foldlM step ⟨[], .value false⟩ with
  | .error err => .error err
  | .ok s => finish s

end Json
