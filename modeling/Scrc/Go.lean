import Mathlib.Data.List.Basic
import Scrc.Lib.Decimal
import Scrc.Lib.Json

/-!
# The Go values the service is written over

Strings are byte sequences, `int64` is Lean's `Int64`, and an `error` is its text together with
the sentinel errors that `errors.Is` (or `client.IsErrNotFound`) finds along its chain.
-/

namespace Scrc

/-- A Go string: a sequence of bytes, not necessarily valid UTF-8. -/
abbrev GoString := List UInt8

/-- The bytes of a string constant of the source. -/
def lit (s : String) : GoString := s.toUTF8.data.toList

instance : Coe String GoString := ⟨lit⟩

/-- Two constants with the same bytes are the same string: a string of Lean is its UTF-8. -/
theorem lit_injective {s t : String} (same : lit s = lit t) : s = t := by
  have bytes : s.toUTF8.data = t.toUTF8.data := Array.toList_inj.mp same
  exact String.toByteArray_inj.mp (ByteArray.ext bytes)

theorem lit_ne_nil {s : String} (nonempty : s ≠ "") : lit s ≠ [] :=
  fun empty => nonempty (lit_injective empty)

/-- `time.Duration`, an `int64` count of nanoseconds. -/
abbrev Duration := Int64

namespace Duration

def millisecond : Duration := 1000000
def second : Duration := 1000000000

/-- `Duration.Milliseconds`: the integer quotient, truncated toward zero. -/
def milliseconds (d : Duration) : Int64 := d / millisecond

/-- The nanoseconds of a duration; none when it is negative. -/
def nanoseconds (d : Duration) : Nat := d.toInt.toNat

end Duration

/-- The decimal digits of a natural number. -/
def natText (n : Nat) : GoString := lit (toString n)

/-- `%d` on an integer. -/
def intText (n : Int) : GoString := lit (toString n)

/-- The digits that `toString` writes are the decimal numeral. -/
theorem natText_eq (n : Nat) : natText n = Decimal.digits n := Decimal.utf8_toString_nat n

/-- With the sign, for integers. -/
theorem intText_eq (n : Int) : intText n = Decimal.numeral n := Decimal.utf8_toString_int n

/-- A byte as `%q` escapes it, when it is a character of its own or no part of one. -/
def escapeByte (b : UInt8) : GoString :=
  let hex (n : UInt8) : UInt8 := if n < 10 then 48 + n else 87 + n
  if b = 34 then lit "\\\""
  else if b = 92 then lit "\\\\"
  else if b = 7 then lit "\\a"
  else if b = 8 then lit "\\b"
  else if b = 9 then lit "\\t"
  else if b = 10 then lit "\\n"
  else if b = 11 then lit "\\v"
  else if b = 12 then lit "\\f"
  else if b = 13 then lit "\\r"
  else if b < 32 ∨ b ≥ 127 then lit "\\x" ++ [hex (b / 16), hex (b % 16)]
  else [b]

/-- The text between the quotation marks of `%q`; `copy` bytes of a character are still to come. -/
def escapeText : (copy : Nat) → GoString → GoString
  | _, [] => []
  | copy + 1, b :: rest => b :: escapeText copy rest
  | 0, b :: rest =>
      match Json.runeLength (b :: rest) with
      | n + 2 => b :: escapeText (n + 1) rest
      | _ => escapeByte b ++ escapeText 0 rest

/-- `%q` on a string: quotation marks around it, with the quotation mark, the backslash, control
characters and bytes that are not UTF-8 escaped.  A character of several bytes is taken for a
printable one: the tables of `unicode.IsPrint` are left out. -/
def quote (s : GoString) : GoString := lit "\"" ++ escapeText 0 s ++ lit "\""

/-- The errors that the service asks for with `errors.Is`, and the error class that
`client.IsErrNotFound` recognises. -/
inductive Sentinel where
  | canceled
  | deadlineExceeded
  | eof
  | notFound
  deriving DecidableEq

/-- A non-nil `error`: its text, and the sentinels found along its chain. -/
structure GoError where
  text : GoString
  chain : List Sentinel
  deriving DecidableEq, Inhabited

namespace GoError

/-- `errors.Is(err, target)`. -/
def is (err : GoError) (target : Sentinel) : Bool := target ∈ err.chain

/-- `fmt.Errorf("<text>")`, an error that wraps nothing. -/
def new (text : GoString) : GoError := ⟨text, []⟩

/-- `fmt.Errorf("<text>: %w", err)`. -/
def wrap (text : GoString) (err : GoError) : GoError := ⟨text ++ lit ": " ++ err.text, err.chain⟩

/-- `io.EOF`. -/
def eof : GoError := ⟨lit "EOF", [.eof]⟩

/-- `%w` keeps the chain, so that `errors.Is` sees through a wrapped error. -/
@[simp] theorem wrap_is (text : GoString) (err : GoError) (target : Sentinel) :
    (wrap text err).is target = err.is target := rfl

/-- An error that is made from a text alone is none of the sentinels. -/
@[simp] theorem new_is (text : GoString) (target : Sentinel) : (new text).is target = false := rfl

/-- Wrapping never yields an empty text, whatever the wrapped error says. -/
theorem wrap_text_ne_nil (text : GoString) (err : GoError) : (wrap text err).text ≠ [] := by
  have colon : lit ": " ≠ [] := by decide
  simp only [wrap, ne_eq, List.append_eq_nil_iff, not_and]
  intro empty
  exact absurd empty.2 colon

end GoError

/-- What `ctx.Err()` gives for a context that is over. -/
inductive CtxErr where
  | canceled
  | deadlineExceeded
  deriving DecidableEq

/-- The sentinel error values of package `context`. -/
def CtxErr.toError : CtxErr → GoError
  | .canceled => ⟨lit "context canceled", [.canceled]⟩
  | .deadlineExceeded => ⟨lit "context deadline exceeded", [.deadlineExceeded]⟩

/-- The contexts of the service: the one the caller passed in, `context.Background()`, and
`context.WithTimeout` of another one. -/
inductive Ctx where
  | caller
  | background
  | withTimeout (parent : Ctx) (timeout : Duration)
  deriving DecidableEq

end Scrc
