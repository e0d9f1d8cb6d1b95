import Scrc.Lib.JsonPrint
import Scrc.Lib.JsonUtf8

/-!
# Writing JSON with `json.dumps`

The text of a value as `json.dumps` of Python writes it by default: a space after each comma and
each colon, and nothing outside printable ASCII in a string, so that the text is its own UTF-8.  A
character above U+FFFF is written as a pair of surrogates.

A Python string without lone surrogates is a Lean `String`, a `dict` the list of its items.

* `unquote_escapeText`: the escapes of a string stand for its UTF-8.
* `parse_dumps`: what is written is read as the value, each string as its UTF-8.
-/

namespace Json

/-- What `json.dumps` is given. -/
inductive PyValue where
  | none
  | bool (b : Bool)
  | int (n : Int)
  | str (s : String)
  | list (items : List PyValue)
  | dict (members : List (String × PyValue))

/-! ## Strings -/

/-- `'\\u{0:04x}'.format(n)` -/
def hexEscape (n : Nat) : Bytes :=
  [92, 117, hexChar (n / 4096), hexChar (n / 256 % 16), hexChar (n / 16 % 16), hexChar (n % 16)]

/-- A character in a string: `ESCAPE_ASCII` and what replaces a match of it. -/
def escapeChar (c : Char) : Bytes :=
  let n := c.toNat
  if n = 92 ∨ n = 34 then [92, n.toUInt8]
  else if n = 8 then ascii "\\b"
  else if n = 12 then ascii "\\f"
  else if n = 10 then ascii "\\n"
  else if n = 13 then ascii "\\r"
  else if n = 9 then ascii "\\t"
  else if 32 ≤ n ∧ n ≤ 126 then [n.toUInt8]
  else if n < 0x10000 then hexEscape n
  else
    let n := n - 0x10000
    hexEscape (0xD800 + n / 0x400 % 0x400) ++ hexEscape (0xDC00 + n % 0x400)

/-- The text of a string between its quotation marks. -/
def escapeText (s : String) : Bytes := s.toList.flatMap escapeChar

/-- A string literal. -/
def dumpsString (s : String) : Bytes := 34 :: escapeText s ++ [34]

/-! ## Values -/

/-- Texts with a comma and a space between them. -/
def listed (texts : List Bytes) : Bytes := (44 :: [32]).intercalate texts

mutual

/-- `json.dumps(v)` -/
def dumps : PyValue → Bytes
  | .none => ascii "null"
  | .bool b => if b then ascii "true" else ascii "false"
  | .int n => Decimal.numeral n
  | .str s => dumpsString s
  | .list items => 91 :: listed (dumpsItems items) ++ [93]
  | .dict members => 123 :: listed (dumpsMembers members) ++ [125]

def dumpsItems : List PyValue → List Bytes
  | [] => []
  | v :: rest => dumps v :: dumpsItems rest

def dumpsMembers : List (String × PyValue) → List Bytes
  | [] => []
  | (key, v) :: rest => (dumpsString key ++ 58 :: ([32] ++ dumps v)) :: dumpsMembers rest

end

mutual

/-- The JSON value, with strings as their UTF-8. -/
def PyValue.toValue : PyValue → Value
  | .none => .null
  | .bool b => .bool b
  | .int n => .number (Decimal.numeral n)
  | .str s => .string s.toUTF8.data.toList
  | .list items => .array (PyValue.toItems items)
  | .dict members => .object (PyValue.toMembers members)

def PyValue.toItems : List PyValue → List Value
  | [] => []
  | v :: rest => v.toValue :: PyValue.toItems rest

def PyValue.toMembers : List (String × PyValue) → List (Bytes × Value)
  | [] => []
  | (key, v) :: rest => (key.toUTF8.data.toList, v.toValue) :: PyValue.toMembers rest

end

/-- The value has at most `depth` lists and dictionaries within each other. -/
inductive PyValue.Nested : (depth : Nat) → PyValue → Prop where
  | none (depth : Nat) : Nested depth .none
  | bool (depth : Nat) (b : Bool) : Nested depth (.bool b)
  | int (depth : Nat) (n : Int) : Nested depth (.int n)
  | str (depth : Nat) (s : String) : Nested depth (.str s)
  | list {depth : Nat} {items : List PyValue} (each : ∀ v ∈ items, Nested depth v) :
      Nested (depth + 1) (.list items)
  | dict {depth : Nat} {members : List (String × PyValue)}
      (each : ∀ m ∈ members, Nested depth m.2) : Nested (depth + 1) (.dict members)

/-! ## Reading a string -/

theorem hexDigits_hexChar {n : Nat} (fits : n < 0x10000) :
    hexDigit (hexChar (n / 4096)) = some (n / 4096) ∧
      hexDigit (hexChar (n / 256 % 16)) = some (n / 256 % 16) ∧
      hexDigit (hexChar (n / 16 % 16)) = some (n / 16 % 16) ∧
      hexDigit (hexChar (n % 16)) = some (n % 16) :=
  ⟨hexDigit_hexChar _ (by omega), hexDigit_hexChar _ (by omega), hexDigit_hexChar _ (by omega),
    hexDigit_hexChar _ (by omega)⟩

theorem hex4_hexEscape {n : Nat} (fits : n < 0x10000) (rest : Bytes) :
    escapedUnit (hexEscape n ++ rest) = some n := by
  obtain ⟨first, second, third, fourth⟩ := hexDigits_hexChar fits
  change hex4 (hexChar (n / 4096) :: hexChar (n / 256 % 16) :: hexChar (n / 16 % 16) ::
    hexChar (n % 16) :: rest) = some n
  unfold hex4
  simp only [first, second, third, fourth, bind, Option.bind, pure, Option.some.injEq]
  omega

theorem passes_hexEscape {n : Nat} (fits : n < 0x10000) : Passes (hexEscape n) := by
  obtain ⟨first, second, third, fourth⟩ := hexDigits_hexChar fits
  exact passes_unicode (Option.isSome_of_eq_some first) (Option.isSome_of_eq_some second)
    (Option.isSome_of_eq_some third) (Option.isSome_of_eq_some fourth)

/-- An escape of one code unit that is no surrogate. -/
theorem unquote_hexEscape {n : Nat} (fits : n < 0x10000) (noSurrogate : n < 0xD800 ∨ 0xE000 ≤ n)
    (rest : Bytes) : unquote 0 0 (hexEscape n ++ rest) = encodeRune n ++ unquote 0 0 rest := by
  have unit := hex4_hexEscape fits rest
  obtain ⟨digits, text⟩ : ∃ digits, hexEscape n = 92 :: 117 :: digits := ⟨_, rfl⟩
  have length : digits.length = 4 := by
    have whole := congrArg List.length text
    exact (Nat.succ.inj (Nat.succ.inj whole)).symm
  rw [text] at unit ⊢
  have escaped : escape (117 :: (digits ++ rest)) = (encodeRune n, 5) := by
    change hex4 (digits ++ rest) = some n at unit
    unfold escape
    simp only [unit]
    exact if_pos noSurrogate
  change unquote 0 0 (92 :: (117 :: (digits ++ rest))) = _
  have skip : unquote 5 0 (117 :: (digits ++ rest)) = unquote 0 0 rest := by
    rw [← unquote_skip (117 :: digits) rest, List.length_cons, length, List.cons_append]
  simp only [unquote_escape, escaped, skip]

/-- Escapes of two code units that are a pair of surrogates. -/
theorem unquote_pair {high low : Nat} (lead : 0xD800 ≤ high ∧ high < 0xDC00)
    (trail : 0xDC00 ≤ low ∧ low < 0xE000) (rest : Bytes) :
    unquote 0 0 (hexEscape high ++ (hexEscape low ++ rest)) =
      encodeRune ((high - 0xD800) * 0x400 + (low - 0xDC00) + 0x10000) ++ unquote 0 0 rest := by
  have first := hex4_hexEscape (n := high) (by omega) (hexEscape low ++ rest)
  have second := hex4_hexEscape (n := low) (by omega) rest
  obtain ⟨digits, text, length⟩ : ∃ digits,
      hexEscape high = 92 :: 117 :: digits ∧ digits.length = 4 := ⟨_, rfl, rfl⟩
  have six : (hexEscape low).length = 6 := rfl
  generalize hexEscape low = next at first second six ⊢
  rw [text] at first ⊢
  have escaped : escape (117 :: (digits ++ (next ++ rest))) =
      (encodeRune ((high - 0xD800) * 0x400 + (low - 0xDC00) + 0x10000), 11) := by
    change hex4 (digits ++ (next ++ rest)) = some high at first
    have after : (digits ++ (next ++ rest)).drop 4 = next ++ rest := by rw [← length, List.drop_left]
    unfold escape
    simp only [first, after, second]
    rw [if_neg (by omega), if_pos ⟨lead.2, trail⟩]
  change unquote 0 0 (92 :: (117 :: (digits ++ (next ++ rest)))) = _
  have skip : unquote 11 0 (117 :: (digits ++ (next ++ rest))) = unquote 0 0 rest := by
    rw [← unquote_skip (117 :: (digits ++ next)) rest, List.length_cons, List.length_append, length,
      six, List.cons_append, List.append_assoc]
  simp only [unquote_escape, escaped, skip]

/-- A character whose escape is itself. -/
theorem unquote_plain {n : Nat} (printable : 32 ≤ n ∧ n ≤ 126) (plain : n ≠ 92) (rest : Bytes) :
    unquote 0 0 (n.toUInt8 :: rest) = encodeRune n ++ unquote 0 0 rest := by
  have value : n.toUInt8.toNat = n := by
    rw [Nat.toUInt8, UInt8.toNat_ofNat']
    omega
  have low : n.toUInt8 < 0x80 := by
    rw [UInt8.lt_iff_toNat_lt, value]
    exact Nat.lt_of_le_of_lt printable.2 (by decide)
  have apart : n.toUInt8 ≠ 92 := fun same => plain (value.symm.trans (congrArg UInt8.toNat same))
  have rune : encodeRune n = [n.toUInt8] := if_pos (Nat.lt_of_le_of_lt printable.2 (by decide))
  rw [rune]
  simp only [unquote, apart, ↓reduceIte, runeLength_ascii low, List.singleton_append]

/-- **Escapes.**  Each stands for its character. -/
theorem unquote_escapeChar (c : Char) (rest : Bytes) :
    unquote 0 0 (escapeChar c ++ rest) = encodeRune c.toNat ++ unquote 0 0 rest := by
  have range := toNat_lt c
  have noSurrogate : c.toNat < 0xD800 ∨ 0xE000 ≤ c.toNat :=
    c.valid.elim Or.inl fun high => Or.inr high.1
  unfold escapeChar
  generalize c.toNat = n at range noSurrogate
  simp only []
  split_ifs with mark h8 h12 h10 h13 h9 printable bmp
  · rcases mark with rfl | rfl
    · rfl
    · rfl
  · subst h8
    rfl
  · subst h12
    rfl
  · subst h10
    rfl
  · subst h13
    rfl
  · subst h9
    rfl
  · exact unquote_plain printable (fun same => mark (Or.inl same)) rest
  · exact unquote_hexEscape bmp noSurrogate rest
  · have pair := @unquote_pair (0xD800 + (n - 0x10000) / 0x400 % 0x400)
      (0xDC00 + (n - 0x10000) % 0x400) (by omega) (by omega) rest
    rw [List.append_assoc, pair]
    congr 2
    omega

/-- **Strings.**  A string that was written, read again, is its UTF-8. -/
theorem unquote_escapeText (s : String) :
    unquote 0 0 (escapeText s) = s.toUTF8.data.toList := by
  rw [utf8_eq]
  unfold escapeText
  induction s.toList with
  | nil => rfl
  | cons c cs ih => rw [List.flatMap_cons, List.flatMap_cons, unquote_escapeChar, ih]

theorem passes_escapeChar (c : Char) : Passes (escapeChar c) := by
  have range := toNat_lt c
  unfold escapeChar
  generalize c.toNat = n at range
  simp only []
  split_ifs with mark h8 h12 h10 h13 h9 printable bmp
  · rcases mark with rfl | rfl
    · exact passes_escape (by decide)
    · exact passes_escape (by decide)
  · exact passes_escape (by decide)
  · exact passes_escape (by decide)
  · exact passes_escape (by decide)
  · exact passes_escape (by decide)
  · exact passes_escape (by decide)
  · have value : n.toUInt8.toNat = n := by
      rw [Nat.toUInt8, UInt8.toNat_ofNat']
      omega
    refine passes_plain (fun same => mark (Or.inr ?_)) (fun same => mark (Or.inl ?_)) ?_
    · exact value.symm.trans (congrArg UInt8.toNat same)
    · exact value.symm.trans (congrArg UInt8.toNat same)
    · rw [UInt8.lt_iff_toNat_lt, value]
      exact Nat.not_lt.mpr printable.1
  · exact passes_hexEscape bmp
  · exact (passes_hexEscape (by omega)).append (passes_hexEscape (by omega))

theorem quotes_dumpsString (s : String) : Quotes (dumpsString s) s.toUTF8.data.toList := by
  refine ⟨escapeText s, rfl, ?_, unquote_escapeText s⟩
  unfold escapeText
  induction s.toList with
  | nil => exact Passes.nil
  | cons c cs ih => exact (passes_escapeChar c).append ih

/-! ## Reading a value -/

theorem dumpsItems_eq (items : List PyValue) : dumpsItems items = items.map dumps := by
  induction items with
  | nil => rfl
  | cons v items ih => rw [dumpsItems, ih, List.map_cons]

theorem dumpsMembers_eq (members : List (String × PyValue)) :
    dumpsMembers members = members.map fun m => dumpsString m.1 ++ 58 :: ([32] ++ dumps m.2) := by
  induction members with
  | nil => rfl
  | cons m members ih => rw [dumpsMembers, ih, List.map_cons]

theorem PyValue.toItems_eq (items : List PyValue) :
    PyValue.toItems items = items.map PyValue.toValue := by
  induction items with
  | nil => rfl
  | cons v items ih => rw [PyValue.toItems, ih, List.map_cons]

theorem PyValue.toMembers_eq (members : List (String × PyValue)) :
    PyValue.toMembers members = members.map fun m => (m.1.toUTF8.data.toList, m.2.toValue) := by
  induction members with
  | nil => rfl
  | cons m members ih => rw [PyValue.toMembers, ih, List.map_cons]

theorem reads_dumps {depth : Nat} {v : PyValue} (nested : v.Nested depth) :
    Reads depth (dumps v) v.toValue := by
  have space : ∀ b ∈ ([32] : Bytes), isSpace b = true := List.forall_mem_singleton.mpr rfl
  induction nested with
  | none depth => exact reads_null depth
  | bool depth b => exact reads_bool depth b
  | int depth n => exact reads_number (isNumber_numeral n) depth
  | str depth s => exact (quotes_dumpsString s).reads depth
  | list _ ih =>
      rw [dumps, dumpsItems_eq, PyValue.toValue, PyValue.toItems_eq]
      exact reads_array [32] space ih
  | dict _ ih =>
      rw [dumps, dumpsMembers_eq, PyValue.toValue, PyValue.toMembers_eq]
      exact reads_object [32] space (fun m _ => quotes_dumpsString m.1) ih

/-- **Writing and reading.**  What `json.dumps` writes is read as the value. -/
theorem parse_dumps {depth : Nat} {v : PyValue} (nested : v.Nested depth)
    (bound : depth ≤ maxNestingDepth) : parse (dumps v) = .ok v.toValue :=
  parse_of_reads (reads_dumps nested) bound

/-! ## Values of Python -/

theorem utf8_injective {s t : String} (same : s.toUTF8.data.toList = t.toUTF8.data.toList) :
    s = t := by
  have bytes : s.toUTF8.data = t.toUTF8.data := Array.toList_inj.mp same
  exact String.toByteArray_inj.mp (ByteArray.ext bytes)

/-- Members are looked up by the UTF-8 of their keys. -/
theorem lookup_toMembers (key : String) (members : List (String × PyValue)) :
    (members.lookup key).map PyValue.toValue =
      (PyValue.toMembers members).lookup key.toUTF8.data.toList := by
  induction members with
  | nil => rfl
  | cons m members ih =>
      rw [PyValue.toMembers, List.lookup_cons, List.lookup_cons]
      by_cases here : key = m.1
      · rw [← here, beq_self_eq_true, beq_self_eq_true]
        rfl
      · have apart : key.toUTF8.data.toList ≠ m.1.toUTF8.data.toList := fun same =>
          here (utf8_injective same)
        rw [beq_eq_false_iff_ne.mpr here, beq_eq_false_iff_ne.mpr apart]
        exact ih

theorem exists_items {items : List Value} (each : ∀ v ∈ items, ∃ p : PyValue, p.toValue = v) :
    ∃ ps, PyValue.toItems ps = items := by
  induction items with
  | nil => exact ⟨[], rfl⟩
  | cons v items ih =>
      obtain ⟨own, others⟩ := List.forall_mem_cons.mp each
      obtain ⟨p, rfl⟩ := own
      obtain ⟨ps, rfl⟩ := ih others
      exact ⟨p :: ps, rfl⟩

theorem exists_members {members : List (Bytes × Value)}
    (keys : ∀ m ∈ members, wellFormed m.1 = true)
    (each : ∀ m ∈ members, ∃ p : PyValue, p.toValue = m.2) :
    ∃ ps, PyValue.toMembers ps = members := by
  induction members with
  | nil => exact ⟨[], rfl⟩
  | cons m members ih =>
      rcases m with ⟨key, v⟩
      obtain ⟨valid, validOthers⟩ := List.forall_mem_cons.mp keys
      obtain ⟨own, others⟩ := List.forall_mem_cons.mp each
      obtain ⟨t, rfl⟩ := wellFormed_iff_string.mp valid
      obtain ⟨p, rfl⟩ := own
      obtain ⟨ps, rfl⟩ := ih validOthers others
      exact ⟨(t, p) :: ps, rfl⟩

/-- A value with strings in UTF-8 and integers is one that Python has. -/
theorem exists_pyValue {v : Value} (integral : v.Integral) (utf8 : v.Utf8) :
    ∃ p : PyValue, p.toValue = v := by
  induction integral with
  | null => exact ⟨.none, rfl⟩
  | bool b => exact ⟨.bool b, rfl⟩
  | number n => exact ⟨.int n, rfl⟩
  | string s =>
      cases utf8 with
      | string valid =>
          obtain ⟨t, rfl⟩ := wellFormed_iff_string.mp valid
          exact ⟨.str t, rfl⟩
  | array _ ih =>
      cases utf8 with
      | array each =>
          obtain ⟨ps, rfl⟩ := exists_items fun v member => ih v member (each v member)
          exact ⟨.list ps, rfl⟩
  | object _ ih =>
      cases utf8 with
      | object keys each =>
          obtain ⟨ps, rfl⟩ := exists_members keys fun m member => ih m member (each m member)
          exact ⟨.dict ps, rfl⟩

end Json
