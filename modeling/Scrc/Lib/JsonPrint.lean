import Scrc.Lib.Decimal
import Scrc.Lib.JsonString

/-!
# Printing JSON

The text of a value as `json.Marshal` of Go writes it, without spaces, and what the reader of
`Scrc.Lib.Json` makes of it.

The machine of the reader is followed over the text.  `Goes` is a run of it, `Passes` a text inside
a string, and `Reads` a text that is read as a value wherever one is expected.

* `isNumber_numeral`: the numerals of integers are numbers.
* `Quotes.reads`, `reads_array`, `reads_object`: texts are put together as values are.
* `parse_print`: a value printed and read again is the value with its strings coerced.
-/

namespace Json

/-! ## Values -/

/-- Texts with commas between them. -/
def commas (texts : List Bytes) : Bytes := [44].intercalate texts

mutual

/-- The text of a value. -/
def print : Value → Bytes
  | .null => ascii "null"
  | .bool b => if b then ascii "true" else ascii "false"
  | .number literal => literal
  | .string s => stringText s
  | .array items => 91 :: commas (printItems items) ++ [93]
  | .object members => 123 :: commas (printMembers members) ++ [125]

def printItems : List Value → List Bytes
  | [] => []
  | v :: rest => print v :: printItems rest

def printMembers : List (Bytes × Value) → List Bytes
  | [] => []
  | (key, v) :: rest => (stringText key ++ 58 :: print v) :: printMembers rest

end

mutual

/-- The value with its strings and keys coerced. -/
def coerceValue : Value → Value
  | .null => .null
  | .bool b => .bool b
  | .number literal => .number literal
  | .string s => .string (coerce s)
  | .array items => .array (coerceItems items)
  | .object members => .object (coerceMembers members)

def coerceItems : List Value → List Value
  | [] => []
  | v :: rest => coerceValue v :: coerceItems rest

def coerceMembers : List (Bytes × Value) → List (Bytes × Value)
  | [] => []
  | (key, v) :: rest => (coerce key, coerceValue v) :: coerceMembers rest

end

/-! ## The machine on a printed value -/

/-- The machine goes on from one state to another over a text. -/
def Goes (s : State) (text : Bytes) (s' : State) : Prop := text.foldlM step s = Except.ok s'

/-- Runs of the machine compose along the concatenation of what they read. -/
theorem Goes.append {s s' s'' : State} {text text' : Bytes} (first : Goes s text s')
    (next : Goes s' text' s'') : Goes s (text ++ text') s'' := by
  unfold Goes at first next ⊢
  rw [List.foldlM_append, first]
  exact next

theorem Goes.cons {s s'' : State} {b : UInt8} {text : Bytes} (s' : State)
    (first : step s b = .ok s') (next : Goes s' text s'') : Goes s (b :: text) s'' := by
  unfold Goes at next ⊢
  rw [List.foldlM_cons, first]
  exact next

theorem Goes.nil (s : State) : Goes s [] s := rfl

/-! ### Strings -/

/-- The text is part of a string: inside one, the machine takes it as it is. -/
def Passes (text : Bytes) : Prop :=
  ∀ stack members t,
    Goes ⟨stack, .string members t⟩ text ⟨stack, .string members (text.reverse ++ t)⟩

theorem Passes.nil : Passes [] := fun _ _ _ => Goes.nil _

/-- Texts that can stand inside a string can stand there one after another. -/
theorem Passes.append {text text' : Bytes} (first : Passes text) (next : Passes text') :
    Passes (text ++ text') := by
  intro stack members t
  rw [List.reverse_append, List.append_assoc]
  exact (first stack members t).append (next stack members _)

/-- A byte that is no quotation mark, no backslash and no control character stands for itself. -/
theorem passes_plain {b : UInt8} (mark : b ≠ 34) (backslash : b ≠ 92) (control : ¬ b < 32) :
    Passes [b] := by
  intro stack members t
  refine Goes.cons ⟨stack, .string members (b :: t)⟩ ?_ (Goes.nil _)
  simp only [step, mark, backslash, control, ↓reduceIte]

/-- The eight escapes of two characters leave the machine inside the string. -/
theorem passes_escape {b : UInt8} (letter : b ∈ [98, 102, 110, 114, 116, 92, 47, 34]) :
    Passes [92, b] := by
  intro stack members t
  have unicode : b ≠ 117 := by
    rintro rfl
    exact absurd letter (by decide)
  refine Goes.cons ⟨stack, .escape members (92 :: t)⟩ rfl ?_
  refine Goes.cons ⟨stack, .string members (b :: 92 :: t)⟩ ?_ (Goes.nil _)
  simp only [step, unicode, letter, ↓reduceIte]

/-- So does an escape with four hexadecimal digits.  The reader does not look at which code unit
they name; that is for `unquote`. -/
theorem passes_unicode {a b c d : UInt8} (first : (hexDigit a).isSome = true)
    (second : (hexDigit b).isSome = true) (third : (hexDigit c).isSome = true)
    (fourth : (hexDigit d).isSome = true) : Passes [92, 117, a, b, c, d] := by
  intro stack members t
  refine Goes.cons ⟨stack, .escape members (92 :: t)⟩ rfl ?_
  refine Goes.cons ⟨stack, .hex members (117 :: 92 :: t) 4⟩ rfl ?_
  refine Goes.cons ⟨stack, .hex members (a :: 117 :: 92 :: t) 3⟩ (if_pos first) ?_
  refine Goes.cons ⟨stack, .hex members (b :: a :: 117 :: 92 :: t) 2⟩ (if_pos second) ?_
  refine Goes.cons ⟨stack, .hex members (c :: b :: a :: 117 :: 92 :: t) 1⟩ (if_pos third) ?_
  exact Goes.cons _ (if_pos fourth) (Goes.nil _)

/-- Bytes beyond ASCII are not looked at one by one while a string is read, whether or not they are
well formed. -/
theorem passes_high {text : Bytes} (high : ∀ b ∈ text, 0x80 ≤ b) : Passes text := by
  induction text with
  | nil => exact Passes.nil
  | cons b text ih =>
      have own : 0x80 ≤ b := high b List.mem_cons_self
      have apart : ∀ c : UInt8, c < 0x80 → b ≠ c := fun c low same =>
        absurd low (UInt8.not_lt.mpr (same ▸ own))
      have control : ¬ b < 32 := UInt8.not_lt.mpr (UInt8.le_trans (by decide) own)
      exact (passes_plain (apart 34 (by decide)) (apart 92 (by decide)) control).append
        (ih fun c later => high c (List.mem_cons_of_mem _ later))

theorem passes_quoteByte (b : UInt8) : Passes (quoteByte b) := by
  unfold quoteByte
  split_ifs with mark h8 h12 h10 h13 h9 control
  · refine passes_escape ?_
    rcases mark with rfl | rfl
    · decide
    · decide
  · exact passes_escape (by decide)
  · exact passes_escape (by decide)
  · exact passes_escape (by decide)
  · exact passes_escape (by decide)
  · exact passes_escape (by decide)
  · have high := hexDigit_hexChar (b.toNat / 16) (by have := b.toNat_lt; omega)
    have low := hexDigit_hexChar (b.toNat % 16) (Nat.mod_lt _ (by decide))
    exact passes_unicode (by decide) (by decide) (Option.isSome_of_eq_some high)
      (Option.isSome_of_eq_some low)
  · exact passes_plain (fun same => mark (Or.inr same)) (fun same => mark (Or.inl same))
      (fun below => control (Or.inl below))

/-- What is printed between the quotation marks never ends the string early and is never an error.
-/
theorem passes_quoteText (s : Bytes) : Passes (quoteText 0 0 s) := by
  induction s using rune_induction with
  | nil => exact Passes.nil
  | ascii b rest low ih =>
      rw [quoteText_ascii low]
      exact (passes_quoteByte b).append ih
  | invalid b rest high invalid ih =>
      rw [quoteText_invalid high invalid]
      exact Passes.append (passes_unicode (by decide) (by decide) (by decide) (by decide)) ih
  | multibyte b tail rest high sequence ih =>
      rcases quoteText_multibyte high sequence rest with ⟨_, _, text⟩ | ⟨_, _, text⟩ | text
      · rw [text]
        exact Passes.append (passes_unicode (by decide) (by decide) (by decide) (by decide)) ih
      · rw [text]
        exact Passes.append (passes_unicode (by decide) (by decide) (by decide) (by decide)) ih
      · rw [text]
        have copied : Passes (b :: tail) := by
          refine passes_high (List.forall_mem_cons.mpr ⟨UInt8.not_lt.mp high, fun c member => ?_⟩)
          exact (of_decide_eq_true (sequence.tails c member)).1
        exact copied.append ih

/-! ### Numbers -/

/-- The bytes that can follow a value: comma, closing brackets, and the end of the input. -/
def separators : Bytes := [44, 93, 125, 32]

theorem forall_separators {P : UInt8 → Prop} (comma : P 44) (bracket : P 93) (brace : P 125)
    (space : P 32) : ∀ b ∈ separators, P b := by
  simp only [separators, List.forall_mem_cons]
  exact ⟨comma, bracket, brace, space, nofun⟩

/-- The text is read as a number, which ends only at what follows. -/
def IsNumber (literal : Bytes) : Prop :=
  ∃ state, (∀ b ∈ separators, numberStep state b = .ok none) ∧
    ∀ stack orEnd, Goes ⟨stack, .value orEnd⟩ literal ⟨stack, .number literal.reverse state⟩

theorem step_value {b : UInt8} (space : isSpace b = false) (bracket : b ≠ 93) (stack : List Frame)
    (orEnd : Bool) : step ⟨stack, .value orEnd⟩ b = beginValue stack b := by
  simp only [step, space, bracket, Bool.false_eq_true, ↓reduceIte, and_false]

/-- Digits of a positive number, from where its first one makes an integer. -/
theorem goes_digits {s : State} {stack : List Frame} {t : Bytes}
    (first : ∀ b : UInt8, 49 ≤ b ∧ b ≤ 57 → step s b = .ok ⟨stack, .number (b :: t) .integer⟩)
    {n : Nat} (positive : 0 < n) :
    Goes s (Decimal.digits n) ⟨stack, .number ((Decimal.digits n).reverse ++ t) .integer⟩ := by
  induction n using Decimal.digit_induction with
  | one n small =>
      have digit := Decimal.toNat_digit small
      rw [Decimal.digits_of_lt small]
      refine Goes.cons _ (first _ ?_) (Goes.nil _)
      rw [UInt8.le_iff_toNat_le, UInt8.le_iff_toNat_le, digit]
      exact ⟨Nat.add_le_add_left positive 48, Nat.add_le_add_left (Nat.le_of_lt_succ small) 48⟩
  | more n large ih =>
      have digit := Decimal.toNat_digit (Nat.mod_lt n (show 0 < 10 by decide))
      have last : isDigit (48 + n % 10).toUInt8 = true := by
        refine decide_eq_true ?_
        rw [UInt8.le_iff_toNat_le, UInt8.le_iff_toNat_le, digit]
        exact ⟨Nat.le_add_right 48 _, Nat.add_le_add_left
          (Nat.le_of_lt_succ (Nat.mod_lt n (by decide))) 48⟩
      rw [Decimal.digits_of_ge large, List.reverse_append]
      refine (ih (by omega)).append (Goes.cons _ ?_ (Goes.nil _))
      simp only [step, numberStep, last, ↓reduceIte]
      rfl

/-- The numeral of an integer is a number in the grammar of JSON: no plus sign and no zero in front.
-/
theorem isNumber_numeral (n : Int) : IsNumber (Decimal.numeral n) := by
  have digit : ∀ b : UInt8, 49 ≤ b ∧ b ≤ 57 → b ≠ 48 ∧ isDigit b = true := by
    intro b range
    refine ⟨?_, decide_eq_true ⟨UInt8.le_trans (by decide) range.1, range.2⟩⟩
    rintro rfl
    exact absurd range.1 (by decide)
  cases n with
  | ofNat n =>
      cases n with
      | zero =>
          refine ⟨.zero, forall_separators rfl rfl rfl rfl, fun stack orEnd => ?_⟩
          refine Goes.cons _ ?_ (Goes.nil _)
          exact step_value (by decide) (by decide) stack orEnd
      | succ n =>
          refine ⟨.integer, forall_separators rfl rfl rfl rfl, fun stack orEnd => ?_⟩
          have first : ∀ b : UInt8, 49 ≤ b ∧ b ≤ 57 →
              step ⟨stack, .value orEnd⟩ b = .ok ⟨stack, .number [b] .integer⟩ := by
            intro b range
            have apart : ∀ c : UInt8, 57 < c → b ≠ c := fun c above same =>
              absurd (same ▸ range.2) (UInt8.not_le.mpr above)
            have below : ∀ c : UInt8, c < 49 → b ≠ c := fun c under same =>
              absurd (same ▸ range.1) (UInt8.not_le.mpr under)
            have space : isSpace b = false := by
              simp only [isSpace, below 32 (by decide), below 9 (by decide), below 10 (by decide),
                below 13 (by decide), or_self, decide_false]
            rw [step_value space (apart 93 (by decide))]
            simp only [beginValue, apart 123 (by decide), apart 91 (by decide),
              below 34 (by decide), below 45 (by decide), below 48 (by decide), (digit b range).2,
              ↓reduceIte]
          have goes := goes_digits first (Nat.succ_pos n)
          rw [List.append_nil] at goes
          exact goes
  | negSucc n =>
      refine ⟨.integer, forall_separators rfl rfl rfl rfl, fun stack orEnd => ?_⟩
      refine Goes.cons ⟨stack, .number [45] .minus⟩ ?_ ?_
      · exact step_value (by decide) (by decide) stack orEnd
      · rw [Decimal.numeral, List.reverse_cons]
        refine goes_digits (fun b range => ?_) (Nat.succ_pos n)
        simp only [step, numberStep, (digit b range).1, (digit b range).2, ↓reduceIte]

/-! ### Values -/

/-- **Reading a text.**  Where a value is expected, the machine reads the text and then goes on as
it does with the value delivered; at most `depth` arrays and objects are open in it. -/
def Reads (depth : Nat) (text : Bytes) (v : Value) : Prop :=
  ∀ stack orEnd, stack.length + depth ≤ maxNestingDepth →
    ∃ s, Goes ⟨stack, .value orEnd⟩ text s ∧
      ∀ b ∈ separators, step s b = afterValue (deliver stack v) b

/-- Once a value is delivered, the machine takes the next byte as one after a value, at every depth.
-/
theorem step_deliver (stack : List Frame) (v : Value) (b : UInt8) :
    step (deliver stack v) b = afterValue (deliver stack v) b := by
  cases stack with
  | nil => rfl
  | cons frame stack =>
      cases frame with
      | array items => rfl
      | object members key => rfl

/-- A text that leads to the delivery of a value is read as this value: that it is followed by a
separator is no matter to the machine. -/
theorem reads_of_deliver {depth : Nat} {text : Bytes} {v : Value}
    (goes : ∀ stack orEnd, stack.length + depth ≤ maxNestingDepth →
      Goes ⟨stack, .value orEnd⟩ text (deliver stack v)) : Reads depth text v :=
  fun stack orEnd bound => ⟨_, goes stack orEnd bound, fun b _ => step_deliver stack v b⟩

/-- A number is only known to have ended by what follows it, so reading one goes on to the
separator. -/
theorem reads_number {literal : Bytes} (number : IsNumber literal) (depth : Nat) :
    Reads depth literal (.number literal) := by
  obtain ⟨state, ends, goes⟩ := number
  intro stack orEnd _
  refine ⟨_, goes stack orEnd, fun b separator => ?_⟩
  simp only [step, ends b separator, List.reverse_reverse]

/-- A byte that the machine skips where it stands does not matter. -/
theorem goes_gap {s : State} {gap : Bytes} (skips : ∀ b ∈ gap, step s b = .ok s) :
    Goes s gap s := by
  induction gap with
  | nil => exact Goes.nil s
  | cons b gap ih =>
      refine Goes.cons s (skips b List.mem_cons_self) ?_
      exact ih fun c later => skips c (List.mem_cons_of_mem _ later)

/-- White space before a value is passed over. -/
theorem goes_gap_value {gap : Bytes} (spaces : ∀ b ∈ gap, isSpace b = true) (stack : List Frame)
    (orEnd : Bool) : Goes ⟨stack, .value orEnd⟩ gap ⟨stack, .value orEnd⟩ :=
  goes_gap fun b member => if_pos (spaces b member)

/-- White space before a key is passed over, too. -/
theorem goes_gap_key {gap : Bytes} (spaces : ∀ b ∈ gap, isSpace b = true) (stack : List Frame)
    (members : List (Bytes × Value)) (orEnd : Bool) :
    Goes ⟨stack, .key members orEnd⟩ gap ⟨stack, .key members orEnd⟩ :=
  goes_gap fun b member => if_pos (spaces b member)

/-- The text of a string: the machine reads it as a key or as a value. -/
def Quotes (text s : Bytes) : Prop :=
  ∃ inner, text = 34 :: inner ++ [34] ∧ Passes inner ∧ unquote 0 0 inner = s

/-- A printed string is read as the string with each ill-formed byte replaced, in whatever place it
stands. -/
theorem quotes_stringText (s : Bytes) : Quotes (stringText s) (coerce s) :=
  ⟨quoteText 0 0 s, rfl, passes_quoteText s, unquote_quoteText s⟩

/-- A string literal from its first quotation mark to the last. -/
theorem goes_quoted {inner : Bytes} (passes : Passes inner) (stack : List Frame)
    (members : Option (List (Bytes × Value))) {s' : State}
    (closed : step ⟨stack, .string members inner.reverse⟩ 34 = .ok s') :
    Goes ⟨stack, .string members []⟩ (inner ++ [34]) s' := by
  have inside := passes stack members []
  rw [List.append_nil] at inside
  exact inside.append (Goes.cons _ closed (Goes.nil _))

/-- A text in quotation marks, as a value. -/
theorem Quotes.reads {text s : Bytes} (quotes : Quotes text s) (depth : Nat) :
    Reads depth text (.string s) := by
  obtain ⟨inner, rfl, passes, rfl⟩ := quotes
  refine reads_of_deliver fun stack orEnd _ => ?_
  refine Goes.cons ⟨stack, .string none []⟩ (step_value (by decide) (by decide) stack orEnd) ?_
  refine goes_quoted passes stack none ?_
  simp only [step, ↓reduceIte, List.reverse_reverse]

/-- The same text, as the key of a member. -/
theorem Quotes.goes {text s : Bytes} (quotes : Quotes text s) (stack : List Frame)
    (members : List (Bytes × Value)) (orEnd : Bool) :
    Goes ⟨stack, .key members orEnd⟩ text ⟨stack, .colon members s⟩ := by
  obtain ⟨inner, rfl, passes, rfl⟩ := quotes
  refine Goes.cons ⟨stack, .string (some members) []⟩ ?_ ?_
  · cases orEnd with
    | false => rfl
    | true => rfl
  · refine goes_quoted passes stack (some members) ?_
    simp only [step, ↓reduceIte, List.reverse_reverse]

section

-- `gap` is what stands after each comma and each colon
variable {depth : Nat} {α : Type} {gap : Bytes} {text : α → Bytes} {value : α → Value}

/-- Induction on the items; the state is after the opening bracket or a comma. -/
theorem goes_items (spaces : ∀ b ∈ gap, isSpace b = true) {items : List α}
    (each : ∀ v ∈ items, Reads depth (text v) (value v)) (nonempty : items ≠ [])
    {stack : List Frame} (bound : stack.length + 1 + depth ≤ maxNestingDepth) (earlier : List Value)
    (orEnd : Bool) :
    Goes ⟨.array earlier :: stack, .value orEnd⟩ ((44 :: gap).intercalate (items.map text) ++ [93])
      (deliver stack (.array (earlier.reverse ++ items.map value))) := by
  induction items generalizing earlier orEnd with
  | nil => exact absurd rfl nonempty
  | cons v items ih =>
      obtain ⟨s, goes, ends⟩ := each v List.mem_cons_self (.array earlier :: stack) orEnd bound
      cases items with
      | nil =>
          rw [List.map_singleton, List.map_singleton, List.intercalate_singleton]
          refine goes.append (Goes.cons _ ((ends 93 (by decide)).trans ?_) (Goes.nil _))
          rw [← List.reverse_cons]
          rfl
      | cons w items =>
          have rest := ih (fun w later => each w (List.mem_cons_of_mem _ later))
            (List.cons_ne_nil w items) (value v :: earlier) false
          rw [List.reverse_cons, List.append_assoc] at rest
          rw [List.map_cons, List.map_cons, List.intercalate_cons_cons, List.append_assoc,
            List.append_assoc]
          refine goes.append (Goes.cons _ (ends 44 (by decide)) ?_)
          exact (goes_gap_value spaces _ false).append rest

/-- An array is read item by item.  The induction is on the items, with those already read on the
stack; `gap` is the white space that some printers write behind a comma. -/
theorem reads_array (gap : Bytes) (spaces : ∀ b ∈ gap, isSpace b = true) {items : List α}
    (each : ∀ v ∈ items, Reads depth (text v) (value v)) :
    Reads (depth + 1) (91 :: (44 :: gap).intercalate (items.map text) ++ [93])
      (.array (items.map value)) := by
  refine reads_of_deliver fun stack orEnd bound => ?_
  have opened : step ⟨stack, .value orEnd⟩ 91 = .ok ⟨.array [] :: stack, .value true⟩ := by
    have room : ¬ stack.length ≥ maxNestingDepth := by omega
    rw [step_value (by decide) (by decide)]
    exact if_neg room
  refine Goes.cons _ opened ?_
  by_cases empty : items = []
  · subst empty
    exact Goes.cons _ rfl (Goes.nil _)
  · exact goes_items spaces each empty (by omega) [] true

variable {label key : α → Bytes}

/-- Induction on the members, as for items; a member is its key, a colon and its value. -/
theorem goes_members (spaces : ∀ b ∈ gap, isSpace b = true) {members : List α}
    (names : ∀ m ∈ members, Quotes (label m) (key m))
    (each : ∀ m ∈ members, Reads depth (text m) (value m))
    (nonempty : members ≠ []) {stack : List Frame}
    (bound : stack.length + 1 + depth ≤ maxNestingDepth) (earlier : List (Bytes × Value))
    (orEnd : Bool) :
    Goes ⟨stack, .key earlier orEnd⟩
      ((44 :: gap).intercalate (members.map fun m => label m ++ 58 :: (gap ++ text m)) ++ [125])
      (deliver stack (.object (earlier.reverse ++ members.map fun m => (key m, value m)))) := by
  induction members generalizing earlier orEnd with
  | nil => exact absurd rfl nonempty
  | cons m members ih =>
      obtain ⟨s, goes, ends⟩ := each m List.mem_cons_self (.object earlier (key m) :: stack)
        false bound
      have member : Goes ⟨stack, .key earlier orEnd⟩ (label m ++ 58 :: (gap ++ text m)) s := by
        refine ((names m List.mem_cons_self).goes stack earlier orEnd).append ?_
        exact Goes.cons _ rfl ((goes_gap_value spaces _ false).append goes)
      cases members with
      | nil =>
          rw [List.map_singleton, List.map_singleton, List.intercalate_singleton]
          refine member.append (Goes.cons _ ((ends 125 (by decide)).trans ?_) (Goes.nil _))
          rw [← List.reverse_cons]
          rfl
      | cons m' members =>
          have rest := ih (fun m' later => names m' (List.mem_cons_of_mem _ later))
            (fun m' later => each m' (List.mem_cons_of_mem _ later))
            (List.cons_ne_nil m' members) ((key m, value m) :: earlier) false
          rw [List.reverse_cons, List.append_assoc] at rest
          rw [List.map_cons, List.map_cons, List.intercalate_cons_cons, List.append_assoc,
            List.append_assoc]
          refine member.append (Goes.cons _ (ends 44 (by decide)) ?_)
          exact (goes_gap_key spaces _ _ false).append rest

/-- An object is read member by member, the keys as strings and the values as values, with the same
white space behind the commas and the colons. -/
theorem reads_object (gap : Bytes) (spaces : ∀ b ∈ gap, isSpace b = true) {members : List α}
    (names : ∀ m ∈ members, Quotes (label m) (key m))
    (each : ∀ m ∈ members, Reads depth (text m) (value m)) :
    Reads (depth + 1)
      (123 :: (44 :: gap).intercalate (members.map fun m => label m ++ 58 :: (gap ++ text m)) ++
        [125])
      (.object (members.map fun m => (key m, value m))) := by
  refine reads_of_deliver fun stack orEnd bound => ?_
  have opened : step ⟨stack, .value orEnd⟩ 123 = .ok ⟨stack, .key [] true⟩ := by
    have room : ¬ stack.length ≥ maxNestingDepth := by omega
    rw [step_value (by decide) (by decide)]
    exact if_neg room
  refine Goes.cons _ opened ?_
  by_cases empty : members = []
  · subst empty
    exact Goes.cons _ rfl (Goes.nil _)
  · exact goes_members spaces names each empty (by omega) [] true

end

theorem reads_null (depth : Nat) : Reads depth (ascii "null") .null := by
  refine reads_of_deliver fun stack orEnd _ => ?_
  exact Goes.cons _ (step_value (by decide) (by decide) stack orEnd) rfl

theorem reads_bool (depth : Nat) (b : Bool) :
    Reads depth (if b then ascii "true" else ascii "false") (.bool b) := by
  refine reads_of_deliver fun stack orEnd _ => ?_
  cases b with
  | false => exact Goes.cons _ (step_value (by decide) (by decide) stack orEnd) rfl
  | true => exact Goes.cons _ (step_value (by decide) (by decide) stack orEnd) rfl

/-- At the top level nothing encloses the value, and the text may be nested as deep as the reader
allows. -/
theorem parse_of_reads {depth : Nat} {text : Bytes} {v : Value} (reads : Reads depth text v)
    (bound : depth ≤ maxNestingDepth) : parse text = .ok v := by
  obtain ⟨s, goes, ends⟩ := reads [] false (by rw [List.length_nil]; omega)
  have ended : step s 32 = .ok ⟨[], .done v⟩ := ends 32 (by decide)
  have finished : finish s = .ok v := by
    unfold finish
    cases mode : s.mode with
    | done w =>
        have same : step s 32 = .ok s := by
          simp only [step, mode]
          rfl
        rw [same] at ended
        rw [Except.ok.inj ended] at mode
        exact congrArg Except.ok (Mode.done.inj mode).symm
    | _ => simp only [ended]
  unfold parse
  unfold Goes at goes
  rw [goes]
  exact finished

/-! ## Printing and reading -/

/-- The value has at most `depth` arrays and objects within each other, and its numbers are ones. -/
inductive Printable : (depth : Nat) → Value → Prop where
  | null (depth : Nat) : Printable depth .null
  | bool (depth : Nat) (b : Bool) : Printable depth (.bool b)
  | number (depth : Nat) {literal : Bytes} (number : IsNumber literal) :
      Printable depth (.number literal)
  | string (depth : Nat) (s : Bytes) : Printable depth (.string s)
  | array {depth : Nat} {items : List Value} (each : ∀ v ∈ items, Printable depth v) :
      Printable (depth + 1) (.array items)
  | object {depth : Nat} {members : List (Bytes × Value)}
      (each : ∀ m ∈ members, Printable depth m.2) : Printable (depth + 1) (.object members)

/-- The printer of Go goes over the items with a recursion of its own, which is a map. -/
theorem printItems_eq (items : List Value) : printItems items = items.map print := by
  induction items with
  | nil => rfl
  | cons v items ih => rw [printItems, ih, List.map_cons]

theorem printMembers_eq (members : List (Bytes × Value)) :
    printMembers members = members.map fun m => stringText m.1 ++ 58 :: print m.2 := by
  induction members with
  | nil => rfl
  | cons m members ih => rw [printMembers, ih, List.map_cons]

/-- Coercing a list of items is coercing each of them. -/
theorem coerceItems_eq (items : List Value) : coerceItems items = items.map coerceValue := by
  induction items with
  | nil => rfl
  | cons v items ih => rw [coerceItems, ih, List.map_cons]

theorem coerceMembers_eq (members : List (Bytes × Value)) :
    coerceMembers members = members.map fun m => (coerce m.1, coerceValue m.2) := by
  induction members with
  | nil => rfl
  | cons m members ih => rw [coerceMembers, ih, List.map_cons]

/-- Every printable value is read back as the value with its strings coerced, by induction over the
value; each level of nesting costs the machine one frame of its stack. -/
theorem reads_print {depth : Nat} {v : Value} (printable : Printable depth v) :
    Reads depth (print v) (coerceValue v) := by
  induction printable with
  | null depth => exact reads_null depth
  | bool depth b => exact reads_bool depth b
  | number depth number => exact reads_number number depth
  | string depth s => exact (quotes_stringText s).reads depth
  | array _ ih =>
      rw [print, printItems_eq, coerceValue, coerceItems_eq]
      exact reads_array [] nofun ih
  | object _ ih =>
      rw [print, printMembers_eq, coerceValue, coerceMembers_eq]
      exact reads_object [] nofun (fun m _ => quotes_stringText m.1) ih

/-- **Printing and reading.**  A printed value is read as itself with its strings coerced. -/
theorem parse_print {depth : Nat} {v : Value} (printable : Printable depth v)
    (bound : depth ≤ maxNestingDepth) : parse (print v) = .ok (coerceValue v) :=
  parse_of_reads (reads_print printable) bound

end Json
