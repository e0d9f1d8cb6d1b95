import Scrc.Lib.JsonPrint

/-!
# Strings of a JSON text

Whatever the bytes of a text are, its strings are read as valid UTF-8: what is not well formed, and
what is no pair of surrogates, has become U+FFFD.

* `wellFormed_iff_string`: the valid byte sequences are those of the strings of Lean.
* `wellFormed_unquote`: a string whose escapes are the ones of the grammar.
* `step_utf8`: the machine reads no other, whichever state it is in.
* `parse_utf8`: so all strings and keys of a value that is read are valid.
* `wellFormed_print`: and so is the text of a value that is printed.
-/

namespace Json

/-! ## Sequences -/

/-- A string that is well formed ends with a whole sequence, so what comes after it is judged on its
own. -/
theorem wellFormed_append {s : Bytes} (valid : wellFormed s = true) (rest : Bytes) :
    wellFormed (s ++ rest) = wellFormed rest := by
  induction s using rune_induction with
  | nil => rfl
  | ascii b s low ih =>
      rw [wellFormed_ascii low] at valid
      rw [List.cons_append, wellFormed_ascii low]
      exact ih valid
  | invalid b s high invalid ih =>
      rw [wellFormed_invalid invalid] at valid
      cases valid
  | multibyte b tail s high sequence ih =>
      rw [wellFormed_multibyte sequence] at valid
      rw [List.cons_append, List.append_assoc, wellFormed_multibyte sequence]
      exact ih valid

/-- A code point that is not a surrogate. -/
def IsScalar (r : Nat) : Prop := r < 0xD800 ∨ 0xE000 ≤ r ∧ r < 0x110000

theorem toNat_toUInt8 {n : Nat} (byte : n < 256) : n.toUInt8.toNat = n := by
  rw [Nat.toUInt8, UInt8.toNat_ofNat']
  exact Nat.mod_eq_of_lt byte

/-- The range of the tail bytes, over numbers, where `omega` can use it. -/
theorem isTail_iff {b : UInt8} : isTail b = true ↔ 0x80 ≤ b.toNat ∧ b.toNat ≤ 0xBF := by
  unfold isTail
  rw [decide_eq_true_eq, UInt8.le_iff_toNat_le, UInt8.le_iff_toNat_le]
  rfl

/-- The lengths of sequences by the numbers of their bytes. -/
theorem runeLength_two {b c : UInt8} (lead : 0xC2 ≤ b.toNat ∧ b.toNat ≤ 0xDF)
    (tail : isTail c = true) (rest : Bytes) : runeLength (b :: c :: rest) = 2 := by
  simp only [runeLength, List.getElem?_cons_zero, List.getElem?_cons_succ, Option.any_some, tail,
    UInt8.lt_iff_toNat_lt, UInt8.le_iff_toNat_le, ← UInt8.toNat_inj, UInt8.reduceToNat]
  split_ifs <;> omega

/-- Which sequences of three bytes are well formed: none that is longer than it need be, and none of
a surrogate. -/
theorem runeLength_three {b c d : UInt8} (lead : 0xE0 ≤ b.toNat ∧ b.toNat ≤ 0xEF)
    (second : isTail c = true) (third : isTail d = true)
    (shortest : b.toNat = 0xE0 → 0xA0 ≤ c.toNat) (surrogate : b.toNat = 0xED → c.toNat ≤ 0x9F)
    (rest : Bytes) : runeLength (b :: c :: d :: rest) = 3 := by
  have tail := isTail_iff.mp second
  simp only [runeLength, List.getElem?_cons_zero, List.getElem?_cons_succ, Option.any_some, second,
    third, UInt8.lt_iff_toNat_lt, UInt8.le_iff_toNat_le, ← UInt8.toNat_inj, UInt8.reduceToNat,
    decide_eq_true_eq, and_true]
  split_ifs <;> omega

/-- Which sequences of four bytes are well formed: none that is longer than it need be, and none
beyond the last code point. -/
theorem runeLength_four {b c d e : UInt8} (lead : 0xF0 ≤ b.toNat ∧ b.toNat ≤ 0xF4)
    (second : isTail c = true) (third : isTail d = true) (fourth : isTail e = true)
    (shortest : b.toNat = 0xF0 → 0x90 ≤ c.toNat) (last : b.toNat = 0xF4 → c.toNat ≤ 0x8F)
    (rest : Bytes) : runeLength (b :: c :: d :: e :: rest) = 4 := by
  have tail := isTail_iff.mp second
  simp only [runeLength, List.getElem?_cons_zero, List.getElem?_cons_succ, Option.any_some, second,
    third, fourth, UInt8.lt_iff_toNat_lt, UInt8.le_iff_toNat_le, ← UInt8.toNat_inj,
    UInt8.reduceToNat, decide_eq_true_eq, and_true]
  split_ifs <;> omega

/-- A sequence is a whole one by its length. -/
theorem wellFormed_of_runeLength {b : UInt8} {tail : Bytes}
    (whole : runeLength (b :: tail) = tail.length + 1) : wellFormed (b :: tail) = true := by
  have rest := wellFormedFrom_append tail []
  rw [List.append_nil] at rest
  unfold wellFormed
  simp only [wellFormedFrom, whole]
  exact rest

/-- The encoding of a scalar value is well formed, whatever its length. -/
theorem wellFormed_encodeRune {r : Nat} (scalar : IsScalar r) :
    wellFormed (encodeRune r) = true := by
  have range : r < 0x110000 := scalar.elim (fun low => by omega) (fun high => high.2)
  have tail : ∀ m, m < 64 → isTail (0x80 + m).toUInt8 = true := by
    intro m small
    rw [isTail_iff, toNat_toUInt8 (by omega)]
    omega
  have last := tail (r % 64) (by omega)
  have middle := tail (r / 64 % 64) (by omega)
  have high := tail (r / 4096 % 64) (by omega)
  unfold IsScalar at scalar
  unfold encodeRune
  split_ifs with one two three
  · apply wellFormed_of_runeLength
    refine runeLength_ascii ?_ []
    rw [UInt8.lt_iff_toNat_lt, toNat_toUInt8 (by omega)]
    exact one
  · apply wellFormed_of_runeLength
    refine runeLength_two ?_ last []
    rw [toNat_toUInt8 (by omega)]
    omega
  · apply wellFormed_of_runeLength
    refine runeLength_three ?_ middle last ?_ ?_ []
    · rw [toNat_toUInt8 (by omega)]
      omega
    · rw [toNat_toUInt8 (by omega), toNat_toUInt8 (by omega)]
      omega
    · rw [toNat_toUInt8 (by omega), toNat_toUInt8 (by omega)]
      omega
  · apply wellFormed_of_runeLength
    refine runeLength_four ?_ high middle last ?_ ?_ []
    · rw [toNat_toUInt8 (by omega)]
      omega
    · rw [toNat_toUInt8 (by omega), toNat_toUInt8 (by omega)]
      omega
    · rw [toNat_toUInt8 (by omega), toNat_toUInt8 (by omega)]
      omega

/-! ## Strings of Lean -/

theorem toNat_lt (c : Char) : c.toNat < 0x110000 := by
  change c.val.toNat < 0x110000
  exact c.valid.elim (fun low => by omega) (fun high => high.2)

/-- The encoder of Lean and the one here are the same on the characters of Lean. -/
theorem utf8EncodeChar_eq (c : Char) : String.utf8EncodeChar c = encodeRune c.toNat := by
  have range : c.val.toNat < 0x110000 := toNat_lt c
  have byte : ∀ {a b : Nat}, a = b → UInt8.ofNat a = b.toUInt8 := fun same => by
    rw [same]
  change _ = encodeRune c.val.toNat
  unfold String.utf8EncodeChar encodeRune
  simp only []
  generalize c.val.toNat = r at range
  by_cases one : r < 0x80
  · rw [if_pos one, if_pos (Nat.le_of_lt_succ one)]
  · rw [if_neg one, if_neg (by omega)]
    by_cases two : r < 0x800
    · rw [if_pos two, if_pos (Nat.le_of_lt_succ two)]
      rw [byte (b := 0xC0 + r / 64) (by omega), byte (b := 0x80 + r % 64) (by omega)]
    · rw [if_neg two, if_neg (by omega)]
      by_cases three : r < 0x10000
      · rw [if_pos three, if_pos (Nat.le_of_lt_succ three)]
        rw [byte (b := 0xE0 + r / 4096) (by omega), byte (b := 0x80 + r / 64 % 64) (by omega),
          byte (b := 0x80 + r % 64) (by omega)]
      · rw [if_neg three, if_neg (by omega)]
        rw [byte (b := 0xF0 + r / 262144) (by omega), byte (b := 0x80 + r / 4096 % 64) (by omega),
          byte (b := 0x80 + r / 64 % 64) (by omega), byte (b := 0x80 + r % 64) (by omega)]

/-- The bytes of a string of Lean are the encodings of its characters, one after another. -/
theorem utf8_eq (s : String) :
    s.toUTF8.data.toList = s.toList.flatMap fun c => encodeRune c.toNat := by
  have bytes : s.toUTF8.data.toList = s.toList.flatMap String.utf8EncodeChar := by
    rw [String.toUTF8_eq_toByteArray, ← String.ofList_toList (s := s), String.toByteArray_ofList,
      String.toList_ofList]
    unfold List.utf8Encode
    rw [List.data_toByteArray, List.toList_toArray]
  rw [bytes, funext utf8EncodeChar_eq]

/-- Encodings one after another are well formed, by induction over the characters. -/
theorem wellFormed_flatMap {cs : List Char} :
    wellFormed (cs.flatMap fun c => encodeRune c.toNat) = true := by
  induction cs with
  | nil => rfl
  | cons c cs ih =>
      have scalar : IsScalar c.toNat := c.valid.imp_right fun high => high
      rw [List.flatMap_cons, wellFormed_append (wellFormed_encodeRune scalar)]
      exact ih

/-- No sequence has more than four bytes. -/
theorem runeLength_le (s : Bytes) : runeLength s ≤ 4 := by
  cases s with
  | nil => exact Nat.zero_le 4
  | cons b rest =>
      simp only [runeLength]
      split_ifs
      all_goals omega

/-- What a well-formed sequence of two bytes says about them; the converse of how it is recognised.
-/
theorem of_runeLength_two {b c : UInt8} (high : ¬ b < 0x80) (length : runeLength [b, c] = 2) :
    (0xC2 ≤ b.toNat ∧ b.toNat ≤ 0xDF) ∧ 0x80 ≤ c.toNat ∧ c.toNat ≤ 0xBF := by
  simp only [runeLength, high, List.getElem?_cons_zero, List.getElem?_cons_succ, List.getElem?_nil,
    Option.any_some, Option.any_none, ↓reduceIte, Bool.false_eq_true, and_false, isTail_iff,
    UInt8.le_iff_toNat_le, ← UInt8.toNat_inj, UInt8.reduceToNat] at length
  split_ifs at length
  omega

/-- What one of three bytes says, with the ranges that keep out overlong forms and surrogates. -/
theorem of_runeLength_three {b c d : UInt8} (high : ¬ b < 0x80)
    (length : runeLength [b, c, d] = 3) :
    (0xE0 ≤ b.toNat ∧ b.toNat ≤ 0xEF) ∧ (0x80 ≤ c.toNat ∧ c.toNat ≤ 0xBF) ∧
      (0x80 ≤ d.toNat ∧ d.toNat ≤ 0xBF) ∧ (b.toNat = 0xE0 → 0xA0 ≤ c.toNat) ∧
      (b.toNat = 0xED → c.toNat ≤ 0x9F) := by
  simp only [runeLength, high, List.getElem?_cons_zero, List.getElem?_cons_succ, List.getElem?_nil,
    Option.any_some, Option.any_none, ↓reduceIte, Bool.false_eq_true, and_false, isTail_iff,
    UInt8.le_iff_toNat_le, ← UInt8.toNat_inj, UInt8.reduceToNat, decide_eq_true_eq] at length
  split_ifs at length <;> omega

/-- What one of four bytes says, with the ranges that keep out overlong forms and what is beyond the
last code point. -/
theorem of_runeLength_four {b c d e : UInt8} (high : ¬ b < 0x80)
    (length : runeLength [b, c, d, e] = 4) :
    (0xF0 ≤ b.toNat ∧ b.toNat ≤ 0xF4) ∧ (0x80 ≤ c.toNat ∧ c.toNat ≤ 0xBF) ∧
      (0x80 ≤ d.toNat ∧ d.toNat ≤ 0xBF) ∧ (0x80 ≤ e.toNat ∧ e.toNat ≤ 0xBF) ∧
      (b.toNat = 0xF0 → 0x90 ≤ c.toNat) ∧ (b.toNat = 0xF4 → c.toNat ≤ 0x8F) := by
  simp only [runeLength, high, List.getElem?_cons_zero, List.getElem?_cons_succ,
    Option.any_some, ↓reduceIte, isTail_iff, UInt8.le_iff_toNat_le, ← UInt8.toNat_inj,
    UInt8.reduceToNat, decide_eq_true_eq] at length
  split_ifs at length <;> omega

theorem toUInt8_of_toNat {b : UInt8} {n : Nat} (same : n = b.toNat) : n.toUInt8 = b := by
  rw [same, Nat.toUInt8, UInt8.ofNat_toNat]

/-- The code point of a sequence. -/
theorem exists_rune {b : UInt8} {tail : Bytes} (high : ¬ b < 0x80) (sequence : Multibyte b tail) :
    ∃ r, IsScalar r ∧ encodeRune r = b :: tail := by
  have length := sequence.length []
  rw [List.append_nil] at length
  have most := runeLength_le (b :: tail)
  rcases tail with _ | ⟨c, _ | ⟨d, _ | ⟨e, _ | ⟨f, tail⟩⟩⟩⟩
  · simp only [runeLength, high, List.getElem?_nil, Option.any_none, ↓reduceIte,
      Bool.false_eq_true, and_false, ite_self] at length
    omega
  · obtain ⟨lead, second⟩ := of_runeLength_two high length
    refine ⟨(b.toNat - 0xC0) * 64 + (c.toNat - 0x80), Or.inl (by omega), ?_⟩
    unfold encodeRune
    rw [if_neg (by omega), if_pos (by omega), @toUInt8_of_toNat b _ (by omega),
      @toUInt8_of_toNat c _ (by omega)]
  · obtain ⟨lead, second, third, shortest, surrogate⟩ := of_runeLength_three high length
    refine ⟨(b.toNat - 0xE0) * 4096 + (c.toNat - 0x80) * 64 + (d.toNat - 0x80), ?_, ?_⟩
    · unfold IsScalar
      omega
    · unfold encodeRune
      rw [if_neg (by omega), if_neg (by omega), if_pos (by omega), @toUInt8_of_toNat b _ (by omega),
        @toUInt8_of_toNat c _ (by omega), @toUInt8_of_toNat d _ (by omega)]
  · obtain ⟨lead, second, third, fourth, shortest, last⟩ := of_runeLength_four high length
    refine ⟨(b.toNat - 0xF0) * 262144 + (c.toNat - 0x80) * 4096 + (d.toNat - 0x80) * 64 +
      (e.toNat - 0x80), ?_, ?_⟩
    · unfold IsScalar
      omega
    · unfold encodeRune
      rw [if_neg (by omega), if_neg (by omega), if_neg (by omega), @toUInt8_of_toNat b _ (by omega),
        @toUInt8_of_toNat c _ (by omega), @toUInt8_of_toNat d _ (by omega),
        @toUInt8_of_toNat e _ (by omega)]
  · rw [length] at most
    simp only [List.length_cons] at most
    omega

/-- **Strings of Lean.**  The valid byte sequences are those of strings. -/
theorem wellFormed_iff_string {s : Bytes} :
    wellFormed s = true ↔ ∃ t : String, t.toUTF8.data.toList = s := by
  constructor
  · intro valid
    suffices characters : ∃ cs : List Char, (cs.flatMap fun c => encodeRune c.toNat) = s by
      obtain ⟨cs, same⟩ := characters
      refine ⟨String.ofList cs, ?_⟩
      rw [utf8_eq, String.toList_ofList]
      exact same
    have character : ∀ r, IsScalar r → ∃ c : Char, c.toNat = r := by
      intro r scalar
      exact ⟨Char.ofNatAux r scalar, rfl⟩
    induction s using rune_induction with
    | nil => exact ⟨[], rfl⟩
    | ascii b rest low ih =>
        rw [wellFormed_ascii low] at valid
        obtain ⟨cs, same⟩ := ih valid
        obtain ⟨c, code⟩ := character b.toNat (Or.inl (by
          have := UInt8.lt_iff_toNat_lt.mp low
          have limit : (0x80 : UInt8).toNat = 128 := rfl
          omega))
        exact ⟨c :: cs, by rw [List.flatMap_cons, code, encodeRune_ascii low, same]; rfl⟩
    | invalid b rest high invalid ih =>
        rw [wellFormed_invalid invalid] at valid
        cases valid
    | multibyte b tail rest high sequence ih =>
        rw [wellFormed_multibyte sequence] at valid
        obtain ⟨cs, same⟩ := ih valid
        obtain ⟨r, scalar, text⟩ := exists_rune high sequence
        obtain ⟨c, code⟩ := character r scalar
        exact ⟨c :: cs, by rw [List.flatMap_cons, code, text, same]; rfl⟩
  · rintro ⟨t, rfl⟩
    rw [utf8_eq]
    exact wellFormed_flatMap

/-! ## Escapes -/

/-- Where the text of a string stands: between two characters, behind a backslash, or before so many
digits of an escaped code unit. -/
inductive TextState where
  | plain
  | escape
  | hex (digits : Nat)

def textStep : TextState → UInt8 → Option TextState
  | .plain, b => some (if b = 92 then .escape else .plain)
  | .escape, b =>
      if b = 117 then some (.hex 4)
      else if b ∈ [98, 102, 110, 114, 116, 92, 47, 34] then some .plain
      else none
  | .hex digits, b =>
      if (hexDigit b).isSome then some (if digits ≤ 1 then .plain else .hex (digits - 1)) else none

/-- From one state to another over a text. -/
def Scans (state : TextState) (text : Bytes) (state' : TextState) : Prop :=
  text.foldlM textStep state = some state'

/-- The scan of a text takes its first byte, and goes on with the rest from where that leads. -/
theorem Scans.cons {state state' : TextState} {b : UInt8} {text : Bytes}
    (scans : Scans state (b :: text) state') :
    ∃ next, textStep state b = some next ∧ Scans next text state' := by
  unfold Scans at scans
  rw [List.foldlM_cons] at scans
  exact Option.bind_eq_some_iff.mp scans

/-- One more byte. -/
theorem Scans.snoc {state next : TextState} {text : Bytes} {b : UInt8}
    (scans : Scans .plain text.reverse state) (step : textStep state b = some next) :
    Scans .plain (b :: text).reverse next := by
  unfold Scans at scans ⊢
  rw [List.reverse_cons, List.foldlM_append, scans]
  exact (List.foldlM_cons ..).trans (congrArg (· >>= fun s => [].foldlM textStep s) step)

/-- A digit, unless the text ends before it. -/
theorem Scans.digit {digits : Nat} {text : Bytes} (scans : Scans (.hex digits) text .plain) :
    ∃ b n rest, text = b :: rest ∧ hexDigit b = some n ∧
      Scans (if digits ≤ 1 then .plain else .hex (digits - 1)) rest .plain := by
  cases text with
  | nil => cases scans
  | cons b rest =>
      obtain ⟨next, step, scans⟩ := scans.cons
      simp only [textStep] at step
      cases digit : hexDigit b with
      | none =>
          rw [digit] at step
          cases step
      | some n =>
          rw [digit] at step
          cases step
          exact ⟨b, n, rest, rfl, digit, scans⟩

/-- A hexadecimal digit is worth less than sixteen, so four of them make a code unit. -/
theorem hexDigit_lt {b : UInt8} {n : Nat} (digit : hexDigit b = some n) : n < 16 := by
  unfold hexDigit at digit
  simp only [UInt8.le_iff_toNat_le, UInt8.reduceToNat] at digit
  split_ifs at digit with decimal lower upper
  · have := Option.some.inj digit
    omega
  · have := Option.some.inj digit
    omega
  · have := Option.some.inj digit
    omega

/-- The four digits of a code unit. -/
theorem Scans.unit {text : Bytes} (scans : Scans (.hex 4) text .plain) :
    ∃ digits unit rest, text = digits ++ rest ∧ digits.length = 4 ∧ unit < 0x10000 ∧
      (∀ more, hex4 (digits ++ more) = some unit) ∧ Scans .plain rest .plain := by
  obtain ⟨a, i, text, rfl, first, scans⟩ := scans.digit
  obtain ⟨b, j, text, rfl, second, scans⟩ := scans.digit
  obtain ⟨c, k, text, rfl, third, scans⟩ := scans.digit
  obtain ⟨d, l, rest, rfl, fourth, scans⟩ := scans.digit
  have bounds := And.intro (hexDigit_lt first) (And.intro (hexDigit_lt second)
    (And.intro (hexDigit_lt third) (hexDigit_lt fourth)))
  refine ⟨[a, b, c, d], ((i * 16 + j) * 16 + k) * 16 + l, rest, rfl, rfl, by omega, fun more => ?_,
    scans⟩
  change hex4 (a :: b :: c :: d :: more) = _
  unfold hex4
  simp only [first, second, third, fourth]
  rfl

/-- What an escape stands for is valid, and behind it is the rest of the text. -/
theorem escape_valid {text : Bytes} (scans : Scans .escape text .plain) :
    ∃ skipped rest, text = skipped ++ rest ∧ (escape text).2 = skipped.length ∧ skipped ≠ [] ∧
      wellFormed (escape text).1 = true ∧ Scans .plain rest .plain := by
  cases text with
  | nil => cases scans
  | cons b text =>
      obtain ⟨next, step, scans⟩ := scans.cons
      simp only [textStep] at step
      split_ifs at step with unicode letter
      · subst unicode
        cases step
        obtain ⟨digits, unit, rest, rfl, length, small, value, scans⟩ := scans.unit
        have after : (digits ++ rest).drop 4 = rest := by rw [← length, List.drop_left]
        have five : (117 :: digits).length = 5 := congrArg Nat.succ length
        have one : ∀ s : Bytes, wellFormed s = true → escape (117 :: (digits ++ rest)) = (s, 5) →
            ∃ skipped rest', 117 :: (digits ++ rest) = skipped ++ rest' ∧
              (escape (117 :: (digits ++ rest))).2 = skipped.length ∧ skipped ≠ [] ∧
              wellFormed (escape (117 :: (digits ++ rest))).1 = true ∧
                Scans .plain rest' .plain := by
          intro s valid text
          rw [text]
          exact ⟨117 :: digits, rest, rfl, five.symm, List.cons_ne_nil _ _, valid, scans⟩
        by_cases scalar : unit < 0xD800 ∨ 0xE000 ≤ unit
        · refine one (encodeRune unit) (wellFormed_encodeRune ?_) ?_
          · exact scalar.imp_right fun high => ⟨high, by omega⟩
          · simp only [escape, value, if_pos scalar]
        · cases second : escapedUnit rest with
          | none =>
              refine one replacement (by decide) ?_
              simp only [escape, value, if_neg scalar, after, second]
          | some low =>
              by_cases pair : unit < 0xDC00 ∧ 0xDC00 ≤ low ∧ low < 0xE000
              · obtain ⟨text, rfl⟩ : ∃ text, rest = 92 :: 117 :: text := by
                  unfold escapedUnit at second
                  split at second
                  · exact ⟨_, rfl⟩
                  · cases second
                obtain ⟨_, step, scans⟩ := scans.cons
                cases step
                obtain ⟨_, step, scans⟩ := scans.cons
                cases step
                obtain ⟨digits', _, rest, rfl, length', -, -, scans⟩ := scans.unit
                obtain ⟨r, supplementary, text⟩ : ∃ r, IsScalar r ∧
                    escape (117 :: (digits ++ 92 :: 117 :: (digits' ++ rest))) =
                      (encodeRune r, 11) := by
                  refine ⟨(unit - 0xD800) * 0x400 + (low - 0xDC00) + 0x10000, ?_, ?_⟩
                  · unfold IsScalar
                    omega
                  · simp only [escape, value, if_neg scalar, after, second, if_pos pair]
                rw [text]
                refine ⟨117 :: (digits ++ 92 :: 117 :: digits'), rest, ?_, ?_, List.cons_ne_nil _ _,
                  wellFormed_encodeRune supplementary, scans⟩
                · simp only [List.cons_append, List.append_assoc]
                · simp only [List.length_cons, List.length_append, length, length']
              · refine one replacement (by decide) ?_
                simp only [escape, value, if_neg scalar, after, second, if_neg pair]
      · cases step
        refine ⟨[b], text, rfl, ?_, List.cons_ne_nil _ _, ?_, scans⟩
        · simp only [List.mem_cons, List.not_mem_nil, or_false] at letter
          rcases letter with rfl | rfl | rfl | rfl | rfl | rfl | rfl | rfl <;> rfl
        · simp only [List.mem_cons, List.not_mem_nil, or_false] at letter
          rcases letter with rfl | rfl | rfl | rfl | rfl | rfl | rfl | rfl <;> rfl

/-- A byte that is no backslash is passed over. -/
theorem Scans.behind {skipped rest : Bytes} (plain : ∀ b ∈ skipped, b ≠ 92)
    (scans : Scans .plain (skipped ++ rest) .plain) : Scans .plain rest .plain := by
  induction skipped with
  | nil => exact scans
  | cons b skipped ih =>
      obtain ⟨next, step, scans⟩ := Scans.cons scans
      have same : next = .plain := by
        simp only [textStep, plain b List.mem_cons_self, ↓reduceIte] at step
        exact (Option.some.inj step).symm
      rw [same] at scans
      exact ih (fun c later => plain c (List.mem_cons_of_mem b later)) scans

/-- **Strings.**  What stands between two quotation marks is read as valid UTF-8.  Induction on the
length, from one character or escape to the next. -/
theorem wellFormed_unquote {text : Bytes} (scans : Scans .plain text .plain) :
    wellFormed (unquote 0 0 text) = true := by
  generalize length : text.length = size
  induction size using Nat.strongRecOn generalizing text with
  | _ size ih =>
      cases text with
      | nil => rfl
      | cons b rest =>
          by_cases backslash : b = 92
          · subst backslash
            obtain ⟨_, step, scans⟩ := scans.cons
            cases step
            obtain ⟨skipped, rest, rfl, skip, nonempty, valid, scans⟩ := escape_valid scans
            rw [unquote_escape, skip, unquote_skip, wellFormed_append valid]
            have some_skipped := List.length_pos_iff.mpr nonempty
            rw [List.length_cons, List.length_append] at length
            exact ih rest.length (by omega) scans rfl
          · have plain : Scans .plain rest .plain := by
              refine @Scans.behind [b] rest ?_ scans
              exact List.forall_mem_singleton.mpr backslash
            have shorter : rest.length < size := length ▸ Nat.lt_succ_self _
            by_cases low : b < 0x80
            · have copied : unquote 0 0 (b :: rest) = b :: unquote 0 0 rest := by
                simp only [unquote, backslash, ↓reduceIte, runeLength_ascii low]
              rw [copied, wellFormed_ascii low]
              exact ih rest.length shorter plain rfl
            · cases runes : runeLength (b :: rest) with
              | zero =>
                  have replaced : unquote 0 0 (b :: rest) = replacement ++ unquote 0 0 rest := by
                    simp only [unquote, backslash, ↓reduceIte, runes]
                  rw [replaced, wellFormed_append (by decide)]
                  exact ih rest.length shorter plain rfl
              | succ n =>
                  obtain ⟨tail, rest, rfl, _, sequence⟩ := multibyte_of_runeLength low runes
                  rw [unquote_multibyte low sequence, wellFormed_multibyte sequence]
                  rw [List.length_append] at shorter
                  refine ih rest.length (by omega) (Scans.behind (fun c member => ?_) plain) rfl
                  rintro rfl
                  exact absurd (sequence.tails 92 member) (by decide)

/-! ## Values -/

/-- All strings and keys are valid UTF-8. -/
inductive Value.Utf8 : Value → Prop where
  | null : Utf8 .null
  | bool (b : Bool) : Utf8 (.bool b)
  | number (literal : Bytes) : Utf8 (.number literal)
  | string {s : Bytes} (valid : wellFormed s = true) : Utf8 (.string s)
  | array {items : List Value} (each : ∀ v ∈ items, Utf8 v) : Utf8 (.array items)
  | object {members : List (Bytes × Value)} (keys : ∀ m ∈ members, wellFormed m.1 = true)
      (each : ∀ m ∈ members, Utf8 m.2) : Utf8 (.object members)

/-- Members of an object that is not closed. -/
structure MembersUtf8 (members : List (Bytes × Value)) : Prop where
  keys : ∀ m ∈ members, wellFormed m.1 = true
  each : ∀ m ∈ members, m.2.Utf8

theorem MembersUtf8.nil : MembersUtf8 [] := ⟨nofun, nofun⟩

/-- A member is added with its key and its value both valid. -/
theorem MembersUtf8.cons {members : List (Bytes × Value)} {key : Bytes} {v : Value}
    (own : MembersUtf8 members) (valid : wellFormed key = true) (utf8 : v.Utf8) :
    MembersUtf8 ((key, v) :: members) :=
  ⟨List.forall_mem_cons.mpr ⟨valid, own.keys⟩, List.forall_mem_cons.mpr ⟨utf8, own.each⟩⟩

/-- The members are kept in reverse until the object is closed, which changes nothing about their
strings. -/
theorem MembersUtf8.object {members : List (Bytes × Value)} (own : MembersUtf8 members) :
    (Value.object members.reverse).Utf8 :=
  .object (fun m member => own.keys m (List.mem_reverse.mp member))
    (fun m member => own.each m (List.mem_reverse.mp member))

def Frame.Utf8 : Frame → Prop
  | .array items => ∀ v ∈ items, v.Utf8
  | .object members key => MembersUtf8 members ∧ wellFormed key = true

/-- The members in front of a string, and where its text stands. -/
def StringUtf8 (members : Option (List (Bytes × Value))) (text : Bytes) (state : TextState) : Prop :=
  (∀ own, members = some own → MembersUtf8 own) ∧ Scans .plain text.reverse state

def Mode.Utf8 : Mode → Prop
  | .value _ => True
  | .key members _ => MembersUtf8 members
  | .string members text => StringUtf8 members text .plain
  | .escape members text => StringUtf8 members text .escape
  | .hex members text digits => StringUtf8 members text (.hex digits)
  | .number _ _ => True
  | .word _ _ v => v.Utf8
  | .colon members name => MembersUtf8 members ∧ wellFormed name = true
  | .after => True
  | .done v => v.Utf8

structure State.Utf8 (s : State) : Prop where
  frames : ∀ frame ∈ s.stack, frame.Utf8
  mode : s.mode.Utf8

/-- A valid value goes into a valid frame, or is the result. -/
theorem deliver_utf8 {stack : List Frame} {v : Value} (frames : ∀ frame ∈ stack, frame.Utf8)
    (utf8 : v.Utf8) : (deliver stack v).Utf8 := by
  cases stack with
  | nil => exact ⟨nofun, utf8⟩
  | cons frame rest =>
      obtain ⟨own, others⟩ := List.forall_mem_cons.mp frames
      cases frame with
      | array items =>
          exact ⟨List.forall_mem_cons.mpr ⟨List.forall_mem_cons.mpr ⟨utf8, own⟩, others⟩, trivial⟩
      | object members key =>
          exact ⟨List.forall_mem_cons.mpr ⟨⟨own.1.cons own.2 utf8, rfl⟩, others⟩, trivial⟩

/-- The items of an array are kept in reverse, too. -/
theorem array_utf8 {items : List Value} (own : ∀ v ∈ items, v.Utf8) :
    (Value.array items.reverse).Utf8 := .array fun v member => own v (List.mem_reverse.mp member)

/-- No byte that begins a value brings a string along: a string is only begun. -/
theorem beginValue_utf8 {stack : List Frame} {b : UInt8} {s : State}
    (frames : ∀ frame ∈ stack, frame.Utf8) (step : beginValue stack b = .ok s) : s.Utf8 := by
  unfold beginValue at step
  split_ifs at step <;> cases step
  · exact ⟨frames, .nil⟩
  · exact ⟨List.forall_mem_cons.mpr ⟨nofun, frames⟩, trivial⟩
  · exact ⟨frames, nofun, rfl⟩
  · exact ⟨frames, trivial⟩
  · exact ⟨frames, trivial⟩
  · exact ⟨frames, trivial⟩
  · exact ⟨frames, .bool true⟩
  · exact ⟨frames, .bool false⟩
  · exact ⟨frames, .null⟩

/-- A separator keeps what was read, and a closing bracket or brace makes one valid value of it. -/
theorem afterValue_utf8 {s s' : State} {b : UInt8} (utf8 : s.Utf8)
    (step : afterValue s b = .ok s') : s'.Utf8 := by
  obtain ⟨stack, mode⟩ := s
  obtain ⟨frames, own⟩ := utf8
  unfold afterValue at step
  by_cases space : isSpace b = true
  · rw [if_pos space] at step
    cases step
    exact ⟨frames, own⟩
  · rw [if_neg space] at step
    cases stack with
    | nil => cases step
    | cons frame rest =>
        obtain ⟨inner, others⟩ := List.forall_mem_cons.mp frames
        cases frame with
        | array items =>
            simp only at step
            split_ifs at step <;> cases step
            · exact ⟨frames, trivial⟩
            · exact deliver_utf8 others (array_utf8 inner)
        | object members key =>
            simp only at step
            split_ifs at step <;> cases step
            · exact ⟨others, inner.1⟩
            · exact deliver_utf8 others inner.1.object

/-- **One byte.**  By what the machine expects. -/
theorem step_utf8 {s s' : State} {b : UInt8} (utf8 : s.Utf8) (stepped : step s b = .ok s') :
    s'.Utf8 := by
  obtain ⟨stack, mode⟩ := s
  obtain ⟨frames, own⟩ := utf8
  have same : State.Utf8 ⟨stack, mode⟩ := ⟨frames, own⟩
  unfold step at stepped
  cases mode with
  | value orEnd =>
      simp only at stepped
      split_ifs at stepped with space closing
      · cases stepped
        exact same
      · cases stack with
        | nil => cases stepped
        | cons frame rest =>
            cases frame with
            | array items =>
                cases stepped
                obtain ⟨inner, others⟩ := List.forall_mem_cons.mp frames
                exact deliver_utf8 others (array_utf8 inner)
            | object members key => cases stepped
      · exact beginValue_utf8 frames stepped
  | key members orEnd =>
      simp only at stepped
      split_ifs at stepped <;> cases stepped
      · exact same
      · exact deliver_utf8 frames own.object
      · exact ⟨frames, fun _ present => Option.some.inj present ▸ own, rfl⟩
  | string members text =>
      obtain ⟨earlier, scans⟩ := own
      simp only at stepped
      split_ifs at stepped with mark backslash control
      · have valid := wellFormed_unquote scans
        cases members with
        | none =>
            cases stepped
            exact deliver_utf8 frames (.string valid)
        | some members =>
            cases stepped
            exact ⟨frames, earlier members rfl, valid⟩
      · cases stepped
        exact ⟨frames, earlier, scans.snoc (congrArg some (if_pos backslash))⟩
      · cases stepped
        exact ⟨frames, earlier, scans.snoc (congrArg some (if_neg backslash))⟩
  | escape members text =>
      obtain ⟨earlier, scans⟩ := own
      simp only at stepped
      split_ifs at stepped with unicode letter <;> cases stepped
      · exact ⟨frames, earlier, scans.snoc (if_pos unicode)⟩
      · exact ⟨frames, earlier, scans.snoc ((if_neg unicode).trans (if_pos letter))⟩
  | hex members text digits =>
      obtain ⟨earlier, scans⟩ := own
      simp only at stepped
      split_ifs at stepped with digit last <;> cases stepped
      · refine ⟨frames, earlier, scans.snoc ((if_pos digit).trans ?_)⟩
        exact congrArg some (if_pos last)
      · refine ⟨frames, earlier, scans.snoc ((if_pos digit).trans ?_)⟩
        exact congrArg some (if_neg last)
  | number text state =>
      simp only at stepped
      split at stepped
      · cases stepped
      · cases stepped
        exact ⟨frames, trivial⟩
      · exact afterValue_utf8 (deliver_utf8 frames (.number _)) stepped
  | word name rest value =>
      simp only at stepped
      split at stepped
      · exact afterValue_utf8 (deliver_utf8 frames own) stepped
      · split_ifs at stepped
        cases stepped
        exact deliver_utf8 frames own
      · split_ifs at stepped
        cases stepped
        exact ⟨frames, own⟩
  | colon members key =>
      simp only at stepped
      split_ifs at stepped <;> cases stepped
      · exact same
      · exact ⟨List.forall_mem_cons.mpr ⟨own, frames⟩, trivial⟩
  | after => exact afterValue_utf8 same stepped
  | done value => exact afterValue_utf8 same stepped

/-- The run over a whole input, by induction from one step. -/
theorem foldlM_utf8 {s s' : State} {input : Bytes} (utf8 : s.Utf8)
    (run : input.foldlM step s = .ok s') : s'.Utf8 := by
  induction input generalizing s with
  | nil =>
      cases run
      exact utf8
  | cons b input ih =>
      rw [List.foldlM_cons] at run
      cases first : step s b with
      | error err =>
          rw [first] at run
          cases run
      | ok next =>
          rw [first] at run
          exact ih (step_utf8 utf8 first) run

/-- **Reading.**  The strings and keys of what is read are valid UTF-8, whatever the text. -/
theorem parse_utf8 {input : Bytes} {v : Value} (parsed : parse input = .ok v) : v.Utf8 := by
  unfold parse at parsed
  cases run : input.foldlM step ⟨[], .value false⟩ with
  | error err =>
      rw [run] at parsed
      cases parsed
  | ok s =>
      have start : State.Utf8 ⟨[], .value false⟩ := ⟨nofun, trivial⟩
      have utf8 : s.Utf8 := foldlM_utf8 start run
      rw [run] at parsed
      have ended : ∀ {s : State} {w : Value}, s.Utf8 → s.mode = .done w → w.Utf8 := by
        intro s w utf8 mode
        have own := utf8.mode
        rw [mode] at own
        exact own
      simp only [finish] at parsed
      split at parsed
      · cases parsed
        exact ended utf8 ‹_›
      · split at parsed
        · cases parsed
        · split at parsed
          · cases parsed
            exact ended (step_utf8 utf8 ‹_›) ‹_›
          · cases parsed

/-! ## Texts -/

/-- Two well-formed strings make one. -/
theorem wellFormed_of_append {s t : Bytes} (first : wellFormed s = true)
    (next : wellFormed t = true) : wellFormed (s ++ t) = true :=
  (wellFormed_append first t).trans next

/-- Every string of ASCII is well formed. -/
theorem wellFormed_of_ascii {s : Bytes} (low : ∀ b ∈ s, b < 0x80) : wellFormed s = true :=
  coerce_eq_iff.mp (coerce_of_ascii low)

/-- An escape is a text of ASCII. -/
theorem wellFormed_quoteByte {b : UInt8} (low : b < 0x80) : wellFormed (quoteByte b) = true := by
  have hex : ∀ n, n < 16 → hexChar n < 0x80 := by decide
  unfold quoteByte
  split_ifs with mark
  · exact (wellFormed_ascii (by decide) _).trans (wellFormed_ascii low [])
  · decide
  · decide
  · decide
  · decide
  · decide
  · refine wellFormed_of_append (by decide) ((wellFormed_ascii (hex _ ?_) _).trans
      (wellFormed_ascii (hex _ (Nat.mod_lt _ (by decide))) []))
    have := b.toNat_lt
    omega
  · exact wellFormed_ascii low []

/-- What is printed for a string is valid UTF-8, also when the string is not: such bytes are printed
as escapes. -/
theorem wellFormed_quoteText (s : Bytes) : wellFormed (quoteText 0 0 s) = true := by
  induction s using rune_induction with
  | nil => rfl
  | ascii b rest low ih =>
      rw [quoteText_ascii low]
      exact wellFormed_of_append (wellFormed_quoteByte low) ih
  | invalid b rest high invalid ih =>
      rw [quoteText_invalid high invalid]
      exact wellFormed_of_append (by decide) ih
  | multibyte b tail rest high sequence ih =>
      rcases quoteText_multibyte high sequence rest with ⟨_, _, text⟩ | ⟨_, _, text⟩ | text
      · rw [text]
        exact wellFormed_of_append (by decide) ih
      · rw [text]
        exact wellFormed_of_append (by decide) ih
      · rw [text, wellFormed_multibyte sequence]
        exact ih

theorem wellFormed_stringText (s : Bytes) : wellFormed (stringText s) = true :=
  @wellFormed_of_append (34 :: quoteText 0 0 s) _
    ((wellFormed_ascii (by decide) _).trans (wellFormed_quoteText s)) (by decide)

/-- Commas between texts are ASCII. -/
theorem wellFormed_commas {texts : List Bytes} (each : ∀ text ∈ texts, wellFormed text = true) :
    wellFormed (commas texts) = true := by
  unfold commas
  induction texts with
  | nil => rfl
  | cons text texts ih =>
      obtain ⟨own, others⟩ := List.forall_mem_cons.mp each
      cases texts with
      | nil =>
          rw [List.intercalate_singleton]
          exact own
      | cons next texts =>
          rw [List.intercalate_cons_cons]
          exact wellFormed_of_append (wellFormed_of_append own (by decide)) (ih others)

/-- The numbers are numerals of integers. -/
inductive Value.Integral : Value → Prop where
  | null : Integral .null
  | bool (b : Bool) : Integral (.bool b)
  | number (n : Int) : Integral (.number (Decimal.numeral n))
  | string (s : Bytes) : Integral (.string s)
  | array {items : List Value} (each : ∀ v ∈ items, Integral v) : Integral (.array items)
  | object {members : List (Bytes × Value)} (each : ∀ m ∈ members, Integral m.2) :
      Integral (.object members)

/-- A numeral is ASCII. -/
theorem wellFormed_numeral (n : Int) : wellFormed (Decimal.numeral n) = true := by
  have digits : ∀ m : Nat, wellFormed (Decimal.digits m) = true := fun m =>
    wellFormed_of_ascii fun _ member =>
      UInt8.lt_of_le_of_lt (Decimal.mem_digits member).2 (by decide)
  cases n with
  | ofNat m => exact digits m
  | negSucc m => exact (wellFormed_ascii (by decide) _).trans (digits (m + 1))

/-- **Printing.**  The text of a value with integers is valid UTF-8, whatever bytes its strings
consist of. -/
theorem wellFormed_print {v : Value} (integral : v.Integral) : wellFormed (print v) = true := by
  induction integral with
  | null => decide
  | bool b => cases b <;> decide
  | number n => exact wellFormed_numeral n
  | string s => exact wellFormed_stringText s
  | array each ih =>
      rw [print, printItems_eq]
      refine wellFormed_of_append ((wellFormed_ascii (by decide) _).trans ?_) (by decide)
      refine wellFormed_commas fun text member => ?_
      obtain ⟨v, inside, rfl⟩ := List.mem_map.mp member
      exact ih v inside
  | object each ih =>
      rw [print, printMembers_eq]
      refine wellFormed_of_append ((wellFormed_ascii (by decide) _).trans ?_) (by decide)
      refine wellFormed_commas fun text member => ?_
      obtain ⟨m, inside, rfl⟩ := List.mem_map.mp member
      refine wellFormed_of_append (wellFormed_stringText m.1) ?_
      exact (wellFormed_ascii (by decide) _).trans (ih m inside)

end Json
