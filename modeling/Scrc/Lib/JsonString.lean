import Scrc.Lib.Json

/-!
# Printing JSON strings

The text of a string as `json.Marshal` of Go writes it, with the characters of HTML escaped, and
what reading it back gives.

A string is written as UTF-8.  Bytes that are not part of a well-formed sequence do not survive:
each is written as an escaped U+FFFD.

* `rune_induction`: the sequences of a byte string, one at a time.
* `coerce_eq_iff`: what is well formed survives, and nothing else does.
* `unquote_quoteText`: a string between its quotation marks, read again.
-/

namespace Json

/-! ## UTF-8 -/

/-- The string with U+FFFD in place of each byte outside a well-formed sequence; `copy` bytes belong
to a sequence that was begun. -/
def coerceFrom : (copy : Nat) → Bytes → Bytes
  | _, [] => []
  | copy + 1, b :: rest => b :: coerceFrom copy rest
  | 0, b :: rest =>
      match runeLength (b :: rest) with
      | 0 => replacement ++ coerceFrom 0 rest
      | n + 1 => b :: coerceFrom n rest

def coerce (s : Bytes) : Bytes := coerceFrom 0 s

/-- All bytes belong to well-formed sequences; `copy` bytes to one that was begun. -/
def wellFormedFrom : (copy : Nat) → Bytes → Bool
  | _, [] => true
  | copy + 1, _ :: rest => wellFormedFrom copy rest
  | 0, b :: rest =>
      match runeLength (b :: rest) with
      | 0 => false
      | n + 1 => wellFormedFrom n rest

/-- Valid UTF-8. -/
def wellFormed (s : Bytes) : Bool := wellFormedFrom 0 s

/-! ## Strings -/

def hexChar (n : Nat) : UInt8 := (if n < 10 then 48 + n else 87 + n).toUInt8

/-- An ASCII character in a string: quotation mark, backslash, control characters and the characters
of HTML are escaped. -/
def quoteByte (b : UInt8) : Bytes :=
  if b = 92 ∨ b = 34 then [92, b]
  else if b = 8 then ascii "\\b"
  else if b = 12 then ascii "\\f"
  else if b = 10 then ascii "\\n"
  else if b = 13 then ascii "\\r"
  else if b = 9 then ascii "\\t"
  else if b < 32 ∨ b = 38 ∨ b = 60 ∨ b = 62 then
    ascii "\\u00" ++ [hexChar (b.toNat / 16), hexChar (b.toNat % 16)]
  else [b]

/-- The text of a string between its quotation marks; `skip` bytes belong to a sequence that was
escaped, `copy` bytes to one that was begun. -/
def quoteText : (skip copy : Nat) → Bytes → Bytes
  | _, _, [] => []
  | skip + 1, copy, _ :: rest => quoteText skip copy rest
  | 0, copy + 1, b :: rest => b :: quoteText 0 copy rest
  | 0, 0, b :: rest =>
      if b < 0x80 then quoteByte b ++ quoteText 0 0 rest
      else
        match runeLength (b :: rest) with
        | 0 => ascii "\\ufffd" ++ quoteText 0 0 rest
        | n + 1 =>
            -- The line and the paragraph separator, U+2028 and U+2029.
            if b = 0xE2 ∧ rest.take n = [0x80, 0xA8] then ascii "\\u2028" ++ quoteText n 0 rest
            else if b = 0xE2 ∧ rest.take n = [0x80, 0xA9] then
              ascii "\\u2029" ++ quoteText n 0 rest
            else b :: quoteText 0 n rest

/-- A string literal. -/
def stringText (s : Bytes) : Bytes := 34 :: quoteText 0 0 s ++ [34]

/-! ## Sequences -/

/-- A byte of ASCII is a sequence of its own, whatever follows. -/
theorem runeLength_ascii {b : UInt8} (ascii : b < 0x80) (rest : Bytes) :
    runeLength (b :: rest) = 1 := by
  unfold runeLength
  exact if_pos ascii

/-- A sequence of several bytes: those after the first are in the range of tails, and its length is
the same whatever follows. -/
structure Multibyte (b : UInt8) (tail : Bytes) : Prop where
  tails : ∀ c ∈ tail, isTail c = true
  length : ∀ rest, runeLength (b :: (tail ++ rest)) = tail.length + 1

theorem exists_of_any {p : UInt8 → Bool} {s : Bytes} (some : s[0]?.any p = true) :
    ∃ c t, s = c :: t ∧ p c = true := by
  cases s with
  | nil => exact nomatch some
  | cons c t => exact ⟨c, t, rfl, some⟩

/-- The narrower ranges for the second byte of some sequences lie within that of all tail bytes. -/
theorem isTail_of_between {low high c : UInt8} (lower : 0x80 ≤ low) (upper : high ≤ 0xBF)
    (between : decide (low ≤ c ∧ c ≤ high) = true) : isTail c = true := by
  have bounds := of_decide_eq_true between
  exact decide_eq_true ⟨UInt8.le_trans lower bounds.1, UInt8.le_trans bounds.2 upper⟩

section

variable {b : UInt8} {s : Bytes} {second : UInt8 → Bool}

/-- The sequences of two bytes: any tail byte may follow the first. -/
theorem multibyte_two (some : s[0]?.any isTail = true)
    (length : ∀ c u, isTail c = true → runeLength (b :: c :: u) = 2) :
    ∃ tail rest, s = tail ++ rest ∧ tail.length + 1 = 2 ∧ Multibyte b tail := by
  obtain ⟨c, u, rfl, first⟩ := exists_of_any some
  refine ⟨[c], u, rfl, rfl, ⟨?_, fun rest => length c rest first⟩⟩
  exact List.forall_mem_singleton.mpr first

/-- The sequences of three bytes.  For some first bytes the second is confined to `second`, which
keeps out overlong forms and surrogates. -/
theorem multibyte_three (range : ∀ c, second c = true → isTail c = true)
    (some : s[0]?.any second = true ∧ s[1]?.any isTail = true)
    (length : ∀ c d u, second c = true → isTail d = true → runeLength (b :: c :: d :: u) = 3) :
    ∃ tail rest, s = tail ++ rest ∧ tail.length + 1 = 3 ∧ Multibyte b tail := by
  obtain ⟨c, u, rfl, first⟩ := exists_of_any some.1
  obtain ⟨d, u, rfl, next⟩ := exists_of_any (s := u) some.2
  refine ⟨[c, d], u, rfl, rfl, ⟨?_, fun rest => length c d rest first next⟩⟩
  exact List.forall_mem_cons.mpr ⟨range c first, List.forall_mem_singleton.mpr next⟩

/-- The sequences of four bytes, with the second confined so that nothing beyond U+10FFFF is
encoded. -/
theorem multibyte_four (range : ∀ c, second c = true → isTail c = true)
    (some : s[0]?.any second = true ∧ s[1]?.any isTail = true ∧ s[2]?.any isTail = true)
    (length : ∀ c d e u, second c = true → isTail d = true → isTail e = true →
      runeLength (b :: c :: d :: e :: u) = 4) :
    ∃ tail rest, s = tail ++ rest ∧ tail.length + 1 = 4 ∧ Multibyte b tail := by
  obtain ⟨c, u, rfl, first⟩ := exists_of_any some.1
  obtain ⟨d, u, rfl, next⟩ := exists_of_any (s := u) some.2.1
  obtain ⟨e, u, rfl, last⟩ := exists_of_any (s := u) some.2.2
  refine ⟨[c, d, e], u, rfl, rfl, ⟨?_, fun rest => length c d e rest first next last⟩⟩
  exact List.forall_mem_cons.mpr ⟨range c first, List.forall_mem_cons.mpr
    ⟨next, List.forall_mem_singleton.mpr last⟩⟩

end

/-- By the ranges of the first byte. -/
theorem multibyte_of_runeLength {b : UInt8} {s : Bytes} {n : Nat} (high : ¬ b < 0x80)
    (valid : runeLength (b :: s) = n + 1) :
    ∃ tail rest, s = tail ++ rest ∧ tail.length + 1 = n + 1 ∧ Multibyte b tail := by
  have any : ∀ c, isTail c = true → isTail c = true := fun _ own => own
  unfold runeLength at valid
  simp only [high, ↓reduceIte] at valid
  split_ifs at valid with b2 t2 e0 t30 ed t3d b3 t3 f0 t40 f4 t44 b4 t4
  · rw [← valid]
    refine multibyte_two t2 fun c u first => ?_
    simp [runeLength, high, b2, first]
  · rw [← valid]
    refine multibyte_three (fun c => isTail_of_between (by decide) (by decide)) t30
      fun c d u first next => ?_
    simp only [decide_eq_true_eq] at first
    simp [runeLength, e0, first, next]
  · rw [← valid]
    refine multibyte_three (fun c => isTail_of_between (by decide) (by decide)) t3d
      fun c d u first next => ?_
    simp only [decide_eq_true_eq] at first
    simp [runeLength, ed, first, next]
  · rw [← valid]
    refine multibyte_three any t3 fun c d u first next => ?_
    simp [runeLength, high, b2, e0, ed, b3, first, next]
  · rw [← valid]
    refine multibyte_four (fun c => isTail_of_between (by decide) (by decide)) t40
      fun c d e u first next last => ?_
    simp only [decide_eq_true_eq] at first
    simp [runeLength, f0, first, next, last]
  · rw [← valid]
    refine multibyte_four (fun c => isTail_of_between (by decide) (by decide)) t44
      fun c d e u first next last => ?_
    simp only [decide_eq_true_eq] at first
    simp [runeLength, f4, first, next, last]
  · rw [← valid]
    refine multibyte_four any t4 fun c d e u first next last => ?_
    simp [runeLength, high, b2, e0, ed, b3, f0, f4, b4, first, next, last]

/-- **Sequences of a byte string.**  A string is empty, or it begins with an ASCII character, a byte
that belongs to no sequence, or a sequence of several bytes. -/
theorem rune_induction {P : Bytes → Prop} (nil : P [])
    (ascii : ∀ b rest, b < 0x80 → P rest → P (b :: rest))
    (invalid : ∀ b rest, ¬ b < 0x80 → runeLength (b :: rest) = 0 → P rest → P (b :: rest))
    (multibyte : ∀ b tail rest, ¬ b < 0x80 → Multibyte b tail → P rest → P (b :: (tail ++ rest)))
    (s : Bytes) : P s := by
  generalize length : s.length = size
  induction size using Nat.strongRecOn generalizing s with
  | _ size ih =>
      cases s with
      | nil => exact nil
      | cons b rest =>
          have shorter : rest.length < size := length ▸ Nat.lt_succ_self _
          by_cases low : b < 0x80
          · exact ascii b rest low (ih _ shorter rest rfl)
          · cases runes : runeLength (b :: rest) with
            | zero => exact invalid b rest low runes (ih _ shorter rest rfl)
            | succ n =>
                obtain ⟨tail, rest, rfl, _, sequence⟩ := multibyte_of_runeLength low runes
                refine multibyte b tail rest low sequence (ih _ ?_ rest rfl)
                rw [List.length_append] at shorter
                exact Nat.lt_of_le_of_lt (Nat.le_add_left _ _) shorter

/-! ### What survives -/

/-- Once a sequence is begun, its remaining bytes are copied without being looked at. -/
theorem coerceFrom_append (tail rest : Bytes) :
    coerceFrom tail.length (tail ++ rest) = tail ++ coerce rest := by
  induction tail with
  | nil => rfl
  | cons b tail ih => exact congrArg (List.cons b) ih

/-- A byte of ASCII survives, and so does what comes of the rest. -/
theorem coerce_ascii {b : UInt8} (low : b < 0x80) (rest : Bytes) :
    coerce (b :: rest) = b :: coerce rest := by
  unfold coerce
  simp only [coerceFrom, runeLength_ascii low]

/-- A byte that begins no well-formed sequence becomes U+FFFD, and the next byte is tried as a
beginning. -/
theorem coerce_invalid {b : UInt8} {rest : Bytes} (invalid : runeLength (b :: rest) = 0) :
    coerce (b :: rest) = replacement ++ coerce rest := by
  unfold coerce
  simp only [coerceFrom, invalid]

/-- A well-formed sequence survives as a whole. -/
theorem coerce_multibyte {b : UInt8} {tail : Bytes} (sequence : Multibyte b tail) (rest : Bytes) :
    coerce (b :: (tail ++ rest)) = b :: (tail ++ coerce rest) := by
  rw [← coerceFrom_append]
  unfold coerce
  simp only [coerceFrom, sequence.length]

theorem wellFormedFrom_append (tail rest : Bytes) :
    wellFormedFrom tail.length (tail ++ rest) = wellFormed rest := by
  induction tail with
  | nil => rfl
  | cons b tail ih => exact ih

/-- A byte of ASCII in front changes nothing about whether a string is well formed. -/
theorem wellFormed_ascii {b : UInt8} (low : b < 0x80) (rest : Bytes) :
    wellFormed (b :: rest) = wellFormed rest := by
  unfold wellFormed
  simp only [wellFormedFrom, runeLength_ascii low]

/-- One byte outside every sequence is enough for a string not to be well formed. -/
theorem wellFormed_invalid {b : UInt8} {rest : Bytes} (invalid : runeLength (b :: rest) = 0) :
    wellFormed (b :: rest) = false := by
  unfold wellFormed
  simp only [wellFormedFrom, invalid]

/-- Nor does a well-formed sequence in front change anything. -/
theorem wellFormed_multibyte {b : UInt8} {tail : Bytes} (sequence : Multibyte b tail)
    (rest : Bytes) : wellFormed (b :: (tail ++ rest)) = wellFormed rest := by
  rw [← wellFormedFrom_append tail rest]
  unfold wellFormed
  simp only [wellFormedFrom, sequence.length]

/-- Coercion never shortens a string, since U+FFFD has more bytes than the one it stands for. -/
theorem length_le_coerce (s : Bytes) : s.length ≤ (coerce s).length := by
  induction s using rune_induction with
  | nil => exact Nat.le_refl 0
  | ascii b rest low ih =>
      rw [coerce_ascii low]
      exact Nat.succ_le_succ ih
  | invalid b rest _ invalid ih =>
      rw [coerce_invalid invalid, List.length_append, List.length_cons]
      have three : replacement.length = 3 := rfl
      omega
  | multibyte b tail rest _ sequence ih =>
      rw [coerce_multibyte sequence, List.length_cons, List.length_cons, List.length_append,
        List.length_append]
      omega

/-- Only the empty string is coerced to the empty one.  Fields that are left out when they are empty
are so for the same strings on both sides. -/
theorem coerce_eq_nil {s : Bytes} : coerce s = [] ↔ s = [] := by
  constructor
  · intro empty
    have length := length_le_coerce s
    rw [empty] at length
    exact List.length_eq_zero_iff.mp (Nat.le_zero.mp length)
  · rintro rfl
    rfl

/-- **What survives.**  Coercion changes nothing exactly in valid UTF-8. -/
theorem coerce_eq_iff {s : Bytes} : coerce s = s ↔ wellFormed s = true := by
  induction s using rune_induction with
  | nil => exact ⟨fun _ => rfl, fun _ => rfl⟩
  | ascii b rest low ih =>
      rw [coerce_ascii low, wellFormed_ascii low, List.cons_inj_right]
      exact ih
  | invalid b rest _ invalid ih =>
      rw [coerce_invalid invalid, wellFormed_invalid invalid]
      constructor
      · intro same
        have longer := length_le_coerce rest
        have lengths := congrArg List.length same
        rw [List.length_append, List.length_cons] at lengths
        have three : replacement.length = 3 := rfl
        omega
      · exact nofun
  | multibyte b tail rest _ sequence ih =>
      rw [coerce_multibyte sequence, wellFormed_multibyte sequence, List.cons_inj_right,
        List.append_right_inj]
      exact ih

/-- Strings of ASCII survive, since every byte is a sequence of its own. -/
theorem coerce_of_ascii {s : Bytes} (low : ∀ b ∈ s, b < 0x80) : coerce s = s := by
  induction s with
  | nil => rfl
  | cons b rest ih =>
      rw [coerce_ascii (low b List.mem_cons_self), ih fun c later =>
        low c (List.mem_cons_of_mem _ later)]

/-! ### Reading a printed string -/

/-- The digits that the printer writes are the ones that the reader knows. -/
theorem hexDigit_hexChar : ∀ n, n < 16 → hexDigit (hexChar n) = some n := by decide

theorem encodeRune_ascii {b : UInt8} (low : b < 0x80) : encodeRune b.toNat = [b] := by
  have small : b.toNat < 0x80 := UInt8.lt_iff_toNat_lt.mp low
  unfold encodeRune
  rw [if_pos small, Nat.toUInt8, UInt8.ofNat_toNat]

/-- A code unit written with four digits. -/
theorem hex4_hexChar {b : UInt8} (rest : Bytes) :
    hex4 (48 :: 48 :: hexChar (b.toNat / 16) :: hexChar (b.toNat % 16) :: rest) =
      some b.toNat := by
  have zero : hexDigit 48 = some 0 := by decide
  have high := hexDigit_hexChar (b.toNat / 16) (by have := b.toNat_lt; omega)
  have low := hexDigit_hexChar (b.toNat % 16) (Nat.mod_lt _ (by decide))
  unfold hex4
  simp only [zero, high, low, bind, Option.bind, pure, Option.some.injEq]
  omega

theorem unquote_escape (rest : Bytes) :
    unquote 0 0 (92 :: rest) = (escape rest).1 ++ unquote (escape rest).2 0 rest := rfl

/-- A byte of ASCII is read back whether it was escaped or not; the printer escapes quotation marks,
backslashes, control characters and those of HTML. -/
theorem unquote_quoteByte {b : UInt8} (low : b < 0x80) (rest : Bytes) :
    unquote 0 0 (quoteByte b ++ rest) = b :: unquote 0 0 rest := by
  unfold quoteByte
  split_ifs with mark h8 h12 h10 h13 h9 control
  · rcases mark with rfl | rfl
    · rfl
    · rfl
  · subst h8
    rfl
  · subst h12
    rfl
  · subst h10
    rfl
  · subst h13
    rfl
  · subst h9
    rfl
  · have small : b.toNat < 0x80 := UInt8.lt_iff_toNat_lt.mp low
    have unit := @hex4_hexChar b rest
    have text : escape (117 :: 48 :: 48 :: hexChar (b.toNat / 16) :: hexChar (b.toNat % 16) ::
        rest) = ([b], 5) := by
      unfold escape
      simp only [unit]
      rw [if_pos (Or.inl (by omega)), encodeRune_ascii low]
    have digits : ascii "\\u00" = [92, 117, 48, 48] := by decide
    rw [digits]
    change unquote 0 0 (92 :: 117 :: 48 :: 48 :: _ :: _ :: rest) = _
    rw [unquote_escape, text]
    rfl
  · have plain : b ≠ 92 := fun same => mark (Or.inl same)
    rw [List.singleton_append]
    simp only [unquote, plain, ↓reduceIte, runeLength_ascii low]

theorem unquote_append (tail rest : Bytes) :
    unquote 0 tail.length (tail ++ rest) = tail ++ unquote 0 0 rest := by
  induction tail with
  | nil => rfl
  | cons b tail ih => exact congrArg (List.cons b) ih

/-- The bytes that belong to an escape already read are skipped. -/
theorem unquote_skip (skipped rest : Bytes) :
    unquote skipped.length 0 (skipped ++ rest) = unquote 0 0 rest := by
  induction skipped with
  | nil => rfl
  | cons b skipped ih => exact ih

/-- Well-formed sequences beyond ASCII are copied from the text as they are. -/
theorem unquote_multibyte {b : UInt8} {tail : Bytes} (high : ¬ b < 0x80)
    (sequence : Multibyte b tail) (rest : Bytes) :
    unquote 0 0 (b :: (tail ++ rest)) = b :: (tail ++ unquote 0 0 rest) := by
  have plain : b ≠ 92 := by
    rintro rfl
    exact high (by decide)
  rw [← unquote_append]
  simp only [unquote, plain, ↓reduceIte, sequence.length]

/-- The printer goes byte by byte as long as it meets ASCII. -/
theorem quoteText_ascii {b : UInt8} (low : b < 0x80) (rest : Bytes) :
    quoteText 0 0 (b :: rest) = quoteByte b ++ quoteText 0 0 rest := by
  simp only [quoteText, low, ↓reduceIte]

/-- A byte outside every sequence is printed as an escape of U+FFFD, so that the text itself is
valid UTF-8. -/
theorem quoteText_invalid {b : UInt8} {rest : Bytes} (high : ¬ b < 0x80)
    (invalid : runeLength (b :: rest) = 0) :
    quoteText 0 0 (b :: rest) = ascii "\\ufffd" ++ quoteText 0 0 rest := by
  simp only [quoteText, high, ↓reduceIte, invalid]

/-- The rest of a sequence is copied. -/
theorem quoteText_append (tail rest : Bytes) :
    quoteText 0 tail.length (tail ++ rest) = tail ++ quoteText 0 0 rest := by
  induction tail with
  | nil => rfl
  | cons b tail ih => exact congrArg (List.cons b) ih

/-- The rest of a sequence that is written as an escape is skipped. -/
theorem quoteText_skip (tail rest : Bytes) :
    quoteText tail.length 0 (tail ++ rest) = quoteText 0 0 rest := by
  induction tail with
  | nil => rfl
  | cons b tail ih => exact ih

/-- A sequence of several bytes is copied, unless it is one of the two separators. -/
theorem quoteText_multibyte {b : UInt8} {tail : Bytes} (high : ¬ b < 0x80)
    (sequence : Multibyte b tail) (rest : Bytes) :
    (b = 0xE2 ∧ tail = [0x80, 0xA8] ∧
      quoteText 0 0 (b :: (tail ++ rest)) = ascii "\\u2028" ++ quoteText 0 0 rest) ∨
    (b = 0xE2 ∧ tail = [0x80, 0xA9] ∧
      quoteText 0 0 (b :: (tail ++ rest)) = ascii "\\u2029" ++ quoteText 0 0 rest) ∨
    quoteText 0 0 (b :: (tail ++ rest)) = b :: (tail ++ quoteText 0 0 rest) := by
  have length := sequence.length rest
  by_cases line : b = 0xE2 ∧ tail = [0x80, 0xA8]
  · refine Or.inl ⟨line.1, line.2, ?_⟩
    rw [← quoteText_skip tail rest]
    simp only [quoteText, high, ↓reduceIte, length, List.take_left]
    exact if_pos line
  · by_cases paragraph : b = 0xE2 ∧ tail = [0x80, 0xA9]
    · refine Or.inr (Or.inl ⟨paragraph.1, paragraph.2, ?_⟩)
      rw [← quoteText_skip tail rest]
      simp only [quoteText, high, ↓reduceIte, length, List.take_left, line]
      exact if_pos paragraph
    · refine Or.inr (Or.inr ?_)
      rw [← quoteText_append]
      simp only [quoteText, high, ↓reduceIte, length, List.take_left, line, paragraph]

/-- **Strings.**  A printed string, read again. -/
theorem unquote_quoteText (s : Bytes) : unquote 0 0 (quoteText 0 0 s) = coerce s := by
  induction s using rune_induction with
  | nil => rfl
  | ascii b rest low ih => rw [quoteText_ascii low, unquote_quoteByte low, ih, coerce_ascii low]
  | invalid b rest high invalid ih =>
      rw [quoteText_invalid high invalid, coerce_invalid invalid, ← ih]
      rfl
  | multibyte b tail rest high sequence ih =>
      rw [coerce_multibyte sequence, ← ih]
      rcases quoteText_multibyte high sequence rest with
        ⟨rfl, rfl, text⟩ | ⟨rfl, rfl, text⟩ | text
      · rw [text]
        rfl
      · rw [text]
        rfl
      · rw [text, unquote_multibyte high sequence]

end Json
