import Mathlib.Algebra.Group.Nat.Defs
import Mathlib.Data.List.Basic

/-!
# Decimal numerals

The decimal numerals of natural numbers and integers as byte sequences, and what reading them back
gives.

* `value_digits`: the digits of a number have its value, so numerals are injective.
* `value_padded`, `length_padded`: numerals of a fixed width, with leading zeros.
* `utf8_toString_nat`, `utf8_toString_int`: these are the bytes of `toString`.
-/

namespace Decimal

abbrev Bytes := List UInt8

/-- The digits of a natural number, the highest one first. -/
def digits (n : Nat) : Bytes := (Nat.toDigits 10 n).map fun c => c.toNat.toUInt8

/-- The numeral of an integer, a minus sign before the digits of a negative one. -/
def numeral : Int → Bytes
  | .ofNat n => digits n
  | .negSucc n => 45 :: digits (n + 1)

/-- The number that a sequence of digits stands for. -/
def value (ds : Bytes) : Nat := ds.foldl (fun n b => n * 10 + (b.toNat - 48)) 0

/-! ## Digits -/

/-- The numeral of a number below ten is its one digit, as the byte of that digit in ASCII. -/
theorem digits_of_lt {n : Nat} (small : n < 10) : digits n = [(48 + n).toUInt8] := by
  unfold digits
  rw [Nat.toDigits_of_lt_base small, List.map_singleton, Nat.toNat_digitChar_of_lt_ten small]

/-- From ten on the numeral is that of a tenth followed by one digit more, which is how every
induction over numerals goes. -/
theorem digits_of_ge {n : Nat} (large : 10 ≤ n) :
    digits n = digits (n / 10) ++ [(48 + n % 10).toUInt8] := by
  have last : n % 10 < 10 := Nat.mod_lt n (by decide)
  unfold digits
  rw [Nat.toDigits_of_base_le (by decide) large, List.map_append, List.map_singleton,
    Nat.toNat_digitChar_of_lt_ten last]

theorem toNat_digit {d : Nat} (small : d < 10) : (48 + d).toUInt8.toNat = 48 + d := by
  rw [Nat.toUInt8, UInt8.toNat_ofNat']
  omega

/-- Induction along the digits of a number. -/
theorem digit_induction {P : Nat → Prop} (one : ∀ n, n < 10 → P n)
    (more : ∀ n, 10 ≤ n → P (n / 10) → P n) (n : Nat) : P n := by
  induction n using Nat.strongRecOn with
  | _ n ih =>
      by_cases small : n < 10
      · exact one n small
      · exact more n (by omega) (ih (n / 10) (by omega))

/-- Even zero has a digit, so a numeral is never the empty text. -/
theorem digits_ne_nil (n : Nat) : digits n ≠ [] := by
  by_cases small : n < 10
  · rw [digits_of_lt small]
    exact List.cons_ne_nil _ _
  · rw [digits_of_ge (by omega)]
    exact List.append_ne_nil_of_right_ne_nil _ (List.cons_ne_nil _ _)

/-- Numerals consist of the bytes of the ten digits alone: no sign, no separator, and nothing beyond
ASCII. -/
theorem mem_digits {n : Nat} {b : UInt8} (member : b ∈ digits n) : 48 ≤ b ∧ b ≤ 57 := by
  have digit : ∀ d, d < 10 → 48 ≤ (48 + d).toUInt8 ∧ (48 + d).toUInt8 ≤ 57 := by
    intro d small
    rw [UInt8.le_iff_toNat_le, UInt8.le_iff_toNat_le, toNat_digit small]
    exact ⟨Nat.le_add_right 48 d, Nat.add_le_add_left (Nat.le_of_lt_succ small) 48⟩
  induction n using digit_induction with
  | one n small =>
      rw [digits_of_lt small, List.mem_singleton] at member
      rw [member]
      exact digit n small
  | more n large ih =>
      rw [digits_of_ge large, List.mem_append, List.mem_singleton] at member
      rcases member with front | rfl
      · exact ih front
      · exact digit _ (Nat.mod_lt n (by decide))

/-- **Reading back.**  The digits of a number have its value. -/
theorem value_digits (n : Nat) : value (digits n) = n := by
  induction n using digit_induction with
  | one n small =>
      have digit := toNat_digit small
      rw [digits_of_lt small]
      simp only [value, List.foldl_cons, List.foldl_nil, digit]
      omega
  | more n large ih =>
      have digit := toNat_digit (Nat.mod_lt n (show 0 < 10 by decide))
      unfold value at ih ⊢
      rw [digits_of_ge large, List.foldl_append, ih]
      simp only [List.foldl_cons, List.foldl_nil, digit]
      omega

/-- Two numbers with the same numeral are equal, since the value of the digits is the number. -/
theorem digits_injective {m n : Nat} (same : digits m = digits n) : m = n := by
  rw [← value_digits m, same, value_digits]

/-! ## Numerals -/

/-- A digit is no minus sign. -/
theorem minus_not_mem_digits (n : Nat) : (45 : UInt8) ∉ digits n := by
  intro member
  exact absurd (mem_digits member).1 (by decide)

/-- The same for integers: the sign is part of the numeral, and a digit is never taken for it. -/
theorem numeral_injective {m n : Int} (same : numeral m = numeral n) : m = n := by
  have apart : ∀ a b : Nat, digits a ≠ 45 :: digits b := by
    intro a b same
    exact minus_not_mem_digits a (same ▸ List.mem_cons_self)
  cases m with
  | ofNat m =>
      cases n with
      | ofNat n => exact congrArg Int.ofNat (digits_injective same)
      | negSucc n => exact absurd same (apart m (n + 1))
  | negSucc m =>
      cases n with
      | ofNat n => exact absurd same.symm (apart n (m + 1))
      | negSucc n =>
          have tails : digits (m + 1) = digits (n + 1) := (List.cons.inj same).2
          have next := digits_injective tails
          exact congrArg Int.negSucc (Nat.succ.inj next)

/-! ## Fixed width -/

/-- The digits of a number, with zeros in front up to the width. -/
def padded (width n : Nat) : Bytes := List.replicate (width - (digits n).length) 48 ++ digits n

/-- A bound on the number bounds the length of its numeral.  With `lt_length_digits` this fixes how
many digits there are. -/
theorem length_digits_le {k n : Nat} (small : n < 10 ^ (k + 1)) : (digits n).length ≤ k + 1 := by
  induction k generalizing n with
  | zero => exact Nat.le_of_eq (congrArg List.length (digits_of_lt small))
  | succ k ih =>
      by_cases one : n < 10
      · rw [digits_of_lt one]
        exact Nat.succ_le_succ (Nat.zero_le _)
      · have shorter : n / 10 < 10 ^ (k + 1) := by
          apply Nat.div_lt_of_lt_mul
          rw [← Nat.pow_succ']
          exact small
        rw [digits_of_ge (Nat.le_of_not_lt one), List.length_append]
        exact Nat.succ_le_succ (ih shorter)

theorem lt_length_digits {k n : Nat} (large : 10 ^ k ≤ n) : k < (digits n).length := by
  induction k generalizing n with
  | zero => exact List.length_pos_iff.mpr (digits_ne_nil n)
  | succ k ih =>
      have rest : 10 ^ k ≤ n / 10 := by
        apply (Nat.le_div_iff_mul_le (by decide)).mpr
        rw [← Nat.pow_succ]
        exact large
      have ten : 10 ≤ n := by
        have one : 1 ≤ 10 ^ k := Nat.one_le_pow k 10 (by decide)
        omega
      rw [digits_of_ge ten, List.length_append]
      exact Nat.succ_lt_succ (ih rest)

/-- A number that is not too long fills the width exactly, and none of its digits is cut off. -/
theorem length_padded {k n : Nat} (small : n < 10 ^ (k + 1)) :
    (padded (k + 1) n).length = k + 1 := by
  have fits := length_digits_le small
  rw [padded, List.length_append, List.length_replicate]
  omega

theorem mem_padded {width n : Nat} {b : UInt8} (member : b ∈ padded width n) :
    48 ≤ b ∧ b ≤ 57 := by
  rcases List.mem_append.mp member with zero | digit
  · rw [List.eq_of_mem_replicate zero]
    decide
  · exact mem_digits digit

/-- Zeros in front do not change what a text of digits is worth. -/
theorem value_zeros {ds : Bytes} (zeros : ∀ b ∈ ds, b = 48) (rest : Bytes) :
    value (ds ++ rest) = value rest := by
  induction ds with
  | nil => rfl
  | cons b ds ih =>
      rw [zeros b List.mem_cons_self]
      exact ih fun c later => zeros c (List.mem_cons_of_mem _ later)

/-- Padding keeps the value, whatever the width: too long a numeral is left as it is. -/
theorem value_padded (width n : Nat) : value (padded width n) = n := by
  rw [padded, value_zeros fun _ => List.eq_of_mem_replicate, value_digits]

/-! ## The bytes of `toString` -/

/-- The encoding of characters of ASCII is one byte each, with the number of the character. -/
theorem utf8_ascii {s : List Char} (ascii : ∀ c ∈ s, c.toNat ≤ 127) :
    (String.ofList s).toUTF8.data.toList = s.map fun c => c.toNat.toUInt8 := by
  rw [String.toUTF8_eq_toByteArray, String.toByteArray_ofList]
  unfold List.utf8Encode
  rw [List.data_toByteArray, List.toList_toArray]
  induction s with
  | nil => rfl
  | cons c s ih =>
      have one : String.utf8EncodeChar c = [c.toNat.toUInt8] :=
        if_pos (ascii c List.mem_cons_self)
      rw [List.flatMap_cons, List.map_cons, one,
        ih fun c later => ascii c (List.mem_cons_of_mem _ later)]
      rfl

theorem toDigits_ascii {n : Nat} {c : Char} (member : c ∈ Nat.toDigits 10 n) : c.toNat ≤ 127 := by
  have digit := Nat.isDigit_of_mem_toDigits (by decide) (by decide) member
  have bounds := Char.isDigit_iff_toNat.mp digit
  exact Nat.le_trans bounds.2 (by decide)

/-- The numerals here are those that `toString` of Lean writes, byte for byte. -/
theorem utf8_toString_nat (n : Nat) : (toString n).toUTF8.data.toList = digits n := by
  rw [Nat.toString_eq_ofList_toDigits, utf8_ascii fun _ => toDigits_ascii]
  rfl

/-- For integers too, where `toString` writes the minus sign in front of the digits. -/
theorem utf8_toString_int (n : Int) : (toString n).toUTF8.data.toList = numeral n := by
  cases n with
  | ofNat n => exact utf8_toString_nat n
  | negSucc n =>
      have text : toString (Int.negSucc n) = String.ofList ('-' :: Nat.toDigits 10 (n + 1)) := by
        rw [Int.toString_eq_repr, Int.repr, Nat.repr_eq_ofList_toDigits]
        exact String.ofList_append.symm
      rw [text, utf8_ascii]
      · rfl
      · intro c member
        rcases List.mem_cons.mp member with rfl | later
        · decide
        · exact toDigits_ascii later

end Decimal
