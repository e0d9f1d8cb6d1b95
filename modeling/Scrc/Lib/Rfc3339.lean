import Mathlib.Data.List.DropRight
import Scrc.Lib.Decimal

/-!
# Timestamps

The text of a point in time as RFC 3339 writes it, as far as it is in UTC, and which texts are
timestamps of RFC 3339.

* `isTimestamp_text`: the text of a time is one, when its year has four digits.
* `text_separator`: the separator after the year is the fifth byte exactly in that case.
-/

namespace Rfc3339

abbrev Bytes := List UInt8

def isDigit (b : UInt8) : Bool := 48 ≤ b ∧ b ≤ 57

def isLeap (year : Nat) : Bool := year % 4 = 0 ∧ (year % 100 ≠ 0 ∨ year % 400 = 0)

def daysIn (month year : Nat) : Nat :=
  if month = 2 then if isLeap year then 29 else 28
  else if month ∈ [4, 6, 9, 11] then 30
  else 31

/-- A point in time by the calendar and the clock of UTC. -/
structure Time where
  year : Nat
  month : Nat
  day : Nat
  hour : Nat
  minute : Nat
  second : Nat
  nanosecond : Nat
  month_valid : 1 ≤ month ∧ month ≤ 12
  day_valid : 1 ≤ day ∧ day ≤ daysIn month year
  hour_valid : hour ≤ 23
  minute_valid : minute ≤ 59
  second_valid : second ≤ 59
  nanosecond_valid : nanosecond < 1000000000

/-- The fraction of a second, without zeros at its end. -/
def fraction (nanosecond : Nat) : Bytes :=
  if nanosecond = 0 then []
  else 46 :: (Decimal.padded 9 nanosecond).rdropWhile fun b => b = 48

/-- The time with nanoseconds, as `2006-01-02T15:04:05.999999999Z`. -/
def Time.text (t : Time) : Bytes :=
  Decimal.padded 4 t.year ++ 45 :: (Decimal.padded 2 t.month ++ 45 :: (Decimal.padded 2 t.day ++
    84 :: (Decimal.padded 2 t.hour ++ 58 :: (Decimal.padded 2 t.minute ++
      58 :: (Decimal.padded 2 t.second ++ (fraction t.nanosecond ++ [90]))))))

/-- A field of digits whose number is between two bounds. -/
def field (low high : Nat) (digits : Bytes) : Bool :=
  digits.all isDigit ∧ low ≤ Decimal.value digits ∧ Decimal.value digits ≤ high

/-- What follows the fraction of a second, if there is one. -/
def afterFraction (s : Bytes) : Bytes :=
  if s[0]? = some 46 ∧ s[1]?.any isDigit then (s.drop 2).dropWhile isDigit else s

/-- `Z`, or an offset in hours and minutes. -/
def isZone : Bytes → Bool
  | [z] => z = 90
  | [sign, h1, h2, colon, m1, m2] =>
      (sign = 43 ∨ sign = 45) ∧ field 0 23 [h1, h2] ∧ colon = 58 ∧ field 0 59 [m1, m2]
  | _ => false

/-- A timestamp: its fields within their bounds, the separators between them, and a zone. -/
def isTimestamp : Bytes → Bool
  | y1 :: y2 :: y3 :: y4 :: dash1 :: m1 :: m2 :: dash2 :: d1 :: d2 :: t :: h1 :: h2 :: colon1 ::
      n1 :: n2 :: colon2 :: s1 :: s2 :: rest =>
      field 0 9999 [y1, y2, y3, y4] ∧ field 1 12 [m1, m2] ∧
        field 1 (daysIn (Decimal.value [m1, m2]) (Decimal.value [y1, y2, y3, y4])) [d1, d2] ∧
        field 0 23 [h1, h2] ∧ field 0 59 [n1, n2] ∧ field 0 59 [s1, s2] ∧
        dash1 = 45 ∧ dash2 = 45 ∧ t = 84 ∧ colon1 = 58 ∧ colon2 = 58 ∧
        isZone (afterFraction rest)
  | _ => false

theorem field_padded {low high n : Nat} (width : Nat) (lower : low ≤ n) (upper : n ≤ high) :
    field low high (Decimal.padded width n) = true := by
  have digits : (Decimal.padded width n).all isDigit = true := by
    refine List.all_eq_true.mpr fun b member => ?_
    exact decide_eq_true (Decimal.mem_padded member)
  unfold field
  rw [Decimal.value_padded]
  exact decide_eq_true ⟨digits, lower, upper⟩

/-- A fraction is a point and at least one digit. -/
theorem afterFraction_fraction (n : Nat) : afterFraction (fraction n ++ [90]) = [90] := by
  unfold fraction
  split_ifs with zero
  · rfl
  · have digits : ∀ b ∈ (Decimal.padded 9 n).rdropWhile (fun b => b = 48), isDigit b = true := by
      intro b member
      exact decide_eq_true (Decimal.mem_padded ((List.rdropWhile_prefix _ _).subset member))
    have some : (Decimal.padded 9 n).rdropWhile (fun b => b = 48) ≠ [] := by
      intro empty
      have zeros : ∀ b ∈ Decimal.padded 9 n, b = 48 := fun b member =>
        of_decide_eq_true (List.rdropWhile_eq_nil_iff.mp empty b member)
      have value := Decimal.value_zeros zeros []
      rw [List.append_nil, Decimal.value_padded] at value
      exact zero value
    generalize (Decimal.padded 9 n).rdropWhile (fun b => b = 48) = ds at digits some
    cases ds with
    | nil => exact absurd rfl some
    | cons d ds =>
        have first := digits d List.mem_cons_self
        have rest : ∀ b ∈ ds, isDigit b = true := fun b later =>
          digits b (List.mem_cons_of_mem _ later)
        unfold afterFraction
        rw [if_pos ⟨rfl, first⟩]
        exact List.dropWhile_append_of_pos rest

theorem daysIn_le (month year : Nat) : daysIn month year ≤ 31 := by
  unfold daysIn
  split_ifs
  all_goals decide

/-- A field of two digits, as its digits. -/
theorem exists_two {n : Nat} (small : n < 100) : ∃ a b, Decimal.padded 2 n = [a, b] :=
  List.length_eq_two.mp (Decimal.length_padded (k := 1) small)

theorem exists_four {n : Nat} (small : n < 10000) :
    ∃ a b c d, Decimal.padded 4 n = [a, b, c, d] :=
  List.length_eq_four.mp (Decimal.length_padded (k := 3) small)

/-- **Timestamps.**  The text of a time is one, when its year has four digits. -/
theorem isTimestamp_text {t : Time} (fits : t.year ≤ 9999) : isTimestamp t.text = true := by
  have days := Nat.le_trans t.day_valid.2 (daysIn_le t.month t.year)
  obtain ⟨y1, y2, y3, y4, year⟩ := exists_four (show t.year < 10000 by omega)
  obtain ⟨m1, m2, month⟩ := exists_two (show t.month < 100 by have := t.month_valid.2; omega)
  obtain ⟨d1, d2, day⟩ := exists_two (show t.day < 100 by omega)
  obtain ⟨h1, h2, hour⟩ := exists_two (show t.hour < 100 by have := t.hour_valid; omega)
  obtain ⟨n1, n2, minute⟩ := exists_two (show t.minute < 100 by have := t.minute_valid; omega)
  obtain ⟨s1, s2, second⟩ := exists_two (show t.second < 100 by have := t.second_valid; omega)
  have yearField := field_padded 4 (Nat.zero_le t.year) fits
  have monthField := field_padded 2 t.month_valid.1 t.month_valid.2
  have dayField := field_padded 2 t.day_valid.1 t.day_valid.2
  have hourField := field_padded 2 (Nat.zero_le t.hour) t.hour_valid
  have minuteField := field_padded 2 (Nat.zero_le t.minute) t.minute_valid
  have secondField := field_padded 2 (Nat.zero_le t.second) t.second_valid
  have yearValue := Decimal.value_padded 4 t.year
  have monthValue := Decimal.value_padded 2 t.month
  rw [year] at yearField yearValue
  rw [month] at monthField monthValue
  rw [day] at dayField
  rw [hour] at hourField
  rw [minute] at minuteField
  rw [second] at secondField
  unfold Time.text
  rw [year, month, day, hour, minute, second]
  simp only [List.cons_append, List.nil_append, isTimestamp, yearField, monthField, dayField,
    hourField, minuteField, secondField, yearValue, monthValue, afterFraction_fraction]
  decide

theorem text_ascii {t : Time} {b : UInt8} (member : b ∈ t.text) : b < 0x80 := by
  have digit : ∀ {width n : Nat}, b ∈ Decimal.padded width n → b < 0x80 := fun inside =>
    UInt8.lt_of_le_of_lt (Decimal.mem_padded inside).2 (by decide)
  have fraction : b ∈ fraction t.nanosecond → b < 0x80 := by
    unfold fraction
    split_ifs with zero
    · exact nofun
    · intro inside
      rcases List.mem_cons.mp inside with rfl | later
      · decide
      · exact digit ((List.rdropWhile_prefix _ _).subset later)
  simp only [Time.text, List.mem_append, List.mem_cons, List.not_mem_nil, or_false] at member
  rcases member with inside | rfl | inside | rfl | inside | rfl | inside | rfl | inside | rfl |
    inside | inside | rfl
  · exact digit inside
  · decide
  · exact digit inside
  · decide
  · exact digit inside
  · decide
  · exact digit inside
  · decide
  · exact digit inside
  · decide
  · exact digit inside
  · exact fraction inside
  · decide

/-- The fifth byte is the separator after the year, unless the year has more than four digits. -/
theorem text_separator (t : Time) : t.text[4]? = some 45 ↔ t.year ≤ 9999 := by
  constructor
  · intro separator
    by_contra large
    have longer : 4 < (Decimal.padded 4 t.year).length := by
      have digits := Decimal.lt_length_digits (k := 4) (show 10 ^ 4 ≤ t.year by omega)
      rw [Decimal.padded, List.length_append]
      omega
    unfold Time.text at separator
    rw [List.getElem?_append_left longer] at separator
    have digit := Decimal.mem_padded (List.mem_of_getElem? separator)
    exact absurd digit.1 (by decide)
  · intro fits
    obtain ⟨y1, y2, y3, y4, year⟩ := exists_four (show t.year < 10000 by omega)
    unfold Time.text
    rw [year]
    rfl

end Rfc3339
