import Mathlib.Algebra.Order.Field.Basic
import Mathlib.Data.Prod.Lex
import Mathlib.Tactic.FieldSimp
import Mathlib.Tactic.Positivity
import DebtMarket.Proofs.Record

/-! What amounts and times are compared by. A decimal stands for a number, whatever its scale is;
a date is told by year, month and day, and an instant by its date and the clock. The ranks that
decimals, dates and instants have are in the order of these.
-/

namespace DebtMarket

namespace Decimal

/-- The number that a decimal stands for. -/
def number (d : Decimal) : ℚ :=
  (if d.negative then -(d.magnitude : ℚ) else d.magnitude) / 10 ^ d.scale

/-- A decimal counts its number in units of the smallest place. -/
theorem value_eq (d : Decimal) : (d.value : ℚ) = d.number * 10 ^ 28 := by
  have places : (10 : ℚ) ^ 28 = 10 ^ (28 - d.scale) * 10 ^ d.scale := by
    rw [← pow_add, Nat.sub_add_cancel d.scale_le]
  rw [value, number, places, Nat.pow_eq]
  split
  all_goals
    push_cast
    field_simp

/-- Decimals compare as the numbers that they stand for. -/
theorem value_le_iff {a b : Decimal} : a.value ≤ b.value ↔ a.number ≤ b.number := by
  have scaled : (0 : ℚ) < 10 ^ 28 := by positivity
  rw [← Int.cast_le (R := ℚ), value_eq, value_eq]
  exact mul_le_mul_iff_of_pos_right scaled

/-- A decimal is above zero just if its number is. -/
theorem number_pos_iff {d : Decimal} : 0 < d.number ↔ d.isPositive = true := by
  have scaled : (0 : ℚ) < 10 ^ 28 := by positivity
  rw [← value_pos_iff, ← Int.cast_pos (R := ℚ), value_eq]
  exact (mul_pos_iff_of_pos_right scaled).symm

end Decimal

namespace Date

/-- Year, month and day of a date, of which the first that differs tells the later date. -/
def calendar (d : Date) : ℤ ×ₗ ℕ ×ₗ ℕ :=
  toLex (d.year, toLex (d.month, d.day))

theorem day_le (d : Date) : d.day ≤ 31 := by
  have bound : daysInMonth d.year d.month ≤ 31 := by
    unfold daysInMonth
    split
    · split <;> decide
    all_goals decide
  exact d.day_mem.2.trans bound

/-- Dates are ranked by the calendar. -/
theorem rank_le_iff {a b : Date} : a.rank ≤ b.rank ↔ a.calendar ≤ b.calendar := by
  have months := a.month_mem
  have months' := b.month_mem
  have days := a.day_le
  have days' := b.day_le
  simp only [rank, calendar, Prod.Lex.toLex_le_toLex]
  omega

end Date

namespace Instant

/-- Date, second and nanosecond of an instant, of which the first that differs tells the later
instant.
-/
def reading (t : Instant) : (ℤ ×ₗ ℕ ×ₗ ℕ) ×ₗ ℕ ×ₗ ℕ :=
  toLex (t.date.calendar, toLex (t.second, t.nano))

/-- Instants are ranked by the calendar and the clock. -/
theorem rank_le_iff {a b : Instant} : a.rank ≤ b.rank ↔ a.reading ≤ b.reading := by
  have seconds := a.second_lt
  have seconds' := b.second_lt
  have nanos := a.nano_lt
  have nanos' := b.nano_lt
  simp only [rank, reading, Prod.Lex.toLex_le_toLex, lt_iff_le_not_ge, le_antisymm_iff,
    ← Date.rank_le_iff]
  omega

end Instant

end DebtMarket
