import Mathlib.Data.List.Induction
import Mathlib.Tactic.Ring
import DebtMarket.Text.Digits

/-! What is written in digits is read back. The digits of a number are digits and stand for
it, zeros in front of them do not count, and the reader of a run of digits stops where the run
ends.
-/

namespace DebtMarket.Text

-----------------------------------------------------------------------------------------
-- Single digits
-----------------------------------------------------------------------------------------

theorem isDigit_digitChar (d : Nat) : (digitChar d).isDigit = true := by
  have each : ∀ k < 10, (Char.ofNat (48 + k)).isDigit = true := by decide
  exact each _ (Nat.mod_lt d (by decide))

theorem digitValue_digitChar (d : Nat) : digitValue (digitChar d) = d % 10 := by
  have each : ∀ k < 10, digitValue (Char.ofNat (48 + k)) = k := by decide
  exact each _ (Nat.mod_lt d (by decide))

-----------------------------------------------------------------------------------------
-- Runs of digits
-----------------------------------------------------------------------------------------

/-- Digits stand for the digits in front, moved up, and the ones behind, by induction on these
from their end.
-/
theorem digitsValue_append (cs ds : List Char)
    : digitsValue (cs ++ ds) = digitsValue cs * 10 ^ ds.length + digitsValue ds := by
  induction ds using List.reverseRecOn with
  | nil => simp [digitsValue]
  | append_singleton ds c ih =>
      have last (more : List Char)
          : digitsValue (more ++ [c]) = 10 * digitsValue more + digitValue c := by
        simp [digitsValue, List.foldl_append]
      rw [← List.append_assoc, last, ih, last, List.length_append, List.length_singleton,
        pow_succ]
      ring

theorem digitsValue_singleton (c : Char) : digitsValue [c] = digitValue c := by
  simp [digitsValue]

theorem digitsValue_zeros (count : Nat) : digitsValue (List.replicate count '0') = 0 := by
  induction count with
  | zero => rfl
  | succ count ih =>
      rw [List.replicate_succ', digitsValue_append, ih]
      decide

/-- The digits of a number stand for it, by induction on them. -/
theorem digitsValue_digits (n : Nat) : digitsValue (digits n) = n := by
  induction n using digits.induct with
  | case1 n small =>
      rw [digits, if_pos small, digitsValue_singleton, digitValue_digitChar]
      omega
  | case2 n large ih =>
      rw [digits, if_neg large, digitsValue_append, ih, digitsValue_singleton,
        digitValue_digitChar, List.length_singleton]
      omega

theorem isDigit_of_mem_digits {n : Nat} {c : Char} (member : c ∈ digits n)
    : c.isDigit = true := by
  induction n using digits.induct with
  | case1 n small =>
      rw [digits, if_pos small, List.mem_singleton] at member
      rw [member]
      exact isDigit_digitChar n
  | case2 n large ih =>
      rw [digits, if_neg large, List.mem_append, List.mem_singleton] at member
      rcases member with earlier | rfl
      · exact ih earlier
      · exact isDigit_digitChar n

theorem digits_ne_nil (n : Nat) : digits n ≠ [] := by
  rw [digits]
  split
  · exact List.cons_ne_nil _ _
  · exact List.append_ne_nil_of_right_ne_nil _ (List.cons_ne_nil _ _)

/-- A number below a power of ten has no more digits than the power has zeros. -/
theorem length_digits_le {n width : Nat} (positive : 0 < width) (small : n < 10 ^ width)
    : (digits n).length ≤ width := by
  induction width, positive using Nat.le_induction generalizing n with
  | base =>
      rw [digits, if_pos (by simpa using small)]
      rfl
  | succ width positive ih =>
      rw [digits]
      split
      · rw [List.length_singleton]
        omega
      · have fewer := ih (n := n / 10) (by rw [pow_succ] at small; omega)
        rw [List.length_append, List.length_singleton]
        omega

-----------------------------------------------------------------------------------------
-- Padded digits
-----------------------------------------------------------------------------------------

theorem digitsValue_paddedDigits (width n : Nat) : digitsValue (paddedDigits width n) = n := by
  rw [paddedDigits, digitsValue_append, digitsValue_zeros, digitsValue_digits]
  omega

theorem isDigit_of_mem_paddedDigits {width n : Nat} {c : Char}
    (member : c ∈ paddedDigits width n)
    : c.isDigit = true := by
  rw [paddedDigits, List.mem_append] at member
  rcases member with zero | digit
  · rw [List.eq_of_mem_replicate zero]
    decide
  · exact isDigit_of_mem_digits digit

theorem le_length_paddedDigits (width n : Nat) : width ≤ (paddedDigits width n).length := by
  rw [paddedDigits, List.length_append, List.length_replicate]
  omega

theorem paddedDigits_ne_nil (width n : Nat) : paddedDigits width n ≠ [] :=
  List.append_ne_nil_of_right_ne_nil _ (digits_ne_nil n)

/-- A number that fits its width has as many digits as that. -/
theorem length_paddedDigits {width n : Nat} (positive : 0 < width) (small : n < 10 ^ width)
    : (paddedDigits width n).length = width := by
  have fewer := length_digits_le positive small
  rw [paddedDigits, List.length_append, List.length_replicate]
  omega

-----------------------------------------------------------------------------------------
-- Reading runs of digits
-----------------------------------------------------------------------------------------

/-- Whether a text does not go on with a digit. -/
def Stops (cs : List Char) : Prop :=
  ∀ c ∈ cs.head?, c.isDigit = false

theorem stops_nil : Stops [] :=
  fun _ member => nomatch member

theorem stops_cons {c : Char} {cs : List Char} (other : c.isDigit = false)
    : Stops (c :: cs) := by
  intro c' same
  cases same
  exact other

theorem takeWhile_isDigit {ds rest : List Char} (run : ∀ c ∈ ds, c.isDigit = true)
    (stops : Stops rest)
    : (ds ++ rest).takeWhile Char.isDigit = ds := by
  rw [List.takeWhile_append_of_pos run]
  cases rest with
  | nil => simp
  | cons c rest =>
      have other := stops c rfl
      simp [other]

/-- A run of digits is taken as a whole where it ends, or where no more may be taken. -/
theorem takeDigits_append {most : Nat} {ds rest : List Char}
    (run : ∀ c ∈ ds, c.isDigit = true) (present : ds ≠ []) (few : ds.length ≤ most)
    (ends : ds.length = most ∨ Stops rest)
    : takeDigits most (ds ++ rest) = some (ds, rest) := by
  have taken : ((ds ++ rest).take most).takeWhile Char.isDigit = ds := by
    rw [List.take_append, List.take_of_length_le few]
    refine takeWhile_isDigit run ?_
    rcases ends with full | stops
    · rw [full, Nat.sub_self, List.take_zero]
      exact stops_nil
    · cases rest with
      | nil => rw [List.take_nil]; exact stops_nil
      | cons c rest =>
          cases most - ds.length with
          | zero => exact stops_nil
          | succ left => exact stops_cons (stops c rfl)
  have filled : ds.isEmpty = false := by simpa using present
  simp [takeDigits, taken, filled]

/-- A number with zeros in front is read back where its digits end. -/
theorem takeNumber_paddedDigits {most width n : Nat} {rest : List Char}
    (few : (paddedDigits width n).length ≤ most)
    (ends : (paddedDigits width n).length = most ∨ Stops rest)
    : takeNumber most (paddedDigits width n ++ rest) = some (n, rest) := by
  rw [takeNumber,
    takeDigits_append (fun _ => isDigit_of_mem_paddedDigits) (paddedDigits_ne_nil width n) few
      ends]
  exact congrArg (fun value => some (value, rest)) (digitsValue_paddedDigits width n)

end DebtMarket.Text
