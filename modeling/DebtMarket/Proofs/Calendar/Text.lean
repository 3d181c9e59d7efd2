import DebtMarket.Calendar.InstantReader
import DebtMarket.Proofs.Text.Digits
import DebtMarket.Proofs.Text.Trim

/-! Dates and instants are read back from their texts: years outside four digits by their sign,
leap seconds as second sixty, fractions of a second by the digits that are written.
-/

namespace DebtMarket

namespace Text

-----------------------------------------------------------------------------------------
-- Blanks in front
-----------------------------------------------------------------------------------------

/-- No blank is a digit. -/
theorem isBlank_of_isDigit {c : Char} (digit : c.isDigit = true) : isBlank c = false := by
  simp only [Char.isDigit, ge_iff_le, Bool.and_eq_true, decide_eq_true_eq,
    UInt32.le_iff_toNat_le] at digit
  have range : 48 ≤ c.toNat ∧ c.toNat ≤ 57 := digit
  simp only [isBlank, Bool.or_eq_false_iff, Bool.and_eq_false_iff, decide_eq_false_iff_not,
    beq_eq_false_iff_ne]
  omega

/-- Digits go on as they begin: there is no blank to take off. -/
theorem trimStart_paddedDigits (width n : Nat) (rest : List Char)
    : trimStart (paddedDigits width n ++ rest) = paddedDigits width n ++ rest := by
  have digit : ∀ c ∈ paddedDigits width n, c.isDigit = true :=
    fun _ => isDigit_of_mem_paddedDigits
  obtain ⟨c, more, first⟩ := List.exists_cons_of_ne_nil (paddedDigits_ne_nil width n)
  rw [first] at digit ⊢
  exact trimStart_cons (isBlank_of_isDigit (digit c List.mem_cons_self))

end Text

open Text

-----------------------------------------------------------------------------------------
-- Dates
-----------------------------------------------------------------------------------------

namespace Date

theorem takeMark_self {mark : Char} {rest : List Char} (filled : isBlank mark = false)
    : takeMark mark (mark :: rest) = some rest := by
  rw [takeMark, trimStart_cons filled]
  exact if_pos rfl

/-- A number below a hundred is read from its two digits, whatever follows them. -/
theorem takePair_paddedDigits {n : Nat} (small : n < 100) (rest : List Char)
    : takePair (paddedDigits 2 n ++ rest) = some (n, rest) := by
  have two : (paddedDigits 2 n).length = 2 := length_paddedDigits (by decide) small
  rw [takePair, trimStart_paddedDigits]
  exact takeNumber_paddedDigits two.le (.inl two)

/-- A year is read up to the hyphen behind it, by its sign or by its four digits. -/
theorem takeYear_yearChars (year : Int) (rest : List Char)
    : takeYear (yearChars year ++ '-' :: rest) = some (year, '-' :: rest) := by
  have stops : Stops ('-' :: rest) := stops_cons (by decide)
  have signed : takeNumber (paddedDigits 4 year.natAbs ++ '-' :: rest).length
      (paddedDigits 4 year.natAbs ++ '-' :: rest) = some (year.natAbs, '-' :: rest) :=
    takeNumber_paddedDigits (by simp) (.inr stops)
  rw [yearChars]
  split
  · next short =>
      have four : (paddedDigits 4 year.natAbs).length = 4 :=
        length_paddedDigits (by decide) (by omega)
      have read : takeNumber 4 (paddedDigits 4 year.natAbs ++ '-' :: rest)
          = some (year.natAbs, '-' :: rest) :=
        takeNumber_paddedDigits four.le (.inl four)
      have digit : ∀ c ∈ paddedDigits 4 year.natAbs, c.isDigit = true :=
        fun _ => isDigit_of_mem_paddedDigits
      rw [takeYear, trimStart_paddedDigits]
      obtain ⟨c, more, first⟩ := List.exists_cons_of_ne_nil (paddedDigits_ne_nil 4 year.natAbs)
      rw [first] at read digit ⊢
      have unsigned {mark : Char} (other : mark.isDigit = false) : c ≠ mark := by
        rintro rfl
        exact absurd (digit c List.mem_cons_self) (by simp [other])
      split
      · next same => exact absurd (List.cons.inj same).1 (unsigned (by decide))
      · next same => exact absurd (List.cons.inj same).1 (unsigned (by decide))
      · rw [read]
        have whole : (year.natAbs : Int) = year := Int.natAbs_of_nonneg short.1
        simp [whole]
  · next long =>
      split
      · next negative =>
          rw [takeYear, List.cons_append, trimStart_cons (by decide)]
          have whole : -(year.natAbs : Int) = year := by omega
          simp only [signed, Option.map_some, whole]
      · next positive =>
          rw [takeYear, List.cons_append, trimStart_cons (by decide)]
          have whole : (year.natAbs : Int) = year := by omega
          simp only [signed, Option.map_some, whole]

theorem make?_self (d : Date) : make? d.year d.month d.day = some d :=
  dif_pos ⟨d.year_mem, d.month_mem, d.day_mem⟩

theorem month_lt (d : Date) : d.month < 100 :=
  d.month_mem.2.trans_lt (by decide)

theorem day_lt (d : Date) : d.day < 100 := by
  have last := d.day_mem.2
  have longest : daysInMonth d.year d.month ≤ 31 := by
    unfold daysInMonth
    split
    · split <;> decide
    · decide
    · decide
    · decide
    · decide
    · decide
  omega

/-- A date is read off the front of a text that starts with it. -/
theorem take_chars (d : Date) (rest : List Char) : take (d.chars ++ rest) = some (d, rest) := by
  have hyphen : isBlank '-' = false := by decide
  simp [take, chars, takeYear_yearChars, takeMark_self hyphen,
    takePair_paddedDigits d.month_lt, takePair_paddedDigits d.day_lt, make?_self]

/-- Dates go through JSON as they are. -/
theorem decode_encode (d : Date) : (Json.decode (Json.encode d) : Option Date) = some d := by
  show read d.text = _
  have whole := take_chars d []
  rw [List.append_nil] at whole
  rw [read, text, String.toList_ofList, whole]
  rfl

end Date

-----------------------------------------------------------------------------------------
-- Instants
-----------------------------------------------------------------------------------------

namespace Instant

/-- The digits of a fraction stand for their number of the last place that they reach. -/
theorem nanoOfDigits_paddedDigits {width n : Nat} (positive : 0 < width) (few : width ≤ 9)
    (small : n < 10 ^ width)
    : nanoOfDigits (paddedDigits width n) = n * 10 ^ (9 - width) := by
  have length := length_paddedDigits positive small
  have counted : (paddedDigits width n).take 9 = paddedDigits width n :=
    List.take_of_length_le (length.trans_le few)
  rw [nanoOfDigits, counted, length, digitsValue_paddedDigits]
  rfl

/-- A fraction is read up to the first character that is no digit. -/
theorem takeFraction_paddedDigits {width n : Nat} {rest : List Char} (positive : 0 < width)
    (few : width ≤ 9) (small : n < 10 ^ width) (stops : Stops rest)
    : takeFraction ('.' :: (paddedDigits width n ++ rest))
      = some (n * 10 ^ (9 - width), rest) := by
  rw [takeFraction,
    takeDigits_append (fun _ => isDigit_of_mem_paddedDigits) (paddedDigits_ne_nil width n)
      (by simp) (.inr stops),
    Option.map_some]
  exact congrArg (fun nano => some (nano, rest)) (nanoOfDigits_paddedDigits positive few small)

/-- The fraction of a second is read from the fewest digits that are exact. -/
theorem takeFraction_fractionChars {nano : Nat} (small : nano < 1000000000)
    (rest : List Char)
    : takeFraction (fractionChars nano ++ 'Z' :: rest) = some (nano, 'Z' :: rest) := by
  have stops : Stops ('Z' :: rest) := stops_cons (by decide)
  unfold fractionChars
  split
  · next none => simp [takeFraction, none]
  · split
    · next milli =>
        rw [List.cons_append,
          takeFraction_paddedDigits (by decide) (by decide) (by omega) stops]
        show some (nano / 1000000 * 1000000, _) = _
        rw [Nat.div_mul_cancel (Nat.dvd_of_mod_eq_zero milli)]
    · split
      · next micro =>
          rw [List.cons_append,
            takeFraction_paddedDigits (by decide) (by decide) (by omega) stops]
          show some (nano / 1000 * 1000, _) = _
          rw [Nat.div_mul_cancel (Nat.dvd_of_mod_eq_zero micro)]
      · rw [List.cons_append,
          takeFraction_paddedDigits (by decide) (by decide) small stops]
        exact congrArg (fun nano => some (nano, _)) (Nat.mul_one nano)

/-- The text of the time of day. -/
def timeChars (t : Instant) : List Char :=
  paddedDigits 2 (t.second / 3600)
    ++ ':' :: paddedDigits 2 (t.second / 60 % 60)
    ++ ':' :: paddedDigits 2 (t.second % 60 + t.nano / 1000000000)
    ++ fractionChars (t.nano % 1000000000)

theorem localChars_eq (t : Instant) : t.localChars = t.date.chars ++ 'T' :: t.timeChars := by
  simp [localChars, timeChars]

/-- The time of day is read back; second sixty is the last second of its minute, gone on. -/
theorem takeTime_timeChars (t : Instant) (rest : List Char)
    : takeTime (t.timeChars ++ 'Z' :: rest) = some ((t.second, t.nano), 'Z' :: rest) := by
  have colon : isBlank ':' = false := by decide
  have second := t.second_lt
  have nano := t.nano_lt
  have leap := t.leap_mem
  have last : t.second % 60 + t.nano / 1000000000 ≤ 60 := by omega
  have fraction := takeFraction_fractionChars (Nat.mod_lt t.nano (show 0 < 1000000000 by decide))
    rest
  have hours : t.second / 3600 < 24 := by omega
  have minutes : t.second / 60 % 60 < 60 := by omega
  simp only [takeTime, timeChars, List.append_assoc, List.cons_append,
    Date.takePair_paddedDigits (show t.second / 3600 < 100 by omega),
    Date.takePair_paddedDigits (show t.second / 60 % 60 < 100 by omega),
    Date.takePair_paddedDigits (show t.second % 60 + t.nano / 1000000000 < 100 by omega),
    Date.takeMark_self colon, fraction, Option.bind_eq_bind, Option.bind_some, hours, minutes,
    last, decide_true, Bool.and_self, guard_true, Option.pure_def]
  split
  · next sixty =>
      congr 3
      · omega
      · omega
  · next other =>
      congr 3
      · omega
      · omega

theorem make?_self (t : Instant) : make? t.date t.second t.nano = some t :=
  dif_pos ⟨t.second_lt, t.nano_lt, t.leap_mem⟩

/-- Instants go through JSON as they are, leap seconds too. -/
theorem decode_encode (t : Instant)
    : (Json.decode (Json.encode t) : Option Instant) = some t := by
  show read t.wireText = _
  have utc : takeOffset (trimStart ['Z']) = some (0, []) := rfl
  have ended : trimStart [] = [] := rfl
  rw [read, wireText, String.toList_ofList, localChars_eq, List.append_assoc, Date.take_chars]
  simp [takeTime_timeChars, utc, ended, make?_self]

end Instant

end DebtMarket
