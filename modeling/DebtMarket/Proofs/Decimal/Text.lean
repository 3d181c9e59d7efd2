import DebtMarket.Money
import DebtMarket.Proofs.Text.Digits

/-! The text of a decimal is read back as the decimal, with its sign and its scale. Only a zero
loses its sign, which no comparison sees.
-/

namespace DebtMarket.Decimal

open Text

-----------------------------------------------------------------------------------------
-- The sign of zero
-----------------------------------------------------------------------------------------

/-- The decimal without a sign if it is zero. -/
def settled (d : Decimal) : Decimal :=
  { d with negative := d.negative && d.magnitude != 0 }

theorem settled_value (d : Decimal) : d.settled.value = d.value := by
  by_cases zero : d.magnitude = 0
  · simp [settled, value, zero]
  · simp [settled, value, zero]

/-- A decimal that is no zero with a sign is as it is. -/
theorem settled_eq {d : Decimal} (plain : d.magnitude ≠ 0 ∨ d.negative = false)
    : d.settled = d := by
  cases d with
  | mk negative magnitude scale fits places =>
      rw [settled]
      rcases plain with nonzero | unsigned
      · have nonzero : magnitude ≠ 0 := nonzero
        simp [nonzero]
      · have unsigned : negative = false := unsigned
        simp [unsigned]

theorem settled_of_positive {d : Decimal} (positive : d.isPositive = true)
    : d.settled = d :=
  settled_eq (.inr (by simpa using (Bool.and_eq_true_iff.1 positive).1))

theorem make?_settled (d : Decimal)
    : make? d.negative d.magnitude d.scale = some d.settled :=
  dif_pos ⟨d.magnitude_lt, d.scale_le⟩

-----------------------------------------------------------------------------------------
-- Figures and fractions
-----------------------------------------------------------------------------------------

/-- The text of a magnitude is its figures and, behind a point, as many digits as it has places.
-/
theorem magnitudeText_split (magnitude scale : Nat)
    : ∃ figures fraction,
        magnitudeText magnitude scale
          = figures ++ (if scale = 0 then [] else ['.']) ++ fraction
        ∧ figures ≠ [] ∧ (∀ c ∈ figures, c.isDigit = true)
        ∧ fraction.length = scale ∧ (∀ c ∈ fraction, c.isDigit = true)
        ∧ digitsValue figures * 10 ^ scale + digitsValue fraction = magnitude := by
  by_cases whole : scale = 0
  · refine ⟨digits magnitude, [], ?_, digits_ne_nil magnitude, fun _ => isDigit_of_mem_digits,
      whole.symm, fun _ => nofun, ?_⟩
    · rw [magnitudeText, if_pos whole, if_pos whole, List.append_nil, List.append_nil]
    · rw [whole, digitsValue_digits, pow_zero, Nat.mul_one]
      rfl
  · have long := le_length_paddedDigits (scale + 1) magnitude
    have value := digitsValue_paddedDigits (scale + 1) magnitude
    have digit : ∀ c ∈ paddedDigits (scale + 1) magnitude, c.isDigit = true :=
      fun _ => isDigit_of_mem_paddedDigits
    have text : magnitudeText magnitude scale
        = (paddedDigits (scale + 1) magnitude).take
            ((paddedDigits (scale + 1) magnitude).length - scale)
          ++ '.' :: (paddedDigits (scale + 1) magnitude).drop
            ((paddedDigits (scale + 1) magnitude).length - scale) := by
      rw [magnitudeText, if_neg whole]
    generalize paddedDigits (scale + 1) magnitude = ds at long value digit text
    have places : (ds.drop (ds.length - scale)).length = scale := by
      rw [List.length_drop]
      omega
    refine ⟨ds.take (ds.length - scale), ds.drop (ds.length - scale), ?_, ?_,
      fun c member => digit c (List.mem_of_mem_take member), places,
      fun c member => digit c (List.mem_of_mem_drop member), ?_⟩
    · rw [text, if_neg whole, List.append_assoc, List.singleton_append]
    · refine List.ne_nil_of_length_pos ?_
      rw [List.length_take]
      omega
    · have joined := digitsValue_append (ds.take (ds.length - scale))
        (ds.drop (ds.length - scale))
      rw [places, List.take_append_drop, value] at joined
      exact joined.symm

/-- Digits that fit are taken to the last, by induction on them. -/
theorem takeFraction_digits {fraction : List Char} {magnitude scale : Nat}
    (run : ∀ c ∈ fraction, c.isDigit = true) (places : scale + fraction.length ≤ maxScale)
    (fits : magnitude * 10 ^ fraction.length + digitsValue fraction < bound)
    : takeFraction magnitude scale fraction
      = some (magnitude * 10 ^ fraction.length + digitsValue fraction,
          scale + fraction.length) := by
  induction fraction generalizing magnitude scale with
  | nil => simp [takeFraction, digitsValue]
  | cons c rest ih =>
      have digit := run c List.mem_cons_self
      have mark : c ≠ '_' := by
        rintro rfl
        exact absurd digit (by decide)
      have grown : magnitude * 10 ^ (c :: rest).length + digitsValue (c :: rest)
          = (10 * magnitude + digitValue c) * 10 ^ rest.length + digitsValue rest := by
        rw [← List.singleton_append, digitsValue_append, digitsValue_singleton,
          List.length_append, List.length_singleton, pow_add]
        ring
      have enough := Nat.le_mul_of_pos_right (10 * magnitude + digitValue c)
        (Nat.pow_pos (n := rest.length) (show 0 < 10 by decide))
      rw [List.length_cons] at places
      rw [grown] at fits ⊢
      rw [takeFraction, if_neg mark, if_pos ⟨by omega, by omega⟩,
        ih (fun c member => run c (List.mem_cons_of_mem _ member)) (by omega) fits,
        List.length_cons, Nat.add_right_comm, Nat.add_assoc]

-----------------------------------------------------------------------------------------
-- Whole numbers
-----------------------------------------------------------------------------------------

variable {figures fraction point : List Char}

/-- A digit in front of a number leaves it without a sign. -/
theorem takeSign_digits {rest : List Char} (run : ∀ c ∈ figures, c.isDigit = true)
    (present : figures ≠ [])
    : takeSign (figures ++ rest) = (false, figures ++ rest) := by
  cases figures with
  | nil => exact absurd rfl present
  | cons c more =>
      have digit := run c List.mem_cons_self
      have signless {mark : Char} (other : mark.isDigit = false) : c ≠ mark := by
        rintro rfl
        exact absurd digit (by simp [other])
      rw [List.cons_append, takeSign]
      · exact fun _ same => signless (by decide) (List.cons.inj same).1
      · exact fun _ same => signless (by decide) (List.cons.inj same).1

/-- Figures, a point if there is one, and more digits make a number. -/
theorem wellFormed_digits (run : ∀ c ∈ figures, c.isDigit = true) (present : figures ≠ [])
    (pointed : point = [] ∨ point = ['.']) (places : ∀ c ∈ fraction, c.isDigit = true)
    : wellFormed (figures ++ point ++ fraction) = true := by
  have plain {ds : List Char} (digits : ∀ c ∈ ds, c.isDigit = true) : ds.count '.' = 0 :=
    List.count_eq_zero.2 fun member => absurd (digits _ member) (by decide)
  obtain ⟨c, more, rfl⟩ := List.exists_cons_of_ne_nil present
  have digit := run c List.mem_cons_self
  have points : point.count '.' ≤ 1 := by
    rcases pointed with rfl | rfl <;> decide
  have legal : ∀ c' ∈ c :: more ++ point ++ fraction,
      c'.isDigit = true ∨ c' = '.' := by
    intro c' member
    rw [List.mem_append, List.mem_append] at member
    rcases member with (figure | mark) | place
    · exact .inl (run c' figure)
    · rcases pointed with rfl | rfl
      · cases mark
      · exact .inr (List.mem_singleton.1 mark)
    · exact .inl (places c' place)
  simp only [wellFormed, Bool.and_eq_true, decide_eq_true_eq]
  refine ⟨⟨⟨?_, ?_⟩, ?_⟩, ?_⟩
  · simp [digit]
  · refine List.all_eq_true.2 fun c' member => ?_
    rcases legal c' member with figure | mark
    · simp [figure]
    · simp [mark]
  · rw [List.count_append, List.count_append, plain run, plain places]
    omega
  · simp [digit]

/-- Figures and a fraction that fit are read as the number that they stand for. -/
theorem readPlain_digits {cs : List Char} {negative : Bool}
    (signed : takeSign cs = (negative, figures ++ point ++ fraction))
    (run : ∀ c ∈ figures, c.isDigit = true) (present : figures ≠ [])
    (pointed : point = [] ∧ fraction = [] ∨ point = ['.'])
    (places : ∀ c ∈ fraction, c.isDigit = true) (few : fraction.length ≤ maxScale)
    (fits : digitsValue figures * 10 ^ fraction.length + digitsValue fraction < bound)
    : readPlain cs
      = make? negative (digitsValue figures * 10 ^ fraction.length + digitsValue fraction)
          fraction.length := by
  have formed := wellFormed_digits run present (pointed.imp_left And.left) places
  have figure {c : Char} (member : c ∈ figures) : c ≠ '.' ∧ c ≠ '_' := by
    constructor
    · rintro rfl
      exact absurd (run _ member) (by decide)
    · rintro rfl
      exact absurd (run _ member) (by decide)
  have whole : (figures ++ point ++ fraction).takeWhile (· != '.') = figures := by
    rw [List.append_assoc, List.takeWhile_append_of_pos fun c member => by
      simpa using (figure member).1]
    rcases pointed with ⟨rfl, rfl⟩ | rfl
    · simp
    · simp
  have counted : figures.filter (· != '_') = figures :=
    List.filter_eq_self.2 fun c member => by simpa using (figure member).2
  have behind : (figures ++ point ++ fraction).drop (figures.length + 1) = fraction := by
    rw [List.append_assoc, List.drop_append, List.drop_of_length_le (by omega)]
    rcases pointed with ⟨rfl, rfl⟩ | rfl
    · simp
    · simp
  have small : digitsValue figures < bound := by
    have enough := Nat.le_mul_of_pos_right (digitsValue figures)
      (Nat.pow_pos (n := fraction.length) (show 0 < 10 by decide))
    omega
  have taken := takeFraction_digits places (by rwa [Nat.zero_add]) fits
  generalize figures ++ point ++ fraction = body at signed formed whole behind
  simp [readPlain, signed, formed, whole, counted, behind, small, taken]

-----------------------------------------------------------------------------------------
-- Texts of decimals
-----------------------------------------------------------------------------------------

/-- The text of a decimal is read as the decimal, where a zero has no sign. -/
theorem readPlain_chars (d : Decimal) : readPlain d.chars = some d.settled := by
  obtain ⟨figures, fraction, text, present, run, places, digit, value⟩ :=
    magnitudeText_split d.magnitude d.scale
  have signed : takeSign d.chars = (d.negative, magnitudeText d.magnitude d.scale) := by
    cases sign : d.negative with
    | true => simp [chars, sign, takeSign]
    | false =>
        rw [chars, sign, if_neg Bool.false_ne_true, text, List.append_assoc]
        exact takeSign_digits run present
  have pointed : (if d.scale = 0 then [] else ['.']) = [] ∧ fraction = []
      ∨ (if d.scale = 0 then [] else ['.']) = ['.'] := by
    by_cases whole : d.scale = 0
    · exact .inl ⟨if_pos whole, List.eq_nil_of_length_eq_zero (places.trans whole)⟩
    · exact .inr (if_neg whole)
  rw [text] at signed
  rw [← places] at value
  have few : fraction.length ≤ maxScale := places.trans_le d.scale_le
  have fits := value.trans_lt d.magnitude_lt
  rw [readPlain_digits signed run present pointed digit few fits, value, places,
    make?_settled]

/-- Decimals go through JSON with sign and scale; a zero loses its sign. -/
theorem decode_encode (d : Decimal)
    : (Json.decode (Json.encode d) : Option Decimal) = some d.settled := by
  show read d.text.toList = _
  rw [text, String.toList_ofList, read, readPlain_chars]
  rfl

end DebtMarket.Decimal
