import DebtMarket.Proofs.Decimal.Text
import DebtMarket.Proofs.Record
import DebtMarket.Proofs.Text.Trim

/-! Money in JSON. An amount is read just from a decimal above zero, and a currency just from a
text that spells it; neither is ever mended into one that the text does not stand for.
-/

namespace DebtMarket

open Json (encode decode)

theorem toOption_eq_some {ε α : Type} {x : Except ε α} {a : α}
    : x.toOption = some a ↔ x = .ok a := by
  cases x with
  | error e => simp [Except.toOption]
  | ok a => simp [Except.toOption]

namespace Amount

/-- An amount is read from the JSON of its decimal, and from nothing else. -/
theorem decode_eq_some {j : Json} {a : Amount}
    : decode j = some a ↔ decode j = some a.decimal := by
  have amount : (decode j : Option Amount)
      = (decode j).bind fun d : Decimal => (make d).toOption := rfl
  rw [amount, Option.bind_eq_some_iff]
  constructor
  · rintro ⟨d, read, made⟩
    rw [toOption_eq_some, make_eq_ok] at made
    rw [made, read]
  · intro read
    exact ⟨a.decimal, read, by rw [toOption_eq_some, make_eq_ok]⟩

theorem decode_encode (a : Amount) : decode (encode a) = some a := by
  have read := Decimal.decode_encode a.decimal
  rw [Decimal.settled_of_positive a.positive] at read
  exact decode_eq_some.2 read

end Amount

namespace Currency

/-- Whether a text is the code of a currency, up to blanks around it and the case of letters. -/
def Spelled (s : String) (c : Currency) : Prop :=
  Text.raised (Text.trimString s) = c.code

theorem make_eq_ok {s : String} {c : Currency} : make s = .ok c ↔ Spelled s c := by
  unfold make Spelled
  dsimp only
  split
  · next code =>
      rw [Except.ok.injEq]
      constructor
      · rintro rfl
        rfl
      · intro same
        obtain ⟨spelled, isCode⟩ := c
        obtain rfl : _ = spelled := same
        rfl
  · next refused =>
      constructor
      · intro made
        cases made
      · intro same
        exact absurd (same ▸ c.isCode) refused

/-- A currency is read from the texts that spell it, and from nothing else. -/
theorem decode_eq_some {j : Json} {c : Currency}
    : decode j = some c ↔ ∃ s, j = .str s ∧ Spelled s c := by
  cases j with
  | str s =>
      have read : (decode (.str s) : Option Currency) = (make s).toOption := rfl
      rw [read, toOption_eq_some, make_eq_ok]
      simp
  | _ =>
      constructor
      · intro read
        cases read
      · rintro ⟨s, same, -⟩
        cases same

/-- The code of a currency is three capitals. -/
theorem code_capitals (c : Currency)
    : c.code.toList.length = 3 ∧ ∀ letter ∈ c.code.toList, letter.isUpper = true := by
  have isCode := c.isCode
  simp only [isCurrencyCode, Bool.and_eq_true, beq_iff_eq, List.all_eq_true] at isCode
  exact isCode

/-- A capital is neither blank nor made another letter. -/
theorem capital {letter : Char} (upper : letter.isUpper = true)
    : Text.isBlank letter = false ∧ letter.toUpper = letter := by
  have bounds : 65 ≤ letter.val ∧ letter.val ≤ 90 := of_decide_eq_true upper
  have range : 65 ≤ letter.toNat ∧ letter.toNat ≤ 90 :=
    bounds.imp UInt32.le_iff_toNat_le.1 UInt32.le_iff_toNat_le.1
  constructor
  · simp only [Text.isBlank, Bool.or_eq_false_iff, Bool.and_eq_false_iff,
      decide_eq_false_iff_not, beq_eq_false_iff_ne]
    omega
  · refine dif_neg ?_
    rintro ⟨least, -⟩
    have above : 97 ≤ letter.toNat := UInt32.le_iff_toNat_le.1 least
    omega

/-- A currency is spelled by its code. -/
theorem spelled_code (c : Currency) : Spelled c.code c := by
  have capitals := c.code_capitals.2
  have trimmed : Text.trimString c.code = c.code := by
    rw [Text.trimString,
      Text.trim_eq_self fun letter member => (capital (capitals letter member)).1,
      String.ofList_toList]
  rw [Spelled, trimmed, Text.raised,
    List.map_congr_left fun letter member => (capital (capitals letter member)).2,
    List.map_id', String.ofList_toList]

theorem decode_encode (c : Currency) : decode (encode c) = some c :=
  decode_eq_some.2 ⟨c.code, rfl, c.spelled_code⟩

end Currency

end DebtMarket
