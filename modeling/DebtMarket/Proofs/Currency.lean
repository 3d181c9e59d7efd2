import Mathlib.Data.String.Basic
import DebtMarket.Proofs.Money

/-! Currency codes have one normal form. A text stands for a currency just if three ASCII letters
are left of it by trimming, and the currency is then told by these letters in capitals. No other
text comes near: whatever has a character outside ASCII is refused for it, however many bytes or
characters it has.
-/

namespace DebtMarket.Currency

open Json (decode)

-----------------------------------------------------------------------------------------
-- Letters
-----------------------------------------------------------------------------------------

/-- Three letters of ASCII, small or capital. -/
def ThreeLetters (s : String) : Prop :=
  s.toList.length = 3 ∧ ∀ letter ∈ s.toList, letter.isAlpha = true

/-- A letter of ASCII takes one byte. -/
theorem utf8Size_letter {letter : Char} (alpha : letter.isAlpha = true)
    : letter.utf8Size = 1 := by
  delta Char.isAlpha Char.isUpper Char.isLower at alpha
  simp only [ge_iff_le, Bool.or_eq_true, Bool.and_eq_true, decide_eq_true_eq,
    UInt32.le_iff_toNat_le] at alpha
  have range : letter.toNat ≤ 122 := by
    rcases alpha with ⟨-, most⟩ | ⟨-, most⟩
    · exact Nat.le_trans most (by decide)
    · exact most
  rw [Char.utf8Size_eq_one_iff, UInt32.le_iff_toNat_le]
  exact Nat.le_trans range (by decide)

/-- Letters of ASCII have as many bytes as characters, by induction on them. -/
theorem utf8Len_letters {cs : List Char} (alpha : ∀ letter ∈ cs, letter.isAlpha = true)
    : String.utf8Len cs = cs.length := by
  induction cs with
  | nil => rfl
  | cons letter rest ih =>
      obtain ⟨first, others⟩ := List.forall_mem_cons.1 alpha
      rw [String.utf8Len_cons, ih others, utf8Size_letter first, List.length_cons]

/-- Three letters are told by counting bytes as well: three bytes that are not three letters have
a character among them that is no letter.
-/
theorem threeLetters_iff_bytes {s : String}
    : ThreeLetters s
      ↔ s.utf8ByteSize = 3 ∧ ∀ letter ∈ s.toList, letter.isAlpha = true :=
  and_congr_left fun alpha => by
    rw [← utf8Len_letters alpha, ← String.utf8ByteSize_ofList, String.ofList_toList]

/-- No character but a letter of ASCII has a capital of ASCII, by cases on whether it is small. -/
theorem isUpper_toUpper {letter : Char}
    : letter.toUpper.isUpper = true ↔ letter.isAlpha = true := by
  delta Char.toUpper Char.isAlpha Char.isUpper Char.isLower
  split <;> grind [UInt32.toNat_add, Char.toNat_val]

/-- In capitals a text is a code just if it is three letters. -/
theorem isCurrencyCode_raised {s : String}
    : isCurrencyCode (Text.raised s) = true ↔ ThreeLetters s := by
  simp only [isCurrencyCode, Text.raised, ThreeLetters, String.toList_ofList, List.length_map,
    Bool.and_eq_true, beq_iff_eq, List.all_eq_true, List.forall_mem_map, isUpper_toUpper]

-----------------------------------------------------------------------------------------
-- Normal form
-----------------------------------------------------------------------------------------

variable {s : String} {c : Currency} {e : MarketError}

theorem make_eq_ok_iff
    : make s = .ok c
      ↔ ThreeLetters (Text.trimString s) ∧ c.code = Text.raised (Text.trimString s) := by
  rw [make_eq_ok, Spelled]
  constructor
  · intro same
    exact ⟨isCurrencyCode_raised.1 (same ▸ c.isCode), same.symm⟩
  · rintro ⟨-, same⟩
    exact same.symm

theorem exists_make : (∃ c, make s = .ok c) ↔ ThreeLetters (Text.trimString s) := by
  constructor
  · rintro ⟨c, made⟩
    exact (make_eq_ok_iff.1 made).1
  · intro letters
    exact ⟨⟨_, isCurrencyCode_raised.2 letters⟩, make_eq_ok_iff.2 ⟨letters, rfl⟩⟩

/-- A text that is refused is reported trimmed. -/
theorem make_eq_error
    : make s = .error e
      ↔ ¬ ThreeLetters (Text.trimString s) ∧ e = .invalidCurrency (Text.trimString s) := by
  rw [← isCurrencyCode_raised, make]
  split
  · next code => simp [code]
  · next refused => simp [refused, eq_comm]

/-- A currency is made of its own code. -/
theorem make_code (c : Currency) : make c.code = .ok c :=
  make_eq_ok.2 c.spelled_code

/-- Two texts stand for one currency just if the one stands for a currency and the other agrees
with it, blanks at the ends and the case of letters aside.
-/
theorem make_alike {s' : String}
    : (∃ c, make s = .ok c ∧ make s' = .ok c)
      ↔ (∃ c, make s = .ok c)
        ∧ Text.raised (Text.trimString s) = Text.raised (Text.trimString s') := by
  simp only [make_eq_ok, Spelled]
  constructor
  · rintro ⟨c, first, second⟩
    exact ⟨⟨c, first⟩, first.trans second.symm⟩
  · rintro ⟨⟨c, first⟩, alike⟩
    exact ⟨c, first, alike.symm.trans first⟩

/-- Of a text there is one part left by trimming. If it is three letters, then a currency is made
of their capitals, and the same currency of these capitals again; if not, then the text is
refused, and that part of it reported. So two texts stand for one currency just if they agree up
to blanks and case. Read as text or as JSON, the same strings are taken for the same currencies.
-/
theorem normal_form (s s' : String)
    : ∃ t t' : String,
      (∀ inner, Text.TrimsTo s.toList inner ↔ t.toList = inner)
      ∧ (∀ inner, Text.TrimsTo s'.toList inner ↔ t'.toList = inner)
      ∧ (ThreeLetters t
        ↔ t.utf8ByteSize = 3 ∧ ∀ letter ∈ t.toList, letter.isAlpha = true)
      ∧ ((∃ c, make s = .ok c) ↔ ThreeLetters t)
      ∧ (∀ c, make s = .ok c ↔ ThreeLetters t ∧ c.code = Text.raised t)
      ∧ (∀ e, make s = .error e ↔ ¬ ThreeLetters t ∧ e = .invalidCurrency t)
      ∧ (∀ c : Currency, make c.code = .ok c)
      ∧ ((∃ c, make s = .ok c ∧ make s' = .ok c)
        ↔ (∃ c, make s = .ok c) ∧ Text.raised t = Text.raised t')
      ∧ read s = make s
      ∧ ∀ (j : Json) (c : Currency),
        decode j = some c ↔ ∃ text, j = .str text ∧ make text = .ok c := by
  refine ⟨Text.trimString s, Text.trimString s', fun inner => ?_, fun inner => ?_,
    threeLetters_iff_bytes, exists_make, fun c => make_eq_ok_iff, fun e => make_eq_error,
    make_code, make_alike, rfl, fun j c => ?_⟩
  · rw [Text.trimsTo_iff, Text.trimString, String.toList_ofList]
  · rw [Text.trimsTo_iff, Text.trimString, String.toList_ofList]
  · simp only [decode_eq_some, make_eq_ok]

end DebtMarket.Currency
